import SingboxOperator.Controller.Pod
import SingboxOperator.Controller.UserStatus
import SingboxOperator.Lib.Reconcile
/-!
# The NodeReady condition at rest

`SingBoxNodeReconciler` mirrors the health of the Kubernetes Node a SingBoxNode
is bound to. `updateNodeReadyStatus` fetches the host and then the SingBoxNode
once more, and writes the condition; `Reconcile` only logs it when that fails. The
watch of Nodes comes with a predicate of the project's own that is meant to
let only changes of readiness pass, and lets every update pass. So as long
as the host can be read and the condition written, the condition of a node
that neither waits nor is being reconciled is that of its host as it is.
-/
open SingboxOperator.Lib

namespace SingboxOperator

/-! ## Hosts -/

/-- A Kubernetes Node. -/
structure KubeNode where
  name : String
  annotations : Labels := ∅
  conditions : List Condition := []
  name_ne : name ≠ ""

def offlineAnnotation : String := "singboxoperator.shlande.top/offline"

def isNodeReady (node : KubeNode) : Bool :=
  match node.conditions.find? fun c => c.type = "Ready" with
  | some c => c.status = "True"
  | none => false

def isNodeOfflineAnnotated (node : KubeNode) : Bool := node.annotations.get offlineAnnotation "" = "true"

def isNodeAvailable (node : KubeNode) : Bool := isNodeReady node && !isNodeOfflineAnnotated node

def getNodeReadyStatus (node : KubeNode) : String :=
  match node.conditions.find? fun c => c.type = "Ready" with
  | some c => c.status
  | none => "Unknown"

/-! ## The watch of hosts -/

/-- `predicate.Funcs`: a method for which no function is set lets everything pass. -/
structure PredicateFuncs (α : Type) where
  updateFunc : Option (α → α → Bool) := none

def PredicateFuncs.update {α : Type} (p : PredicateFuncs α) (old new : α) : Bool :=
  match p.updateFunc with
  | some f => f old new
  | none => true

/-- It embeds `predicate.Funcs`, whose `Update` calls the function set there. -/
structure NodeReadyConditionChangedPredicate where
  funcs : PredicateFuncs KubeNode := {}

namespace NodeReadyConditionChangedPredicate

/-- A method with the name of the field of `predicate.Funcs`; nothing calls it. -/
def updateFunc (_ : NodeReadyConditionChangedPredicate) (old new : KubeNode) : Bool :=
  getNodeReadyStatus old ≠ getNodeReadyStatus new

/-- The method of the embedded `predicate.Funcs`. -/
def update (p : NodeReadyConditionChangedPredicate) (old new : KubeNode) : Bool := p.funcs.update old new

end NodeReadyConditionChangedPredicate

def annotationChanged (old new : KubeNode) : Bool := old.annotations ≠ new.annotations

/-- The disjunction `SetupWithManager` puts on the watch of Nodes. -/
def hostPredicate : Change KubeNode → Bool
  | .update old new => ({} : NodeReadyConditionChangedPredicate).update old new || annotationChanged old new
  | _ => true

/-- No update of a host is filtered out, whether or not its readiness has changed. -/
theorem hostPredicate_eq_true (ch : Change KubeNode) : hostPredicate ch = true := by
  cases ch <;> rfl

/-- The field index has no entry for a node without a host. -/
def nodeToSingBoxNodesMapper (nodes : List HostedNode) (host : KubeNode) : List String :=
  (nodes.filter fun n => n.nodeRef ≠ "" && n.nodeRef = host.name).map fun n => n.name

def hostRequests (nodes : List HostedNode) (ch : Change KubeNode) : List String :=
  enqueueRequestsFromMapFunc (hostPredicate ch) (nodeToSingBoxNodesMapper nodes) ch

/-! ## The condition -/

/-- The condition for what fetching the host gives; any error counts as a host that is not there. -/
def nodeReadyCondition (nodeRef : String) : Option KubeNode → StatusCondition
  | none =>
    { type := "NodeReady", status := "False", reason := "NodeNotFound",
      message := "Kubernetes Node " ++ quote nodeRef ++ " not found" }
  | some host =>
    if !isNodeAvailable host then
      if isNodeOfflineAnnotated host then
        { type := "NodeReady", status := "False", reason := "NodeOffline",
          message := "Kubernetes Node " ++ quote nodeRef ++ " is manually taken offline" }
      else
        { type := "NodeReady", status := "False", reason := "NodeNotReady",
          message := "Kubernetes Node " ++ quote nodeRef ++ " is not ready" }
    else
      { type := "NodeReady", status := "True", reason := "NodeReady",
        message := "Kubernetes Node " ++ quote nodeRef ++ " is ready" }

theorem nodeReadyCondition_type (nodeRef : String) (host : Option KubeNode) :
    (nodeReadyCondition nodeRef host).type = "NodeReady" := by
  cases host with
  | none => rfl
  | some host =>
    simp only [nodeReadyCondition]
    split
    · split <;> rfl
    · rfl

theorem nodeReadyCondition_status {nodeRef : String} {host : Option KubeNode} :
    (nodeReadyCondition nodeRef host).status = "True" ↔ ∃ h, host = some h ∧ isNodeAvailable h = true := by
  cases host with
  | none => simp [nodeReadyCondition]
  | some host =>
    unfold nodeReadyCondition
    cases ha : isNodeAvailable host with
    | true => simp [ha]
    | false => by_cases ho : isNodeOfflineAnnotated host = true <;> simp [ha, ho]

/-! ## The controller -/

/-- The SingBoxNodes of a namespace with the records of their status, and the hosts. -/
structure HealthWorld where
  nodes : List HostedNode
  nodes_nodup : (nodes.map fun n => n.name).Nodup
  hosts : List KubeNode
  record : String → StatusRecord

/-- Where `Reconcile` is: it has fetched the node, or the host as well, or it
has come past `updateNodeReadyStatus`, or is on its way out. -/
inductive HealthPoint
  | fetched (node : HostedNode)
  | hostRead (nodeRef : String) (host : Option KubeNode)
  | rest

namespace HealthWorld

def host (w : HealthWorld) (nodeRef : String) : Option KubeNode := w.hosts.find? fun h => h.name = nodeRef

/-- The finalizer of the nodes called `name` is added or removed. -/
def setFinalizer (w : HealthWorld) (name : String) (finalizer : Bool) : HealthWorld :=
  { w with
    nodes := w.nodes.map fun n => if n.name = name then { n with finalizer := finalizer } else n
    nodes_nodup := by
      have hname : ((fun n : HostedNode => n.name) ∘
          fun n : HostedNode => if n.name = name then { n with finalizer := finalizer } else n) = fun n => n.name := by
        funext n
        by_cases h : n.name = name <;> simp [h]
      rw [List.map_map, hname]
      exact w.nodes_nodup }

/-- A condition is set on the node as it is fetched again. -/
def setCondition (w : HealthWorld) (now : Int) (name : String) (cond : StatusCondition) : HealthWorld :=
  let r := w.record name
  let conditions := setStatusCondition now r.generation cond r.conditions
  { w with record := Function.update w.record name { r with conditions := conditions } }

/-- An Update that leaves the object identical emits no event. -/
def statusRequests (w : HealthWorld) (now : Int) (name : String) (cond : StatusCondition) : List String :=
  if (w.setCondition now name cond).record name = w.record name then [] else [name]

/-- The condition is that of the host as it is. A node that is being deleted is only released. -/
def Current (w : HealthWorld) (n : HostedNode) : Prop :=
  n.deleting = false →
    IsSet (w.record n.name).generation (nodeReadyCondition n.nodeRef (w.host n.nodeRef)) (w.record n.name).conditions

end HealthWorld

abbrev HealthController := Controller HealthWorld String HealthPoint

inductive HealthTransition
  | changeNode (ch : Change HostedNode)
  | changeHost (ch : Change KubeNode)
  | resync (node : String)
  | gone (node : String)
  | get (node : String)
  | handleDeletion (node : String)
  | addFinalizer (node : String)
  | getHost (node : String)
  | hostUnreadable (node : String)
  | updateNodeReadyStatus (node : String) (now : Int)
  | statusNotUpdated (node : String)
  | setOtherCondition (node : String) (now : Int)
  | finish (node : String)
  | fail (node : String)

/-- The transitions, in any order. `resync` stands for the watches that are left
out here, and `setOtherCondition` for what the rest of `Reconcile` writes to the
status. `hostUnreadable` and `statusNotUpdated` are the failures that are not
returned. -/
inductive HealthController.Step (s : HealthController) : HealthTransition → HealthController → Prop
  | changeNode {ch : Change HostedNode} {nodes : List HostedNode} {record : String → StatusRecord}
      (hnodup : (nodes.map fun n => n.name).Nodup) (h : ch.Applies (fun n => n.name) s.world.nodes nodes)
      (hrecord : ∀ name, ch.object.name ≠ name → record name = s.world.record name) :
      Step s (.changeNode ch)
        { s with
          world := { s.world with nodes := nodes, nodes_nodup := hnodup, record := record }
          queue := s.queue ∪ [ch.object.name] }
  | changeHost {ch : Change KubeNode} {hosts : List KubeNode}
      (h : ch.Applies KubeNode.name s.world.hosts hosts) :
      Step s (.changeHost ch)
        { s with world := { s.world with hosts := hosts }, queue := s.queue ∪ hostRequests s.world.nodes ch }
  | resync {node : String} : Step s (.resync node) { s with queue := s.queue ∪ [node] }
  | gone {node : String} (hidle : s.work node = none) (hq : node ∈ s.queue)
      (hgone : ∀ n ∈ s.world.nodes, n.name ≠ node) :
      Step s (.gone node) { s with queue := s.queue.filter (· ≠ node) }
  | get {n : HostedNode} (hidle : s.work n.name = none) (hq : n.name ∈ s.queue) (hn : n ∈ s.world.nodes) :
      Step s (.get n.name)
        { s with
          queue := s.queue.filter (· ≠ n.name)
          work := Function.update s.work n.name (some (.fetched n)) }
  | handleDeletion {n : HostedNode} (hw : s.work n.name = some (.fetched n)) (hdel : n.deleting = true)
      (hn : n ∈ s.world.nodes) :
      Step s (.handleDeletion n.name)
        { world := s.world.setFinalizer n.name false
          queue := s.queue ∪ (if n.finalizer then [n.name] else [])
          work := Function.update s.work n.name (some .rest) }
  | addFinalizer {n : HostedNode} (hw : s.work n.name = some (.fetched n)) (hdel : n.deleting = false)
      (hfin : n.finalizer = false) (hn : n ∈ s.world.nodes) :
      Step s (.addFinalizer n.name)
        { world := s.world.setFinalizer n.name true
          queue := s.queue ∪ [n.name]
          work := Function.update s.work n.name (some .rest) }
  | getHost {node : String} {n : HostedNode} (hw : s.work node = some (.fetched n)) (hdel : n.deleting = false)
      (hfin : n.finalizer = true) :
      Step s (.getHost node)
        { s with work := Function.update s.work node (some (.hostRead n.nodeRef (s.world.host n.nodeRef))) }
  | hostUnreadable {node : String} {n : HostedNode} (hw : s.work node = some (.fetched n)) (hdel : n.deleting = false)
      (hfin : n.finalizer = true) :
      Step s (.hostUnreadable node) { s with work := Function.update s.work node (some (.hostRead n.nodeRef none)) }
  | updateNodeReadyStatus {n : HostedNode} {nodeRef : String} {host : Option KubeNode} {now : Int}
      (hw : s.work n.name = some (.hostRead nodeRef host)) (hn : n ∈ s.world.nodes) :
      Step s (.updateNodeReadyStatus n.name now)
        { world := s.world.setCondition now n.name (nodeReadyCondition nodeRef host)
          queue := s.queue ∪ s.world.statusRequests now n.name (nodeReadyCondition nodeRef host)
          work := Function.update s.work n.name (some .rest) }
  | statusNotUpdated {node nodeRef : String} {host : Option KubeNode}
      (hw : s.work node = some (.hostRead nodeRef host)) :
      Step s (.statusNotUpdated node) { s with work := Function.update s.work node (some .rest) }
  | setOtherCondition {n : HostedNode} {cond : StatusCondition} {now : Int} (hw : s.work n.name = some .rest)
      (hn : n ∈ s.world.nodes) (hcond : cond.type = "Ready" ∨ cond.type = "Degraded") :
      Step s (.setOtherCondition n.name now)
        { world := s.world.setCondition now n.name cond
          queue := s.queue ∪ s.world.statusRequests now n.name cond
          work := Function.update s.work n.name (some .rest) }
  | finish {node : String} (hw : s.work node = some .rest) :
      Step s (.finish node) { s with work := Function.update s.work node none }
  | fail {node : String} {r : HealthPoint} (hw : s.work node = some r) :
      Step s (.fail node) { s with queue := s.queue ∪ [node], work := Function.update s.work node none }

abbrev HealthTrace := List (HealthController × HealthTransition × HealthController)

/-- The operator has just been started: every SingBoxNode is enqueued. -/
abbrev HealthController.Started (s : HealthController) : Prop :=
  Controller.Started HealthWorld.nodes (fun n => n.name) s

/-- `updateNodeReadyStatus` can read the host, and its write does not fail. -/
def StatusWritten (_ : HealthController) (a : HealthTransition) : Prop :=
  (∀ node, a ≠ .hostUnreadable node) ∧ ∀ node, a ≠ .statusNotUpdated node

/-! ## The controller keeps its aim -/

/-- What a run for the node has fetched is as it is now. -/
def HealthWorld.Agrees (w : HealthWorld) (n : HostedNode) : HealthPoint → Prop
  | .fetched q => q.nodeRef = n.nodeRef ∧ q.deleting = n.deleting
  | .hostRead nodeRef host => nodeRef = n.nodeRef ∧ host = w.host n.nodeRef
  | .rest => w.Current n

def healthAim : Aim HealthWorld String HealthPoint :=
  Aim.forEach HealthWorld.nodes (fun n => n.name) HealthWorld.Current HealthWorld.Agrees

namespace HealthWorld
variable {w w' : HealthWorld} {n n' : HostedNode} {name : String} {now : Int} {cond : StatusCondition}

theorem node_unique (hn : n ∈ w.nodes) (hn' : n' ∈ w.nodes) (h : n.name = n'.name) : n = n' :=
  List.inj_on_of_nodup_map w.nodes_nodup hn hn' h

/-- The node was there before, up to its finalizer, and what its runs fetch is the same. -/
structure Unchanged (w w' : HealthWorld) (n : HostedNode) : Prop where
  mem : ∃ n₀ ∈ w.nodes, n₀.name = n.name ∧ n₀.nodeRef = n.nodeRef ∧ n₀.deleting = n.deleting
  record : w'.record n.name = w.record n.name
  host : w'.host n.nodeRef = w.host n.nodeRef

theorem Current.of_eq (h : w.Current n') (hname : n'.name = n.name) (href : n'.nodeRef = n.nodeRef)
    (hdel : n'.deleting = n.deleting) (hrecord : w'.record n.name = w.record n.name)
    (hhost : w'.host n.nodeRef = w.host n.nodeRef) : w'.Current n := by
  intro hd
  rw [hrecord, hhost, ← hname, ← href]
  exact h (hdel.trans hd)

theorem keeps_of_unchanged (h : ∀ n ∈ w'.nodes, n.name = name → w.Unchanged w' n) : healthAim.Keeps w w' name := by
  refine Aim.keeps_forEach fun n hn hname => ?_
  obtain ⟨⟨n₀, hn₀, hname₀, href, hdel⟩, hrecord, hhost⟩ := h n hn hname
  refine ⟨n₀, hn₀, hname₀.trans hname, fun hc => hc.of_eq hname₀ href hdel hrecord hhost, fun r hr => ?_⟩
  cases r with
  | fetched q => exact ⟨hr.1.trans href, hr.2.trans hdel⟩
  | hostRead nodeRef host =>
    refine ⟨hr.1.trans href, hr.2.trans ?_⟩
    rw [href, hhost]
  | rest => exact Current.of_eq hr hname₀ href hdel hrecord hhost

/-- A change of one node is not seen by another. -/
theorem unchanged_changeNode {ch : Change HostedNode} {nodes : List HostedNode} {record : String → StatusRecord}
    (hnodup : (nodes.map fun n => n.name).Nodup) (h : ch.Applies (fun n => n.name) w.nodes nodes)
    (hrecord : ∀ name, ch.object.name ≠ name → record name = w.record name) (hn : n ∈ nodes)
    (hne : ch.object.name ≠ n.name) :
    w.Unchanged { w with nodes := nodes, nodes_nodup := hnodup, record := record } n := by
  refine ⟨⟨n, ?_, rfl, rfl, rfl⟩, hrecord _ hne, rfl⟩
  rcases h.mem_of_mem hn with hobj | hold
  · exact absurd (h.key_eq hobj).symm hne
  · exact hold

theorem host_changeHost {ch : Change KubeNode} {hosts : List KubeNode} {nodeRef : String}
    (h : ch.Applies KubeNode.name w.hosts hosts) (hne : ch.object.name ≠ nodeRef) :
    { w with hosts := hosts }.host nodeRef = w.host nodeRef := by
  have hfilter := h.filter_eq (p := fun host => host.name = nodeRef) fun host hobj => by
    rw [decide_eq_false_iff_not, h.key_eq hobj]
    exact hne
  rw [host, host, ← List.head?_filter, ← List.head?_filter, hfilter]

/-- Nor does a node see the change of a host that is not its own. -/
theorem unchanged_changeHost {ch : Change KubeNode} {hosts : List KubeNode}
    (h : ch.Applies KubeNode.name w.hosts hosts) (hn : n ∈ w.nodes) (hnot : n.name ∉ hostRequests w.nodes ch) :
    w.Unchanged { w with hosts := hosts } n := by
  refine ⟨⟨n, hn, rfl, rfl, rfl⟩, rfl, host_changeHost h fun href => hnot ?_⟩
  have hselected : (decide (n.nodeRef ≠ "") && decide (n.nodeRef = ch.object.name)) = true := by
    simp [← href, ch.object.name_ne]
  exact mem_enqueueRequests.2 ⟨hostPredicate_eq_true ch, ch.object, ch.object_mem,
    List.mem_map.2 ⟨n, List.mem_filter.2 ⟨hn, hselected⟩, rfl⟩⟩

/-- The finalizer does not matter to the condition. -/
theorem unchanged_setFinalizer {finalizer : Bool} (hn : n ∈ (w.setFinalizer name finalizer).nodes) :
    w.Unchanged (w.setFinalizer name finalizer) n := by
  obtain ⟨n₀, hn₀, rfl⟩ := List.mem_map.1 hn
  refine ⟨⟨n₀, hn₀, ?_⟩, rfl, rfl⟩
  by_cases h : n₀.name = name <;> simp [h]

theorem keeps_setCondition {name' : String} (hne : name' ≠ name) :
    healthAim.Keeps w (w.setCondition now name cond) name' := by
  refine keeps_of_unchanged fun n hn hname => ⟨⟨n, hn, rfl, rfl, rfl⟩, ?_, rfl⟩
  exact Function.update_of_ne (hname ▸ hne) ..

theorem record_setCondition :
    (w.setCondition now name cond).record name =
      { w.record name with
        conditions := setStatusCondition now (w.record name).generation cond (w.record name).conditions } :=
  Function.update_self ..

/-- The write of the condition of the host as it is. -/
theorem current_setCondition (hcond : cond = nodeReadyCondition n.nodeRef (w.host n.nodeRef)) :
    (w.setCondition now n.name cond).Current n := by
  intro _
  rw [record_setCondition]
  subst hcond
  exact setStatusCondition_isSet ..

/-- The write of another condition. -/
theorem Current.setCondition (h : w.Current n) (hcond : cond.type = "Ready" ∨ cond.type = "Degraded") :
    (w.setCondition now n.name cond).Current n := by
  intro hdel
  rw [record_setCondition]
  refine (h hdel).setStatusCondition_other ?_
  rw [nodeReadyCondition_type]
  rcases hcond with hcond | hcond <;> simp [hcond]

end HealthWorld

/-- As long as the condition is written, every transition is a step of a controller that aims at current conditions. -/
theorem HealthController.Step.towards {s s' : HealthController} {a : HealthTransition} (h : s.Step a s')
    (hwritten : StatusWritten s a) : Controller.Step healthAim s s' := by
  cases h with
  | changeNode hnodup h hrecord =>
    refine .change fun name hnot => HealthWorld.keeps_of_unchanged fun n hn hname => ?_
    subst hname
    exact HealthWorld.unchanged_changeNode hnodup h hrecord hn fun heq => hnot (List.mem_singleton.2 heq.symm)
  | changeHost h =>
    refine .change fun name hnot => HealthWorld.keeps_of_unchanged fun n hn hname => ?_
    exact HealthWorld.unchanged_changeHost h hn (hname ▸ hnot)
  | resync => exact .change fun _ _ => .refl ..
  | gone hidle _ hgone => exact .skip hidle fun n hn hname => absurd hname (hgone n hn)
  | @get n hidle _ hn =>
    refine .start fun q hq hname => ?_
    obtain rfl := HealthWorld.node_unique hq hn hname
    exact ⟨rfl, rfl⟩
  | @handleDeletion n hw hdel hn =>
    have hkeeps : ∀ name, healthAim.Keeps s.world (s.world.setFinalizer n.name false) name := fun name =>
      HealthWorld.keeps_of_unchanged fun q hq _ => HealthWorld.unchanged_setFinalizer hq
    refine .write hw (fun hcourse => .inr fun q hq hname hdel' => ?_) fun name _ _ => hkeeps name
    -- the node is being deleted, so nothing is asked of its condition
    have hagrees := (hkeeps n.name).onCourse _ hcourse q hq hname
    rw [← hagrees.2, hdel] at hdel'
    cases hdel'
  | @addFinalizer n hw hdel hfin hn =>
    refine .write hw (fun _ => .inl (List.mem_singleton_self _)) fun name _ _ => ?_
    exact HealthWorld.keeps_of_unchanged fun q hq _ => HealthWorld.unchanged_setFinalizer hq
  | @getHost node n hw hdel hfin =>
    refine .read hw fun hcourse q hq hname => ?_
    obtain ⟨href, _⟩ := hcourse q hq hname
    exact ⟨href, by rw [href]⟩
  | @hostUnreadable node n hw hdel hfin => exact absurd rfl (hwritten.1 node)
  | @updateNodeReadyStatus n nodeRef host now hw hn =>
    refine .write hw (fun hcourse => .inr fun q hq hname => ?_) fun name hne _ => HealthWorld.keeps_setCondition hne
    obtain ⟨href, hhost⟩ := hcourse q hq hname
    rw [← hname]
    exact HealthWorld.current_setCondition (by rw [href, hhost])
  | @statusNotUpdated node nodeRef host hw => exact absurd rfl (hwritten.2 node)
  | @setOtherCondition n cond now hw hn hcond =>
    refine .write hw (fun hcourse => .inr fun q hq hname => ?_) fun name hne _ => HealthWorld.keeps_setCondition hne
    have hcurrent : s.world.Current q := hcourse q hq hname
    rw [← hname]
    exact hcurrent.setCondition hcond
  | finish hw => exact .finish hw id
  | fail => exact .retry

/-! ## At rest -/

theorem HealthController.tracked_of_run {s₀ s : HealthController} {trace : HealthTrace}
    (h : Run HealthController.Step s₀ trace s) (hstart : s₀.Started) (hwritten : ∀ x ∈ trace, StatusWritten x.1 x.2.1) :
    s.Tracked healthAim :=
  Controller.tracked_of_run h (Controller.Started.tracked hstart) (fun _ _ _ hs hp => hs.towards hp) hwritten

/-- What an undisturbed pass over a node with a finalizer does with its condition. -/
def healthPass (node : String) (now : Int) : List HealthTransition :=
  [.get node, .getHost node, .updateNodeReadyStatus node now, .finish node]

theorem statusWritten_of_pass {trace : HealthTrace} {node : String} {now : Int}
    (h : trace.map (·.2.1) = healthPass node now) : ∀ x ∈ trace, StatusWritten x.1 x.2.1 := by
  intro x hx
  have hmem : x.2.1 ∈ healthPass node now := h ▸ List.mem_map_of_mem hx
  constructor
  · rintro node' hfailed
    simp [hfailed, healthPass] at hmem
  · rintro node' hfailed
    simp [hfailed, healthPass] at hmem

theorem HealthController.run_pass {s : HealthController} {n : HostedNode} (hn : n ∈ s.world.nodes)
    (hq : n.name ∈ s.queue) (hidle : s.work n.name = none) (hdel : n.deleting = false) (hfin : n.finalizer = true)
    (now : Int) {cond : StatusCondition} (hcond : nodeReadyCondition n.nodeRef (s.world.host n.nodeRef) = cond) :
    ∃ trace s', Run Step s trace s' ∧ trace.map (·.2.1) = healthPass n.name now ∧
      s'.world = s.world.setCondition now n.name cond ∧
      (n.name ∈ s'.queue ↔ n.name ∈ s.world.statusRequests now n.name cond) ∧ s'.work n.name = none := by
  subst hcond
  have hread := (Run.single (Step.get hidle hq hn)).snoc (@Step.getHost _ n.name n (Function.update_self ..) hdel hfin)
  have hwritten := hread.snoc (@Step.updateNodeReadyStatus _ n _ _ now (Function.update_self ..) hn)
  refine ⟨_, _, hwritten.snoc (@Step.finish _ n.name (Function.update_self ..)), rfl, rfl, ?_, Function.update_self ..⟩
  simp [List.mem_union_iff]

/-- In every run in which the host can be read and the status be written, the
condition of a node that neither waits nor is being reconciled, and is not being
deleted, is that of its host as it is. -/
theorem nodeReady_current {s₀ s : HealthController} {trace : HealthTrace} (h : Run HealthController.Step s₀ trace s)
    (hstart : s₀.Started) (hwritten : ∀ x ∈ trace, StatusWritten x.1 x.2.1) {n : HostedNode} (hn : n ∈ s.world.nodes)
    (hdel : n.deleting = false) (hq : n.name ∉ s.queue) (hidle : s.work n.name = none) :
    IsSet (s.world.record n.name).generation (nodeReadyCondition n.nodeRef (s.world.host n.nodeRef))
      (s.world.record n.name).conditions :=
  (HealthController.tracked_of_run h hstart hwritten).settled hq hidle n hn rfl hdel

/-! ### A node on a host that is ready -/

def worker : KubeNode where
  name := "worker-1"
  conditions := [{ type := "MemoryPressure", status := "False" }, { type := "Ready", status := "True" }]
  name_ne := by decide

def beacon : HostedNode where
  metadata := .named "beacon"
  spec :=
    { SingBoxNodeSpec.bare with
      address := "beacon.test", region := "hk", roles := [.inbound, .outbound], clientGroups := ["hk"],
      supportedProtocols := [Port.https.listener .hysteria2] }
  status := { entryEndpoints := ["hysteria2:beacon.test:443"] }
  nodeRef := "worker-1"
  finalizer := true

/-- The operator is started anew, with the condition in place. -/
def beaconRestarted : HealthController where
  world :=
    { nodes := [beacon]
      nodes_nodup := List.nodup_singleton _
      hosts := [worker]
      record := fun _ => StatusRecord.set ⟨1, 0, []⟩ 0 [nodeReadyCondition "worker-1" (some worker)] }
  queue := ["beacon"]
  work := fun _ => none

theorem beaconRestarted_started : beaconRestarted.Started :=
  ⟨fun n hn => by rw [List.mem_singleton.1 hn]; exact List.mem_singleton_self _, fun _ => rfl⟩

theorem beaconRestarted_pass :
    ∃ trace s, Run HealthController.Step beaconRestarted trace s ∧ trace.map (·.2.1) = healthPass "beacon" 5 ∧
      s.world.nodes = [beacon] ∧ s.world.hosts = [worker] ∧
      s.world.record "beacon" = beaconRestarted.world.record "beacon" ∧ "beacon" ∉ s.queue ∧ s.work "beacon" = none := by
  obtain ⟨trace, s, hrun, hactions, hworld, hqueue, hidle⟩ := HealthController.run_pass (s := beaconRestarted)
    (n := beacon) (List.mem_singleton_self _) (List.mem_singleton_self _) rfl rfl rfl 5 rfl
  refine ⟨trace, s, hrun, hactions, by rw [hworld]; rfl, by rw [hworld]; rfl, by rw [hworld]; rfl, ?_, hidle⟩
  intro hq
  exact absurd (hqueue.1 hq) (by decide)

theorem nodeReady_current_beacon :
    ∃ trace s, Run HealthController.Step beaconRestarted trace s ∧ trace.map (·.2.1) = healthPass "beacon" 5 ∧
      IsSet (s.world.record "beacon").generation (nodeReadyCondition "worker-1" (s.world.host "worker-1"))
        (s.world.record "beacon").conditions := by
  obtain ⟨trace, s, hrun, hactions, hnodes, _, _, hq, hidle⟩ := beaconRestarted_pass
  have hn : beacon ∈ s.world.nodes := by
    rw [hnodes]
    exact List.mem_singleton_self _
  exact ⟨trace, s, hrun, hactions,
    nodeReady_current hrun beaconRestarted_started (statusWritten_of_pass hactions) hn rfl hq hidle⟩

end SingboxOperator
