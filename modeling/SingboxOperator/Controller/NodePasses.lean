import SingboxOperator.ApiServer.ClientConfig
import SingboxOperator.Controller.NodeHealth
import SingboxOperator.Controller.PolicyRuns
import SingboxOperator.Controller.TornReads
/-!
# Passes of the two controllers

`SingBoxNodeReconciler` and `EgressPolicyReconciler` on one namespace, read by
read. A change enqueues nodes and policies through the watches; what only a
policy is told of reaches the nodes it selects when its run touches them. A pass
for a node reads the namespace bit by bit while it changes, so it may compute the
config of a cluster that never was.

A pass writes as well: it adds the finalizer, writes the NodeReady condition,
creates the relay credential of an outbound node, and writes the ConfigMap and the
status. Of Secrets only those of external outbounds are watched, so the creation of
a credential tells nobody. A write that changes nothing emits no event.
-/
open SingboxOperator.Lib

namespace SingboxOperator

/-! ## The system -/

/-- What `Reconcile` reads and writes of a node beside its spec and the fields of `SingBoxNodeStatus`. -/
structure NodeRecord extends StatusRecord where
  finalizer : Bool := false
  nodeRef : String := ""
  phase : String := ""
  configHash : String := ""
  deriving DecidableEq, Repr

/-- Where `Reconcile` is for a node. -/
inductive NodePoint
  | fetched (node : SingBoxNode)
  /-- The NodeReady condition has been seen to. -/
  | checked (node : SingBoxNode)
  | reading (node : SingBoxNode) (stage : Stage) (read : Cluster) (secrets : Fetched)
  /-- A group or a Secret has been fetched twice and has changed in between. -/
  | torn
  | computed (output : Output)
  | written (output : Output)

/-- One namespace with the two controllers. -/
structure Controllers where
  policies : PolicyController
  configMap : String → Option Output
  deleting : String → Bool
  record : String → NodeRecord
  /-- The Kubernetes Node of a name, if it can be fetched. -/
  host : String → Option KubeNode
  /-- What `resolveTLSServerName` finds for a node. -/
  tlsServerName : String → String
  /-- The second the annotation of a node stands for. -/
  reconcileTrigger : String → Option Nat
  nodeQueue : List String
  nodeWork : String → Option NodePoint

inductive ControllersTransition
  | change (ev : Event)
  | changeHost (host : String)
  | changeSecret (ns secret : String) (result : Except ApiError (GoMap String String))
  | policy (a : PolicyTransition)
  | triggerNodeReconcile (policy node : String) (now : Nat)
  | enqueue (node : String)
  | ignore (node : String)
  | addFinalizer (node : String)
  | get (node : String)
  | updateNodeReadyStatus (node : String)
  | statusNotUpdated (node : String)
  | ensureCredential (node : String)
  | createCredential (node : String) (data : GoMap String String)
  | getSecret (node : String)
  | listNodes (node : String)
  | listExternalOutbounds (node : String)
  | listUsers (node : String)
  | getUserGroup (node : String)
  | listPolicies (node : String)
  | compute (node : String)
  | reconcileConfigMap (node : String)
  | updateStatus (node : String)
  | fail (node : String)

/-- The transitions of the reconciler of policies that no node is told of. -/
def PolicyTransition.Silent : PolicyTransition → Prop
  | .change _ | .triggerNodeReconcile _ _ => False
  | _ => True

/-- The Secrets a pass for a node may read: the relay credentials, its own among
them, the credentials of the external outbounds, and those of the users. -/
def Cluster.secretKeys (c : Cluster) (node : String) : List (String × String) :=
  (c.ns, secretName node) :: (c.nodes.map fun n => (c.ns, secretName n.name)) ++
    (c.externalOutbounds.filterMap fun e => e.spec.credentialsSecretRef.map fun ref => (c.ns, ref)) ++
    c.users.map fun u =>
      (if u.spec.authSecret.ns = "" then c.ns else u.spec.authSecret.ns, u.spec.authSecret.name)

def SingBoxNode.withStatus (N : SingBoxNode) (status : SingBoxNodeStatus) : SingBoxNode := { N with status }

/-- A write of the status, which changes no generation. -/
def SingBoxNode.statusUpdate (N : SingBoxNode) (status : SingBoxNodeStatus) : Event :=
  .singBoxNode (.update N (N.withStatus status)) false

/-- The conditions of the record, as the API shows them. -/
def NodeRecord.shown (r : NodeRecord) : List Condition := r.conditions.map fun cond => cond.toCondition

def reconciledCondition : StatusCondition where
  type := "Ready"
  status := "True"
  reason := "Reconciled"
  message := "SingBoxNode reconciled successfully"

/-- What `updateStatus` makes of the record. -/
def NodeRecord.report (r : NodeRecord) (now : Int) (configHash : String) : NodeRecord :=
  { r with toStatusRecord := r.toStatusRecord.set now [reconciledCondition], phase := "Running", configHash }

/-- What `updateNodeReadyStatus` makes of the record. -/
def NodeRecord.setNodeReady (r : NodeRecord) (now : Int) (host : Option KubeNode) : NodeRecord :=
  { r with conditions := setStatusCondition now r.generation (nodeReadyCondition r.nodeRef host) r.conditions }

namespace Controllers

def cluster (s : Controllers) : Cluster := s.policies.world.cluster

def withCluster (s : Controllers) (c : Cluster) : Controllers :=
  { s with policies := { s.policies with world := { s.policies.world with cluster := c } } }

def move (s : Controllers) (node : String) (point : NodePoint) : Controllers :=
  { s with nodeWork := Function.update s.nodeWork node (some point) }

/-- The pass for the node is over. -/
def done (s : Controllers) (node : String) : Controllers :=
  { s with nodeWork := Function.update s.nodeWork node none }

/-- The nodes bound to a host. -/
def hostedOn (s : Controllers) (host : String) : List String :=
  (s.cluster.nodes.filter fun n => (s.record n.name).nodeRef ≠ "" && (s.record n.name).nodeRef = host).map
    SingBoxNode.name

def nodeReadyRecord (s : Controllers) (now : Int) (node : String) : NodeRecord :=
  (s.record node).setNodeReady now (s.host (s.record node).nodeRef)

/-- The status `updateNodeReadyStatus` writes. -/
def nodeReadyStatus (s : Controllers) (now : Int) (N : SingBoxNode) : SingBoxNodeStatus :=
  { N.status with conditions := (s.nodeReadyRecord now N.name).shown }

def reportRecord (s : Controllers) (now : Int) (node configHash : String) : NodeRecord :=
  (s.record node).report now configHash

/-- The status `updateStatus` writes. -/
def reportStatus (s : Controllers) (now : Int) (N : SingBoxNode) (configHash : String) : SingBoxNodeStatus where
  entryEndpoints := entryEndpoints N
  tlsServerName := s.tlsServerName N.name
  conditions := (s.reportRecord now N.name configHash).shown

/-- The status of the node is written, which enqueues it unless the status was the same. -/
def updated [Library] (s : Controllers) (N : SingBoxNode) (status : SingBoxNodeStatus) (record : NodeRecord)
    (policies : PolicyController) : Controllers :=
  { s with
    policies
    record := Function.update s.record N.name record
    nodeQueue := s.nodeQueue ∪ if status = N.status ∧ record = s.record N.name then []
      else nodeRequests policies.world.cluster (N.statusUpdate status) }

end Controllers

section
variable [Library] [MapOrder] (flags : Flags)

/-- The transitions, in any order. `change`, `changeHost` and `changeSecret` are what
others do; `enqueue` stands for everything else that wakes a node, and for a
request nothing has asked for. Lists come in the order in which the cluster has
them. `ignore` is a pass for a node that is gone or is being deleted, and
`addFinalizer` one for a node that has no finalizer yet. The host is read and the
NodeReady condition written in one go; that this fails is only logged. A Secret
that has not been fetched by itself is read when the config is computed. `fail` is a pass that
ends with an error. -/
inductive Controllers.Step (s : Controllers) : ControllersTransition → Controllers → Prop
  | change {ev : Event} {policies : PolicyController} {trigger : String → Option Nat} {deleting : String → Bool}
      {record : String → NodeRecord} {tlsServerName : String → String}
      (h : s.policies.Step (.change ev) policies)
      (hnode : ∀ name, (∀ ch g, ev = .singBoxNode ch g → ch.object.name ≠ name) →
        trigger name = s.reconcileTrigger name ∧ deleting name = s.deleting name ∧ record name = s.record name ∧
          tlsServerName name = s.tlsServerName name) :
      Step s (.change ev)
        { s with
          policies
          deleting
          record
          tlsServerName
          reconcileTrigger := trigger
          nodeQueue := s.nodeQueue ∪ nodeRequests policies.world.cluster ev }
  | changeHost {name : String} {host : Option KubeNode} :
      Step s (.changeHost name)
        { s with host := Function.update s.host name host, nodeQueue := s.nodeQueue ∪ s.hostedOn name }
  | changeSecret {ns secret : String} {result : Except ApiError (GoMap String String)}
      {tlsServerName : String → String} :
      Step s (.changeSecret ns secret result)
        { s.withCluster (s.cluster.withSecret ns secret result) with
          tlsServerName
          nodeQueue := s.nodeQueue ∪ externalCredentialSecretMapper s.cluster ns secret }
  | policy {a : PolicyTransition} {policies : PolicyController} (h : s.policies.Step a policies) (ha : a.Silent) :
      Step s (.policy a) { s with policies }
  | triggerNodeReconcile {policy node : String} {policies : PolicyController} {now : Nat}
      (h : s.policies.Step (.triggerNodeReconcile policy node) policies) :
      Step s (.triggerNodeReconcile policy node now)
        { s with
          policies
          reconcileTrigger := Function.update s.reconcileTrigger node (some (second now))
          nodeQueue := s.nodeQueue ∪ if s.reconcileTrigger node = some (second now) then [] else [node] }
  | enqueue {node : String} : Step s (.enqueue node) { s with nodeQueue := s.nodeQueue ∪ [node] }
  | ignore {node : String} (hidle : s.nodeWork node = none) (hq : node ∈ s.nodeQueue)
      (hgone : ∀ N ∈ s.cluster.nodes, N.name = node → s.deleting node = true) :
      Step s (.ignore node) { s with nodeQueue := s.nodeQueue.filter (· ≠ node) }
  | addFinalizer {N : SingBoxNode} (hidle : s.nodeWork N.name = none) (hq : N.name ∈ s.nodeQueue)
      (hN : N ∈ s.cluster.nodes) (hlive : s.deleting N.name = false)
      (hfinalizer : (s.record N.name).finalizer = false) :
      Step s (.addFinalizer N.name)
        { s with record := Function.update s.record N.name { s.record N.name with finalizer := true } }
  | get {N : SingBoxNode} (hidle : s.nodeWork N.name = none) (hq : N.name ∈ s.nodeQueue) (hN : N ∈ s.cluster.nodes)
      (hlive : s.deleting N.name = false) (hfinalizer : (s.record N.name).finalizer = true) :
      Step s (.get N.name) ({ s with nodeQueue := s.nodeQueue.filter (· ≠ N.name) }.move N.name (.fetched N))
  | updateNodeReadyStatus {N N₀ : SingBoxNode} {now : Int} {policies : PolicyController}
      (hw : s.nodeWork N.name = some (.fetched N₀))
      (h : s.policies.Step (.change (N.statusUpdate (s.nodeReadyStatus now N))) policies) :
      Step s (.updateNodeReadyStatus N.name)
        ((s.updated N (s.nodeReadyStatus now N) (s.nodeReadyRecord now N.name) policies).move N.name (.checked N₀))
  | statusNotUpdated {node : String} {N : SingBoxNode} (hw : s.nodeWork node = some (.fetched N)) :
      Step s (.statusNotUpdated node) (s.move node (.checked N))
  | ensureCredential {node : String} {N : SingBoxNode} {calls : Calls} (hw : s.nodeWork node = some (.checked N))
      (h : SingboxOperator.ensureCredential s.cluster N calls = .ok s.cluster) :
      Step s (.ensureCredential node) (s.move node (.reading N .node s.cluster fun _ => none))
  | createCredential {N : SingBoxNode} {calls : Calls} {data : GoMap String String}
      (hw : s.nodeWork N.name = some (.checked N))
      (hmissing : ∀ data, s.cluster.secret s.cluster.ns (secretName N.name) ≠ .ok data)
      (h : SingboxOperator.ensureCredential s.cluster N calls =
        .ok (s.cluster.withSecret s.cluster.ns (secretName N.name) (.ok data))) :
      Step s (.createCredential N.name data)
        ({ s.withCluster (s.cluster.withSecret s.cluster.ns (secretName N.name) (.ok data)) with
          nodeQueue := s.nodeQueue ∪ externalCredentialSecretMapper s.cluster s.cluster.ns (secretName N.name) }.move
            N.name
            (.reading N .node (s.cluster.withSecret s.cluster.ns (secretName N.name) (.ok data)) fun _ => none))
  | getSecret {node : String} {N : SingBoxNode} {stage : Stage} {read : Cluster} {secrets : Fetched}
      {key : String × String} (hw : s.nodeWork node = some (.reading N stage read secrets))
      (hkey : key ∈ (stage.mix read s.cluster).secretKeys node) (hnew : secrets key = none) :
      Step s (.getSecret node)
        (s.move node
          (.reading N stage read (Function.update secrets key (some (s.cluster.secret key.1 key.2)))))
  | tearSecret {node : String} {N : SingBoxNode} {stage : Stage} {read : Cluster} {secrets : Fetched}
      {key : String × String} {result : Except ApiError (GoMap String String)}
      (hw : s.nodeWork node = some (.reading N stage read secrets)) (hread : secrets key = some result)
      (hother : result ≠ s.cluster.secret key.1 key.2) :
      Step s (.getSecret node) (s.move node .torn)
  | listNodes {node : String} {N : SingBoxNode} {read : Cluster} {secrets : Fetched}
      (hw : s.nodeWork node = some (.reading N .node read secrets)) :
      Step s (.listNodes node) (s.move node (.reading N .nodes s.cluster secrets))
  | listExternalOutbounds {node : String} {N : SingBoxNode} {read : Cluster} {secrets : Fetched}
      (hw : s.nodeWork node = some (.reading N .nodes read secrets)) :
      Step s (.listExternalOutbounds node)
        (s.move node (.reading N .externalOutbounds (Stage.nodes.mix read s.cluster) secrets))
  | listUsers {node : String} {N : SingBoxNode} {read : Cluster} {secrets : Fetched}
      (hw : s.nodeWork node = some (.reading N .externalOutbounds read secrets)) (hi : N.hasRole .inbound = true) :
      Step s (.listUsers node)
        (s.move node (.reading N (.users []) (Stage.externalOutbounds.mix read s.cluster) secrets))
  | getUserGroup {node : String} {N : SingBoxNode} {groups : List String} {read : Cluster} {secrets : Fetched}
      {u : User} (hw : s.nodeWork node = some (.reading N (.users groups) read secrets)) (hu : u ∈ read.users)
      (href : u.spec.userGroupRef ≠ "") (hnew : u.spec.userGroupRef ∉ groups) :
      Step s (.getUserGroup node)
        (s.move node
          (.reading N (.users (u.spec.userGroupRef :: groups)) ((Stage.users groups).mix read s.cluster) secrets))
  | tearUserGroup {node : String} {N : SingBoxNode} {groups : List String} {read : Cluster} {secrets : Fetched}
      {u : User} (hw : s.nodeWork node = some (.reading N (.users groups) read secrets)) (hu : u ∈ read.users)
      (hi : N.hasRole .inbound = true) (hmem : u.spec.userGroupRef ∈ groups)
      (hother : read.userGroup u.spec.userGroupRef ≠ s.cluster.userGroup u.spec.userGroupRef) :
      Step s (.getUserGroup node) (s.move node .torn)
  | listPolicies {node : String} {N : SingBoxNode} {stage : Stage} {read : Cluster} {secrets : Fetched}
      (hw : s.nodeWork node = some (.reading N stage read secrets))
      (hstage : if N.hasRole .inbound then ∃ groups, stage = .users groups ∧
          ∀ u ∈ read.users, u.spec.userGroupRef = "" ∨ u.spec.userGroupRef ∈ groups
        else stage = .externalOutbounds) :
      Step s (.listPolicies node) (s.move node (.reading N .policies (stage.mix read s.cluster) secrets))
  | compute {node : String} {N : SingBoxNode} {read : Cluster} {secrets : Fetched} {output : Output}
      (hw : s.nodeWork node = some (.reading N .policies read secrets))
      (houtput : (read.withSecrets (secrets.over s.cluster.secret)).output flags N = .ok output) :
      Step s (.compute node) (s.move node (.computed output))
  | computeTorn {node : String} {input : Input} (hw : s.nodeWork node = some .torn) :
      Step s (.compute node) (s.move node (.computed (SingboxOperator.compute input)))
  | reconcileConfigMap {node : String} {output : Output} (hw : s.nodeWork node = some (.computed output)) :
      Step s (.reconcileConfigMap node)
        ({ s with
          configMap := Function.update s.configMap node (some output)
          nodeQueue := s.nodeQueue ∪ if s.configMap node = some output then [] else [node] }.move node
            (.written output))
  | updateStatus {N : SingBoxNode} {output : Output} {now : Int} {policies : PolicyController}
      (hw : s.nodeWork N.name = some (.written output))
      (h : s.policies.Step (.change (N.statusUpdate (s.reportStatus now N output.hash))) policies) :
      Step s (.updateStatus N.name)
        ((s.updated N (s.reportStatus now N output.hash) (s.reportRecord now N.name output.hash) policies).done N.name)
  | fail {node : String} {point : NodePoint} (hw : s.nodeWork node = some point) :
      Step s (.fail node) ({ s with nodeQueue := s.nodeQueue ∪ [node] }.done node)

end

/-- The operator has just been started: every policy and every node is enqueued. -/
structure Controllers.Started (s : Controllers) : Prop where
  answers : s.cluster.Answers
  policies : s.policies.Started
  nodeQueue : ∀ N ∈ s.cluster.nodes, N.name ∈ s.nodeQueue
  nodeWork : ∀ node, s.nodeWork node = none

abbrev ControllersTrace := List (Controllers × ControllersTransition × Controllers)

/-! ## Small facts -/

namespace Controllers
variable {s : Controllers} {node : String} {point : NodePoint}

@[simp]
theorem cluster_move : (s.move node point).cluster = s.cluster := rfl

@[simp]
theorem cluster_withCluster {c : Cluster} : (s.withCluster c).cluster = c := rfl

@[simp]
theorem nodeWork_move : (s.move node point).nodeWork node = some point := Function.update_self ..

end Controllers

section
variable {c : Cluster} {N : SingBoxNode}

/-- An outbound node has its relay credential. -/
def Cluster.HasCredential (c : Cluster) (N : SingBoxNode) : Prop :=
  N.hasRole .outbound = true → ∃ data, c.secret c.ns (secretName N.name) = .ok data

theorem Cluster.HasCredential.ensureCredential_eq (h : c.HasCredential N) (calls : Calls) :
    ensureCredential c N calls = .ok c := by
  unfold ensureCredential
  by_cases ho : N.hasRole .outbound = true
  · obtain ⟨data, hdata⟩ := h ho
    rw [if_pos ho, hdata]
  · rw [if_neg ho]

end

/-! ## Writes of a status -/

section
variable {c : Cluster} {N : SingBoxNode} (status : SingBoxNodeStatus)

/-- The write tells its own node alone. -/
theorem nodeRequests_statusUpdate [Library] : nodeRequests c (N.statusUpdate status) = [N.name] := by
  simp [nodeRequests, SingBoxNode.statusUpdate, enqueueRequestsFromMapFunc, generationChanged, Change.object,
    SingBoxNode.withStatus, SingBoxNode.name]

theorem policyRequests_statusUpdate : policyRequests c (N.statusUpdate status) = [] := by
  simp [policyRequests, SingBoxNode.statusUpdate, enqueueRequestsFromMapFunc, generationChanged, labelChanged,
    SingBoxNode.withStatus]

/-- The status of a node that is there can be written. -/
theorem Cluster.step_statusUpdate (hN : N ∈ c.nodes) :
    ∃ nodes hnodup, c.Step (N.statusUpdate status) (c.withNodes nodes hnodup) := by
  obtain ⟨before, after, hsplit⟩ := List.append_of_mem hN
  have happlies : (Change.update N (N.withStatus status)).Applies SingBoxNode.name c.nodes
      (before ++ N.withStatus status :: after) := by
    rw [hsplit]
    exact .update _ _ _ _ rfl
  have hnodup : ((before ++ N.withStatus status :: after).map SingBoxNode.name).Nodup := by
    rw [happlies.map_eq rfl]
    exact c.nodes_nodup
  refine ⟨_, hnodup, .singBoxNode hnodup happlies ?_⟩
  rintro old new heq -
  cases heq
  rfl

end

/-- What the write of a status does. -/
structure StatusWrite (s : PolicyController) (N : SingBoxNode) (status : SingBoxNodeStatus) (s' : PolicyController) :
    Prop where
  mem : N ∈ s.world.cluster.nodes
  step : s.world.cluster.Step (N.statusUpdate status) s'.world.cluster
  answers : s'.world.cluster.Answers
  sameFaces : s.world.cluster.SameFaces s'.world.cluster
  written : N.withStatus status ∈ s'.world.cluster.nodes
  others : ∀ M : SingBoxNode, M.name ≠ N.name → (M ∈ s'.world.cluster.nodes ↔ M ∈ s.world.cluster.nodes)
  same : status = N.status → s'.world.cluster = s.world.cluster
  queue : ∀ policy, policy ∈ s'.queue ↔ policy ∈ s.queue
  work : s'.work = s.work

theorem PolicyController.Step.statusWrite {s s' : PolicyController} {N : SingBoxNode} {status : SingBoxNodeStatus}
    [Library] (h : s.Step (.change (N.statusUpdate status)) s') : StatusWrite s N status s' := by
  cases h with
  | @change _ c' record hstep ha hrecord =>
    have hqueue : ∀ policy, policy ∈ s.queue ∪ policyRequests c' (N.statusUpdate status) ↔ policy ∈ s.queue := by
      intro policy
      rw [List.mem_union_iff, policyRequests_statusUpdate]
      simp
    have hstep' := hstep
    cases hstep' with
    | @singBoxNode ch generation nodes hnodup happlies hspec =>
      have hfaces : nodes.map Cluster.face = s.world.cluster.nodes.map Cluster.face := happlies.map_eq rfl
      generalize hold : s.world.cluster.nodes = old at happlies
      cases happlies with
      | update _ _ before after _ =>
        refine ⟨?_, hstep, ha, ⟨_, hnodup, rfl, hfaces⟩, List.mem_append_right _ List.mem_cons_self, fun M hne => ?_,
          fun hsame => ?_, hqueue, rfl⟩
        · rw [hold]
          exact List.mem_append_right _ List.mem_cons_self
        · have hne₀ : M ≠ N := by
            rintro rfl
            exact hne rfl
          have hne₁ : M ≠ N.withStatus status := by
            rintro rfl
            exact hne rfl
          simp [hold, hne₀, hne₁]
        · subst hsame
          have hnodes : before ++ N.withStatus N.status :: after = s.world.cluster.nodes := hold.symm
          simp only [hnodes]

end SingboxOperator
