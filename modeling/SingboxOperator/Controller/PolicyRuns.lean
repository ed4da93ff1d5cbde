import SingboxOperator.Controller.PolicyStatus
import SingboxOperator.Controller.UserStatus
import SingboxOperator.Controller.Watches
import SingboxOperator.Lib.Reconcile
/-!
# The status of a policy at rest

`EgressPolicyReconciler.Reconcile` read by read: the policy, the nodes and the
external outbounds are fetched one after the other, while others go on changing
them, and `updateStatus` fetches the policy once more. Its watches enqueue every
policy whenever a node or an external outbound changes in what a selector
sees, and every failure is returned and so retried. In every interleaving a
policy that neither waits nor is being reconciled has the status and the conditions
of the cluster as it is. The engine reads the target of a policy from that
status, so at rest it routes to what the selector matches.
-/
open SingboxOperator.Lib

namespace SingboxOperator

/-- The record of a policy is what `updateStatus` reads and writes beside the two fields of `EgressPolicyStatus`. -/
structure PolicyWorld where
  cluster : Cluster
  record : String → StatusRecord

/-- Where `Reconcile` is, with what it has read. -/
inductive PolicyPoint
  | policyRead (policy : EgressPolicy)
  | nodesRead (policy : EgressPolicy) (nodes : List SingBoxNode)
  | decided (run : PolicyRun)
  | touching (remaining : List String)

namespace PolicyWorld

/-- `updateStatus` on the policy as it is fetched again. -/
def updateStatus (w : PolicyWorld) (now : Int) (run : PolicyRun) (p : EgressPolicy) : PolicyWorld where
  cluster := w.cluster.withStatus fun q => if q.name = p.name then run.status else q.status
  record := Function.update w.record p.name ((w.record p.name).set now run.conditions)

/-- The Update that follows unless `Semantic.DeepEqual` finds the status as it was; it enqueues the policy. -/
def statusRequests (w : PolicyWorld) (now : Int) (run : PolicyRun) (p : EgressPolicy) : List String :=
  if p.status = run.status ∧ w.record p.name = (w.record p.name).set now run.conditions then []
  else policyRequests w.cluster (.egressPolicy (.update p (p.restatus fun _ => run.status)) false)

section
variable [Library]

/-- What a run finds now. -/
def found (w : PolicyWorld) (p : EgressPolicy) : PolicyRun :=
  policyRun p w.cluster.nodes w.cluster.externalOutbounds

/-- The status says what a run finds now. -/
structure Current (w : PolicyWorld) (p : EgressPolicy) : Prop where
  status : p.status = (w.found p).status
  record : (w.record p.name).Says (w.found p).conditions

end

end PolicyWorld

/-- One namespace with the queue and the runs of `EgressPolicyReconciler`. -/
abbrev PolicyController := Controller PolicyWorld String PolicyPoint

inductive PolicyTransition
  | change (ev : Event)
  | resync (policy : String)
  | gone (policy : String)
  | get (policy : String)
  | listNodes (policy : String)
  | listExternalOutbounds (policy : String)
  | updateStatus (policy : String) (now : Int)
  | triggerNodeReconcile (policy node : String)
  | finish (policy : String)
  | fail (policy : String)

abbrev PolicyTrace := List (PolicyController × PolicyTransition × PolicyController)

section
variable [Library]

/-- The transitions, in any order. Lists come in any order. `resync` stands for
requests nothing has asked for. Touching a node changes neither its spec nor
its labels, so it enqueues no policy. -/
inductive PolicyController.Step (s : PolicyController) : PolicyTransition → PolicyController → Prop
  | change {ev : Event} {c' : Cluster} {record : String → StatusRecord} (h : s.world.cluster.Step ev c')
      (ha : c'.Answers)
      (hrecord : ∀ name, (∀ ch g, ev = .egressPolicy ch g → ch.object.name ≠ name) →
        record name = s.world.record name) :
      Step s (.change ev) { s with world := ⟨c', record⟩, queue := s.queue ∪ policyRequests c' ev }
  | resync {policy : String} : Step s (.resync policy) { s with queue := s.queue ∪ [policy] }
  | gone {policy : String} (hidle : s.work policy = none) (hq : policy ∈ s.queue)
      (hgone : ∀ p ∈ s.world.cluster.policies, p.name ≠ policy) :
      Step s (.gone policy) { s with queue := s.queue.filter (· ≠ policy) }
  | get {p : EgressPolicy} (hidle : s.work p.name = none) (hq : p.name ∈ s.queue) (hp : p ∈ s.world.cluster.policies) :
      Step s (.get p.name)
        { s with
          queue := s.queue.filter (· ≠ p.name)
          work := Function.update s.work p.name (some (.policyRead p)) }
  | listNodes {policy : String} {p : EgressPolicy} {nodes : List SingBoxNode}
      (hw : s.work policy = some (.policyRead p)) (hnodes : nodes.Perm s.world.cluster.nodes) :
      Step s (.listNodes policy) { s with work := Function.update s.work policy (some (.nodesRead p nodes)) }
  | listExternalOutbounds {policy : String} {p : EgressPolicy} {nodes : List SingBoxNode}
      {outbounds : List ExternalOutbound} (hw : s.work policy = some (.nodesRead p nodes))
      (houtbounds : outbounds.Perm s.world.cluster.externalOutbounds) :
      Step s (.listExternalOutbounds policy)
        { s with work := Function.update s.work policy (some (.decided (policyRun p nodes outbounds))) }
  | updateStatus {run : PolicyRun} {p : EgressPolicy} {now : Int}
      (hw : s.work p.name = some (.decided run)) (hp : p ∈ s.world.cluster.policies) :
      Step s (.updateStatus p.name now)
        { world := s.world.updateStatus now run p
          queue := s.queue ∪ s.world.statusRequests now run p
          work := Function.update s.work p.name (some (.touching run.touched)) }
  | triggerNodeReconcile {policy : String} {node : SingBoxNode} {remaining : List String}
      (hw : s.work policy = some (.touching (node.name :: remaining))) (hn : node ∈ s.world.cluster.nodes) :
      Step s (.triggerNodeReconcile policy node.name)
        { s with
          queue := s.queue ∪ policyRequests s.world.cluster (.singBoxNode (.update node node) false)
          work := Function.update s.work policy (some (.touching remaining)) }
  | finish {policy : String} (hw : s.work policy = some (.touching [])) :
      Step s (.finish policy) { s with work := Function.update s.work policy none }
  | fail {policy : String} {r : PolicyPoint} (hw : s.work policy = some r) :
      Step s (.fail policy) { s with queue := s.queue ∪ [policy], work := Function.update s.work policy none }

end

/-- The operator has just been started: every policy is enqueued. -/
abbrev PolicyController.Started (s : PolicyController) : Prop :=
  Controller.Started (fun w => w.cluster.policies) EgressPolicy.name s

/-! ## What a run depends on -/

/-- What a policy sees of a node. -/
def SingBoxNode.seen (n : SingBoxNode) : String × Labels × SingBoxNodeSpec := (n.name, n.metadata.labels, n.spec)

/-- What a policy sees of an external outbound. -/
def ExternalOutbound.seen (e : ExternalOutbound) : String × Labels := (e.name, e.metadata.labels)

section
variable [Library] {p p' : EgressPolicy} {nodes nodes' : List SingBoxNode}
  {outbounds outbounds' : List ExternalOutbound}

theorem EgressPolicySelector.matches_congr {sel : EgressPolicySelector} {m m' : ObjectMeta} (hname : m.name = m'.name)
    (hlabels : m.labels = m'.labels) : sel.matches m = sel.matches m' := by
  rw [ObjectMeta.ext hname hlabels]

/-- The names of the nodes that have a role and that a selector matches. -/
theorem selectedNames_perm {role : ProxyRole} {sel : EgressPolicySelector}
    (h : (nodes'.map SingBoxNode.seen).Perm (nodes.map SingBoxNode.seen)) :
    (nodes'.filterMap fun n => if n.hasRole role && sel.matches n.metadata then some n.name else none).Perm
      (nodes.filterMap fun n => if n.hasRole role && sel.matches n.metadata then some n.name else none) := by
  refine perm_filterMap_of_map (fun n n' hseen => ?_) h
  simp only [SingBoxNode.seen, Prod.mk.injEq] at hseen
  obtain ⟨hname, hlabels, hspec⟩ := hseen
  have hmatches : sel.matches n.metadata = sel.matches n'.metadata :=
    EgressPolicySelector.matches_congr hname hlabels
  rw [hmatches, hname, SingBoxNode.hasRole, SingBoxNode.hasRole, hspec]

omit [Library] in
theorem sortOn_id_congr {l l' : List String} (h : l'.Perm l) : sortOn id l' = sortOn id l :=
  sortOn_eq_of_perm (fun _ _ _ _ heq => heq) h

theorem ingressNames_congr (hspec : p'.spec = p.spec)
    (hnodes : (nodes'.map SingBoxNode.seen).Perm (nodes.map SingBoxNode.seen)) :
    ingressNames p' nodes' = ingressNames p nodes := by
  have hfilter : ∀ l : List SingBoxNode,
      (l.filter fun n => n.hasRole .inbound && p.spec.ingressSelector.matches n.metadata).map SingBoxNode.name =
        l.filterMap fun n =>
          if n.hasRole .inbound && p.spec.ingressSelector.matches n.metadata then some n.name else none := by
    intro l
    rw [← List.filterMap_eq_map, ← List.filterMap_eq_filter, List.filterMap_filterMap]
    refine List.filterMap_congr fun n _ => ?_
    by_cases h : (n.hasRole .inbound && p.spec.ingressSelector.matches n.metadata) = true <;> simp [h, Option.guard]
  rw [ingressNames, ingressNames, hspec, hfilter, hfilter]
  exact sortOn_id_congr (selectedNames_perm hnodes)

theorem sorted_egressCandidates_congr (hspec : p'.spec = p.spec)
    (hnodes : (nodes'.map SingBoxNode.seen).Perm (nodes.map SingBoxNode.seen))
    (houtbounds : (outbounds'.map ExternalOutbound.seen).Perm (outbounds.map ExternalOutbound.seen)) :
    sortOn id (egressCandidates p' nodes' outbounds') = sortOn id (egressCandidates p nodes outbounds) := by
  rw [egressCandidates, egressCandidates, hspec]
  refine sortOn_id_congr ((selectedNames_perm hnodes).append ?_)
  refine perm_filterMap_of_map (fun e e' hseen => ?_) houtbounds
  simp only [ExternalOutbound.seen, Prod.mk.injEq] at hseen
  obtain ⟨hname, hlabels⟩ := hseen
  have hmatches : p.spec.egressSelector.matches e.metadata = p.spec.egressSelector.matches e'.metadata :=
    EgressPolicySelector.matches_congr hname hlabels
  rw [hmatches, hname]

/-- A run is the same on lists that look the same to a selector, in whatever order they come. -/
theorem policyRun_congr (hspec : p'.spec = p.spec)
    (hnodes : (nodes'.map SingBoxNode.seen).Perm (nodes.map SingBoxNode.seen))
    (houtbounds : (outbounds'.map ExternalOutbound.seen).Perm (outbounds.map ExternalOutbound.seen)) :
    policyRun p' nodes' outbounds' = policyRun p nodes outbounds := by
  rw [policyRun, policyRun, ingressNames_congr hspec hnodes, sorted_egressCandidates_congr hspec hnodes houtbounds]
  simp only [validatePolicyResolution, hspec]

end

/-! ## The controller keeps its aim -/

section
variable [Library]

/-- What a run for the policy has read is as it is now. -/
def PolicyWorld.Agrees (w : PolicyWorld) (p : EgressPolicy) : PolicyPoint → Prop
  | .policyRead q => q.spec = p.spec
  | .nodesRead q nodes => q.spec = p.spec ∧ (nodes.map SingBoxNode.seen).Perm (w.cluster.nodes.map SingBoxNode.seen)
  | .decided run => run = w.found p
  | .touching _ => w.Current p

def policyAim : Aim PolicyWorld String PolicyPoint :=
  Aim.forEach (fun w => w.cluster.policies) EgressPolicy.name PolicyWorld.Current PolicyWorld.Agrees

omit [Library] in
/-- The policy was there before, and what its runs read looks the same. -/
structure PolicyWorld.Unchanged (w w' : PolicyWorld) (p : EgressPolicy) : Prop where
  mem : p ∈ w.cluster.policies
  record : w'.record p.name = w.record p.name
  nodes : (w'.cluster.nodes.map SingBoxNode.seen).Perm (w.cluster.nodes.map SingBoxNode.seen)
  outbounds : (w'.cluster.externalOutbounds.map ExternalOutbound.seen).Perm
    (w.cluster.externalOutbounds.map ExternalOutbound.seen)

namespace PolicyWorld
variable {w w' : PolicyWorld} {p : EgressPolicy} {name : String}

theorem Unchanged.found_eq (h : w.Unchanged w' p) : w'.found p = w.found p :=
  policyRun_congr rfl h.nodes h.outbounds

theorem Unchanged.current (h : w.Unchanged w' p) (hc : w.Current p) : w'.Current p where
  status := by
    rw [h.found_eq]
    exact hc.status
  record := by
    rw [h.found_eq, h.record]
    exact hc.record

theorem Unchanged.agrees (h : w.Unchanged w' p) {r : PolicyPoint} (hr : w.Agrees p r) : w'.Agrees p r := by
  cases r with
  | policyRead q => exact hr
  | nodesRead q nodes => exact ⟨hr.1, hr.2.trans h.nodes.symm⟩
  | decided run =>
    have hrun : run = w.found p := hr
    rw [Agrees, h.found_eq]
    exact hrun
  | touching remaining => exact h.current hr

theorem keeps_of_unchanged (h : ∀ p ∈ w'.cluster.policies, p.name = name → w.Unchanged w' p) :
    policyAim.Keeps w w' name :=
  Aim.keeps_forEach fun p hp hname =>
    ⟨p, (h p hp hname).mem, hname, (h p hp hname).current, fun _ => (h p hp hname).agrees⟩

end PolicyWorld

omit [Library] in
/-- What the watches of nodes and external outbounds let pass: all but an update that keeps generation and labels. -/
theorem exists_update_of_not_passes {α : Type} {metadata : α → ObjectMeta} {ch : Change α} {generation : Bool}
    (h : (generationChanged ch generation || labelChanged metadata ch) = false) :
    ∃ old new, ch = .update old new ∧ generation = false ∧ (metadata old).labels = (metadata new).labels := by
  cases ch with
  | create x | delete x => simp [generationChanged] at h
  | update old new =>
    simp only [generationChanged, labelChanged, ne_eq, decide_not, Bool.or_eq_false_iff, Bool.not_eq_false',
      decide_eq_true_eq] at h
    exact ⟨old, new, rfl, h.1, h.2⟩

omit [Library] in
/-- A policy the change does not enqueue sees nothing of it. -/
theorem Cluster.Step.unchanged {c c' : Cluster} {ev : Event} {record record' : String → StatusRecord} (h : c.Step ev c')
    (ha : c'.Answers)
    (hrecord : ∀ name, (∀ ch g, ev = .egressPolicy ch g → ch.object.name ≠ name) → record' name = record name)
    {p : EgressPolicy} (hp : p ∈ c'.policies) (hnot : p.name ∉ policyRequests c' ev) :
    PolicyWorld.Unchanged ⟨c, record⟩ ⟨c', record'⟩ p := by
  have hmapper : ∀ {α : Type} {passes : Bool} {ch : Change α},
      p.name ∉ enqueueRequestsFromMapFunc passes (policyMapper c') ch → passes = false := by
    intro α passes ch hreq
    by_contra hpass
    refine hreq (mem_enqueueRequests.2 ⟨by simpa using hpass, ch.object, ch.object_mem, ?_⟩)
    exact ha.mem_policyMapper.2 ⟨p, hp, rfl⟩
  cases h with
  | @singBoxNode ch generation nodes hnodup h hspec =>
    obtain ⟨old, new, rfl, hgen, hlabels⟩ := exists_update_of_not_passes (hmapper hnot)
    have hname : new.name = old.name := h.key_eq (by simp [Change.objects])
    have hseen : new.seen = old.seen := by
      rw [SingBoxNode.seen, SingBoxNode.seen, hname, hspec old new rfl hgen, hlabels]
    refine ⟨hp, hrecord _ (by simp), ?_, .refl _⟩
    rw [h.map_eq hseen]
  | @externalOutbound ch generation outbounds hnodup h hspec =>
    obtain ⟨old, new, rfl, _, hlabels⟩ := exists_update_of_not_passes (hmapper hnot)
    have hname : new.name = old.name := h.key_eq (by simp [Change.objects])
    have hseen : new.seen = old.seen := by rw [ExternalOutbound.seen, ExternalOutbound.seen, hname, hlabels]
    refine ⟨hp, hrecord _ (by simp), .refl _, ?_⟩
    rw [h.map_eq hseen]
  | @egressPolicy ch generation policies hnodup h hspec =>
    have hne : ch.object.name ≠ p.name := by
      intro heq
      exact hnot (by simp [policyRequests, heq])
    refine ⟨?_, hrecord _ ?_, .refl _, .refl _⟩
    · rcases h.mem_of_mem hp with hobj | hold
      · exact absurd (h.key_eq hobj).symm hne
      · exact hold
    · rintro ch' g ⟨⟩
      exact hne
  | user | userGroup => exact ⟨hp, hrecord _ (by simp), .refl _, .refl _⟩

namespace PolicyWorld
variable {w : PolicyWorld} {p q : EgressPolicy} {run : PolicyRun} {now : Int}

omit [Library] in
theorem mem_updateStatus_of_ne (hq : q ∈ (w.updateStatus now run p).cluster.policies) (hne : q.name ≠ p.name) :
    q ∈ w.cluster.policies := by
  obtain ⟨q₀, hq₀, rfl⟩ := List.mem_map.1 hq
  have hname : q₀.name ≠ p.name := hne
  simpa [EgressPolicy.restatus, hname] using hq₀

/-- The write of one policy is not seen by another. -/
theorem keeps_updateStatus {name : String} (hne : name ≠ p.name) :
    policyAim.Keeps w (w.updateStatus now run p) name := by
  refine keeps_of_unchanged fun q hq hname => ?_
  have hq' : q.name ≠ p.name := hname ▸ hne
  exact ⟨mem_updateStatus_of_ne hq hq', Function.update_of_ne hq' .., .refl _, .refl _⟩

omit [Library] in
theorem record_updateStatus :
    (w.updateStatus now run p).record p.name = (w.record p.name).set now run.conditions :=
  Function.update_self ..

theorem found_conditions_nodup (w : PolicyWorld) (p : EgressPolicy) :
    ((w.found p).conditions.map fun cond => cond.type).Nodup := by
  simp only [found, policyRun, policyConditions]
  split <;> simp

/-- A write of what the run finds now leaves the status current. -/
theorem current_updateStatus (hp : p ∈ w.cluster.policies)
    (hrun : run = w.found p) :
    ∀ q ∈ (w.updateStatus now run p).cluster.policies, q.name = p.name → (w.updateStatus now run p).Current q := by
  intro q hq hname
  obtain ⟨q, hq₀, rfl⟩ := List.mem_map.1 hq
  obtain rfl : q = p := List.inj_on_of_nodup_map w.cluster.policies_nodup hq₀ hp hname
  refine ⟨?_, ?_⟩
  · simp only [EgressPolicy.restatus, if_true]
    exact congrArg PolicyRun.status hrun
  · have hsays := (w.record q.name).says_set now (hrun ▸ w.found_conditions_nodup q)
    rw [← record_updateStatus] at hsays
    exact hrun ▸ hsays

end PolicyWorld

/-- Every transition is a step of a controller that aims at current statuses. -/
theorem PolicyController.Step.towards {s s' : PolicyController} {a : PolicyTransition} (h : s.Step a s') :
    Controller.Step policyAim s s' := by
  cases h with
  | change h ha hrecord =>
    refine .change fun name hnot => PolicyWorld.keeps_of_unchanged fun p hp hname => ?_
    exact h.unchanged ha hrecord hp (hname ▸ hnot)
  | resync => exact .change fun _ _ => .refl ..
  | gone hidle _ hgone => exact .skip hidle fun p hp hname => absurd hname (hgone p hp)
  | @get p hidle _ hp =>
    refine .start fun q hq hname => ?_
    obtain rfl : q = p := List.inj_on_of_nodup_map s.world.cluster.policies_nodup hq hp hname
    rfl
  | @listNodes policy p nodes hw hnodes =>
    refine .read hw fun hcourse q hq hname => ?_
    exact ⟨hcourse q hq hname, hnodes.map _⟩
  | @listExternalOutbounds policy p nodes outbounds hw houtbounds =>
    refine .read hw fun hcourse q hq hname => ?_
    obtain ⟨hspec, hnodes⟩ := hcourse q hq hname
    exact policyRun_congr hspec hnodes (houtbounds.map _)
  | @updateStatus run p now hw hp =>
    refine .write hw (fun hcourse => .inr ?_) fun name hne _ => PolicyWorld.keeps_updateStatus hne
    exact PolicyWorld.current_updateStatus hp (hcourse p hp rfl)
  | triggerNodeReconcile hw _ => exact .write hw .inr fun _ _ _ => .refl ..
  | finish hw => exact .finish hw id
  | fail => exact .retry

/-! ## Undisturbed passes -/

/-- What an undisturbed pass does. -/
def policyPass (p : EgressPolicy) (run : PolicyRun) (now : Int) : List PolicyTransition :=
  [.get p.name, .listNodes p.name, .listExternalOutbounds p.name, .updateStatus p.name now] ++
    run.touched.map (.triggerNodeReconcile p.name) ++ [.finish p.name]

namespace PolicyController
variable {s s' : PolicyController} {p : EgressPolicy} {a : PolicyTransition} {trace : PolicyTrace} {now : Int}

/-- One pass for the policy that is not disturbed. -/
def Pass (s : PolicyController) (p : EgressPolicy) (now : Int) (s' : PolicyController) : Prop :=
  ∃ trace, Run Step s trace s' ∧ trace.map (·.2.1) = policyPass p (s.world.found p) now

/-- The nodes that are left are touched one after the other. -/
theorem run_touching {remaining : List String} (hw : s.work p.name = some (.touching remaining))
    (hnodes : ∀ name ∈ remaining, ∃ n ∈ s.world.cluster.nodes, n.name = name) :
    ∃ trace s', Run Step s trace s' ∧ trace.map (·.2.1) = remaining.map (.triggerNodeReconcile p.name) ∧
      s'.work p.name = some (.touching []) := by
  induction remaining generalizing s with
  | nil => exact ⟨[], s, .nil, rfl, hw⟩
  | cons name remaining ih =>
    obtain ⟨node, hn, rfl⟩ := hnodes name List.mem_cons_self
    have hstep := Step.triggerNodeReconcile hw hn
    obtain ⟨trace, s', hrun, hactions, hw'⟩ :=
      ih (s := { s with
          queue := s.queue ∪ policyRequests s.world.cluster (.singBoxNode (.update node node) false)
          work := Function.update s.work p.name (some (.touching remaining)) })
        (Function.update_self ..) fun name hname => hnodes name (List.mem_cons_of_mem _ hname)
    exact ⟨_, s', (Run.single hstep).trans hrun, by simp [hactions], hw'⟩

/-- A run comes to its write without being disturbed. -/
theorem run_updateStatus (hp : p ∈ s.world.cluster.policies) (hq : p.name ∈ s.queue) (hidle : s.work p.name = none)
    (now : Int) :
    ∃ trace s', Run Step s trace s' ∧
      trace.map (·.2.1) =
        [.get p.name, .listNodes p.name, .listExternalOutbounds p.name, .updateStatus p.name now] ∧
      s'.world.cluster.nodes = s.world.cluster.nodes ∧
      s'.work p.name = some (.touching (s.world.found p).touched) := by
  have hread := (Run.single (Step.get hidle hq hp)).snoc (Step.listNodes (Function.update_self ..) (.refl _))
  have hdecided := hread.snoc (Step.listExternalOutbounds (Function.update_self ..) (.refl _))
  have hwritten := hdecided.snoc (@Step.updateStatus _ _ (s.world.found p) p now (Function.update_self ..) hp)
  exact ⟨_, _, hwritten, rfl, rfl, Function.update_self ..⟩

/-- A waiting policy can be given a pass. -/
theorem exists_pass (hp : p ∈ s.world.cluster.policies) (hq : p.name ∈ s.queue) (hidle : s.work p.name = none)
    (now : Int) : ∃ s', s.Pass p now s' := by
  obtain ⟨before, s₁, hwritten, hbefore, hnodes, hw₁⟩ := run_updateStatus hp hq hidle now
  have htouched : ∀ name ∈ (s.world.found p).touched, ∃ n ∈ s₁.world.cluster.nodes, n.name = name := by
    intro name hname
    obtain ⟨n, hn, _, _, hname⟩ := mem_ingressNames.1 hname
    exact ⟨n, hnodes ▸ hn, hname⟩
  obtain ⟨touching, s₂, htouching, hactions, hw₂⟩ := run_touching hw₁ htouched
  refine ⟨_, _, (hwritten.trans htouching).snoc (.finish hw₂), ?_⟩
  simp only [List.map_append, hbefore, hactions]
  rfl

/-! What the transitions of a pass do, each of them from where the one before has left the run. -/

theorem Step.of_get (h : s.Step a s') (ha : a = .get p.name) (hp : p ∈ s.world.cluster.policies) :
    s'.world = s.world ∧ p.name ∉ s'.queue ∧ s'.work p.name = some (.policyRead p) := by
  cases h with
  | @get q _ _ hq =>
    obtain rfl : q = p :=
      List.inj_on_of_nodup_map s.world.cluster.policies_nodup hq hp (PolicyTransition.get.inj ha)
    exact ⟨rfl, by simp, Function.update_self ..⟩
  | _ => cases ha

theorem Step.of_listNodes (h : s.Step (.listNodes p.name) s') (hw : s.work p.name = some (.policyRead p)) :
    ∃ nodes, nodes.Perm s.world.cluster.nodes ∧ s'.world = s.world ∧ s'.queue = s.queue ∧
      s'.work p.name = some (.nodesRead p nodes) := by
  cases h with
  | listNodes hw' hnodes =>
    cases hw.symm.trans hw'
    exact ⟨_, hnodes, rfl, rfl, Function.update_self ..⟩

theorem Step.of_listExternalOutbounds {nodes : List SingBoxNode} (h : s.Step (.listExternalOutbounds p.name) s')
    (hw : s.work p.name = some (.nodesRead p nodes)) (hnodes : nodes.Perm s.world.cluster.nodes) :
    s'.world = s.world ∧ s'.queue = s.queue ∧ s'.work p.name = some (.decided (s.world.found p)) := by
  cases h with
  | listExternalOutbounds hw' houtbounds =>
    cases hw.symm.trans hw'
    have hrun : policyRun p nodes _ = s.world.found p := policyRun_congr rfl (hnodes.map _) (houtbounds.map _)
    exact ⟨rfl, rfl, hrun ▸ Function.update_self ..⟩

theorem Step.of_updateStatus {run : PolicyRun} (h : s.Step a s') (ha : a = .updateStatus p.name now)
    (hp : p ∈ s.world.cluster.policies) (hw : s.work p.name = some (.decided run)) :
    s'.world = s.world.updateStatus now run p ∧ s'.queue = s.queue ∪ s.world.statusRequests now run p ∧
      s'.work p.name = some (.touching run.touched) := by
  cases h with
  | updateStatus hw' hq =>
    obtain ⟨hname, rfl⟩ := PolicyTransition.updateStatus.inj ha
    obtain rfl := List.inj_on_of_nodup_map s.world.cluster.policies_nodup hq hp hname
    cases hw.symm.trans hw'
    exact ⟨rfl, rfl, Function.update_self ..⟩
  | _ => cases ha

theorem Step.of_triggerNodeReconcile {name node : String} {remaining : List String} (h : s.Step a s')
    (ha : a = .triggerNodeReconcile name node) (hw : s.work name = some (.touching (node :: remaining))) :
    s'.world = s.world ∧ (∀ k, k ∈ s'.queue ↔ k ∈ s.queue) ∧ s'.work name = some (.touching remaining) := by
  cases h with
  | triggerNodeReconcile hw' _ =>
    obtain ⟨rfl, rfl⟩ := PolicyTransition.triggerNodeReconcile.inj ha
    cases hw.symm.trans hw'
    refine ⟨rfl, fun k => ?_, Function.update_self ..⟩
    simp [policyRequests, enqueueRequestsFromMapFunc, generationChanged, labelChanged]
  | _ => cases ha

theorem Step.of_finish {name : String} (h : s.Step (.finish name) s') :
    s'.world = s.world ∧ s'.queue = s.queue ∧ s'.work name = none := by
  cases h with
  | finish => exact ⟨rfl, rfl, Function.update_self ..⟩

theorem touching_spec {remaining : List String} (hw : s.work p.name = some (.touching remaining))
    (h : Run Step s trace s')
    (hactions : trace.map (·.2.1) = remaining.map (.triggerNodeReconcile p.name) ++ [.finish p.name]) :
    s'.world = s.world ∧ (p.name ∈ s'.queue ↔ p.name ∈ s.queue) ∧ s'.work p.name = none := by
  induction remaining generalizing s trace with
  | nil =>
    obtain ⟨s₁, trace, hstep, hrest, hactions⟩ := h.exists_step_of_map_eq_cons hactions
    obtain rfl := hrest.eq_of_nil (List.map_eq_nil_iff.1 hactions)
    obtain ⟨hworld, hqueue, hidle⟩ := hstep.of_finish
    exact ⟨hworld, by rw [hqueue], hidle⟩
  | cons node remaining ih =>
    obtain ⟨s₁, trace, hstep, hrest, hactions⟩ := h.exists_step_of_map_eq_cons hactions
    obtain ⟨hworld₁, hqueue₁, hw₁⟩ := hstep.of_triggerNodeReconcile rfl hw
    obtain ⟨hworld, hqueue, hidle⟩ := ih hw₁ hrest hactions
    exact ⟨hworld.trans hworld₁, hqueue.trans (hqueue₁ _), hidle⟩

/-- A pass leaves the status it has computed; the policy waits again exactly when that is a change. -/
theorem Pass.spec (h : s.Pass p now s') (hp : p ∈ s.world.cluster.policies) :
    s'.world = s.world.updateStatus now (s.world.found p) p ∧
      (p.name ∈ s'.queue ↔ p.name ∈ s.world.statusRequests now (s.world.found p) p) ∧ s'.work p.name = none := by
  obtain ⟨trace, hrun, hactions⟩ := h
  obtain ⟨s₁, _, hget, hrun, hactions⟩ := hrun.exists_step_of_map_eq_cons hactions
  obtain ⟨hworld₁, hqueue₁, hw₁⟩ := hget.of_get rfl hp
  obtain ⟨s₂, _, hlist, hrun, hactions⟩ := hrun.exists_step_of_map_eq_cons hactions
  obtain ⟨nodes, hnodes, hworld₂, hqueue₂, hw₂⟩ := hlist.of_listNodes hw₁
  rw [hworld₁] at hworld₂ hnodes
  obtain ⟨s₃, _, hlist', hrun, hactions⟩ := hrun.exists_step_of_map_eq_cons hactions
  obtain ⟨hworld₃, hqueue₃, hw₃⟩ := hlist'.of_listExternalOutbounds hw₂ (hworld₂ ▸ hnodes)
  rw [hworld₂] at hworld₃ hw₃
  obtain ⟨s₄, _, hwrite, hrun, hactions⟩ := hrun.exists_step_of_map_eq_cons hactions
  obtain ⟨hworld₄, hqueue₄, hw₄⟩ := hwrite.of_updateStatus rfl (hworld₃ ▸ hp) hw₃
  rw [hworld₃] at hworld₄ hqueue₄
  obtain ⟨hworld, hqueue, hidle⟩ := touching_spec hw₄ hrun hactions
  refine ⟨hworld.trans hworld₄, hqueue.trans ?_, hidle⟩
  rw [hqueue₄, hqueue₃, hqueue₂, List.mem_union_iff, or_iff_right hqueue₁]

/-- The policy as a pass leaves it. -/
theorem Pass.mem (h : s.Pass p now s') (hp : p ∈ s.world.cluster.policies) :
    (p.restatus fun _ => (s.world.found p).status) ∈ s'.world.cluster.policies := by
  rw [(h.spec hp).1]
  exact List.mem_map.2 ⟨p, hp, by simp [EgressPolicy.restatus]⟩

theorem Pass.current (h : s.Pass p now s') (hp : p ∈ s.world.cluster.policies) :
    s'.world.Current (p.restatus fun _ => (s.world.found p).status) := by
  have hmem := h.mem hp
  rw [(h.spec hp).1] at hmem ⊢
  exact PolicyWorld.current_updateStatus hp rfl _ hmem rfl

end PolicyController

omit [Library] in
theorem PolicyWorld.mem_statusRequests {w : PolicyWorld} {p : EgressPolicy} {run : PolicyRun} {now : Int} :
    p.name ∈ w.statusRequests now run p ↔
      ¬ (run.status = p.status ∧ (w.updateStatus now run p).record p.name = w.record p.name) := by
  rw [record_updateStatus, statusRequests]
  split_ifs with hsame
  · exact ⟨fun hmem => absurd hmem List.not_mem_nil, fun hne => absurd ⟨hsame.1.symm, hsame.2.symm⟩ hne⟩
  · exact ⟨fun _ heq => hsame ⟨heq.1.symm, heq.2.symm⟩, fun _ => List.mem_singleton_self _⟩

omit [Library] in
/-- A status that a pass has written is found unchanged by the next one. -/
theorem PolicyWorld.statusRequests_updateStatus {w : PolicyWorld} {p : EgressPolicy} {run : PolicyRun} (now now' : Int)
    (hnodup : (run.conditions.map fun cond => cond.type).Nodup) :
    (w.updateStatus now run p).statusRequests now' run (p.restatus fun _ => run.status) = [] := by
  have hsays := (w.record p.name).says_set now hnodup
  rw [← record_updateStatus] at hsays
  rw [statusRequests, if_pos]
  exact ⟨rfl, hsays.set_eq.symm⟩

/-! ## At rest -/

theorem PolicyController.tracked_of_run {s₀ s : PolicyController}
    {trace : PolicyTrace} (h : Run PolicyController.Step s₀ trace s)
    (hstart : s₀.Started) : s.Tracked policyAim :=
  Controller.tracked_of_run (P := fun _ _ => True) h (Controller.Started.tracked hstart)
    (fun _ _ _ hs _ => hs.towards) fun _ _ => trivial

/-- The target in a current status is the one `collectInput` resolves. -/
theorem PolicyWorld.Current.egressName_eq {w : PolicyWorld} {p : EgressPolicy} (h : w.Current p) {N : SingBoxNode}
    (hp : p ∈ w.cluster.kept N) (ha : p.spec.action = .route) : w.cluster.egressName p = w.cluster.egress p := by
  have happlies := (Cluster.mem_kept.1 hp).2
  have hne : w.cluster.egress p ≠ "" := by
    simp only [policyApplies, ha, Bool.and_eq_true, decide_eq_true_eq] at happlies
    exact happlies.2.1
  have hnodes : w.cluster.allNodes.Perm w.cluster.nodes := sortOn_perm _ _
  have houtbounds : w.cluster.allExtOutbounds.Perm w.cluster.externalOutbounds := sortOn_perm _ _
  have hstatus : p.status.resolvedEgress = w.cluster.egress p := by
    calc p.status.resolvedEgress
        = uniqueName (sortOn id (egressCandidates p w.cluster.nodes w.cluster.externalOutbounds)) :=
          congrArg EgressPolicyStatus.resolvedEgress h.status
      _ = uniqueName (sortOn id (egressCandidates p w.cluster.allNodes w.cluster.allExtOutbounds)) := by
          rw [sorted_egressCandidates_congr rfl (hnodes.map _) (houtbounds.map _)]
      _ = uniqueName (sortOn id [w.cluster.egress p]) := by rw [egressCandidates_of_egressOf hne]; rfl
      _ = w.cluster.egress p := rfl
  rw [Cluster.egressName, hstatus, if_neg hne]

/-- However reads, writes, failures and changes interleave, a policy that
neither waits nor is being reconciled has the status, the observed generation and
the conditions of the cluster as it is. -/
theorem policyStatus_current {s₀ s : PolicyController}
    {trace : PolicyTrace} (h : Run PolicyController.Step s₀ trace s)
    (hstart : s₀.Started) {p : EgressPolicy} (hp : p ∈ s.world.cluster.policies) (hq : p.name ∉ s.queue)
    (hidle : s.work p.name = none) : s.world.Current p :=
  (PolicyController.tracked_of_run h hstart).settled hq hidle p hp rfl

/-- At rest the rules of a policy, on every node whose config it takes part in, point at what its selector matches
now. -/
theorem policyRules_current [MapOrder] {s₀ s : PolicyController}
    {trace : PolicyTrace} (h : Run PolicyController.Step s₀ trace s)
    (hstart : s₀.Started) {p : EgressPolicy} (hq : p.name ∉ s.queue) (hidle : s.work p.name = none) {flags : Flags}
    {N : SingBoxNode} {input : Input} (hinput : collectInput flags s.world.cluster N = .ok input)
    (hp : p ∈ s.world.cluster.kept N) (ha : p.spec.action = .route) :
    ∀ r ∈ policyRules input p, r.outbound ≠ "" → r.outbound = outboundTag (s.world.cluster.egress p) := by
  obtain rfl := collectInput_ok hinput
  have hcurrent := (PolicyController.tracked_of_run h hstart).settled hq hidle p (Cluster.mem_kept.1 hp).1 rfl
  exact (Cluster.policyRules_fresh_iff flags hp ha).2 fun _ => hcurrent.egressName_eq hp ha

/-- A waiting policy can be given a pass from any state. Every such pass leaves
the status current, and the policy waits again exactly when that has been a
change; the pass it is then given leaves it at rest. -/
theorem policy_comes_to_rest {s : PolicyController} {p : EgressPolicy} (hp : p ∈ s.world.cluster.policies)
    (hq : p.name ∈ s.queue) (hidle : s.work p.name = none) (now now' : Int) :
    (∃ s₁, s.Pass p now s₁) ∧
      ∀ s₁, s.Pass p now s₁ → s₁.work p.name = none ∧
        ∃ p₁ ∈ s₁.world.cluster.policies, p₁.name = p.name ∧ p₁.spec = p.spec ∧ s₁.world.Current p₁ ∧
          (p.name ∈ s₁.queue ↔
            ¬ (p₁.status = p.status ∧ s₁.world.record p.name = s.world.record p.name)) ∧
          (p.name ∈ s₁.queue → ∃ s₂, s₁.Pass p₁ now' s₂) ∧
          ∀ s₂, s₁.Pass p₁ now' s₂ →
            p₁ ∈ s₂.world.cluster.policies ∧ s₂.world.Current p₁ ∧ p.name ∉ s₂.queue ∧ s₂.work p.name = none := by
  refine ⟨PolicyController.exists_pass hp hq hidle now, fun s₁ hfirst => ?_⟩
  obtain ⟨hworld, hqueue, hidle₁⟩ := hfirst.spec hp
  have hp₁ := hfirst.mem hp
  refine ⟨hidle₁, _, hp₁, rfl, rfl, hfirst.current hp, ?_,
    fun hq₁ => PolicyController.exists_pass hp₁ hq₁ hidle₁ now', fun s₂ hsecond => ?_⟩
  · rw [hqueue, PolicyWorld.mem_statusRequests, hworld]
    rfl
  · -- the second pass finds the same, which is what the first one has written
    have hfound : s₁.world.found (p.restatus fun _ => (s.world.found p).status) = s.world.found p := by
      rw [hworld]
      rfl
    obtain ⟨-, hqueue₂, hidle₂⟩ := hsecond.spec hp₁
    have hmem := hsecond.mem hp₁
    have hcurrent := hsecond.current hp₁
    rw [hfound] at hqueue₂ hmem hcurrent
    have hnone :
        s₁.world.statusRequests now' (s.world.found p) (p.restatus fun _ => (s.world.found p).status) = [] := by
      rw [hworld]
      exact PolicyWorld.statusRequests_updateStatus now now' (s.world.found_conditions_nodup p)
    refine ⟨hmem, hcurrent, fun hq₂ => ?_, hidle₂⟩
    have hreq := hqueue₂.1 hq₂
    rw [hnone] at hreq
    cases hreq

end

/-! ### The operator is started with a status that is stale, or that a pass has repaired -/

section
attribute [local instance] plainLibrary storedOrder

/-- What a run finds for `viaExit`. -/
def viaExitRun : PolicyRun := policyRun viaExit staleCluster.nodes staleCluster.externalOutbounds

/-- The status names `spare`. -/
def namingSpare : PolicyController where
  world :=
    { cluster := staleCluster.withStatus namesSpare
      record := fun _ => { generation := 1, observedGeneration := 0, conditions := [] } }
  queue := ["via-exit"]
  work := fun _ => none

/-- A pass has replaced the status, and the operator is started anew. -/
def repaired : PolicyController :=
  { namingSpare with world := namingSpare.world.updateStatus 0 viaExitRun viaExit }

def viaExitRepaired : EgressPolicy := viaExit.restatus fun _ => viaExitRun.status

theorem viaExitRepaired_mem : viaExitRepaired ∈ repaired.world.cluster.policies := List.mem_singleton_self _

theorem repaired_started : repaired.Started :=
  ⟨fun p hp => by rw [List.mem_singleton.1 hp]; exact List.mem_singleton_self _, fun _ => rfl⟩

theorem viaExitRepaired_run : repaired.world.found viaExitRepaired = viaExitRun := rfl

/-- One pass that is not disturbed, after which the policy is at rest. -/
theorem repaired_pass :
    ∃ trace s, Run PolicyController.Step repaired trace s ∧
      trace.map (·.2.1) = policyPass viaExitRepaired viaExitRun 5 ∧
      s.world = repaired.world.updateStatus 5 viaExitRun viaExitRepaired ∧ viaExitRepaired.name ∉ s.queue ∧
      s.work viaExitRepaired.name = none := by
  obtain ⟨s, hpass⟩ := PolicyController.exists_pass viaExitRepaired_mem (List.mem_singleton_self _) rfl 5
  obtain ⟨hworld, hqueue, hidle⟩ := hpass.spec viaExitRepaired_mem
  rw [viaExitRepaired_run] at hworld hqueue
  obtain ⟨trace, hrun, hactions⟩ := hpass
  refine ⟨trace, s, hrun, hactions, hworld, fun hq => ?_, hidle⟩
  have hnone : repaired.world.statusRequests 5 viaExitRun viaExitRepaired = [] :=
    PolicyWorld.statusRequests_updateStatus 0 5 (repaired.world.found_conditions_nodup viaExitRepaired)
  have hmem := hqueue.1 hq
  rw [hnone] at hmem
  cases hmem

theorem viaExitRepaired_mem_after :
    viaExitRepaired ∈ (repaired.world.updateStatus 5 viaExitRun viaExitRepaired).cluster.policies :=
  List.mem_singleton_self _

theorem policyStatus_current_viaExit :
    ∃ trace s, Run PolicyController.Step repaired trace s ∧
      trace.map (·.2.1) = policyPass viaExitRepaired viaExitRun 5 ∧
      s.world.Current viaExitRepaired := by
  obtain ⟨trace, s, hrun, hactions, hworld, hq, hidle⟩ := repaired_pass
  have hp : viaExitRepaired ∈ s.world.cluster.policies := by
    rw [hworld]
    exact viaExitRepaired_mem_after
  exact ⟨trace, s, hrun, hactions, policyStatus_current hrun repaired_started hp hq hidle⟩

theorem viaExitRepaired_kept :
    viaExitRepaired ∈ (repaired.world.updateStatus 5 viaExitRun viaExitRepaired).cluster.kept entryNode :=
  Cluster.mem_kept.2 ⟨viaExitRepaired_mem_after, by decide⟩

theorem policyRules_current_viaExit :
    ∃ trace s input, Run PolicyController.Step repaired trace s ∧
      collectInput {} s.world.cluster entryNode = .ok input ∧
      ∀ r ∈ policyRules input viaExitRepaired, r.outbound ≠ "" → r.outbound = outboundTag "exit" := by
  obtain ⟨trace, s, hrun, hactions, hworld, hq, hidle⟩ := repaired_pass
  have hp : viaExitRepaired ∈ s.world.cluster.kept entryNode := by
    rw [hworld]
    exact viaExitRepaired_kept
  have hinput : collectInput {} s.world.cluster entryNode = .ok (s.world.cluster.view {} entryNode) := by
    have hread : staleCluster.Readable entryNode := collectInput_isOk.1 ⟨_, staleCluster_collected⟩
    rw [hworld]
    exact collectInput_eq_ok {} hread
  have hegress : s.world.cluster.egress viaExitRepaired = "exit" := by
    rw [hworld]
    decide
  refine ⟨trace, s, _, hrun, hinput, ?_⟩
  rw [← hegress]
  exact policyRules_current hrun repaired_started hq hidle hinput hp rfl

/-- The first pass replaces the status, so there is a second one. -/
theorem policy_comes_to_rest_viaExit :
    ∃ s₁ s₂, namingSpare.Pass (viaExit.restatus namesSpare) 5 s₁ ∧ "via-exit" ∈ s₁.queue ∧
      s₁.Pass viaExitRepaired 6 s₂ ∧ viaExitRepaired ∈ s₂.world.cluster.policies ∧ s₂.world.Current viaExitRepaired ∧
      "via-exit" ∉ s₂.queue ∧ s₂.work "via-exit" = none := by
  obtain ⟨⟨s₁, hfirst⟩, hall⟩ :=
    policy_comes_to_rest (s := namingSpare) (p := viaExit.restatus namesSpare) (List.mem_singleton_self _)
      (List.mem_singleton_self _) rfl 5 6
  obtain ⟨_, p₁, hp₁, hname, _, hcurrent, hwaits, hgoes, hrest⟩ := hall s₁ hfirst
  have hworld := (hfirst.spec (List.mem_singleton_self _)).1
  obtain rfl : p₁ = viaExitRepaired := by
    rw [hworld] at hp₁
    exact List.mem_singleton.1 hp₁
  have hq : "via-exit" ∈ s₁.queue := hwaits.2 fun hsame => absurd hsame.1 (by decide)
  obtain ⟨s₂, hsecond⟩ := hgoes hq
  obtain ⟨hp₂, hcurrent₂, hq₂, hidle₂⟩ := hrest s₂ hsecond
  exact ⟨s₁, s₂, hfirst, hq, hsecond, hp₂, hcurrent₂, hq₂, hidle₂⟩

end

end SingboxOperator
