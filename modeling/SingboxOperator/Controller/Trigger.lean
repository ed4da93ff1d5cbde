import SingboxOperator.Controller.PolicyStatus
import SingboxOperator.Controller.Watches
import SingboxOperator.Lib.Runs
/-!
# The trigger annotation

`EgressPolicyReconciler` wakes a node by writing the time into an annotation of
the node, in seconds. Writing the same second again leaves the object as it
is, so there is no event: a node that has been reconciled in between is not
woken. The system below is one namespace with the queue and the worker of each of the two
controllers, the clock, and for each node the number of changes its ConfigMap has seen.
-/
open SingboxOperator.Lib

namespace SingboxOperator

/-- A run of `EgressPolicyReconciler` that has read the policy and the lists. -/
structure PolicyWork where
  policy : String
  run : PolicyRun
  /-- The clock when it started. -/
  since : Nat
  /-- Whether `updateStatus` has returned. -/
  statusDone : Bool
  /-- The ingress nodes that are still to be touched. -/
  remaining : List String

structure Operator where
  cluster : Cluster
  /-- The second the annotation of a node stands for. -/
  reconcileTrigger : String → Option Nat
  nodeQueue : List String
  policyQueue : List String
  /-- The node that is being reconciled, with the version the reconcile has started from. -/
  nodeWork : Option (String × Nat)
  policyWork : Option PolicyWork
  /-- In nanoseconds. -/
  clock : Nat
  /-- The number of changes of the cluster. -/
  version : Nat
  /-- The version the ConfigMap of a node was computed from. -/
  computedAt : String → Nat
  /-- The version of the last change that enqueued a policy which selects the node. -/
  dueAt : String → Nat

/-- `metav1.Now().UTC().Format("20060102T150405Z")`, up to the notation. -/
def second (now : Nat) : Nat := now / 1000000000

/-- The policy touches the node. -/
def EgressPolicy.Selects [Library] (p : EgressPolicy) (N : SingBoxNode) : Prop :=
  N.hasRole .inbound = true ∧ p.spec.ingressSelector.matches N.metadata = true

namespace Operator

section
variable [Library]

/-- Whether one of the policies selects the node. -/
def selectedBy (c : Cluster) (policies : List String) (name : String) : Bool :=
  c.policies.any fun p => p.name ∈ policies && c.nodes.any fun n =>
    n.name = name && n.hasRole .inbound && p.spec.ingressSelector.matches n.metadata

/-- The two controllers are told of a change. -/
def change (s : Operator) (ev : Event) (c' : Cluster) : Operator :=
  { s with
    cluster := c'
    nodeQueue := s.nodeQueue ∪ nodeRequests c' ev
    policyQueue := s.policyQueue ∪ policyRequests c' ev
    version := s.version + 1
    dueAt := fun name => if selectedBy c' (policyRequests c' ev) name then s.version + 1 else s.dueAt name }

/-- An Update that leaves the object identical emits no event. The annotation is
neither part of the spec nor a label. -/
def triggerNodeReconcile (s : Operator) (node : SingBoxNode) (now : Nat) : Operator :=
  if s.reconcileTrigger node.name = some (second now) then s
  else
    { s with
      reconcileTrigger := Function.update s.reconcileTrigger node.name (some (second now))
      nodeQueue := s.nodeQueue ∪ nodeRequests s.cluster (.singBoxNode (.update node node) false)
      policyQueue := s.policyQueue ∪ policyRequests s.cluster (.singBoxNode (.update node node) false) }

/-- `updateStatus` of the run writes nothing when the status is as it should be. -/
def updateStatus (s : Operator) (w : PolicyWork) (p : EgressPolicy) (changed : Bool) : Operator :=
  let s := { s with policyWork := some { w with statusDone := true } }
  if changed then
    s.change (.egressPolicy (.update p (p.restatus fun _ => w.run.status)) false)
      (s.cluster.withStatus fun q => if q.name = p.name then w.run.status else q.status)
  else s

end

end Operator

inductive Action
  | change (ev : Event)
  | tick
  | userTouch (node : String) (now : Nat)
  | enqueue (node : String)
  | startPolicy (policy : String)
  | policyGone (policy : String)
  | updateStatus
  | touchNode (node : String) (now : Nat)
  | finishPolicy
  | failPolicy
  | startNode (node : String)
  | finishNode
  | failNode

section
variable [Library]

/-- The transitions, in any order and at any times. Each controller has one
worker. `userTouch` is what `UserReconciler` does, and `enqueue` stands for
everything else that wakes a node: its Pod and its ConfigMap, the status it
writes, Secrets. A run that fails is retried. -/
inductive Operator.Step : Operator → Action → Operator → Prop
  | change {s : Operator} {ev : Event} {c' : Cluster} {trigger : String → Option Nat} (h : s.cluster.Step ev c')
      (ha : c'.Answers)
      (htrigger : ∀ name, (∀ ch g, ev = .singBoxNode ch g → ch.object.name ≠ name) →
        trigger name = s.reconcileTrigger name) :
      Step s (.change ev) { s.change ev c' with reconcileTrigger := trigger }
  | tick {s : Operator} {clock : Nat} (h : s.clock ≤ clock) : Step s .tick { s with clock := clock }
  | userTouch {s : Operator} {node : SingBoxNode} {now : Nat} (hn : node ∈ s.cluster.nodes) (hnow : now ≤ s.clock) :
      Step s (.userTouch node.name now) (s.triggerNodeReconcile node now)
  | enqueue {s : Operator} {node : String} : Step s (.enqueue node) { s with nodeQueue := s.nodeQueue ∪ [node] }
  | startPolicy {s : Operator} {policy : String} {run : PolicyRun} (hidle : s.policyWork = none)
      (hq : policy ∈ s.policyQueue) (hrun : reconcilePolicy s.cluster policy = .ok (some run)) :
      Step s (.startPolicy policy)
        { s with
          policyQueue := s.policyQueue.filter (· ≠ policy)
          policyWork := some { policy, run, since := s.clock, statusDone := false, remaining := run.touched } }
  | policyGone {s : Operator} {policy : String} (hidle : s.policyWork = none) (hq : policy ∈ s.policyQueue)
      (hrun : reconcilePolicy s.cluster policy = .ok none) :
      Step s (.policyGone policy) { s with policyQueue := s.policyQueue.filter (· ≠ policy) }
  | updateStatus {s : Operator} {w : PolicyWork} {p : EgressPolicy} {changed : Bool} (hw : s.policyWork = some w)
      (hdone : w.statusDone = false) (hp : p ∈ s.cluster.policies) (hname : p.name = w.policy)
      (hchanged : p.status ≠ w.run.status → changed = true) :
      Step s .updateStatus (s.updateStatus w p changed)
  | touchNode {s : Operator} {w : PolicyWork} {node : SingBoxNode} {rest : List String} {now : Nat}
      (hw : s.policyWork = some w) (hdone : w.statusDone = true) (hrest : w.remaining = node.name :: rest)
      (hn : node ∈ s.cluster.nodes) (hsince : w.since ≤ now) (hnow : now ≤ s.clock) :
      Step s (.touchNode node.name now)
        { s.triggerNodeReconcile node now with policyWork := some { w with remaining := rest } }
  | finishPolicy {s : Operator} {w : PolicyWork} (hw : s.policyWork = some w) (hdone : w.statusDone = true)
      (hrest : w.remaining = []) : Step s .finishPolicy { s with policyWork := none }
  | failPolicy {s : Operator} {w : PolicyWork} (hw : s.policyWork = some w) :
      Step s .failPolicy { s with policyWork := none, policyQueue := s.policyQueue ∪ [w.policy] }
  | startNode {s : Operator} {node : String} (hidle : s.nodeWork = none) (hq : node ∈ s.nodeQueue) :
      Step s (.startNode node)
        { s with nodeQueue := s.nodeQueue.filter (· ≠ node), nodeWork := some (node, s.version) }
  | finishNode {s : Operator} {node : String} {version : Nat} (hw : s.nodeWork = some (node, version)) :
      Step s .finishNode { s with nodeWork := none, computedAt := Function.update s.computedAt node version }
  | failNode {s : Operator} {node : String} {version : Nat} (hw : s.nodeWork = some (node, version)) :
      Step s .failNode { s with nodeWork := none, nodeQueue := s.nodeQueue ∪ [node] }

/-- The operator has just been started: every node is enqueued. -/
structure Operator.Started (s : Operator) : Prop where
  answers : s.cluster.Answers
  nodeQueue : ∀ N ∈ s.cluster.nodes, N.name ∈ s.nodeQueue
  nodeWork : s.nodeWork = none
  computedAt : ∀ name, s.computedAt name ≤ s.version
  dueAt : ∀ name, s.dueAt name ≤ s.version

abbrev Trace := List (Operator × Action × Operator)

/-- A node that a policy run touches is pending afterwards, so it is reconciled
after all that the run has read and written before. -/
def LeavesPending (a : Action) (s' : Operator) : Prop :=
  ∀ node now, a = .touchNode node now → node ∈ s'.nodeQueue

/-- When nothing is queued or running, no ConfigMap is older than the last
change that was announced to a policy of its node. -/
def UpToDate (s : Operator) : Prop :=
  s.nodeQueue = [] → s.policyQueue = [] → s.nodeWork = none → s.policyWork = none →
    ∀ N ∈ s.cluster.nodes, s.dueAt N.name ≤ s.computedAt N.name

def NoLostWakeUp (trace : Trace) : Prop :=
  ∀ x ∈ trace, LeavesPending x.2.1 x.2.2 ∧ UpToDate x.1 ∧ UpToDate x.2.2

/-- A policy run touches only nodes that are pending already, or whose annotation shows another second. -/
def TouchShows (s : Operator) (a : Action) : Prop :=
  ∀ node now, a = .touchNode node now → node ∈ s.nodeQueue ∨ s.reconcileTrigger node ≠ some (second now)

/-! ## What a change leaves selected -/

theorem mem_ingressNames_self {c : Cluster} {N : SingBoxNode} (hN : N ∈ c.nodes) {p : EgressPolicy} :
    N.name ∈ ingressNames p c.nodes ↔ p.Selects N := by
  rw [mem_ingressNames]
  constructor
  · rintro ⟨n, hn, hi, hm, hname⟩
    obtain rfl := Cluster.node_unique hn hN hname
    exact ⟨hi, hm⟩
  · rintro ⟨hi, hm⟩
    exact ⟨N, hN, hi, hm, rfl⟩

theorem selectedBy_iff {c : Cluster} {N : SingBoxNode} (hN : N ∈ c.nodes) {policies : List String} :
    Operator.selectedBy c policies N.name = true ↔ ∃ p ∈ c.policies, p.name ∈ policies ∧ p.Selects N := by
  simp [Operator.selectedBy, ← mem_ingressNames_self hN, mem_ingressNames, and_left_comm, and_comm]

namespace Cluster
variable {c c' : Cluster} {ev : Event} {N : SingBoxNode}

theorem Step.mem_nodes (h : c.Step ev c') (hN : N ∈ c'.nodes) : N ∈ c.nodes ∨ N.name ∈ nodeRequests c' ev := by
  cases h with
  | singBoxNode hnodup h hspec =>
    rcases h.mem_of_mem hN with hobj | hold
    · exact .inr (List.mem_cons.2 (.inl (h.key_eq hobj)))
    · exact .inl hold
  | externalOutbound | egressPolicy | user | userGroup => exact .inl hN

/-- A node that a policy no longer selects is enqueued directly. -/
theorem Step.selects (h : c.Step ev c') (ha : c'.Answers) (hN : N ∈ c'.nodes) {p : EgressPolicy}
    (hp : p ∈ c.policies) (hsel : p.Selects N) :
    (∃ q ∈ c'.policies, q.name = p.name ∧ q.Selects N) ∨ N.name ∈ nodeRequests c' ev := by
  cases h with
  | singBoxNode | externalOutbound | user | userGroup => exact .inl ⟨p, hp, rfl, hsel⟩
  | @egressPolicy ch generation policies hnodup h hspec =>
    have hmapper : generationChanged ch generation = true → p ∈ ch.objects →
        N.name ∈ nodeRequests (c.withPolicies policies hnodup) (.egressPolicy ch generation) := fun hgen hobj =>
      mem_enqueueRequests.2 ⟨hgen, p, hobj, ha.mem_egressPolicyMapper.2 ⟨N, hN, hsel.1, hsel.2, rfl⟩⟩
    rcases h.mem_new hp with hobj | hnew
    · cases ch with
      | create x => exact .inr (hmapper rfl hobj)
      | delete x => exact .inr (hmapper rfl hobj)
      | update old new =>
        cases generation with
        | true => exact .inr (hmapper rfl hobj)
        | false =>
          -- the spec is kept, so the new object selects what the old one did
          have hpspec : p.spec = new.spec := by
            rcases List.mem_pair.1 hobj with rfl | rfl
            · exact (hspec p new rfl rfl).symm
            · rfl
          refine .inl ⟨new, h.mem_update, ?_, hsel.1, hpspec ▸ hsel.2⟩
          rw [h.key_eq hobj, h.key_eq (List.mem_pair.2 (.inr rfl))]
    · exact .inl ⟨p, hnew, rfl, hsel⟩

end Cluster

/-! ## The invariant -/

namespace Operator

/-- A policy is waiting to touch the node, or about to. -/
def WillTouch (s : Operator) (policy node : String) : Prop :=
  policy ∈ s.policyQueue ∨ ∃ w, s.policyWork = some w ∧ w.policy = policy ∧ node ∈ w.remaining

/-- Why a node need not be woken again: its ConfigMap is new enough, it is
pending or being reconciled late enough, or a policy is going to touch it. -/
inductive Served (s : Operator) (N : SingBoxNode) : Prop
  | computed (h : s.dueAt N.name ≤ s.computedAt N.name)
  | queued (h : N.name ∈ s.nodeQueue)
  | running {version : Nat} (hw : s.nodeWork = some (N.name, version)) (h : s.dueAt N.name ≤ version)
  | policy {p : EgressPolicy} (hp : p ∈ s.cluster.policies) (hsel : p.Selects N) (h : s.WillTouch p.name N.name)

structure Inv (s : Operator) : Prop where
  answers : s.cluster.Answers
  dueAt_le : ∀ name, s.dueAt name ≤ s.version
  computedAt_le : ∀ name, s.computedAt name ≤ s.version
  work_le : ∀ name version, s.nodeWork = some (name, version) → s.computedAt name ≤ version ∧ version ≤ s.version
  served : ∀ N ∈ s.cluster.nodes, s.Served N

/-- A transition that changes no object and takes no node off its queue. -/
structure Keeps (s s' : Operator) : Prop where
  cluster : s'.cluster = s.cluster
  version : s'.version = s.version
  nodeWork : s'.nodeWork = s.nodeWork
  computedAt : s'.computedAt = s.computedAt
  dueAt : s'.dueAt = s.dueAt
  nodeQueue : s.nodeQueue ⊆ s'.nodeQueue

variable {s s' : Operator}

omit [Library] in
theorem willTouch_working {w : PolicyWork} (hw : s.policyWork = some w) {policy node : String} :
    s.WillTouch policy node ↔ policy ∈ s.policyQueue ∨ w.policy = policy ∧ node ∈ w.remaining := by
  simp [WillTouch, hw]

omit [Library] in
theorem willTouch_idle (hw : s.policyWork = none) {policy node : String} :
    s.WillTouch policy node ↔ policy ∈ s.policyQueue := by
  simp [WillTouch, hw]

theorem Started.inv (h : s.Started) : s.Inv where
  answers := h.answers
  dueAt_le := h.dueAt
  computedAt_le := h.computedAt
  work_le := by simp [h.nodeWork]
  served N hN := .queued (h.nodeQueue N hN)

/-- What is left to prove of such a transition: a policy that was going to touch
a node still is, or the node is pending. -/
theorem Inv.keep (h : s.Inv) (hk : s.Keeps s')
    (htouch : ∀ N ∈ s.cluster.nodes, ∀ p ∈ s.cluster.policies, p.Selects N → s.WillTouch p.name N.name →
      s'.WillTouch p.name N.name ∨ N.name ∈ s'.nodeQueue) : s'.Inv where
  answers := hk.cluster ▸ h.answers
  dueAt_le := by rw [hk.dueAt, hk.version]; exact h.dueAt_le
  computedAt_le := by rw [hk.computedAt, hk.version]; exact h.computedAt_le
  work_le := by rw [hk.computedAt, hk.version, hk.nodeWork]; exact h.work_le
  served := by
    rw [hk.cluster]
    intro N hN
    cases h.served N hN with
    | computed h => exact .computed (by rw [hk.dueAt, hk.computedAt]; exact h)
    | queued h => exact .queued (hk.nodeQueue h)
    | running hw h => exact .running (hk.nodeWork.trans hw) (hk.dueAt ▸ h)
    | policy hp hsel h =>
      rcases htouch N hN _ hp hsel h with h | h
      · exact .policy (hk.cluster ▸ hp) hsel h
      · exact .queued h

/-- With the policies as they were, nothing is left. -/
theorem Inv.keep_policies (h : s.Inv) (hk : s.Keeps s') (hq : s.policyQueue ⊆ s'.policyQueue)
    (hw : s'.policyWork = s.policyWork) : s'.Inv :=
  h.keep hk fun _ _ _ _ _ ht => .inl (ht.imp (fun hp => hq hp) (by rw [hw]; exact id))

/-! ## One step -/

theorem Inv.change (h : s.Inv) {ev : Event} {c' : Cluster} (hstep : s.cluster.Step ev c') (ha : c'.Answers) :
    (s.change ev c').Inv where
  answers := ha
  dueAt_le name := by
    dsimp only [Operator.change]
    split
    · exact le_rfl
    · exact (h.dueAt_le name).trans (Nat.le_succ _)
  computedAt_le name := (h.computedAt_le name).trans (Nat.le_succ _)
  work_le name version hw := (h.work_le name version hw).imp_right fun hle => hle.trans (Nat.le_succ _)
  served N hN := by
    rcases hstep.mem_nodes hN with hold | hreq
    swap
    · exact .queued (List.mem_union_iff.2 (.inr hreq))
    by_cases hdue : selectedBy c' (policyRequests c' ev) N.name = true
    · obtain ⟨p, hp, hreq, hsel⟩ := (selectedBy_iff hN).1 hdue
      exact .policy hp hsel (.inl (List.mem_union_iff.2 (.inr hreq)))
    -- no policy has been enqueued for the node, so nothing new is due
    have hkeep : (s.change ev c').dueAt N.name = s.dueAt N.name := if_neg hdue
    cases h.served N hold with
    | computed h => exact .computed (hkeep.trans_le h)
    | queued h => exact .queued (List.mem_union_iff.2 (.inl h))
    | running hw h => exact .running hw (hkeep.trans_le h)
    | policy hp hsel h =>
      rcases hstep.selects ha hN hp hsel with ⟨q, hq, hname, hqsel⟩ | hreq
      · exact .policy hq hqsel (hname ▸ h.imp (fun hp => List.mem_union_iff.2 (.inl hp)) id)
      · exact .queued (List.mem_union_iff.2 (.inr hreq))

/-- The event of a touch reaches only the node itself. -/
theorem nodeRequests_touch {c : Cluster} {node : SingBoxNode} :
    nodeRequests c (.singBoxNode (.update node node) false) = [node.name] := rfl

omit [Library] in
theorem policyRequests_touch {c : Cluster} {node : SingBoxNode} :
    policyRequests c (.singBoxNode (.update node node) false) = [] := by
  simp [policyRequests, generationChanged, labelChanged, enqueueRequestsFromMapFunc]

theorem mem_triggerNodeReconcile {node : SingBoxNode} {now : Nat} {name : String} :
    name ∈ (s.triggerNodeReconcile node now).nodeQueue ↔
      name ∈ s.nodeQueue ∨ name = node.name ∧ s.reconcileTrigger node.name ≠ some (second now) := by
  by_cases h : s.reconcileTrigger node.name = some (second now) <;>
    simp [triggerNodeReconcile, h, nodeRequests_touch]

theorem keeps_triggerNodeReconcile {node : SingBoxNode} {now : Nat} : s.Keeps (s.triggerNodeReconcile node now) := by
  have hq : s.nodeQueue ⊆ (s.triggerNodeReconcile node now).nodeQueue := fun _ h => mem_triggerNodeReconcile.2 (.inl h)
  refine ⟨?_, ?_, ?_, ?_, ?_, hq⟩ <;> (unfold triggerNodeReconcile; split <;> rfl)

theorem policyQueue_triggerNodeReconcile {node : SingBoxNode} {now : Nat} :
    s.policyQueue ⊆ (s.triggerNodeReconcile node now).policyQueue := by
  unfold triggerNodeReconcile
  split
  · exact List.Subset.refl _
  · exact fun _ h => List.mem_union_iff.2 (.inl h)

theorem policyWork_triggerNodeReconcile {node : SingBoxNode} {now : Nat} :
    (s.triggerNodeReconcile node now).policyWork = s.policyWork := by
  unfold triggerNodeReconcile
  split <;> rfl

omit [Library] in
/-- The policy run writes the status of its policy, which keeps the spec. -/
theorem step_withStatus {c : Cluster} {p : EgressPolicy} (hp : p ∈ c.policies) (status : EgressPolicyStatus) :
    c.Step (.egressPolicy (.update p (p.restatus fun _ => status)) false)
      (c.withStatus fun q => if q.name = p.name then status else q.status) := by
  let f : EgressPolicy → EgressPolicyStatus := fun q => if q.name = p.name then status else q.status
  have hf : p.restatus f = p.restatus fun _ => status := congrArg (fun st => { p with status := st }) (if_pos rfl)
  have happlies := Change.Applies.update_map hp c.policies_nodup (f := (·.restatus f)) rfl fun q hq =>
    congrArg (fun st => { q with status := st }) (if_neg hq)
  rw [hf] at happlies
  refine .egressPolicy (c.withStatus f).policies_nodup happlies ?_
  rintro old new heq -
  cases heq
  rfl

theorem Inv.updateStatus (h : s.Inv) {w : PolicyWork} {p : EgressPolicy} (hw : s.policyWork = some w)
    (hp : p ∈ s.cluster.policies) (changed : Bool) : (s.updateStatus w p changed).Inv := by
  have hinv : { s with policyWork := some { w with statusDone := true } }.Inv := by
    refine h.keep ⟨rfl, rfl, rfl, rfl, rfl, List.Subset.refl _⟩ fun N _ q _ _ ht => .inl ?_
    rw [willTouch_working hw] at ht
    rw [willTouch_working rfl]
    exact ht
  cases changed with
  | false => exact hinv
  | true => exact hinv.change (step_withStatus hp w.run.status) ⟨h.answers.list, h.answers.group⟩

/-- The node itself is pending, and the other nodes are as they were. -/
theorem Inv.touchNode (h : s.Inv) {w : PolicyWork} {node : SingBoxNode} {rest : List String} {now : Nat}
    (hw : s.policyWork = some w) (hrest : w.remaining = node.name :: rest)
    (hshows : node.name ∈ s.nodeQueue ∨ s.reconcileTrigger node.name ≠ some (second now)) :
    { s.triggerNodeReconcile node now with policyWork := some { w with remaining := rest } }.Inv := by
  have hk : s.Keeps (s.triggerNodeReconcile node now) := keeps_triggerNodeReconcile
  refine h.keep ⟨hk.cluster, hk.version, hk.nodeWork, hk.computedAt, hk.dueAt, hk.nodeQueue⟩ fun N _ p _ _ ht => ?_
  rw [willTouch_working hw, hrest, List.mem_cons] at ht
  rcases ht with hq | ⟨hname, heq | hmem⟩
  · exact .inl (.inl (policyQueue_triggerNodeReconcile hq))
  · exact .inr (mem_triggerNodeReconcile.2 (hshows.imp (heq ▸ ·) fun hne => ⟨heq, hne⟩))
  · exact .inl (.inr ⟨_, rfl, hname, hmem⟩)

theorem Inv.startPolicy (h : s.Inv) {policy : String} {run : PolicyRun} (hidle : s.policyWork = none)
    (hrun : reconcilePolicy s.cluster policy = .ok (some run)) (since : Nat) :
    { s with
      policyQueue := s.policyQueue.filter (· ≠ policy)
      policyWork := some { policy, run, since, statusDone := false, remaining := run.touched } }.Inv := by
  refine h.keep ⟨rfl, rfl, rfl, rfl, rfl, List.Subset.refl _⟩ fun N hN p hp hsel ht => .inl ?_
  rw [willTouch_idle hidle] at ht
  rw [willTouch_working rfl]
  by_cases hname : p.name = policy
  · subst hname
    obtain rfl : policyRun p s.cluster.nodes s.cluster.externalOutbounds = run := by
      simpa [h.answers.reconcilePolicy_eq hp] using hrun
    exact .inr ⟨rfl, (mem_ingressNames_self hN).2 hsel⟩
  · exact .inl (List.mem_filter.2 ⟨ht, by simpa using hname⟩)

theorem Inv.policyGone (h : s.Inv) {policy : String} (hrun : reconcilePolicy s.cluster policy = .ok none) :
    { s with policyQueue := s.policyQueue.filter (· ≠ policy) }.Inv := by
  refine h.keep ⟨rfl, rfl, rfl, rfl, rfl, List.Subset.refl _⟩ fun N _ p hp _ ht => .inl (ht.imp_left fun hq => ?_)
  have hname : p.name ≠ policy := by
    rintro rfl
    simp [h.answers.reconcilePolicy_eq hp] at hrun
  exact List.mem_filter.2 ⟨hq, by simpa using hname⟩

theorem Inv.finishPolicy (h : s.Inv) {w : PolicyWork} (hw : s.policyWork = some w) (hrest : w.remaining = []) :
    { s with policyWork := none }.Inv := by
  refine h.keep ⟨rfl, rfl, rfl, rfl, rfl, List.Subset.refl _⟩ fun N _ p _ _ ht => .inl ?_
  rw [willTouch_working hw, hrest] at ht
  rw [willTouch_idle rfl]
  simpa using ht

theorem Inv.failPolicy (h : s.Inv) {w : PolicyWork} (hw : s.policyWork = some w) :
    { s with policyWork := none, policyQueue := s.policyQueue ∪ [w.policy] }.Inv := by
  refine h.keep ⟨rfl, rfl, rfl, rfl, rfl, List.Subset.refl _⟩ fun N _ p _ _ ht => .inl ?_
  rw [willTouch_working hw] at ht
  rw [willTouch_idle rfl, List.mem_union_iff, List.mem_singleton]
  exact ht.imp_right fun htouch => htouch.1.symm

/-- The node is reconciled from here on: the version is the newest there is. -/
theorem Inv.startNode (h : s.Inv) {node : String} (hidle : s.nodeWork = none) :
    { s with nodeQueue := s.nodeQueue.filter (· ≠ node), nodeWork := some (node, s.version) }.Inv where
  answers := h.answers
  dueAt_le := h.dueAt_le
  computedAt_le := h.computedAt_le
  work_le name version hw := by
    cases hw
    exact ⟨h.computedAt_le _, le_rfl⟩
  served N hN := by
    cases h.served N hN with
    | computed h => exact .computed h
    | queued hq =>
      by_cases hname : N.name = node
      · exact .running (by rw [hname]) (h.dueAt_le _)
      · exact .queued (List.mem_filter.2 ⟨hq, by simpa using hname⟩)
    | running hw h => simp [hidle] at hw
    | policy hp hsel h => exact .policy hp hsel h

theorem Inv.finishNode (h : s.Inv) {node : String} {version : Nat} (hw : s.nodeWork = some (node, version)) :
    { s with nodeWork := none, computedAt := Function.update s.computedAt node version }.Inv where
  answers := h.answers
  dueAt_le := h.dueAt_le
  computedAt_le name := by
    by_cases hname : name = node
    · subst hname
      simpa using (h.work_le _ _ hw).2
    · simpa [hname] using h.computedAt_le name
  work_le := by simp
  served N hN := by
    have hgrows : s.computedAt N.name ≤ Function.update s.computedAt node version N.name := by
      by_cases hname : N.name = node
      · subst hname
        simpa using (h.work_le _ _ hw).1
      · simp [hname]
    cases h.served N hN with
    | computed h => exact .computed (h.trans hgrows)
    | queued h => exact .queued h
    | running hw' h =>
      cases hw.symm.trans hw'
      exact .computed (by simpa using h)
    | policy hp hsel h => exact .policy hp hsel h

theorem Inv.failNode (h : s.Inv) {node : String} {version : Nat} (hw : s.nodeWork = some (node, version)) :
    { s with nodeWork := none, nodeQueue := s.nodeQueue ∪ [node] }.Inv where
  answers := h.answers
  dueAt_le := h.dueAt_le
  computedAt_le := h.computedAt_le
  work_le := by simp
  served N hN := by
    cases h.served N hN with
    | computed h => exact .computed h
    | queued h => exact .queued (List.mem_union_iff.2 (.inl h))
    | running hw' h =>
      cases hw.symm.trans hw'
      exact .queued (List.mem_union_iff.2 (.inr (List.mem_singleton_self _)))
    | policy hp hsel h => exact .policy hp hsel h

theorem Step.inv {a : Action} (hstep : s.Step a s') (hshows : TouchShows s a) (h : s.Inv) : s'.Inv := by
  cases hstep with
  | change hc ha _ =>
    exact (h.change hc ha).keep_policies ⟨rfl, rfl, rfl, rfl, rfl, List.Subset.refl _⟩ (List.Subset.refl _) rfl
  | tick _ => exact h.keep_policies ⟨rfl, rfl, rfl, rfl, rfl, List.Subset.refl _⟩ (List.Subset.refl _) rfl
  | userTouch _ _ =>
    exact h.keep_policies keeps_triggerNodeReconcile policyQueue_triggerNodeReconcile policyWork_triggerNodeReconcile
  | enqueue =>
    exact h.keep_policies ⟨rfl, rfl, rfl, rfl, rfl, fun _ hq => List.mem_union_iff.2 (.inl hq)⟩ (List.Subset.refl _) rfl
  | startPolicy hidle _ hrun => exact h.startPolicy hidle hrun s.clock
  | policyGone _ _ hrun => exact h.policyGone hrun
  | updateStatus hw _ hp _ _ => exact h.updateStatus hw hp _
  | touchNode hw _ hrest _ _ _ => exact h.touchNode hw hrest (hshows _ _ rfl)
  | finishPolicy hw _ hrest => exact h.finishPolicy hw hrest
  | failPolicy hw => exact h.failPolicy hw
  | startNode hidle _ => exact h.startNode hidle
  | finishNode hw => exact h.finishNode hw
  | failNode hw => exact h.failNode hw

/-- With nothing queued and nothing running, only a new enough ConfigMap is left. -/
theorem Inv.upToDate (h : s.Inv) : UpToDate s := by
  intro hq hpq hw hpw N hN
  cases h.served N hN with
  | computed h => exact h
  | queued h => simp [hq] at h
  | running hw' h => simp [hw] at hw'
  | policy hp hsel h => simp [WillTouch, hpq, hpw] at h

/-- A touch leaves the node pending exactly if it was before, or the second is another. -/
theorem Step.leavesPending_iff {a : Action} (hstep : s.Step a s') : LeavesPending a s' ↔ TouchShows s a := by
  cases hstep with
  | @touchNode w node rest now hw hdone hrest hn hsince hnow =>
    constructor
    · intro h name now' heq
      cases heq
      exact (mem_triggerNodeReconcile.1 (h _ _ rfl)).imp_right fun hne => hne.2
    · intro h name now' heq
      cases heq
      exact mem_triggerNodeReconcile.2 ((h _ _ rfl).imp_right fun hne => ⟨rfl, hne⟩)
  | _ => simp [LeavesPending, TouchShows]

end Operator

/-- No wake-up is lost, and no idle operator is behind, exactly in the runs in
which a node is not touched again in the second its annotation shows, unless it is pending. -/
theorem noLostWakeUp_iff {s₀ s : Operator} {trace : Trace} (hstart : s₀.Started)
    (hrun : Run Operator.Step s₀ trace s) : NoLostWakeUp trace ↔ ∀ x ∈ trace, TouchShows x.1 x.2.1 := by
  constructor
  · intro h x hx
    exact (hrun.step_of_mem x hx).leavesPending_iff.1 (h x hx).1
  · intro h x hx
    have hinv := hrun.invariant hstart.inv (fun _ _ _ hs hshows hi => hs.inv hshows hi) h
    exact ⟨(hrun.step_of_mem x hx).leavesPending_iff.2 (h x hx), (hinv.2 x hx).1.upToDate, (hinv.2 x hx).2.upToDate⟩

end

/-! ## Two policy runs in one second -/

section
variable [Library]

/-- A policy run that nothing interrupts and that touches one node. -/
def Operator.pass (s : Operator) (p : EgressPolicy) (node : SingBoxNode) (changed : Bool) : Operator :=
  let run := policyRun p s.cluster.nodes s.cluster.externalOutbounds
  let w : PolicyWork := { policy := p.name, run, since := s.clock, statusDone := false, remaining := run.touched }
  let s := { s with policyQueue := s.policyQueue.filter (· ≠ p.name), policyWork := some w }
  { (s.updateStatus w p changed).triggerNodeReconcile node s.clock with policyWork := none }

theorem Operator.run_pass {s₀ s : Operator} {trace : Trace} (h : Run Operator.Step s₀ trace s)
    (ha : s.cluster.Answers) (hidle : s.policyWork = none) {p : EgressPolicy} (hp : p ∈ s.cluster.policies)
    (hq : p.name ∈ s.policyQueue) {node : SingBoxNode} (hn : node ∈ s.cluster.nodes)
    (htouched : ingressNames p s.cluster.nodes = [node.name]) (changed : Bool)
    (hchanged : p.status ≠ (policyRun p s.cluster.nodes s.cluster.externalOutbounds).status → changed = true) :
    ∃ trace', Run Operator.Step s₀ trace' (s.pass p node changed) ∧ ∃ x ∈ trace', x.2.2 = s.pass p node changed := by
  have hstart := h.snoc (.startPolicy hidle hq (ha.reconcilePolicy_eq hp))
  have hstatus := hstart.snoc (.updateStatus rfl rfl hp rfl hchanged)
  -- whether the status is written or not, the run goes on as it has started
  cases changed <;>
    have hdone := (hstatus.snoc (.touchNode rfl rfl htouched hn le_rfl le_rfl)).snoc (.finishPolicy rfl rfl rfl) <;>
    exact ⟨_, hdone, _, List.mem_append_right _ (List.mem_singleton_self _), rfl⟩

end

def edgeTW : SingBoxNode where
  metadata := .named "edge-tw"
  spec := { SingBoxNodeSpec.bare with address := "192.0.2.40", region := "tw", roles := [.inbound] }

def goldLabels : Labels := (∅ : Labels).insert "tier" "gold"

def exitTW (labels : Labels) : ExternalOutbound where
  metadata := { ObjectMeta.named "exit-tw" with labels := labels }
  spec :=
    { protocol := .socks5, server := "192.0.2.41", port := Port.socks.number, port_pos := Port.socks.pos,
      port_le := Port.socks.le }

def goldPolicy : EgressPolicy where
  metadata := .named "gold"
  spec :=
    { action := .route, egressSelector := { matchLabels := goldLabels }, matchFields := { domain := ["example.com"] } }
  status := { resolvedIngresses := ["edge-tw"], resolvedEgress := "exit-tw" }

def goldCluster : Cluster where
  ns := "proxy"
  nodes := [edgeTW]
  externalOutbounds := [exitTW goldLabels]
  policies := [goldPolicy]
  nodes_nodup := List.nodup_singleton _
  externalOutbounds_nodup := List.nodup_singleton _
  users_nodup := noUsers_nodup
  policies_nodup := List.nodup_singleton _

def goldStart : Operator where
  cluster := goldCluster
  reconcileTrigger _ := none
  nodeQueue := ["edge-tw"]
  policyQueue := ["gold"]
  nodeWork := none
  policyWork := none
  clock := 0
  version := 1
  computedAt _ := 0
  dueAt _ := 1

/-- The exit loses its label, and nothing else changes. -/
def goldLost : Event := .externalOutbound (.update (exitTW goldLabels) (exitTW ∅)) false

abbrev dullCluster : Cluster := goldCluster.withExternalOutbounds [exitTW ∅] (List.nodup_singleton _)

theorem goldLost_step : goldCluster.Step goldLost dullCluster :=
  .externalOutbound _ (.update (exitTW goldLabels) (exitTW ∅) [] [] rfl) (by rintro _ _ h -; cases h; rfl)

theorem goldLost_requests : policyRequests dullCluster goldLost = ["gold", "gold"] := by
  have hne : goldLabels ≠ ∅ := fun h => absurd (congrArg AList.keys h) (by decide)
  have hlabel : labelChanged ExternalOutbound.metadata (.update (exitTW goldLabels) (exitTW ∅)) = true :=
    decide_eq_true hne
  rw [goldLost, policyRequests, hlabel, Bool.or_true]
  rfl

theorem goldCluster_answers : goldCluster.Answers := ⟨fun _ => rfl, fun _ _ h => by cases h; rfl⟩

section
attribute [local instance] plainLibrary

theorem goldStart_started : goldStart.Started :=
  ⟨goldCluster_answers, by decide, rfl, fun _ => Nat.zero_le _, fun _ => le_rfl⟩

theorem goldPolicy_ingress : ingressNames goldPolicy [edgeTW] = ["edge-tw"] := by decide

theorem goldPolicy_resolved : goldPolicy.status = (policyRun goldPolicy [edgeTW] [exitTW goldLabels]).status := by decide

/-- A policy run, a reconcile of the node, the change and the two policy runs
it leads to, all in the first second. -/
theorem gold_behind : ∃ trace s, Run Operator.Step goldStart trace s ∧ (∃ x ∈ trace, x.2.2 = s) ∧ ¬ UpToDate s := by
  have hdull : dullCluster.Answers := ⟨goldCluster_answers.list, goldCluster_answers.group⟩
  obtain ⟨_, hrun, -⟩ := Operator.run_pass (s := goldStart) .nil goldCluster_answers rfl
    (List.mem_singleton_self goldPolicy) (List.mem_singleton_self _) (List.mem_singleton_self edgeTW)
    goldPolicy_ingress false fun h => absurd goldPolicy_resolved h
  simp only [Operator.pass, Operator.triggerNodeReconcile, Operator.policyRequests_touch] at hrun
  have hnode := (hrun.snoc (@Operator.Step.startNode _ _ "edge-tw" rfl (by decide))).snoc (.finishNode rfl)
  have hlost := hnode.snoc (.change goldLost_step hdull fun _ _ => rfl)
  simp only [Operator.change, goldLost_requests] at hlost
  obtain ⟨_, hwritten, -⟩ := Operator.run_pass hlost hdull rfl (List.mem_singleton_self goldPolicy) (by decide)
    (List.mem_singleton_self edgeTW) goldPolicy_ingress true fun _ => rfl
  obtain ⟨_, hidle, hlast⟩ := Operator.run_pass hwritten ⟨hdull.list, hdull.group⟩ rfl
    (p := goldPolicy.restatus fun _ => (policyRun goldPolicy [edgeTW] [exitTW ∅]).status) (List.mem_singleton_self _)
    (by decide) (List.mem_singleton_self edgeTW) goldPolicy_ingress false fun h => absurd rfl h
  refine ⟨_, _, hidle, hlast, fun h => ?_⟩
  have hle := h (by decide) (by decide) rfl rfl edgeTW (List.mem_singleton_self _)
  exact absurd hle (by decide)

/-- The annotation shows the second already when the exit loses its label, and
the node has been reconciled by then. -/
theorem not_forall_noLostWakeUp :
    ¬ ∀ [Library] (s₀ s : Operator) (trace : Trace), s₀.Started → Run Operator.Step s₀ trace s → NoLostWakeUp trace := by
  intro h
  obtain ⟨trace, s, hrun, ⟨x, hx, hlast⟩, hbehind⟩ := gold_behind
  exact hbehind (hlast ▸ (h _ _ _ goldStart_started hrun x hx).2.2)

theorem noLostWakeUp_iff_gold :
    goldStart.Started ∧ ∃ trace s, Run Operator.Step goldStart trace s ∧ ¬ ∀ x ∈ trace, TouchShows x.1 x.2.1 := by
  obtain ⟨trace, s, hrun, ⟨x, hx, hlast⟩, hbehind⟩ := gold_behind
  exact ⟨goldStart_started, trace, s, hrun, fun h =>
    hbehind (hlast ▸ ((noLostWakeUp_iff goldStart_started hrun).2 h x hx).2.2)⟩

end

end SingboxOperator
