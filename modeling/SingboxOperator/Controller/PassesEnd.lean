import Mathlib.Algebra.GroupWithZero.Nat
import Mathlib.Algebra.Order.BigOperators.Group.List
import SingboxOperator.Controller.ConfigRuns
/-!
# Passes end

Left to itself, the reconciler of nodes comes to rest. A pass that changes the
ConfigMap or the status enqueues its node once more, and the next one finds
nothing to write: the status says it already, and the write of an identical
one emits no event. So there are two passes at most for each node that waits.
What they leave behind is the ConfigMap of the cluster as it is.

Every outbound node has its relay credential here. A pass that has to create one
changes a Secret that other nodes may have read, and nobody tells them.
-/
open SingboxOperator.Lib

namespace SingboxOperator

/-- The node whose pass makes the transition, unless it fails with it. -/
def ControllersTransition.ofNode : ControllersTransition → Option String
  | .ignore node | .addFinalizer node | .get node | .updateNodeReadyStatus node | .ensureCredential node
  | .createCredential node _ | .getSecret node | .listNodes node | .listExternalOutbounds node | .listUsers node
  | .getUserGroup node | .listPolicies node | .compute node | .reconcileConfigMap node | .updateStatus node => some node
  | _ => none

/-! ## How far a pass is from its end -/

open Classical in
/-- One for what is so. -/
noncomputable def weight (p : Prop) : ℕ := if p then 1 else 0

section
variable {p q : Prop}

theorem weight_pos (h : p) : weight p = 1 := if_pos h

theorem weight_neg (h : ¬ p) : weight p = 0 := if_neg h

theorem weight_le (p : Prop) : weight p ≤ 1 := by
  by_cases h : p
  · rw [weight_pos h]
  · rw [weight_neg h]
    exact Nat.zero_le 1

theorem weight_mono (h : p → q) : weight p ≤ weight q := by
  by_cases hp : p
  · rw [weight_pos hp, weight_pos (h hp)]
  · rw [weight_neg hp]
    exact Nat.zero_le _

end

/-- The lists and groups that are left to be read. -/
def Stage.left (users : List User) : Stage → ℕ
  | .node => users.length + 4
  | .nodes => users.length + 3
  | .externalOutbounds => users.length + 2
  | .users groups => (users.countP fun u => u.spec.userGroupRef ∉ groups) + 1
  | .policies => 0

/-- The transitions that are left at most. -/
def NodePoint.left (c : Cluster) (node : String) : NodePoint → ℕ
  | .fetched _ => c.users.length + (c.secretKeys node).length + 9
  | .checked _ => c.users.length + (c.secretKeys node).length + 8
  | .reading _ stage read secrets =>
    stage.left (stage.mix read c).users +
      ((stage.mix read c).secretKeys node).countP (fun key => (secrets key).isNone) + 3
  | .torn => 3
  | .computed _ => 2
  | .written _ => 1

namespace NodePoint
variable {c read read' : Cluster} {node : String} {N : SingBoxNode} {stage stage' : Stage} {secrets : Fetched}

theorem left_start : (NodePoint.reading N .node c fun _ => none).left c node < (NodePoint.checked N).left c node := by
  simp only [left, Option.isNone_none, Stage.left, Stage.mix, List.countP_true]
  omega

/-- A list or a group is read, which changes nothing in what the pass sees. -/
theorem left_read (hmix : stage'.mix read' c = stage.mix read c)
    (hlt : stage'.left (stage.mix read c).users < stage.left (stage.mix read c).users) :
    (NodePoint.reading N stage' read' secrets).left c node < (NodePoint.reading N stage read secrets).left c node := by
  simp only [left, hmix]
  omega

theorem left_getSecret {key : String × String} (hkey : key ∈ (stage.mix read c).secretKeys node)
    (hnew : secrets key = none) (result : Except ApiError (GoMap String String)) :
    (NodePoint.reading N stage read (Function.update secrets key (some result))).left c node <
      (NodePoint.reading N stage read secrets).left c node := by
  have hcount : ((stage.mix read c).secretKeys node).countP
        (fun key' => (Function.update secrets key (some result) key').isNone) <
      ((stage.mix read c).secretKeys node).countP (fun key' => (secrets key').isNone) := by
    refine countP_lt_countP (fun key' _ h => ?_) hkey ?_ ?_
    · by_cases heq : key' = key
      · rw [heq, hnew]
        rfl
      · rwa [Function.update_of_ne heq] at h
    · rw [Function.update_self]
      rfl
    · rw [hnew]
      rfl
  simp only [left]
  omega

end NodePoint

theorem Stage.left_users_nil (users : List User) : (Stage.users []).left users < Stage.externalOutbounds.left users := by
  have hcount := List.countP_le_length (p := fun u : User => decide (u.spec.userGroupRef ∉ ([] : List String)))
    (l := users)
  simp only [left]
  omega

theorem Stage.left_users_cons {users : List User} {groups : List String} {u : User} (hu : u ∈ users)
    (hnew : u.spec.userGroupRef ∉ groups) :
    (Stage.users (u.spec.userGroupRef :: groups)).left users < (Stage.users groups).left users := by
  refine Nat.succ_lt_succ (countP_lt_countP (fun v _ hv => ?_) hu (by simp) (by simpa using hnew))
  simp only [List.mem_cons, not_or, decide_eq_true_eq] at hv ⊢
  exact hv.2

/-- The transitions of a pass. -/
def Cluster.passLength (c : Cluster) (node : String) : ℕ := c.users.length + (c.secretKeys node).length + 10

namespace Cluster.SameFaces
variable {c c' : Cluster}

theorem users (h : c.SameFaces c') : c'.users = c.users := by
  obtain ⟨nodes, hnodup, rfl, _⟩ := h
  rfl

theorem secretKeys (h : c.SameFaces c') (node : String) : c'.secretKeys node = c.secretKeys node := by
  have hnames := congrArg (List.map fun name => (c.ns, secretName name)) h.names
  rw [List.map_map, List.map_map] at hnames
  obtain ⟨nodes, hnodup, rfl, _⟩ := h
  simp only [Cluster.secretKeys]
  exact congrArg (fun l => (_ :: l) ++ _ ++ _) hnames

theorem hasCredential {N : SingBoxNode} (h : c.SameFaces c') (hN : c.HasCredential N) : c'.HasCredential N := by
  obtain ⟨nodes, hnodup, rfl, _⟩ := h
  exact hN

theorem passLength (h : c.SameFaces c') (node : String) : c'.passLength node = c.passLength node := by
  rw [Cluster.passLength, Cluster.passLength, h.users, h.secretKeys]

theorem left (h : c.SameFaces c') (node : String) (point : NodePoint) : point.left c' node = point.left c node := by
  cases point with
  | fetched | checked => simp only [NodePoint.left, h.users, h.secretKeys]
  | reading N stage read secrets =>
    have hmix : (stage.mix read c).SameFaces (stage.mix read c') := Stage.sameFaces_mix h
    simp only [NodePoint.left, hmix.users, hmix.secretKeys]
  | torn | computed | written => rfl

end Cluster.SameFaces

/-! ## What the status shows -/

namespace Controllers

/-- The NodeReady condition is that of the host as it is. -/
structure ShowsHost (s : Controllers) (N : SingBoxNode) : Prop where
  condition : IsSet (s.record N.name).generation
    (nodeReadyCondition (s.record N.name).nodeRef (s.host (s.record N.name).nodeRef)) (s.record N.name).conditions
  conditions : N.status.conditions = (s.record N.name).shown

/-- The status is the one a pass with this config would write. -/
structure Shows (s : Controllers) (N : SingBoxNode) (configHash : String) : Prop extends s.ShowsHost N where
  reports : (s.record N.name).Reports configHash
  endpoints : N.status.entryEndpoints = entryEndpoints N
  tlsServerName : N.status.tlsServerName = s.tlsServerName N.name

variable {s s' : Controllers} {N : SingBoxNode} {now : Int} {configHash : String}

theorem ShowsHost.nodeReadyRecord_eq (h : s.ShowsHost N) : s.nodeReadyRecord now N.name = s.record N.name := by
  rw [nodeReadyRecord, NodeRecord.setNodeReady, h.condition.setStatusCondition_self]

theorem ShowsHost.nodeReadyStatus_eq (h : s.ShowsHost N) : s.nodeReadyStatus now N = N.status := by
  rw [nodeReadyStatus, h.nodeReadyRecord_eq, ← h.conditions]

theorem Shows.reportRecord_eq (h : s.Shows N configHash) : s.reportRecord now N.name configHash = s.record N.name := by
  obtain ⟨hconditions, hphase, hhash⟩ := h.reports
  rw [reportRecord, NodeRecord.report, hconditions.set_eq, ← hphase, ← hhash]

theorem Shows.reportStatus_eq (h : s.Shows N configHash) : s.reportStatus now N configHash = N.status := by
  rw [reportStatus, h.reportRecord_eq, ← h.conditions, ← h.endpoints, ← h.tlsServerName]

/-- What `updateNodeReadyStatus` writes. -/
theorem showsHost_nodeReady (s' : Controllers) (hrecord : s'.record N.name = s.nodeReadyRecord now N.name)
    (hhost : s'.host = s.host) :
    s'.ShowsHost (N.withStatus (s.nodeReadyStatus now N)) := by
  have hname : (N.withStatus (s.nodeReadyStatus now N)).name = N.name := rfl
  refine ⟨?_, ?_⟩
  · rw [hname, hrecord, hhost]
    exact setStatusCondition_isSet ..
  · rw [hname, hrecord]
    rfl

/-- `updateStatus` writes the rest. -/
theorem ShowsHost.shows_report (h : s.ShowsHost N) (hrecord : s'.record N.name = s.reportRecord now N.name configHash)
    (hhost : s'.host = s.host) (htls : s'.tlsServerName = s.tlsServerName) :
    s'.Shows (N.withStatus (s.reportStatus now N configHash)) configHash := by
  have hname : (N.withStatus (s.reportStatus now N configHash)).name = N.name := rfl
  refine ⟨⟨?_, ?_⟩, ?_, rfl, ?_⟩
  · rw [hname, hrecord, hhost]
    -- the condition of another type stays as it is
    refine h.condition.setStatusCondition_other ?_
    rw [nodeReadyCondition_type]
    decide
  · rw [hname, hrecord]
    rfl
  · rw [hname, hrecord]
    exact NodeRecord.reports_report ..
  · rw [hname, htls]
    rfl

/-- The two states agree in what decides what the status of a node shows. -/
theorem Shows.of_eq (h : s.Shows N configHash) (hrecord : s'.record N.name = s.record N.name) (hhost : s'.host = s.host)
    (htls : s'.tlsServerName N.name = s.tlsServerName N.name) : s'.Shows N configHash := by
  obtain ⟨⟨hcondition, hconditions⟩, hreports, hendpoints, htls'⟩ := h
  rw [← hrecord, ← hhost] at hcondition
  rw [← hrecord] at hconditions hreports
  exact ⟨⟨hcondition, hconditions⟩, hreports, hendpoints, htls'.trans htls.symm⟩

theorem ShowsHost.of_eq (h : s.ShowsHost N) (hrecord : s'.record N.name = s.record N.name) (hhost : s'.host = s.host) :
    s'.ShowsHost N := by
  obtain ⟨hcondition, hconditions⟩ := h
  rw [← hrecord, ← hhost] at hcondition
  rw [← hrecord] at hconditions
  exact ⟨hcondition, hconditions⟩

/-! ## Passes that nothing comes between -/

section
variable [Library] [MapOrder] (flags : Flags)

/-- A pass would find nothing to write. -/
def Quiet (s : Controllers) (node : String) : Prop :=
  ∀ N ∈ s.cluster.nodes, N.name = node → s.configMap node = some (compute (s.cluster.view flags N)) ∧
    s.Shows N (compute (s.cluster.view flags N)).hash

/-- A pass has seen the cluster as it is, and has seen to the NodeReady condition. -/
structure Sees (s : Controllers) (N : SingBoxNode) (point : NodePoint) : Prop where
  agrees : s.world.Agrees flags N point
  host : (∀ N₀, point ≠ .fetched N₀) → s.ShowsHost N
  inbound : ∀ N₀ groups read secrets, point = .reading N₀ (.users groups) read secrets → N₀.hasRole .inbound = true

/-- Nothing has come between the passes for the node, and its credential is there if it needs one. -/
structure Alone (s : Controllers) (node : String) : Prop where
  answers : s.cluster.Answers
  pass : ∀ point, s.nodeWork node = some point →
    ∃ N ∈ s.cluster.nodes, N.name = node ∧ s.deleting node = false ∧ s.Sees flags N point
  credential : ∀ N ∈ s.cluster.nodes, N.name = node → s.deleting node = false → s.cluster.HasCredential N

/-- A pass is over after `left` transitions. It is followed by another one if its node waits,
or is going to because the pass has something to write. -/
noncomputable def rank (s : Controllers) (node : String) : ℕ :=
  (match s.nodeWork node with
    | some point =>
      point.left s.cluster node + weight (node ∈ s.nodeQueue ∨ ¬ s.Quiet flags node) * s.cluster.passLength node
    | none => weight (node ∈ s.nodeQueue) * ((1 + weight (¬ s.Quiet flags node)) * s.cluster.passLength node)) +
    weight ((s.record node).finalizer = false)

omit [Library] [MapOrder] in
/-- What a transition of the pass for one node leaves as it is. -/
structure Frame (s s' : Controllers) (node : String) : Prop where
  sameFaces : s.cluster.SameFaces s'.cluster
  nodes : ∀ M : SingBoxNode, M.name ≠ node → (M ∈ s'.cluster.nodes ↔ M ∈ s.cluster.nodes)
  nodeWork : ∀ name ≠ node, s'.nodeWork name = s.nodeWork name
  nodeQueue : ∀ name ≠ node, (name ∈ s'.nodeQueue ↔ name ∈ s.nodeQueue)
  configMap : ∀ name ≠ node, s'.configMap name = s.configMap name
  record : ∀ name ≠ node, s'.record name = s.record name
  deleting : s'.deleting = s.deleting
  host : s'.host = s.host
  tlsServerName : s'.tlsServerName = s.tlsServerName
  policyQueue : ∀ policy, policy ∈ s'.policies.queue ↔ policy ∈ s.policies.queue
  policyWork : s'.policies.work = s.policies.work

variable {flags} {node name : String} {point point' : NodePoint}

theorem Quiet.of_eq (h : s.Quiet flags node) (hcluster : s'.cluster = s.cluster)
    (hmap : s'.configMap node = s.configMap node)
    (hrecord : s'.record node = s.record node) (hhost : s'.host = s.host)
    (htls : s'.tlsServerName = s.tlsServerName) : s'.Quiet flags node := by
  intro N hN hname
  rw [hcluster] at hN ⊢
  obtain ⟨hcur, hshows⟩ := h N hN hname
  subst hname
  exact ⟨hmap.trans hcur, hshows.of_eq hrecord hhost (congrFun htls _)⟩

namespace Frame

omit [Library] [MapOrder] in
theorem symm (h : s.Frame s' node) : s'.Frame s node where
  sameFaces := h.sameFaces.symm
  nodes M hne := (h.nodes M hne).symm
  nodeWork name hne := (h.nodeWork name hne).symm
  nodeQueue name hne := (h.nodeQueue name hne).symm
  configMap name hne := (h.configMap name hne).symm
  record name hne := (h.record name hne).symm
  deleting := h.deleting.symm
  host := h.host.symm
  tlsServerName := h.tlsServerName.symm
  policyQueue policy := (h.policyQueue policy).symm
  policyWork := h.policyWork.symm

theorem quiet (h : s.Frame s' node) (hne : name ≠ node) (hq : s.Quiet flags name) : s'.Quiet flags name := by
  intro N hN hname
  subst hname
  obtain ⟨hmap, hshows⟩ := hq N ((h.nodes N hne).1 hN) rfl
  rw [h.sameFaces.compute_eq rfl, h.configMap _ hne]
  exact ⟨hmap, hshows.of_eq (h.record _ hne) h.host (congrFun h.tlsServerName _)⟩

/-- The pass for another node is where it was. -/
theorem rank_eq (h : s.Frame s' node) (hne : name ≠ node) : s'.rank flags name = s.rank flags name := by
  have hquiet : s'.Quiet flags name ↔ s.Quiet flags name := ⟨h.symm.quiet hne, h.quiet hne⟩
  simp only [rank, h.nodeWork name hne, h.nodeQueue name hne, hquiet, h.record name hne, h.sameFaces.left,
    h.sameFaces.passLength]

theorem alone (h : s.Frame s' node) (hne : name ≠ node) (ha : s.Alone flags name) : s'.Alone flags name where
  answers := h.sameFaces.answers ha.answers
  pass point hw := by
    obtain ⟨N, hN, rfl, hlive, hsees⟩ := ha.pass point ((h.nodeWork name hne).symm.trans hw)
    refine ⟨N, (h.nodes N hne).2 hN, rfl, by rw [h.deleting]; exact hlive, ?_, fun hp => ?_, hsees.inbound⟩
    · exact hsees.agrees.of_sameFaces h.sameFaces ha.answers rfl (h.configMap _ hne)
    · exact (hsees.host hp).of_eq (h.record _ hne) h.host
  credential N hN hname hlive := by
    subst hname
    rw [h.deleting] at hlive
    exact h.sameFaces.hasCredential (ha.credential N ((h.nodes N hne).1 hN) rfl hlive)

omit [Library] [MapOrder] in
/-- A transition that does not touch the cluster. -/
theorem of_policies_eq (hpolicies : s'.policies = s.policies)
    (hwork : ∀ name ≠ node, s'.nodeWork name = s.nodeWork name)
    (hqueue : ∀ name ≠ node, (name ∈ s'.nodeQueue ↔ name ∈ s.nodeQueue))
    (hmap : ∀ name ≠ node, s'.configMap name = s.configMap name)
    (hrecord : ∀ name ≠ node, s'.record name = s.record name) (hdeleting : s'.deleting = s.deleting)
    (hhost : s'.host = s.host) (htls : s'.tlsServerName = s.tlsServerName) : s.Frame s' node := by
  have hcluster : s'.cluster = s.cluster := by rw [cluster, hpolicies]; rfl
  refine ⟨?_, ?_, hwork, hqueue, hmap, hrecord, hdeleting, hhost, htls, ?_, ?_⟩
  · rw [hcluster]
    exact .refl
  · rw [hcluster]
    exact fun _ _ => Iff.rfl
  · rw [hpolicies]
    exact fun _ => Iff.rfl
  · rw [hpolicies]

omit [Library] [MapOrder] in
theorem move (s : Controllers) (node : String) (point : NodePoint) : s.Frame (s.move node point) node :=
  .of_policies_eq rfl (fun _ hne => Function.update_of_ne hne ..) (fun _ _ => Iff.rfl) (fun _ _ => rfl)
    (fun _ _ => rfl) rfl rfl rfl

omit [Library] [MapOrder] in
theorem mem_filter_queue {queue : List String} (hne : name ≠ node) : name ∈ queue.filter (· ≠ node) ↔ name ∈ queue := by
  simp [hne]

omit [Library] [MapOrder] in
theorem mem_union_queue {queue : List String} {p : Prop} [Decidable p] (hne : name ≠ node) :
    name ∈ queue ∪ (if p then [] else [node]) ↔ name ∈ queue := by
  rw [List.mem_union_iff]
  split <;> simp [hne]

end Frame

/-- The pass for the node is one transition nearer to its end, and nothing else has changed. -/
structure Advances (flags : Flags) (s s' : Controllers) (node : String) : Prop where
  frame : s.Frame s' node
  alone : s'.Alone flags node
  rank : s'.rank flags node < s.rank flags node

/-! ### One transition after the other -/

theorem rank_of_some (hw : s.nodeWork node = some point) :
    s.rank flags node = point.left s.cluster node +
      weight (node ∈ s.nodeQueue ∨ ¬ s.Quiet flags node) * s.cluster.passLength node +
      weight ((s.record node).finalizer = false) := by
  rw [rank, hw]

theorem rank_of_none (hidle : s.nodeWork node = none) :
    s.rank flags node =
      weight (node ∈ s.nodeQueue) * ((1 + weight (¬ s.Quiet flags node)) * s.cluster.passLength node) +
      weight ((s.record node).finalizer = false) := by
  rw [rank, hidle]

/-- A transition within a pass: it may only make its node wait if there was something to write. -/
theorem rank_lt_of_some (hw : s.nodeWork node = some point) (hw' : s'.nodeWork node = some point')
    (hfaces : s.cluster.SameFaces s'.cluster) (hleft : point'.left s.cluster node < point.left s.cluster node)
    (hmore : node ∈ s'.nodeQueue ∨ ¬ s'.Quiet flags node → node ∈ s.nodeQueue ∨ ¬ s.Quiet flags node)
    (hfinalizer : (s'.record node).finalizer = (s.record node).finalizer) :
    s'.rank flags node < s.rank flags node := by
  rw [rank_of_some hw, rank_of_some hw', hfaces.left, hfaces.passLength, hfinalizer]
  have hle := Nat.mul_le_mul_right (s.cluster.passLength node) (weight_mono hmore)
  omega

/-- A read. -/
theorem Alone.move (h : s.Alone flags node) (hw : s.nodeWork node = some point)
    (hsees : ∀ N ∈ s.cluster.nodes, N.name = node → s.Sees flags N point → s.Sees flags N point')
    (hleft : point'.left s.cluster node < point.left s.cluster node) : s.Advances flags (s.move node point') node := by
  refine ⟨.move s node point', ⟨h.answers, fun point'' hw'' => ?_, h.credential⟩, ?_⟩
  · obtain rfl := Option.some.inj (nodeWork_move.symm.trans hw'')
    obtain ⟨N, hN, hname, hlive, hseen⟩ := h.pass point hw
    have hafter := hsees N hN hname hseen
    exact ⟨N, hN, hname, hlive, hafter.agrees, fun hp => (hafter.host hp).of_eq rfl rfl, hafter.inbound⟩
  · exact rank_lt_of_some hw nodeWork_move .refl hleft (Or.imp_right (mt fun hq => hq.of_eq rfl rfl rfl rfl rfl)) rfl

/-- A read of a list, a group or a Secret. -/
theorem Alone.read (h : s.Alone flags node) {N₀ : SingBoxNode} {stage stage' : Stage} {read read' : Cluster}
    {secrets secrets' : Fetched} (hw : s.nodeWork node = some (.reading N₀ stage read secrets))
    (hagrees : ∀ N ∈ s.cluster.nodes, Stage.Agrees flags s.cluster N N₀ stage read secrets →
      Stage.Agrees flags s.cluster N N₀ stage' read' secrets')
    (hinbound : ∀ groups, stage' = .users groups → (∃ groups, stage = .users groups) ∨ N₀.hasRole .inbound = true)
    (hleft : (NodePoint.reading N₀ stage' read' secrets').left s.cluster node <
      (NodePoint.reading N₀ stage read secrets).left s.cluster node) :
    s.Advances flags (s.move node (.reading N₀ stage' read' secrets')) node := by
  refine h.move hw (fun N hN _ hsees => ⟨hagrees N hN hsees.agrees, fun _ => hsees.host ?_, ?_⟩) hleft
  · rintro N₁ ⟨⟩
  · rintro _ groups _ _ ⟨⟩
    rcases hinbound groups rfl with ⟨groups', rfl⟩ | hi
    · exact hsees.inbound N₀ groups' read secrets rfl
    · exact hi

theorem Alone.ignore (h : s.Alone flags node) (hidle : s.nodeWork node = none) (hq : node ∈ s.nodeQueue) :
    s.Advances flags { s with nodeQueue := s.nodeQueue.filter (· ≠ node) } node := by
  set s' : Controllers := { s with nodeQueue := s.nodeQueue.filter (· ≠ node) }
  refine ⟨.of_policies_eq rfl (fun _ _ => rfl) (fun _ hne => Frame.mem_filter_queue hne) (fun _ _ => rfl)
    (fun _ _ => rfl) rfl rfl rfl, ⟨h.answers, fun point hw => ?_, h.credential⟩, ?_⟩
  · cases hidle.symm.trans hw
  · have hout : node ∉ s'.nodeQueue := by simp [s']
    rw [rank_of_none hidle, rank_of_none (s := s') hidle, weight_pos hq, weight_neg hout, Nat.one_mul, Nat.zero_mul]
    exact Nat.add_lt_add_right (Nat.mul_pos (Nat.lt_add_right _ Nat.one_pos) (Nat.succ_pos _)) _

/-- The finalizer is not shown. -/
theorem Quiet.addFinalizer (h : s.Quiet flags node) :
    { s with record := Function.update s.record node { s.record node with finalizer := true } }.Quiet flags node := by
  intro N hN hname
  obtain ⟨hmap, ⟨hcondition, hconditions⟩, hreports, hendpoints, htls⟩ := h N hN hname
  subst hname
  set s' : Controllers :=
    { s with record := Function.update s.record N.name { s.record N.name with finalizer := true } }
  have hrecord : s'.record N.name = { s.record N.name with finalizer := true } := Function.update_self ..
  refine ⟨hmap, ⟨?_, ?_⟩, ?_, hendpoints, htls⟩
  · rw [hrecord]
    exact hcondition
  · rw [hrecord]
    exact hconditions
  · rw [hrecord]
    exact ⟨hreports.conditions, hreports.phase, hreports.configHash⟩

theorem Alone.addFinalizer (h : s.Alone flags node) (hidle : s.nodeWork node = none)
    (hfinalizer : (s.record node).finalizer = false) :
    s.Advances flags { s with record := Function.update s.record node { s.record node with finalizer := true } } node := by
  set s' : Controllers := { s with record := Function.update s.record node { s.record node with finalizer := true } }
  have hrecord : s'.record node = { s.record node with finalizer := true } := Function.update_self ..
  refine ⟨.of_policies_eq rfl (fun _ _ => rfl) (fun _ _ => Iff.rfl) (fun _ _ => rfl)
    (fun _ hne => Function.update_of_ne hne ..) rfl rfl rfl, ⟨h.answers, fun point hw => ?_, h.credential⟩, ?_⟩
  · cases hidle.symm.trans hw
  · have hquiet : s.Quiet flags node → s'.Quiet flags node := Quiet.addFinalizer
    have hnew : weight ((s'.record node).finalizer = false) = 0 := by
      rw [hrecord]
      exact weight_neg Bool.noConfusion
    rw [rank_of_none hidle, rank_of_none (s := s') hidle, hnew, weight_pos hfinalizer]
    have hle := Nat.mul_le_mul_left (weight (node ∈ s.nodeQueue))
      (Nat.mul_le_mul_right (s.cluster.passLength node) (Nat.add_le_add_left (weight_mono (mt hquiet)) 1))
    exact Nat.lt_succ_of_le hle

theorem Alone.get (h : s.Alone flags N.name) (hidle : s.nodeWork N.name = none) (hq : N.name ∈ s.nodeQueue)
    (hN : N ∈ s.cluster.nodes) (hlive : s.deleting N.name = false) :
    s.Advances flags ({ s with nodeQueue := s.nodeQueue.filter (· ≠ N.name) }.move N.name (.fetched N)) N.name := by
  set s' : Controllers := { s with nodeQueue := s.nodeQueue.filter (· ≠ N.name) }
  refine ⟨.of_policies_eq rfl (fun _ hne => Function.update_of_ne hne ..) (fun _ hne => Frame.mem_filter_queue hne)
    (fun _ _ => rfl) (fun _ _ => rfl) rfl rfl rfl, ⟨h.answers, fun point hw => ?_, h.credential⟩, ?_⟩
  · obtain rfl := Option.some.inj (nodeWork_move.symm.trans hw)
    exact ⟨N, hN, rfl, hlive, rfl, fun hp => absurd rfl (hp N), by rintro _ _ _ _ ⟨⟩⟩
  · have hout : N.name ∈ s.nodeQueue.filter (· ≠ N.name) ∨ ¬ (s'.move N.name (.fetched N)).Quiet flags N.name →
        ¬ s.Quiet flags N.name := by
      rintro (hmem | hnot) hquiet
      · simp at hmem
      · exact hnot (hquiet.of_eq rfl rfl rfl rfl rfl)
    rw [rank_of_none hidle, rank_of_some (s := s'.move N.name (.fetched N)) nodeWork_move, weight_pos hq]
    have hle := Nat.mul_le_mul_right (s.cluster.passLength N.name) (weight_mono hout)
    have hlt : (NodePoint.fetched N).left s.cluster N.name < s.cluster.passLength N.name := Nat.lt_succ_self _
    rw [Nat.one_mul, Nat.add_mul, Nat.one_mul]
    exact Nat.add_lt_add_right (Nat.add_lt_add_of_lt_of_le hlt hle) _

section
variable {status : SingBoxNodeStatus} {record : NodeRecord} {policies : PolicyController}

omit [MapOrder] in
theorem Frame.updated (hwrite : StatusWrite s.policies N status policies) :
    s.Frame (s.updated N status record policies) N.name where
  sameFaces := hwrite.sameFaces
  nodes := hwrite.others
  nodeWork _ _ := rfl
  nodeQueue name hne := by
    simp only [Controllers.updated, nodeRequests_statusUpdate]
    exact Frame.mem_union_queue hne
  configMap _ _ := rfl
  record _ hne := Function.update_of_ne hne ..
  deleting := rfl
  host := rfl
  tlsServerName := rfl
  policyQueue := hwrite.queue
  policyWork := hwrite.work

/-- The write of the status that is there already changes nothing. -/
theorem quiet_updated (hwrite : StatusWrite s.policies N status policies) (hstatus : status = N.status)
    (hrecord : record = s.record N.name) (hq : N.name ∉ s.nodeQueue) (hquiet : s.Quiet flags N.name) :
    N.name ∉ (s.updated N status record policies).nodeQueue ∧
      (s.updated N status record policies).Quiet flags N.name := by
  refine ⟨?_, hquiet.of_eq (hwrite.same hstatus) rfl ?_ rfl rfl⟩
  · simp only [Controllers.updated, if_pos (And.intro hstatus hrecord), List.mem_union_iff, List.not_mem_nil, or_false]
    exact hq
  · simp only [Controllers.updated, Function.update_self, hrecord]

end

theorem Alone.updateNodeReadyStatus (h : s.Alone flags N.name) {N₀ : SingBoxNode}
    (hw : s.nodeWork N.name = some (.fetched N₀)) {policies : PolicyController}
    (hwrite : StatusWrite s.policies N (s.nodeReadyStatus now N) policies) :
    s.Advances flags
      ((s.updated N (s.nodeReadyStatus now N) (s.nodeReadyRecord now N.name) policies).move N.name (.checked N₀))
      N.name := by
  set u := s.updated N (s.nodeReadyStatus now N) (s.nodeReadyRecord now N.name) policies
  have hframe : s.Frame u N.name := .updated hwrite
  have hrecord : u.record N.name = s.nodeReadyRecord now N.name := Function.update_self ..
  obtain ⟨N', hN', hname, hlive, hsees⟩ := h.pass _ hw
  obtain rfl := Cluster.node_unique hN' hwrite.mem hname
  refine ⟨⟨hframe.sameFaces, hframe.nodes, fun name hne => Function.update_of_ne hne .., hframe.nodeQueue,
    hframe.configMap, hframe.record, rfl, rfl, rfl, hframe.policyQueue, hframe.policyWork⟩,
    ⟨hwrite.answers, fun point hw' => ?_, fun M hM hM' _ => ?_⟩, ?_⟩
  · obtain rfl := Option.some.inj (nodeWork_move.symm.trans hw')
    refine ⟨_, hwrite.written, rfl, hlive, hsees.agrees, fun _ => ?_, by rintro _ _ _ _ ⟨⟩⟩
    exact showsHost_nodeReady (u.move N'.name (.checked N₀)) hrecord rfl
  · obtain rfl := Cluster.node_unique hM hwrite.written hM'
    exact hframe.sameFaces.hasCredential (h.credential N' hwrite.mem rfl hlive)
  · refine rank_lt_of_some hw nodeWork_move hframe.sameFaces (Nat.lt_succ_self _) (fun hmore => ?_) ?_
    · by_contra hnot
      rw [not_or, not_not] at hnot
      have hshows := (hnot.2 N' hwrite.mem rfl).2.toShowsHost
      have hsame : N'.name ∉ u.nodeQueue ∧ u.Quiet flags N'.name :=
        quiet_updated hwrite hshows.nodeReadyStatus_eq hshows.nodeReadyRecord_eq hnot.1 hnot.2
      exact hmore.elim hsame.1 fun hnot => hnot (hsame.2.of_eq rfl rfl rfl rfl rfl)
    · exact (congrArg NodeRecord.finalizer hrecord).trans rfl

/-- The config a pass has computed is that of the cluster as it is. -/
theorem Alone.computed_eq (h : s.Alone flags N.name) {output : Output}
    (hw : s.nodeWork N.name = some (.computed output)) (hN : N ∈ s.cluster.nodes) :
    output = compute (s.cluster.view flags N) := by
  obtain ⟨N', hN', hname, _, hsees⟩ := h.pass _ hw
  obtain rfl := Cluster.node_unique hN' hN hname
  exact Except.ok.inj (Eq.symm hsees.agrees |>.trans (h.answers.output_eq flags))

/-- And so is the one it has written. -/
theorem Alone.written_eq (h : s.Alone flags N.name) {output : Output}
    (hw : s.nodeWork N.name = some (.written output)) (hN : N ∈ s.cluster.nodes) :
    output = compute (s.cluster.view flags N) := by
  obtain ⟨N', hN', hname, _, hsees⟩ := h.pass _ hw
  obtain rfl := Cluster.node_unique hN' hN hname
  exact Except.ok.inj (hsees.agrees.computed.symm.trans (h.answers.output_eq flags))

theorem Alone.updateStatus (h : s.Alone flags N.name) {output : Output}
    (hw : s.nodeWork N.name = some (.written output)) {policies : PolicyController}
    (hwrite : StatusWrite s.policies N (s.reportStatus now N output.hash) policies) :
    s.Advances flags
      ((s.updated N (s.reportStatus now N output.hash) (s.reportRecord now N.name output.hash) policies).done N.name)
      N.name := by
  set u := s.updated N (s.reportStatus now N output.hash) (s.reportRecord now N.name output.hash) policies
  have hframe : s.Frame u N.name := .updated hwrite
  have hrecord : u.record N.name = s.reportRecord now N.name output.hash := Function.update_self ..
  have hdone : (u.done N.name).nodeWork N.name = none := Function.update_self ..
  obtain ⟨N', hN', hname, hlive, hsees⟩ := h.pass _ hw
  obtain rfl := Cluster.node_unique hN' hwrite.mem hname
  have houtput := h.written_eq hw hN'
  -- whatever was to be written before, nothing is afterwards
  have hquiet : (u.done N'.name).Quiet flags N'.name := by
    intro M hM hM'
    obtain rfl := Cluster.node_unique hM hwrite.written hM'
    have hcur : compute ((u.done N'.name).cluster.view flags (N'.withStatus (s.reportStatus now N' output.hash))) =
        output := (hframe.sameFaces.compute_eq rfl flags).trans houtput.symm
    rw [hcur]
    exact ⟨hsees.agrees.configMap, (hsees.host (by rintro _ ⟨⟩)).shows_report hrecord rfl rfl⟩
  have hmore : N'.name ∈ u.nodeQueue → N'.name ∈ s.nodeQueue ∨ ¬ s.Quiet flags N'.name := by
    intro hmem
    by_contra hnot
    rw [not_or, not_not] at hnot
    have hshows := (hnot.2 N' hwrite.mem rfl).2
    rw [← houtput] at hshows
    exact (quiet_updated hwrite hshows.reportStatus_eq hshows.reportRecord_eq hnot.1 hnot.2).1 hmem
  refine ⟨⟨hframe.sameFaces, hframe.nodes, fun name hne => Function.update_of_ne hne .., hframe.nodeQueue,
    hframe.configMap, hframe.record, rfl, rfl, rfl, hframe.policyQueue, hframe.policyWork⟩,
    ⟨hwrite.answers, fun point hw' => ?_, fun M hM hM' _ => ?_⟩, ?_⟩
  · cases hdone.symm.trans hw'
  · obtain rfl := Cluster.node_unique hM hwrite.written hM'
    exact hframe.sameFaces.hasCredential (h.credential N' hwrite.mem rfl hlive)
  · have hfinalizer : ((u.done N'.name).record N'.name).finalizer = (s.record N'.name).finalizer :=
      (congrArg NodeRecord.finalizer hrecord).trans rfl
    have hlength : (u.done N'.name).cluster.passLength N'.name = s.cluster.passLength N'.name :=
      hframe.sameFaces.passLength _
    rw [rank_of_some hw, rank_of_none hdone, hfinalizer, hlength, weight_neg (not_not.2 hquiet), Nat.add_zero, Nat.one_mul]
    have hle := Nat.mul_le_mul_right (s.cluster.passLength N'.name) (weight_mono hmore)
    refine Nat.add_lt_add_right (Nat.lt_of_le_of_lt hle ?_) _
    exact Nat.lt_add_of_pos_left Nat.one_pos

theorem Alone.reconcileConfigMap (h : s.Alone flags node) {output : Output}
    (hw : s.nodeWork node = some (.computed output)) :
    s.Advances flags
      ({ s with
        configMap := Function.update s.configMap node (some output)
        nodeQueue := s.nodeQueue ∪ if s.configMap node = some output then [] else [node] }.move node
          (.written output)) node := by
  set u : Controllers :=
    { s with
      configMap := Function.update s.configMap node (some output)
      nodeQueue := s.nodeQueue ∪ if s.configMap node = some output then [] else [node] }
  have hmap : u.configMap node = some output := Function.update_self ..
  obtain ⟨N, hN, rfl, hlive, hsees⟩ := h.pass _ hw
  have houtput := h.computed_eq hw hN
  refine ⟨.of_policies_eq rfl (fun _ hne => Function.update_of_ne hne ..) (fun _ hne => Frame.mem_union_queue hne)
    (fun _ hne => Function.update_of_ne hne ..) (fun _ _ => rfl) rfl rfl rfl,
    ⟨h.answers, fun point hw' => ?_, h.credential⟩, ?_⟩
  · obtain rfl := Option.some.inj (nodeWork_move.symm.trans hw')
    refine ⟨N, hN, rfl, hlive, ⟨hsees.agrees, hmap⟩, fun _ => (hsees.host ?_).of_eq rfl rfl, by rintro _ _ _ _ ⟨⟩⟩
    rintro _ ⟨⟩
  · refine rank_lt_of_some hw nodeWork_move .refl (Nat.lt_succ_self _) (fun hmore => ?_) rfl
    by_contra hnot
    rw [not_or, not_not] at hnot
    have hsame : s.configMap N.name = some output := houtput ▸ (hnot.2 N hN rfl).1
    refine hmore.elim (fun hmem => ?_) fun hmore => hmore (hnot.2.of_eq rfl (hmap.trans hsame.symm) rfl rfl rfl)
    have hqueue : u.nodeQueue = s.nodeQueue ∪ [] := congrArg (s.nodeQueue ∪ ·) (if_pos hsame)
    have hmem' : N.name ∈ s.nodeQueue ∪ [] := hqueue ▸ hmem
    simp only [List.mem_union_iff, List.not_mem_nil, or_false] at hmem'
    exact hnot.1 hmem'

/-- Nothing has to be created. -/
theorem Alone.not_createCredential (h : s.Alone flags N.name) (hw : s.nodeWork N.name = some (.checked N))
    {calls : Calls} {data : GoMap String String}
    (hmissing : ∀ data, s.cluster.secret s.cluster.ns (secretName N.name) ≠ .ok data)
    (hcreate : SingboxOperator.ensureCredential s.cluster N calls =
      .ok (s.cluster.withSecret s.cluster.ns (secretName N.name) (.ok data))) : False := by
  obtain ⟨N', hN', hname, hlive, hsees⟩ := h.pass _ hw
  have hface : Cluster.face N = Cluster.face N' := hsees.agrees
  have hcred : s.cluster.HasCredential N := by
    intro ho
    rw [← hname]
    exact h.credential N' hN' hname hlive ((Cluster.hasRole_of_face hface .outbound).symm.trans ho)
  have hsame := Except.ok.inj ((hcred.ensureCredential_eq calls).symm.trans hcreate)
  refine hmissing data ?_
  rw [hsame]
  exact if_pos ⟨rfl, rfl⟩

omit [Library] [MapOrder] in
/-- The policies are listed after the groups, or after the external outbounds. -/
theorem stage_of_listPolicies {N₀ : SingBoxNode} {stage : Stage} {read : Cluster}
    (hstage : if N₀.hasRole .inbound then ∃ groups, stage = .users groups ∧
        ∀ u ∈ read.users, u.spec.userGroupRef = "" ∨ u.spec.userGroupRef ∈ groups
      else stage = .externalOutbounds) :
    stage ≠ .node ∧ ∀ users, Stage.policies.left users < stage.left users := by
  split at hstage
  · obtain ⟨groups, rfl, _⟩ := hstage
    exact ⟨by rintro ⟨⟩, fun _ => Nat.succ_pos _⟩
  · subst hstage
    exact ⟨by rintro ⟨⟩, fun _ => Nat.succ_pos _⟩

/-- Every transition brings the pass for its node nearer to the end. -/
theorem Step.advances {a : ControllersTransition} (hstep : s.Step flags a s') (ha : a.ofNode = some node)
    (h : s.Alone flags node) : s.Advances flags s' node := by
  cases hstep with
  | change | changeHost | changeSecret | policy | triggerNodeReconcile | enqueue | statusNotUpdated | fail => cases ha
  | ignore hidle hq _ =>
    cases ha
    exact h.ignore hidle hq
  | addFinalizer hidle _ _ _ hfinalizer =>
    cases ha
    exact h.addFinalizer hidle hfinalizer
  | get hidle hq hN hlive _ =>
    cases ha
    exact h.get hidle hq hN hlive
  | updateNodeReadyStatus hw hchange =>
    cases ha
    exact h.updateNodeReadyStatus hw hchange.statusWrite
  | ensureCredential hw _ =>
    cases ha
    refine h.move hw (fun N _ _ hsees => ⟨.start flags h.answers hsees.agrees, fun _ => hsees.host ?_, ?_⟩) ?_
    · rintro _ ⟨⟩
    · rintro _ _ _ _ ⟨⟩
    · exact NodePoint.left_start
  | createCredential hw hmissing hcreate =>
    cases ha
    exact (h.not_createCredential hw hmissing hcreate).elim
  | @getSecret _ _ _ _ _ key hw hkey hnew =>
    cases ha
    exact h.read hw (fun _ _ hr => hr.getSecret key) (fun groups hs => .inl ⟨groups, hs⟩)
      (NodePoint.left_getSecret hkey hnew _)
  | @tearSecret _ _ _ _ secrets key result hw hread hother =>
    cases ha
    obtain ⟨N, _, _, _, hsees⟩ := h.pass _ hw
    have hagrees : Stage.Agrees .. := hsees.agrees
    exact absurd (hagrees.fetched key result hread) hother
  | listNodes hw =>
    cases ha
    exact h.read hw (fun _ hN hr => hr.listNodes h.answers hN) (by rintro _ ⟨⟩)
      (NodePoint.left_read rfl (Nat.lt_succ_self _))
  | listExternalOutbounds hw =>
    cases ha
    exact h.read hw (fun _ _ hr => hr.listExternalOutbounds h.answers) (by rintro _ ⟨⟩)
      (NodePoint.left_read rfl (Nat.lt_succ_self _))
  | listUsers hw hi =>
    cases ha
    exact h.read hw (fun _ _ hr => hr.listUsers h.answers) (fun _ _ => .inr hi)
      (NodePoint.left_read Stage.mix_users_nil (Stage.left_users_nil _))
  | @getUserGroup _ _ groups _ _ u hw hu _ hnew =>
    cases ha
    exact h.read hw (fun _ _ hr => hr.getUserGroup h.answers _) (fun _ _ => .inl ⟨groups, rfl⟩)
      (NodePoint.left_read (Stage.mix_users_cons _) (Stage.left_users_cons hu hnew))
  | @tearUserGroup _ N₀ groups read secrets u hw hu hi hmem hother =>
    cases ha
    obtain ⟨N, _, _, _, hsees⟩ := h.pass _ hw
    have hagrees : Stage.Agrees .. := hsees.agrees
    have hi' : N.hasRole .inbound = true := (Cluster.hasRole_of_face hagrees.node .inbound).symm.trans hi
    exact absurd (hagrees.groups groups rfl hi' u (hagrees.users groups rfl hi' ▸ hu) hmem) hother
  | @listPolicies _ N₀ stage read secrets hw hstage =>
    cases ha
    obtain ⟨hne, hleft⟩ := stage_of_listPolicies hstage
    exact h.read hw (fun _ _ hr => hr.listPolicies h.answers hne) (by rintro _ ⟨⟩)
      (NodePoint.left_read Stage.mix_policies (hleft _))
  | compute hw houtput =>
    cases ha
    refine h.move hw (fun N _ _ hsees => ⟨?_, fun _ => hsees.host ?_, ?_⟩) ?_
    · exact (Stage.Agrees.output_eq hsees.agrees h.answers).symm.trans houtput
    · rintro _ ⟨⟩
    · rintro _ _ _ _ ⟨⟩
    · simp only [NodePoint.left]
      omega
  | computeTorn hw =>
    cases ha
    obtain ⟨N, _, _, _, hsees⟩ := h.pass _ hw
    exact hsees.agrees.elim
  | reconcileConfigMap hw =>
    cases ha
    exact h.reconcileConfigMap hw
  | updateStatus hw hchange =>
    cases ha
    exact h.updateStatus hw hchange.statusWrite

/-- A pass that finds nothing to write leaves the cluster as it is. -/
theorem Step.quiet {a : ControllersTransition} (hstep : s.Step flags a s') (ha : a.ofNode = some node)
    (h : s.Alone flags node) (hquiet : s.Quiet flags node) : s'.cluster = s.cluster ∧ s'.Quiet flags node := by
  cases hstep with
  | change | changeHost | changeSecret | policy | triggerNodeReconcile | enqueue | statusNotUpdated | fail => cases ha
  | addFinalizer =>
    cases ha
    exact ⟨rfl, hquiet.addFinalizer⟩
  | createCredential hw hmissing hcreate =>
    cases ha
    exact (h.not_createCredential hw hmissing hcreate).elim
  | @updateNodeReadyStatus N N₀ now policies hw hchange =>
    cases ha
    have hshows := (hquiet N hchange.statusWrite.mem rfl).2.toShowsHost
    have hsame := hchange.statusWrite.same hshows.nodeReadyStatus_eq
    refine ⟨hsame, hquiet.of_eq hsame rfl ?_ rfl rfl⟩
    exact (Function.update_self ..).trans hshows.nodeReadyRecord_eq
  | @updateStatus N output now policies hw hchange =>
    cases ha
    have hN := hchange.statusWrite.mem
    have hshows := (hquiet N hN rfl).2
    rw [← h.written_eq hw hN] at hshows
    have hsame := hchange.statusWrite.same hshows.reportStatus_eq
    refine ⟨hsame, hquiet.of_eq hsame rfl ?_ rfl rfl⟩
    exact (Function.update_self ..).trans hshows.reportRecord_eq
  | @reconcileConfigMap _ output hw =>
    cases ha
    obtain ⟨N, hN, rfl, _, _⟩ := h.pass _ hw
    refine ⟨rfl, hquiet.of_eq rfl ?_ rfl rfl rfl⟩
    obtain rfl := h.computed_eq hw hN
    exact (Function.update_self ..).trans (hquiet N hN rfl).1.symm
  | ignore | get | ensureCredential | getSecret | tearSecret | listNodes | listExternalOutbounds | listUsers
  | getUserGroup | tearUserGroup | listPolicies | compute | computeTorn =>
    cases ha
    exact ⟨rfl, hquiet.of_eq rfl rfl rfl rfl rfl⟩

/-! ## Whole runs -/

omit [Library] [MapOrder] in
/-- The node waits, or a pass for it is under way. -/
def Active (s : Controllers) (node : String) : Prop := node ∈ s.nodeQueue ∨ s.nodeWork node ≠ none

omit [Library] [MapOrder] in
theorem Frame.active_iff (h : s.Frame s' node) (hne : name ≠ node) : s'.Active name ↔ s.Active name := by
  rw [Active, Active, h.nodeQueue name hne, h.nodeWork name hne]

theorem Step.active {a : ControllersTransition} (hstep : s.Step flags a s') (ha : a.ofNode = some node) :
    s.Active node := by
  cases hstep with
  | change | changeHost | changeSecret | policy | triggerNodeReconcile | enqueue | statusNotUpdated | fail => cases ha
  | ignore _ hq _ | addFinalizer _ hq _ _ _ | get _ hq _ _ _ =>
    cases ha
    exact .inl hq
  | updateNodeReadyStatus hw | ensureCredential hw | createCredential hw | getSecret hw | tearSecret hw | listNodes hw
  | listExternalOutbounds hw | listUsers hw | getUserGroup hw | tearUserGroup hw | listPolicies hw | compute hw
  | computeTorn hw | reconcileConfigMap hw | updateStatus hw =>
    cases ha
    exact .inr (by rw [hw]; rintro ⟨⟩)

/-- The passes do nothing that could get lost. -/
theorem Step.noticed {a : ControllersTransition} (hstep : s.Step flags a s') (ha : a.ofNode = some node)
    (h : s.Alone flags node) : Noticed flags s a := by
  refine ⟨?_, ?_, fun c hc => ?_⟩
  · rintro policy node now rfl
    cases ha
  · rintro ev rfl
    cases ha
  · cases hstep with
    | createCredential hw hmissing hcreate =>
      cases ha
      exact (h.not_createCredential hw hmissing hcreate).elim
    | changeSecret => cases ha
    | _ => cases hc

/-- As long as a live node waits or is being reconciled, its pass can go on. -/
theorem Alone.exists_step (h : s.Alone flags N.name) (hN : N ∈ s.cluster.nodes) (hlive : s.deleting N.name = false)
    (hactive : s.Active N.name) :
    ∃ a s', s.Step flags a s' ∧ a.ofNode = some N.name ∧
      (a = .updateStatus N.name → ∃ output, s.nodeWork N.name = some (.written output)) := by
  cases hw : s.nodeWork N.name with
  | none =>
    have hq : N.name ∈ s.nodeQueue := hactive.resolve_right fun hne => hne hw
    cases hfinalizer : (s.record N.name).finalizer with
    | false => exact ⟨_, _, .addFinalizer hw hq hN hlive hfinalizer, rfl, by rintro ⟨⟩⟩
    | true => exact ⟨_, _, .get hw hq hN hlive hfinalizer, rfl, by rintro ⟨⟩⟩
  | some point =>
    obtain ⟨N', hN', hname, _, hsees⟩ := h.pass point hw
    obtain rfl := Cluster.node_unique hN' hN hname
    -- the status of the node can be written
    have hwrite : ∀ status, ∃ policies, s.policies.Step (.change (N'.statusUpdate status)) policies := by
      intro status
      obtain ⟨nodes, hnodup, hstep⟩ := Cluster.step_statusUpdate status hN
      exact ⟨_, .change hstep ⟨h.answers.list, h.answers.group⟩ fun _ _ => rfl⟩
    cases point with
    | fetched N₀ =>
      obtain ⟨policies, hstep⟩ := hwrite (s.nodeReadyStatus 0 N')
      exact ⟨_, _, .updateNodeReadyStatus hw hstep, rfl, by rintro ⟨⟩⟩
    | checked N₀ =>
      have hface : Cluster.face N₀ = Cluster.face N' := hsees.agrees
      have hcred : s.cluster.HasCredential N₀ := by
        intro ho
        rw [Cluster.name_of_face hface]
        exact h.credential N' hN rfl hlive ((Cluster.hasRole_of_face hface .outbound).symm.trans ho)
      exact ⟨_, _, .ensureCredential hw (hcred.ensureCredential_eq {}), rfl, by rintro ⟨⟩⟩
    | reading N₀ stage read secrets =>
      have hagrees : Stage.Agrees .. := hsees.agrees
      cases stage with
      | node => exact ⟨_, _, .listNodes hw, rfl, by rintro ⟨⟩⟩
      | nodes => exact ⟨_, _, .listExternalOutbounds hw, rfl, by rintro ⟨⟩⟩
      | externalOutbounds =>
        by_cases hi : N₀.hasRole .inbound = true
        · exact ⟨_, _, .listUsers hw hi, rfl, by rintro ⟨⟩⟩
        · exact ⟨_, _, .listPolicies hw (by rw [if_neg hi]), rfl, by rintro ⟨⟩⟩
      | users groups =>
        by_cases hall : ∀ u ∈ read.users, u.spec.userGroupRef = "" ∨ u.spec.userGroupRef ∈ groups
        · refine ⟨_, _, .listPolicies hw ?_, rfl, by rintro ⟨⟩⟩
          rw [if_pos (hsees.inbound N₀ groups read secrets rfl)]
          exact ⟨groups, rfl, hall⟩
        · simp only [not_forall, not_or] at hall
          obtain ⟨u, hu, href, hnew⟩ := hall
          exact ⟨_, _, .getUserGroup hw hu href hnew, rfl, by rintro ⟨⟩⟩
      | policies =>
        exact ⟨_, _, .compute hw (hagrees.answers.withSecrets.output_eq flags), rfl, by rintro ⟨⟩⟩
    | torn => exact hsees.agrees.elim
    | computed output => exact ⟨_, _, .reconcileConfigMap hw, rfl, by rintro ⟨⟩⟩
    | written output =>
      obtain ⟨policies, hstep⟩ := hwrite (s.reportStatus 0 N' output.hash)
      exact ⟨_, _, .updateStatus hw hstep, rfl, fun _ => ⟨output, rfl⟩⟩

/-- Two passes at most, from anywhere. -/
theorem rank_le_of_none (s : Controllers) (hidle : s.nodeWork node = none) :
    s.rank flags node ≤ 2 * s.cluster.passLength node + weight ((s.record node).finalizer = false) := by
  rw [rank_of_none hidle]
  have hq := weight_le (node ∈ s.nodeQueue)
  have hmore := weight_le (¬ s.Quiet flags node)
  have hmul := Nat.mul_le_mul hq (Nat.mul_le_mul_right (s.cluster.passLength node) (Nat.add_le_add_left hmore 1))
  omega

theorem rank_le (s : Controllers) (hidle : s.nodeWork node = none) :
    s.rank flags node ≤ 2 * s.cluster.passLength node + 1 :=
  (s.rank_le_of_none hidle).trans (Nat.add_le_add_left (weight_le _) _)

theorem weight_le_rank (s : Controllers) (node : String) :
    weight ((s.record node).finalizer = false) ≤ s.rank flags node := Nat.le_add_left _ _

/-- Nothing comes between the passes, and only the nodes of the list are active. -/
structure OnItsOwn (flags : Flags) (names : List String) (s : Controllers) : Prop where
  alone : ∀ node, s.Alone flags node
  active : ∀ node, s.Active node → node ∈ names

/-- What is left to do for the nodes of the list. -/
noncomputable def total (flags : Flags) (names : List String) (s : Controllers) : ℕ :=
  (names.map (s.rank flags)).sum

theorem Advances.total_lt {names : List String} (h : s.Advances flags s' node) (hmem : node ∈ names) :
    s'.total flags names < s.total flags names := by
  refine List.sum_lt_sum _ _ (fun name _ => ?_) ⟨node, hmem, h.rank⟩
  by_cases hne : name = node
  · rw [hne]
    exact h.rank.le
  · exact (h.frame.rank_eq hne).le

theorem OnItsOwn.step {names : List String} {a : ControllersTransition} (h : s.OnItsOwn flags names)
    (hstep : s.Step flags a s') (ha : a.ofNode = some node) :
    s'.OnItsOwn flags names ∧ s'.total flags names < s.total flags names := by
  have hadvances := hstep.advances ha (h.alone node)
  have hmem := h.active node (hstep.active ha)
  refine ⟨⟨fun name => ?_, fun name hname => ?_⟩, hadvances.total_lt hmem⟩
  · by_cases hne : name = node
    · rw [hne]
      exact hadvances.alone
    · exact hadvances.frame.alone hne (h.alone name)
  · by_cases hne : name = node
    · rw [hne]
      exact hmem
    · exact h.active name ((hadvances.frame.active_iff hne).1 hname)

omit [Library] [MapOrder] in
/-- No policy waits or is being reconciled. -/
def PoliciesRest (s : Controllers) : Prop :=
  ∀ p ∈ s.cluster.policies, p.name ∉ s.policies.queue ∧ s.policies.work p.name = none

omit [Library] [MapOrder] in
theorem Frame.policiesRest (h : s.Frame s' node) (hrest : s.PoliciesRest) : s'.PoliciesRest := by
  intro p hp
  rw [h.sameFaces.policies] at hp
  rw [h.policyQueue, h.policyWork]
  exact hrest p hp

/-- What holds while the reconciler of nodes is left to itself, from `s₀` on. -/
structure LeftAlone (flags : Flags) (s₀ s : Controllers) : Prop extends s.OnItsOwn flags s₀.nodeQueue where
  reached : s.Reached flags
  policies : s.PoliciesRest
  sameFaces : s₀.cluster.SameFaces s.cluster
  deleting : s.deleting = s₀.deleting

section
variable {s₀ : Controllers}

theorem LeftAlone.refl (h : s.Reached flags) (hidle : ∀ node, s.nodeWork node = none) (hpolicies : s.PoliciesRest)
    (hcred : ∀ N ∈ s.cluster.nodes, s.deleting N.name = false → s.cluster.HasCredential N) : s.LeftAlone flags s where
  alone node := by
    refine ⟨h.inv.answers, fun point hw => ?_, fun N hN hname hlive => hcred N hN (hname ▸ hlive)⟩
    cases (hidle node).symm.trans hw
  active node hactive := hactive.resolve_right fun hwork => hwork (hidle node)
  reached := h
  policies := hpolicies
  sameFaces := .refl
  deleting := rfl

theorem LeftAlone.step {a : ControllersTransition} (h : s₀.LeftAlone flags s) (hstep : s.Step flags a s')
    (ha : a.ofNode ≠ none) :
    s₀.LeftAlone flags s' ∧ s'.total flags s₀.nodeQueue < s.total flags s₀.nodeQueue := by
  obtain ⟨node, ha⟩ := Option.ne_none_iff_exists'.1 ha
  have hframe := (hstep.advances ha (h.alone node)).frame
  obtain ⟨hown, hlt⟩ := h.toOnItsOwn.step hstep ha
  exact ⟨⟨hown, h.reached.step hstep (hstep.noticed ha (h.alone node)), hframe.policiesRest h.policies,
    h.sameFaces.trans hframe.sameFaces, hframe.deleting.trans h.deleting⟩, hlt⟩

/-- There is a run to where nothing is left to do. -/
theorem LeftAlone.exists_end (h : s.LeftAlone flags s) :
    ∃ trace s', Run (Controllers.Step flags) s trace s' ∧ (∀ x ∈ trace, x.2.1.ofNode ≠ none) ∧
      s.LeftAlone flags s' ∧ ∀ a s'', s'.Step flags a s'' → a.ofNode = none := by
  have hstep : ∀ (t : Controllers) a t', t.Step flags a t' → a.ofNode ≠ none → s.LeftAlone flags t →
      s.LeftAlone flags t' ∧ t'.total flags s.nodeQueue < t.total flags s.nodeQueue :=
    fun t a t' hs ha ht => ht.step hs ha
  obtain ⟨trace, s', hrun, hown, hend⟩ := exists_run_to_end
    (P := fun _ (a : ControllersTransition) => a.ofNode ≠ none) hstep h
  refine ⟨trace, s', hrun, hown, ?_, fun a s'' hs => not_not.1 (hend a s'' hs)⟩
  exact (hrun.invariant h (fun t a t' hs ha ht => (ht.step hs ha).1) hown).1

end

end

end Controllers

section
variable [Library] [MapOrder] {flags : Flags} {s : Controllers} {N : SingBoxNode}

end

/-! ### Two inbound nodes and a user -/

section
attribute [local instance] plainLibrary storedOrder

end

end SingboxOperator
