import SingboxOperator.Controller.ListOrder
/-!
# The status of a policy

`collectInput` resolves every selector anew, "not potentially stale policy
status", to decide which policies apply. The engine then reads the status all
the same and resolves only when it is empty. So a status that names another
usable target, or none, changes what is routed where.
-/
open SingboxOperator.Lib

namespace SingboxOperator

/-- The policy with the status `f` gives it. -/
def EgressPolicy.restatus (f : EgressPolicy → EgressPolicyStatus) (p : EgressPolicy) : EgressPolicy :=
  { p with status := f p }

namespace Cluster

/-- The cluster with other policy statuses. -/
def withStatus (c : Cluster) (f : EgressPolicy → EgressPolicyStatus) : Cluster :=
  { c with
    policies := c.policies.map (·.restatus f)
    policies_nodup := by rw [List.map_map]; exact c.policies_nodup }

variable {c : Cluster} {N : SingBoxNode} {f : EgressPolicy → EgressPolicyStatus}

theorem readable_withStatus : (c.withStatus f).Readable N ↔ c.Readable N := Iff.rfl

section
variable [Library]

/-- Which policies apply does not depend on their status. -/
theorem kept_withStatus : (c.withStatus f).kept N = (c.kept N).map (·.restatus f) := List.filter_map

theorem egressName_withStatus : (c.withStatus f).egressName = c.egressName := rfl

theorem visibleNodes_withStatus : (c.withStatus f).visibleNodes N = c.visibleNodes N := by
  rw [visibleNodes, kept_withStatus, List.filterMap_map]
  rfl

theorem visibleExternals_withStatus : (c.withStatus f).visibleExternals N = c.visibleExternals N := by
  rw [visibleExternals, kept_withStatus, List.filterMap_map]
  rfl

variable [MapOrder]

theorem usable_withStatus {t : String} : (c.withStatus f).Usable N t ↔ c.Usable N t := by
  unfold Usable
  rw [visibleNodes_withStatus, visibleExternals_withStatus]
  rfl

theorem agree_withStatus (flags : Flags) : (c.view flags N).Agree ((c.withStatus f).view flags N) := by
  have hview : (c.withStatus f).view flags N = { c.view flags N with egressPolicies := (c.withStatus f).kept N } := by
    unfold view
    rw [visibleNodes_withStatus, visibleExternals_withStatus]
    rfl
  rw [hview]
  constructor <;> intros <;> rfl

/-- The two policies have the same egress as far as it can be used. -/
def SameEgress (c : Cluster) (N : SingBoxNode) (p p' : EgressPolicy) : Prop :=
  c.Usable N (c.egressName p) ∨ c.Usable N (c.egressName p') → c.egressName p' = c.egressName p

theorem activeEgress_withStatus (flags : Flags) {p : EgressPolicy} (hp : p ∈ c.kept N) {t : String} :
    activeEgress ((c.withStatus f).view flags N) (p.restatus f) = some t ↔
      p.spec.action = .route ∧ c.Usable N (c.egressName (p.restatus f)) ∧ c.egressName (p.restatus f) = t := by
  have hp' : p.restatus f ∈ (c.withStatus f).kept N := by
    rw [kept_withStatus]
    exact List.mem_map_of_mem hp
  rw [activeEgress_view flags hp', usable_withStatus, egressName_withStatus]
  rfl

theorem activeEgress_eq_of_same (flags : Flags) {p : EgressPolicy} (hp : p ∈ c.kept N)
    (hsame : p.spec.action = .route → c.SameEgress N p (p.restatus f)) :
    activeEgress ((c.withStatus f).view flags N) (p.restatus f) = activeEgress (c.view flags N) p := by
  ext t
  rw [activeEgress_withStatus flags hp, activeEgress_view flags hp]
  refine and_congr_right fun ha => ?_
  constructor
  · rintro ⟨hu, rfl⟩
    have he := hsame ha (.inr hu)
    exact ⟨he ▸ hu, he.symm⟩
  · rintro ⟨hu, rfl⟩
    have he := hsame ha (.inl hu)
    exact ⟨he.symm ▸ hu, he⟩

theorem policiesForNode_withStatus (flags : Flags) :
    policiesForNode ((c.withStatus f).view flags N) = (policiesForNode (c.view flags N)).map (·.restatus f) := by
  unfold policiesForNode
  rw [egressPolicies_view, kept_withStatus]
  exact sortOn_map fun _ _ => rfl

/-- A status counts only through the egress it gives. -/
theorem compute_withStatus_of_same (flags : Flags)
    (hsame : ∀ p ∈ c.kept N, p.spec.action = .route → c.SameEgress N p (p.restatus f)) :
    compute ((c.withStatus f).view flags N) = compute (c.view flags N) := by
  have hagree : (c.view flags N).Agree ((c.withStatus f).view flags N) := agree_withStatus flags
  have hactive : ∀ p ∈ c.kept N,
      activeEgress ((c.withStatus f).view flags N) (p.restatus f) = activeEgress (c.view flags N) p :=
    fun p hp => activeEgress_eq_of_same flags hp (hsame p hp)
  refine compute_congr _ _ (computeConfig_congr _ _ hagree (outboundsUsable_view flags c N) (·.restatus f)
    (policiesForNode_withStatus flags) (fun _ _ => rfl) hactive ?_)
  rw [servedTargets_eq, servedTargets_eq, hagree.alike.peerTargets, hagree.alike.otherTargets, hagree.alike.hasUser,
    egressPolicies_view, kept_withStatus, List.filterMap_map]
  congr 4
  exact List.filterMap_congr hactive

theorem sameEgress_iff (flags : Flags) {p : EgressPolicy} (hp : p ∈ c.kept N) (ha : p.spec.action = .route) :
    c.SameEgress N p (p.restatus f) ↔
      activeEgress ((c.withStatus f).view flags N) (p.restatus f) = activeEgress (c.view flags N) p := by
  refine ⟨fun h => activeEgress_eq_of_same flags hp fun _ => h, fun h hu => ?_⟩
  rcases hu with hu | hu
  · have he := (activeEgress_view flags hp).2 ⟨ha, hu, rfl⟩
    rw [← h, activeEgress_withStatus flags hp] at he
    exact he.2.2
  · have he := (activeEgress_withStatus flags hp).2 ⟨ha, hu, rfl⟩
    rw [h, activeEgress_view flags hp] at he
    exact he.2.2.symm

/-! ## One status changes -/

/-- Only the status of `p` may change. -/
def OnlyChanges (c : Cluster) (N : SingBoxNode) (f : EgressPolicy → EgressPolicyStatus) (p : EgressPolicy) : Prop :=
  ∀ q ∈ c.kept N, q.name ≠ p.name → f q = q.status

omit [MapOrder] in
/-- A list of applicable policies around `p` has `p` once, and the others keep their status. -/
theorem OnlyChanges.others {p q : EgressPolicy} {s t l : List EgressPolicy} (hf : c.OnlyChanges N f p)
    (hl : l.Perm (c.kept N)) (hsplit : l = s ++ p :: t) (hq : q ∈ s ++ t) : q.restatus f = q := by
  have hnodup : ((s ++ p :: t).map EgressPolicy.name).Nodup :=
    hsplit ▸ (hl.map _).nodup_iff.2 (c.policies_nodup.sublist (List.filter_sublist.map _))
  have hne : q.name ≠ p.name := by
    rw [(List.perm_middle.map _).nodup_iff, List.map_cons, List.nodup_cons] at hnodup
    exact fun he => hnodup.1 (he ▸ List.mem_map_of_mem hq)
  have hmem : q ∈ c.kept N := hl.mem_iff.1 (by
    rw [hsplit]
    exact List.perm_middle.mem_iff.2 (List.mem_cons_of_mem _ hq))
  unfold EgressPolicy.restatus
  rw [hf q hmem hne]

/-- The number of rules with an inbound tells whether the policy takes part before and after. -/
theorem OnlyChanges.rendered_eq {flags : Flags} {p : EgressPolicy} (hf : c.OnlyChanges N f p) (hp : p ∈ c.kept N)
    (hrules : (computeConfig ((c.withStatus f).view flags N)).route.rules = (computeConfig (c.view flags N)).route.rules) :
    rendered ((c.withStatus f).view flags N) (p.restatus f) = rendered (c.view flags N) p := by
  have hagree : (c.view flags N).Agree ((c.withStatus f).view flags N) := agree_withStatus flags
  obtain ⟨s, t, hst⟩ := List.append_of_mem hp
  have hsame : ∀ q ∈ s ++ t, rendered ((c.withStatus f).view flags N) (q.restatus f) = rendered (c.view flags N) q := by
    intro q hq
    rw [hf.others (.refl _) hst hq]
    unfold rendered
    rw [hagree.activeEgress]
  have hcount := countP_inbound_rules ((c.withStatus f).view flags N)
  rw [hrules, countP_inbound_rules, egressPolicies_view, egressPolicies_view, kept_withStatus, List.countP_map,
    hst] at hcount
  exact eq_of_countP_eq hsame hcount.symm

/-- The rules of the two runs start to differ at the rules of the policy, if they do. -/
theorem OnlyChanges.rules_eq {flags : Flags} {p : EgressPolicy} (hf : c.OnlyChanges N f p) (hp : p ∈ c.kept N)
    (hrules : (computeConfig ((c.withStatus f).view flags N)).route.rules = (computeConfig (c.view flags N)).route.rules) :
    ∃ after after', policyRules ((c.withStatus f).view flags N) (p.restatus f) ++ after' =
      policyRules (c.view flags N) p ++ after := by
  have hagree : (c.view flags N).Agree ((c.withStatus f).view flags N) := agree_withStatus flags
  have hmem : p ∈ policiesForNode (c.view flags N) := mem_policiesForNode.2 hp
  obtain ⟨s, t, hst⟩ := List.append_of_mem hmem
  have hbefore : (s.map (·.restatus f)).flatMap (policyRules ((c.withStatus f).view flags N)) =
      s.flatMap (policyRules (c.view flags N)) := by
    rw [List.flatMap_map]
    refine List.flatMap_congr fun q hq => hagree.alike.policyRules _ _ rfl ?_
    rw [hf.others (sortOn_perm _ _) hst (List.mem_append_left t hq), hagree.activeEgress]
  rw [computeConfig_rules, computeConfig_rules, policiesForNode_withStatus, hst, buildPolicyRules, buildPolicyRules,
    List.map_append, List.map_cons, List.flatMap_append, List.flatMap_append, hbefore, List.flatMap_cons,
    List.flatMap_cons] at hrules
  simp only [List.append_assoc, List.append_cancel_left_eq] at hrules
  exact ⟨_, _, hrules⟩

/-- The change of one status shows exactly when it changes a usable egress. -/
theorem OnlyChanges.compute_eq_iff {p : EgressPolicy} (flags : Flags) (hf : c.OnlyChanges N f p) (hp : p ∈ c.kept N)
    (ha : p.spec.action = .route) :
    compute ((c.withStatus f).view flags N) = compute (c.view flags N) ↔ c.SameEgress N p (p.restatus f) := by
  constructor
  · intro hc
    have hrules := congrArg (·.route.rules) ((compute_eq_iff_config _ _).1 hc)
    have hrendered := hf.rendered_eq hp hrules
    obtain ⟨after, after', heq⟩ := hf.rules_eq hp hrules
    rw [sameEgress_iff flags hp ha]
    have ha' : (p.restatus f).spec.action = .route := ha
    rw [policyRules_eq, policyRules_eq, ha, ha'] at heq
    simp only [rendered, ha, ha', reduceCtorEq, decide_false, Bool.false_or] at hrendered
    cases h : activeEgress (c.view flags N) p with
    | none =>
      rw [h] at hrendered
      simpa using hrendered
    | some x =>
      cases h' : activeEgress ((c.withStatus f).view flags N) (p.restatus f) with
      | none => simp [h, h'] at hrendered
      | some y =>
        simp only [h, h', List.cons_append, List.cons.injEq, RouteRule.mk.injEq] at heq
        rw [outboundTag_inj.1 heq.1.2.2.2.2.2.2.2.2]
  · intro hsame
    refine compute_withStatus_of_same flags fun q hq hqa => ?_
    by_cases hname : q.name = p.name
    · obtain rfl : q = p := kept_unique hq hp hname
      exact hsame
    · intro _
      unfold EgressPolicy.restatus
      rw [hf q hq hname]

/-! ## Any status -/

/-- The status that names `t` for the policies called like `p`, and leaves the others. -/
def namedEgress (p : EgressPolicy) (t : String) (q : EgressPolicy) : EgressPolicyStatus :=
  if q.name = p.name then { q.status with resolvedEgress := t } else q.status

omit [MapOrder] in
theorem onlyChanges_namedEgress (p : EgressPolicy) (t : String) : c.OnlyChanges N (namedEgress p t) p :=
  fun _ _ hne => if_neg hne

omit [MapOrder] in
theorem egressName_namedEgress {p : EgressPolicy} {t : String} (ht : t ≠ "") :
    c.egressName (p.restatus (namedEgress p t)) = t := by
  simp [egressName, EgressPolicy.restatus, namedEgress, ht]

theorem not_usable_hash : ¬ c.Usable N "#" := by
  rintro (⟨n, _, hn, _⟩ | ⟨e, _, he, _⟩)
  · exact n.metadata.hash_notMem (by rw [show n.metadata.name = "#" from hn]; decide)
  · exact e.metadata.hash_notMem (by rw [show e.metadata.name = "#" from he]; decide)

/-- No status matters exactly when no route policy applies, or no egress can be used at all. -/
theorem compute_anyStatus_iff (flags : Flags) :
    (∀ f, compute ((c.withStatus f).view flags N) = compute (c.view flags N)) ↔
      ∀ p ∈ c.kept N, p.spec.action = .route → ∀ t, ¬ c.Usable N t := by
  constructor
  · intro hall p hp ha t hu
    -- a status that names `t` must not matter, and neither must one that names nothing
    have hnamed := ((onlyChanges_namedEgress p t).compute_eq_iff flags hp ha).1 (hall _)
    have hhash := ((onlyChanges_namedEgress p "#").compute_eq_iff flags hp ha).1 (hall _)
    unfold SameEgress at hnamed hhash
    rw [egressName_namedEgress hu.ne_empty] at hnamed
    rw [egressName_namedEgress (by decide), ← hnamed (.inr hu)] at hhash
    exact not_usable_hash (hhash (.inl hu) ▸ hu)
  · intro hno f
    refine compute_withStatus_of_same flags fun p hp ha hu => ?_
    rcases hu with hu | hu
    · exact absurd hu (hno p hp ha _)
    · exact absurd hu (hno p hp ha _)

/-- The rule of a route policy points at what its selector resolves to,
exactly when the engine's name for its egress is that or cannot be used. -/
theorem policyRules_fresh_iff (flags : Flags) {p : EgressPolicy} (hp : p ∈ c.kept N) (ha : p.spec.action = .route) :
    (∀ r ∈ policyRules (c.view flags N) p, r.outbound ≠ "" → r.outbound = outboundTag (c.egress p)) ↔
      (c.Usable N (c.egressName p) → c.egressName p = c.egress p) := by
  rw [policyRules_eq, ha]
  cases he : activeEgress (c.view flags N) p with
  | none =>
    refine ⟨fun _ hu => ?_, fun _ => nofun⟩
    rw [(activeEgress_view flags hp).2 ⟨ha, hu, rfl⟩] at he
    cases he
  | some t =>
    obtain ⟨_, hu, rfl⟩ := (activeEgress_view flags hp).1 he
    refine ⟨fun h _ => ?_, fun h r hr hne => ?_⟩
    · exact outboundTag_inj.1 (h _ List.mem_cons_self (outboundTag_ne_empty _))
    · rcases List.mem_cons.1 hr with rfl | hr
      · rw [← h hu]
      · split at hr
        · rw [List.mem_singleton] at hr
          exact absurd (hr ▸ rfl) hne
        · cases hr

end

end Cluster

/-- When the status of policies shows in a config: over all statuses, if one
policy's status changes, if the statuses of any policies change, and in the
target of a single rule. -/
theorem compute_withStatus_iff [Library] [MapOrder] {flags : Flags} {c : Cluster} {N : SingBoxNode} {input : Input}
    (h : collectInput flags c N = .ok input) :
    ((∀ f, (collectInput flags (c.withStatus f) N).map compute = .ok (compute input)) ↔
      ∀ p ∈ c.kept N, p.spec.action = .route → ∀ t, ¬ c.Usable N t) ∧
    (∀ f, ∀ p ∈ c.kept N, p.spec.action = .route → c.OnlyChanges N f p →
      ((collectInput flags (c.withStatus f) N).map compute = .ok (compute input) ↔ c.SameEgress N p (p.restatus f))) ∧
    (∀ f, (∀ p ∈ c.kept N, p.spec.action = .route → c.SameEgress N p (p.restatus f)) →
      (collectInput flags (c.withStatus f) N).map compute = .ok (compute input)) ∧
    ∀ p ∈ c.kept N, p.spec.action = .route →
      ((∀ r ∈ policyRules input p, r.outbound ≠ "" → r.outbound = outboundTag (c.egress p)) ↔
        (c.Usable N (c.egressName p) → c.egressName p = c.egress p)) := by
  have hread : c.Readable N := collectInput_isOk.1 ⟨input, h⟩
  obtain rfl := collectInput_ok h
  have hout : ∀ f, (collectInput flags (c.withStatus f) N).map compute = .ok (compute (c.view flags N)) ↔
      compute ((c.withStatus f).view flags N) = compute (c.view flags N) := by
    intro f
    rw [collectInput_eq_ok flags (Cluster.readable_withStatus.2 hread)]
    exact ⟨Except.ok.inj, congrArg Except.ok⟩
  simp only [hout]
  exact ⟨Cluster.compute_anyStatus_iff flags, fun f p hp ha hf => hf.compute_eq_iff flags hp ha,
    fun f => Cluster.compute_withStatus_of_same flags, fun p hp ha => Cluster.policyRules_fresh_iff flags hp ha⟩

/-! ### A status that names another node -/

def spareNode : SingBoxNode where
  metadata := .named "spare"
  spec := { address := "203.0.113.10", region := "hk", roles := [.outbound], relayPort := Port.container.number,
            relayPort_le := Port.container.le }

def viaExit : EgressPolicy where
  metadata := .named "via-exit"
  spec :=
    { egressSelector := { matchNames := ["exit"] }, matchFields := { domain := ["a.example"] }, action := .route }

def staleCluster : Cluster where
  ns := "proxy"
  nodes := [entryNode, exitNode, spareNode]
  users := [bob]
  policies := [viaExit]
  nodes_nodup := by decide
  externalOutbounds_nodup := noExternals_nodup
  users_nodup := twoRelays.users_nodup
  policies_nodup := by decide

/-- The status from when the policy still selected `spare`. -/
def namesSpare (_ : EgressPolicy) : EgressPolicyStatus := { resolvedEgress := "spare" }

section
attribute [local instance] plainLibrary storedOrder

theorem viaExit_kept : viaExit ∈ staleCluster.kept entryNode :=
  Cluster.mem_kept.2 ⟨List.mem_singleton_self _, by decide⟩

theorem staleCluster_onlyChanges : staleCluster.OnlyChanges entryNode namesSpare viaExit := by
  intro q hq hne
  rw [List.mem_singleton.1 (Cluster.mem_kept.1 hq).1] at hne
  exact absurd rfl hne

theorem exit_usable : staleCluster.Usable entryNode (staleCluster.egressName viaExit) := by
  refine .inl ⟨exitNode, List.mem_append_left _ (Cluster.mem_peers.2 ⟨?_, by decide⟩), by decide, by decide⟩
  exact List.mem_cons_of_mem _ List.mem_cons_self

theorem not_sameEgress_namesSpare :
    ¬ staleCluster.SameEgress entryNode viaExit (viaExit.restatus namesSpare) := by
  intro h
  have he := h (.inl exit_usable)
  revert he
  decide

theorem staleCluster_collected : collectInput {} staleCluster entryNode = .ok (staleCluster.view {} entryNode) :=
  collectInput_eq_ok {} ⟨rfl, rfl, rfl, fun _ => ⟨rfl, fun _ _ _ _ h => by cases h; rfl⟩⟩

/-- The policy selects `exit`, a stale status still names `spare`, and the rule points at `spare`. -/
theorem not_forall_compute_withStatus :
    ¬ ∀ [Library] [MapOrder] (flags : Flags) (c : Cluster) (N : SingBoxNode) (input : Input)
      (f : EgressPolicy → EgressPolicyStatus), N ∈ c.nodes → collectInput flags c N = .ok input →
        (collectInput flags (c.withStatus f) N).map compute = .ok (compute input) := by
  intro h
  have hout := h {} staleCluster entryNode _ namesSpare List.mem_cons_self staleCluster_collected
  rw [collectInput_eq_ok {} (Cluster.readable_withStatus.2 (collectInput_isOk.1 ⟨_, staleCluster_collected⟩))] at hout
  exact not_sameEgress_namesSpare
    ((staleCluster_onlyChanges.compute_eq_iff {} viaExit_kept rfl).1 (Except.ok.inj hout))

theorem compute_withStatus_iff_stale :
    collectInput {} staleCluster entryNode = .ok (staleCluster.view {} entryNode) ∧
      (collectInput {} (staleCluster.withStatus namesSpare) entryNode).map compute ≠
        .ok (compute (staleCluster.view {} entryNode)) :=
  ⟨staleCluster_collected, fun h => not_sameEgress_namesSpare
    (((compute_withStatus_iff staleCluster_collected).2.1 namesSpare viaExit viaExit_kept rfl
      staleCluster_onlyChanges).1 h)⟩

end

end SingboxOperator
