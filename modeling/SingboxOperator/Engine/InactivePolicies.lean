import SingboxOperator.Engine.Inert
/-!
# Policies without a usable egress

Such a policy has no rules and no targets. Two things of it can still show. With
it `Compute` takes the branch for policies, which falls back to plain users. And
`buildPolicyOutbounds` does not ask for the outbound role that
`policyEgressAvailable` asks for, so an egress that is not available may still
get an outbound.
-/
open SingboxOperator.Lib

namespace SingboxOperator

section
variable [Library] [MapOrder]

/-! ## The outbounds around a policy -/

/-- A further policy, between those `before` and those `after` it. -/
def Input.withPolicy (input : Input) (before : List EgressPolicy) (p : EgressPolicy) (after : List EgressPolicy) :
    Input :=
  { input with egressPolicies := before ++ p :: after }

/-- The outbound a policy brings. Whether its egress is available does not count here. -/
def policyEntry (input : Input) (p : EgressPolicy) : Option Outbound :=
  if p.spec.action = .route ∧ engineEgress input p ≠ "" then policyOutbound input (engineEgress input p) else none

/-- An egress that is not available has an outbound when it is a node without the outbound role. -/
theorem policyEntry_of_inactive {input : Input} {p : EgressPolicy} {ob : Outbound}
    (hinactive : policyActive input p = false) (hob : policyEntry input p = some ob) :
    ∃ n, input.outboundNodesByName.lookup (engineEgress input p) = some n ∧ n.hasRole .outbound = false ∧
      n.spec.relayPort ≠ 0 ∧ ob = relayOutbound input n (engineEgress input p) := by
  unfold policyEntry at hob
  split at hob
  · rename_i h
    have hun : policyEgressAvailable input (engineEgress input p) = false := by
      simpa only [policyActive, ne_eq, h.2, not_false_eq_true, decide_true, Bool.true_and] using hinactive
    unfold policyOutbound at hob
    unfold policyEgressAvailable at hun
    cases hn : input.outboundNodesByName.lookup (engineEgress input p) with
    | some n =>
      simp only [hn] at hob hun
      split at hob
      · cases hob
      · rename_i hrelay
        refine ⟨n, rfl, ?_, hrelay, (Option.some.inj hob).symm⟩
        simpa [Nat.pos_of_ne_zero hrelay] using hun
    | none =>
      simp only [hn] at hob hun
      cases he : input.externalOutboundsByName.lookup (engineEgress input p) with
      | none => simp [he] at hob
      | some e =>
        simp only [he] at hob hun
        simp [hun] at hob
  · cases hob

/-- The outbounds of an inbound node up to the turn of a policy, those of the policies `ahead` of it included. -/
def outboundsAhead (input : Input) (ahead : List EgressPolicy) : List Outbound :=
  buildOutboundNodeOutbounds input (routesForNode input) ++ buildRouteOutbounds input (routesForNode input) ++
    buildExternalOutbounds input (routesForNode input) ++ ahead.filterMap (policyEntry input)

/-- The outbounds after its turn. -/
def outboundsBehind (input : Input) (behind : List EgressPolicy) : List Outbound :=
  behind.filterMap (policyEntry input) ++ selfOutbounds input ++ [buildDirectOutbound]

/-- The tags of the outbounds tell repetitions apart, so the names need not be. -/
theorem deduplicateByTag_clientOutbounds {input : Input} {ahead behind : List EgressPolicy}
    (h : policiesForNode input = ahead ++ behind) :
    deduplicateByTag (clientOutbounds input ++ [buildDirectOutbound]) =
      firstBy Outbound.tag (outboundsAhead input ahead ++ outboundsBehind input behind) := by
  have hentries : ∀ ps : List EgressPolicy,
      (((ps.filter fun p => p.spec.action = .route).map (engineEgress input)).filter (· ≠ "")).filterMap
        (policyOutbound input) = ps.filterMap (policyEntry input) := by
    intro ps
    induction ps with
    | nil => rfl
    | cons p ps ih =>
      rw [List.filterMap_cons, ← ih]
      by_cases ha : p.spec.action = .route
      · by_cases hn : engineEgress input p = "" <;> simp [policyEntry, ha, hn, List.filterMap_cons]
      · simp [policyEntry, ha]
  have hdup := firstBy_filterMap_eraseDups Outbound.tag (policyOutbound input)
    (buildOutboundNodeOutbounds input (routesForNode input) ++ buildRouteOutbounds input (routesForNode input) ++
      buildExternalOutbounds input (routesForNode input))
    ((((policiesForNode input).filter fun p => p.spec.action = .route).map (engineEgress input)).filter (· ≠ ""))
    (selfOutbounds input ++ [buildDirectOutbound])
  rw [hentries, h, List.filterMap_append] at hdup
  unfold deduplicateByTag clientOutbounds buildPolicyOutbounds outboundsAhead outboundsBehind
  simp only [policyEgressName_eq, h]
  simpa only [List.append_assoc] using hdup

/-- The config has the policy's outbound anyhow: its tag was there before its turn,
or the next new outbound is the same. -/
def OutboundThere (input : Input) (ahead behind : List EgressPolicy) (p : EgressPolicy) : Prop :=
  ∀ ob, policyEntry input p = some ob → ob.tag ∈ (outboundsAhead input ahead).map Outbound.tag ∨
    (outboundsBehind input behind).find? (fun ob' => ob'.tag ∉ (outboundsAhead input ahead).map Outbound.tag) = some ob

section
variable {input : Input} {before after ahead behind : List EgressPolicy} {p : EgressPolicy}

omit [Library] [MapOrder] in
theorem agree_withPolicy : input.Agree (input.withPolicy before p after) := by
  constructor <;> intros <;> rfl

theorem policyEntry_withPolicy : policyEntry (input.withPolicy before p after) = policyEntry input := by
  funext q
  have h : input.Agree (input.withPolicy before p after) := agree_withPolicy
  simp only [policyEntry, h.engineEgress, h.policyOutbound]

theorem deduplicateByTag_withPolicy (h' : policiesForNode (input.withPolicy before p after) = ahead ++ p :: behind)
    (h : policiesForNode input = ahead ++ behind) :
    deduplicateByTag (clientOutbounds (input.withPolicy before p after) ++ [buildDirectOutbound]) =
      deduplicateByTag (clientOutbounds input ++ [buildDirectOutbound]) ↔ OutboundThere input ahead behind p := by
  have hahead : outboundsAhead (input.withPolicy before p after) ahead = outboundsAhead input ahead := by
    rw [outboundsAhead, policyEntry_withPolicy]
    rfl
  have hbehind : outboundsBehind (input.withPolicy before p after) (p :: behind) =
      (policyEntry input p).toList ++ outboundsBehind input behind := by
    rw [outboundsBehind, policyEntry_withPolicy, List.filterMap_cons]
    cases policyEntry input p <;> rfl
  rw [deduplicateByTag_clientOutbounds h', deduplicateByTag_clientOutbounds h, hahead, hbehind]
  unfold OutboundThere
  cases policyEntry input p with
  | none => simp
  | some ob =>
    rw [Option.toList_some, List.singleton_append, firstBy_insert_eq_iff]
    simp

/-- Such a policy has no rules and no target of its own. -/
theorem withPolicy_eq_iff (hpol : input.egressPolicies = before ++ after) (hroute : p.spec.action = .route)
    (hinactive : policyActive input p = false)
    (h' : policiesForNode (input.withPolicy before p after) = ahead ++ p :: behind)
    (h : policiesForNode input = ahead ++ behind) :
    computeConfig (input.withPolicy before p after) = computeConfig input ↔
      (input.node.hasRole .inbound = true →
        OutboundThere input ahead behind p ∧
        (clientPort input ≠ 0 → input.users ≠ [] → NoPair input → input.egressPolicies = [] →
          hasOutboundPeers input = false)) := by
  have hagree : input.Agree (input.withPolicy before p after) := agree_withPolicy
  have hnone : activeEgress input p = none := by simp [activeEgress, hinactive]
  have hactive : (input.withPolicy before p after).egressPolicies.filterMap
      (activeEgress (input.withPolicy before p after)) = input.egressPolicies.filterMap (activeEgress input) := by
    rw [hagree.activeEgress, hpol]
    change (before ++ p :: after).filterMap _ = _
    rw [List.filterMap_append, List.filterMap_cons_none hnone, ← List.filterMap_append]
  have htargets : targets (input.withPolicy before p after) = targets input := by
    rw [targets_eq, targets_eq, hactive]
    rfl
  have hrules : (computeConfig (input.withPolicy before p after)).route.rules = (computeConfig input).route.rules := by
    have hone : ∀ q, policyRules (input.withPolicy before p after) q = policyRules input q :=
      fun q => hagree.alike.policyRules _ _ rfl (congrFun (hagree.activeEgress _ _) q)
    have hnil : policyRules input p = [] := by rw [policyRules_route hroute, hinactive]; rfl
    rw [computeConfig_rules, computeConfig_rules, h', h, htargets]
    simp only [buildPolicyRules, hone, List.flatMap_append, List.flatMap_cons, hnil, List.nil_append]
    rfl
  have hclients : clientUsers (input.withPolicy before p after) = clientUsers input ↔
      (NoPair input → input.users ≠ [] → (FallsBack (input.withPolicy before p after) ↔ FallsBack input)) := by
    refine clientUsers_eq_iff rfl ?_ ?_ rfl
    · rw [NoPair, NoPair, htargets]
      rfl
    · rw [htargets]
      rfl
  have hfalls : FallsBack (input.withPolicy before p after) := .inl (by simp [Input.withPolicy])
  rw [computeConfig_eq_iff hagree.node rfl hrules (hagree.alike.experimental _ _), deduplicateByTag_withPolicy h' h,
    hclients]
  simp only [hfalls, true_iff]
  refine imp_congr_right fun _ => and_congr_right fun _ => imp_congr_right fun _ => ?_
  constructor
  · intro hm hu hpairs hnil
    exact (hm hpairs hu).resolve_left fun hne => hne hnil
  · intro hm hpairs hu
    exact Classical.or_iff_not_imp_left.2 fun hnil => hm hu hpairs (not_not.1 hnil)

end

end

/-- A route policy without a usable egress leaves the bytes alone exactly when
the node is no inbound, or has the policy's outbound anyhow and does not fall
back to plain users because of it. -/
theorem inactivePolicy_inert_iff [Library] (o o' : MapOrder) {input : Input} {before after : List EgressPolicy}
    {p : EgressPolicy} (hpol : input.egressPolicies = before ++ after) (hroute : p.spec.action = .route)
    (hinactive : @policyActive _ o input p = false) :
    ∃ ahead behind, policiesForNode (input.withPolicy before p after) = ahead ++ p :: behind ∧
      policiesForNode input = ahead ++ behind ∧
      ((@compute _ o' (input.withPolicy before p after)).config = (@compute _ o input).config ↔
        (input.node.hasRole .inbound = true →
          @OutboundThere _ o input ahead behind p ∧
          (clientPort input ≠ 0 → input.users ≠ [] → @NoPair _ o input → input.egressPolicies = [] →
            hasOutboundPeers input = false))) := by
  obtain ⟨ahead, behind, h', h⟩ := exists_sortOn_insert policyKey before p after
  have hbefore : policiesForNode input = ahead ++ behind := by rw [policiesForNode, hpol, h]
  refine ⟨ahead, behind, h', hbefore, ?_⟩
  rw [config_eq_iff o o']
  exact @withPolicy_eq_iff _ o _ _ _ _ _ _ hpol hroute hinactive h' hbefore

/-! ### A policy on a node without targets -/

/-- Its status names an egress that is not there. -/
def stalledPolicy : EgressPolicy where
  metadata := .named "stalled"
  spec := { matchFields := { domain := ["video.example"] }, action := .route }
  status := { resolvedEgress := "gone" }

section
attribute [local instance] plainLibrary storedOrder

/-- With `relayless` in its region `petra` is not served, but the policy brings the plain entry back. -/
theorem not_forall_inactivePolicy_inert :
    ¬ ∀ [Library] [MapOrder] (input : Input) (before after : List EgressPolicy) (p : EgressPolicy),
      input.egressPolicies = before ++ after → p.spec.action = .route → policyActive input p = false →
      (compute (input.withPolicy before p after)).config = (compute input).config := by
  intro h
  have heq := h (lonelyInput.withPeer [] relayless []) [] [] stalledPolicy rfl rfl (by decide)
  rw [config_eq_iff] at heq
  have hpairs : NoPair (lonelyInput.withPeer [] relayless []) := by
    have htargets : targets (lonelyInput.withPeer [] relayless []) = [] := by decide
    simp [NoPair, htargets]
  have hcond := (@withPolicy_eq_iff _ _ _ [] [] [] [] stalledPolicy rfl rfl (by decide) rfl rfl).1 heq
  exact absurd ((hcond (by decide)).2 (by decide) (List.cons_ne_nil _ _) hpairs rfl) (by decide)

theorem inactivePolicy_inert_lonely :
    policyActive lonelyInput stalledPolicy = false ∧
      (compute (lonelyInput.withPolicy [] stalledPolicy [])).config = (compute lonelyInput).config := by
  refine ⟨by decide, ?_⟩
  obtain ⟨ahead, behind, -, -, hiff⟩ :=
    @inactivePolicy_inert_iff _ storedOrder storedOrder lonelyInput [] [] stalledPolicy rfl rfl (by decide)
  refine hiff.2 fun _ => ⟨?_, fun _ _ _ _ => by decide⟩
  have hnone : policyEntry lonelyInput stalledPolicy = none := by decide
  intro ob hob
  rw [hnone] at hob
  cases hob

end

end SingboxOperator
