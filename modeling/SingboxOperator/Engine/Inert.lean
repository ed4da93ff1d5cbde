import SingboxOperator.Engine.Dependence
/-!
# Targets nothing can use

A peer without a relay port and an external outbound without its credentials are
skipped by every builder of the engine. What they can change is the mode:
`Compute` asks whether there are peers before it asks whether any of them can be
used, but it looks at the usable external outbounds only.
-/
open SingboxOperator.Lib

namespace SingboxOperator

section
variable [Library] [MapOrder]

/-! ## Where two configs can differ -/

/-- The branches of `Compute` that serve plain users when there are no virtual ones. -/
def FallsBack (input : Input) : Prop := input.egressPolicies ≠ [] ∨ hasOutboundPeers input = false

omit [Library] [MapOrder] in
theorem buildUsersBlock_eq_nil {input : Input} {proto : Protocol} {name : String} :
    buildUsersBlock input proto name = [] ↔ input.users = [] := List.map_eq_nil_iff

theorem clientUsers_eq_nil {input : Input} (h : NoPair input) (hmode : ¬ FallsBack input) : clientUsers input = [] := by
  have hmode' : ¬ (policiesForNode input ≠ [] ∨ hasOutboundPeers input = false) := by
    rwa [show policiesForNode input ≠ [] ↔ input.egressPolicies ≠ [] from not_congr sortOn_eq_nil]
  simp only [clientUsers, virtualUsers_eq_nil.2 h, ne_eq, not_true_eq_false, if_false, if_neg hmode']

/-- With the same virtual users and the same users, the client entries can differ in the mode only. -/
theorem clientUsers_eq_iff {input input' : Input} (hnode : input'.node = input.node)
    (hpairs : NoPair input' ↔ NoPair input)
    (hvirtual : virtualUsers input' (effectiveInboundProtocol input.node) (targets input') =
      virtualUsers input (effectiveInboundProtocol input.node) (targets input))
    (hplain : buildUsersBlock input' (effectiveInboundProtocol input.node) input.node.name =
      buildUsersBlock input (effectiveInboundProtocol input.node) input.node.name) :
    clientUsers input' = clientUsers input ↔
      (NoPair input → input.users ≠ [] → (FallsBack input' ↔ FallsBack input)) := by
  by_cases hp : NoPair input
  · have hp' := hpairs.2 hp
    have hblock : buildUsersBlock input (effectiveInboundProtocol input.node) input.node.name = [] ↔ input.users = [] :=
      buildUsersBlock_eq_nil
    by_cases hm' : FallsBack input' <;> by_cases hm : FallsBack input
    · simp [clientUsers_of_noPair hp' hm', clientUsers_of_noPair hp hm, hnode, hplain, hm, hm']
    · simp [clientUsers_of_noPair hp' hm', clientUsers_eq_nil hp hm, hnode, hplain, hm, hm', hp, hblock]
    · simp [clientUsers_eq_nil hp' hm', clientUsers_of_noPair hp hm, hm, hm', hp, @eq_comm _ [], hblock]
    · simp [clientUsers_eq_nil hp' hm', clientUsers_eq_nil hp hm, hm, hm']
  · have hne : virtualUsers input (effectiveInboundProtocol input.node) (targets input) ≠ [] :=
      fun h => hp (virtualUsers_eq_nil.1 h)
    simp [clientUsers, hnode, hvirtual, hne, hp]

theorem clientInbounds_eq_iff {input input' : Input} (hnode : input'.node = input.node) :
    (clientInbounds input').1 = (clientInbounds input).1 ↔
      (clientPort input ≠ 0 → clientUsers input' = clientUsers input) := by
  have hport : clientPort input' = clientPort input := by rw [clientPort, clientPort, hnode]
  rw [clientInbounds_inbounds, clientInbounds_inbounds, hport, hnode]
  by_cases hp : clientPort input = 0
  · simp [hp]
  · by_cases hu' : clientUsers input' = [] <;> by_cases hu : clientUsers input = []
    · simp [hu', hu]
    · simp [hu', hp, hu, @eq_comm _ []]
    · simp [hu', hp, hu]
    · simp [hu', hp, hu, buildInboundEntry]

/-- With the same node, rules and statistics, configs can differ for clients only. -/
theorem computeConfig_eq_iff {input input' : Input} (hnode : input'.node = input.node)
    (hrelay : buildRelayInbound input' = buildRelayInbound input)
    (hrules : (computeConfig input').route.rules = (computeConfig input).route.rules)
    (hstats : (computeConfig input').experimental = (computeConfig input).experimental) :
    computeConfig input' = computeConfig input ↔
      (input.node.hasRole .inbound = true →
        deduplicateByTag (clientOutbounds input' ++ [buildDirectOutbound]) =
          deduplicateByTag (clientOutbounds input ++ [buildDirectOutbound]) ∧
        (clientPort input ≠ 0 → clientUsers input' = clientUsers input)) := by
  have hin : (computeConfig input').inbounds = (computeConfig input).inbounds ↔
      (input.node.hasRole .inbound = true → (clientInbounds input').1 = (clientInbounds input).1) := by
    rw [computeConfig_inbounds, computeConfig_inbounds, hnode, hrelay, List.append_cancel_right_eq]
    by_cases hi : input.node.hasRole .inbound = true <;> simp [hi]
  have hout : (computeConfig input').outbounds = (computeConfig input).outbounds ↔
      (input.node.hasRole .inbound = true →
        deduplicateByTag (clientOutbounds input' ++ [buildDirectOutbound]) =
          deduplicateByTag (clientOutbounds input ++ [buildDirectOutbound])) := by
    rw [computeConfig_outbounds, computeConfig_outbounds, hnode]
    by_cases hi : input.node.hasRole .inbound = true <;> simp [hi]
  rw [clientInbounds_eq_iff hnode] at hin
  constructor
  · intro h hi
    exact ⟨hout.1 (by rw [h]) hi, hin.1 (by rw [h]) hi⟩
  · intro h
    have hobs := hout.2 fun hi => (h hi).1
    refine SingboxConfig.ext rfl (hin.2 fun hi => (h hi).2) hobs (RouteConfig.ext hrules ?_) hstats
    rw [computeConfig_final, computeConfig_final, hrules, hobs]

omit [MapOrder] in
/-- The same bytes, in whatever orders the maps are iterated. -/
theorem config_eq_iff (o o' : MapOrder) {input input' : Input} :
    (@compute _ o' input').config = (@compute _ o input).config ↔
      @computeConfig _ o input' = @computeConfig _ o input := by
  rw [@config_compute _ o', @config_compute _ o, ← computeConfig_order o o' input']
  exact ⟨SingboxConfig.render_inj, fun h => by rw [h]⟩

/-! ## Candidates nothing can use -/

/-- Other lists and maps of peers and external outbounds. -/
def Input.withCandidates (input : Input) (nodes : List SingBoxNode) (nodesByName : GoMap String SingBoxNode)
    (externals : List ExternalOutbound) (externalsByName : GoMap String ExternalOutbound) : Input :=
  { input with
    outboundNodes := nodes, outboundNodesByName := nodesByName
    externalOutbounds := externals, externalOutboundsByName := externalsByName }

/-- When every builder makes the same of them, the mode is all that can differ. -/
theorem withCandidates_eq_iff {input input' : Input} {nodes : List SingBoxNode} {nodesByName : GoMap String SingBoxNode}
    {externals : List ExternalOutbound} {externalsByName : GoMap String ExternalOutbound}
    (hinput : input' = input.withCandidates nodes nodesByName externals externalsByName)
    (hpeers : peerTargets input' = peerTargets input)
    (hresolve : resolveExternalOutbounds input' (routesForNode input) =
      resolveExternalOutbounds input (routesForNode input))
    (hpeerOutbounds : buildOutboundNodeOutbounds input' (routesForNode input) =
      buildOutboundNodeOutbounds input (routesForNode input))
    (hrouteOutbounds : buildRouteOutbounds input' (routesForNode input) =
      buildRouteOutbounds input (routesForNode input))
    (hegress : ∀ p ∈ input.egressPolicies, engineEgress input' p = engineEgress input p)
    (havailable : ∀ t, policyEgressAvailable input' t = policyEgressAvailable input t)
    (hpolicyOutbound : policyOutbound input' = policyOutbound input) :
    computeConfig input' = computeConfig input ↔
      (input.node.hasRole .inbound = true → clientPort input ≠ 0 → NoPair input → input.users ≠ [] →
        (FallsBack input' ↔ FallsBack input)) := by
  have hroutes : routesForNode input' = routesForNode input := by subst hinput; rfl
  have hpolicies : policiesForNode input' = policiesForNode input := by subst hinput; rfl
  have hactive : ∀ p ∈ input.egressPolicies, activeEgress input' p = activeEgress input p := by
    intro p hp
    have hact : policyActive input' p = policyActive input p := by simp only [policyActive, hegress p hp, havailable]
    simp only [activeEgress, hact, hegress p hp]
  have hother : otherTargets input' = otherTargets input := by
    rw [otherTargets, otherTargets, hroutes, hresolve]
    subst hinput; rfl
  have htargets : targets input' = targets input := by
    have hpol : input'.egressPolicies = input.egressPolicies := by subst hinput; rfl
    rw [targets_eq, targets_eq, hpeers, hother, hpol, List.filterMap_congr hactive]
  have hrules : (computeConfig input').route.rules = (computeConfig input).route.rules := by
    have hone : ∀ p ∈ policiesForNode input, policyRules input' p = policyRules input p := by
      intro p hp
      rw [policyRules_eq, policyRules_eq, hactive p (mem_policiesForNode.1 hp)]
      subst hinput; rfl
    rw [computeConfig_rules, computeConfig_rules, hpolicies, htargets, buildPolicyRules, buildPolicyRules,
      List.flatMap_congr hone]
    subst hinput; rfl
  have hstats : (computeConfig input').experimental = (computeConfig input).experimental := by
    have husers : statsUsers input' = statsUsers input := by
      rw [Input.Alike.statsUsers_eq, Input.Alike.statsUsers_eq, hpeers, hother]
      subst hinput; rfl
    change (if input'.usageCollectionEnabled then some (buildExperimentalConfig input') else none) =
      if input.usageCollectionEnabled then some (buildExperimentalConfig input) else none
    rw [buildExperimentalConfig, husers]
    subst hinput; rfl
  have houtbounds : clientOutbounds input' = clientOutbounds input := by
    have hexternals : buildExternalOutbounds input' (routesForNode input) =
        buildExternalOutbounds input (routesForNode input) := by
      rw [buildExternalOutbounds, hresolve]
      subst hinput; rfl
    have hnames : (((policiesForNode input).filter fun p => p.spec.action = .route).map (engineEgress input')) =
        ((policiesForNode input).filter fun p => p.spec.action = .route).map (engineEgress input) :=
      List.map_congr_left fun p hp => hegress p (mem_policiesForNode.1 (List.mem_filter.1 hp).1)
    have hpolicy : buildPolicyOutbounds input' (policiesForNode input) =
        buildPolicyOutbounds input (policiesForNode input) := by
      simp only [buildPolicyOutbounds, policyEgressName_eq, hpolicyOutbound, hnames]
    rw [clientOutbounds, clientOutbounds, hroutes, hpolicies, hpeerOutbounds, hrouteOutbounds, hexternals, hpolicy]
    subst hinput; rfl
  have hpairs : NoPair input' ↔ NoPair input := by
    rw [NoPair, NoPair, htargets]
    subst hinput; rfl
  have hvirtual : virtualUsers input' (effectiveInboundProtocol input.node) (targets input') =
      virtualUsers input (effectiveInboundProtocol input.node) (targets input) := by
    rw [htargets]
    subst hinput; rfl
  rw [computeConfig_eq_iff (by subst hinput; rfl) (by subst hinput; rfl) hrules hstats,
    clientUsers_eq_iff (by subst hinput; rfl) hpairs hvirtual (by subst hinput; rfl), houtbounds]
  simp only [true_and]

/-- No object of the input has the name. -/
structure Input.Fresh (input : Input) (name : String) : Prop where
  node : input.node.name ≠ name
  outboundNodes : ∀ n ∈ input.outboundNodes, n.name ≠ name
  outboundNodesByName : input.outboundNodesByName.lookup name = none
  externalOutbounds : ∀ e ∈ input.externalOutbounds, e.name ≠ name
  externalOutboundsByName : input.externalOutboundsByName.lookup name = none
  routedExternals : ∀ k e, input.externalOutboundsByName.lookup k = some e → e.name ≠ name

/-- No policy selects the object. -/
def Input.Unselected (input : Input) (m : ObjectMeta) : Prop :=
  ∀ p ∈ input.egressPolicies, p.spec.egressSelector.matches m = false

/-- What `resolveExternalOutbounds` looks at, and what it accepts. -/
def externalCandidates (input : Input) (rs : List CustomRoute) : List ExternalOutbound :=
  input.externalOutbounds ++ rs.filterMap fun r =>
    if r.effectiveOutboundKind = .externalOutbound then input.externalOutboundsByName.lookup r.outboundNode else none

def externalAccepted (input : Input) (e : ExternalOutbound) : Bool :=
  !externalNameCollidesWithNode input e.name && hasRequiredExternalCreds e (input.externalCreds.get e.name ∅)

omit [Library] [MapOrder] in
theorem resolveExternalOutbounds_eq (input : Input) (rs : List CustomRoute) :
    resolveExternalOutbounds input rs =
      (firstBy ExternalOutbound.name (externalCandidates input rs)).filter (externalAccepted input) := rfl

/-- A further peer, between those `before` and those `after` it. -/
def Input.withPeer (input : Input) (before : List SingBoxNode) (n : SingBoxNode) (after : List SingBoxNode) : Input :=
  input.withCandidates (before ++ n :: after) (input.outboundNodesByName.insert n.name n) input.externalOutbounds
    input.externalOutboundsByName

/-- A further external outbound. -/
def Input.withExternal (input : Input) (before : List ExternalOutbound) (e : ExternalOutbound)
    (after : List ExternalOutbound) : Input :=
  input.withCandidates input.outboundNodes input.outboundNodesByName (before ++ e :: after)
    (input.externalOutboundsByName.insert e.name e)

section
variable {input : Input} {before after : List SingBoxNode} {n : SingBoxNode}

omit [Library] [MapOrder] in
theorem lookup_withPeer (k : String) : (input.withPeer before n after).outboundNodesByName.lookup k =
    if k = n.name then some n else input.outboundNodesByName.lookup k := GoMap.lookup_insert_eq _ _ _ _

theorem engineEgress_withPeer (hfresh : input.Fresh n.name) (hsel : input.Unselected n.metadata) {p : EgressPolicy}
    (hp : p ∈ input.egressPolicies) : engineEgress (input.withPeer before n after) p = engineEgress input p := by
  have hcand : (policyEgressCandidates [] (input.withPeer before n after) p).Perm
      (policyEgressCandidates [] input p) := by
    refine List.Perm.append_right _ ?_
    have hperm := (range_insert_perm ["OutboundNodesByName"] hfresh.outboundNodesByName n).filterMap
      fun e : String × SingBoxNode =>
        if e.2.hasRole .outbound && p.spec.egressSelector.matches e.2.metadata then some e.2.name else none
    rwa [List.filterMap_cons_none (by simp [hsel p hp])] at hperm
  simp only [engineEgress, policyEgressName, resolvePolicyEgressName_of_perm hcand]

omit [Library] [MapOrder] in
theorem peerTargets_withPeer (hpeers : input.outboundNodes = before ++ after) (hfresh : input.Fresh n.name)
    (hrelay : n.spec.relayPort = 0) : peerTargets (input.withPeer before n after) = peerTargets input := by
  have hnodes : ((before ++ n :: after).filter fun m => m.spec.relayPort ≠ 0) =
      input.outboundNodes.filter fun m => m.spec.relayPort ≠ 0 := by
    rw [hpeers, List.filter_append, List.filter_append, List.filter_cons_of_neg (by simp [hrelay])]
  refine congrArg₂ (· ++ ·) (congrArg (List.map _) hnodes) (congrArg (List.map _) (List.filter_congr fun r _ => ?_))
  rw [lookup_withPeer]
  by_cases hr : r.outboundNode = n.name
  · rw [hr, if_pos rfl, hfresh.outboundNodesByName]
    simp [hrelay]
  · rw [if_neg hr]

omit [Library] [MapOrder] in
theorem buildOutboundNodeOutbounds_withPeer (hpeers : input.outboundNodes = before ++ after)
    (hrelay : n.spec.relayPort = 0) (rs : List CustomRoute) :
    buildOutboundNodeOutbounds (input.withPeer before n after) rs = buildOutboundNodeOutbounds input rs := by
  unfold buildOutboundNodeOutbounds
  rw [hpeers]
  change ((before ++ n :: after).filter _).map _ = _
  rw [List.filter_append, List.filter_append, List.filter_cons_of_neg (by simp [hrelay])]
  rfl

omit [Library] [MapOrder] in
theorem buildRouteOutbounds_withPeer (hfresh : input.Fresh n.name) (hrelay : n.spec.relayPort = 0)
    (rs : List CustomRoute) :
    buildRouteOutbounds (input.withPeer before n after) rs = buildRouteOutbounds input rs := by
  refine List.filterMap_congr fun r _ => ?_
  rw [lookup_withPeer]
  by_cases hr : r.outboundNode = n.name
  · rw [hr, if_pos rfl, hfresh.outboundNodesByName]
    simp [hrelay]
  · rw [if_neg hr]
    rfl

omit [Library] [MapOrder] in
/-- A name that is new does not collide with what was there. -/
theorem externalNameCollidesWithNode_withPeer (hpeers : input.outboundNodes = before ++ after) {name : String}
    (hne : name ≠ n.name) :
    externalNameCollidesWithNode (input.withPeer before n after) name = externalNameCollidesWithNode input name := by
  have hany : ((before ++ n :: after).any fun m => decide (m.name = name)) =
      input.outboundNodes.any fun m => decide (m.name = name) := by
    simp [hpeers, Ne.symm hne]
  unfold externalNameCollidesWithNode
  rw [lookup_withPeer, if_neg hne]
  exact congrArg (_ || ·) hany

omit [Library] [MapOrder] in
theorem resolveExternalOutbounds_withPeer (hpeers : input.outboundNodes = before ++ after) (hfresh : input.Fresh n.name)
    (rs : List CustomRoute) :
    resolveExternalOutbounds (input.withPeer before n after) rs = resolveExternalOutbounds input rs := by
  refine List.filter_congr fun e he => ?_
  have hne : e.name ≠ n.name := by
    rcases List.mem_append.1 (mem_of_mem_firstBy he) with he | he
    · exact hfresh.externalOutbounds e he
    · obtain ⟨r, _, hr⟩ := List.mem_filterMap.1 he
      split at hr
      · exact hfresh.routedExternals _ _ hr
      · cases hr
  rw [externalNameCollidesWithNode_withPeer hpeers hne]
  rfl

omit [Library] [MapOrder] in
theorem policyEgressAvailable_withPeer (hfresh : input.Fresh n.name) (hrelay : n.spec.relayPort = 0) (t : String) :
    policyEgressAvailable (input.withPeer before n after) t = policyEgressAvailable input t := by
  unfold policyEgressAvailable
  rw [lookup_withPeer]
  by_cases ht : t = n.name
  · subst ht
    rw [if_pos rfl, hfresh.outboundNodesByName, hfresh.externalOutboundsByName]
    simp [hrelay]
  · rw [if_neg ht]
    rfl

omit [Library] [MapOrder] in
theorem policyOutbound_withPeer (hfresh : input.Fresh n.name) (hrelay : n.spec.relayPort = 0) :
    policyOutbound (input.withPeer before n after) = policyOutbound input := by
  funext t
  unfold policyOutbound
  rw [lookup_withPeer]
  by_cases ht : t = n.name
  · subst ht
    rw [if_pos rfl, hfresh.outboundNodesByName, hfresh.externalOutboundsByName]
    simp [hrelay]
  · rw [if_neg ht]
    rfl

/-- An unusable peer shows exactly when it is the first sign of a peer: plain users are not served any more. -/
theorem withPeer_eq_iff (hpeers : input.outboundNodes = before ++ after) (hfresh : input.Fresh n.name)
    (hrelay : n.spec.relayPort = 0) (hsel : input.Unselected n.metadata) :
    computeConfig (input.withPeer before n after) = computeConfig input ↔
      (input.node.hasRole .inbound = true → clientPort input ≠ 0 → input.users ≠ [] → input.egressPolicies = [] →
        hasOutboundPeers input = true) := by
  refine Iff.trans (withCandidates_eq_iff rfl (peerTargets_withPeer hpeers hfresh hrelay)
    (resolveExternalOutbounds_withPeer hpeers hfresh _) (buildOutboundNodeOutbounds_withPeer hpeers hrelay _)
    (buildRouteOutbounds_withPeer hfresh hrelay _) (fun p hp => engineEgress_withPeer hfresh hsel hp)
    (policyEgressAvailable_withPeer hfresh hrelay) (policyOutbound_withPeer hfresh hrelay)) ?_
  have hfalls : FallsBack (input.withPeer before n after) ↔ input.egressPolicies ≠ [] := by
    have hne : (input.withPeer before n after).outboundNodes ≠ [] := by simp [Input.withPeer, Input.withCandidates]
    have hpeer : hasOutboundPeers (input.withPeer before n after) = true := by simp [hasOutboundPeers, hne]
    rw [FallsBack, hpeer]
    simp only [Bool.true_eq_false, or_false]
    rfl
  constructor
  · intro h hi hport hu hpol
    by_contra hnone
    rw [Bool.not_eq_true] at hnone
    have hpairs : NoPair input := by simp [NoPair, targets_eq_nil hnone]
    exact hfalls.1 ((h hi hport hpairs hu).2 (.inr hnone)) hpol
  · intro h hi hport _ hu
    rw [hfalls, FallsBack]
    refine ⟨.inl, fun hm => hm.resolve_right fun hnone => ?_⟩
    have hpol : input.egressPolicies = [] := by
      simp only [hasOutboundPeers, Bool.or_eq_false_iff, Bool.not_eq_false', List.isEmpty_iff, policiesForNode,
        sortOn_eq_nil] at hnone
      exact hnone.1.1.2
    exact Bool.false_ne_true (hnone.symm.trans (h hi hport hu hpol))

end

section
variable {input : Input} {before after : List ExternalOutbound} {e : ExternalOutbound}

omit [Library] [MapOrder] in
theorem outboundNodesByName_withExternal :
    (input.withExternal before e after).outboundNodesByName = input.outboundNodesByName := rfl

omit [Library] [MapOrder] in
theorem lookup_withExternal (k : String) : (input.withExternal before e after).externalOutboundsByName.lookup k =
    if k = e.name then some e else input.externalOutboundsByName.lookup k := GoMap.lookup_insert_eq _ _ _ _

theorem engineEgress_withExternal (hfresh : input.Fresh e.name) (hsel : input.Unselected e.metadata) {p : EgressPolicy}
    (hp : p ∈ input.egressPolicies) : engineEgress (input.withExternal before e after) p = engineEgress input p := by
  have hcand : (policyEgressCandidates [] (input.withExternal before e after) p).Perm
      (policyEgressCandidates [] input p) := by
    refine List.Perm.append_left _ ?_
    have hperm := (range_insert_perm ["ExternalOutboundsByName"] hfresh.externalOutboundsByName e).filterMap
      fun x : String × ExternalOutbound => if p.spec.egressSelector.matches x.2.metadata then some x.2.name else none
    rwa [List.filterMap_cons_none (by simp [hsel p hp])] at hperm
  simp only [engineEgress, policyEgressName, resolvePolicyEgressName_of_perm hcand]

omit [Library] [MapOrder] in
/-- Without the new one, the candidates are the old ones. -/
theorem externalCandidates_withExternal (hext : input.externalOutbounds = before ++ after)
    (hfresh : input.Fresh e.name) (rs : List CustomRoute) :
    (externalCandidates (input.withExternal before e after) rs).filter (fun x => decide (x.name ≠ e.name)) =
      externalCandidates input rs := by
  have hlist : (before ++ e :: after).filter (fun x => decide (x.name ≠ e.name)) = input.externalOutbounds := by
    rw [hext, List.filter_append, List.filter_cons_of_neg (by simp), ← List.filter_append, ← hext]
    exact List.filter_eq_self.2 fun x hx => decide_eq_true (hfresh.externalOutbounds x hx)
  change ((before ++ e :: after) ++ _).filter _ = _
  rw [List.filter_append, hlist, List.filter_filterMap]
  refine congrArg _ (List.filterMap_congr fun r _ => ?_)
  by_cases hk : r.effectiveOutboundKind = .externalOutbound
  · rw [if_pos hk, if_pos hk, lookup_withExternal]
    by_cases hr : r.outboundNode = e.name
    · rw [if_pos hr, hr, hfresh.externalOutboundsByName]
      simp
    · rw [if_neg hr]
      cases hl : input.externalOutboundsByName.lookup r.outboundNode with
      | none => rfl
      | some x => simp [hfresh.routedExternals _ _ hl]
  · rw [if_neg hk, if_neg hk]
    rfl

omit [Library] [MapOrder] in
theorem eq_of_mem_externalCandidates (hext : input.externalOutbounds = before ++ after) (hfresh : input.Fresh e.name)
    {rs : List CustomRoute} {x : ExternalOutbound} (hx : x ∈ externalCandidates (input.withExternal before e after) rs)
    (hname : x.name = e.name) : x = e := by
  rcases List.mem_append.1 hx with hx | hx
  · rcases List.mem_append.1 hx with hx | hx
    · exact absurd hname (hfresh.externalOutbounds x (hext ▸ List.mem_append_left _ hx))
    · rcases List.mem_cons.1 hx with rfl | hx
      · rfl
      · exact absurd hname (hfresh.externalOutbounds x (hext ▸ List.mem_append_right _ hx))
  · obtain ⟨r, _, hr⟩ := List.mem_filterMap.1 hx
    split at hr
    · rw [lookup_withExternal] at hr
      split at hr
      · exact (Option.some.inj hr).symm
      · exact absurd hname (hfresh.routedExternals _ _ hr)
    · cases hr

omit [Library] [MapOrder] in
/-- Wherever it is put, the external outbound is refused for its credentials and hides no other. -/
theorem resolveExternalOutbounds_withExternal (hext : input.externalOutbounds = before ++ after)
    (hfresh : input.Fresh e.name) (hcreds : hasRequiredExternalCreds e (input.externalCreds.get e.name ∅) = false)
    (rs : List CustomRoute) :
    resolveExternalOutbounds (input.withExternal before e after) rs = resolveExternalOutbounds input rs := by
  rw [resolveExternalOutbounds_eq, resolveExternalOutbounds_eq, ← externalCandidates_withExternal hext hfresh rs,
    ← filter_firstBy ExternalOutbound.name (fun k => decide (k ≠ e.name)), List.filter_filter]
  refine List.filter_congr fun x hx => ?_
  change externalAccepted input x = _
  by_cases hname : x.name = e.name
  · rw [eq_of_mem_externalCandidates hext hfresh (mem_of_mem_firstBy hx) hname]
    simp [externalAccepted, hcreds]
  · simp [hname]

omit [Library] [MapOrder] in
theorem policyEgressAvailable_withExternal (hfresh : input.Fresh e.name)
    (hcreds : hasRequiredExternalCreds e (input.externalCreds.get e.name ∅) = false) (t : String) :
    policyEgressAvailable (input.withExternal before e after) t = policyEgressAvailable input t := by
  unfold policyEgressAvailable
  rw [lookup_withExternal]
  by_cases ht : t = e.name
  · subst ht
    rw [if_pos rfl, hfresh.externalOutboundsByName, outboundNodesByName_withExternal, hfresh.outboundNodesByName]
    exact hcreds
  · rw [if_neg ht]
    rfl

omit [Library] [MapOrder] in
theorem policyOutbound_withExternal (hfresh : input.Fresh e.name)
    (hcreds : hasRequiredExternalCreds e (input.externalCreds.get e.name ∅) = false) :
    policyOutbound (input.withExternal before e after) = policyOutbound input := by
  funext t
  unfold policyOutbound
  rw [lookup_withExternal]
  by_cases ht : t = e.name
  · subst ht
    rw [if_pos rfl, hfresh.externalOutboundsByName, outboundNodesByName_withExternal, hfresh.outboundNodesByName]
    exact if_neg (ne_true_of_eq_false hcreds)
  · rw [if_neg ht]
    rfl

/-- An unusable external outbound never shows: the mode too looks at the accepted ones only. -/
theorem withExternal_eq (hext : input.externalOutbounds = before ++ after) (hfresh : input.Fresh e.name)
    (hcreds : hasRequiredExternalCreds e (input.externalCreds.get e.name ∅) = false)
    (hsel : input.Unselected e.metadata) :
    computeConfig (input.withExternal before e after) = computeConfig input := by
  have hresolve := resolveExternalOutbounds_withExternal hext hfresh hcreds (routesForNode input)
  have hfalls : FallsBack (input.withExternal before e after) ↔ FallsBack input := by
    have hpeers : hasOutboundPeers (input.withExternal before e after) = hasOutboundPeers input :=
      congrArg (fun l => _ || !List.isEmpty l) hresolve
    rw [FallsBack, FallsBack, hpeers]
    rfl
  exact (withCandidates_eq_iff rfl rfl hresolve rfl rfl (fun p hp => engineEgress_withExternal hfresh hsel hp)
    (policyEgressAvailable_withExternal hfresh hcreds) (policyOutbound_withExternal hfresh hcreds)).2
    fun _ _ _ _ => hfalls

end

end

/-- A peer without relay port leaves the bytes alone exactly when it is not the
first sign of a peer on a node that serves plain users; an external outbound
without its credentials always does. -/
theorem unusable_inert_iff [Library] (o o' : MapOrder) (input : Input) :
    (∀ (before after : List SingBoxNode) (n : SingBoxNode), input.outboundNodes = before ++ after →
      n.spec.relayPort = 0 → input.Fresh n.name → input.Unselected n.metadata →
      ((@compute _ o' (input.withPeer before n after)).config = (@compute _ o input).config ↔
        (input.node.hasRole .inbound = true → clientPort input ≠ 0 → input.users ≠ [] → input.egressPolicies = [] →
          hasOutboundPeers input = true))) ∧
    ∀ (before after : List ExternalOutbound) (e : ExternalOutbound), input.externalOutbounds = before ++ after →
      hasRequiredExternalCreds e (input.externalCreds.get e.name ∅) = false → input.Fresh e.name →
      input.Unselected e.metadata →
      (@compute _ o' (input.withExternal before e after)).config = (@compute _ o input).config := by
  constructor
  · intro before after n hpeers hrelay hfresh hsel
    rw [config_eq_iff o o']
    exact @withPeer_eq_iff _ o _ _ _ _ hpeers hfresh hrelay hsel
  · intro before after e hext hcreds hfresh hsel
    rw [config_eq_iff o o']
    exact @withExternal_eq _ o _ _ _ _ hext hfresh hcreds hsel

/-! ### A node with one user -/

def lonelyNode : SingBoxNode where
  metadata := .named "lonely"
  spec :=
    { SingBoxNodeSpec.bare with
      address := "198.51.100.40", region := "nl", roles := [.inbound],
      supportedProtocols := [Port.https.listener .hysteria2] }

def relayless : SingBoxNode where
  metadata := .named "relayless"
  spec := { SingBoxNodeSpec.bare with address := "198.51.100.41", region := "nl", roles := [.outbound] }

def petra : User := { metadata := .named "petra", spec := { authSecret := { name := "petra-auth" } } }

def lonelyInput : Input where
  node := lonelyNode
  users := [petra]
  userCreds := (∅ : GoMap String UserCredential).insert "petra" ⟨"8f0a7c1e-3d52-4b0b-9d3e-6a1f0c2b4d5e"⟩

theorem relayless_fresh : lonelyInput.Fresh relayless.name where
  node := by decide
  outboundNodes := by simp [lonelyInput]
  outboundNodesByName := rfl
  externalOutbounds := by simp [lonelyInput]
  externalOutboundsByName := rfl
  routedExternals := by
    intro k e h
    cases h

section
attribute [local instance] plainLibrary storedOrder

/-- With `relayless` in its region, `petra` is not served any more. -/
theorem not_forall_unusable_inert :
    ¬ ∀ [Library] [MapOrder] (input : Input) (before after : List SingBoxNode) (n : SingBoxNode),
      input.outboundNodes = before ++ after → n.hasRole .outbound = true → n.spec.region = input.node.spec.region →
      n.spec.relayPort = 0 → input.Fresh n.name → input.Unselected n.metadata →
      (compute (input.withPeer before n after)).config = (compute input).config := by
  intro h
  have hsel : lonelyInput.Unselected relayless.metadata := by simp [Input.Unselected, lonelyInput]
  have heq := h lonelyInput [] [] relayless rfl (by decide) rfl rfl relayless_fresh hsel
  rw [config_eq_iff] at heq
  exact absurd ((withPeer_eq_iff rfl relayless_fresh rfl hsel).1 heq (by decide) (by decide) (List.cons_ne_nil _ _) rfl)
    (by decide)

theorem unusable_inert_lonely :
    hasOutboundPeers lonelyInput = false ∧
      (compute (lonelyInput.withPeer [] relayless [])).config ≠ (compute lonelyInput).config := by
  have hsel : lonelyInput.Unselected relayless.metadata := by simp [Input.Unselected, lonelyInput]
  refine ⟨by decide, fun heq => ?_⟩
  have hcond := ((unusable_inert_iff storedOrder storedOrder lonelyInput).1 [] [] relayless rfl rfl relayless_fresh
    hsel).1 heq (by decide) (by decide) (List.cons_ne_nil _ _) rfl
  exact absurd hcond (by decide)

end

end SingboxOperator
