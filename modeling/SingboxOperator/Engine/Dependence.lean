import SingboxOperator.Engine.Spec
/-!
# What a config depends on

Maps that answer the same reads give the same config, whatever the order they
are iterated in. Of a policy only its spec counts, and its egress when that can
be used; of the targets only those somebody may use, in their order. And two
runs with the same bytes have the same rules.
-/
open SingboxOperator.Lib

namespace SingboxOperator

/-! ## Targets somebody may use -/

def hasUser (input : Input) (t : String) : Bool := policyAuthUsers input t ≠ []

theorem hasUser_iff {input : Input} {t : String} :
    hasUser input t = true ↔ ∃ u ∈ input.users, input.allows u t = true := by
  simp [hasUser, policyAuthUsers, List.filter_eq_nil_iff]

theorem virtualUsers_filter (input : Input) (proto : Protocol) (names : List String) :
    virtualUsers input proto names = virtualUsers input proto (names.filter (hasUser input)) := by
  induction names with
  | nil => rfl
  | cons t names ih =>
    have hcons : ∀ l, virtualUsers input proto (t :: l) =
        (input.users.filter fun u => input.allows u t).map (virtualUserEntry input proto t) ++
          virtualUsers input proto l := fun _ => rfl
    by_cases ht : hasUser input t = true
    · rw [List.filter_cons_of_pos ht, hcons, hcons, ih]
    · have hnone : (input.users.filter fun u => input.allows u t) = [] := by
        simpa [hasUser, policyAuthUsers] using ht
      rw [List.filter_cons_of_neg ht, hcons, ih, hnone]
      rfl

theorem targetRules_eq (input : Input) (names : List String) :
    targetRules input names =
      (names.filter (hasUser input)).map fun t => { authUser := policyAuthUsers input t, outbound := outboundTag t } := by
  induction names with
  | nil => rfl
  | cons t names ih =>
    rw [targetRules_cons, ih, List.filter_cons]
    by_cases ht : policyAuthUsers input t = [] <;> simp [hasUser, ht]

/-! ## Policies -/

section
variable [Library] [MapOrder]

/-- The egress of a route policy that takes part. -/
def activeEgress (input : Input) (p : EgressPolicy) : Option String :=
  if p.spec.action = .route ∧ policyActive input p = true then some (engineEgress input p) else none

theorem activeEgress_eq_some {input : Input} {p : EgressPolicy} {t : String} :
    activeEgress input p = some t ↔ p.spec.action = .route ∧ policyActive input p = true ∧ engineEgress input p = t := by
  simp [activeEgress, and_assoc]

/-- The rules of a policy, from its spec and its egress. -/
theorem policyRules_eq (input : Input) (p : EgressPolicy) :
    policyRules input p =
      match p.spec.action, activeEgress input p with
      | .reject, _ => [{ policyRule input p with action := "reject" }]
      | .route, none => []
      | .route, some t =>
        { policyRule input p with outbound := outboundTag t } ::
          if p.spec.fallbackAction = some .reject ∧ policyAuthUsers input t ≠ [] then
            [{ authUser := policyAuthUsers input t, action := "reject" }]
          else [] := by
  cases ha : p.spec.action with
  | reject => rw [policyRules_reject ha]
  | route =>
    rw [policyRules_route ha]
    by_cases hact : policyActive input p = true <;> simp [activeEgress, ha, hact]

/-- Whether a policy has a rule of its own. -/
def rendered (input : Input) (p : EgressPolicy) : Bool := p.spec.action = .reject || (activeEgress input p).isSome

/-- Rules with an inbound are those of policies, one for each that is rendered. -/
theorem countP_inbound_rules (input : Input) :
    (computeConfig input).route.rules.countP (fun r => r.inbound ≠ []) = input.egressPolicies.countP (rendered input) := by
  have htargets : (if input.node.hasRole .inbound then targetRules input (targets input) else []).countP
      (fun r => r.inbound ≠ []) = 0 := by
    rw [targetRules_eq, List.countP_eq_zero]
    intro r hr
    split at hr
    · obtain ⟨t, _, rfl⟩ := List.mem_map.1 hr
      simp
    · cases hr
  have hpolicy : ∀ ps : List EgressPolicy,
      (buildPolicyRules input ps).countP (fun r => r.inbound ≠ []) = ps.countP (rendered input) := by
    intro ps
    induction ps with
    | nil => rfl
    | cons p ps ih =>
      rw [buildPolicyRules, List.flatMap_cons, List.countP_append, ← buildPolicyRules, ih, List.countP_cons, Nat.add_comm]
      congr 1
      rw [policyRules_eq]
      unfold rendered
      cases p.spec.action with
      | reject => simp [policyRule]
      | route =>
        cases activeEgress input p with
        | none => simp
        | some t =>
          -- the fallback rule is for users, not for an inbound
          by_cases hf : p.spec.fallbackAction = some .reject ∧ policyAuthUsers input t ≠ [] <;> simp [policyRule, hf]
  rw [computeConfig_rules, List.countP_append, htargets, hpolicy, Nat.add_zero]
  exact (sortOn_perm policyKey input.egressPolicies).countP_eq _

/-- The egresses a loop over the policies collects. -/
theorem usableEgresses_eq (site : EgressPolicy → List String) (input : Input) (ps : List EgressPolicy) :
    (((ps.filter fun p => p.spec.action = .route).map fun p => policyEgressName (site p) input p).filter fun name =>
      name ≠ "" && policyEgressAvailable input name) = ps.filterMap (activeEgress input) := by
  induction ps with
  | nil => rfl
  | cons p ps ih =>
    simp only [policyEgressName_eq] at ih ⊢
    rw [List.filterMap_cons, ← ih]
    by_cases ha : p.spec.action = .route
    · rw [List.filter_cons_of_pos (by simp [ha]), List.map_cons, List.filter_cons]
      change (if policyActive input p = true then _ else _) = _
      by_cases hact : policyActive input p = true <;> simp [activeEgress, ha, hact]
    · simp [activeEgress, ha]

/-- An egress that cannot be used has no outbound; the engine takes this for granted. -/
def OutboundsUsable (input : Input) : Prop :=
  ∀ t, policyEgressAvailable input t = false → policyOutbound input t = none

theorem buildPolicyOutbounds_eq {input : Input} (h : OutboundsUsable input) (ps : List EgressPolicy) :
    buildPolicyOutbounds input ps =
      (ps.filterMap (activeEgress input)).eraseDups.filterMap (policyOutbound input) := by
  rw [← usableEgresses_eq (fun p => ["buildPolicyOutbounds", p.name])]
  unfold buildPolicyOutbounds
  dsimp only
  generalize (ps.filter fun p => p.spec.action = .route).map _ = names
  have hdrop : ∀ l : List String,
      l.filterMap (policyOutbound input) = (l.filter (policyEgressAvailable input)).filterMap (policyOutbound input) := by
    intro l
    rw [List.filterMap_filter]
    refine List.filterMap_congr fun t _ => ?_
    cases ht : policyEgressAvailable input t with
    | true => rfl
    | false => simp [h t ht]
  rw [hdrop, filter_eraseDups, List.filter_filter]
  simp only [Bool.and_comm]

/-- The targets before those of the policies, and after them. -/
def peerTargets (input : Input) : List String :=
  (input.outboundNodes.filter fun n => n.spec.relayPort ≠ 0).map SingBoxNode.name ++
    ((routesForNode input).filter fun r => r.effectiveOutboundKind = .singBoxNode &&
      match input.outboundNodesByName.lookup r.outboundNode with
      | some outNode => outNode.spec.relayPort ≠ 0
      | none => false).map CustomRoute.outboundNode

def otherTargets (input : Input) : List String :=
  (if isSelfOutbound input then [input.node.name] else []) ++
    (resolveExternalOutbounds input (routesForNode input)).map ExternalOutbound.name

theorem targets_eq (input : Input) :
    targets input =
      (peerTargets input ++ input.egressPolicies.filterMap (activeEgress input) ++ otherTargets input).eraseDups := by
  unfold targets outboundNames peerTargets otherTargets
  dsimp only
  rw [usableEgresses_eq (fun p => ["buildRouteInbounds", p.name])]
  exact congrArg List.eraseDups (List.append_assoc _ _ _)

/-- The targets somebody may use, in order. -/
def servedTargets (input : Input) : List String := (targets input).filter (hasUser input)

theorem servedTargets_eq (input : Input) :
    servedTargets input =
      ((peerTargets input).filter (hasUser input) ++
        (input.egressPolicies.filterMap (activeEgress input)).filter (hasUser input) ++
        (otherTargets input).filter (hasUser input)).eraseDups := by
  rw [servedTargets, targets_eq, filter_eraseDups, List.filter_append, List.filter_append]

end

/-! ## Inputs that read alike -/

/-- The same lists, and maps that answer the same. The policies may differ. -/
structure Input.Agree (input input' : Input) : Prop where
  node : input'.node = input.node
  users : input'.users = input.users
  userCreds : input'.userCreds = input.userCreds
  outboundNodes : input'.outboundNodes = input.outboundNodes
  routes : input'.routes = input.routes
  nodeCreds : ∀ k, input'.nodeCreds.lookup k = input.nodeCreds.lookup k
  outboundNodesByName : ∀ k, input'.outboundNodesByName.lookup k = input.outboundNodesByName.lookup k
  externalOutbounds : input'.externalOutbounds = input.externalOutbounds
  externalOutboundsByName : ∀ k, input'.externalOutboundsByName.lookup k = input.externalOutboundsByName.lookup k
  externalCreds : ∀ k key, (input'.externalCreds.get k ∅).lookup key = (input.externalCreds.get k ∅).lookup key
  usageCollectionEnabled : input'.usageCollectionEnabled = input.usageCollectionEnabled
  v2rayAPIListenAddr : input'.v2rayAPIListenAddr = input.v2rayAPIListenAddr
  userNodeRestrictions : input'.userNodeRestrictions = input.userNodeRestrictions
  userNodeAllowlist : input'.userNodeAllowlist = input.userNodeAllowlist

theorem hasRequiredExternalCreds_congr {creds creds' : ExternalCredential} (h : ∀ k, creds'.lookup k = creds.lookup k)
    (e : ExternalOutbound) : hasRequiredExternalCreds e creds' = hasRequiredExternalCreds e creds := by
  simp only [hasRequiredExternalCreds, GoMap.get_congr h]

theorem buildExternalOutboundEntry_congr {creds creds' : ExternalCredential} (h : ∀ k, creds'.lookup k = creds.lookup k)
    (e : ExternalOutbound) : buildExternalOutboundEntry e creds' = buildExternalOutboundEntry e creds := by
  simp only [buildExternalOutboundEntry, GoMap.get_congr h]

theorem allows_congr {input input' : Input} (hr : input'.userNodeRestrictions = input.userNodeRestrictions)
    (ha : input'.userNodeAllowlist = input.userNodeAllowlist) (u : User) (t : String) :
    input'.allows u t = input.allows u t := by
  simp only [Input.allows, hr, ha]

/-! ## Inputs that are rendered alike -/

/-- The parts of a config that come from something else than policies are the same. -/
structure Input.Alike (input input' : Input) : Prop where
  node : input'.node = input.node
  users : input'.users = input.users
  allows : ∀ u ∈ input.users, ∀ t, input'.allows u t = input.allows u t
  routes : input'.routes = input.routes
  relayInbound : input.node.hasRole .outbound = true → buildRelayInbound input' = buildRelayInbound input
  noPeers : input'.outboundNodes.isEmpty = input.outboundNodes.isEmpty
  peerTargets : peerTargets input' = peerTargets input
  externals : (resolveExternalOutbounds input' (routesForNode input)).map ExternalOutbound.name =
    (resolveExternalOutbounds input (routesForNode input)).map ExternalOutbound.name
  peerOutbounds : buildOutboundNodeOutbounds input' (routesForNode input) =
    buildOutboundNodeOutbounds input (routesForNode input)
  routeOutbounds : buildRouteOutbounds input' (routesForNode input) = buildRouteOutbounds input (routesForNode input)
  externalOutbounds : buildExternalOutbounds input' (routesForNode input) =
    buildExternalOutbounds input (routesForNode input)
  usageCollectionEnabled : input'.usageCollectionEnabled = input.usageCollectionEnabled
  v2rayAPIListenAddr : input'.v2rayAPIListenAddr = input.v2rayAPIListenAddr

namespace Input.Alike
variable {input input' : Input} (h : input.Alike input')
include h

theorem usersFor (t : String) : (input'.users.filter fun u => input'.allows u t) =
    input.users.filter fun u => input.allows u t := by
  rw [h.users]
  exact List.filter_congr fun u hu => h.allows u hu t

theorem policyAuthUsers (t : String) : policyAuthUsers input' t = policyAuthUsers input t := by
  simp only [SingboxOperator.policyAuthUsers, h.usersFor]

theorem hasUser : hasUser input' = hasUser input := by
  funext t
  simp only [SingboxOperator.hasUser, h.policyAuthUsers]

theorem routesForNode : routesForNode input' = routesForNode input := by
  simp only [SingboxOperator.routesForNode, h.routes, h.node]

theorem isSelfOutbound : isSelfOutbound input' = isSelfOutbound input := by
  simp only [SingboxOperator.isSelfOutbound, h.node]

theorem otherTargets : otherTargets input' = otherTargets input := by
  simp only [SingboxOperator.otherTargets, h.isSelfOutbound, h.node, h.routesForNode, h.externals]

theorem noExternals : (resolveExternalOutbounds input' (SingboxOperator.routesForNode input)).isEmpty =
    (resolveExternalOutbounds input (SingboxOperator.routesForNode input)).isEmpty := by
  rw [← List.isEmpty_map (f := ExternalOutbound.name), h.externals, List.isEmpty_map]

theorem selfOutbounds : selfOutbounds input' = selfOutbounds input := by
  simp only [SingboxOperator.selfOutbounds, h.isSelfOutbound, h.node]

variable (o o' : MapOrder)

omit h in
/-- The statistics are over all targets but those of policies. -/
theorem statsUsers_eq (input : Input) :
    @statsUsers o input = sortOn id ((o.range ["buildExperimentalConfig"] (GoMap.assignAll id (fun _ => true) ∅
      ((SingboxOperator.peerTargets input ++ SingboxOperator.otherTargets input).eraseDups.flatMap fun nodeName =>
        input.users.map fun user => virtualUserName user.name nodeName) : NameSet)).map Prod.fst) := by
  unfold statsUsers SingboxOperator.peerTargets SingboxOperator.otherTargets
  dsimp only
  rw [← List.append_assoc]
  rfl

/-- The statistics are sorted, so the order of the set they come from does not show. -/
theorem statsUsers : @statsUsers o' input' = @statsUsers o input := by
  rw [statsUsers_eq, statsUsers_eq, h.peerTargets, h.otherTargets, h.users]
  exact sortOn_eq_of_perm (fun _ _ _ _ he => he) ((range_perm_of_lookup_eq o' o _ _ fun _ => rfl).map _)

variable [Library]

theorem policyRules {p p' : EgressPolicy} (hs : p'.spec = p.spec)
    (he : @SingboxOperator.activeEgress _ o' input' p' = @SingboxOperator.activeEgress _ o input p) :
    @policyRules _ o' input' p' = @policyRules _ o input p := by
  have hrule : policyRule input' p' = policyRule input p := by
    simp only [policyRule, h.node, hs]
  rw [@policyRules_eq _ o', @policyRules_eq _ o]
  simp only [hs, he, hrule, h.policyAuthUsers]

/-- The client entries are the same when those that are served are. -/
theorem clientUsers (hpol : input'.egressPolicies = [] ↔ input.egressPolicies = [])
    (hserved : @servedTargets _ o' input' = @servedTargets _ o input)
    (hvirtual : ∀ t ∈ @targets _ o input, ∀ u ∈ input.users, input.allows u t = true →
      virtualUserEntry input' (effectiveInboundProtocol input.node) t u =
        virtualUserEntry input (effectiveInboundProtocol input.node) t u)
    (hplain : @NoPair _ o input → input.egressPolicies ≠ [] ∨ hasOutboundPeers input = false → ∀ u ∈ input.users,
      plainUserEntry input' (effectiveInboundProtocol input.node) input.node.name u =
        plainUserEntry input (effectiveInboundProtocol input.node) input.node.name u) :
    @clientUsers _ o' input' = @clientUsers _ o input := by
  have hvirt : virtualUsers input' (effectiveInboundProtocol input.node) (@targets _ o' input') =
      virtualUsers input (effectiveInboundProtocol input.node) (@targets _ o input) := by
    rw [virtualUsers_filter input', virtualUsers_filter input]
    change virtualUsers input' _ (@SingboxOperator.servedTargets _ o' input') =
      virtualUsers input _ (@SingboxOperator.servedTargets _ o input)
    rw [hserved]
    simp only [virtualUsers, h.usersFor]
    refine List.flatMap_congr fun t ht => List.map_congr_left fun u hu => ?_
    obtain ⟨hu, hallow⟩ := List.mem_filter.1 hu
    exact hvirtual t (List.mem_filter.1 ht).1 u hu hallow
  have hfor : policiesForNode input' = [] ↔ policiesForNode input = [] := by
    simp only [policiesForNode, sortOn_eq_nil, hpol]
  have hempty : (policiesForNode input').isEmpty = (policiesForNode input).isEmpty := by
    rw [Bool.eq_iff_iff, List.isEmpty_iff, List.isEmpty_iff, hfor]
  have hpeers : hasOutboundPeers input' = hasOutboundPeers input := by
    simp only [hasOutboundPeers, h.noPeers, h.routesForNode, hempty, h.isSelfOutbound, h.noExternals]
  unfold SingboxOperator.clientUsers
  simp only [h.node, hvirt, hpeers, ne_eq, hfor]
  split
  · rfl
  · rename_i hnil
    split
    · rename_i hmode
      rw [policiesForNode, sortOn_eq_nil] at hmode
      simp only [SingboxOperator.buildUsersBlock, h.users]
      exact List.map_congr_left (hplain ((@virtualUsers_eq_nil _ o input _).1 (not_not.1 hnil)) hmode)
    · rfl

theorem experimental : (@computeConfig _ o' input').experimental = (@computeConfig _ o input).experimental := by
  change (if input'.usageCollectionEnabled then some (@buildExperimentalConfig o' input') else none) =
    if input.usageCollectionEnabled then some (@buildExperimentalConfig o input) else none
  simp only [buildExperimentalConfig, h.usageCollectionEnabled, h.v2rayAPIListenAddr, h.statsUsers o o']

theorem targetRules (hserved : @servedTargets _ o' input' = @servedTargets _ o input) :
    targetRules input' (@targets _ o' input') = targetRules input (@targets _ o input) := by
  rw [targetRules_eq, targetRules_eq]
  change (@SingboxOperator.servedTargets _ o' input').map _ = (@SingboxOperator.servedTargets _ o input).map _
  simp only [hserved, h.policyAuthUsers]

/-- The targets are served alike when the policies have the same egresses. -/
theorem servedTargets (hactive : input'.egressPolicies.filterMap (@activeEgress _ o' input') =
    input.egressPolicies.filterMap (@activeEgress _ o input)) :
    @servedTargets _ o' input' = @servedTargets _ o input := by
  rw [@servedTargets_eq _ o', @servedTargets_eq _ o, h.peerTargets, h.otherTargets, h.hasUser, hactive]

end Input.Alike

/-- With the rest alike, the config is determined by what the policies render and
by the served targets in order. -/
theorem computeConfig_of_parts [Library] (o o' : MapOrder) {input input' : Input} (h : input.Alike input')
    (hrules : @buildPolicyRules _ o' input' (policiesForNode input') = @buildPolicyRules _ o input (policiesForNode input))
    (houts : @buildPolicyOutbounds _ o' input' (policiesForNode input') =
      @buildPolicyOutbounds _ o input (policiesForNode input))
    (hserved : @servedTargets _ o' input' = @servedTargets _ o input)
    (hclients : clientPort input ≠ 0 → @clientUsers _ o' input' = @clientUsers _ o input) :
    @computeConfig _ o' input' = @computeConfig _ o input := by
  have hport : clientPort input' = clientPort input := by rw [clientPort, clientPort, h.node]
  have hclient : (@clientInbounds _ o' input').1 = (@clientInbounds _ o input).1 := by
    rw [@clientInbounds_inbounds _ o', @clientInbounds_inbounds _ o, hport, h.node]
    by_cases hp : clientPort input = 0
    · simp only [hp, ne_eq, not_true_eq_false, false_and, if_false]
    · rw [hclients hp]
  have hin : (@computeConfig _ o' input').inbounds = (@computeConfig _ o input).inbounds := by
    rw [@computeConfig_inbounds _ o', @computeConfig_inbounds _ o, hclient, h.node]
    by_cases ho : input.node.hasRole .outbound = true
    · rw [h.relayInbound ho]
    · simp only [ho, if_false, Bool.false_eq_true]
  have hrs : (@computeConfig _ o' input').route.rules = (@computeConfig _ o input).route.rules := by
    simp only [@computeConfig_rules _ o', @computeConfig_rules _ o, h.node, hrules, h.targetRules o o' hserved]
  have hobs : (@computeConfig _ o' input').outbounds = (@computeConfig _ o input).outbounds := by
    simp only [@computeConfig_outbounds _ o', @computeConfig_outbounds _ o, clientOutbounds, h.node, h.routesForNode,
      h.peerOutbounds, h.routeOutbounds, h.externalOutbounds, houts, h.selfOutbounds]
  refine SingboxConfig.ext rfl hin hobs (RouteConfig.ext hrs ?_) (h.experimental o o')
  rw [@computeConfig_final _ o', @computeConfig_final _ o, hrs, hobs]

/-- The policies render the same when they have the same specs, active egresses and outbounds in order. -/
theorem computeConfig_alike [Library] (o o' : MapOrder) {input input' : Input} (h : input.Alike input')
    (hout : OutboundsUsable input) (hout' : OutboundsUsable input') (g : EgressPolicy → EgressPolicy)
    (hpolicies : policiesForNode input' = (policiesForNode input).map g)
    (hspec : ∀ p ∈ input.egressPolicies, (g p).spec = p.spec)
    (hactive : ∀ p ∈ input.egressPolicies, @activeEgress _ o' input' (g p) = @activeEgress _ o input p)
    (houtbound : ∀ p ∈ input.egressPolicies, ∀ t, @activeEgress _ o input p = some t →
      policyOutbound input' t = policyOutbound input t)
    (hserved : @servedTargets _ o' input' = @servedTargets _ o input)
    (hclients : clientPort input ≠ 0 → @clientUsers _ o' input' = @clientUsers _ o input) :
    @computeConfig _ o' input' = @computeConfig _ o input := by
  refine computeConfig_of_parts o o' h ?_ ?_ hserved hclients
  · unfold buildPolicyRules
    rw [hpolicies, List.flatMap_map]
    refine List.flatMap_congr fun p hp => ?_
    have hp' := mem_policiesForNode.1 hp
    exact h.policyRules o o' (hspec p hp') (hactive p hp')
  · rw [@buildPolicyOutbounds_eq _ o' _ hout', @buildPolicyOutbounds_eq _ o _ hout, hpolicies, List.filterMap_map]
    have hnames : (policiesForNode input).filterMap (@activeEgress _ o' input' ∘ g) =
        (policiesForNode input).filterMap (@activeEgress _ o input) :=
      List.filterMap_congr fun p hp => hactive p (mem_policiesForNode.1 hp)
    rw [hnames]
    refine List.filterMap_congr fun t ht => ?_
    obtain ⟨p, hp, hpt⟩ := List.mem_filterMap.1 (List.mem_eraseDups.1 ht)
    exact houtbound p (mem_policiesForNode.1 hp) t hpt

namespace Input.Agree
variable {input input' : Input} (h : input.Agree input')
include h

theorem routesForNode : routesForNode input' = routesForNode input := by
  simp only [SingboxOperator.routesForNode, h.routes, h.node]

theorem relayOutbound (n : SingBoxNode) (name : String) : relayOutbound input' n name = relayOutbound input n name := by
  simp only [SingboxOperator.relayOutbound, GoMap.get_congr h.nodeCreds]

theorem resolveExternalOutbounds (rs : List CustomRoute) :
    resolveExternalOutbounds input' rs = resolveExternalOutbounds input rs := by
  simp only [SingboxOperator.resolveExternalOutbounds, externalNameCollidesWithNode, h.externalOutbounds, h.node,
    h.outboundNodes, h.outboundNodesByName, h.externalOutboundsByName,
    hasRequiredExternalCreds_congr (h.externalCreds _)]

theorem policyEgressAvailable (t : String) : policyEgressAvailable input' t = policyEgressAvailable input t := by
  simp only [SingboxOperator.policyEgressAvailable, h.outboundNodesByName, h.externalOutboundsByName,
    hasRequiredExternalCreds_congr (h.externalCreds t)]

theorem policyOutbound : policyOutbound input' = policyOutbound input := by
  funext t
  simp only [SingboxOperator.policyOutbound, h.outboundNodesByName, h.externalOutboundsByName, h.relayOutbound,
    hasRequiredExternalCreds_congr (h.externalCreds t), buildExternalOutboundEntry_congr (h.externalCreds t)]

theorem alike : input.Alike input' where
  node := h.node
  users := h.users
  allows u _ := allows_congr h.userNodeRestrictions h.userNodeAllowlist u
  routes := h.routes
  relayInbound _ := by simp only [buildRelayInbound, h.node, GoMap.get_congr h.nodeCreds]
  noPeers := by rw [h.outboundNodes]
  peerTargets := by simp only [SingboxOperator.peerTargets, h.outboundNodes, h.routesForNode, h.outboundNodesByName]
  externals := by rw [h.resolveExternalOutbounds]
  peerOutbounds := by simp only [buildOutboundNodeOutbounds, h.outboundNodes, h.node, h.relayOutbound]
  routeOutbounds := by
    simp only [buildRouteOutbounds, h.outboundNodesByName, h.node, h.users, h.relayOutbound,
      allows_congr h.userNodeRestrictions h.userNodeAllowlist]
  externalOutbounds := by
    simp only [buildExternalOutbounds, h.resolveExternalOutbounds, buildExternalOutboundEntry_congr (h.externalCreds _)]
  usageCollectionEnabled := h.usageCollectionEnabled
  v2rayAPIListenAddr := h.v2rayAPIListenAddr

theorem engineEgress [Library] (o o' : MapOrder) : @engineEgress _ o' input' = @engineEgress _ o input := by
  funext p
  simp only [SingboxOperator.engineEgress, policyEgressName,
    resolvePolicyEgressName_congr o' o [] [] h.outboundNodesByName h.externalOutboundsByName]

theorem activeEgress [Library] (o o' : MapOrder) : @activeEgress _ o' input' = @activeEgress _ o input := by
  have hact : @policyActive _ o' input' = @policyActive _ o input := by
    funext p
    simp only [policyActive, h.engineEgress o o', h.policyEgressAvailable]
  unfold SingboxOperator.activeEgress
  rw [h.engineEgress o o', hact]

end Input.Agree

/-- The config is determined by what the inputs agree on, the specs and the
active egresses of the policies in order, and the served targets in order. -/
theorem computeConfig_congr [Library] (o o' : MapOrder) {input input' : Input} (h : input.Agree input')
    (hout : OutboundsUsable input) (g : EgressPolicy → EgressPolicy)
    (hpolicies : policiesForNode input' = (policiesForNode input).map g)
    (hspec : ∀ p ∈ input.egressPolicies, (g p).spec = p.spec)
    (hactive : ∀ p ∈ input.egressPolicies, @activeEgress _ o' input' (g p) = @activeEgress _ o input p)
    (hserved : @servedTargets _ o' input' = @servedTargets _ o input) :
    @computeConfig _ o' input' = @computeConfig _ o input := by
  have hout' : OutboundsUsable input' := by
    intro t ht
    rw [h.policyOutbound]
    exact hout t (h.policyEgressAvailable t ▸ ht)
  have hpol : input'.egressPolicies = [] ↔ input.egressPolicies = [] := by
    have hnil : policiesForNode input' = [] ↔ policiesForNode input = [] := by rw [hpolicies, List.map_eq_nil_iff]
    simpa only [policiesForNode, sortOn_eq_nil] using hnil
  have hclients : @clientUsers _ o' input' = @clientUsers _ o input :=
    h.alike.clientUsers o o' hpol hserved (fun _ _ _ _ _ => by simp only [virtualUserEntry, h.userCreds])
      fun _ _ _ _ => by simp only [plainUserEntry, h.userCreds]
  exact computeConfig_alike o o' h.alike hout hout' g hpolicies hspec hactive
    (fun _ _ t _ => congrFun h.policyOutbound t) hserved fun _ => hclients

theorem Input.Agree.refl (input : Input) : input.Agree input := by
  constructor <;> intros <;> rfl

/-- The order in which maps are iterated does not show. -/
theorem computeConfig_order [Library] (o o' : MapOrder) (input : Input) :
    @computeConfig _ o' input = @computeConfig _ o input := by
  have h := Input.Agree.refl input
  have hactive := h.activeEgress o o'
  have hserved : @servedTargets _ o' input = @servedTargets _ o input := h.alike.servedTargets o o' (by rw [hactive])
  refine computeConfig_of_parts o o' h.alike ?_ ?_ hserved fun _ => ?_
  · exact List.flatMap_congr fun p _ => h.alike.policyRules o o' rfl (congrFun hactive p)
  · unfold buildPolicyOutbounds
    simp only [@policyEgressName_eq _ o', @policyEgressName_eq _ o, h.engineEgress o o']
  · exact h.alike.clientUsers o o' Iff.rfl hserved (fun _ _ _ _ _ => rfl) fun _ _ _ _ => rfl

theorem compute_congr [Library] (o o' : MapOrder) {input input' : Input}
    (h : @computeConfig _ o' input' = @computeConfig _ o input) : @compute _ o' input' = @compute _ o input := by
  unfold compute
  rw [h]

theorem config_compute [Library] [MapOrder] (input : Input) :
    (compute input).config = (computeConfig input).toJson.render := by
  unfold compute
  rfl

/-- Equal outputs come from equal configs. -/
theorem compute_eq_iff_config [Library] (o o' : MapOrder) {input input' : Input} :
    @compute _ o' input' = @compute _ o input ↔ @computeConfig _ o' input' = @computeConfig _ o input := by
  constructor
  · intro h
    have hdata := congrArg Output.config h
    rw [@config_compute _ o', @config_compute _ o] at hdata
    exact SingboxConfig.render_inj hdata
  · exact compute_congr o o'

end SingboxOperator
