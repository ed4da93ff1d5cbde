import SingboxOperator.Engine.Compute
/-!
# What `Compute` puts into a config

Closed forms of the parts of `computeConfig`: which targets an inbound node
has, which entries its client inbound holds, which rules and which outbound
tags there are. Later modules use these and do not unfold `computeConfig`.
-/
open SingboxOperator.Lib

namespace SingboxOperator

/-! ## Names -/

theorem outboundTag_inj {a b : String} : outboundTag a = outboundTag b ↔ a = b := by
  refine ⟨fun h => ?_, fun h => h ▸ rfl⟩
  have h' := congrArg String.toList h
  simp only [outboundTag, String.toList_append, List.append_cancel_left_eq] at h'
  exact String.toList_inj.1 h'

theorem outboundTag_ne_direct (name : String) : outboundTag name ≠ "direct" := by
  intro h
  have h' := congrArg (fun s => s.toList.head?) h
  simp [outboundTag, String.toList_append] at h'

theorem outboundTag_ne_empty (name : String) : outboundTag name ≠ "" := by
  intro h
  have h' := congrArg (fun s => s.toList.head?) h
  simp [outboundTag, String.toList_append] at h'

/-- Object names are not empty and have no `#`. -/
theorem ObjectMeta.name_ne_empty (m : ObjectMeta) : m.name ≠ "" := by
  intro h
  have := m.name_ok
  simp [h, isObjectName] at this

theorem ObjectMeta.hash_notMem (m : ObjectMeta) : '#' ∉ m.name.toList := m.notMem_name (by decide)

/-- The user and the target can be read off a virtual user name. -/
theorem virtualUserName_inj {u v : User} {t t' : String} :
    virtualUserName u.name t = virtualUserName v.name t' ↔ u.name = v.name ∧ t = t' := by
  refine ⟨fun h => ?_, fun ⟨h, h'⟩ => by rw [h, h']⟩
  have h' := congrArg String.toList h
  simp only [virtualUserName, String.toList_append, List.append_assoc] at h'
  obtain ⟨hu, ht⟩ := (append_cons_inj u.metadata.hash_notMem v.metadata.hash_notMem).1 h'
  exact ⟨String.toList_inj.1 hu, String.toList_inj.1 ht⟩

theorem virtualUserName_ne_name (u v : User) (t : String) : virtualUserName u.name t ≠ v.name := by
  intro h
  refine ObjectMeta.hash_notMem v.metadata ?_
  change '#' ∈ v.name.toList
  simp [← h, virtualUserName, String.toList_append]

/-! ## Parts of the config -/

section
variable [Library] [MapOrder]

/-- The targets of an inbound node. -/
def targets (input : Input) : List String := outboundNames input (routesForNode input) (isSelfOutbound input)

/-- The client entries: virtual users when there is one, else plain users where the source falls back to them. -/
def clientUsers (input : Input) : List UserEntry :=
  let proto := effectiveInboundProtocol input.node
  let virtual := virtualUsers input proto (targets input)
  if virtual ≠ [] then virtual
  else if policiesForNode input ≠ [] ∨ hasOutboundPeers input = false then
    buildUsersBlock input proto input.node.name
  else []

def clientPort (input : Input) : Nat := findProtocolPort input.node (effectiveInboundProtocol input.node)

variable {input : Input}

theorem targets_eq_nil (h : hasOutboundPeers input = false) : targets input = [] := by
  simp only [hasOutboundPeers, Bool.or_eq_false_iff, Bool.not_eq_false', List.isEmpty_iff, policiesForNode,
    sortOn_eq_nil] at h
  obtain ⟨⟨⟨⟨hn, hr⟩, hp⟩, hs⟩, he⟩ := h
  rw [hr] at he
  simp [targets, outboundNames, hn, hr, hp, hs, he]

theorem clientInbounds_rules (input : Input) : (clientInbounds input).2 = targetRules input (targets input) := by
  unfold clientInbounds
  by_cases hp : policiesForNode input = []
  · by_cases hh : hasOutboundPeers input = true
    · simp [hp, hh, buildRouteInbounds, targets]
    · simp [hp, hh, targets_eq_nil (by simpa using hh), targetRules]
  · simp [hp, buildRouteInbounds, targets]

theorem clientInbounds_inbounds (input : Input) :
    (clientInbounds input).1 =
      if clientPort input ≠ 0 ∧ clientUsers input ≠ [] then
        [buildInboundEntry (effectiveInboundProtocol input.node) (inboundTag input.node) (clientPort input)
          (clientUsers input)]
      else [] := by
  have hroute : (buildRouteInbounds input (routesForNode input) (isSelfOutbound input)).1 =
      if clientPort input ≠ 0 ∧ virtualUsers input (effectiveInboundProtocol input.node) (targets input) ≠ [] then
        [buildInboundEntry (effectiveInboundProtocol input.node) (inboundTag input.node) (clientPort input)
          (virtualUsers input (effectiveInboundProtocol input.node) (targets input))]
      else [] := by
    simp only [buildRouteInbounds, Bool.and_eq_true, decide_eq_true_eq]
    rfl
  have hplain : buildUserInbounds input =
      if clientPort input ≠ 0 ∧ buildUsersBlock input (effectiveInboundProtocol input.node) input.node.name ≠ [] then
        [buildInboundEntry (effectiveInboundProtocol input.node) (inboundTag input.node) (clientPort input)
          (buildUsersBlock input (effectiveInboundProtocol input.node) input.node.name)]
      else [] := by
    simp only [buildUserInbounds, clientPort]
    by_cases h : findProtocolPort input.node (effectiveInboundProtocol input.node) = 0 <;> simp [h]
  have hclient : (clientInbounds input).1 =
      if policiesForNode input ≠ [] ∧
          (buildRouteInbounds input (routesForNode input) (isSelfOutbound input)).1 = [] ∨
        hasOutboundPeers input = false then buildUserInbounds input
      else (buildRouteInbounds input (routesForNode input) (isSelfOutbound input)).1 := by
    have hpeers : policiesForNode input ≠ [] → hasOutboundPeers input = true := by
      intro h
      simp [hasOutboundPeers, h]
    unfold clientInbounds
    by_cases hp : policiesForNode input = []
    · by_cases hh : hasOutboundPeers input = true <;> simp [hp, hh]
    · simp [hp, hpeers hp]
  rw [hclient, hroute, hplain, clientUsers]
  -- without peers there are no targets, so no virtual users either
  have hnil : hasOutboundPeers input = false →
      virtualUsers input (effectiveInboundProtocol input.node) (targets input) = [] := by
    intro h
    simp [targets_eq_nil h, virtualUsers]
  by_cases hport : clientPort input = 0
  · simp [hport]
  · by_cases hv : virtualUsers input (effectiveInboundProtocol input.node) (targets input) = []
    · by_cases hp : policiesForNode input = [] ∧ hasOutboundPeers input = true
      · simp [hport, hv, hp]
      · have hp' : policiesForNode input ≠ [] ∨ hasOutboundPeers input = false := by
          simpa only [not_and_or, ne_eq, Bool.not_eq_true] using hp
        simp [hport, hv, hp']
    · have hh : hasOutboundPeers input ≠ false := fun h => hv (hnil h)
      simp [hport, hv, hh]

theorem computeConfig_inbounds (input : Input) :
    (computeConfig input).inbounds =
      (if input.node.hasRole .inbound then (clientInbounds input).1 else []) ++
        if input.node.hasRole .outbound then [buildRelayInbound input] else [] := by
  by_cases h : input.node.hasRole .inbound = true <;> simp [computeConfig, h]

theorem computeConfig_rules (input : Input) :
    (computeConfig input).route.rules =
      buildPolicyRules input (policiesForNode input) ++
        if input.node.hasRole .inbound then targetRules input (targets input) else [] := by
  by_cases h : input.node.hasRole .inbound = true <;> simp [computeConfig, h, clientInbounds_rules]

theorem computeConfig_outbounds (input : Input) :
    (computeConfig input).outbounds =
      deduplicateByTag ((if input.node.hasRole .inbound then clientOutbounds input else []) ++ [buildDirectOutbound]) := rfl

theorem computeConfig_final (input : Input) :
    (computeConfig input).route.final =
      if (computeConfig input).route.rules ≠ [] then "direct" else routeFinal (computeConfig input).outbounds := rfl

/-- Deduplication loses entries, never tags. -/
theorem exists_outbound_tag {tag : String} :
    (∃ o ∈ (computeConfig input).outbounds, o.tag = tag) ↔
      tag = "direct" ∨ input.node.hasRole .inbound = true ∧ ∃ o ∈ clientOutbounds input, o.tag = tag := by
  rw [computeConfig_outbounds, deduplicateByTag]
  constructor
  · rintro ⟨o, ho, rfl⟩
    rcases List.mem_append.1 (mem_of_mem_firstBy ho) with h | h
    · by_cases hi : input.node.hasRole .inbound = true
      · rw [if_pos hi] at h
        exact .inr ⟨hi, o, h, rfl⟩
      · simp [hi] at h
    · rw [List.mem_singleton] at h
      exact .inl (h ▸ rfl)
  · rintro (rfl | ⟨hi, o, ho, rfl⟩)
    · exact exists_mem_firstBy (List.mem_append_right _ (List.mem_singleton_self buildDirectOutbound))
    · exact exists_mem_firstBy (List.mem_append_left _ (by rw [if_pos hi]; exact ho))

omit [Library] [MapOrder] in
/-- The final outbound is `direct`, or the tag of another entry if there is one. -/
theorem routeFinal_cases (obs : List Outbound) :
    (routeFinal obs = "direct" ∧ ∀ o ∈ obs, o.tag = "direct" ∨ o.tag = "") ∨
      ∃ o ∈ obs, routeFinal obs = o.tag ∧ o.tag ≠ "direct" ∧ o.tag ≠ "" := by
  unfold routeFinal
  cases h : obs.find? (fun ob => ob.tag ≠ "direct" && ob.tag ≠ "") with
  | none =>
    refine .inl ⟨rfl, fun o ho => ?_⟩
    have := List.find?_eq_none.1 h o ho
    simpa [or_iff_not_imp_left] using this
  | some o =>
    have hp := List.find?_some h
    simp only [Bool.and_eq_true, decide_eq_true_eq] at hp
    exact .inr ⟨o, List.mem_of_find?_eq_some h, rfl, hp⟩

theorem final_is_tag (input : Input) :
    ∃ o ∈ (computeConfig input).outbounds, o.tag = (computeConfig input).route.final := by
  rw [computeConfig_final]
  split
  · exact exists_outbound_tag.2 (.inl rfl)
  · rcases routeFinal_cases (computeConfig input).outbounds with ⟨h, _⟩ | ⟨o, ho, h, _⟩
    · rw [h]
      exact exists_outbound_tag.2 (.inl rfl)
    · exact ⟨o, ho, h.symm⟩

omit [Library] [MapOrder] in
theorem targetRules_cons (t : String) (names : List String) :
    targetRules input (t :: names) =
      (if policyAuthUsers input t ≠ [] then
        [{ authUser := policyAuthUsers input t, outbound := outboundTag t }]
      else []) ++ targetRules input names := by
  unfold targetRules
  rw [List.filterMap_cons]
  by_cases h : policyAuthUsers input t = []
  · have h' : (input.users.filter fun user => input.allows user t).map (fun user => virtualUserName user.name t) = [] := h
    simp [h, h']
  · have h' : (input.users.filter fun user => input.allows user t).map (fun user => virtualUserName user.name t) ≠ [] := h
    simp only [ne_eq, h, h', not_false_eq_true, if_true]
    rfl

omit [Library] [MapOrder] in
theorem mem_targetRules {names : List String} {r : RouteRule} :
    r ∈ targetRules input names ↔
      ∃ t ∈ names, (∃ u ∈ input.users, input.allows u t = true) ∧
        r = { authUser := policyAuthUsers input t, outbound := outboundTag t } := by
  have hne : ∀ t, policyAuthUsers input t ≠ [] ↔ ∃ u ∈ input.users, input.allows u t = true := by
    intro t
    simp [policyAuthUsers, List.filter_eq_nil_iff]
  simp only [targetRules, List.mem_filterMap, ← hne]
  refine exists_congr fun t => and_congr_right fun _ => ?_
  change (if policyAuthUsers input t ≠ [] then _ else _) = some r ↔ _
  by_cases h : policyAuthUsers input t = []
  · simp [h]
  · simp only [ne_eq, h, not_false_eq_true, if_true, Option.some.injEq, true_and]
    exact eq_comm

omit [Library] [MapOrder] in
theorem mem_virtualUsers {proto : Protocol} {names : List String} {e : UserEntry} :
    e ∈ virtualUsers input proto names ↔
      ∃ t ∈ names, ∃ u ∈ input.users, input.allows u t = true ∧ e = virtualUserEntry input proto t u := by
  simp only [virtualUsers, List.mem_flatMap, List.mem_map, List.mem_filter]
  refine exists_congr fun t => and_congr_right fun _ => exists_congr fun u => ?_
  rw [and_assoc, @eq_comm _ e]

/-- The name the engine has put on a client entry. -/
def UserEntry.label (protocol : Protocol) (e : UserEntry) : Option String :=
  if protocol = .naive then e.username else e.name

omit [Library] [MapOrder] in
@[simp] theorem label_labelUser (proto : Protocol) (auth : UserEntry) (label : String) :
    (labelUser proto auth label).label proto = some label := by
  by_cases h : proto = .naive <;> simp [UserEntry.label, labelUser, h]

omit [Library] [MapOrder] in
@[simp] theorem label_virtualUserEntry (proto : Protocol) (t : String) (u : User) :
    (virtualUserEntry input proto t u).label proto = some (virtualUserName u.name t) := label_labelUser _ _ _

omit [Library] [MapOrder] in
@[simp] theorem label_plainUserEntry (proto : Protocol) (name : String) (u : User) :
    (plainUserEntry input proto name u).label proto = some u.name := label_labelUser _ _ _

/-- No user may use any target. -/
def NoPair (input : Input) : Prop := ∀ t ∈ targets input, ∀ u ∈ input.users, input.allows u t = false

theorem virtualUsers_eq_nil {proto : Protocol} : virtualUsers input proto (targets input) = [] ↔ NoPair input := by
  simp [virtualUsers, NoPair, List.filter_eq_nil_iff]

theorem clientUsers_of_noPair (h : NoPair input) (hmode : input.egressPolicies ≠ [] ∨ hasOutboundPeers input = false) :
    clientUsers input = buildUsersBlock input (effectiveInboundProtocol input.node) input.node.name := by
  have hpol : policiesForNode input ≠ [] ↔ input.egressPolicies ≠ [] := not_congr sortOn_eq_nil
  simp [clientUsers, virtualUsers_eq_nil.2 h, hpol, hmode]

/-- A client entry is that of a user for a target; only when there is none of those, that of a user alone. -/
theorem mem_clientUsers {e : UserEntry} :
    e ∈ clientUsers input ↔
      (∃ t ∈ targets input, ∃ u ∈ input.users, input.allows u t = true ∧
        e = virtualUserEntry input (effectiveInboundProtocol input.node) t u) ∨
      (NoPair input ∧ (input.egressPolicies ≠ [] ∨ hasOutboundPeers input = false) ∧
        ∃ u ∈ input.users, e = plainUserEntry input (effectiveInboundProtocol input.node) input.node.name u) := by
  rw [← mem_virtualUsers]
  by_cases hv : NoPair input
  · by_cases hm : input.egressPolicies ≠ [] ∨ hasOutboundPeers input = false
    · rw [clientUsers_of_noPair hv hm, virtualUsers_eq_nil.2 hv]
      simp only [hv, hm, buildUsersBlock, List.mem_map, List.not_mem_nil, false_or, true_and, @eq_comm _ e]
    · have hm' : ¬ (policiesForNode input ≠ [] ∨ hasOutboundPeers input = false) := by
        rwa [show policiesForNode input ≠ [] ↔ input.egressPolicies ≠ [] from not_congr sortOn_eq_nil]
      simp [clientUsers, virtualUsers_eq_nil.2 hv, hm, hm']
  · have hne : virtualUsers input (effectiveInboundProtocol input.node) (targets input) ≠ [] :=
      fun h => hv (virtualUsers_eq_nil.1 h)
    simp [clientUsers, hne, hv]

omit [Library] [MapOrder] in
theorem inboundTag_ne_relayTag (node : SingBoxNode) : inboundTag node ≠ relayTag := by
  intro h
  have h' := congrArg (fun s => s.toList.head?) h
  simp [inboundTag, relayTag, String.toList_append] at h'

/-- The client inbound, if there is one. -/
theorem mem_inbounds {ib : Inbound} :
    ib ∈ (computeConfig input).inbounds ↔
      (input.node.hasRole .inbound = true ∧ clientPort input ≠ 0 ∧ clientUsers input ≠ [] ∧
        ib = buildInboundEntry (effectiveInboundProtocol input.node) (inboundTag input.node) (clientPort input)
          (clientUsers input)) ∨
      input.node.hasRole .outbound = true ∧ ib = buildRelayInbound input := by
  rw [computeConfig_inbounds, List.mem_append, clientInbounds_inbounds]
  refine or_congr ?_ ?_
  · by_cases hi : input.node.hasRole .inbound = true <;> simp [hi, and_assoc]
  · by_cases ho : input.node.hasRole .outbound = true <;> simp [ho]

/-- The client inbound has an entry labelled `name`. -/
def Serves (input : Input) (name : String) : Prop :=
  ∃ ib ∈ (computeConfig input).inbounds, ib.tag = inboundTag input.node ∧ ∃ e ∈ ib.users,
    e.label (effectiveInboundProtocol input.node) = some name

theorem serves_iff {name : String} :
    Serves input name ↔
      input.node.hasRole .inbound = true ∧ clientPort input ≠ 0 ∧
        ∃ e ∈ clientUsers input, e.label (effectiveInboundProtocol input.node) = some name := by
  constructor
  · rintro ⟨ib, hib, htag, e, he, hl⟩
    rcases mem_inbounds.1 hib with ⟨hi, hp, _, rfl⟩ | ⟨_, rfl⟩
    · exact ⟨hi, hp, e, he, hl⟩
    · exact absurd htag.symm (inboundTag_ne_relayTag _)
  · rintro ⟨hi, hp, e, he, hl⟩
    exact ⟨_, mem_inbounds.2 (.inl ⟨hi, hp, List.ne_nil_of_mem he, rfl⟩), rfl, e, he, hl⟩

theorem serves_virtualUserName {u : User} {t : String} :
    Serves input (virtualUserName u.name t) ↔
      input.node.hasRole .inbound = true ∧ clientPort input ≠ 0 ∧ t ∈ targets input ∧
        ∃ v ∈ input.users, v.name = u.name ∧ input.allows v t = true := by
  rw [serves_iff]
  refine and_congr_right fun _ => and_congr_right fun _ => ?_
  constructor
  · rintro ⟨e, he, hl⟩
    rcases mem_clientUsers.1 he with ⟨t', ht, v, hv, hallow, rfl⟩ | ⟨_, _, v, _, rfl⟩
    · rw [label_virtualUserEntry, Option.some.injEq, virtualUserName_inj] at hl
      obtain ⟨hname, rfl⟩ := hl
      exact ⟨ht, v, hv, hname, hallow⟩
    · rw [label_plainUserEntry, Option.some.injEq] at hl
      exact absurd hl.symm (virtualUserName_ne_name _ _ _)
  · rintro ⟨ht, v, hv, hname, hallow⟩
    exact ⟨_, mem_clientUsers.2 (.inl ⟨t, ht, v, hv, hallow, rfl⟩), by rw [label_virtualUserEntry, hname]⟩

/-! ## Policies -/

omit [MapOrder] in
/-- The candidates count, not the order they are found in. -/
theorem resolvePolicyEgressName_of_perm {o o' : MapOrder} {site site' : List String} {input input' : Input}
    {policy : EgressPolicy}
    (h : (@policyEgressCandidates _ o site input policy).Perm (@policyEgressCandidates _ o' site' input' policy)) :
    @resolvePolicyEgressName _ o site input policy = @resolvePolicyEgressName _ o' site' input' policy := by
  have hsort : sortOn id (@policyEgressCandidates _ o site input policy) =
      sortOn id (@policyEgressCandidates _ o' site' input' policy) := sortOn_eq_of_perm (fun _ _ _ _ h => h) h
  unfold resolvePolicyEgressName
  rw [hsort]

omit [MapOrder] in
/-- The resolution of a policy does not depend on the iteration order of the maps. -/
theorem resolvePolicyEgressName_congr (o o' : MapOrder) (site site' : List String) {input input' : Input}
    (hn : ∀ k, input.outboundNodesByName.lookup k = input'.outboundNodesByName.lookup k)
    (he : ∀ k, input.externalOutboundsByName.lookup k = input'.externalOutboundsByName.lookup k)
    (policy : EgressPolicy) :
    @resolvePolicyEgressName _ o site input policy = @resolvePolicyEgressName _ o' site' input' policy :=
  resolvePolicyEgressName_of_perm
    (((range_perm_of_lookup_eq o o' _ _ hn).filterMap _).append ((range_perm_of_lookup_eq o o' _ _ he).filterMap _))

/-- The egress of a policy, in whatever order the maps are read. -/
def engineEgress (input : Input) (policy : EgressPolicy) : String := policyEgressName [] input policy

theorem policyEgressName_eq (site : List String) (input : Input) (policy : EgressPolicy) :
    policyEgressName site input policy = engineEgress input policy := by
  unfold engineEgress policyEgressName
  rw [resolvePolicyEgressName_congr _ _ site [] (fun _ => rfl) (fun _ => rfl)]

/-- A route policy takes part when its egress can be used. -/
def policyActive (input : Input) (policy : EgressPolicy) : Bool :=
  engineEgress input policy ≠ "" && policyEgressAvailable input (engineEgress input policy)

theorem policyRules_reject {p : EgressPolicy} (h : p.spec.action = .reject) :
    policyRules input p = [{ policyRule input p with action := "reject" }] := by
  simp [policyRules, h]

theorem policyRules_route {p : EgressPolicy} (h : p.spec.action = .route) :
    policyRules input p =
      if policyActive input p then
        { policyRule input p with outbound := outboundTag (engineEgress input p) } ::
          if p.spec.fallbackAction = some .reject ∧ policyAuthUsers input (engineEgress input p) ≠ [] then
            [{ authUser := policyAuthUsers input (engineEgress input p), action := "reject" }]
          else []
      else [] := by
  simp only [policyRules, h, policyFallbackRules, policyEgressName_eq]
  by_cases hn : engineEgress input p = ""
  · simp [hn, policyActive]
  · by_cases ha : policyEgressAvailable input (engineEgress input p) = true
    · by_cases hf : p.spec.fallbackAction = some .reject <;> simp [hn, ha, hf, policyActive]
    · simp [ha, policyActive]

theorem mem_buildPolicyRules {ps : List EgressPolicy} {r : RouteRule} (h : r ∈ buildPolicyRules input ps)
    (ho : r.outbound ≠ "") :
    ∃ p ∈ ps, p.spec.action = .route ∧ policyActive input p = true ∧ r.outbound = outboundTag (engineEgress input p) := by
  obtain ⟨p, hp, hr⟩ := List.mem_flatMap.1 h
  refine ⟨p, hp, ?_⟩
  cases ha : p.spec.action with
  | reject =>
    rw [policyRules_reject ha, List.mem_singleton] at hr
    exact absurd (hr ▸ rfl) ho
  | route =>
    rw [policyRules_route ha] at hr
    by_cases hact : policyActive input p = true
    · rw [if_pos hact, List.mem_cons] at hr
      rcases hr with rfl | hr
      · exact ⟨rfl, hact, rfl⟩
      · -- a fallback rule rejects, it has no outbound
        split at hr
        · rw [List.mem_singleton] at hr
          exact absurd (hr ▸ rfl) ho
        · cases hr
    · simp [hact] at hr

omit [Library] [MapOrder] in
theorem mem_policyAuthUsers {t name : String} :
    name ∈ policyAuthUsers input t ↔ ∃ u ∈ input.users, input.allows u t = true ∧ name = virtualUserName u.name t := by
  simp only [policyAuthUsers, List.mem_map, List.mem_filter, and_assoc, @eq_comm _ name]

/-- The only rules of policies with users are the fallback rules. -/
theorem mem_authUser_buildPolicyRules {ps : List EgressPolicy} {r : RouteRule} {name : String}
    (h : r ∈ buildPolicyRules input ps) (hname : name ∈ r.authUser) :
    ∃ p ∈ ps, p.spec.action = .route ∧ policyActive input p = true ∧
      name ∈ policyAuthUsers input (engineEgress input p) := by
  obtain ⟨p, hp, hr⟩ := List.mem_flatMap.1 h
  refine ⟨p, hp, ?_⟩
  cases ha : p.spec.action with
  | reject =>
    rw [policyRules_reject ha, List.mem_singleton] at hr
    subst hr
    cases hname
  | route =>
    rw [policyRules_route ha] at hr
    by_cases hact : policyActive input p = true
    · rw [if_pos hact, List.mem_cons] at hr
      rcases hr with rfl | hr
      · cases hname
      · split at hr
        · rw [List.mem_singleton] at hr
          subst hr
          exact ⟨rfl, hact, hname⟩
        · cases hr
    · simp [hact] at hr

theorem mem_buildPolicyOutbounds {ps : List EgressPolicy} {o : Outbound} :
    o ∈ buildPolicyOutbounds input ps ↔
      ∃ p ∈ ps, p.spec.action = .route ∧ engineEgress input p ≠ "" ∧
        policyOutbound input (engineEgress input p) = some o := by
  simp only [buildPolicyOutbounds, List.mem_filterMap, List.mem_eraseDups, List.mem_filter, List.mem_map,
    decide_eq_true_eq, policyEgressName_eq]
  constructor
  · rintro ⟨name, ⟨⟨p, ⟨hp, ha⟩, rfl⟩, hne⟩, ho⟩
    exact ⟨p, hp, ha, hne, ho⟩
  · rintro ⟨p, hp, ha, hne, ho⟩
    exact ⟨_, ⟨⟨p, ⟨hp, ha⟩, rfl⟩, hne⟩, ho⟩

omit [Library] [MapOrder] in
@[simp] theorem mem_policiesForNode {p : EgressPolicy} : p ∈ policiesForNode input ↔ p ∈ input.egressPolicies :=
  mem_sortOn

/-- Where the targets of a node come from, when it has no custom routes. -/
theorem mem_targets (hr : input.routes = []) {t : String} :
    t ∈ targets input ↔
      (∃ n ∈ input.outboundNodes, n.spec.relayPort ≠ 0 ∧ n.name = t) ∨
      (∃ p ∈ input.egressPolicies, p.spec.action = .route ∧ policyActive input p = true ∧ engineEgress input p = t) ∨
      (isSelfOutbound input = true ∧ t = input.node.name) ∨
      ∃ e ∈ resolveExternalOutbounds input [], e.name = t := by
  have hr' : routesForNode input = [] := by simp [routesForNode, hr]
  simp only [targets, hr', outboundNames, List.mem_eraseDups, List.mem_append, List.filter_nil, List.map_nil,
    List.not_mem_nil, or_false, or_assoc]
  refine or_congr ?_ (or_congr ?_ (or_congr ?_ ?_))
  · simp [and_assoc]
  · simp only [List.mem_filter, List.mem_map, policyEgressName_eq, policyActive, Bool.and_eq_true,
      decide_eq_true_eq]
    constructor
    · rintro ⟨⟨p, ⟨hp, ha⟩, rfl⟩, hne⟩
      exact ⟨p, hp, ha, hne, rfl⟩
    · rintro ⟨p, hp, ha, hne, rfl⟩
      exact ⟨⟨p, ⟨hp, ha⟩, rfl⟩, hne⟩
  · by_cases hs : isSelfOutbound input = true <;> simp [hs]
  · simp

end

end SingboxOperator
