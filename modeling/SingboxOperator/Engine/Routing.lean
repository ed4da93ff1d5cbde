import SingboxOperator.Engine.Dependence
/-!
# Where a connection goes

First-match evaluation of the route rules, as sing-box does it: a rule without
users, inbounds or destination fields does not restrict them. How destination
fields match a destination stays open (`destMatches`). The rules of a policy
decide together, in the order of the policies, and after them the rule of the
target whose virtual user the connection has.
-/
open SingboxOperator.Lib

namespace SingboxOperator

structure Connection (D : Type) where
  /-- The tag of the inbound it came in on. -/
  inbound : String
  /-- The name of the user entry it was authenticated with. -/
  authUser : String
  dest : D

inductive Verdict
  | reject
  | outbound (tag : String)
  deriving DecidableEq, Repr

def RouteRule.destFields (r : RouteRule) : EgressPolicyMatch :=
  { domain := r.domain, domainSuffix := r.domainSuffix, domainRegex := r.domainRegex, ipCIDR := r.ipCIDR,
    ruleSet := r.ruleSet }

def RouteRule.verdict (r : RouteRule) : Verdict := if r.action = "reject" then .reject else .outbound r.outbound

section
variable {D : Type} (destMatches : EgressPolicyMatch → D → Bool)

def RouteRule.accepts (r : RouteRule) (conn : Connection D) : Bool :=
  (r.inbound.isEmpty || conn.inbound ∈ r.inbound) && (r.authUser.isEmpty || conn.authUser ∈ r.authUser) &&
    (r.destFields.isEmpty || destMatches r.destFields conn.dest)

/-- The first rule that accepts the connection, else the final outbound. -/
def route (cfg : SingboxConfig) (conn : Connection D) : Verdict :=
  match cfg.route.rules.find? fun r => r.accepts destMatches conn with
  | some r => r.verdict
  | none => .outbound cfg.route.final

/-- Whether a policy's match covers a destination; an empty match covers all. -/
def policyMatches (p : EgressPolicy) (d : D) : Bool :=
  p.spec.matchFields.isEmpty || destMatches p.spec.matchFields d

variable [Library] [MapOrder] (input : Input)

/-- Whether a policy has rules: it rejects, or its egress can be used. -/
def takesPart (p : EgressPolicy) : Bool :=
  match p.spec.action with
  | .reject => true
  | .route => policyActive input p

def policyAction (p : EgressPolicy) : Verdict :=
  match p.spec.action with
  | .reject => .reject
  | .route => .outbound (outboundTag (engineEgress input p))

/-- Whether the fallback of a policy turns away the virtual users of target `t`. -/
def fallsBackOn (p : EgressPolicy) (t : String) : Bool :=
  p.spec.action = .route && p.spec.fallbackAction = some .reject && engineEgress input p = t

/-- What the rules of one policy say about a connection on the client inbound. -/
def policyVerdict (authUser : String) (d : D) (p : EgressPolicy) : Option Verdict :=
  if !takesPart input p then none
  else if policyMatches destMatches p d then some (policyAction input p)
  else if p.spec.action = .route ∧ p.spec.fallbackAction = some .reject ∧
      authUser ∈ policyAuthUsers input (engineEgress input p) then some .reject
  else none

/-! ## Evaluation policy by policy -/

theorem policyRules_verdict (authUser : String) (d : D) (p : EgressPolicy) :
    ((policyRules input p).find? fun r => r.accepts destMatches ⟨inboundTag input.node, authUser, d⟩).map
      RouteRule.verdict = policyVerdict destMatches input authUser d p := by
  have hmatch : ∀ action outbound,
      RouteRule.accepts destMatches { policyRule input p with action := action, outbound := outbound }
        ⟨inboundTag input.node, authUser, d⟩ = policyMatches destMatches p d := by
    intro action outbound
    simp [RouteRule.accepts, policyRule, RouteRule.destFields, policyMatches]
  unfold policyVerdict takesPart policyAction
  cases ha : p.spec.action with
  | reject =>
    rw [policyRules_reject ha, List.find?_cons, List.find?_nil, hmatch]
    cases policyMatches destMatches p d <;> simp [RouteRule.verdict]
  | route =>
    rw [policyRules_route ha]
    by_cases hact : policyActive input p = true
    · rw [if_pos hact, List.find?_cons, hmatch, hact]
      cases policyMatches destMatches p d with
      | true => simp [RouteRule.verdict, policyRule]
      | false =>
        -- what the match leaves over goes to the fallback rule, if there is one
        by_cases hf : p.spec.fallbackAction = some .reject
        · by_cases hu : authUser ∈ policyAuthUsers input (engineEgress input p)
          · have hne : policyAuthUsers input (engineEgress input p) ≠ [] := List.ne_nil_of_mem hu
            simp [hf, hu, hne, RouteRule.accepts, RouteRule.destFields, EgressPolicyMatch.isEmpty, RouteRule.verdict]
          · by_cases hne : policyAuthUsers input (engineEgress input p) = []
            · simp [hne]
            · simp [hf, hu, hne, RouteRule.accepts]
        · simp [hf]
    · simp [hact]

/-- The rules of the policies decide like the first policy that has an opinion. -/
theorem buildPolicyRules_verdict (authUser : String) (d : D) (ps : List EgressPolicy) :
    ((buildPolicyRules input ps).find? fun r => r.accepts destMatches ⟨inboundTag input.node, authUser, d⟩).map
      RouteRule.verdict = ps.findSome? (policyVerdict destMatches input authUser d) := by
  unfold buildPolicyRules
  rw [List.find?_flatMap, List.map_findSome?]
  congr 1
  funext p
  exact policyRules_verdict destMatches input authUser d p

omit [Library] [MapOrder] in
/-- The rules of the targets decide by the virtual user alone. -/
theorem targetRules_verdict (inbound authUser : String) (d : D) (names : List String) :
    ((targetRules input names).find? fun r => r.accepts destMatches ⟨inbound, authUser, d⟩).map RouteRule.verdict =
      (names.find? fun t => authUser ∈ policyAuthUsers input t).map fun t => .outbound (outboundTag t) := by
  induction names with
  | nil => rfl
  | cons t names ih =>
    rw [targetRules_cons, List.find?_append, List.find?_cons]
    by_cases hu : authUser ∈ policyAuthUsers input t
    · have hne : policyAuthUsers input t ≠ [] := List.ne_nil_of_mem hu
      simp [hu, hne, RouteRule.accepts, RouteRule.destFields, EgressPolicyMatch.isEmpty, RouteRule.verdict]
    · by_cases hne : policyAuthUsers input t = []
      · simpa [hne] using ih
      · simpa [hu, hne, RouteRule.accepts] using ih

/-- Every rule is for the client inbound, or for virtual users. -/
theorem rules_restricted {r : RouteRule} (hr : r ∈ (computeConfig input).route.rules) :
    r.inbound = [inboundTag input.node] ∨ r.authUser ≠ [] ∧ ∀ name ∈ r.authUser, '#' ∈ name.toList := by
  have hvirtual : ∀ t, ∀ name ∈ policyAuthUsers input t, '#' ∈ name.toList := by
    intro t name hname
    obtain ⟨u, _, _, rfl⟩ := mem_policyAuthUsers.1 hname
    simp [virtualUserName, String.toList_append]
  rw [computeConfig_rules] at hr
  rcases List.mem_append.1 hr with hr | hr
  · obtain ⟨p, _, hr⟩ := List.mem_flatMap.1 hr
    rw [policyRules_eq] at hr
    split at hr
    · exact .inl (List.mem_singleton.1 hr ▸ rfl)
    · cases hr
    · rcases List.mem_cons.1 hr with rfl | hr
      · exact .inl rfl
      · split at hr
        · rename_i hne
          obtain rfl := List.mem_singleton.1 hr
          exact .inr ⟨hne.2, hvirtual _⟩
        · cases hr
  · split at hr
    · obtain ⟨t, _, ⟨u, hu, hallow⟩, rfl⟩ := mem_targetRules.1 hr
      exact .inr ⟨List.ne_nil_of_mem (mem_policyAuthUsers.2 ⟨u, hu, hallow, rfl⟩), hvirtual t⟩
    · cases hr

/-- What comes in elsewhere, without a virtual user, goes to the final outbound. -/
theorem route_elsewhere {inbound authUser : String} (hin : inbound ≠ inboundTag input.node)
    (hu : '#' ∉ authUser.toList) (d : D) :
    route destMatches (computeConfig input) ⟨inbound, authUser, d⟩ = .outbound (computeConfig input).route.final := by
  have hnone : (computeConfig input).route.rules.find? (fun r => r.accepts destMatches ⟨inbound, authUser, d⟩) = none := by
    rw [List.find?_eq_none]
    intro r hr
    rcases rules_restricted input hr with htag | ⟨hne, hall⟩
    · simp [RouteRule.accepts, htag, hin]
    · have hnot : authUser ∉ r.authUser := fun h => hu (hall _ h)
      simp [RouteRule.accepts, hne, hnot]
  unfold route
  rw [hnone]

/-- The policies first, then the target of the virtual user, then the final outbound. -/
theorem route_eq (hi : input.node.hasRole .inbound = true) (authUser : String) (d : D) :
    route destMatches (computeConfig input) ⟨inboundTag input.node, authUser, d⟩ =
      (((policiesForNode input).findSome? (policyVerdict destMatches input authUser d)).or
        (((targets input).find? fun t => authUser ∈ policyAuthUsers input t).map fun t =>
          .outbound (outboundTag t))).getD (.outbound (computeConfig input).route.final) := by
  rw [← buildPolicyRules_verdict, ← targetRules_verdict destMatches input (inboundTag input.node) authUser d]
  unfold route
  rw [computeConfig_rules, if_pos hi, List.find?_append]
  cases (buildPolicyRules input (policiesForNode input)).find? _ with
  | some r => rfl
  | none => cases (targetRules input (targets input)).find? _ <;> rfl

/-- The least policy, by priority and name, that has an opinion decides. -/
theorem route_least (hi : input.node.hasRole .inbound = true) (authUser : String) (d : D) :
    (∃ p ∈ input.egressPolicies, ∃ v, policyVerdict destMatches input authUser d p = some v ∧
      (∀ q ∈ input.egressPolicies, (policyVerdict destMatches input authUser d q).isSome → policyKey p ≤ policyKey q) ∧
      route destMatches (computeConfig input) ⟨inboundTag input.node, authUser, d⟩ = v) ∨
    ((∀ p ∈ input.egressPolicies, policyVerdict destMatches input authUser d p = none) ∧
      route destMatches (computeConfig input) ⟨inboundTag input.node, authUser, d⟩ =
        (((targets input).find? fun t => authUser ∈ policyAuthUsers input t).map fun t =>
          .outbound (outboundTag t)).getD (.outbound (computeConfig input).route.final)) := by
  rw [route_eq destMatches input hi]
  cases hf : (policiesForNode input).findSome? (policyVerdict destMatches input authUser d) with
  | some v =>
    obtain ⟨p, hp, hv, hleast⟩ := findSome?_least (sortOn_pairwise policyKey input.egressPolicies) hf
    exact .inl ⟨p, mem_policiesForNode.1 hp, v, hv, fun q hq => hleast q (mem_policiesForNode.2 hq), rfl⟩
  | none =>
    exact .inr ⟨fun p hp => List.findSome?_eq_none_iff.1 hf p (mem_policiesForNode.2 hp), rfl⟩

/-! ## Priorities and fallbacks -/

/-- Whether a policy decides about the virtual users of `t` and the destination `d`. -/
def decides (t : String) (d : D) (p : EgressPolicy) : Bool :=
  takesPart input p && (policyMatches destMatches p d || fallsBackOn input p t)

/-- What it decides. -/
def decision (d : D) (p : EgressPolicy) : Verdict :=
  if policyMatches destMatches p d then policyAction input p else .reject

variable {input}

omit [Library] [MapOrder] in
/-- A virtual user stands in the lists of its own target only. -/
theorem virtualUserName_mem_policyAuthUsers {u v : User} {t t' : String} (hv : v ∈ input.users)
    (hname : v.name = u.name) (hallow : input.allows v t = true) :
    virtualUserName u.name t ∈ policyAuthUsers input t' ↔ t' = t := by
  rw [mem_policyAuthUsers]
  constructor
  · rintro ⟨w, _, _, h⟩
    exact (virtualUserName_inj.1 h).2.symm
  · rintro rfl
    exact ⟨v, hv, hallow, by rw [hname]⟩

/-- The first target whose list has the virtual user is its own. -/
theorem find?_virtualUser {u v : User} {t : String} (ht : t ∈ targets input) (hv : v ∈ input.users)
    (hname : v.name = u.name) (hallow : input.allows v t = true) :
    (targets input).find? (fun t' => virtualUserName u.name t ∈ policyAuthUsers input t') = some t := by
  refine find?_eq_some_of_unique ht ?_ fun t' _ h => ?_
  · simp [virtualUserName_mem_policyAuthUsers hv hname hallow]
  · simpa [virtualUserName_mem_policyAuthUsers hv hname hallow] using h

theorem policyVerdict_virtualUser {u v : User} {t : String} (hv : v ∈ input.users) (hname : v.name = u.name)
    (hallow : input.allows v t = true) (d : D) (p : EgressPolicy) :
    policyVerdict destMatches input (virtualUserName u.name t) d p =
      if decides destMatches input t d p then some (decision destMatches input d p) else none := by
  unfold policyVerdict decides decision fallsBackOn
  simp only [virtualUserName_mem_policyAuthUsers hv hname hallow]
  cases takesPart input p with
  | false => simp
  | true =>
    cases policyMatches destMatches p d with
    | true => simp
    | false => simp [and_assoc]

/-- Where a virtual user `u#t` goes: the least policy, by priority and name,
that matches the destination or falls back on `t` decides; without one it is
the target. -/
theorem route_virtualUser {u : User} {t : String} (hs : Serves input (virtualUserName u.name t)) (d : D) :
    (∃ p ∈ input.egressPolicies, decides destMatches input t d p = true ∧
      (∀ q ∈ input.egressPolicies, decides destMatches input t d q = true → policyKey p ≤ policyKey q) ∧
      route destMatches (computeConfig input) ⟨inboundTag input.node, virtualUserName u.name t, d⟩ =
        decision destMatches input d p) ∨
    ((∀ p ∈ input.egressPolicies, decides destMatches input t d p = false) ∧
      route destMatches (computeConfig input) ⟨inboundTag input.node, virtualUserName u.name t, d⟩ =
        .outbound (outboundTag t)) := by
  obtain ⟨hi, _, ht, v, hv, hname, hallow⟩ := serves_virtualUserName.1 hs
  have hverdict := policyVerdict_virtualUser destMatches hv hname hallow d
  rcases route_least destMatches input hi (virtualUserName u.name t) d with
    ⟨p, hp, verdict, hd, hleast, hroute⟩ | ⟨hnone, hroute⟩
  · left
    have hdec : decides destMatches input t d p = true := by
      by_contra hne
      simp [hverdict, hne] at hd
    refine ⟨p, hp, hdec, fun q hq hqd => hleast q hq (by simp [hverdict, hqd]), ?_⟩
    rw [hroute]
    simpa [hverdict, hdec] using hd.symm
  · right
    refine ⟨fun p hp => ?_, ?_⟩
    · have := hnone p hp
      simpa [hverdict] using this
    · rw [hroute, find?_virtualUser ht hv hname hallow]
      rfl

/-- The reading in which a fallback waits for every policy: the least match, else a fallback on `t`, else `t`. -/
def LeastMatchFirst (input : Input) (t : String) (d : D) (v : Verdict) : Prop :=
  (∃ p ∈ input.egressPolicies, takesPart input p = true ∧ policyMatches destMatches p d = true ∧
    (∀ q ∈ input.egressPolicies, takesPart input q = true → policyMatches destMatches q d = true →
      policyKey p ≤ policyKey q) ∧ v = policyAction input p) ∨
  (∀ p ∈ input.egressPolicies, takesPart input p = true → policyMatches destMatches p d = false) ∧
    ((∃ p ∈ input.egressPolicies, takesPart input p = true ∧ fallsBackOn input p t = true) ∧ v = .reject ∨
      (∀ p ∈ input.egressPolicies, takesPart input p = true → fallsBackOn input p t = false) ∧
        v = .outbound (outboundTag t))

end

/-! ### Two policies on one egress -/

def exitNode : SingBoxNode where
  metadata := .named "exit"
  spec := { address := "203.0.113.9", region := "hk", roles := [.outbound], relayPort := Port.container.number,
            relayPort_le := Port.container.le }

def entryNode : SingBoxNode where
  metadata := .named "entry"
  spec :=
    { SingBoxNodeSpec.bare with
      address := "203.0.113.1", region := "hk", roles := [.inbound],
      supportedProtocols := [Port.https.listener .hysteria2] }

def bob : User := { metadata := .named "bob", spec := { authSecret := { name := "bob-auth" } } }

/-- Routes `a.example` over `exit` and rejects what else uses it. -/
def firstPolicy : EgressPolicy where
  metadata := .named "first"
  spec :=
    { egressSelector := { matchNames := ["exit"] }, matchFields := { domain := ["a.example"] }, action := .route,
      priority := 1, fallbackAction := some .reject }

/-- Routes `b.example` over `exit`, later. -/
def secondPolicy : EgressPolicy where
  metadata := .named "second"
  spec :=
    { egressSelector := { matchNames := ["exit"] }, matchFields := { domain := ["b.example"] }, action := .route,
      priority := 2 }

def sharedEgress : Input where
  node := entryNode
  users := [bob]
  outboundNodes := [exitNode]
  outboundNodesByName := (∅ : GoMap String SingBoxNode).insert "exit" exitNode
  egressPolicies := [firstPolicy, secondPolicy]

def inDomain (m : EgressPolicyMatch) (d : String) : Bool := d ∈ m.domain

section
attribute [local instance] plainLibrary storedOrder

theorem sharedEgress_serves : Serves sharedEgress (virtualUserName bob.name "exit") :=
  serves_virtualUserName.2 ⟨by decide, by decide, by decide, bob, List.mem_singleton_self _, rfl, by decide⟩

theorem sharedEgress_rejects :
    route inDomain (computeConfig sharedEgress) ⟨inboundTag entryNode, virtualUserName bob.name "exit", "b.example"⟩ =
      .reject := by
  decide

/-- The fallback of the first policy takes `b.example` before the second policy, the only one that matches it. -/
theorem not_forall_leastMatchFirst :
    ¬ ∀ [Library] [MapOrder] (D : Type) (destMatches : EgressPolicyMatch → D → Bool) (input : Input) (u : User)
      (t : String) (d : D),
      (∀ p ∈ input.egressPolicies,
        p.status.resolvedEgress = "" ∨ p.status.resolvedEgress = resolvePolicyEgressName [] input p) →
      Serves input (virtualUserName u.name t) →
      LeastMatchFirst destMatches input t d
        (route destMatches (computeConfig input) ⟨inboundTag input.node, virtualUserName u.name t, d⟩) := by
  intro h
  have hclaim := h String inDomain sharedEgress bob "exit" "b.example"
    (by intro p hp; left; rcases List.mem_pair.1 hp with rfl | rfl <;> rfl) sharedEgress_serves
  rw [show inboundTag sharedEgress.node = inboundTag entryNode from rfl, sharedEgress_rejects] at hclaim
  rcases hclaim with ⟨p, hp, _, hmatch, _, hv⟩ | ⟨hnone, _⟩
  · rcases List.mem_pair.1 hp with rfl | rfl
    · revert hmatch; decide
    · revert hv; decide
  · have := hnone secondPolicy (List.mem_pair.2 (.inr rfl)) (by decide)
    revert this
    decide

theorem route_virtualUser_shared :
    Serves sharedEgress (virtualUserName bob.name "exit") ∧
    ((∃ p ∈ sharedEgress.egressPolicies, decides inDomain sharedEgress "exit" "b.example" p = true ∧
      (∀ q ∈ sharedEgress.egressPolicies, decides inDomain sharedEgress "exit" "b.example" q = true →
        policyKey p ≤ policyKey q) ∧
      route inDomain (computeConfig sharedEgress)
        ⟨inboundTag sharedEgress.node, virtualUserName bob.name "exit", "b.example"⟩ =
          decision inDomain sharedEgress "b.example" p) ∨
    ((∀ p ∈ sharedEgress.egressPolicies, decides inDomain sharedEgress "exit" "b.example" p = false) ∧
      route inDomain (computeConfig sharedEgress)
        ⟨inboundTag sharedEgress.node, virtualUserName bob.name "exit", "b.example"⟩ =
          .outbound (outboundTag "exit"))) :=
  ⟨sharedEgress_serves, route_virtualUser inDomain sharedEgress_serves "b.example"⟩

end

end SingboxOperator
