import SingboxOperator.Engine.Dependence
/-!
# Who a connection is

sing-box takes the identity of a connection from the `username` of the entry
for socks5, http and naive, and from its `name` otherwise. The rules are for
virtual user names. For naive the engine overwrites the `username` with that
name; for socks5 and http it stays the UUID of the user, so an entry and its
rule do not meet.
-/
open SingboxOperator.Lib

namespace SingboxOperator

def UserEntry.identity (protocol : Protocol) (e : UserEntry) : Option String :=
  match protocol with
  | .socks5 | .http | .naive => e.username
  | _ => e.name

/-- The protocols whose `username` is left to `deriveAuth`. -/
def identifiesByUUID (protocol : Protocol) : Bool := protocol = .socks5 || protocol = .http

def userUUID (input : Input) (user : User) : String := (input.userCreds.get user.name ⟨""⟩).uuid

@[simp] theorem identity_virtualUserEntry (input : Input) (proto : Protocol) (t : String) (u : User) :
    (virtualUserEntry input proto t u).identity proto =
      some (if identifiesByUUID proto then userUUID input u else virtualUserName u.name t) := by
  cases proto <;> rfl

@[simp] theorem identity_plainUserEntry (input : Input) (proto : Protocol) (name : String) (u : User) :
    (plainUserEntry input proto name u).identity proto =
      some (if identifiesByUUID proto then userUUID input u else u.name) := by
  cases proto <;> rfl

section
variable [Library] [MapOrder]

/-- The users of the rules after those of the policies are these identities,
and each virtual user is in the rule of its target only. -/
def MatchesRules (input : Input) (identities : List (Option String)) : Prop :=
  ∃ rules, (computeConfig input).route.rules = buildPolicyRules input (policiesForNode input) ++ rules ∧
    (∀ name, (∃ r ∈ rules, name ∈ r.authUser) ↔ some name ∈ identities) ∧
    ∀ (u : User) (t : String), some (virtualUserName u.name t) ∈ identities →
      rules.countP (fun r => virtualUserName u.name t ∈ r.authUser) = 1 ∧
        ∀ r ∈ rules, virtualUserName u.name t ∈ r.authUser → r.outbound = outboundTag t

/-- The identities of the client inbound are distinct, and match the rules when they are for targets. -/
def IdentitiesMatch (input : Input) : Prop :=
  ∀ ib ∈ (computeConfig input).inbounds, ib.tag = inboundTag input.node →
    let identities := ib.users.map (UserEntry.identity (effectiveInboundProtocol input.node))
    identities.Nodup ∧
      (ib ∈ (buildRouteInbounds input (routesForNode input) (isSelfOutbound input)).1 → MatchesRules input identities)

/-! ## Pairs of a user and a target -/

/-- The targets with the users who may use them, in the order of their entries. -/
def servedPairs (input : Input) : List (String × User) :=
  (targets input).flatMap fun t => (input.users.filter fun u => input.allows u t).map fun u => (t, u)

/-- The name of the entry of a pair. -/
def pairName (x : String × User) : String := virtualUserName x.2.name x.1

theorem virtualUsers_eq_map (input : Input) (proto : Protocol) :
    virtualUsers input proto (targets input) =
      (servedPairs input).map fun x => virtualUserEntry input proto x.1 x.2 := by
  simp only [virtualUsers, servedPairs, List.map_flatMap, List.map_map, Function.comp_def]

theorem mem_servedPairs {input : Input} {x : String × User} :
    x ∈ servedPairs input ↔ x.1 ∈ targets input ∧ x.2 ∈ input.users ∧ input.allows x.2 x.1 = true := by
  simp only [servedPairs, List.mem_flatMap, List.mem_map, List.mem_filter]
  constructor
  · rintro ⟨t, ht, u, ⟨hu, hallow⟩, rfl⟩
    exact ⟨ht, hu, hallow⟩
  · rintro ⟨ht, hu, hallow⟩
    exact ⟨x.1, ht, x.2, ⟨hu, hallow⟩, rfl⟩

theorem mem_pairNames {input : Input} {name : String} :
    name ∈ (servedPairs input).map pairName ↔ ∃ t ∈ targets input, name ∈ policyAuthUsers input t := by
  simp only [List.mem_map, mem_servedPairs, mem_policyAuthUsers]
  constructor
  · rintro ⟨x, ⟨ht, hu, hallow⟩, rfl⟩
    exact ⟨x.1, ht, x.2, hu, hallow, rfl⟩
  · rintro ⟨t, ht, u, hu, hallow, rfl⟩
    exact ⟨(t, u), ⟨ht, hu, hallow⟩, rfl⟩

/-- Users of one name have one credential, so distinct UUIDs belong to distinct names. -/
theorem nodup_pairNames {input : Input} (h : ((servedPairs input).map fun x => userUUID input x.2).Nodup) :
    ((servedPairs input).map pairName).Nodup := by
  refine (List.nodup_map_iff_inj_on h.of_map).2 fun x hx y hy hxy => ?_
  obtain ⟨hname, _⟩ := virtualUserName_inj.1 hxy
  refine List.inj_on_of_nodup_map h hx hy ?_
  simp only [userUUID, hname]

/-! ## Target rules -/

theorem nodup_targets (input : Input) : (targets input).Nodup := nodup_eraseDups _

theorem exists_targetRule {input : Input} {name : String} :
    (∃ r ∈ targetRules input (targets input), name ∈ r.authUser) ↔ name ∈ (servedPairs input).map pairName := by
  rw [mem_pairNames]
  constructor
  · rintro ⟨r, hr, hname⟩
    obtain ⟨t, ht, _, rfl⟩ := mem_targetRules.1 hr
    exact ⟨t, ht, hname⟩
  · rintro ⟨t, ht, hname⟩
    obtain ⟨u, hu, hallow, _⟩ := mem_policyAuthUsers.1 hname
    exact ⟨_, mem_targetRules.2 ⟨t, ht, ⟨u, hu, hallow⟩, rfl⟩, hname⟩

/-- A virtual user is in the rule of its target, and in no other. -/
theorem targetRules_of_virtualUser {input : Input} {u : User} {t : String}
    (h : virtualUserName u.name t ∈ (servedPairs input).map pairName) :
    (targetRules input (targets input)).countP (fun r => virtualUserName u.name t ∈ r.authUser) = 1 ∧
      ∀ r ∈ targetRules input (targets input), virtualUserName u.name t ∈ r.authUser → r.outbound = outboundTag t := by
  have hname : ∀ t', virtualUserName u.name t ∈ policyAuthUsers input t' → t' = t := by
    intro t' ht'
    obtain ⟨v, _, _, hv⟩ := mem_policyAuthUsers.1 ht'
    exact (virtualUserName_inj.1 hv).2.symm
  refine ⟨?_, fun r hr hmem => ?_⟩
  · obtain ⟨t', ht', hmem⟩ := mem_pairNames.1 h
    obtain rfl := hname t' hmem
    have huser : hasUser input t' = true := by
      obtain ⟨v, hv, hallow, _⟩ := mem_policyAuthUsers.1 hmem
      exact hasUser_iff.2 ⟨v, hv, hallow⟩
    rw [targetRules_eq, List.countP_map]
    have hcount : ((targets input).filter (hasUser input)).count t' = 1 :=
      List.count_eq_one_of_mem ((nodup_targets input).filter _) (List.mem_filter.2 ⟨ht', huser⟩)
    rw [← hcount, List.count]
    refine List.countP_congr fun s _ => ?_
    simp only [Function.comp_apply, decide_eq_true_eq, beq_iff_eq]
    exact ⟨hname s, fun hs => hs ▸ hmem⟩
  · obtain ⟨t', _, _, rfl⟩ := mem_targetRules.1 hr
    rw [hname t' hmem]

/-! ## When identities and rules match -/

theorem identities_virtualUsers (input : Input) (proto : Protocol) :
    (virtualUsers input proto (targets input)).map (UserEntry.identity proto) =
      ((servedPairs input).map fun x => if identifiesByUUID proto then userUUID input x.2 else pairName x).map some := by
  rw [virtualUsers_eq_map, List.map_map, List.map_map]
  refine List.map_congr_left fun x _ => ?_
  simp only [Function.comp_apply, identity_virtualUserEntry, pairName]

omit [Library] [MapOrder] in
theorem identities_plainUsers (input : Input) (proto : Protocol) (name : String) :
    (buildUsersBlock input proto name).map (UserEntry.identity proto) =
      (input.users.map fun u => if identifiesByUUID proto then userUUID input u else u.name).map some := by
  rw [buildUsersBlock, List.map_map, List.map_map]
  refine List.map_congr_left fun u _ => ?_
  simp only [Function.comp_apply, identity_plainUserEntry]

theorem servedPairs_eq_nil {input : Input} : servedPairs input = [] ↔ NoPair input := by
  have h : virtualUsers input .vless (targets input) = [] ↔ NoPair input := virtualUsers_eq_nil
  rw [← h, virtualUsers_eq_map, List.map_eq_nil_iff]

/-- The inbound for targets, if there is one. -/
theorem mem_routeInbounds {input : Input} {ib : Inbound} :
    ib ∈ (buildRouteInbounds input (routesForNode input) (isSelfOutbound input)).1 ↔
      clientPort input ≠ 0 ∧ ¬ NoPair input ∧
        ib = buildInboundEntry (effectiveInboundProtocol input.node) (inboundTag input.node) (clientPort input)
          (virtualUsers input (effectiveInboundProtocol input.node) (targets input)) := by
  have hpair : virtualUsers input (effectiveInboundProtocol input.node) (targets input) = [] ↔ NoPair input :=
    virtualUsers_eq_nil
  rw [← hpair]
  simp only [buildRouteInbounds, Bool.and_eq_true, decide_eq_true_eq]
  change ib ∈ (if clientPort input ≠ 0 ∧ virtualUsers input _ (targets input) ≠ [] then _ else []) ↔ _
  split
  · rename_i h
    simp only [List.mem_singleton, h.1, h.2, ne_eq, not_false_eq_true, true_and]
    rfl
  · rename_i h
    simp only [List.not_mem_nil, false_iff]
    exact fun h' => h ⟨h'.1, h'.2.1⟩

theorem matchesRules_iff {input : Input} (hi : input.node.hasRole .inbound = true) (names : List String) :
    MatchesRules input (names.map some) ↔ ∀ name, name ∈ (servedPairs input).map pairName ↔ name ∈ names := by
  have hsome : ∀ name, some name ∈ names.map some ↔ name ∈ names :=
    fun name => List.mem_map_of_injective (Option.some_injective _)
  have hrules : (computeConfig input).route.rules =
      buildPolicyRules input (policiesForNode input) ++ targetRules input (targets input) := by
    rw [computeConfig_rules, if_pos hi]
  simp only [MatchesRules, hsome, hrules, List.append_cancel_left_eq]
  constructor
  · rintro ⟨_, rfl, hname, _⟩ name
    rw [← hname, exists_targetRule]
  · intro hname
    refine ⟨_, rfl, fun name => exists_targetRule.trans (hname name), fun u t ht => ?_⟩
    exact targetRules_of_virtualUser ((hname _).2 ht)

theorem clientUsers_of_pair {input : Input} (h : ¬ NoPair input) :
    clientUsers input = virtualUsers input (effectiveInboundProtocol input.node) (targets input) :=
  if_pos fun hnil => h (virtualUsers_eq_nil.1 hnil)

/-- The identities of the pairs are the users of the target rules. -/
theorem identities_eq_users_iff (input : Input) (proto : Protocol) :
    (((servedPairs input).map fun x => if identifiesByUUID proto then userUUID input x.2 else pairName x).Nodup ∧
      ∀ name, name ∈ (servedPairs input).map pairName ↔
        name ∈ (servedPairs input).map fun x => if identifiesByUUID proto then userUUID input x.2 else pairName x) ↔
      ((servedPairs input).map pairName).Nodup ∧
        (identifiesByUUID proto = true →
          ((servedPairs input).map fun x => userUUID input x.2).Perm ((servedPairs input).map pairName)) := by
  by_cases hp : identifiesByUUID proto = true
  · simp only [hp, if_true, forall_const]
    constructor
    · rintro ⟨hnodup, hmem⟩
      exact ⟨nodup_pairNames hnodup,
        (List.perm_ext_iff_of_nodup hnodup (nodup_pairNames hnodup)).2 fun name => (hmem name).symm⟩
    · rintro ⟨hnodup, hperm⟩
      exact ⟨hperm.nodup_iff.2 hnodup, fun name => hperm.symm.mem_iff⟩
  · simp [hp]

theorem IdentitiesMatch.pairNames {input : Input} (h : IdentitiesMatch input)
    (hi : input.node.hasRole .inbound = true) (hport : clientPort input ≠ 0) (hpair : ¬ NoPair input) :
    ((servedPairs input).map pairName).Nodup ∧
      (identifiesByUUID (effectiveInboundProtocol input.node) = true →
        ((servedPairs input).map fun x => userUUID input x.2).Perm ((servedPairs input).map pairName)) := by
  have hclient := clientUsers_of_pair hpair
  have hne : clientUsers input ≠ [] := fun hnil => hpair (virtualUsers_eq_nil.1 (hclient ▸ hnil))
  obtain ⟨hnodup, hmatch⟩ := h _ (mem_inbounds.2 (.inl ⟨hi, hport, hne, rfl⟩)) rfl
  have hrules := hmatch (hclient ▸ mem_routeInbounds.2 ⟨hport, hpair, rfl⟩)
  rw [buildInboundEntry, hclient, identities_virtualUsers] at hnodup hrules
  exact (identities_eq_users_iff input _).1 ⟨hnodup.of_map, (matchesRules_iff hi _).1 hrules⟩

/-- Identities match the rules exactly when the names of the served users are
distinct and, where the UUID is the identity, the UUIDs are those names. -/
theorem identitiesMatch_iff (input : Input) :
    IdentitiesMatch input ↔
      (input.node.hasRole .inbound = true → clientPort input ≠ 0 →
        let proto := effectiveInboundProtocol input.node
        let uuids := (servedPairs input).map fun x => userUUID input x.2
        ((servedPairs input).map pairName).Nodup ∧
          (identifiesByUUID proto = true → uuids.Perm ((servedPairs input).map pairName)) ∧
          (NoPair input → input.egressPolicies ≠ [] ∨ hasOutboundPeers input = false →
            (input.users.map fun u => if identifiesByUUID proto then userUUID input u else u.name).Nodup)) := by
  have hsome : Function.Injective (some : String → Option String) := Option.some_injective _
  constructor
  · intro h hi hport
    by_cases hpair : NoPair input
    · rw [servedPairs_eq_nil.2 hpair]
      refine ⟨List.nodup_nil, fun _ => .refl _, fun _ hmode => ?_⟩
      have hclient := clientUsers_of_noPair hpair hmode
      by_cases hnil : clientUsers input = []
      · rw [hclient, buildUsersBlock, List.map_eq_nil_iff] at hnil
        rw [hnil]
        exact List.nodup_nil
      · have hnodup := (h _ (mem_inbounds.2 (.inl ⟨hi, hport, hnil, rfl⟩)) rfl).1
        rw [buildInboundEntry, hclient, identities_plainUsers] at hnodup
        exact hnodup.of_map
    · obtain ⟨hnames, huuids⟩ := h.pairNames hi hport hpair
      exact ⟨hnames, huuids, fun hp => absurd hp hpair⟩
  · intro h ib hib htag
    rcases mem_inbounds.1 hib with ⟨hi, hport, hne, rfl⟩ | ⟨_, rfl⟩
    · obtain ⟨hnames, huuids, husers⟩ := h hi hport
      by_cases hpair : NoPair input
      · refine ⟨?_, fun hroute => absurd hpair (mem_routeInbounds.1 hroute).2.1⟩
        -- only the fallback to plain users leaves an inbound
        obtain ⟨e, he⟩ := List.exists_mem_of_ne_nil _ hne
        rcases mem_clientUsers.1 he with ⟨t, ht, u, hu, hallow, _⟩ | ⟨_, hmode, _⟩
        · rw [hpair t ht u hu] at hallow
          cases hallow
        · rw [buildInboundEntry, clientUsers_of_noPair hpair hmode, identities_plainUsers]
          exact (husers hpair hmode).map hsome
      · obtain ⟨hnodup, hmatch⟩ := (identities_eq_users_iff input _).2 ⟨hnames, huuids⟩
        rw [buildInboundEntry, clientUsers_of_pair hpair, identities_virtualUsers]
        exact ⟨hnodup.map hsome, fun _ => (matchesRules_iff hi _).2 hmatch⟩
    · exact absurd htag.symm (inboundTag_ne_relayTag _)

end

/-! ### A user of a socks5 node -/

/-- A node that is its own and only target. -/
def socksEdge : SingBoxNode where
  metadata := .named "socks-edge"
  spec :=
    { SingBoxNodeSpec.bare with
      address := "198.51.100.7", region := "hk", roles := [.inbound, .outbound], inboundProtocol := some .socks5,
      supportedProtocols := [Port.socks.listener .socks5] }

def erin : User := { metadata := .named "erin", spec := { authSecret := { name := "erin-auth" } } }

def socksInput : Input where
  node := socksEdge
  users := [erin]
  userCreds := AList.insert "erin" ⟨"f0a5a0d6-951a-4936-a7e7-93a8f86f2fb8"⟩ ∅

section
attribute [local instance] plainLibrary storedOrder

/-- The rule is for `erin#socks-edge`, but the connection is that of the UUID. -/
theorem not_forall_identitiesMatch :
    ¬ ∀ [Library] [MapOrder] (input : Input), (∀ t ∈ targets input, '#' ∉ t.toList) → IdentitiesMatch input := by
  intro h
  have hpair : ¬ NoPair socksInput :=
    fun hnone => absurd (hnone "socks-edge" (by decide) erin (List.mem_singleton_self _)) (by decide)
  have hperm := ((h socksInput (by decide)).pairNames (by decide) (by decide) hpair).2 (by decide)
  exact absurd (hperm.mem_iff.2 (by decide : "erin#socks-edge" ∈ (servedPairs socksInput).map pairName)) (by decide)

end

end SingboxOperator
