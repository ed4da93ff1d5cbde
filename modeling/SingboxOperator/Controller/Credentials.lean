import SingboxOperator.Controller.References
/-!
# Which credentials a config is made of

`collectInput` ignores a Secret it cannot read, and the engine takes a missing
entry of its credential maps for an empty one. So a user whose Secret is
missing is served like any other, with credentials derived from the empty
string.
-/
open SingboxOperator.Lib

namespace SingboxOperator

namespace Cluster
variable {c : Cluster} {N : SingBoxNode}

/-! ## The entries of the client inbound -/

def virtualEntry (c : Cluster) (N : SingBoxNode) (t : String) (u : User) : UserEntry :=
  labelUser (effectiveInboundProtocol N) (deriveAuth (effectiveInboundProtocol N) (c.userCred u).uuid t)
    (virtualUserName u.name t)

def plainEntry (c : Cluster) (N : SingBoxNode) (u : User) : UserEntry :=
  labelUser (effectiveInboundProtocol N) (deriveAuth (effectiveInboundProtocol N) (c.userCred u).uuid N.name) u.name

/-- The inbound other nodes relay to. -/
def relayInbound (c : Cluster) (N : SingBoxNode) : Inbound :=
  { type := "socks", tag := relayTag, listenPort := effectiveRelayPort N,
    users := [{ username := some (c.nodeCred N.name).username, password := some (c.nodeCred N.name).password }] }

section
variable [Library] [MapOrder] {flags : Flags}

/-- The node serves users without a target: nobody may use any of its
targets, and it has policies or nothing to relay to at all. -/
def ServesPlain (c : Cluster) (N : SingBoxNode) : Prop :=
  (∀ t, c.Target N t → ∀ u ∈ c.users, c.mayUse u t = false) ∧
    (c.kept N ≠ [] ∨
      c.peers N = [] ∧ ¬ (N.hasRole .inbound = true ∧ N.hasRole .outbound = true) ∧
        ∀ e ∈ c.discovered N, hasRequiredExternalCreds e (c.externalCred e) = false)

/-- The node serves the user, for a target or without one. -/
def Served (c : Cluster) (N : SingBoxNode) (u : User) : Prop :=
  N.hasRole .inbound = true ∧ findProtocolPort N (effectiveInboundProtocol N) ≠ 0 ∧ u ∈ c.users ∧
    ((∃ t, c.Target N t ∧ c.mayUse u t = true) ∨ c.ServesPlain N)

/-- A node that has nothing to relay to and no policy serves everybody. -/
theorem servesPlain_of_alone (hpeers : c.peers N = []) (hkept : c.kept N = []) (hdisc : c.discovered N = [])
    (ho : N.hasRole .outbound = false) : c.ServesPlain N := by
  refine ⟨fun t ht => ?_, .inr ⟨hpeers, by simp [ho], by simp [hdisc]⟩⟩
  rcases ht with ⟨hreach, _⟩ | ⟨_, ho', _⟩
  · rcases hreach with ⟨n, hn, _⟩ | ⟨p, hp, _⟩ | ⟨e, he, _⟩
    · simp [hpeers] at hn
    · simp [hkept] at hp
    · simp [hdisc] at he
  · rw [ho] at ho'
    cases ho'

theorem hasOutboundPeers_view :
    hasOutboundPeers (c.view flags N) = false ↔
      c.kept N = [] ∧ c.peers N = [] ∧ ¬ (N.hasRole .inbound = true ∧ N.hasRole .outbound = true) ∧
        ∀ e ∈ c.discovered N, hasRequiredExternalCreds e (c.externalCred e) = false := by
  have hext : resolveExternalOutbounds (c.view flags N) [] = [] ↔
      ∀ e ∈ c.discovered N, hasRequiredExternalCreds e (c.externalCred e) = false := by
    rw [resolveExternalOutbounds_view, List.filter_eq_nil_iff]
    simp
  simp only [hasOutboundPeers, view_routes, Bool.or_eq_false_iff, Bool.not_eq_false', List.isEmpty_iff, hext,
    policiesForNode, sortOn_eq_nil, isSelfOutbound, node_view, outboundNodes_view, egressPolicies_view]
  rw [← Bool.not_eq_true, Bool.and_eq_true]
  constructor
  · rintro ⟨⟨⟨⟨hp, _⟩, hk⟩, hs⟩, he⟩
    exact ⟨hk, hp, hs, he⟩
  · rintro ⟨hk, hp, hs, he⟩
    exact ⟨⟨⟨⟨hp, trivial⟩, hk⟩, hs⟩, he⟩

theorem noPair_view (hi : N.hasRole .inbound = true) :
    NoPair (c.view flags N) ↔ ∀ t, c.Target N t → ∀ u ∈ c.users, c.mayUse u t = false := by
  unfold NoPair
  refine forall_congr' fun t => ?_
  rw [mem_targets_view]
  refine imp_congr Iff.rfl (forall_congr' fun u => ?_)
  constructor
  · intro h hu
    have hu' : u ∈ c.servedUsers N := mem_servedUsers.2 ⟨hi, hu⟩
    exact (view_allows hu' t).symm.trans (h hu')
  · intro h hu
    exact (view_allows hu t).trans (h (mem_servedUsers.1 hu).2)

theorem virtualUserEntry_view {t : String} {u : User} (hu : u ∈ c.servedUsers N) :
    virtualUserEntry (c.view flags N) (effectiveInboundProtocol N) t u = c.virtualEntry N t u := by
  simp only [virtualUserEntry, virtualEntry, view_userCred hu]

theorem plainUserEntry_view {u : User} (hu : u ∈ c.servedUsers N) :
    plainUserEntry (c.view flags N) (effectiveInboundProtocol N) N.name u = c.plainEntry N u := by
  simp only [plainUserEntry, plainEntry, view_userCred hu]

theorem servesPlain_view (hi : N.hasRole .inbound = true) :
    (NoPair (c.view flags N) ∧ ((c.view flags N).egressPolicies ≠ [] ∨ hasOutboundPeers (c.view flags N) = false)) ↔
      c.ServesPlain N := by
  rw [noPair_view hi, hasOutboundPeers_view, egressPolicies_view, ServesPlain]
  refine and_congr_right fun _ => ?_
  by_cases hk : c.kept N = [] <;> simp [hk]

theorem mem_clientUsers_view (hi : N.hasRole .inbound = true) {e : UserEntry} :
    e ∈ clientUsers (c.view flags N) ↔
      (∃ t, c.Target N t ∧ ∃ u ∈ c.users, c.mayUse u t = true ∧ e = c.virtualEntry N t u) ∨
        c.ServesPlain N ∧ ∃ u ∈ c.users, e = c.plainEntry N u := by
  have hserved : ∀ u, u ∈ c.servedUsers N ↔ u ∈ c.users := fun u => by rw [mem_servedUsers, hi]; simp
  rw [mem_clientUsers, ← and_assoc, servesPlain_view hi]
  refine or_congr ⟨?_, ?_⟩ (and_congr_right fun _ => ⟨?_, ?_⟩)
  · rintro ⟨t, ht, u, hu, hallow, rfl⟩
    exact ⟨t, mem_targets_view.1 ht, u, (hserved u).1 hu, (view_allows hu t).symm.trans hallow,
      virtualUserEntry_view hu⟩
  · rintro ⟨t, ht, u, hu, hmay, rfl⟩
    have hu' := (hserved u).2 hu
    exact ⟨t, mem_targets_view.2 ht, u, hu', (view_allows hu' t).trans hmay, (virtualUserEntry_view hu').symm⟩
  · rintro ⟨u, hu, rfl⟩
    exact ⟨u, (hserved u).1 hu, plainUserEntry_view hu⟩
  · rintro ⟨u, hu, rfl⟩
    exact ⟨u, (hserved u).2 hu, (plainUserEntry_view ((hserved u).2 hu)).symm⟩

theorem mem_inbounds_view {ib : Inbound} :
    ib ∈ (computeConfig (c.view flags N)).inbounds ↔
      (N.hasRole .inbound = true ∧ findProtocolPort N (effectiveInboundProtocol N) ≠ 0 ∧
        clientUsers (c.view flags N) ≠ [] ∧
        ib = buildInboundEntry (effectiveInboundProtocol N) (inboundTag N)
          (findProtocolPort N (effectiveInboundProtocol N)) (clientUsers (c.view flags N))) ∨
      N.hasRole .outbound = true ∧ ib = c.relayInbound N := by
  rw [mem_inbounds]
  refine or_congr Iff.rfl (and_congr_right fun ho => ?_)
  have hcred : (c.view flags N).nodeCreds.get N.name ⟨"", ""⟩ = c.nodeCred N.name := view_nodeCred (.inr ⟨rfl, ho⟩)
  rw [buildRelayInbound, node_view, hcred, relayInbound]

/-! ## Missing credentials -/

/-- The entry is derived from a non-empty `uuid` read from the user's Secret. -/
def FromUser (c : Cluster) (N : SingBoxNode) (u : User) (e : UserEntry) : Prop :=
  ∃ uuid, uuid ≠ "" ∧ getUserCredential c u = .ok ⟨uuid⟩ ∧
    ((∃ t, e = labelUser (effectiveInboundProtocol N) (deriveAuth (effectiveInboundProtocol N) uuid t)
        (virtualUserName u.name t)) ∨
      e = labelUser (effectiveInboundProtocol N) (deriveAuth (effectiveInboundProtocol N) uuid N.name) u.name)

/-- The entry is the non-empty relay credential read from the node's Secret. -/
def FromNode (c : Cluster) (N : SingBoxNode) (e : UserEntry) : Prop :=
  ∃ username password, username ≠ "" ∧ password ≠ "" ∧ getNodeCredential c N.name = .ok ⟨username, password⟩ ∧
    e = { username := some username, password := some password }

/-- Every entry of every inbound comes from a credential that was read. -/
def CredentialsRead (c : Cluster) (N : SingBoxNode) (cfg : SingboxConfig) : Prop :=
  ∀ ib ∈ cfg.inbounds, ∀ e ∈ ib.users,
    ib.tag = inboundTag N ∧ (∃ u ∈ c.users, c.FromUser N u e) ∨ ib.tag = relayTag ∧ c.FromNode N e

omit [Library] [MapOrder] in
/-- An entry tells whose it is. -/
theorem FromUser.name_eq {u v : User} {e : UserEntry} (h : c.FromUser N v e)
    (hl : (∃ t, e.label (effectiveInboundProtocol N) = some (virtualUserName u.name t)) ∨
      e.label (effectiveInboundProtocol N) = some u.name) : v.name = u.name := by
  obtain ⟨uuid, _, _, ⟨t', rfl⟩ | rfl⟩ := h
  · simp only [label_labelUser, Option.some.injEq] at hl
    rcases hl with ⟨t, ht⟩ | hplain
    · exact (virtualUserName_inj.1 ht).1
    · exact absurd hplain (virtualUserName_ne_name _ _ _)
  · simp only [label_labelUser, Option.some.injEq] at hl
    rcases hl with ⟨t, ht⟩ | hplain
    · exact absurd ht.symm (virtualUserName_ne_name _ _ _)
    · exact hplain

theorem Served.exists_entry {u : User} (h : c.Served N u) :
    ∃ e ∈ clientUsers (c.view flags N),
      (∃ t, e.label (effectiveInboundProtocol N) = some (virtualUserName u.name t)) ∨
        e.label (effectiveInboundProtocol N) = some u.name := by
  obtain ⟨hi, _, hu, ⟨t, ht, hmay⟩ | hplain⟩ := h
  · exact ⟨_, (mem_clientUsers_view hi).2 (.inl ⟨t, ht, u, hu, hmay, rfl⟩), .inl ⟨t, label_labelUser _ _ _⟩⟩
  · exact ⟨_, (mem_clientUsers_view hi).2 (.inr ⟨hplain, u, hu, rfl⟩), .inr (label_labelUser _ _ _)⟩

theorem credentialsRead_view :
    c.CredentialsRead N (computeConfig (c.view flags N)) ↔
      (∀ u, c.Served N u → ∃ uuid, uuid ≠ "" ∧ getUserCredential c u = .ok ⟨uuid⟩) ∧
        (N.hasRole .outbound = true → ∃ username password, username ≠ "" ∧ password ≠ "" ∧
          getNodeCredential c N.name = .ok ⟨username, password⟩) := by
  constructor
  · intro h
    refine ⟨fun u hu => ?_, fun ho => ?_⟩
    · obtain ⟨e, he, hl⟩ := hu.exists_entry
      have hib := mem_inbounds_view.2 (.inl ⟨hu.1, hu.2.1, List.ne_nil_of_mem he, rfl⟩)
      rcases h _ hib e he with ⟨_, v, hv, hfrom⟩ | ⟨htag, _⟩
      · obtain rfl := user_unique hv hu.2.2.1 (hfrom.name_eq hl)
        obtain ⟨uuid, hne, hread, _⟩ := hfrom
        exact ⟨uuid, hne, hread⟩
      · exact absurd htag (inboundTag_ne_relayTag _)
    · rcases h _ (mem_inbounds_view.2 (.inr ⟨ho, rfl⟩)) _ List.mem_cons_self with ⟨htag, _⟩ | ⟨_, hfrom⟩
      · exact absurd htag.symm (inboundTag_ne_relayTag _)
      · obtain ⟨username, password, h1, h2, hread, _⟩ := hfrom
        exact ⟨username, password, h1, h2, hread⟩
  · rintro ⟨husers, hnode⟩ ib hib e he
    rcases mem_inbounds_view.1 hib with ⟨hi, hp, _, rfl⟩ | ⟨ho, rfl⟩
    · left
      refine ⟨rfl, ?_⟩
      have hread : ∀ u, c.Served N u → ∃ uuid, uuid ≠ "" ∧ getUserCredential c u = .ok ⟨uuid⟩ ∧ c.userCred u = ⟨uuid⟩ := by
        intro u hu
        obtain ⟨uuid, hne, hr⟩ := husers u hu
        exact ⟨uuid, hne, hr, by simp [userCred, hr, Except.toOption]⟩
      rcases (mem_clientUsers_view hi).1 he with ⟨t, ht, u, hu, hmay, rfl⟩ | ⟨hplain, u, hu, rfl⟩
      · obtain ⟨uuid, hne, hr, hc⟩ := hread u ⟨hi, hp, hu, .inl ⟨t, ht, hmay⟩⟩
        exact ⟨u, hu, uuid, hne, hr, .inl ⟨t, by rw [virtualEntry, hc]⟩⟩
      · obtain ⟨uuid, hne, hr, hc⟩ := hread u ⟨hi, hp, hu, .inr hplain⟩
        exact ⟨u, hu, uuid, hne, hr, .inr (by rw [plainEntry, hc])⟩
    · right
      refine ⟨rfl, ?_⟩
      obtain ⟨username, password, h1, h2, hread⟩ := hnode ho
      rw [relayInbound, List.mem_singleton, nodeCred, hread] at he
      exact ⟨username, password, h1, h2, hread, he⟩

end

end Cluster

section
variable [Library] [MapOrder]

/-- Every entry of a config comes from a credential that was read exactly when
all served users have a Secret with a `uuid`, and an outbound node a complete
relay Secret. -/
theorem credentialsRead_iff {flags : Flags} {c : Cluster} {N : SingBoxNode} {input : Input}
    (h : collectInput flags c N = .ok input) :
    c.CredentialsRead N (computeConfig input) ↔
      (∀ u, c.Served N u → ∃ uuid, uuid ≠ "" ∧ getUserCredential c u = .ok ⟨uuid⟩) ∧
        (N.hasRole .outbound = true → ∃ username password, username ≠ "" ∧ password ≠ "" ∧
          getNodeCredential c N.name = .ok ⟨username, password⟩) := by
  rw [collectInput_ok h]
  exact Cluster.credentialsRead_view

end

/-! ### A user without a Secret -/

section
attribute [local instance] plainLibrary storedOrder

theorem alice_served : edgeCluster.Served edge alice :=
  ⟨by decide, by decide, List.mem_singleton_self _, .inl ⟨"edge", .inr ⟨by decide, by decide, rfl⟩, by decide⟩⟩

theorem alice_no_credential : ¬ ∃ uuid, uuid ≠ "" ∧ getUserCredential edgeCluster alice = .ok ⟨uuid⟩ := by
  rintro ⟨uuid, _, h⟩
  cases h

/-- No Secret exists, and the entry `alice#edge` has the password derived from the empty string. -/
theorem not_forall_credentialsRead :
    ¬ ∀ [Library] [MapOrder] (flags : Flags) (c : Cluster) (N : SingBoxNode) (input : Input),
      collectInput flags c N = .ok input → c.CredentialsRead N (computeConfig input) := by
  intro h
  have hread := h {} edgeCluster edge _ edge_collected
  exact alice_no_credential ((Cluster.credentialsRead_view.1 hread).1 alice alice_served)

theorem credentialsRead_iff_edge :
    collectInput {} edgeCluster edge = .ok (edgeCluster.view {} edge) ∧
      ¬ edgeCluster.CredentialsRead edge (computeConfig (edgeCluster.view {} edge)) :=
  ⟨edge_collected, fun h => alice_no_credential (((credentialsRead_iff edge_collected).1 h).1 alice alice_served)⟩

end

end SingboxOperator
