import SingboxOperator.Controller.Access
import SingboxOperator.Engine.Inert
/-!
# Who is metered

The statistics of a config name the virtual users whose traffic is counted.
`buildExperimentalConfig` collects the targets a second time, with peers, routes,
the node itself and external outbounds, but without the egresses of policies and
without the plain users some nodes serve instead of virtual ones. And it names
virtual users throughout, while sing-box counts a user of socks5 or http by the
UUID.
-/
open SingboxOperator.Lib

namespace SingboxOperator

/-- Every identity of the client inbound is in the statistics. -/
def Metered (N : SingBoxNode) (cfg : SingboxConfig) : Prop :=
  ∀ ib ∈ cfg.inbounds, ib.tag = inboundTag N → ∀ e ∈ ib.users, ∀ id,
    e.identity (effectiveInboundProtocol N) = some id → ∃ api, cfg.experimental = some api ∧ id ∈ api.stats.users

section
variable [Library] [MapOrder]

omit [Library] in
theorem mem_statsUsers {input : Input} {name : String} :
    name ∈ statsUsers input ↔
      ∃ t ∈ peerTargets input ++ otherTargets input, ∃ u ∈ input.users, virtualUserName u.name t = name := by
  rw [Input.Alike.statsUsers_eq, mem_sortOn, List.mem_map]
  have hnames : ∀ x, x ∈ ((peerTargets input ++ otherTargets input).eraseDups.flatMap fun nodeName =>
      input.users.map fun user => virtualUserName user.name nodeName) ↔
      ∃ t ∈ peerTargets input ++ otherTargets input, ∃ u ∈ input.users, virtualUserName u.name t = x := by
    simp only [List.mem_flatMap, List.mem_eraseDups, List.mem_map, implies_true]
  rw [← hnames]
  constructor
  · rintro ⟨⟨k, v⟩, hk, rfl⟩
    rcases GoMap.lookup_assignAll_some _ _ (mem_range.1 hk) with ⟨x, hx, rfl, _⟩ | h
    · exact hx
    · simp at h
  · intro hx
    obtain ⟨x, _, _, hl⟩ := GoMap.lookup_assignAll_of_mem id (fun _ => true) name _ ⟨name, hx, rfl⟩ ∅
    exact ⟨(name, true), mem_range.2 hl, rfl⟩

namespace Cluster
variable {c : Cluster} {N : SingBoxNode} {flags : Flags}

/-- The targets the statistics know. -/
def Counted (c : Cluster) (N : SingBoxNode) (t : String) : Prop :=
  ((∃ n ∈ c.peers N, n.name = t) ∨ ∃ e ∈ c.discovered N, e.name = t) ∧ c.Usable N t ∨
    N.hasRole .inbound = true ∧ N.hasRole .outbound = true ∧ t = N.name

/-- The identity is that of a virtual user for one of them. -/
def CountsAs (c : Cluster) (N : SingBoxNode) (id : String) : Prop :=
  ∃ t, c.Counted N t ∧ ∃ v ∈ c.users, virtualUserName v.name t = id

theorem mem_countedTargets_view {t : String} :
    t ∈ peerTargets (c.view flags N) ++ otherTargets (c.view flags N) ↔ c.Counted N t := by
  have hpeers : t ∈ peerTargets (c.view flags N) ↔ (∃ n ∈ c.peers N, n.name = t) ∧ c.Usable N t := calc
    t ∈ peerTargets (c.view flags N) ↔ ∃ n ∈ (c.view flags N).outboundNodes, n.spec.relayPort ≠ 0 ∧ n.name = t := by
      rw [peerTargets, view_routes]
      simp [and_assoc]
    _ ↔ _ := exists_peer_view
  have hself : t ∈ (if isSelfOutbound (c.view flags N) then [(c.view flags N).node.name] else []) ↔
      N.hasRole .inbound = true ∧ N.hasRole .outbound = true ∧ t = N.name := by
    change t ∈ (if (N.hasRole .inbound && N.hasRole .outbound) = true then [N.name] else []) ↔ _
    by_cases hi : N.hasRole .inbound = true <;> by_cases ho : N.hasRole .outbound = true <;> simp [hi, ho]
  have hothers : t ∈ otherTargets (c.view flags N) ↔
      (N.hasRole .inbound = true ∧ N.hasRole .outbound = true ∧ t = N.name) ∨
        (∃ e ∈ c.discovered N, e.name = t) ∧ c.Usable N t := by
    rw [otherTargets, view_routes, List.mem_append, hself, List.mem_map, exists_external_view]
  rw [List.mem_append, hpeers, hothers, Counted]
  constructor
  · rintro (⟨h, hu⟩ | h | ⟨h, hu⟩)
    · exact .inl ⟨.inl h, hu⟩
    · exact .inr h
    · exact .inl ⟨.inr h, hu⟩
  · rintro (⟨h | h, hu⟩ | h)
    · exact .inl ⟨h, hu⟩
    · exact .inr (.inr ⟨h, hu⟩)
    · exact .inr (.inl h)

/-- What is counted is a target; a target that is not counted is the egress of a policy. -/
theorem target_iff_counted {t : String} :
    c.Target N t ↔ c.Counted N t ∨
      (∃ p ∈ c.kept N, p.spec.action = .route ∧ c.egressName p = t) ∧ c.Usable N t := by
  unfold Target Reached Counted
  constructor
  · rintro (⟨h | h | h, hu⟩ | h)
    · exact .inl (.inl ⟨.inl h, hu⟩)
    · exact .inr ⟨h, hu⟩
    · exact .inl (.inl ⟨.inr h, hu⟩)
    · exact .inl (.inr h)
  · rintro ((⟨h | h, hu⟩ | h) | ⟨h, hu⟩)
    · exact .inl ⟨.inl h, hu⟩
    · exact .inl ⟨.inr (.inr h), hu⟩
    · exact .inr h
    · exact .inl ⟨.inr (.inl h), hu⟩

theorem mem_statsUsers_view (hi : N.hasRole .inbound = true) {id : String} :
    id ∈ statsUsers (c.view flags N) ↔ c.CountsAs N id := by
  rw [mem_statsUsers]
  refine exists_congr fun t => and_congr mem_countedTargets_view (exists_congr fun v => and_congr_left fun _ => ?_)
  exact mem_servedUsers.trans (and_iff_right hi)

/-- Virtual users count as such when the statistics know their target, plain users never do. -/
theorem countsAs_entryName {u : User} (hu : u ∈ c.users) {s : Option String} :
    c.CountsAs N (entryName u s) ↔ ∃ t, s = some t ∧ c.Counted N t := by
  constructor
  · rintro ⟨t, ht, v, _, hname⟩
    cases s with
    | none => exact absurd hname (virtualUserName_ne_name _ _ _)
    | some s =>
      obtain ⟨_, rfl⟩ := virtualUserName_inj.1 hname
      exact ⟨t, rfl, ht⟩
  · rintro ⟨t, rfl, ht⟩
    exact ⟨t, ht, u, hu, rfl⟩

/-- The identities of the client inbound are those of the entries of its users. -/
theorem forall_identity_view (hi : N.hasRole .inbound = true) {P : String → Prop} :
    (∀ e ∈ clientUsers (c.view flags N), ∀ id, e.identity (effectiveInboundProtocol N) = some id → P id) ↔
      ∀ u ∈ c.users, ∀ s, c.HasEntry N u s → P (c.identityOf N u s) := by
  constructor
  · intro h u hu s hs
    obtain ⟨e, he, hl⟩ : ∃ e ∈ clientUsers (c.view flags N), _ := hs.exists_entry hi hu
    exact h e he _ (HasEntry.of_label hi hu he hl).2
  · intro h e he id hid
    rcases (mem_clientUsers_view hi).1 he with ⟨t, ht, u, hu, hmay, rfl⟩ | ⟨hplain, u, hu, rfl⟩
    · obtain rfl := Option.some.inj ((identity_virtualEntry u t).symm.trans hid)
      exact h u hu (some t) ⟨ht, hmay⟩
    · obtain rfl := Option.some.inj ((identity_plainEntry u).symm.trans hid)
      exact h u hu none hplain

/-- Where entries go by their names, it is the egresses of policies that have to be known, and no plain user served. -/
theorem forall_countsAs_entryName {u : User} (hu : u ∈ c.users) :
    (∀ s, c.HasEntry N u s → c.CountsAs N (entryName u s)) ↔
      ¬ c.ServesPlain N ∧
        ∀ p ∈ c.kept N, p.spec.action = .route → c.Usable N (c.egressName p) → c.mayUse u (c.egressName p) = true →
          c.Counted N (c.egressName p) := by
  constructor
  · intro h
    refine ⟨fun hplain => ?_, fun p hp ha husable hmay => ?_⟩
    · obtain ⟨t, ht, _⟩ := (countsAs_entryName hu).1 (h none hplain)
      cases ht
    · have htarget : c.Target N (c.egressName p) := target_iff_counted.2 (.inr ⟨⟨p, hp, ha, rfl⟩, husable⟩)
      obtain ⟨t, ht, hcounted⟩ := (countsAs_entryName hu).1 (h (some _) ⟨htarget, hmay⟩)
      obtain rfl := Option.some.inj ht
      exact hcounted
  · rintro ⟨hplain, hpolicies⟩ s hs
    cases s with
    | none => exact absurd hs hplain
    | some t =>
      refine (countsAs_entryName hu).2 ⟨t, rfl, ?_⟩
      rcases target_iff_counted.1 hs.1 with hc | ⟨⟨p, hp, ha, rfl⟩, husable⟩
      · exact hc
      · exact hpolicies p hp ha husable hs.2

theorem metered_view (hflag : flags.usageCollectionEnabled = true) (hi : N.hasRole .inbound = true) :
    Metered N (computeConfig (c.view flags N)) ↔
      (findProtocolPort N (effectiveInboundProtocol N) ≠ 0 → ∀ u ∈ c.users,
        if identifiesByUUID (effectiveInboundProtocol N) then
          ∀ s, c.HasEntry N u s → c.CountsAs N (c.userCred u).uuid
        else
          ¬ c.ServesPlain N ∧
          ∀ p ∈ c.kept N, p.spec.action = .route → c.Usable N (c.egressName p) → c.mayUse u (c.egressName p) = true →
            c.Counted N (c.egressName p)) := by
  have hapi : (computeConfig (c.view flags N)).experimental = some (buildExperimentalConfig (c.view flags N)) := by
    change (if flags.usageCollectionEnabled then _ else none) = _
    rw [if_pos hflag]
  have hclients : Metered N (computeConfig (c.view flags N)) ↔
      (findProtocolPort N (effectiveInboundProtocol N) ≠ 0 → ∀ e ∈ clientUsers (c.view flags N), ∀ id,
        e.identity (effectiveInboundProtocol N) = some id → id ∈ statsUsers (c.view flags N)) := by
    constructor
    · intro h hport e he id hid
      obtain ⟨api, hsome, hmem⟩ := h _ (mem_inbounds_view.2 (.inl ⟨hi, hport, List.ne_nil_of_mem he, rfl⟩)) rfl e he
        id hid
      obtain rfl := Option.some.inj (hsome.symm.trans hapi)
      exact hmem
    · intro h ib hib htag e he id hid
      rcases mem_inbounds_view.1 hib with ⟨_, hport, _, rfl⟩ | ⟨_, rfl⟩
      · exact ⟨_, hapi, h hport e he id hid⟩
      · exact absurd htag.symm (inboundTag_ne_relayTag N)
  rw [hclients, forall_identity_view hi]
  refine imp_congr_right fun _ => forall₂_congr fun u hu => ?_
  simp only [mem_statsUsers_view hi, identityOf]
  split
  · exact Iff.rfl
  · exact forall_countsAs_entryName hu

end Cluster

/-- With usage collection on, everybody an inbound node serves is metered exactly
when it serves no plain user, and every egress of a policy that some user may use
is a peer, a discovered external outbound or the node itself as well. Behind socks5
and http, where users go by their UUIDs, it serves nobody, or the UUIDs are names
of virtual users. -/
theorem metered_iff {flags : Flags} {c : Cluster} {N : SingBoxNode} {input : Input}
    (hflag : flags.usageCollectionEnabled = true) (hi : N.hasRole .inbound = true)
    (h : collectInput flags c N = .ok input) :
    Metered N (computeConfig input) ↔
      (findProtocolPort N (effectiveInboundProtocol N) ≠ 0 → ∀ u ∈ c.users,
        if identifiesByUUID (effectiveInboundProtocol N) then
          ∀ s, c.HasEntry N u s → c.CountsAs N (c.userCred u).uuid
        else
          ¬ c.ServesPlain N ∧
          ∀ p ∈ c.kept N, p.spec.action = .route → c.Usable N (c.egressName p) → c.mayUse u (c.egressName p) = true →
            c.Counted N (c.egressName p)) := by
  rw [collectInput_ok h]
  exact Cluster.metered_view hflag hi

end

/-! ### A node without targets -/

def lonelyCluster : Cluster where
  ns := "proxy"
  nodes := [lonelyNode]
  users := [petra]
  nodes_nodup := by decide
  externalOutbounds_nodup := noExternals_nodup
  users_nodup := by decide
  policies_nodup := noPolicies_nodup

def meteringFlags : Flags where
  usageCollectionEnabled := true

section
attribute [local instance] plainLibrary storedOrder

theorem lonelyCluster_collected :
    collectInput meteringFlags lonelyCluster lonelyNode = .ok (lonelyCluster.view meteringFlags lonelyNode) := by
  refine collectInput_eq_ok meteringFlags ⟨rfl, rfl, rfl, fun _ => ⟨rfl, fun u hu hgroup => ?_⟩⟩
  rw [List.mem_singleton.1 hu] at hgroup
  exact absurd rfl hgroup

theorem lonelyCluster_servesPlain : lonelyCluster.ServesPlain lonelyNode :=
  Cluster.servesPlain_of_alone rfl rfl rfl (by decide)

/-- The entry of `petra` is not in the statistics. -/
theorem not_forall_metered :
    ¬ ∀ [Library] [MapOrder] (flags : Flags) (c : Cluster) (N : SingBoxNode) (input : Input),
      flags.usageCollectionEnabled = true → N ∈ c.nodes → N.hasRole .inbound = true →
      collectInput flags c N = .ok input → Metered N (computeConfig input) := by
  intro h
  have hmetered := h meteringFlags lonelyCluster lonelyNode _ rfl (List.mem_singleton_self _) (by decide)
    lonelyCluster_collected
  have hpetra := (Cluster.metered_view rfl (by decide)).1 hmetered (by decide) petra (List.mem_singleton_self _)
  rw [if_neg (by decide)] at hpetra
  exact hpetra.1 lonelyCluster_servesPlain

theorem metered_iff_lonely :
    collectInput meteringFlags lonelyCluster lonelyNode = .ok (lonelyCluster.view meteringFlags lonelyNode) ∧
      ¬ Metered lonelyNode (computeConfig (lonelyCluster.view meteringFlags lonelyNode)) := by
  refine ⟨lonelyCluster_collected, fun hmetered => ?_⟩
  have hpetra := (metered_iff rfl (by decide) lonelyCluster_collected).1 hmetered (by decide) petra
    (List.mem_singleton_self _)
  rw [if_neg (by decide)] at hpetra
  exact hpetra.1 lonelyCluster_servesPlain

end

end SingboxOperator
