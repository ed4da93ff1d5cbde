import SingboxOperator.Controller.Access
/-!
# Where relayed traffic leaves

No rule is for the relay inbound: those of policies are for the client
inbound, all others for virtual users. So what another node relays here goes to
the final outbound. That is `direct` when there is a rule at all. Without one
it is the first entry, and on a node that is also an inbound this may be the
relay entry of a peer. Two such nodes relay to each other.
-/
open SingboxOperator.Lib

namespace SingboxOperator

section
variable {D : Type} (destMatches : EgressPolicyMatch → D → Bool)

/-- A connection from another node, with the relay credential of `N`. -/
def relayed (c : Cluster) (N : SingBoxNode) (d : D) : Connection D := ⟨relayTag, (c.nodeCred N.name).username, d⟩

/-- What is relayed to `N` goes on to the relay inbound of `M`. -/
def RelaysOn (c : Cluster) (N M : SingBoxNode) (cfg : SingboxConfig) : Prop :=
  c.relayEntry M ∈ cfg.outbounds ∧ ∃ d : D, route destMatches cfg (relayed c N d) = .outbound (c.relayEntry M).tag

/-- What is relayed to `N` leaves there, so no path has a second relay. -/
def LeavesAtFirstRelay (c : Cluster) (N : SingBoxNode) (cfg : SingboxConfig) : Prop :=
  (∀ d : D, ∃ o ∈ cfg.outbounds, o.type = "direct" ∧ route destMatches cfg (relayed c N d) = .outbound o.tag) ∧
    ∀ M, ¬ RelaysOn destMatches c N M cfg

/-! ## Entries and their tags -/

theorem outbound_unique [Library] [MapOrder] {input : Input} {o o' : Outbound} (h : o ∈ (computeConfig input).outbounds)
    (h' : o' ∈ (computeConfig input).outbounds) (htag : o.tag = o'.tag) : o = o' := by
  rw [computeConfig_outbounds, deduplicateByTag, mem_firstBy] at h h'
  rw [htag, h'] at h
  exact (Option.some.inj h).symm

/-- The entries of an inbound node start with its first client entry. -/
theorem computeConfig_outbounds_cons [Library] [MapOrder] {input : Input} (hi : input.node.hasRole .inbound = true)
    {o : Outbound} {rest : List Outbound} (h : clientOutbounds input = o :: rest) :
    ∃ rest', (computeConfig input).outbounds = o :: rest' := by
  rw [computeConfig_outbounds, if_pos hi, h, List.cons_append, deduplicateByTag, firstBy_cons]
  exact ⟨_, rfl⟩

theorem buildExternalOutboundEntry_type_ne_direct (e : ExternalOutbound) (creds : ExternalCredential) :
    (buildExternalOutboundEntry e creds).type ≠ "direct" := by
  cases h : e.spec.protocol <;> simp [buildExternalOutboundEntry, h]

namespace Cluster
variable {c : Cluster} {N : SingBoxNode} [Library] [MapOrder] {flags : Flags}

theorem Renders.type_ne_direct {t : String} {o : Outbound} (h : c.Renders N t o) : o.type ≠ "direct" := by
  rcases h with ⟨n, _, _, _, rfl⟩ | ⟨e, _, _, _, rfl⟩
  · simp [relayEntry]
  · exact buildExternalOutboundEntry_type_ne_direct e _

theorem direct_mem_view : buildDirectOutbound ∈ (computeConfig (c.view flags N)).outbounds := by
  obtain ⟨o, ho, htag⟩ :=
    exists_outbound_tag.2 (.inl rfl : "direct" = "direct" ∨ (c.view flags N).node.hasRole .inbound = true ∧ _)
  have hmem : o ∈ (if (c.view flags N).node.hasRole .inbound then clientOutbounds (c.view flags N) else []) ++
      [buildDirectOutbound] := mem_of_mem_firstBy ho
  rcases List.mem_append.1 hmem with hc | hd
  · split at hc
    · rcases mem_clientOutbounds_view.1 hc with ⟨t, _, hren⟩ | ⟨_, _, _, rfl⟩
      · exact absurd (hren.tag.symm.trans htag) (outboundTag_ne_direct t)
      · exact absurd htag (outboundTag_ne_direct _)
    · cases hc
  · rwa [List.mem_singleton.1 hd] at ho

/-- With something to relay to, the first entry is not the node's own exit. -/
theorem exists_first_entry_view (flags : Flags) {t : String} (hreach : c.Reached N t) (hu : c.Usable N t) :
    ∃ t' o rest, clientOutbounds (c.view flags N) = o :: rest ∧ c.Renders N t' o := by
  obtain ⟨o', ho'⟩ := exists_renders.2 hu
  have hmem : o' ∈ clientOutbounds (c.view flags N) := mem_clientOutbounds_view.2 (.inl ⟨t, hreach, ho'⟩)
  unfold clientOutbounds at hmem ⊢
  rw [view_routes] at hmem ⊢
  dsimp only at hmem ⊢
  have hren : ∀ o ∈ buildOutboundNodeOutbounds (c.view flags N) [] ++ buildRouteOutbounds (c.view flags N) [] ++
      buildExternalOutbounds (c.view flags N) [] ++
      buildPolicyOutbounds (c.view flags N) (policiesForNode (c.view flags N)), ∃ t', c.Renders N t' o := by
    intro o ho
    simp only [List.mem_append, mem_peerOutbounds_view, mem_externalOutbounds_view, mem_policyOutbounds_view,
      buildRouteOutbounds, List.filterMap_nil, List.not_mem_nil, or_false] at ho
    rcases ho with (⟨n, hn, hr, rfl⟩ | ⟨e, he, hreq, rfl⟩) | ⟨p, _, _, hren⟩
    · exact ⟨_, .inl ⟨n, List.mem_append_left _ hn, rfl, hr, rfl⟩⟩
    · exact ⟨_, .inr ⟨e, List.mem_append_left _ he, rfl, hreq, rfl⟩⟩
    · exact ⟨_, hren⟩
  generalize buildOutboundNodeOutbounds (c.view flags N) [] ++ buildRouteOutbounds (c.view flags N) [] ++
      buildExternalOutbounds (c.view flags N) [] ++
      buildPolicyOutbounds (c.view flags N) (policiesForNode (c.view flags N)) = entries at hmem hren ⊢
  cases entries with
  | cons o rest =>
    obtain ⟨t', ht'⟩ := hren o List.mem_cons_self
    exact ⟨t', o, _, List.cons_append, ht'⟩
  | nil =>
    -- then `o'` would be the node's own exit
    rw [List.nil_append, selfOutbounds] at hmem
    split at hmem
    · rw [List.mem_singleton.1 hmem] at ho'
      exact absurd rfl ho'.type_ne_direct
    · cases hmem

/-! ## The final outbound -/

/-- The final outbound is that of a target: there is no rule, and a peer or an
external outbound to relay to. -/
def RelaysAll (c : Cluster) (N : SingBoxNode) : Prop :=
  N.hasRole .inbound = true ∧ (∀ t, c.Target N t → ∀ u ∈ c.users, c.mayUse u t = false) ∧
    (∀ p ∈ c.kept N, p.spec.action = .route ∧ ¬ c.Usable N (c.egressName p)) ∧
    ((∃ n ∈ c.peers N, n.spec.relayPort ≠ 0) ∨
      ∃ e ∈ c.discovered N, hasRequiredExternalCreds e (c.externalCred e) = true)

theorem RelaysAll.final (h : c.RelaysAll N) (flags : Flags) :
    ∃ t, ∃ o ∈ (computeConfig (c.view flags N)).outbounds, c.Renders N t o ∧
      (computeConfig (c.view flags N)).route.final = o.tag := by
  obtain ⟨hi, huser, hpolicy, htarget⟩ := h
  have hreach : ∃ t, c.Reached N t ∧ c.Usable N t := by
    rcases htarget with ⟨n, hn, hr⟩ | ⟨e, he, hreq⟩
    · exact ⟨n.name, .inl ⟨n, hn, rfl⟩, (usable_of_peer hn).2 hr⟩
    · exact ⟨e.name, .inr (.inr ⟨e, he, rfl⟩), (usable_of_external (List.mem_append_left _ he)).2 hreq⟩
  obtain ⟨t, hr, hu⟩ := hreach
  obtain ⟨t', o, rest, hclient, hren⟩ := exists_first_entry_view flags hr hu
  obtain ⟨rest', hall⟩ := computeConfig_outbounds_cons hi hclient
  refine ⟨t', o, hall ▸ List.mem_cons_self, hren, ?_⟩
  have hrules : (computeConfig (c.view flags N)).route.rules = [] := rules_eq_nil_view.2 ⟨fun _ => huser, hpolicy⟩
  rw [computeConfig_final, hrules, if_neg (by simp), hall, routeFinal, List.find?_cons]
  simp [hren.tag, outboundTag_ne_direct, outboundTag_ne_empty]

/-- In every other case it is an exit of the node itself. -/
theorem final_direct_view (h : ¬ c.RelaysAll N) (flags : Flags) :
    ∃ o ∈ (computeConfig (c.view flags N)).outbounds, o.type = "direct" ∧
      (computeConfig (c.view flags N)).route.final = o.tag := by
  by_cases hrules : (computeConfig (c.view flags N)).route.rules = []
  · obtain ⟨o, ho, htag⟩ := final_is_tag (c.view flags N)
    refine ⟨o, ho, ?_, htag.symm⟩
    have hmem : o ∈ (if (c.view flags N).node.hasRole .inbound then clientOutbounds (c.view flags N) else []) ++
        [buildDirectOutbound] := mem_of_mem_firstBy ho
    rcases List.mem_append.1 hmem with hc | hd
    · split at hc
      · rename_i hi
        rcases mem_clientOutbounds_view.1 hc with ⟨t, hreach, hren⟩ | ⟨_, _, _, rfl⟩
        · obtain ⟨huser, hpolicy⟩ := rules_eq_nil_view.1 hrules
          have hu : c.Usable N t := exists_renders.1 ⟨o, hren⟩
          refine absurd ⟨hi, huser hi, hpolicy, ?_⟩ h
          rcases hreach with ⟨n, hn, rfl⟩ | ⟨p, hp, _, rfl⟩ | ⟨e, he, rfl⟩
          · exact .inl ⟨n, hn, (usable_of_peer hn).1 hu⟩
          · exact absurd hu (hpolicy p hp).2
          · exact .inr ⟨e, he, (usable_of_external (List.mem_append_left _ he)).1 hu⟩
        · rfl
      · cases hc
    · rw [List.mem_singleton.1 hd]
      rfl
  · exact ⟨_, direct_mem_view, rfl, by rw [computeConfig_final, if_pos hrules]; rfl⟩

theorem leavesAtFirstRelay_view [Nonempty D] (hname : '#' ∉ (c.nodeCred N.name).username.toList) :
    LeavesAtFirstRelay destMatches c N (computeConfig (c.view flags N)) ↔ ¬ c.RelaysAll N := by
  have hroute : ∀ d : D, route destMatches (computeConfig (c.view flags N)) (relayed c N d) =
      .outbound (computeConfig (c.view flags N)).route.final :=
    fun d => route_elsewhere destMatches _ (inboundTag_ne_relayTag N).symm hname d
  constructor
  · rintro ⟨hdirect, _⟩ hall
    obtain ⟨d⟩ := (inferInstance : Nonempty D)
    obtain ⟨o, ho, htype, hto⟩ := hdirect d
    obtain ⟨t, o', ho', hren, hfinal⟩ := hall.final flags
    rw [hroute, hfinal] at hto
    rw [← outbound_unique ho' ho (Verdict.outbound.inj hto)] at htype
    exact hren.type_ne_direct htype
  · intro h
    obtain ⟨o, ho, htype, hfinal⟩ := final_direct_view h flags
    refine ⟨fun d => ⟨o, ho, htype, by rw [hroute, hfinal]⟩, ?_⟩
    rintro M ⟨hM, d, hto⟩
    rw [hroute, hfinal] at hto
    rw [outbound_unique ho hM (Verdict.outbound.inj hto)] at htype
    simp [relayEntry] at htype

end Cluster

/-- What is relayed to an outbound node leaves there, unless the node is an
inbound too, has no rule, and something to relay to itself. -/
theorem leavesAtFirstRelay_iff [Library] [MapOrder] [Nonempty D] {flags : Flags} {c : Cluster} {N : SingBoxNode}
    {input : Input} (h : collectInput flags c N = .ok input) (hname : '#' ∉ (c.nodeCred N.name).username.toList) :
    LeavesAtFirstRelay destMatches c N (computeConfig input) ↔ ¬ c.RelaysAll N := by
  rw [collectInput_ok h]
  exact Cluster.leavesAtFirstRelay_view destMatches hname

end

/-! ### Two nodes that relay to each other -/

def east : SingBoxNode where
  metadata := .named "east"
  spec :=
    { address := "198.51.100.8", region := "hk", roles := [.inbound, .outbound], relayPort := Port.container.number,
      supportedProtocols := [Port.https.listener .hysteria2],
      relayPort_le := Port.container.le }

def west : SingBoxNode := { east with metadata := .named "west", spec := { east.spec with address := "198.51.100.9" } }

/-- Nobody uses the two yet. -/
def pairCluster : Cluster where
  ns := "proxy"
  nodes := [east, west]
  nodes_nodup := by decide
  externalOutbounds_nodup := noExternals_nodup
  users_nodup := noUsers_nodup
  policies_nodup := noPolicies_nodup

section
attribute [local instance] plainLibrary storedOrder

theorem east_collected : collectInput {} pairCluster east = .ok (pairCluster.view {} east) :=
  collectInput_eq_ok {} ⟨rfl, rfl, rfl, fun _ => ⟨rfl, fun _ hu => absurd hu List.not_mem_nil⟩⟩

theorem east_relaysAll : pairCluster.RelaysAll east := by
  refine ⟨by decide, fun _ _ _ hu => absurd hu List.not_mem_nil, fun _ hp => absurd hp List.not_mem_nil,
    .inl ⟨west, ?_, by decide⟩⟩
  exact Cluster.mem_peers.2 ⟨List.mem_cons_of_mem _ (List.mem_singleton_self _), by decide⟩

theorem east_relay_username : '#' ∉ (pairCluster.nodeCred east.name).username.toList := by decide

/-- Nobody uses `east` yet, so what it is relayed goes on to `west`. -/
theorem not_forall_leavesAtFirstRelay :
    ¬ ∀ [Library] [MapOrder] (D : Type) (destMatches : EgressPolicyMatch → D → Bool) (flags : Flags) (c : Cluster)
      (N : SingBoxNode) (input : Input), N ∈ c.nodes → N.hasRole .outbound = true →
        collectInput flags c N = .ok input → '#' ∉ (c.nodeCred N.name).username.toList →
          LeavesAtFirstRelay destMatches c N (computeConfig input) := by
  intro h
  have hleaves := h String inDomain {} pairCluster east _ List.mem_cons_self (by decide) east_collected east_relay_username
  exact (Cluster.leavesAtFirstRelay_view inDomain east_relay_username).1 hleaves east_relaysAll

theorem leavesAtFirstRelay_iff_east :
    collectInput {} pairCluster east = .ok (pairCluster.view {} east) ∧
      ¬ LeavesAtFirstRelay inDomain pairCluster east (computeConfig (pairCluster.view {} east)) :=
  ⟨east_collected, fun h => (leavesAtFirstRelay_iff inDomain east_collected east_relay_username).1 h east_relaysAll⟩

end

end SingboxOperator
