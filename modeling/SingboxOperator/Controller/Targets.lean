import SingboxOperator.Controller.View
import SingboxOperator.Engine.Spec
/-!
# The targets of a node

Which names a node can be routed to, in terms of the cluster: the nodes and
external outbounds it sees, the egress of each policy, and which of them can be
used. The engine's answers on the collected input are these.
-/
open SingboxOperator.Lib

namespace SingboxOperator

/-- A target name comes from a selector that matches exactly one object. -/
theorem egressCandidates_of_egressOf [Library] {p : EgressPolicy} {nodes : List SingBoxNode}
    {outbounds : List ExternalOutbound} (h : egressOf p nodes outbounds ≠ "") :
    egressCandidates p nodes outbounds = [egressOf p nodes outbounds] := by
  unfold egressOf resolveEgressPolicy at *
  cases hv : p.spec.matchFields.valid p.spec.fallbackAction.isSome with
  | some err => simp [hv] at h
  | none =>
    cases ha : p.spec.action with
    | reject => simp [hv, ha] at h
    | route =>
      simp only [hv, ha] at h ⊢
      cases hc : egressCandidates p nodes outbounds with
      | nil => simp [hc] at h
      | cons name rest =>
        cases rest with
        | nil => simp
        | cons _ _ => simp [hc] at h

/-- Region and allowlists let the node use the external outbound. -/
def SingBoxNode.PassesGate (N : SingBoxNode) (e : ExternalOutbound) : Prop :=
  e.spec.region ≠ "" ∧ e.spec.region = N.spec.region ∧ admits e.spec.allowedInbounds N.name = true ∧
    admits N.spec.allowedOutbounds e.name = true

namespace Cluster
variable {c : Cluster} {N : SingBoxNode}

theorem mem_discovered_iff (hN : N ∈ c.nodes) {e : ExternalOutbound} (he : e ∈ c.externalOutbounds)
    (hgate : N.PassesGate e) : e ∈ c.discovered N ↔ ∀ n ∈ c.nodes, n.name ≠ e.name := by
  obtain ⟨hne, hreg, hin, hadm⟩ := hgate
  have hne' : N.spec.region ≠ "" := hreg ▸ hne
  have hnames : e.name ∉ N.name :: c.allNodes.map SingBoxNode.name ↔ ∀ n ∈ c.nodes, n.name ≠ e.name := by
    simp only [List.mem_cons, List.mem_map, mem_allNodes, not_or, not_exists, not_and]
    exact ⟨fun h => h.2, fun h => ⟨fun heq => h N hN heq.symm, h⟩⟩
  rw [discovered, List.mem_filter, mem_allExtOutbounds, ← hnames]
  simp [isDiscovered, he, hne', hreg, hin, hadm]

section
variable [Library]

/-- The target the engine finds for a policy with an empty status: that of
the controller, unless a node its selector does not match hides it. -/
def fresh (c : Cluster) (p : EgressPolicy) : String :=
  match c.nodeTarget p with
  | some n => if p.spec.egressSelector.matches n.metadata then c.egress p else ""
  | none => c.egress p

/-- The target the engine uses for a policy. -/
def egressName (c : Cluster) (p : EgressPolicy) : String :=
  if p.status.resolvedEgress = "" then c.fresh p else p.status.resolvedEgress

/-- A node with a relay port, or an external outbound with its credentials. -/
def Usable [MapOrder] (c : Cluster) (N : SingBoxNode) (t : String) : Prop :=
  (∃ n ∈ c.visibleNodes N, n.name = t ∧ n.spec.relayPort ≠ 0) ∨
    ∃ e ∈ c.visibleExternals N, e.name = t ∧ hasRequiredExternalCreds e (c.externalCred e) = true

/-- A name something of the node's config may refer to: a peer, a
discovered external outbound, or the egress of a policy. -/
def Reached (c : Cluster) (N : SingBoxNode) (t : String) : Prop :=
  (∃ n ∈ c.peers N, n.name = t) ∨ (∃ p ∈ c.kept N, p.spec.action = .route ∧ c.egressName p = t) ∨
    ∃ e ∈ c.discovered N, e.name = t

/-- The targets clients of the node are offered. -/
def Target [MapOrder] (c : Cluster) (N : SingBoxNode) (t : String) : Prop :=
  c.Reached N t ∧ c.Usable N t ∨ N.hasRole .inbound = true ∧ N.hasRole .outbound = true ∧ t = N.name

theorem kept_route {p : EgressPolicy} (hp : p ∈ c.kept N) (ha : p.spec.action = .route) :
    N.hasRole .inbound = true ∧ p.spec.ingressSelector.matches N.metadata = true ∧
      egressCandidates p c.allNodes c.allExtOutbounds = [c.egress p] ∧ c.egress p ≠ "" ∧
      egressConnectedToInbound N (c.egress p) c.allNodes c.allExtOutbounds = true := by
  have h := (mem_kept.1 hp).2
  simp only [policyApplies, ha, Bool.and_eq_true, decide_eq_true_eq] at h
  exact ⟨h.1.1.1, h.1.1.2, egressCandidates_of_egressOf h.2.1, h.2.1, h.2.2⟩

/-- The target of a policy that is kept, and the gate it has passed. -/
theorem kept_route_target {p : EgressPolicy} (hp : p ∈ c.kept N) (ha : p.spec.action = .route) :
    (∃ n, c.nodeTarget p = some n ∧ (n.name = N.name ∧ N.hasRole .outbound = true ∨ isPeer N n = true)) ∨
      ∃ e, c.nodeTarget p = none ∧ c.externalTarget p = some e ∧ e.spec.region ≠ "" ∧ e.spec.region = N.spec.region ∧
        admits e.spec.allowedInbounds N.name = true ∧ admits N.spec.allowedOutbounds e.name = true := by
  obtain ⟨_, _, _, _, hc⟩ := kept_route hp ha
  unfold egressConnectedToInbound at hc
  cases hn : findOutboundNode c.allNodes (c.egress p) with
  | some n =>
    left
    refine ⟨n, by simp [nodeTarget, ha, hn], ?_⟩
    obtain ⟨_, hname, hr⟩ := findOutboundNode_eq_some.1 hn
    simp only [hn] at hc
    by_cases hself : n.name = N.name
    · rw [if_pos hself] at hc
      exact .inl ⟨hself, hc⟩
    · by_cases hreg : n.spec.region = N.spec.region
      · simp only [hself, if_false, ne_eq, hreg, not_true_eq_false, Bool.and_eq_true] at hc
        right
        simp [isPeer, hself, hreg, hr, hc.1, hc.2]
      · simp [hself, hreg] at hc
  | none =>
    right
    simp only [hn] at hc
    cases he : findExternalOutbound c.allExtOutbounds (c.egress p) with
    | none => simp [he] at hc
    | some e =>
      refine ⟨e, by simp [nodeTarget, ha, hn], by simp [externalTarget, ha, hn, he], ?_⟩
      simp only [he] at hc
      split at hc
      · cases hc
      · rename_i hreg
        simp only [Bool.or_eq_true, decide_eq_true_eq, not_or, not_not] at hreg
        exact ⟨hreg.1, hreg.2, by simpa using hc⟩

theorem mem_visibleNodes_of_target {p : EgressPolicy} {n : SingBoxNode} (hp : p ∈ c.kept N)
    (h : c.nodeTarget p = some n) : n ∈ c.visibleNodes N :=
  List.mem_append_right _ (List.mem_filterMap.2 ⟨p, hp, h⟩)

theorem mem_visibleExternals_of_target {p : EgressPolicy} {e : ExternalOutbound} (hp : p ∈ c.kept N)
    (h : c.externalTarget p = some e) : e ∈ c.visibleExternals N :=
  List.mem_append_right _ (List.mem_filterMap.2 ⟨p, hp, h⟩)

/-- The visible nodes are the peers, and the node itself when a policy is routed to it. -/
theorem mem_visibleNodes {n : SingBoxNode} :
    n ∈ c.visibleNodes N ↔
      n ∈ c.peers N ∨
        n.name = N.name ∧ N.hasRole .outbound = true ∧ ∃ p ∈ c.kept N, c.nodeTarget p = some n := by
  constructor
  · intro h
    rcases List.mem_append.1 h with h | h
    · exact .inl h
    · obtain ⟨p, hp, hn⟩ := List.mem_filterMap.1 h
      obtain ⟨ha, hm, _⟩ := nodeTarget_eq_some.1 hn
      rcases kept_route_target hp ha with ⟨n', hn', hgate⟩ | ⟨_, hnone, _⟩
      · obtain rfl : n = n' := Option.some.inj (hn.symm.trans hn')
        rcases hgate with ⟨hself, ho⟩ | hpeer
        · exact .inr ⟨hself, ho, p, hp, hn⟩
        · exact .inl (mem_peers.2 ⟨hm, hpeer⟩)
      · rw [hnone] at hn; cases hn
  · rintro (h | ⟨_, _, p, hp, hn⟩)
    · exact List.mem_append_left _ h
    · exact mem_visibleNodes_of_target hp hn

end

section
variable [Library] [MapOrder] {flags : Flags}

theorem view_routes : routesForNode (c.view flags N) = [] := rfl

/-! ## Resolution by the engine -/

/-- The engine looks at a part of what the controller looked at. -/
theorem policyEgressCandidates_subperm (flags : Flags) (c : Cluster) (N : SingBoxNode) (site : List String)
    (p : EgressPolicy) :
    (policyEgressCandidates site (c.view flags N) p).Subperm (egressCandidates p c.allNodes c.allExtOutbounds) := by
  have hn : ((MapOrder.range ("OutboundNodesByName" :: site) (c.view flags N).outboundNodesByName).map
      Prod.snd).Subperm c.allNodes :=
    range_values_subperm _ SingBoxNode.name fun k n h =>
      ⟨(view_node.1 h).2, mem_allNodes.2 (visibleNodes_subset (view_node.1 h).1).1⟩
  have he : ((MapOrder.range ("ExternalOutboundsByName" :: site) (c.view flags N).externalOutboundsByName).map
      Prod.snd).Subperm c.allExtOutbounds :=
    range_values_subperm _ ExternalOutbound.name fun k e h =>
      ⟨(view_external.1 h).2, mem_allExtOutbounds.2 (visibleExternals_subset (view_external.1 h).1).1⟩
  have hn' := subperm_filterMap (fun n : SingBoxNode =>
    if n.hasRole .outbound && p.spec.egressSelector.matches n.metadata then some n.name else none) hn
  have he' := subperm_filterMap (fun e : ExternalOutbound =>
    if p.spec.egressSelector.matches e.metadata then some e.name else none) he
  rw [List.filterMap_map] at hn' he'
  exact List.Subperm.append hn' he'

theorem mem_policyEgressCandidates {site : List String} {p : EgressPolicy} {t : String} :
    t ∈ policyEgressCandidates site (c.view flags N) p ↔
      (∃ n ∈ c.visibleNodes N, p.spec.egressSelector.matches n.metadata = true ∧ n.name = t) ∨
        ∃ e ∈ c.visibleExternals N, p.spec.egressSelector.matches e.metadata = true ∧ e.name = t := by
  simp only [policyEgressCandidates, List.mem_append, List.mem_filterMap]
  refine or_congr ?_ ?_
  · constructor
    · rintro ⟨⟨k, n⟩, hr, hm⟩
      simp only [Option.ite_none_right_eq_some, Bool.and_eq_true, Option.some.injEq] at hm
      exact ⟨n, (view_node.1 (mem_range.1 hr)).1, hm.1.2, hm.2⟩
    · rintro ⟨n, hv, hm, rfl⟩
      exact ⟨(n.name, n), mem_range.2 (view_node.2 ⟨hv, rfl⟩), by simp [hm, (visibleNodes_subset hv).2]⟩
  · constructor
    · rintro ⟨⟨k, e⟩, hr, hm⟩
      simp only [Option.ite_none_right_eq_some, Option.some.injEq] at hm
      exact ⟨e, (view_external.1 (mem_range.1 hr)).1, hm.1, hm.2⟩
    · rintro ⟨e, hv, hm, rfl⟩
      exact ⟨(e.name, e), mem_range.2 (view_external.2 ⟨hv, rfl⟩), by simp [hm]⟩

/-- A policy that is kept is visible to the engine exactly when no other node hides its target. -/
theorem fresh_eq (flags : Flags) (site : List String) {p : EgressPolicy} (hp : p ∈ c.kept N) (ha : p.spec.action = .route) :
    c.fresh p = if c.egress p ∈ policyEgressCandidates site (c.view flags N) p then c.egress p else "" := by
  unfold fresh
  cases hn : c.nodeTarget p with
  | some n =>
    obtain ⟨_, hm, hname, hr⟩ := nodeTarget_eq_some.1 hn
    by_cases hmatch : p.spec.egressSelector.matches n.metadata = true
    · have hvis := mem_visibleNodes_of_target hp hn
      simp only [hmatch, if_true]
      rw [if_pos (mem_policyEgressCandidates.2 (.inl ⟨n, hvis, hmatch, hname⟩))]
    · -- the controller matched an external outbound of this name, which the engine does not see
      simp only [hmatch]
      rw [if_neg (by simp), if_neg fun h => ?_]
      rcases mem_policyEgressCandidates.1 h with ⟨n', hv, hmatch', hname'⟩ | ⟨e, hv, _, hname'⟩
      · rw [node_unique (visibleNodes_subset hv).1 hm (hname'.trans hname.symm)] at hmatch'
        exact hmatch hmatch'
      · exact absurd (hname.trans hname'.symm) (visibleExternals_ne hm hr hv)
  | none =>
    obtain ⟨_, _, hcand, _, _⟩ := kept_route hp ha
    rcases kept_route_target hp ha with ⟨n, hn', _⟩ | ⟨e, _, he, _⟩
    · rw [hn] at hn'; cases hn'
    · obtain ⟨_, hall, hm, hname⟩ := externalTarget_eq_some.1 he
      have hin : c.egress p ∈ egressCandidates p c.allNodes c.allExtOutbounds := by
        rw [hcand]
        exact List.mem_singleton_self _
      simp only [egressCandidates, List.mem_append, List.mem_filterMap, Option.ite_none_right_eq_some,
        Bool.and_eq_true, Option.some.injEq, mem_allNodes, mem_allExtOutbounds] at hin
      rcases hin with ⟨n, hnm, ⟨hr, _⟩, hnn⟩ | ⟨e', hem, hmatch, hen⟩
      · simp [hall n hnm hnn] at hr
      · obtain rfl := external_unique hem hm (hen.trans hname.symm)
        have hvis := mem_visibleExternals_of_target hp he
        rw [if_pos (mem_policyEgressCandidates.2 (.inr ⟨e', hvis, hmatch, hname⟩))]

/-- On the collected input the engine finds `fresh`. -/
theorem resolvePolicyEgressName_view (site : List String) {p : EgressPolicy} (hp : p ∈ c.kept N)
    (ha : p.spec.action = .route) : resolvePolicyEgressName site (c.view flags N) p = c.fresh p := by
  obtain ⟨_, _, hcand, hne, _⟩ := kept_route hp ha
  have hsub := policyEgressCandidates_subperm flags c N site p
  rw [hcand] at hsub
  obtain ⟨l, hperm, hsl⟩ := hsub
  rw [fresh_eq flags site hp ha]
  unfold resolvePolicyEgressName
  rcases List.sublist_singleton.1 hsl with rfl | rfl
  · simp [List.nil_perm.1 hperm]
  · simp [← List.singleton_perm.1 hperm, sortOn]

theorem engineEgress_view {p : EgressPolicy} (hp : p ∈ c.kept N) (ha : p.spec.action = .route) :
    engineEgress (c.view flags N) p = c.egressName p := by
  simp only [engineEgress, policyEgressName, egressName, resolvePolicyEgressName_view _ hp ha]

/-! ## What can be used -/

theorem Usable.ne_empty {t : String} (h : c.Usable N t) : t ≠ "" := by
  rcases h with ⟨n, _, rfl, _⟩ | ⟨e, _, rfl, _⟩
  · exact n.metadata.name_ne_empty
  · exact e.metadata.name_ne_empty

theorem policyEgressAvailable_view {t : String} :
    policyEgressAvailable (c.view flags N) t = true ↔ c.Usable N t := by
  unfold policyEgressAvailable Usable
  cases hn : (c.view flags N).outboundNodesByName.lookup t with
  | some n =>
    obtain ⟨hv, hname⟩ := view_node.1 hn
    obtain ⟨hm, hr⟩ := visibleNodes_subset hv
    simp only [hr, Bool.true_and, decide_eq_true_eq]
    refine ⟨fun h => .inl ⟨n, hv, hname, by omega⟩, ?_⟩
    rintro (⟨n', hv', hname', hp⟩ | ⟨e, hv', hname', _⟩)
    · rw [node_unique (visibleNodes_subset hv').1 hm (hname'.trans hname.symm)] at hp
      omega
    · exact absurd (hname.trans hname'.symm) (visibleExternals_ne hm hr hv')
  | none =>
    have hnone := view_node_none hn
    cases he : (c.view flags N).externalOutboundsByName.lookup t with
    | some e =>
      obtain ⟨hv, rfl⟩ := view_external.1 he
      rw [view_externalCred hv]
      refine ⟨fun h => .inr ⟨e, hv, rfl, h⟩, ?_⟩
      rintro (⟨n, hv', hname, _⟩ | ⟨e', hv', hname, hreq⟩)
      · exact absurd hname (hnone n hv')
      · rwa [external_unique (visibleExternals_subset hv').1 (visibleExternals_subset hv).1 hname] at hreq
    | none =>
      refine ⟨fun h => by simp at h, ?_⟩
      rintro (⟨n, hv', hname, _⟩ | ⟨e', hv', hname, _⟩)
      · exact absurd hname (hnone n hv')
      · rw [view_external.2 ⟨hv', hname⟩] at he
        cases he

theorem policyActive_view {p : EgressPolicy} (hp : p ∈ c.kept N) (ha : p.spec.action = .route) :
    policyActive (c.view flags N) p = true ↔ c.Usable N (c.egressName p) := by
  simp only [policyActive, engineEgress_view hp ha, Bool.and_eq_true, decide_eq_true_eq, policyEgressAvailable_view]
  exact ⟨And.right, fun h => ⟨h.ne_empty, h⟩⟩

/-- The discovered external outbounds that are rendered. -/
theorem resolveExternalOutbounds_view :
    resolveExternalOutbounds (c.view flags N) [] =
      (c.discovered N).filter fun e => hasRequiredExternalCreds e (c.externalCred e) := by
  have hnodup : ((c.discovered N).map ExternalOutbound.name).Nodup :=
    (nodup_map_sortOn c.externalOutbounds_nodup).sublist (List.filter_sublist.map _)
  unfold resolveExternalOutbounds
  simp only [List.filterMap_nil, List.append_nil]
  rw [show (c.view flags N).externalOutbounds = c.discovered N from rfl, firstBy_eq_self hnodup]
  refine List.filter_congr fun e he => ?_
  obtain ⟨_, hd⟩ := List.mem_filter.1 he
  simp only [isDiscovered, Bool.and_eq_true, decide_eq_true_eq, List.mem_cons, not_or] at hd
  have hname : ∀ n ∈ c.nodes, n.name ≠ e.name := fun n hn h =>
    hd.1.1.1.1.2 (h ▸ List.mem_map_of_mem (mem_allNodes.2 hn))
  have hlookup : (c.view flags N).outboundNodesByName.lookup e.name = none := by
    refine Option.eq_none_iff_forall_not_mem.2 fun n hn => ?_
    obtain ⟨hv, hne⟩ := view_node.1 hn
    exact hname n (visibleNodes_subset hv).1 hne
  have hpeers : (c.view flags N).outboundNodes.any (fun n => decide (n.name = e.name)) = false := by
    rw [List.any_eq_false]
    intro n hn
    simpa using hname n (mem_peers.1 hn).1
  have hcol : externalNameCollidesWithNode (c.view flags N) e.name = false := by
    simp only [externalNameCollidesWithNode, hlookup, hpeers, Option.isSome_none, Bool.or_false, decide_eq_false_iff_not]
    exact hd.1.1.1.1.1
  rw [hcol, view_externalCred (List.mem_append_left _ he)]
  rfl

theorem usable_of_peer {n : SingBoxNode} (hn : n ∈ c.peers N) : c.Usable N n.name ↔ n.spec.relayPort ≠ 0 := by
  have hv : n ∈ c.visibleNodes N := List.mem_append_left _ hn
  refine ⟨?_, fun h => .inl ⟨n, hv, rfl, h⟩⟩
  rintro (⟨n', hv', hname, hp⟩ | ⟨e, hv', hname, _⟩)
  · rwa [node_unique (visibleNodes_subset hv').1 (visibleNodes_subset hv).1 hname] at hp
  · exact absurd hname.symm (visibleExternals_ne (visibleNodes_subset hv).1 (visibleNodes_subset hv).2 hv')

theorem usable_of_external {e : ExternalOutbound} (he : e ∈ c.visibleExternals N) :
    c.Usable N e.name ↔ hasRequiredExternalCreds e (c.externalCred e) = true := by
  refine ⟨?_, fun h => .inr ⟨e, he, rfl, h⟩⟩
  rintro (⟨n, hv, hname, _⟩ | ⟨e', hv, hname, hreq⟩)
  · exact absurd hname (visibleExternals_ne (visibleNodes_subset hv).1 (visibleNodes_subset hv).2 he)
  · rwa [external_unique (visibleExternals_subset hv).1 (visibleExternals_subset he).1 hname] at hreq

theorem exists_peer_view {t : String} :
    (∃ n ∈ (c.view flags N).outboundNodes, n.spec.relayPort ≠ 0 ∧ n.name = t) ↔
      (∃ n ∈ c.peers N, n.name = t) ∧ c.Usable N t := by
  constructor
  · rintro ⟨n, hn, hr, rfl⟩
    exact ⟨⟨n, hn, rfl⟩, (usable_of_peer hn).2 hr⟩
  · rintro ⟨⟨n, hn, rfl⟩, hu⟩
    exact ⟨n, hn, (usable_of_peer hn).1 hu, rfl⟩

theorem exists_external_view {t : String} :
    (∃ e ∈ resolveExternalOutbounds (c.view flags N) [], e.name = t) ↔
      (∃ e ∈ c.discovered N, e.name = t) ∧ c.Usable N t := by
  rw [resolveExternalOutbounds_view]
  constructor
  · rintro ⟨e, he, rfl⟩
    obtain ⟨hd, hreq⟩ := List.mem_filter.1 he
    exact ⟨⟨e, hd, rfl⟩, (usable_of_external (List.mem_append_left _ hd)).2 hreq⟩
  · rintro ⟨⟨e, hd, rfl⟩, hu⟩
    exact ⟨e, List.mem_filter.2 ⟨hd, (usable_of_external (List.mem_append_left _ hd)).1 hu⟩, rfl⟩

theorem mem_targets_view {t : String} : t ∈ targets (c.view flags N) ↔ c.Target N t := by
  have hpolicy : (∃ p ∈ (c.view flags N).egressPolicies, p.spec.action = .route ∧
      policyActive (c.view flags N) p = true ∧ engineEgress (c.view flags N) p = t) ↔
      (∃ p ∈ c.kept N, p.spec.action = .route ∧ c.egressName p = t) ∧ c.Usable N t := by
    constructor
    · rintro ⟨p, hp, ha, hact, rfl⟩
      rw [engineEgress_view hp ha]
      exact ⟨⟨p, hp, ha, rfl⟩, (policyActive_view hp ha).1 hact⟩
    · rintro ⟨⟨p, hp, ha, rfl⟩, hu⟩
      exact ⟨p, hp, ha, (policyActive_view hp ha).2 hu, engineEgress_view hp ha⟩
  have hself : (isSelfOutbound (c.view flags N) = true ∧ t = (c.view flags N).node.name) ↔
      N.hasRole .inbound = true ∧ N.hasRole .outbound = true ∧ t = N.name := by
    change (N.hasRole .inbound && N.hasRole .outbound) = true ∧ t = N.name ↔ _
    rw [Bool.and_eq_true, and_assoc]
  -- the engine lists peers, policies, the node itself and external outbounds; `Target` puts itself last
  rw [mem_targets rfl, hpolicy, exists_peer_view, exists_external_view, hself]
  constructor
  · rintro (⟨h, hu⟩ | ⟨h, hu⟩ | h | ⟨h, hu⟩)
    · exact .inl ⟨.inl h, hu⟩
    · exact .inl ⟨.inr (.inl h), hu⟩
    · exact .inr h
    · exact .inl ⟨.inr (.inr h), hu⟩
  · rintro (⟨h | h | h, hu⟩ | h)
    · exact .inl ⟨h, hu⟩
    · exact .inr (.inl ⟨h, hu⟩)
    · exact .inr (.inr (.inr ⟨h, hu⟩))
    · exact .inr (.inr (.inl h))

/-! ## The outbound entries -/

/-- The relay entry of a node. -/
def relayEntry (c : Cluster) (n : SingBoxNode) : Outbound :=
  { type := "socks", tag := outboundTag n.name, server := some n.spec.address, serverPort := some n.spec.relayPort,
    username := some (c.nodeCred n.name).username, password := some (c.nodeCred n.name).password }

def externalEntry (c : Cluster) (e : ExternalOutbound) : Outbound := buildExternalOutboundEntry e (c.externalCred e)

def selfEntry (N : SingBoxNode) : Outbound := { type := "direct", tag := outboundTag N.name }

/-- The entry of a target and the object it is rendered from. -/
def Renders (c : Cluster) (N : SingBoxNode) (t : String) (o : Outbound) : Prop :=
  (∃ n ∈ c.visibleNodes N, n.name = t ∧ n.spec.relayPort ≠ 0 ∧ o = c.relayEntry n) ∨
    ∃ e ∈ c.visibleExternals N, e.name = t ∧ hasRequiredExternalCreds e (c.externalCred e) = true ∧ o = c.externalEntry e

omit [Library] [MapOrder] in
theorem buildExternalOutboundEntry_tag (e : ExternalOutbound) (creds : ExternalCredential) :
    (buildExternalOutboundEntry e creds).tag = outboundTag e.name := by
  cases h : e.spec.protocol <;> simp only [buildExternalOutboundEntry, h]

theorem Renders.tag {t : String} {o : Outbound} (h : c.Renders N t o) : o.tag = outboundTag t := by
  rcases h with ⟨n, _, rfl, _, rfl⟩ | ⟨e, _, rfl, _, rfl⟩
  · rfl
  · exact buildExternalOutboundEntry_tag _ _

theorem exists_renders {t : String} : (∃ o, c.Renders N t o) ↔ c.Usable N t := by
  constructor
  · rintro ⟨o, ⟨n, hv, hn, hp, _⟩ | ⟨e, hv, hn, hp, _⟩⟩
    · exact .inl ⟨n, hv, hn, hp⟩
    · exact .inr ⟨e, hv, hn, hp⟩
  · rintro (⟨n, hv, hn, hp⟩ | ⟨e, hv, hn, hp⟩)
    · exact ⟨_, .inl ⟨n, hv, hn, hp, rfl⟩⟩
    · exact ⟨_, .inr ⟨e, hv, hn, hp, rfl⟩⟩

theorem relayOutbound_view {n : SingBoxNode} (hn : n ∈ c.visibleNodes N) :
    relayOutbound (c.view flags N) n n.name = c.relayEntry n := by
  simp only [relayOutbound, relayEntry, view_nodeCred (.inl (List.mem_map_of_mem hn))]

theorem policyOutbound_view {t : String} {o : Outbound} :
    policyOutbound (c.view flags N) t = some o ↔ c.Renders N t o := by
  unfold policyOutbound
  cases hn : (c.view flags N).outboundNodesByName.lookup t with
  | some n =>
    obtain ⟨hv, rfl⟩ := view_node.1 hn
    obtain ⟨hm, hr⟩ := visibleNodes_subset hv
    simp only [relayOutbound_view hv]
    constructor
    · intro h
      split at h
      · cases h
      · rename_i hp
        exact .inl ⟨n, hv, rfl, hp, (Option.some.inj h).symm⟩
    · rintro (⟨n', hv', hname, hp, rfl⟩ | ⟨e, hv', hname, _⟩)
      · obtain rfl := node_unique (visibleNodes_subset hv').1 hm hname
        simp [hp]
      · exact absurd hname.symm (visibleExternals_ne hm hr hv')
  | none =>
    have hnone := view_node_none hn
    cases he : (c.view flags N).externalOutboundsByName.lookup t with
    | some e =>
      obtain ⟨hv, rfl⟩ := view_external.1 he
      simp only [view_externalCred hv]
      constructor
      · intro h
        split at h
        · rename_i hreq
          exact .inr ⟨e, hv, rfl, hreq, (Option.some.inj h).symm⟩
        · cases h
      · rintro (⟨n, hv', hname, _⟩ | ⟨e', hv', hname, hreq, rfl⟩)
        · exact absurd hname (hnone n hv')
        · obtain rfl := external_unique (visibleExternals_subset hv').1 (visibleExternals_subset hv).1 hname
          simp [hreq, externalEntry]
    | none =>
      refine ⟨fun h => ?_, ?_⟩
      · cases h
      rintro (⟨n, hv', hname, _⟩ | ⟨e', hv', hname, _⟩)
      · exact absurd hname (hnone n hv')
      · rw [view_external.2 ⟨hv', hname⟩] at he
        cases he

theorem mem_peerOutbounds_view {o : Outbound} :
    o ∈ buildOutboundNodeOutbounds (c.view flags N) [] ↔
      ∃ n ∈ c.peers N, n.spec.relayPort ≠ 0 ∧ o = c.relayEntry n := by
  simp only [buildOutboundNodeOutbounds, List.mem_map, List.mem_filter, List.any_nil, Bool.not_false, Bool.true_and,
    Bool.and_eq_true, decide_eq_true_eq]
  constructor
  · rintro ⟨n, ⟨hn, _, hr⟩, rfl⟩
    exact ⟨n, hn, hr, relayOutbound_view (List.mem_append_left _ hn)⟩
  · rintro ⟨n, hn, hr, rfl⟩
    have hp := (mem_peers.1 hn).2
    simp only [isPeer, Bool.and_eq_true] at hp
    exact ⟨n, ⟨hn, ⟨hp.1.2, hp.2⟩, hr⟩, relayOutbound_view (List.mem_append_left _ hn)⟩

theorem mem_externalOutbounds_view {o : Outbound} :
    o ∈ buildExternalOutbounds (c.view flags N) [] ↔
      ∃ e ∈ c.discovered N, hasRequiredExternalCreds e (c.externalCred e) = true ∧ o = c.externalEntry e := by
  simp only [buildExternalOutbounds, resolveExternalOutbounds_view, List.mem_map, List.mem_filter]
  constructor
  · rintro ⟨e, ⟨he, hreq⟩, rfl⟩
    exact ⟨e, he, hreq, by rw [view_externalCred (List.mem_append_left _ he), externalEntry]⟩
  · rintro ⟨e, he, hreq, rfl⟩
    exact ⟨e, ⟨he, hreq⟩, by rw [view_externalCred (List.mem_append_left _ he), externalEntry]⟩

theorem mem_policyOutbounds_view {o : Outbound} :
    o ∈ buildPolicyOutbounds (c.view flags N) (policiesForNode (c.view flags N)) ↔
      ∃ p ∈ c.kept N, p.spec.action = .route ∧ c.Renders N (c.egressName p) o := by
  rw [mem_buildPolicyOutbounds]
  constructor
  · rintro ⟨p, hp, ha, hne, ho⟩
    rw [mem_policiesForNode] at hp
    rw [engineEgress_view hp ha] at ho
    exact ⟨p, hp, ha, policyOutbound_view.1 ho⟩
  · rintro ⟨p, hp, ha, ho⟩
    refine ⟨p, mem_policiesForNode.2 hp, ha, ?_, ?_⟩
    · rw [engineEgress_view hp ha]
      exact (exists_renders.1 ⟨o, ho⟩).ne_empty
    · rw [engineEgress_view hp ha]
      exact policyOutbound_view.2 ho

/-- Every entry is rendered from what a reached name stands for, or is the node's own exit. -/
theorem mem_clientOutbounds_view {o : Outbound} :
    o ∈ clientOutbounds (c.view flags N) ↔
      (∃ t, c.Reached N t ∧ c.Renders N t o) ∨
        N.hasRole .inbound = true ∧ N.hasRole .outbound = true ∧ admits N.spec.allowedOutbounds N.name = true ∧
          o = selfEntry N := by
  have hself : o ∈ selfOutbounds (c.view flags N) ↔
      N.hasRole .inbound = true ∧ N.hasRole .outbound = true ∧ admits N.spec.allowedOutbounds N.name = true ∧
        o = selfEntry N := by
    change o ∈ (if (N.hasRole .inbound && N.hasRole .outbound) && admits N.spec.allowedOutbounds N.name then
      [selfEntry N] else []) ↔ _
    by_cases h1 : N.hasRole .inbound = true <;> by_cases h2 : N.hasRole .outbound = true <;>
      by_cases h3 : admits N.spec.allowedOutbounds N.name = true <;> simp [h1, h2, h3]
  -- what is left after the node's own exit are the three ways a name is reached
  simp only [clientOutbounds, view_routes, List.mem_append, mem_peerOutbounds_view, mem_externalOutbounds_view,
    mem_policyOutbounds_view, hself, buildRouteOutbounds, List.filterMap_nil, List.not_mem_nil, or_false]
  refine or_congr ⟨?_, ?_⟩ Iff.rfl
  · rintro ((⟨n, hn, hr, rfl⟩ | ⟨e, he, hreq, rfl⟩) | ⟨p, hp, ha, ho⟩)
    · exact ⟨n.name, .inl ⟨n, hn, rfl⟩, .inl ⟨n, List.mem_append_left _ hn, rfl, hr, rfl⟩⟩
    · exact ⟨e.name, .inr (.inr ⟨e, he, rfl⟩), .inr ⟨e, List.mem_append_left _ he, rfl, hreq, rfl⟩⟩
    · exact ⟨_, .inr (.inl ⟨p, hp, ha, rfl⟩), ho⟩
  · rintro ⟨t, ⟨n, hn, rfl⟩ | ⟨p, hp, ha, rfl⟩ | ⟨e, he, rfl⟩, ho⟩
    · have hr := (usable_of_peer hn).1 (exists_renders.1 ⟨o, ho⟩)
      refine .inl (.inl ⟨n, hn, hr, ?_⟩)
      rcases ho with ⟨n', hv, hname, _, rfl⟩ | ⟨e, hv, hname, _⟩
      · rw [node_unique (visibleNodes_subset hv).1 (mem_peers.1 hn).1 hname]
      · obtain ⟨hm, hrole⟩ := visibleNodes_subset (List.mem_append_left _ hn)
        exact absurd hname.symm (visibleExternals_ne hm hrole hv)
    · exact .inr ⟨p, hp, ha, ho⟩
    · have hv : e ∈ c.visibleExternals N := List.mem_append_left _ he
      have hreq := (usable_of_external hv).1 (exists_renders.1 ⟨o, ho⟩)
      refine .inl (.inr ⟨e, he, hreq, ?_⟩)
      rcases ho with ⟨n, hv', hname, _⟩ | ⟨e', hv', hname, _, rfl⟩
      · exact absurd hname (visibleExternals_ne (visibleNodes_subset hv').1 (visibleNodes_subset hv').2 hv)
      · rw [external_unique (visibleExternals_subset hv').1 (visibleExternals_subset hv).1 hname]

/-- Which targets have an entry. -/
theorem exists_outbound_view {t : String} :
    (∃ o ∈ (computeConfig (c.view flags N)).outbounds, o.tag = outboundTag t) ↔
      N.hasRole .inbound = true ∧
        (c.Reached N t ∧ c.Usable N t ∨
          N.hasRole .outbound = true ∧ admits N.spec.allowedOutbounds N.name = true ∧ t = N.name) := by
  rw [exists_outbound_tag]
  constructor
  · rintro (h | ⟨hi, o, ho, htag⟩)
    · exact absurd h (outboundTag_ne_direct t)
    · refine ⟨hi, ?_⟩
      rcases mem_clientOutbounds_view.1 ho with ⟨t', hreach, hren⟩ | ⟨_, hout, hadm, rfl⟩
      · obtain rfl := outboundTag_inj.1 (hren.tag.symm.trans htag)
        exact .inl ⟨hreach, exists_renders.1 ⟨o, hren⟩⟩
      · exact .inr ⟨hout, hadm, (outboundTag_inj.1 htag).symm⟩
  · rintro ⟨hi, ⟨hreach, hu⟩ | ⟨hout, hadm, rfl⟩⟩
    · obtain ⟨o, ho⟩ := exists_renders.2 hu
      exact .inr ⟨hi, o, mem_clientOutbounds_view.2 (.inl ⟨t, hreach, ho⟩), ho.tag⟩
    · exact .inr ⟨hi, selfEntry N, mem_clientOutbounds_view.2 (.inr ⟨hi, hout, hadm, rfl⟩), rfl⟩

/-- An entry of the config is rendered from what its tag names. -/
theorem outbound_renders {t : String} {o : Outbound} (ho : o ∈ (computeConfig (c.view flags N)).outbounds)
    (htag : o.tag = outboundTag t) :
    c.Renders N t o ∨ N.hasRole .outbound = true ∧ t = N.name ∧ o = selfEntry N := by
  rw [computeConfig_outbounds] at ho
  rcases List.mem_append.1 (mem_of_mem_firstBy ho) with h | h
  · split at h
    · rcases mem_clientOutbounds_view.1 h with ⟨t', _, hren⟩ | ⟨_, hout, _, rfl⟩
      · obtain rfl := outboundTag_inj.1 (hren.tag.symm.trans htag)
        exact .inl hren
      · exact .inr ⟨hout, (outboundTag_inj.1 htag).symm, rfl⟩
    · cases h
  · rw [List.mem_singleton] at h
    subst h
    exact absurd htag.symm (outboundTag_ne_direct t)

/-! ## External outbounds -/

/-- Policies alone make a node use an external outbound: one makes it visible, one uses its name. -/
def PolicyReached (c : Cluster) (N : SingBoxNode) (t : String) : Prop :=
  (∃ p ∈ c.kept N, p.spec.action = .route ∧ c.egress p = t) ∧
    ∃ p ∈ c.kept N, p.spec.action = .route ∧ c.egressName p = t

/-- When an external outbound that passes the gate of a node is one of its targets. -/
theorem target_external_iff (hN : N ∈ c.nodes) {E : ExternalOutbound} (hE : E ∈ c.externalOutbounds)
    (hno : ∀ n ∈ c.nodes, n.name = E.name → n.hasRole .outbound = false) (hgate : N.PassesGate E) :
    c.Target N E.name ↔
      hasRequiredExternalCreds E (c.externalCred E) = true ∧
        ((∀ n ∈ c.nodes, n.name ≠ E.name) ∨ c.PolicyReached N E.name) := by
  have hdisc := mem_discovered_iff hN hE hgate
  constructor
  · rintro (⟨hreach, hu⟩ | ⟨_, hr, hname⟩)
    · -- a visible node of that name would have the outbound role
      rcases hu with ⟨n, hv, hname, _⟩ | ⟨e, hv, hname, hreq⟩
      · have := (visibleNodes_subset hv).2
        simp [hno n (visibleNodes_subset hv).1 hname] at this
      · obtain rfl := external_unique (visibleExternals_subset hv).1 hE hname
        refine ⟨hreq, ?_⟩
        -- what is not discovered can only be there because of policies
        rw [← hdisc, or_iff_not_imp_left]
        intro hnd
        refine ⟨?_, ?_⟩
        · rcases List.mem_append.1 hv with hd | ht
          · exact absurd hd hnd
          · obtain ⟨p, hp, ht⟩ := List.mem_filterMap.1 ht
            obtain ⟨ha, _, _, heq⟩ := externalTarget_eq_some.1 ht
            exact ⟨p, hp, ha, heq.symm⟩
        · rcases hreach with ⟨n, hn, hname⟩ | hp | ⟨e', he', hname'⟩
          · have hv' : n ∈ c.visibleNodes N := List.mem_append_left _ hn
            have := (visibleNodes_subset hv').2
            simp [hno n (visibleNodes_subset hv').1 hname] at this
          · exact hp
          · have hv' := visibleExternals_subset (List.mem_append_left _ he')
            exact absurd (external_unique hv'.1 hE hname' ▸ he') hnd
    · simp [hno N hN hname.symm] at hr
  · rintro ⟨hreq, hn | ⟨⟨q, hq, hqa, hqe⟩, hp⟩⟩
    · have hd := hdisc.2 hn
      exact .inl ⟨.inr (.inr ⟨E, hd, rfl⟩), .inr ⟨E, List.mem_append_left _ hd, rfl, hreq⟩⟩
    · have ht : c.externalTarget q = some E :=
        externalTarget_eq_some.2 ⟨hqa, fun n hn hname => hno n hn (hname.trans hqe), hE, hqe.symm⟩
      exact .inl ⟨.inr (.inl hp), .inr ⟨E, mem_visibleExternals_of_target hq ht, rfl, hreq⟩⟩

/-- The entry rendered from an external outbound is the one its tag names. -/
theorem externalEntry_mem (hN : N ∈ c.nodes) (hi : N.hasRole .inbound = true) {E : ExternalOutbound}
    (hE : E ∈ c.externalOutbounds) (hno : ∀ n ∈ c.nodes, n.name = E.name → n.hasRole .outbound = false)
    (ht : c.Target N E.name) : c.externalEntry E ∈ (computeConfig (c.view flags N)).outbounds := by
  rcases ht with hru | ⟨_, hr, hname⟩
  · obtain ⟨o, hm, htag⟩ := exists_outbound_view.2 ⟨hi, .inl hru⟩
    rcases outbound_renders hm htag with (⟨n, hv, hname, _⟩ | ⟨e, hv, hname, _, rfl⟩) | ⟨hr, hname, _⟩
    · have := (visibleNodes_subset hv).2
      simp [hno n (visibleNodes_subset hv).1 hname] at this
    · rwa [← external_unique (visibleExternals_subset hv).1 hE hname]
    · simp [hno N hN hname.symm] at hr
  · simp [hno N hN hname.symm] at hr

/-! ## The rules -/

/-- Which targets have a rule: the egress of a policy that takes part, and what somebody may use. -/
theorem exists_rule_view {tag : String} (hne : tag ≠ "") :
    (∃ r ∈ (computeConfig (c.view flags N)).route.rules, r.outbound = tag) ↔
      ∃ t, tag = outboundTag t ∧
        ((∃ p ∈ c.kept N, p.spec.action = .route ∧ c.egressName p = t) ∧ c.Usable N t ∨
          c.Target N t ∧ ∃ u ∈ c.servedUsers N, c.mayUse u t = true) := by
  rw [computeConfig_rules]
  constructor
  · rintro ⟨r, hr, rfl⟩
    rcases List.mem_append.1 hr with hr | hr
    · obtain ⟨p, hp, ha, hact, ho⟩ := mem_buildPolicyRules hr hne
      rw [mem_policiesForNode] at hp
      rw [engineEgress_view hp ha] at ho
      exact ⟨_, ho, .inl ⟨⟨p, hp, ha, rfl⟩, (policyActive_view hp ha).1 hact⟩⟩
    · split at hr
      · obtain ⟨t, ht, ⟨u, hu, hallow⟩, rfl⟩ := mem_targetRules.1 hr
        rw [view_allows hu] at hallow
        exact ⟨t, rfl, .inr ⟨mem_targets_view.1 ht, u, hu, hallow⟩⟩
      · cases hr
  · rintro ⟨t, rfl, ⟨⟨p, hp, ha, rfl⟩, hu⟩ | ⟨ht, u, hu, hallow⟩⟩
    · refine ⟨{ policyRule (c.view flags N) p with outbound := outboundTag (c.egressName p) }, ?_, rfl⟩
      refine List.mem_append_left _ (List.mem_flatMap.2 ⟨p, mem_policiesForNode.2 hp, ?_⟩)
      rw [policyRules_route ha, if_pos ((policyActive_view hp ha).2 hu), engineEgress_view hp ha]
      exact List.mem_cons_self
    · refine ⟨{ authUser := policyAuthUsers (c.view flags N) t, outbound := outboundTag t }, ?_, rfl⟩
      refine List.mem_append_right _ ?_
      rw [node_view, if_pos (mem_servedUsers.1 hu).1]
      exact mem_targetRules.2 ⟨t, mem_targets_view.2 ht, ⟨u, hu, (view_allows hu t).trans hallow⟩, rfl⟩

end

end Cluster

end SingboxOperator
