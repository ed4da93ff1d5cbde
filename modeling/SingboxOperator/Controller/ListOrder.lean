import SingboxOperator.Controller.Targets
import SingboxOperator.Engine.Dependence
import SingboxOperator.Engine.Routing
/-!
# The order of the lists

The client lists objects in any order, and a changed config restarts the pod.
`collectInput` sorts nodes, external outbounds and users, and the engine sorts
policies where it renders their rules. Only the loop that collects the targets
takes the policies as they are listed, so the order shows when two of them add
a target each.
-/
open SingboxOperator.Lib

namespace SingboxOperator

namespace Cluster
variable {c c' : Cluster} {N : SingBoxNode}

/-- The same objects, listed in another order. -/
structure Permuted (c c' : Cluster) : Prop where
  ns : c'.ns = c.ns
  nodes : c'.nodes.Perm c.nodes
  externalOutbounds : c'.externalOutbounds.Perm c.externalOutbounds
  users : c'.users.Perm c.users
  policies : c'.policies.Perm c.policies
  userGroup : c'.userGroup = c.userGroup
  secret : c'.secret = c.secret
  listError : c'.listError = c.listError

/-! ## What does not depend on the order -/

namespace Permuted
variable (h : c.Permuted c')
include h

theorem symm : c'.Permuted c where
  ns := h.ns.symm
  nodes := h.nodes.symm
  externalOutbounds := h.externalOutbounds.symm
  users := h.users.symm
  policies := h.policies.symm
  userGroup := h.userGroup.symm
  secret := h.secret.symm
  listError := h.listError.symm

theorem allNodes : c'.allNodes = c.allNodes :=
  sortOn_eq_of_perm (fun _ ha _ hb => node_unique ha hb) h.nodes

theorem allExtOutbounds : c'.allExtOutbounds = c.allExtOutbounds :=
  sortOn_eq_of_perm (fun _ ha _ hb => external_unique ha hb) h.externalOutbounds

theorem allUsers : c'.allUsers = c.allUsers :=
  sortOn_eq_of_perm (fun _ ha _ hb => user_unique ha hb) h.users

theorem peers : c'.peers N = c.peers N := by
  simp only [Cluster.peers, h.allNodes]

theorem discovered : c'.discovered N = c.discovered N := by
  simp only [Cluster.discovered, h.allExtOutbounds, h.allNodes]

theorem servedUsers : c'.servedUsers N = c.servedUsers N := by
  simp only [Cluster.servedUsers, h.allUsers]

theorem getNodeCredential : getNodeCredential c' = getNodeCredential c := by
  funext name
  simp only [SingboxOperator.getNodeCredential, h.secret, h.ns]

theorem getUserCredential : getUserCredential c' = getUserCredential c := by
  funext u
  simp only [SingboxOperator.getUserCredential, h.secret, h.ns]

theorem groupOf : c'.groupOf = c.groupOf := by
  funext u
  simp only [Cluster.groupOf, h.userGroup]

theorem readable : c'.Readable N ↔ c.Readable N := by
  simp only [Readable, GroupReadable, h.listError, h.userGroup, h.users.mem_iff]

variable [Library]

theorem kept : (c'.kept N).Perm (c.kept N) := by
  simp only [Cluster.kept, h.allNodes, h.allExtOutbounds]
  exact h.policies.filter _

theorem nodeTarget : c'.nodeTarget = c.nodeTarget := by
  funext p
  simp only [Cluster.nodeTarget, Cluster.egress, h.allNodes, h.allExtOutbounds]

theorem externalTarget : c'.externalTarget = c.externalTarget := by
  funext p
  simp only [Cluster.externalTarget, Cluster.egress, h.allNodes, h.allExtOutbounds]

theorem visibleNodes : (c'.visibleNodes N).Perm (c.visibleNodes N) := by
  rw [Cluster.visibleNodes, Cluster.visibleNodes, h.peers, h.nodeTarget]
  exact (h.kept.filterMap _).append_left _

theorem visibleExternals : (c'.visibleExternals N).Perm (c.visibleExternals N) := by
  rw [Cluster.visibleExternals, Cluster.visibleExternals, h.discovered, h.externalTarget]
  exact (h.kept.filterMap _).append_left _

end Permuted

section
variable [Library]

theorem Permuted.agree (h : c.Permuted c') (o o' : MapOrder) (flags : Flags) :
    (@view _ o flags c N).Agree (@view _ o' flags c' N) where
  node := rfl
  users := h.servedUsers
  userCreds := by
    change GoMap.assignSome _ _ _ _ = GoMap.assignSome _ _ _ _
    rw [h.getUserCredential, h.servedUsers]
  outboundNodes := h.peers
  routes := rfl
  nodeCreds := by
    intro k
    change (GoMap.assignSome _ _ _ _).lookup k = (GoMap.assignSome _ _ _ _).lookup k
    rw [h.getNodeCredential]
    exact GoMap.lookup_assignSome_perm _ _ (fun x _ y _ hxy => by rw [show x = y from hxy])
      ((h.visibleNodes.map _).append_right _) k
  outboundNodesByName := by
    intro k
    ext n
    rw [@view_node _ _ _ o', @view_node _ _ _ o, h.visibleNodes.mem_iff]
  externalOutbounds := h.discovered
  externalOutboundsByName := by
    intro k
    ext e
    rw [@view_external _ _ _ o', @view_external _ _ _ o, h.visibleExternals.mem_iff]
  externalCreds := by
    intro k key
    by_cases hk : ∃ e ∈ c.visibleExternals N, e.name = k
    · obtain ⟨e, he, rfl⟩ := hk
      rw [@view_externalCred _ _ _ o' _ _ (h.visibleExternals.mem_iff.2 he), @view_externalCred _ _ _ o _ _ he,
        @lookup_externalCred o', @lookup_externalCred o, h.secret, h.ns]
    · have hnone : ∀ e ∈ c.visibleExternals N, e.name ≠ k := fun e he hn => hk ⟨e, he, hn⟩
      have h1 : (@view _ o' flags c' N).externalCreds.lookup k = none :=
        GoMap.lookup_assignSome_of_notMem _ _ k _ (fun e he => hnone e (h.visibleExternals.mem_iff.1 he)) ∅
      have h2 : (@view _ o flags c N).externalCreds.lookup k = none :=
        GoMap.lookup_assignSome_of_notMem _ _ k _ hnone ∅
      rw [GoMap.get, GoMap.get, h1, h2]
  usageCollectionEnabled := rfl
  v2rayAPIListenAddr := rfl
  userNodeRestrictions := by
    change GoMap.assignSome _ c'.deniedSet _ _ = GoMap.assignSome _ c.deniedSet _ _
    have hd : c'.deniedSet = c.deniedSet := by
      funext u
      simp only [deniedSet, h.groupOf]
    rw [hd, h.servedUsers]
  userNodeAllowlist := by
    change GoMap.assignSome _ c'.allowedSet _ _ = GoMap.assignSome _ c.allowedSet _ _
    have ha : c'.allowedSet = c.allowedSet := by
      funext u
      simp only [allowedSet, h.groupOf]
    rw [ha, h.servedUsers]

theorem Permuted.policiesForNode (h : c.Permuted c') (o o' : MapOrder) (flags : Flags) :
    policiesForNode (@view _ o' flags c' N) = policiesForNode (@view _ o flags c N) := by
  apply sortOn_eq_of_perm _ h.kept
  intro p hp q hq hkey
  exact policyKey_inj hp hq hkey

/-! ## Where it shows -/

section
variable [MapOrder]

/-- The engine's check of an egress and its outbound entry look at the same things. -/
theorem outboundsUsable_view (flags : Flags) (c : Cluster) (N : SingBoxNode) : OutboundsUsable (c.view flags N) := by
  intro t ht
  refine Option.eq_none_iff_forall_ne_some.2 fun o ho => ?_
  have hu := exists_renders.1 ⟨o, policyOutbound_view.1 ho⟩
  have havail : policyEgressAvailable (c.view flags N) t = true := policyEgressAvailable_view.2 hu
  rw [ht] at havail
  cases havail

theorem hasUser_view {flags : Flags} {t : String} :
    hasUser (c.view flags N) t = true ↔ N.hasRole .inbound = true ∧ ∃ u ∈ c.users, c.mayUse u t = true := by
  rw [hasUser_iff]
  constructor
  · rintro ⟨u, hu, hallow⟩
    rw [view_allows hu] at hallow
    exact ⟨(mem_servedUsers.1 hu).1, u, (mem_servedUsers.1 hu).2, hallow⟩
  · rintro ⟨hi, u, hu, hmay⟩
    have hserved := mem_servedUsers.2 ⟨hi, hu⟩
    exact ⟨u, hserved, (view_allows hserved t).trans hmay⟩

theorem activeEgress_view (flags : Flags) {p : EgressPolicy} (hp : p ∈ c.kept N) {t : String} :
    activeEgress (c.view flags N) p = some t ↔ p.spec.action = .route ∧ c.Usable N (c.egressName p) ∧ c.egressName p = t := by
  rw [activeEgress_eq_some]
  refine and_congr_right fun ha => ?_
  rw [policyActive_view hp ha, engineEgress_view hp ha]

/-- A route policy puts its egress on the list of targets: it can be used, is no peer, and somebody may use it. -/
def AddsTarget (c : Cluster) (N : SingBoxNode) (p : EgressPolicy) : Prop :=
  p ∈ c.kept N ∧ p.spec.action = .route ∧ c.Usable N (c.egressName p) ∧ (∀ n ∈ c.peers N, n.name ≠ c.egressName p) ∧
    ∃ u ∈ c.users, c.mayUse u (c.egressName p) = true

theorem mem_peerTargets_view {flags : Flags} {t : String} :
    t ∈ peerTargets (c.view flags N) ↔ ∃ n ∈ c.peers N, n.spec.relayPort ≠ 0 ∧ n.name = t := by
  unfold peerTargets
  rw [view_routes]
  simp [and_assoc]

theorem addsTarget_iff (flags : Flags) {p : EgressPolicy} (hp : p ∈ c.kept N) {t : String} :
    c.AddsTarget N p ∧ c.egressName p = t ↔
      activeEgress (c.view flags N) p = some t ∧ hasUser (c.view flags N) t = true ∧ t ∉ peerTargets (c.view flags N) := by
  rw [activeEgress_view flags hp, hasUser_view, mem_peerTargets_view]
  constructor
  · rintro ⟨⟨_, ha, hu, hno, huser⟩, rfl⟩
    refine ⟨⟨ha, hu, rfl⟩, ⟨(kept_route hp ha).1, huser⟩, ?_⟩
    rintro ⟨n, hn, _, hname⟩
    exact hno n hn hname
  · rintro ⟨⟨ha, hu, rfl⟩, ⟨_, huser⟩, hno⟩
    refine ⟨⟨hp, ha, hu, fun n hn hname => hno ⟨n, hn, ?_, hname⟩, huser⟩, rfl⟩
    rw [← hname] at hu
    exact (usable_of_peer hn).1 hu

end

/-- Apart from the order of the served targets nothing can change. -/
theorem Permuted.computeConfig_eq (h : c.Permuted c') (o o' : MapOrder) (flags : Flags)
    (hserved : @servedTargets _ o' (@view _ o' flags c' N) = @servedTargets _ o (@view _ o flags c N)) :
    @computeConfig _ o' (@view _ o' flags c' N) = @computeConfig _ o (@view _ o flags c N) := by
  have hagree := h.agree o o' flags (N := N)
  refine computeConfig_congr o o' hagree (@outboundsUsable_view _ o flags c N) id ?_ (fun _ _ => rfl) ?_ hserved
  · rw [h.policiesForNode o o', List.map_id]
  · intro p _
    rw [hagree.activeEgress o o', id]

theorem Permuted.servedTargets_of_compute_eq (h : c.Permuted c') (o o' : MapOrder) (flags : Flags)
    (hi : N.hasRole .inbound = true)
    (hc : @compute _ o' (@view _ o' flags c' N) = @compute _ o (@view _ o flags c N)) :
    @servedTargets _ o' (@view _ o' flags c' N) = @servedTargets _ o (@view _ o flags c N) := by
  have hagree := h.agree o o' flags (N := N)
  have hrules := congrArg (·.route.rules) ((compute_eq_iff_config o o').1 hc)
  have hpolicy : @buildPolicyRules _ o' (@view _ o' flags c' N) (SingboxOperator.policiesForNode (@view _ o' flags c' N)) =
      @buildPolicyRules _ o (@view _ o flags c N) (SingboxOperator.policiesForNode (@view _ o flags c N)) := by
    rw [h.policiesForNode o o']
    exact List.flatMap_congr fun p _ => hagree.alike.policyRules o o' rfl (congrFun (hagree.activeEgress o o') p)
  rw [@computeConfig_rules _ o', @computeConfig_rules _ o, hpolicy, List.append_cancel_left_eq, @node_view _ _ _ o',
    @node_view _ _ _ o, if_pos hi, if_pos hi, targetRules_eq, targetRules_eq] at hrules
  have htags := congrArg (List.map RouteRule.outbound) hrules
  rw [List.map_map, List.map_map] at htags
  exact List.map_injective_iff.2 (fun _ _ => outboundTag_inj.1) htags

/-- With at most one target added by policies the order does not show. -/
theorem Permuted.servedTargets_eq (h : c.Permuted c') (o o' : MapOrder) (flags : Flags)
    (hone : ∀ p q, @AddsTarget _ o c N p → @AddsTarget _ o c N q → c.egressName p = c.egressName q) :
    @servedTargets _ o' (@view _ o' flags c' N) = @servedTargets _ o (@view _ o flags c N) := by
  have hagree := h.agree o o' flags (N := N)
  rw [@SingboxOperator.servedTargets_eq _ o', @SingboxOperator.servedTargets_eq _ o, hagree.alike.peerTargets,
    hagree.alike.otherTargets, hagree.alike.hasUser, hagree.activeEgress o o']
  refine eraseDups_append_perm ((h.kept.filterMap _).filter _) ?_ _
  have hadds : ∀ x ∈ ((@view _ o flags c N).egressPolicies.filterMap (@activeEgress _ o (@view _ o flags c N))).filter
      (hasUser (@view _ o flags c N)), x ∉ (peerTargets (@view _ o flags c N)).filter (hasUser (@view _ o flags c N)) →
      ∃ p, @AddsTarget _ o c N p ∧ c.egressName p = x := by
    intro x hx hnot
    obtain ⟨hx, huser⟩ := List.mem_filter.1 hx
    obtain ⟨p, hp, he⟩ := List.mem_filterMap.1 hx
    exact ⟨p, (@addsTarget_iff _ _ _ o flags p hp x).2 ⟨he, huser, fun hm => hnot (List.mem_filter.2 ⟨hm, huser⟩)⟩⟩
  intro x hx y hy hx' hy'
  obtain ⟨p, hp, rfl⟩ := hadds x hx hx'
  obtain ⟨q, hq, rfl⟩ := hadds y hy hy'
  exact hone p q hp hq

omit [Library] in
/-- Any policy can be listed first. -/
theorem exists_permuted_first {p : EgressPolicy} (hp : p ∈ c.policies) :
    ∃ c' rest, c.Permuted c' ∧ c'.policies = p :: rest := by
  obtain ⟨s, t, hst⟩ := List.append_of_mem hp
  have hperm : (p :: (s ++ t)).Perm c.policies := hst ▸ List.perm_middle.symm
  exact ⟨{ c with policies := p :: (s ++ t), policies_nodup := (hperm.map _).nodup_iff.2 c.policies_nodup }, s ++ t,
    ⟨rfl, .refl _, .refl _, .refl _, hperm, rfl, rfl, rfl⟩, rfl⟩

/-- The target of the policy listed first comes right after those of the peers. -/
theorem Permuted.servedTargets_first [MapOrder] (h : c.Permuted c') (flags : Flags) {p : EgressPolicy}
    {rest : List EgressPolicy} (hfirst : c'.policies = p :: rest) (hp : c.AddsTarget N p) :
    ∃ after, servedTargets (c'.view flags N) =
      ((peerTargets (c.view flags N)).filter (hasUser (c.view flags N))).eraseDups ++ c.egressName p :: after := by
  have hagree := h.agree inferInstance inferInstance flags (N := N)
  obtain ⟨hact, huser, hno⟩ := (addsTarget_iff flags hp.1).1 ⟨hp, rfl⟩
  have hkept : c'.kept N = p :: rest.filter (policyApplies N c.allNodes c.allExtOutbounds) := by
    rw [Cluster.kept, hfirst, h.allNodes, h.allExtOutbounds, List.filter_cons_of_pos (mem_kept.1 hp.1).2]
  rw [SingboxOperator.servedTargets_eq, hagree.alike.peerTargets, hagree.alike.otherTargets, hagree.alike.hasUser,
    hagree.activeEgress inferInstance inferInstance, egressPolicies_view, hkept, List.filterMap_cons, hact]
  simp only
  rw [List.filter_cons_of_pos huser, List.append_assoc, List.cons_append]
  exact eraseDups_append_cons (fun hm => hno (List.mem_filter.1 hm).1) _

theorem compute_permuted_view [o : MapOrder] (flags : Flags) :
    (∀ (o' : MapOrder) (c' : Cluster), c.Permuted c' →
      @compute _ o' (@view _ o' flags c' N) = @compute _ o (@view _ o flags c N)) ↔
      ∀ p q, c.AddsTarget N p → c.AddsTarget N q → c.egressName p = c.egressName q := by
  constructor
  · intro hall p q hp hq
    -- list one policy first, then the other: the targets differ after those of the peers
    have hserved : ∀ c', c.Permuted c' → servedTargets (c'.view flags N) = servedTargets (c.view flags N) :=
      fun c' hc' => hc'.servedTargets_of_compute_eq o o flags (kept_route hp.1 hp.2.1).1 (hall o c' hc')
    obtain ⟨c₁, rest₁, hc₁, hfirst₁⟩ := exists_permuted_first (mem_kept.1 hp.1).1
    obtain ⟨c₂, rest₂, hc₂, hfirst₂⟩ := exists_permuted_first (mem_kept.1 hq.1).1
    obtain ⟨after₁, h₁⟩ := hc₁.servedTargets_first flags hfirst₁ hp
    obtain ⟨after₂, h₂⟩ := hc₂.servedTargets_first flags hfirst₂ hq
    rw [hserved c₁ hc₁] at h₁
    rw [hserved c₂ hc₂, h₁] at h₂
    exact (List.cons.inj (List.append_cancel_left h₂)).1
  · intro hone o' c' hc'
    exact compute_congr o o' (hc'.computeConfig_eq o o' flags (hc'.servedTargets_eq o o' flags hone))

/-- A list in another order is read as well as before. -/
theorem Permuted.collectInput_eq (h : c.Permuted c') (o o' : MapOrder) {flags : Flags} {input : Input}
    (hc : @collectInput _ o flags c N = .ok input) :
    @collectInput _ o' flags c' N = .ok (@view _ o' flags c' N) :=
  @collectInput_eq_ok _ o' flags c' N (h.readable.2 ((@collectInput_isOk _ o flags c N).1 ⟨input, hc⟩))

end

end Cluster

/-- Neither the order of the lists nor that of the maps shows in the config
exactly when the policies add at most one target to the peers. -/
theorem compute_permuted_iff [Library] [o : MapOrder] {flags : Flags} {c : Cluster} {N : SingBoxNode} {input : Input}
    (h : collectInput flags c N = .ok input) :
    (∀ (o' : MapOrder) (c' : Cluster), c.Permuted c' →
      (@collectInput _ o' flags c' N).map (@compute _ o') = .ok (@compute _ o input)) ↔
      ∀ p q, c.AddsTarget N p → c.AddsTarget N q → c.egressName p = c.egressName q := by
  rw [← Cluster.compute_permuted_view flags, ← collectInput_ok h]
  refine forall₃_congr fun o' c' hc' => ?_
  rw [hc'.collectInput_eq o o' h]
  exact ⟨Except.ok.inj, congrArg Except.ok⟩

/-! ### Two policies with an external outbound each -/

def relayA : ExternalOutbound where
  metadata := .named "relay-a"
  spec := { protocol := .socks5, server := "192.0.2.10", port := Port.socks.number, port_pos := Port.socks.pos,
            port_le := Port.socks.le, region := "hk" }

def relayB : ExternalOutbound where
  metadata := .named "relay-b"
  spec := { protocol := .socks5, server := "192.0.2.11", port := Port.socks.number, port_pos := Port.socks.pos,
            port_le := Port.socks.le, region := "hk" }

def viaA : EgressPolicy where
  metadata := .named "via-a"
  spec :=
    { egressSelector := { matchNames := ["relay-a"] }, matchFields := { domain := ["a.example"] }, action := .route }

def viaB : EgressPolicy where
  metadata := .named "via-b"
  spec :=
    { egressSelector := { matchNames := ["relay-b"] }, matchFields := { domain := ["b.example"] }, action := .route }

def twoRelays : Cluster where
  ns := "proxy"
  nodes := [entryNode]
  externalOutbounds := [relayA, relayB]
  users := [bob]
  policies := [viaA, viaB]
  nodes_nodup := by decide
  externalOutbounds_nodup := by decide
  users_nodup := by decide
  policies_nodup := by decide

section
attribute [local instance] plainLibrary storedOrder

theorem twoRelays_no_peers : ∀ n ∈ twoRelays.peers entryNode, False := by
  intro n hn
  obtain ⟨hm, hp⟩ := Cluster.mem_peers.1 hn
  rw [List.mem_singleton.1 hm] at hp
  revert hp
  decide

theorem viaA_addsTarget : twoRelays.AddsTarget entryNode viaA := by
  refine ⟨Cluster.mem_kept.2 ⟨List.mem_pair.2 (.inl rfl), by decide⟩, rfl, .inr ⟨relayA, ?_, by decide, by decide⟩,
    fun n hn => (twoRelays_no_peers n hn).elim, bob, List.mem_singleton_self _, by decide⟩
  exact List.mem_append_left _ (List.mem_filter.2 ⟨Cluster.mem_allExtOutbounds.2 (List.mem_pair.2 (.inl rfl)), by decide⟩)

theorem viaB_addsTarget : twoRelays.AddsTarget entryNode viaB := by
  refine ⟨Cluster.mem_kept.2 ⟨List.mem_pair.2 (.inr rfl), by decide⟩, rfl, .inr ⟨relayB, ?_, by decide, by decide⟩,
    fun n hn => (twoRelays_no_peers n hn).elim, bob, List.mem_singleton_self _, by decide⟩
  exact List.mem_append_left _ (List.mem_filter.2 ⟨Cluster.mem_allExtOutbounds.2 (List.mem_pair.2 (.inr rfl)), by decide⟩)

theorem viaA_ne_viaB : twoRelays.egressName viaA ≠ twoRelays.egressName viaB := by decide

theorem twoRelays_collected : collectInput {} twoRelays entryNode = .ok (twoRelays.view {} entryNode) :=
  collectInput_eq_ok {} ⟨rfl, rfl, rfl, fun _ => ⟨rfl, fun _ _ _ _ h => by cases h; rfl⟩⟩

/-- The virtual users of `relay-a` and `relay-b` come in the order in which the two policies are listed. -/
theorem not_forall_compute_permuted :
    ¬ ∀ [Library] [o : MapOrder] (flags : Flags) (c : Cluster) (N : SingBoxNode) (input : Input), N ∈ c.nodes →
      collectInput flags c N = .ok input → ∀ (o' : MapOrder) (c' : Cluster), c.Permuted c' →
        (@collectInput _ o' flags c' N).map (@compute _ o') = .ok (@compute _ o input) := by
  intro h
  have hall := h {} twoRelays entryNode _ (List.mem_singleton_self _) twoRelays_collected
  refine viaA_ne_viaB ((Cluster.compute_permuted_view {}).1 (fun o' c' hc' => ?_) viaA viaB viaA_addsTarget viaB_addsTarget)
  have hout := hall o' c' hc'
  rw [hc'.collectInput_eq storedOrder o' twoRelays_collected] at hout
  exact Except.ok.inj hout

theorem compute_permuted_iff_twoRelays :
    collectInput {} twoRelays entryNode = .ok (twoRelays.view {} entryNode) ∧
      ¬ ∀ (o' : MapOrder) (c' : Cluster), twoRelays.Permuted c' →
        (@collectInput _ o' {} c' entryNode).map (@compute _ o') =
          .ok (@compute _ storedOrder (@Cluster.view _ storedOrder {} twoRelays entryNode)) :=
  ⟨twoRelays_collected, fun hall =>
    viaA_ne_viaB ((compute_permuted_iff twoRelays_collected).1 hall viaA viaB viaA_addsTarget viaB_addsTarget)⟩

end

end SingboxOperator
