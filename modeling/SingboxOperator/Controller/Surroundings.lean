import SingboxOperator.Controller.Credentials
import SingboxOperator.Controller.ListOrder
/-!
# The surroundings of a node

What a node's config depends on, in terms of the cluster: the users it serves,
the entries rendered from its peers and external outbounds, and the policies
that apply to it with what they are routed to. A node without the inbound role
depends on nothing but itself and its own credentials.
-/
open SingboxOperator.Lib

namespace SingboxOperator

namespace Cluster
variable {c c' : Cluster} {N : SingBoxNode}

/-- The entries of the peers that can be relayed to. -/
def relayEntries (c : Cluster) (N : SingBoxNode) : List Outbound :=
  ((c.peers N).filter fun n => n.spec.relayPort ≠ 0).map c.relayEntry

section
variable [MapOrder]

/-- The discovered external outbounds that have their credentials, and their entries. -/
def completeExternals (c : Cluster) (N : SingBoxNode) : List ExternalOutbound :=
  (c.discovered N).filter fun e => hasRequiredExternalCreds e (c.externalCred e)

def externalEntries (c : Cluster) (N : SingBoxNode) : List Outbound := (c.completeExternals N).map c.externalEntry

end

/-- Entries with the same tags are of objects with the same names. -/
theorem names_of_entries {α : Type} {name : α → String} {entry entry' : α → Outbound} {l l' : List α}
    (htag : ∀ x, (entry x).tag = outboundTag (name x)) (htag' : ∀ x, (entry' x).tag = outboundTag (name x))
    (h : l'.map entry' = l.map entry) : l'.map name = l.map name := by
  have htags := congrArg (List.map Outbound.tag) h
  simp only [List.map_map, Function.comp_def, htag, htag'] at htags
  refine List.map_injective_iff.2 (fun _ _ => outboundTag_inj.1) ?_
  simpa only [List.map_map, Function.comp_def] using htags

section
variable [Library] [MapOrder] {flags : Flags}

theorem peerTargets_view : peerTargets (c.view flags N) =
    ((c.peers N).filter fun n => n.spec.relayPort ≠ 0).map SingBoxNode.name := by
  unfold peerTargets
  rw [view_routes]
  exact List.append_nil _

theorem peerOutbounds_view : buildOutboundNodeOutbounds (c.view flags N) [] = c.relayEntries N := by
  unfold buildOutboundNodeOutbounds relayEntries
  rw [outboundNodes_view]
  have hfilter : ∀ n ∈ c.peers N, (!(([] : List CustomRoute).any fun r => r.outboundNode = n.name) &&
      admits n.spec.allowedInbounds (c.view flags N).node.name &&
      admits (c.view flags N).node.spec.allowedOutbounds n.name && n.spec.relayPort ≠ 0) = decide (n.spec.relayPort ≠ 0) := by
    intro n hn
    have hp := (mem_peers.1 hn).2
    simp only [isPeer, Bool.and_eq_true] at hp
    simp [hp.1.2, hp.2]
  rw [List.filter_congr hfilter]
  exact List.map_congr_left fun n hn => relayOutbound_view (List.mem_append_left _ (List.mem_filter.1 hn).1)

theorem externalOutbounds_view : buildExternalOutbounds (c.view flags N) [] = c.externalEntries N := by
  unfold buildExternalOutbounds externalEntries
  rw [resolveExternalOutbounds_view]
  refine List.map_congr_left fun e he => ?_
  rw [view_externalCred (List.mem_append_left _ (List.mem_filter.1 he).1)]
  rfl

theorem relayInbound_view (ho : N.hasRole .outbound = true) :
    buildRelayInbound (c.view flags N) = c.relayInbound N := by
  simp only [buildRelayInbound, relayInbound, node_view, view_nodeCred (.inr ⟨rfl, ho⟩)]

/-- The entries the node shows of its users are the same in both clusters. -/
def SameEntries (c c' : Cluster) (N : SingBoxNode) : Prop :=
  N.hasRole .inbound = true → findProtocolPort N (effectiveInboundProtocol N) ≠ 0 → ∀ u ∈ c.users,
    (∀ t, c.Target N t → c.mayUse u t = true → c'.virtualEntry N t u = c.virtualEntry N t u) ∧
      (c.ServesPlain N → c'.plainEntry N u = c.plainEntry N u)

theorem sameEntries_of_userCred (h : c'.userCred = c.userCred) : c.SameEntries c' N :=
  fun _ _ _ _ => ⟨fun _ _ _ => by simp only [virtualEntry, h], fun _ => by simp only [plainEntry, h]⟩

/-- The two clusters give the node the same users, entries and policies. -/
structure LooksAlike (c c' : Cluster) (N : SingBoxNode) : Prop where
  users : c'.servedUsers N = c.servedUsers N
  groupOf : ∀ u ∈ c.servedUsers N, c'.groupOf u = c.groupOf u
  entries : c.SameEntries c' N
  ownCred : N.hasRole .outbound = true → c'.nodeCred N.name = c.nodeCred N.name
  noPeers : (c'.peers N).isEmpty = (c.peers N).isEmpty
  relayEntries : c'.relayEntries N = c.relayEntries N
  externalEntries : c'.externalEntries N = c.externalEntries N
  kept : c'.kept N = c.kept N
  egressName : ∀ p ∈ c.kept N, p.spec.action = .route → c'.egressName p = c.egressName p
  renders : ∀ p ∈ c.kept N, p.spec.action = .route → ∀ o,
    c'.Renders N (c.egressName p) o ↔ c.Renders N (c.egressName p) o

namespace LooksAlike
variable (h : c.LooksAlike c' N)
include h

theorem alike (flags : Flags) : (c.view flags N).Alike (c'.view flags N) where
  node := rfl
  users := h.users
  allows u hu t := by
    rw [view_allows hu, view_allows (h.users ▸ hu)]
    simp only [mayUse, allowedSet, deniedSet, h.groupOf u hu]
  routes := rfl
  relayInbound ho := by
    have ho : N.hasRole .outbound = true := ho
    rw [relayInbound_view ho, relayInbound_view ho, relayInbound, relayInbound, h.ownCred ho]
  noPeers := h.noPeers
  peerTargets := by
    rw [peerTargets_view, peerTargets_view]
    exact names_of_entries (fun _ => rfl) (fun _ => rfl) h.relayEntries
  externals := by
    rw [view_routes, resolveExternalOutbounds_view, resolveExternalOutbounds_view]
    exact names_of_entries (fun e => buildExternalOutboundEntry_tag e _) (fun e => buildExternalOutboundEntry_tag e _)
      h.externalEntries
  peerOutbounds := by
    rw [view_routes, peerOutbounds_view, peerOutbounds_view, h.relayEntries]
  routeOutbounds := rfl
  externalOutbounds := by
    rw [view_routes, externalOutbounds_view, externalOutbounds_view, h.externalEntries]
  usageCollectionEnabled := rfl
  v2rayAPIListenAddr := rfl

theorem activeEgress (flags : Flags) {p : EgressPolicy} (hp : p ∈ c.kept N) :
    activeEgress (c'.view flags N) p = activeEgress (c.view flags N) p := by
  by_cases ha : p.spec.action = .route
  · ext t
    have husable : c'.Usable N (c.egressName p) ↔ c.Usable N (c.egressName p) := by
      rw [← exists_renders, ← exists_renders]
      exact exists_congr (h.renders p hp ha)
    rw [activeEgress_view flags (h.kept ▸ hp), activeEgress_view flags hp, h.egressName p hp ha, husable]
  · simp [SingboxOperator.activeEgress, ha]

theorem clientUsers (flags : Flags) (hport : findProtocolPort N (effectiveInboundProtocol N) ≠ 0)
    (hserved : servedTargets (c'.view flags N) = servedTargets (c.view flags N)) :
    clientUsers (c'.view flags N) = clientUsers (c.view flags N) := by
  have hpol : (c'.view flags N).egressPolicies = [] ↔ (c.view flags N).egressPolicies = [] := by
    rw [egressPolicies_view, egressPolicies_view, h.kept]
  refine (h.alike flags).clientUsers inferInstance inferInstance hpol hserved (fun t ht u hu hallow => ?_)
    fun hnone hmode u hu => ?_
  · obtain ⟨hi, hmem⟩ := mem_servedUsers.1 hu
    rw [node_view, virtualUserEntry_view hu, virtualUserEntry_view (h.users ▸ hu)]
    exact (h.entries hi hport u hmem).1 t (mem_targets_view.1 ht) ((view_allows hu t).symm.trans hallow)
  · obtain ⟨hi, hmem⟩ := mem_servedUsers.1 hu
    rw [node_view, plainUserEntry_view hu, plainUserEntry_view (h.users ▸ hu)]
    exact (h.entries hi hport u hmem).2 ((servesPlain_view hi).1 ⟨hnone, hmode⟩)

theorem computeConfig_eq (flags : Flags) : computeConfig (c'.view flags N) = computeConfig (c.view flags N) := by
  have hactive : ∀ p ∈ c.kept N, SingboxOperator.activeEgress (c'.view flags N) p =
      SingboxOperator.activeEgress (c.view flags N) p := fun p hp => h.activeEgress flags hp
  have hserved : servedTargets (c'.view flags N) = servedTargets (c.view flags N) := by
    refine (h.alike flags).servedTargets inferInstance inferInstance ?_
    rw [egressPolicies_view, egressPolicies_view, h.kept]
    exact List.filterMap_congr hactive
  refine computeConfig_alike inferInstance inferInstance (h.alike flags) (outboundsUsable_view flags c N)
    (outboundsUsable_view flags c' N) id ?_ (fun _ _ => rfl) hactive ?_ hserved
    fun hport => h.clientUsers flags hport hserved
  · rw [List.map_id]
    exact congrArg (sortOn policyKey) h.kept
  · intro p hp t ht
    obtain ⟨ha, _, rfl⟩ := (activeEgress_view flags hp).1 ht
    ext o
    rw [policyOutbound_view, policyOutbound_view, h.renders p hp ha]

end LooksAlike

/-- Without policies nothing has to be said about them. -/
theorem LooksAlike.of_kept_nil (users : c'.servedUsers N = c.servedUsers N)
    (groupOf : ∀ u ∈ c.servedUsers N, c'.groupOf u = c.groupOf u) (entries : c.SameEntries c' N)
    (ownCred : N.hasRole .outbound = true → c'.nodeCred N.name = c.nodeCred N.name)
    (noPeers : (c'.peers N).isEmpty = (c.peers N).isEmpty) (relayEntries : c'.relayEntries N = c.relayEntries N)
    (externalEntries : c'.externalEntries N = c.externalEntries N) (hkept : c.kept N = []) (hkept' : c'.kept N = []) :
    c.LooksAlike c' N where
  users := users
  groupOf := groupOf
  entries := entries
  ownCred := ownCred
  noPeers := noPeers
  relayEntries := relayEntries
  externalEntries := externalEntries
  kept := by rw [hkept, hkept']
  egressName := by simp [hkept]
  renders := by simp [hkept]

omit [MapOrder] in
/-- No policy is kept for a node that none selects. -/
theorem kept_eq_nil (h : ∀ p ∈ c.policies, N.hasRole .inbound = true →
    p.spec.ingressSelector.matches N.metadata = false) : c.kept N = [] := by
  refine List.filter_eq_nil_iff.2 fun p hp => ?_
  by_cases hi : N.hasRole .inbound = true
  · simp [policyApplies, h p hp hi]
  · simp [policyApplies, hi]

/-- A node without the inbound role has no entries, rules or users to look after. -/
theorem computeConfig_of_not_inbound (flags : Flags) (hi : N.hasRole .inbound = false)
    (hown : N.hasRole .outbound = true → c'.nodeCred N.name = c.nodeCred N.name) :
    computeConfig (c'.view flags N) = computeConfig (c.view flags N) := by
  have hkept : ∀ c : Cluster, c.kept N = [] := fun c => kept_eq_nil fun _ _ h => by simp [hi] at h
  have husers : ∀ c : Cluster, c.servedUsers N = [] := fun c => by simp [servedUsers, hi]
  have hrules : ∀ c : Cluster, (computeConfig (c.view flags N)).route.rules = [] := fun c => by
    rw [computeConfig_rules, policiesForNode, egressPolicies_view, hkept]
    simp [hi, buildPolicyRules]
  have houts : ∀ c : Cluster, (computeConfig (c.view flags N)).outbounds = [buildDirectOutbound] := fun c => by
    rw [computeConfig_outbounds]
    simp only [node_view, hi, Bool.false_eq_true, if_false, List.nil_append]
    rfl
  have hin : (computeConfig (c'.view flags N)).inbounds = (computeConfig (c.view flags N)).inbounds := by
    rw [computeConfig_inbounds, computeConfig_inbounds]
    simp only [node_view, hi, Bool.false_eq_true, if_false, List.nil_append]
    by_cases ho : N.hasRole .outbound = true
    · simp only [ho, if_true, relayInbound_view ho, relayInbound, hown ho]
    · simp only [ho, if_false, Bool.false_eq_true]
  have hstats : statsUsers (c'.view flags N) = statsUsers (c.view flags N) := by
    have hnone : ∀ names : List String, (names.flatMap fun _ => ([] : List String)) = [] := fun names => by simp
    rw [Input.Alike.statsUsers_eq, Input.Alike.statsUsers_eq, users_view, users_view, husers, husers]
    simp only [List.map_nil, hnone]
  refine SingboxConfig.ext rfl hin ?_ (RouteConfig.ext ?_ ?_) ?_
  · rw [houts, houts]
  · rw [hrules, hrules]
  · rw [computeConfig_final, computeConfig_final, hrules, hrules, houts, houts]
  · change (if flags.usageCollectionEnabled then some (buildExperimentalConfig (c'.view flags N)) else none) =
      if flags.usageCollectionEnabled then some (buildExperimentalConfig (c.view flags N)) else none
    simp only [buildExperimentalConfig, hstats]
    rfl

end

/-! ## What is read of other objects -/

theorem nodeCred_congr (hns : c'.ns = c.ns) (hs : c'.secret = c.secret) : c'.nodeCred = c.nodeCred := by
  funext name
  simp only [nodeCred, getNodeCredential, hns, hs]

theorem userCred_congr (hns : c'.ns = c.ns) (hs : c'.secret = c.secret) : c'.userCred = c.userCred := by
  funext u
  simp only [userCred, getUserCredential, hns, hs]

theorem externalCred_congr [MapOrder] (hns : c'.ns = c.ns) (hs : c'.secret = c.secret) :
    c'.externalCred = c.externalCred := by
  funext e
  simp only [externalCred, getExternalCredentials, hns, hs]

section Nodes

theorem map_allNodes {α : Type} {f : SingBoxNode → α} (key : α → String) (hkey : ∀ n, key (f n) = n.name)
    (h : c'.nodes.map f = c.nodes.map f) : c'.allNodes.map f = c.allNodes.map f := by
  have hsort : ∀ l : List SingBoxNode, (sortOn SingBoxNode.name l).map f = sortOn key (l.map f) :=
    fun l => (sortOn_map fun n _ => hkey n).symm
  rw [allNodes, allNodes, hsort, hsort, h]

/-- A peer is rendered from its name and its spec. -/
def core (n : SingBoxNode) : String × SingBoxNodeSpec := (n.name, n.spec)

/-- `isPeer`, of the name and the spec alone. -/
def isPeerCore (N : SingBoxNode) (x : String × SingBoxNodeSpec) : Bool :=
  x.1 ≠ N.name && x.2.region = N.spec.region && decide (.outbound ∈ x.2.roles) &&
    admits x.2.allowedInbounds N.name && admits N.spec.allowedOutbounds x.1

theorem map_core_peers (h : c'.nodes.map core = c.nodes.map core) :
    (c'.peers N).map core = (c.peers N).map core :=
  map_filter_congr (isPeerCore N) (fun _ => rfl) (map_allNodes Prod.fst (fun _ => rfl) h)

theorem noPeers_of_core (h : (c'.peers N).map core = (c.peers N).map core) :
    (c'.peers N).isEmpty = (c.peers N).isEmpty := by
  rw [← List.isEmpty_map (f := core), h, List.isEmpty_map]

theorem relayEntries_of_core (hcred : c'.nodeCred = c.nodeCred) (h : (c'.peers N).map core = (c.peers N).map core) :
    c'.relayEntries N = c.relayEntries N := by
  have hentry : ∀ c : Cluster, c.relayEntry = (fun x : String × SingBoxNodeSpec =>
      { type := "socks", tag := outboundTag x.1, server := some x.2.address, serverPort := some x.2.relayPort,
        username := some (c.nodeCred x.1).username, password := some (c.nodeCred x.1).password }) ∘ core := fun _ => rfl
  have hports := map_filter_congr (p := fun n : SingBoxNode => decide (n.spec.relayPort ≠ 0))
    (fun x : String × SingBoxNodeSpec => decide (x.2.relayPort ≠ 0)) (fun _ => rfl) h
  rw [relayEntries, relayEntries, hentry c', hentry c, ← List.map_map, ← List.map_map, hports, hcred]

theorem isDiscovered_iff {e : ExternalOutbound} :
    isDiscovered N (N.name :: c.allNodes.map SingBoxNode.name) e = true ↔
      e.name ≠ N.name ∧ (∀ n ∈ c.nodes, n.name ≠ e.name) ∧ N.PassesGate e := by
  simp [isDiscovered, SingBoxNode.PassesGate, and_assoc]

/-- Of the nodes only the names count, and only where an ExternalOutbound could be rendered. -/
theorem completeExternals_of_names [MapOrder] (he : c'.externalOutbounds = c.externalOutbounds)
    (hcred : c'.externalCred = c.externalCred)
    (h : ∀ e ∈ c.externalOutbounds, N.PassesGate e → hasRequiredExternalCreds e (c.externalCred e) = true →
      ((∀ n ∈ c'.nodes, n.name ≠ e.name) ↔ ∀ n ∈ c.nodes, n.name ≠ e.name)) :
    c'.completeExternals N = c.completeExternals N := by
  simp only [completeExternals, discovered, allExtOutbounds, he, hcred, List.filter_filter]
  refine List.filter_congr fun e hmem => ?_
  rw [Bool.eq_iff_iff, Bool.and_eq_true, Bool.and_eq_true, isDiscovered_iff, isDiscovered_iff]
  refine and_congr_right fun hreq => and_congr_right fun _ => and_congr_left fun hgate => ?_
  exact h e (mem_sortOn.1 hmem) hgate hreq

theorem discovered_of_names (hn : c'.allNodes.map SingBoxNode.name = c.allNodes.map SingBoxNode.name)
    (he : c'.externalOutbounds = c.externalOutbounds) : c'.discovered N = c.discovered N := by
  simp only [discovered, allExtOutbounds, hn, he]

/-- Selectors look at the labels as well, and nothing at the status. -/
def face (n : SingBoxNode) : ObjectMeta × SingBoxNodeSpec := (n.metadata, n.spec)

theorem findOutboundNode_face {nodes nodes' : List SingBoxNode} (h : nodes'.map face = nodes.map face) (name : String) :
    (findOutboundNode nodes' name).map face = (findOutboundNode nodes name).map face := by
  have hfind : ∀ l : List SingBoxNode, (findOutboundNode l name).map face =
      (l.map face).find? fun x => x.1.name = name && decide (.outbound ∈ x.2.roles) := by
    intro l
    rw [List.find?_map]
    rfl
  rw [hfind, hfind, h]

theorem egressConnectedToInbound_face {nodes nodes' : List SingBoxNode} (h : nodes'.map face = nodes.map face)
    (name : String) (outbounds : List ExternalOutbound) :
    egressConnectedToInbound N name nodes' outbounds = egressConnectedToInbound N name nodes outbounds := by
  have hface := findOutboundNode_face h name
  unfold egressConnectedToInbound
  cases h' : findOutboundNode nodes' name with
  | none =>
    rw [h', Option.map_none, eq_comm, Option.map_eq_none_iff] at hface
    rw [hface]
  | some n' =>
    rw [h', Option.map_some, eq_comm, Option.map_eq_some_iff] at hface
    obtain ⟨n, hn, hnn⟩ := hface
    obtain ⟨hm, hs⟩ := Prod.mk.inj hnn
    have hname : n.name = n'.name := congrArg ObjectMeta.name hm
    rw [hn]
    dsimp only
    rw [hname, hs]

theorem map_face_allNodes (hf : c'.nodes.map face = c.nodes.map face) : c'.allNodes.map face = c.allNodes.map face :=
  map_allNodes (fun x : ObjectMeta × SingBoxNodeSpec => x.1.name) (fun _ => rfl) hf

section
variable [Library] (hf : c'.nodes.map face = c.nodes.map face) (he : c'.externalOutbounds = c.externalOutbounds)

theorem resolveEgressPolicy_face {nodes nodes' : List SingBoxNode} (h : nodes'.map face = nodes.map face)
    (p : EgressPolicy) (outbounds : List ExternalOutbound) :
    resolveEgressPolicy p nodes' outbounds = resolveEgressPolicy p nodes outbounds := by
  have hcand : egressCandidates p nodes' outbounds = egressCandidates p nodes outbounds := by
    have hnodes : ∀ l : List SingBoxNode, (l.filterMap fun n =>
        if n.hasRole .outbound && p.spec.egressSelector.matches n.metadata then some n.name else none) =
        (l.map face).filterMap fun x =>
          if decide (.outbound ∈ x.2.roles) && p.spec.egressSelector.matches x.1 then some x.1.name else none := by
      intro l
      rw [List.filterMap_map]
      rfl
    rw [egressCandidates, egressCandidates, hnodes, hnodes, h]
  simp only [resolveEgressPolicy, hcand]

include hf he

theorem egress_face : c'.egress = c.egress := by
  funext p
  simp only [egress, egressOf, resolveEgressPolicy_face (map_face_allNodes hf), allExtOutbounds, he]

theorem kept_face (hp : c'.policies = c.policies) : c'.kept N = c.kept N := by
  have hall := map_face_allNodes hf
  have hext : c'.allExtOutbounds = c.allExtOutbounds := by simp only [allExtOutbounds, he]
  rw [kept, kept, hp, hext]
  refine List.filter_congr fun p _ => ?_
  unfold policyApplies egressOf
  rw [resolveEgressPolicy_face hall, egressConnectedToInbound_face hall]

theorem nodeTarget_face (p : EgressPolicy) : (c'.nodeTarget p).map face = (c.nodeTarget p).map face := by
  unfold nodeTarget
  cases p.spec.action with
  | reject => rfl
  | route => simp only [egress_face hf he, findOutboundNode_face (map_face_allNodes hf)]

theorem externalTarget_face (p : EgressPolicy) : c'.externalTarget p = c.externalTarget p := by
  unfold externalTarget
  cases p.spec.action with
  | reject => rfl
  | route =>
    have hface := findOutboundNode_face (map_face_allNodes hf) (c.egress p)
    simp only [egress_face hf he, allExtOutbounds, he]
    cases h' : findOutboundNode c'.allNodes (c.egress p) <;> cases h : findOutboundNode c.allNodes (c.egress p) <;>
      simp [h', h] at hface ⊢

theorem egressName_face (p : EgressPolicy) : c'.egressName p = c.egressName p := by
  have hface := nodeTarget_face hf he p
  have hfresh : c'.fresh p = c.fresh p := by
    unfold fresh
    rw [egress_face hf he]
    cases h' : c'.nodeTarget p <;> cases h : c.nodeTarget p <;> simp [h', h, face] at hface ⊢
    simp only [hface.1]
  simp only [egressName, hfresh]

theorem visibleNodes_face (hp : c'.policies = c.policies) :
    (c'.visibleNodes N).map face = (c.visibleNodes N).map face := by
  have hpeers : (c'.peers N).map face = (c.peers N).map face :=
    map_filter_congr (fun x : ObjectMeta × SingBoxNodeSpec => isPeerCore N (x.1.name, x.2)) (fun _ => rfl)
      (map_face_allNodes hf)
  rw [visibleNodes, visibleNodes, List.map_append, List.map_append, hpeers, kept_face hf he hp, List.map_filterMap,
    List.map_filterMap]
  congr 1
  exact List.filterMap_congr fun p _ => nodeTarget_face hf he p

theorem visibleExternals_face (hp : c'.policies = c.policies) : c'.visibleExternals N = c.visibleExternals N := by
  have hnames : c'.allNodes.map SingBoxNode.name = c.allNodes.map SingBoxNode.name := by
    have h := congrArg (List.map fun x => x.1.name) (map_face_allNodes hf)
    rwa [List.map_map, List.map_map] at h
  rw [visibleExternals, visibleExternals, discovered_of_names hnames he, kept_face hf he hp]
  congr 1
  exact List.filterMap_congr fun p _ => externalTarget_face hf he p

omit hf he in
theorem Renders.of_face [MapOrder] (hv : (c'.visibleNodes N).map face = (c.visibleNodes N).map face)
    (hx : c'.visibleExternals N = c.visibleExternals N) (hn : c'.nodeCred = c.nodeCred)
    (he : c'.externalCred = c.externalCred) {t : String} {o : Outbound} (h : c.Renders N t o) : c'.Renders N t o := by
  rcases h with ⟨n, hmem, rfl, hport, rfl⟩ | ⟨e, hmem, rfl, hreq, rfl⟩
  · obtain ⟨n', hmem', hface⟩ := List.mem_map.1 (hv ▸ List.mem_map_of_mem hmem : face n ∈ (c'.visibleNodes N).map face)
    obtain ⟨hm, hs⟩ := Prod.mk.inj hface
    have hname : n'.name = n.name := congrArg ObjectMeta.name hm
    refine .inl ⟨n', hmem', hname, hs ▸ hport, ?_⟩
    simp only [relayEntry, hname, hs, hn]
  · exact .inr ⟨e, hx ▸ hmem, rfl, he ▸ hreq, by simp only [externalEntry, he]⟩

end

/-- The status of other nodes is not read. -/
theorem LooksAlike.of_face [Library] [MapOrder] (hns : c'.ns = c.ns) (hs : c'.secret = c.secret)
    (hu : c'.users = c.users) (hg : c'.userGroup = c.userGroup) (he : c'.externalOutbounds = c.externalOutbounds)
    (hp : c'.policies = c.policies) (hf : c'.nodes.map face = c.nodes.map face) : c.LooksAlike c' N := by
  have hnode := nodeCred_congr hns hs
  have hext := externalCred_congr hns hs
  have hcore : c'.nodes.map core = c.nodes.map core := by
    have h := congrArg (List.map fun x => (x.1.name, x.2)) hf
    rwa [List.map_map, List.map_map] at h
  have hvis := visibleNodes_face hf he hp (N := N)
  have hvis' := visibleExternals_face hf he hp (N := N)
  exact {
    users := by simp only [servedUsers, allUsers, hu]
    entries := sameEntries_of_userCred (userCred_congr hns hs)
    groupOf := fun u _ => by simp only [Cluster.groupOf, hg]
    ownCred := fun _ => by rw [hnode]
    noPeers := noPeers_of_core (map_core_peers hcore)
    relayEntries := relayEntries_of_core hnode (map_core_peers hcore)
    externalEntries := by
      have hnames : c'.allNodes.map SingBoxNode.name = c.allNodes.map SingBoxNode.name := by
        have h := congrArg (List.map Prod.fst) (map_allNodes Prod.fst (fun _ => rfl) hcore)
        rwa [List.map_map, List.map_map] at h
      have hentry : c'.externalEntry = c.externalEntry := by
        funext e
        simp only [externalEntry, hext]
      simp only [Cluster.externalEntries, completeExternals, discovered_of_names hnames he, hext, hentry]
    kept := kept_face hf he hp
    egressName := fun p _ _ => egressName_face hf he p
    renders := fun p _ _ o =>
      ⟨.of_face hvis.symm hvis'.symm hnode.symm hext.symm, .of_face hvis hvis' hnode hext⟩ }

end Nodes

section Externals
variable [MapOrder]

/-- An ExternalOutbound is rendered from its name and its spec. -/
def unlabeled (e : ExternalOutbound) : ExternalOutbound := { e with metadata := { e.metadata with labels := ∅ } }

theorem externalEntries_of_unlabeled (hn : c'.nodes = c.nodes) (hcred : c'.externalCred = c.externalCred)
    (h : c'.externalOutbounds.map unlabeled = c.externalOutbounds.map unlabeled) :
    c'.externalEntries N = c.externalEntries N := by
  have hname : ∀ e, (unlabeled e).name = e.name := fun _ => rfl
  have hsort : ∀ l : List ExternalOutbound, (sortOn ExternalOutbound.name l).map unlabeled =
      sortOn ExternalOutbound.name (l.map unlabeled) := fun l => (sortOn_map fun e _ => hname e).symm
  have hall : c'.allExtOutbounds.map unlabeled = c.allExtOutbounds.map unlabeled := by
    rw [allExtOutbounds, allExtOutbounds, hsort, hsort, h]
  have hdisc : (c'.discovered N).map unlabeled = (c.discovered N).map unlabeled := by
    simp only [discovered, allNodes, hn]
    exact map_filter_congr (isDiscovered N (N.name :: (sortOn SingBoxNode.name c.nodes).map SingBoxNode.name))
      (fun _ => rfl) hall
  have hcomplete : (c'.completeExternals N).map unlabeled = (c.completeExternals N).map unlabeled := by
    simp only [completeExternals, hcred]
    exact map_filter_congr (fun e => hasRequiredExternalCreds e (c.externalCred e)) (fun _ => rfl) hdisc
  have hentry : ∀ c : Cluster, c.externalEntry = c.externalEntry ∘ unlabeled := fun _ => rfl
  have hsame : c'.externalEntry = c.externalEntry := by
    funext e
    simp only [externalEntry, hcred]
  rw [externalEntries, externalEntries, hsame, hentry c, ← List.map_map, ← List.map_map, hcomplete]

end Externals

end Cluster

end SingboxOperator
