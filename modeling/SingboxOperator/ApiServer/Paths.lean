import SingboxOperator.ApiServer.ClientConfig
import SingboxOperator.Controller.Credentials
/-!
# Advertised paths and the nodes that serve them

A client config is built by the API server, the configs of the nodes on its
paths by the controller. `mem_proxies` says which paths a client is given, in
terms of the cluster; the theorems after it compare them with what the entry
node, and the node it relays to, make of the same cluster.
-/
open SingboxOperator.Lib

namespace SingboxOperator

/-! ## Entry endpoints -/

theorem Protocol.name_inj {p q : Protocol} : p.name = q.name ↔ p = q := by
  refine ⟨fun h => ?_, fun h => h ▸ rfl⟩
  revert h
  cases p <;> cases q <;> decide

theorem Protocol.colon_notMem_name (p : Protocol) : ':' ∉ p.name.toList := by
  cases p <;> decide

theorem parseEndpoint_entry (protocol : Protocol) (p : ProtocolConfig) (address : String) :
    parseEndpoint protocol (p.protocol.name ++ ":" ++ address ++ ":" ++ Nat.repr p.port) =
      if ':' ∉ address.toList ∧ p.protocol = protocol then some (address, (p.port : Int)) else none := by
  have htext : (p.protocol.name ++ ":" ++ address ++ ":" ++ Nat.repr p.port).toList =
      p.protocol.name.toList ++ ':' :: (address.toList ++ ':' :: Nat.toDigits 10 p.port) := by
    simp [String.toList_append, Nat.repr]
  unfold parseEndpoint
  rw [htext, splitN_append_cons p.protocol.colon_notMem_name]
  by_cases hc : ':' ∈ address.toList
  · -- the part read as the port starts inside the address and has a colon
    obtain ⟨a, b, hab, ha⟩ := List.eq_append_cons_of_mem hc
    have hport : atoi (b ++ ':' :: Nat.toDigits 10 p.port) = none :=
      atoi_of_mem (List.mem_append_right _ List.mem_cons_self) (by decide) (by decide) (by decide)
    rw [hab, List.append_assoc, List.cons_append, splitN_append_cons ha]
    simp [splitN, hport]
  · have hport : atoi (Nat.toDigits 10 p.port) = some (p.port : Int) := by
      refine atoi_toDigits ?_
      have := p.port_le
      omega
    rw [splitN_append_cons hc]
    simp [splitN, hc, hport, Protocol.name_inj]

/-- A fresh endpoint is the node's address and the port its client inbound listens on. -/
theorem findEntryEndpoint_fresh {I : SingBoxNode} {protocol : Protocol} {address : String} {port : Int}
    (h : findEntryEndpoint (entryEndpoints I) protocol = some (address, port)) :
    address = I.spec.address ∧ port = findProtocolPort I protocol := by
  unfold findEntryEndpoint entryEndpoints at h
  unfold findProtocolPort
  generalize I.spec.supportedProtocols = ps at h ⊢
  induction ps with
  | nil => cases h
  | cons p ps ih =>
    rw [List.map_cons, List.findSome?_cons, parseEndpoint_entry] at h
    by_cases hp : p.protocol = protocol
    · by_cases hc : ':' ∈ I.spec.address.toList
      · -- no endpoint of such an address can be parsed
        have hnone : (ps.map fun p => p.protocol.name ++ ":" ++ I.spec.address ++ ":" ++ Nat.repr p.port).findSome?
            (parseEndpoint protocol) = none := by
          simp [List.findSome?_eq_none_iff, parseEndpoint_entry, hc]
        simp [hc, hnone] at h
      · simp only [hc, hp, not_false_eq_true, and_self, if_true, Option.some.injEq, Prod.mk.injEq] at h
        simp [hp, h.1, h.2]
    · simp only [hp, and_false, if_false] at h
      simpa [hp] using ih h

theorem supportsProtocol_iff {I : SingBoxNode} {protocol : Protocol} :
    supportsProtocol I protocol = true ↔ findProtocolPort I protocol ≠ 0 := by
  unfold supportsProtocol findProtocolPort
  cases h : I.spec.supportedProtocols.find? fun p => p.protocol = protocol with
  | none =>
    have := List.find?_eq_none.1 h
    simpa using this
  | some p =>
    have hpos := p.port_pos
    have hp := List.find?_some h
    have hm := List.mem_of_find?_eq_some h
    simp only [List.any_eq_true, Option.map_some, Option.getD_some]
    exact ⟨fun _ => by omega, fun _ => ⟨p, hm, hp⟩⟩

/-! ## Tags -/

/-- The two names can be read off a tag. -/
theorem pathTag_inj {t t' i i' : String} (hi : '#' ∉ i.toList) (hi' : '#' ∉ i'.toList)
    (h : pathTag t i = pathTag t' i') : t = t' ∧ i = i' := by
  have hmem : ∀ a b : String, '#' ∈ (a ++ "#" ++ b).toList := by simp [String.toList_append]
  unfold pathTag at h
  split at h <;> split at h
  · rename_i h1 h2
    exact ⟨h, h1.symm.trans (h.trans h2)⟩
  · rename_i h1 _
    exact absurd (h ▸ hmem t' i') (h1 ▸ hi)
  · rename_i _ h2
    exact absurd (h ▸ hmem t i) (h2 ▸ hi')
  · have h' := congrArg String.toList h
    simp only [String.toList_append, List.append_assoc] at h'
    obtain ⟨h1, h2⟩ := (append_cons_inj_last hi hi').1 h'
    exact ⟨String.toList_inj.1 h1, String.toList_inj.1 h2⟩

/-! ## What the handler reads -/

theorem Cluster.listOrFail_ok {α : Type} {c : Cluster} {kind : Kind} {items l : List α}
    (h : c.listOrFail kind items = .ok l) : l = items := by
  unfold listOrFail at h
  split at h
  · cases h
  · exact (Except.ok.inj h).symm

/-- The handler and the controller read the same restrictions. -/
theorem groupNames_allowed {c : Cluster} {u : User} {allowed denied : NameSet}
    (h : groupNames c u = .ok (allowed, denied)) (t : String) : isNodeAllowed t allowed denied = c.mayUse u t := by
  have hempty : ∀ s : NameSet, isNodeAllowed t ((if s.len > 0 then some s else none).getD ∅) denied =
      isNodeAllowed t s denied := by
    intro s
    by_cases hs : s.len > 0
    · simp [hs]
    · have h0 : s.len = 0 := by omega
      have h1 : (∅ : NameSet).len = 0 := rfl
      simp [isNodeAllowed, h0, h1]
  unfold groupNames at h
  unfold Cluster.mayUse Cluster.allowedSet Cluster.deniedSet Cluster.groupOf
  by_cases hr : u.spec.userGroupRef = ""
  · simp only [hr, if_true, Except.ok.injEq, Prod.mk.injEq] at h
    simp [hr, ← h.1, ← h.2]
  · cases hg : c.userGroup u.spec.userGroupRef with
    | error e =>
      by_cases hn : e.notFound = true
      · simp only [hr, hg, hn, if_true, if_false, Except.ok.injEq, Prod.mk.injEq] at h
        simp [hr, Except.toOption, ← h.1, ← h.2]
      · simp [hr, hg, hn] at h
    | ok ug =>
      simp only [hr, hg, if_false, Except.ok.injEq, Prod.mk.injEq] at h
      simp only [hr, if_false, Except.toOption, Option.bind_some, Option.map_some, Option.getD_some, ← h.1]
      rw [h.2]
      exact (hempty _).symm

section
variable {c : Cluster} {u : User} {cred : UserCredential} {cin : ClientConfigInput}

/-- The parts of the handler's input that decide about paths. -/
structure ReadsCluster (c : Cluster) (u : User) (cred : UserCredential) (cin : ClientConfigInput) : Prop where
  user : cin.user = u
  userCred : cin.userCred = cred
  inbound : ∀ {n}, n ∈ cin.inboundNodes ↔ n ∈ c.nodes ∧ n.hasRole .inbound = true
  outbound : ∀ {k n}, cin.outboundsByName.lookup k = some n ↔
    (n ∈ c.nodes ∧ n.hasRole .outbound = true) ∧ n.name = k
  external : ∀ {k e}, cin.externalOutboundsByName.lookup k = some e ↔ e ∈ c.externalOutbounds ∧ e.name = k
  routes : cin.routesByInbound = ∅
  allowed : ∀ t, isNodeAllowed t cin.allowedNodeNames cin.deniedNodeNames = c.mayUse u t

/-- When every list is read, the handler's input is what the cluster has. -/
theorem clientConfigInput_ok [Library] (h : clientConfigInput c u cred = .ok cin) :
    ∃ allowed denied, groupNames c u = .ok (allowed, denied) ∧
      cin =
        { user := u
          egressPolicies := c.policies
          userCred := cred
          inboundNodes := c.nodes.filter fun n => n.hasRole .inbound
          outboundsByName := GoMap.assignAll SingBoxNode.name id ∅ (c.nodes.filter fun n => n.hasRole .outbound)
          externalOutboundsByName := GoMap.assignAll ExternalOutbound.name id ∅ c.externalOutbounds
          offlineNodeNames := nameSet ((c.nodes.filter fun n => !isSingBoxNodeReady n).map SingBoxNode.name)
          allowedNodeNames := allowed
          deniedNodeNames := denied
          policyOnlyEgressNames := policyOnlyEgresses c.policies c.nodes c.externalOutbounds } := by
  unfold clientConfigInput at h
  obtain ⟨nodes, h1, h⟩ := Except.bind_ok h
  obtain ⟨outbounds, h2, h⟩ := Except.bind_ok h
  obtain ⟨policies, h3, h⟩ := Except.bind_ok h
  obtain ⟨⟨allowed, denied⟩, h4, h⟩ := Except.bind_ok h
  obtain rfl := Cluster.listOrFail_ok h1
  obtain rfl := Cluster.listOrFail_ok h2
  obtain rfl := Cluster.listOrFail_ok h3
  exact ⟨allowed, denied, h4, (Except.ok.inj h).symm⟩

theorem clientConfigInput_reads [Library] (h : clientConfigInput c u cred = .ok cin) : ReadsCluster c u cred cin := by
  obtain ⟨allowed, denied, hgroups, rfl⟩ := clientConfigInput_ok h
  refine ⟨rfl, rfl, List.mem_filter, fun {k n} => ?_, fun {k e} => ?_, rfl, groupNames_allowed hgroups⟩
  · refine (GoMap.lookup_assignAll_iff _ fun _ hy _ hz => ?_).trans (and_congr_left fun _ => List.mem_filter)
    exact Cluster.node_unique (List.mem_filter.1 hy).1 (List.mem_filter.1 hz).1
  · exact GoMap.lookup_assignAll_iff _ fun _ hy _ hz => Cluster.external_unique hy hz

/-! ## Which paths are advertised -/

/-- The target behind an entry node: a relay, the node itself, or an external
outbound that no outbound node hides. -/
def Cluster.Offers (c : Cluster) (I : SingBoxNode) (t : String) : Prop :=
  (∃ n ∈ c.nodes, n.hasRole .outbound = true ∧ n.name = t ∧ n.spec.relayPort ≠ 0 ∧ n.spec.region = I.spec.region ∧
    admits n.spec.allowedInbounds I.name = true) ∨
  (I.hasRole .outbound = true ∧ I.name = t) ∨
  ∃ e ∈ c.externalOutbounds, e.name = t ∧ e.spec.region ≠ "" ∧ e.spec.region = I.spec.region ∧
    (∀ n ∈ c.nodes, n.name = t → n.hasRole .outbound = false) ∧ admits e.spec.allowedInbounds I.name = true

theorem ReadsCluster.selectable (hc : ReadsCluster c u cred cin) {I : SingBoxNode} {t : String}
    (h : isSelectable cin I t = true) : c.mayUse u t = true ∧ admits I.spec.allowedOutbounds t = true := by
  simp only [isSelectable, Bool.and_eq_true] at h
  exact ⟨(hc.allowed t).symm.trans h.1.2, h.2⟩

theorem ReadsCluster.nodeRef (hc : ReadsCluster c u cred cin) {I n : SingBoxNode} {ref : OutboundRef}
    (hn : n ∈ c.nodes ∧ n.hasRole .outbound = true) (h : nodeRef cin I n = some ref) :
    c.Offers I ref.name ∧ c.mayUse u ref.name = true ∧ admits I.spec.allowedOutbounds ref.name = true := by
  unfold SingboxOperator.nodeRef at h
  split at h
  · rename_i hcond
    obtain rfl := Option.some.inj h
    simp only [Bool.and_eq_true, decide_eq_true_eq] at hcond
    obtain ⟨⟨⟨⟨hport, hreg⟩, _⟩, hsel⟩, hadm⟩ := hcond
    exact ⟨.inl ⟨n, hn.1, hn.2, rfl, hport, hreg, hadm⟩, hc.selectable hsel⟩
  · cases h

theorem ReadsCluster.selfRef (hc : ReadsCluster c u cred cin) {I : SingBoxNode} {ref : OutboundRef}
    (h : selfRef cin I = some ref) :
    c.Offers I ref.name ∧ c.mayUse u ref.name = true ∧ admits I.spec.allowedOutbounds ref.name = true := by
  unfold SingboxOperator.selfRef at h
  split at h
  · rename_i hcond
    obtain rfl := Option.some.inj h
    simp only [Bool.and_eq_true] at hcond
    exact ⟨.inr (.inl ⟨hcond.1.1, rfl⟩), hc.selectable hcond.2⟩
  · cases h

theorem ReadsCluster.externalRef (hc : ReadsCluster c u cred cin) {I : SingBoxNode} {e : ExternalOutbound}
    {ref : OutboundRef} (he : e ∈ c.externalOutbounds) (hreg : e.spec.region ≠ "")
    (h : externalRef cin I e = some ref) :
    c.Offers I ref.name ∧ c.mayUse u ref.name = true ∧ admits I.spec.allowedOutbounds ref.name = true := by
  unfold SingboxOperator.externalRef at h
  split at h
  · rename_i hcond
    obtain rfl := Option.some.inj h
    simp only [Bool.and_eq_true, decide_eq_true_eq, Option.isNone_iff_eq_none] at hcond
    obtain ⟨⟨⟨hsame, hnone⟩, hsel⟩, hadm⟩ := hcond
    have hno : ∀ n ∈ c.nodes, n.name = e.name → n.hasRole .outbound = false := by
      intro n hn hname
      by_contra hr
      rw [Bool.not_eq_false] at hr
      rw [hc.outbound.2 ⟨⟨hn, hr⟩, hname⟩] at hnone
      cases hnone
    exact ⟨.inr (.inr ⟨e, he, rfl, hreg, hsame, hno, hadm⟩), hc.selectable hsel⟩
  · cases h

variable [MapOrder]

theorem ReadsCluster.resolved (hc : ReadsCluster c u cred cin) {I : SingBoxNode} (hI : I ∈ c.nodes)
    (hi : I.hasRole .inbound = true) {ref : OutboundRef} (h : ref ∈ resolveOutboundNodes cin I.name) :
    c.Offers I ref.name ∧ c.mayUse u ref.name = true ∧ admits I.spec.allowedOutbounds ref.name = true := by
  have hfind : cin.inboundNodes.find? (fun n => n.name = I.name) = some I :=
    find?_eq_some_of_unique (hc.inbound.2 ⟨hI, hi⟩) (by simp) fun n hn hname =>
      Cluster.node_unique (hc.inbound.1 hn).1 hI (by simpa using hname)
  have hroutes : (∅ : GoMap String (List CustomRoute)).get I.name [] = [] := rfl
  simp only [resolveOutboundNodes, hfind, hc.routes, hroutes, List.filterMap_nil, List.append_nil, mem_sortOn] at h
  -- the handler leaves the routes empty: peers, the node itself, external outbounds
  rcases List.mem_append.1 (mem_of_mem_firstBy h) with h | h
  · rcases List.mem_append.1 h with h | h
    · obtain ⟨⟨k, n⟩, hn, href⟩ := List.mem_filterMap.1 h
      exact hc.nodeRef (hc.outbound.1 (mem_range.1 hn)).1 href
    · exact hc.selfRef (Option.mem_toList.1 h)
  · obtain ⟨⟨k, e⟩, he, href⟩ := List.mem_filterMap.1 h
    by_cases hreg : e.spec.region = ""
    · simp [hreg] at href
    · simp only [ne_eq, hreg, not_false_eq_true, if_true] at href
      exact hc.externalRef (hc.external.1 (mem_range.1 he)).1 hreg href

theorem ReadsCluster.reserve (hc : ReadsCluster c u cred cin) (targets : NameSet) :
    ReadsCluster c u cred (reserveTargets cin targets) :=
  ⟨hc.user, hc.userCred, hc.inbound, hc.outbound, hc.external, hc.routes, hc.allowed⟩

variable [Library]

/-- Every proxy outbound of a client goes over an entry node to a target it offers. -/
theorem mem_proxies {obs : List ClientOutbound} (hin : clientConfigInput c u cred = .ok cin)
    (hb : buildClientConfig cin = .ok obs) {ob : ProxyOutbound} (hob : .proxy ob ∈ obs) :
    ∃ I ∈ c.nodes, I.hasRole .inbound = true ∧ findProtocolPort I (effectiveInboundProtocol I) ≠ 0 ∧
      ∃ t address port, c.Offers I t ∧ c.mayUse u t = true ∧ admits I.spec.allowedOutbounds t = true ∧
        findEntryEndpoint I.status.entryEndpoints (effectiveInboundProtocol I) = some (address, port) ∧
        ob = buildProxyOutbound (pathTag t I.name) address port (effectiveInboundProtocol I) u.name t
          I.status.tlsServerName cred := by
  unfold buildClientConfig at hb
  obtain ⟨⟨_, targets⟩, _, hb⟩ := Except.bind_ok hb
  obtain rfl := Except.ok.inj hb
  have hc := (clientConfigInput_reads hin).reserve targets
  -- selectors and `direct` are no proxies
  have hpath : ∃ path ∈ emittedPaths (reserveTargets cin targets), path.outbound = ob := by
    simpa [buildSelectors] using hob
  obtain ⟨path, hpath, rfl⟩ := hpath
  obtain ⟨I, hI, hpath⟩ := List.mem_flatMap.1 (List.mem_filter.1 hpath).1
  obtain ⟨hIn, hi⟩ := hc.inbound.1 hI
  unfold entryPaths at hpath
  dsimp only at hpath
  split at hpath
  · cases hpath
  · rename_i hskip
    simp only [Bool.or_eq_true, Bool.not_eq_true', not_or, Bool.not_eq_false] at hskip
    split at hpath
    · cases hpath
    · rename_i address port hep
      obtain ⟨ref, href, rfl⟩ := List.mem_map.1 hpath
      obtain ⟨hoff, hmay, hadm⟩ := hc.resolved hIn hi href
      refine ⟨I, hIn, hi, supportsProtocol_iff.1 hskip.2, ref.name, address, port, hoff, hmay, hadm, hep, ?_⟩
      rw [hc.user, hc.userCred]

omit [MapOrder] [Library] in
theorem matchUser_eq_some {requestUUID : String} (h : matchUser c requestUUID = some (u, cred)) :
    u ∈ c.users ∧ getUserCredential c u = .ok cred := by
  obtain ⟨v, hv, hm⟩ := List.exists_of_findSome?_eq_some h
  cases hc : getUserCredential c v with
  | error e => simp [hc] at hm
  | ok cred' =>
    simp only [hc, Option.ite_none_right_eq_some, Option.some.injEq, Prod.mk.injEq] at hm
    obtain ⟨_, rfl, rfl⟩ := hm
    exact ⟨hv, hc⟩

/-- A request that is answered is answered with what `buildClientConfig` makes for its user. -/
theorem handleClientConfig_ok {requestUUID : String} {obs : List ClientOutbound}
    (hm : matchUser c requestUUID = some (u, cred)) (h : handleClientConfig c requestUUID = .ok obs) :
    ∃ cin, clientConfigInput c u cred = .ok cin ∧ buildClientConfig cin = .ok obs := by
  unfold handleClientConfig at h
  split at h
  · cases h
  · obtain ⟨_, _, h⟩ := Except.bind_ok h
    simp only [hm] at h
    obtain ⟨cin, hin, h⟩ := Except.bind_ok h
    refine ⟨cin, hin, ?_⟩
    split at h
    · cases h
    · rename_i hb
      rw [hb, Except.ok.inj h]

/-- The entry node and the target of a proxy outbound are those its tag names. -/
theorem proxy_path {obs : List ClientOutbound} (hin : clientConfigInput c u cred = .ok cin)
    (hb : buildClientConfig cin = .ok obs) {ob : ProxyOutbound} (hob : .proxy ob ∈ obs) {I : SingBoxNode}
    (hI : I ∈ c.nodes) {t : String} (htag : ob.tag = pathTag t I.name) :
    I.hasRole .inbound = true ∧ findProtocolPort I (effectiveInboundProtocol I) ≠ 0 ∧ c.Offers I t ∧
      c.mayUse u t = true ∧ admits I.spec.allowedOutbounds t = true ∧
      ∃ address port,
        findEntryEndpoint I.status.entryEndpoints (effectiveInboundProtocol I) = some (address, port) ∧
        ob = buildProxyOutbound (pathTag t I.name) address port (effectiveInboundProtocol I) u.name t
          I.status.tlsServerName cred := by
  obtain ⟨J, hJ, hi, hport, t', address, port, hoff, hmay, hadm, hep, rfl⟩ := mem_proxies hin hb hob
  obtain ⟨rfl, hname⟩ := pathTag_inj J.metadata.hash_notMem I.metadata.hash_notMem htag
  obtain rfl := Cluster.node_unique hJ hI hname
  exact ⟨hi, hport, hoff, hmay, hadm, address, port, hep, rfl⟩

end

/-! ## The entry node's side -/

namespace Cluster
variable {c : Cluster} {I : SingBoxNode}

/-- A node that is offered is the entry node itself or a peer it can relay to. -/
theorem Offers.node (hI : I ∈ c.nodes) {T : SingBoxNode} (hT : T ∈ c.nodes) (ho : T.hasRole .outbound = true)
    (h : c.Offers I T.name) (hadm : admits I.spec.allowedOutbounds T.name = true) :
    T = I ∨ T ∈ c.peers I ∧ T.spec.relayPort ≠ 0 := by
  by_cases hself : T.name = I.name
  · exact .inl (node_unique hT hI hself)
  · right
    rcases h with ⟨n, hn, _, hname, hport, hreg, hin⟩ | ⟨_, hname⟩ | ⟨e, _, _, _, _, hno, _⟩
    · obtain rfl := node_unique hn hT hname
      exact ⟨mem_peers.2 ⟨hT, by simp [isPeer, hself, hreg, ho, hin, hadm]⟩, hport⟩
    · exact absurd hname.symm hself
    · simp [hno T hT rfl] at ho

/-- An external outbound that is offered has passed the gate of the entry node. -/
theorem Offers.external (hI : I ∈ c.nodes) {E : ExternalOutbound} (hE : E ∈ c.externalOutbounds)
    (hno : ∀ n ∈ c.nodes, n.name = E.name → n.hasRole .outbound = false) (h : c.Offers I E.name)
    (hadm : admits I.spec.allowedOutbounds E.name = true) : I.PassesGate E := by
  rcases h with ⟨n, hn, hr, hname, _⟩ | ⟨hr, hname⟩ | ⟨e, he, hname, hne, hreg, _, hin⟩
  · simp [hno n hn hname] at hr
  · simp [hno I hI hname] at hr
  · obtain rfl := external_unique he hE hname
    exact ⟨hne, hreg, hin, hadm⟩

variable [Library] [MapOrder] {flags : Flags} {u : User} {t : String}

/-- A user that may use a target of an inbound node has an entry for it. -/
theorem virtualEntry_mem (hi : I.hasRole .inbound = true) (hp : findProtocolPort I (effectiveInboundProtocol I) ≠ 0)
    (ht : c.Target I t) (hu : u ∈ c.users) (hmay : c.mayUse u t = true) :
    ∃ users, c.virtualEntry I t u ∈ users ∧
      buildInboundEntry (effectiveInboundProtocol I) (inboundTag I) (findProtocolPort I (effectiveInboundProtocol I))
        users ∈ (computeConfig (c.view flags I)).inbounds := by
  have he : c.virtualEntry I t u ∈ clientUsers (c.view flags I) :=
    (mem_clientUsers_view hi).2 (.inl ⟨t, ht, u, hu, hmay, rfl⟩)
  exact ⟨_, he, mem_inbounds_view.2 (.inl ⟨hi, hp, List.ne_nil_of_mem he, rfl⟩)⟩

theorem virtualRule_mem (hi : I.hasRole .inbound = true) (ht : c.Target I t) (hu : u ∈ c.users)
    (hmay : c.mayUse u t = true) :
    ∃ names, virtualUserName u.name t ∈ names ∧
      { authUser := names, outbound := outboundTag t } ∈ (computeConfig (c.view flags I)).route.rules := by
  have hu' : u ∈ c.servedUsers I := mem_servedUsers.2 ⟨hi, hu⟩
  have hallow : (c.view flags I).allows u t = true := (view_allows hu' t).trans hmay
  refine ⟨policyAuthUsers (c.view flags I) t, mem_policyAuthUsers.2 ⟨u, hu', hallow, rfl⟩, ?_⟩
  rw [computeConfig_rules, node_view, if_pos hi]
  exact List.mem_append_right _ (mem_targetRules.2 ⟨t, mem_targets_view.2 ht, ⟨u, hu', hallow⟩, rfl⟩)

/-! ## Paths to nodes -/

/-- The entry of a node's own exit, or of the relay to a peer. -/
theorem Offers.node_outbound (hI : I ∈ c.nodes) (hi : I.hasRole .inbound = true) {T : SingBoxNode} (hT : T ∈ c.nodes)
    (ho : T.hasRole .outbound = true) (h : c.Offers I T.name) (hadm : admits I.spec.allowedOutbounds T.name = true) :
    c.Target I T.name ∧ ∃ o ∈ (computeConfig (c.view flags I)).outbounds, o.tag = outboundTag T.name ∧
      (T.name ≠ I.name → o = c.relayEntry T ∧ T.spec.relayPort ≠ 0) := by
  rcases h.node hI hT ho hadm with rfl | ⟨hpeer, hport⟩
  · obtain ⟨o, hm, htag⟩ := exists_outbound_view.2 ⟨hi, .inr ⟨ho, hadm, rfl⟩⟩
    exact ⟨.inr ⟨hi, ho, rfl⟩, o, hm, htag, fun hne => absurd rfl hne⟩
  · have hru : c.Reached I T.name ∧ c.Usable I T.name := ⟨.inl ⟨T, hpeer, rfl⟩, (usable_of_peer hpeer).2 hport⟩
    obtain ⟨o, hm, htag⟩ := exists_outbound_view.2 ⟨hi, .inl hru⟩
    refine ⟨.inl hru, o, hm, htag, fun hne => ⟨?_, hport⟩⟩
    rcases outbound_renders hm htag with (⟨n, hv, hname, _, rfl⟩ | ⟨e, hv, hname, _⟩) | ⟨_, hself, _⟩
    · rw [node_unique (visibleNodes_subset hv).1 hT hname]
    · exact absurd hname.symm (visibleExternals_ne hT ho hv)
    · exact absurd hself hne

end Cluster

/-! ## On what the handler and the controller return -/

/-- The entry node `I` and the node `T` it relays to serve the path of a proxy outbound. -/
def NodePathWorks (I T : SingBoxNode) (u : User) (ob : ProxyOutbound) (entry exit : SingboxConfig) : Prop :=
  ob.server = I.spec.address ∧
  (∃ ib ∈ entry.inbounds, ib.tag = inboundTag I ∧ ib.type = ob.type ∧ (ib.listenPort : Int) = ob.serverPort ∧
    ib.tls.map (·.enabled) = ob.tls.map (·.enabled) ∧
    ∃ e ∈ ib.users, e.label (effectiveInboundProtocol I) = some (virtualUserName u.name T.name) ∧
      e.username = ob.auth.username ∧ e.password = ob.auth.password ∧ e.uuid = ob.auth.uuid) ∧
  (∃ names, virtualUserName u.name T.name ∈ names ∧
    { authUser := names, outbound := outboundTag T.name } ∈ entry.route.rules) ∧
  ∃ o ∈ entry.outbounds, o.tag = outboundTag T.name ∧
    (T.name ≠ I.name → o.server = some T.spec.address ∧
      ∃ relay ∈ exit.inbounds, relay.tag = relayTag ∧ o.serverPort = some relay.listenPort ∧
        ∃ e, relay.users = [e] ∧ o.username = e.username ∧ o.password = e.password)

/-- The entry node `I` has the user, the rule and the outbound for the external outbound `E`. -/
def ExternalPathServed [MapOrder] (c : Cluster) (I : SingBoxNode) (E : ExternalOutbound) (u : User)
    (entry : SingboxConfig) : Prop :=
  (∃ ib ∈ entry.inbounds, ib.tag = inboundTag I ∧
    ∃ e ∈ ib.users, e.label (effectiveInboundProtocol I) = some (virtualUserName u.name E.name)) ∧
  (∃ names, virtualUserName u.name E.name ∈ names ∧
    { authUser := names, outbound := outboundTag E.name } ∈ entry.route.rules) ∧
  c.externalEntry E ∈ entry.outbounds

/-- Client and node derive the same credentials, and switch TLS on for the same protocols. -/
theorem buildProxyOutbound_agrees {c : Cluster} {I : SingBoxNode} {u : User} {cred : UserCredential}
    (hcred : getUserCredential c u = .ok cred) (tag address : String) (port : Nat) (t tlsServerName : String)
    (users : List UserEntry) :
    let proto := effectiveInboundProtocol I
    let ob := buildProxyOutbound tag address port proto u.name t tlsServerName cred
    let ib := buildInboundEntry proto (inboundTag I) port users
    let e := c.virtualEntry I t u
    ib.type = ob.type ∧ ib.tls.map (·.enabled) = ob.tls.map (·.enabled) ∧
      e.username = ob.auth.username ∧ e.password = ob.auth.password ∧ e.uuid = ob.auth.uuid := by
  have hc : c.userCred u = cred := by simp [Cluster.userCred, hcred, Except.toOption]
  refine ⟨rfl, ?_, ?_⟩
  · simp only [buildInboundEntry, buildProxyOutbound]
    split
    · by_cases hn : tlsServerName = "" <;> simp [hn]
    · rfl
  · simp only [Cluster.virtualEntry, hc, buildProxyOutbound, labelUser]
    by_cases hn : effectiveInboundProtocol I = .naive <;> simp [hn]

section
variable [Library] [MapOrder] {flags : Flags} {c : Cluster} {u : User} {cred : UserCredential}
  {cin : ClientConfigInput} {obs : List ClientOutbound} {ob : ProxyOutbound} {I : SingBoxNode}

theorem nodePathWorks_view (hu : u ∈ c.users) (hcred : getUserCredential c u = .ok cred)
    (hin : clientConfigInput c u cred = .ok cin) (hb : buildClientConfig cin = .ok obs) (hob : .proxy ob ∈ obs)
    (hI : I ∈ c.nodes) (hfresh : I.status.entryEndpoints = entryEndpoints I) {T : SingBoxNode} (hT : T ∈ c.nodes)
    (ho : T.hasRole .outbound = true) (htag : ob.tag = pathTag T.name I.name) :
    NodePathWorks I T u ob (computeConfig (c.view flags I)) (computeConfig (c.view flags T)) := by
  obtain ⟨hi, hport, hoff, hmay, hadm, address, port, hep, rfl⟩ :=
    proxy_path hin hb hob hI htag
  rw [hfresh] at hep
  obtain ⟨rfl, rfl⟩ := findEntryEndpoint_fresh hep
  obtain ⟨ht, o, hom, hotag, hrelay⟩ := hoff.node_outbound hI hi hT ho hadm
  obtain ⟨users, he, hib⟩ := Cluster.virtualEntry_mem hi hport ht hu hmay
  obtain ⟨htype, htls, hauth⟩ := buildProxyOutbound_agrees hcred (pathTag T.name I.name) I.spec.address
    (findProtocolPort I (effectiveInboundProtocol I)) T.name I.status.tlsServerName users
  refine ⟨rfl, ⟨_, hib, rfl, htype, rfl, htls, _, he, label_labelUser _ _ _, hauth⟩,
    Cluster.virtualRule_mem hi ht hu hmay, o, hom, hotag, fun hne => ?_⟩
  obtain ⟨rfl, hp⟩ := hrelay hne
  have hrp : T.spec.relayPort = effectiveRelayPort T := by rw [effectiveRelayPort, if_pos (by omega)]
  exact ⟨rfl, c.relayInbound T, Cluster.mem_inbounds_view.2 (.inr ⟨ho, rfl⟩), rfl, congrArg some hrp, _, rfl, rfl, rfl⟩

theorem externalPathServed_view (hu : u ∈ c.users) (hin : clientConfigInput c u cred = .ok cin)
    (hb : buildClientConfig cin = .ok obs) (hob : .proxy ob ∈ obs) (hI : I ∈ c.nodes) {E : ExternalOutbound}
    (hE : E ∈ c.externalOutbounds) (hno : ∀ n ∈ c.nodes, n.name = E.name → n.hasRole .outbound = false)
    (htag : ob.tag = pathTag E.name I.name) :
    ExternalPathServed c I E u (computeConfig (c.view flags I)) ↔
      hasRequiredExternalCreds E (c.externalCred E) = true ∧
        ((∀ n ∈ c.nodes, n.name ≠ E.name) ∨ c.PolicyReached I E.name) := by
  obtain ⟨hi, hport, hoff, hmay, hadm, _⟩ := proxy_path hin hb hob hI htag
  rw [← Cluster.target_external_iff hI hE hno (hoff.external hI hE hno hadm)]
  constructor
  · rintro ⟨hserves, _⟩
    have hs : Serves (c.view flags I) (virtualUserName u.name E.name) := hserves
    exact Cluster.mem_targets_view.1 (serves_virtualUserName.1 hs).2.2.1
  · intro ht
    obtain ⟨users, he, hib⟩ := Cluster.virtualEntry_mem hi hport ht hu hmay
    exact ⟨⟨_, hib, rfl, _, he, label_labelUser _ _ _⟩, Cluster.virtualRule_mem hi ht hu hmay,
      Cluster.externalEntry_mem hI hi hE hno ht⟩

/-- With a fresh status and the user's Secret, every advertised path to a node
is served end to end: by the entry node, and by the node it relays to. -/
theorem nodePath_works {input target : Input} (hu : u ∈ c.users) (hcred : getUserCredential c u = .ok cred)
    (hin : clientConfigInput c u cred = .ok cin) (hb : buildClientConfig cin = .ok obs) (hob : .proxy ob ∈ obs)
    (hI : I ∈ c.nodes) (hfresh : I.status.entryEndpoints = entryEndpoints I) {T : SingBoxNode} (hT : T ∈ c.nodes)
    (ho : T.hasRole .outbound = true) (htag : ob.tag = pathTag T.name I.name)
    (hentry : collectInput flags c I = .ok input) (hexit : collectInput flags c T = .ok target) :
    NodePathWorks I T u ob (computeConfig input) (computeConfig target) := by
  rw [collectInput_ok hentry, collectInput_ok hexit]
  exact nodePathWorks_view hu hcred hin hb hob hI hfresh hT ho htag

/-- An advertised path to an external outbound is served exactly when its
credentials are complete, and no node has its name unless policies reach it. -/
theorem externalPath_served_iff {input : Input} {requestUUID : String}
    (hm : matchUser c requestUUID = some (u, cred)) (hh : handleClientConfig c requestUUID = .ok obs)
    (hob : .proxy ob ∈ obs) (hI : I ∈ c.nodes) {E : ExternalOutbound} (hE : E ∈ c.externalOutbounds)
    (hno : ∀ n ∈ c.nodes, n.name = E.name → n.hasRole .outbound = false) (htag : ob.tag = pathTag E.name I.name)
    (hentry : collectInput flags c I = .ok input) :
    ExternalPathServed c I E u (computeConfig input) ↔
      hasRequiredExternalCreds E (c.externalCred E) = true ∧
        ((∀ n ∈ c.nodes, n.name ≠ E.name) ∨ c.PolicyReached I E.name) := by
  obtain ⟨cin, hin, hb⟩ := handleClientConfig_ok hm hh
  rw [collectInput_ok hentry]
  exact externalPathServed_view (matchUser_eq_some hm).1 hin hb hob hI hE hno htag

end

/-! ### One relay, and one external outbound without its Secret -/

section
attribute [local instance] plainLibrary storedOrder

/-- An entry node with a fresh status. -/
def gate : SingBoxNode where
  metadata := .named "gate"
  spec :=
    { SingBoxNodeSpec.bare with
      address := "gate.test", region := "hk", roles := [.inbound],
      supportedProtocols := [Port.https.listener .hysteria2] }
  status := { entryEndpoints := ["hysteria2:gate.test:443"], conditions := [⟨"NodeReady", "True"⟩, ⟨"Ready", "True"⟩] }

def hop : SingBoxNode where
  metadata := .named "hop"
  spec := { address := "hop.test", region := "hk", roles := [.outbound], relayPort := Port.socks.number,
            relayPort_le := Port.socks.le, clientGroups := ["hk"] }
  status := { conditions := [⟨"NodeReady", "True"⟩, ⟨"Ready", "True"⟩] }

/-- Trojan needs a password, and no Secret has one. -/
def upstream : ExternalOutbound where
  metadata := .named "upstream"
  spec := { protocol := .trojan, server := "up.test", port := Port.https.number, port_pos := Port.https.pos,
            port_le := Port.https.le, region := "hk", clientGroups := ["hk"] }

def aliceUUID : String := "11111111-2222-4333-8444-555555555555"

def pathCluster : Cluster where
  ns := "proxy"
  nodes := [gate, hop]
  externalOutbounds := [upstream]
  users := [alice]
  secret := fun _ name =>
    if name = "alice-auth" then .ok ((∅ : GoMap String String).insert "uuid" aliceUUID)
    else if name = "singboxnode-hop-relay-cred" then
      .ok (((∅ : GoMap String String).insert "username" "relay").insert "password" "c2VjcmV0")
    else .error ⟨true, "not found"⟩
  nodes_nodup := by decide
  externalOutbounds_nodup := by decide
  users_nodup := edgeCluster.users_nodup
  policies_nodup := noPolicies_nodup

def pathInput : ClientConfigInput where
  user := alice
  userCred := ⟨aliceUUID⟩
  inboundNodes := [gate]
  outboundsByName := GoMap.assignAll SingBoxNode.name id ∅ [hop]
  externalOutboundsByName := GoMap.assignAll ExternalOutbound.name id ∅ [upstream]

def pathOutbound (t : String) : ProxyOutbound :=
  buildProxyOutbound (pathTag t "gate") "gate.test" 443 .hysteria2 "alice" t "" ⟨aliceUUID⟩

theorem pathInput_read : clientConfigInput pathCluster alice ⟨aliceUUID⟩ = .ok pathInput := by rfl

theorem alice_matched : matchUser pathCluster aliceUUID = some (alice, ⟨aliceUUID⟩) := by rfl

theorem pathCluster_collected (N : SingBoxNode) : collectInput {} pathCluster N = .ok (pathCluster.view {} N) :=
  collectInput_eq_ok {} ⟨rfl, rfl, rfl, fun _ => ⟨rfl, fun _ _ _ _ h => by cases h; rfl⟩⟩

/-- Alice is given a path to both targets. -/
theorem pathInput_built : ∃ obs, buildClientConfig pathInput = .ok obs ∧
    .proxy (pathOutbound "hop") ∈ obs ∧ .proxy (pathOutbound "upstream") ∈ obs := by
  refine ⟨_, rfl, ?_, ?_⟩
  · exact List.mem_cons_self
  · exact List.mem_cons_of_mem _ List.mem_cons_self

theorem alice_answered : ∃ obs, handleClientConfig pathCluster aliceUUID = .ok obs ∧
    .proxy (pathOutbound "upstream") ∈ obs := by
  obtain ⟨obs, hb, _, hob⟩ := pathInput_built
  refine ⟨obs, ?_, hob⟩
  have hid : isUUID aliceUUID = true := by decide
  have husers : pathCluster.listOrFail .user pathCluster.users = .ok pathCluster.users := by rfl
  simp only [handleClientConfig, hid, husers, alice_matched, pathInput_read, hb, bind, Except.bind]
  rfl

theorem hop_nodeCred : pathCluster.nodeCred "hop" = ⟨"relay", "c2VjcmV0"⟩ := by decide

/-- The relay credential is not empty. -/
theorem nodePath_works_hop : ∃ obs, buildClientConfig pathInput = .ok obs ∧ .proxy (pathOutbound "hop") ∈ obs ∧
    pathCluster.nodeCred "hop" = ⟨"relay", "c2VjcmV0"⟩ ∧
    NodePathWorks gate hop alice (pathOutbound "hop") (computeConfig (pathCluster.view {} gate))
      (computeConfig (pathCluster.view {} hop)) := by
  obtain ⟨obs, hb, hob, _⟩ := pathInput_built
  obtain ⟨hu, hcred⟩ := matchUser_eq_some alice_matched
  exact ⟨obs, hb, hob, hop_nodeCred, nodePath_works hu hcred pathInput_read hb hob List.mem_cons_self (by decide)
    (List.mem_cons_of_mem _ List.mem_cons_self) (by decide) rfl (pathCluster_collected gate) (pathCluster_collected hop)⟩

theorem hop_mem : hop ∈ pathCluster.nodes := List.mem_cons_of_mem _ List.mem_cons_self

theorem hop_target : pathCluster.Target gate "hop" := by
  have hpeer : hop ∈ pathCluster.peers gate := Cluster.mem_peers.2 ⟨hop_mem, by decide⟩
  exact .inl ⟨.inl ⟨hop, hpeer, rfl⟩, (Cluster.usable_of_peer hpeer).2 (by decide)⟩

theorem upstream_no_node : ∀ n ∈ pathCluster.nodes, n.name = upstream.name → n.hasRole .outbound = false := by decide

theorem upstream_incomplete : hasRequiredExternalCreds upstream (pathCluster.externalCred upstream) ≠ true := by decide

/-- Alice is given `upstream#gate`, and `gate` has neither the user nor the outbound for it. -/
theorem not_forall_externalPath_served :
    ¬ ∀ [Library] [MapOrder] (flags : Flags) (c : Cluster) (requestUUID : String) (u : User) (cred : UserCredential)
      (obs : List ClientOutbound) (ob : ProxyOutbound) (I : SingBoxNode) (E : ExternalOutbound) (input : Input),
      matchUser c requestUUID = some (u, cred) → handleClientConfig c requestUUID = .ok obs → .proxy ob ∈ obs →
      I ∈ c.nodes → E ∈ c.externalOutbounds → (∀ n ∈ c.nodes, n.name = E.name → n.hasRole .outbound = false) →
      ob.tag = pathTag E.name I.name → collectInput flags c I = .ok input →
      ExternalPathServed c I E u (computeConfig input) := by
  intro h
  obtain ⟨obs, hh, hob⟩ := alice_answered
  have hserved := h {} pathCluster aliceUUID alice _ obs _ gate upstream _ alice_matched hh hob List.mem_cons_self
    List.mem_cons_self upstream_no_node rfl (pathCluster_collected gate)
  obtain ⟨cin, hin, hb⟩ := handleClientConfig_ok alice_matched hh
  exact upstream_incomplete ((externalPathServed_view (matchUser_eq_some alice_matched).1 hin hb hob
    List.mem_cons_self List.mem_cons_self upstream_no_node rfl).1 hserved).1

theorem externalPath_served_iff_upstream : ∃ obs, handleClientConfig pathCluster aliceUUID = .ok obs ∧
    .proxy (pathOutbound "upstream") ∈ obs ∧
    ¬ ExternalPathServed pathCluster gate upstream alice (computeConfig (pathCluster.view {} gate)) := by
  obtain ⟨obs, hh, hob⟩ := alice_answered
  exact ⟨obs, hh, hob, fun h => upstream_incomplete ((externalPath_served_iff alice_matched hh hob List.mem_cons_self
    List.mem_cons_self upstream_no_node rfl (pathCluster_collected gate)).1 h).1⟩

end

end SingboxOperator
