import SingboxOperator.ApiServer.Paths
/-!
# Which paths a client is given

`mem_proxies` says what holds of a path that is advertised. Here it is settled
when one is, and in which selectors it is: the paths are those of
`Cluster.PathTo`, and policies take their targets out of every group but `ai`.
-/
open SingboxOperator.Lib

namespace SingboxOperator

/-! ## Selectors -/

section
variable [MapOrder] {cin : ClientConfigInput}

/-- The members of a selector are the paths in its group. -/
theorem mem_groupOutbounds {g tag : String} :
    tag ∈ (groupOutbounds cin).get g [] ↔
      ∃ path ∈ emittedPaths cin, g ∈ pathGroups cin path ∧ path.outbound.tag = tag := by
  have hflat : groupOutbounds cin =
      ((emittedPaths cin).flatMap fun path => (pathGroups cin path).map fun g => (g, path.outbound.tag)).foldl
        (fun m e => m.insert e.1 (m.get e.1 [] ++ [e.2])) ∅ := by
    rw [List.foldl_flatMap]
    simp only [List.foldl_map]
    rfl
  rw [hflat, GoMap.get_foldl_append]
  simp only [GoMap.get_empty, List.nil_append, List.mem_map, List.mem_filter, List.mem_flatMap, decide_eq_true_eq]
  constructor
  · rintro ⟨_, ⟨⟨path, hp, g', hg, rfl⟩, rfl⟩, rfl⟩
    exact ⟨path, hp, hg, rfl⟩
  · rintro ⟨path, hp, hg, rfl⟩
    exact ⟨_, ⟨⟨path, hp, g, hg, rfl⟩, rfl⟩, rfl⟩

theorem mem_buildSelectors {ob : ClientOutbound} :
    ob ∈ buildSelectors cin ↔
      ∃ g, (groupOutbounds cin).get g [] ≠ [] ∧ ob = .selector g (sortCompact ((groupOutbounds cin).get g [])) := by
  simp only [buildSelectors, List.mem_map, mem_sortOn, List.mem_filter, decide_eq_true_eq]
  constructor
  · rintro ⟨g, ⟨⟨_, tags⟩, ⟨hr, hne⟩, rfl⟩, rfl⟩
    refine ⟨_, ?_, rfl⟩
    rwa [GoMap.get, mem_range.1 hr]
  · rintro ⟨g, hne, rfl⟩
    cases hl : (groupOutbounds cin).lookup g with
    | none => simp [GoMap.get, hl] at hne
    | some tags =>
      refine ⟨g, ⟨(g, tags), ⟨mem_range.2 hl, ?_⟩, rfl⟩, rfl⟩
      rwa [GoMap.get, hl] at hne

omit [MapOrder] in
theorem mem_sortCompact {l : List String} {tag : String} : tag ∈ sortCompact l ↔ tag ∈ l := by
  rw [sortCompact, mem_destutter_ne, mem_sortOn]

end

/-! ## Paths of the cluster -/

/-- A target in a client group. A node hides an external outbound of its name. -/
def Cluster.HasGroup (c : Cluster) (t g : String) : Prop :=
  (∃ n ∈ c.nodes, n.hasRole .outbound = true ∧ n.name = t ∧ g ∈ n.spec.clientGroups) ∨
    (∀ n ∈ c.nodes, n.name = t → n.hasRole .outbound = false) ∧
      ∃ e ∈ c.externalOutbounds, e.name = t ∧ g ∈ e.spec.clientGroups

/-- No node is offline that `t` could stand for. -/
def Cluster.Online (c : Cluster) (t : String) : Prop :=
  ∀ n ∈ c.nodes, n.hasRole .outbound = true → n.name = t → isSingBoxNodeReady n = true

/-- The entry node behind which the user reaches the target. -/
structure Cluster.PathTo (c : Cluster) (u : User) (I : SingBoxNode) (t : String) : Prop where
  entry : I ∈ c.nodes
  inbound : I.hasRole .inbound = true
  ready : isSingBoxNodeReady I = true
  protocol : supportsProtocol I (effectiveInboundProtocol I) = true
  endpoint : (findEntryEndpoint I.status.entryEndpoints (effectiveInboundProtocol I)).isSome = true
  offers : c.Offers I t
  online : c.Online t
  allowed : c.mayUse u t = true
  admitted : admits I.spec.allowedOutbounds t = true

/-- The handler's input with its policies and the nodes that are offline. -/
structure ReadsAll (c : Cluster) (u : User) (cred : UserCredential) (cin : ClientConfigInput) : Prop
    extends ReadsCluster c u cred cin where
  policies : cin.egressPolicies = c.policies
  offline : ∀ {n}, n ∈ c.nodes → (isOffline cin n.name = true ↔ isSingBoxNodeReady n = false)

section
variable {c : Cluster} {u : User} {cred : UserCredential} {cin : ClientConfigInput} {I : SingBoxNode} {t : String}

theorem clientConfigInput_readsAll [Library] (h : clientConfigInput c u cred = .ok cin) : ReadsAll c u cred cin := by
  have hreads := clientConfigInput_reads h
  obtain ⟨allowed, denied, _, rfl⟩ := clientConfigInput_ok h
  refine ⟨hreads, rfl, fun {n} hn => ?_⟩
  simp only [isOffline, get_nameSet, List.mem_map, List.mem_filter, Bool.not_eq_true']
  constructor
  · rintro ⟨n', ⟨hn', hoff⟩, hname⟩
    rwa [← Cluster.node_unique hn' hn hname]
  · intro hoff
    exact ⟨n, ⟨hn, hoff⟩, rfl⟩

theorem ReadsAll.reserve [MapOrder] (hc : ReadsAll c u cred cin) (targets : NameSet) :
    ReadsAll c u cred (reserveTargets cin targets) :=
  ⟨hc.toReadsCluster.reserve targets, hc.policies, hc.offline⟩

theorem ReadsCluster.outbound_none (hc : ReadsCluster c u cred cin) :
    cin.outboundsByName.lookup t = none ↔ ∀ n ∈ c.nodes, n.name = t → n.hasRole .outbound = false := by
  constructor
  · intro h n hn hname
    by_contra hr
    rw [hc.outbound.2 ⟨⟨hn, by simpa using hr⟩, hname⟩] at h
    cases h
  · intro h
    refine Option.eq_none_iff_forall_ne_some.2 fun n hn => ?_
    obtain ⟨⟨hm, hr⟩, hname⟩ := hc.outbound.1 hn
    simp [h n hm hname] at hr

theorem ReadsCluster.hasGroup (hc : ReadsCluster c u cred cin) {g : String} :
    targetHasClientGroup cin t g = true ↔ c.HasGroup t g := by
  unfold targetHasClientGroup Cluster.HasGroup
  cases hn : cin.outboundsByName.lookup t with
  | some n =>
    obtain ⟨⟨hm, hr⟩, hname⟩ := hc.outbound.1 hn
    simp only [decide_eq_true_eq]
    refine ⟨fun h => .inl ⟨n, hm, hr, hname, h⟩, ?_⟩
    rintro (⟨n', hm', _, hname', hg⟩ | ⟨hno, _⟩)
    · rwa [Cluster.node_unique hm hm' (hname.trans hname'.symm)]
    · simp [hno n hm hname] at hr
  | none =>
    have hno := hc.outbound_none.1 hn
    cases he : cin.externalOutboundsByName.lookup t with
    | some e =>
      obtain ⟨hm, hname⟩ := hc.external.1 he
      simp only [decide_eq_true_eq]
      refine ⟨fun h => .inr ⟨hno, e, hm, hname, h⟩, ?_⟩
      rintro (⟨n, hm', hr, hname', _⟩ | ⟨_, e', hm', hname', hg⟩)
      · simp [hno n hm' hname'] at hr
      · rwa [Cluster.external_unique hm hm' (hname.trans hname'.symm)]
    | none =>
      refine ⟨fun h => by simp at h, ?_⟩
      rintro (⟨n, hm', hr, hname', _⟩ | ⟨_, e', hm', hname', _⟩)
      · simp [hno n hm' hname'] at hr
      · rw [hc.external.2 ⟨hm', hname'⟩] at he
        cases he

/-- The three loops over targets, before the names are made unique. -/
def OfferedRef (cin : ClientConfigInput) (I : SingBoxNode) (ref : OutboundRef) : Prop :=
  (∃ n, cin.outboundsByName.lookup n.name = some n ∧ nodeRef cin I n = some ref) ∨
    selfRef cin I = some ref ∨
    ∃ e, cin.externalOutboundsByName.lookup e.name = some e ∧ e.spec.region ≠ "" ∧ externalRef cin I e = some ref

theorem nodeRef_eq_some {n : SingBoxNode} {ref : OutboundRef} :
    nodeRef cin I n = some ref ↔
      (n.spec.relayPort ≠ 0 ∧ n.spec.region = I.spec.region ∧ isOffline cin n.name = false ∧
        isSelectable cin I n.name = true ∧ admits n.spec.allowedInbounds I.name = true) ∧
      { name := n.name, allowedInbounds := n.spec.allowedInbounds, clientGroups := n.spec.clientGroups } = ref := by
  simp [nodeRef, and_assoc]

theorem selfRef_eq_some {ref : OutboundRef} :
    selfRef cin I = some ref ↔
      (I.hasRole .outbound = true ∧ isOffline cin I.name = false ∧ isSelectable cin I I.name = true) ∧
      { name := I.name, clientGroups := I.spec.clientGroups } = ref := by
  simp [selfRef, and_assoc]

theorem externalRef_eq_some {e : ExternalOutbound} {ref : OutboundRef} :
    externalRef cin I e = some ref ↔
      (e.spec.region = I.spec.region ∧ cin.outboundsByName.lookup e.name = none ∧ isSelectable cin I e.name = true ∧
        admits e.spec.allowedInbounds I.name = true) ∧
      { name := e.name, allowedInbounds := e.spec.allowedInbounds, clientGroups := e.spec.clientGroups } = ref := by
  simp [externalRef, and_assoc]

theorem ReadsAll.exists_offered (hc : ReadsAll c u cred cin) (hI : I ∈ c.nodes) :
    (∃ ref, OfferedRef cin I ref ∧ ref.name = t) ↔ c.Offers I t ∧ c.Online t ∧ isSelectable cin I t = true := by
  have hready : ∀ {n}, n ∈ c.nodes → (isOffline cin n.name = false ↔ isSingBoxNodeReady n = true) := by
    intro n hn
    rw [← Bool.not_eq_true, hc.offline hn, Bool.not_eq_false]
  have honline : ∀ {n}, n ∈ c.nodes → isSingBoxNodeReady n = true → c.Online n.name :=
    fun hn hr n' hn' _ hname => Cluster.node_unique hn' hn hname ▸ hr
  constructor
  · rintro ⟨ref, ⟨n, hl, href⟩ | href | ⟨e, hl, hreg, href⟩, rfl⟩
    · obtain ⟨⟨hm, hr⟩, _⟩ := hc.outbound.1 hl
      obtain ⟨⟨hport, hreg, hon, hsel, hadm⟩, rfl⟩ := nodeRef_eq_some.1 href
      exact ⟨.inl ⟨n, hm, hr, rfl, hport, hreg, hadm⟩, honline hm ((hready hm).1 hon), hsel⟩
    · obtain ⟨⟨hr, hon, hsel⟩, rfl⟩ := selfRef_eq_some.1 href
      exact ⟨.inr (.inl ⟨hr, rfl⟩), honline hI ((hready hI).1 hon), hsel⟩
    · obtain ⟨hm, _⟩ := hc.external.1 hl
      obtain ⟨⟨hsame, hnone, hsel, hadm⟩, rfl⟩ := externalRef_eq_some.1 href
      have hno := hc.outbound_none.1 hnone
      refine ⟨.inr (.inr ⟨e, hm, rfl, hreg, hsame, hno, hadm⟩), fun n hn hr hname => ?_, hsel⟩
      simp [hno n hn hname] at hr
  · rintro ⟨⟨n, hm, hr, rfl, hport, hreg, hadm⟩ | ⟨hr, rfl⟩ | ⟨e, hm, rfl, hreg, hsame, hno, hadm⟩, hon, hsel⟩
    · refine ⟨_, .inl ⟨n, hc.outbound.2 ⟨⟨hm, hr⟩, rfl⟩, nodeRef_eq_some.2 ⟨⟨hport, hreg, ?_, hsel, hadm⟩, rfl⟩⟩, rfl⟩
      exact (hready hm).2 (hon n hm hr rfl)
    · exact ⟨_, .inr (.inl (selfRef_eq_some.2 ⟨⟨hr, (hready hI).2 (hon I hI hr rfl), hsel⟩, rfl⟩)), rfl⟩
    · refine ⟨_, .inr (.inr ⟨e, hc.external.2 ⟨hm, rfl⟩, hreg, externalRef_eq_some.2 ⟨⟨hsame, ?_, hsel, hadm⟩, rfl⟩⟩), rfl⟩
      exact hc.outbound_none.2 hno

/-- The groups of a target are those its name stands for. -/
theorem ReadsAll.offered_groups (hc : ReadsAll c u cred cin) (hI : I ∈ c.nodes) {ref : OutboundRef}
    (h : OfferedRef cin I ref) {g : String} : g ∈ ref.clientGroups ↔ c.HasGroup ref.name g := by
  rw [← hc.hasGroup, targetHasClientGroup]
  rcases h with ⟨n, hl, href⟩ | href | ⟨e, hl, _, href⟩
  · obtain ⟨_, rfl⟩ := nodeRef_eq_some.1 href
    simp [hl]
  · obtain ⟨⟨hr, _⟩, rfl⟩ := selfRef_eq_some.1 href
    simp [hc.outbound.2 ⟨⟨hI, hr⟩, rfl⟩]
  · obtain ⟨⟨_, hnone, _⟩, rfl⟩ := externalRef_eq_some.1 href
    simp [hnone, hl]

/-! ## Emitted paths -/

variable [MapOrder]

/-- What is offered is resolved, under each name once. -/
theorem ReadsCluster.mem_resolve (hc : ReadsCluster c u cred cin) (hI : I ∈ c.nodes) (hi : I.hasRole .inbound = true) :
    (∀ ref ∈ resolveOutboundNodes cin I.name, OfferedRef cin I ref) ∧
      ∀ ref, OfferedRef cin I ref → ∃ ref' ∈ resolveOutboundNodes cin I.name, ref'.name = ref.name := by
  have hfind : cin.inboundNodes.find? (fun n => n.name = I.name) = some I :=
    find?_eq_some_of_unique (hc.inbound.2 ⟨hI, hi⟩) (by simp) fun n hn hname =>
      Cluster.node_unique (hc.inbound.1 hn).1 hI (by simpa using hname)
  have hroutes : (∅ : GoMap String (List CustomRoute)).get I.name [] = [] := rfl
  simp only [resolveOutboundNodes, hfind, hc.routes, hroutes, List.filterMap_nil, List.append_nil, mem_sortOn]
  refine ⟨fun ref href => ?_, fun ref href => ?_⟩
  · rcases List.mem_append.1 (mem_of_mem_firstBy href) with h | h
    · rcases List.mem_append.1 h with h | h
      · obtain ⟨⟨k, n⟩, hn, href⟩ := List.mem_filterMap.1 h
        have hl := mem_range.1 hn
        exact .inl ⟨n, (hc.outbound.1 hl).2.symm ▸ hl, href⟩
      · exact .inr (.inl (Option.mem_toList.1 h))
    · obtain ⟨⟨k, e⟩, he, href⟩ := List.mem_filterMap.1 h
      have hl := mem_range.1 he
      simp only [Option.ite_none_right_eq_some] at href
      exact .inr (.inr ⟨e, (hc.external.1 hl).2.symm ▸ hl, href⟩)
  · refine exists_mem_firstBy ?_
    rcases href with ⟨n, hl, href⟩ | href | ⟨e, hl, hreg, href⟩
    · exact List.mem_append_left _ (List.mem_append_left _ (List.mem_filterMap.2 ⟨(n.name, n), mem_range.2 hl, href⟩))
    · exact List.mem_append_left _ (List.mem_append_right _ (Option.mem_toList.2 href))
    · exact List.mem_append_right _ (List.mem_filterMap.2 ⟨(e.name, e), mem_range.2 hl, by simp [hreg, href]⟩)

theorem mem_entryPaths {path : Path} :
    path ∈ entryPaths cin I ↔
      isOffline cin I.name = false ∧ supportsProtocol I (effectiveInboundProtocol I) = true ∧
        ∃ address port, findEntryEndpoint I.status.entryEndpoints (effectiveInboundProtocol I) = some (address, port) ∧
          ∃ ref ∈ resolveOutboundNodes cin I.name,
            { entry := I
              target := ref
              outbound := buildProxyOutbound (pathTag ref.name I.name) address port (effectiveInboundProtocol I)
                cin.user.name ref.name I.status.tlsServerName cin.userCred } = path := by
  unfold entryPaths
  dsimp only
  by_cases hoff : isOffline cin I.name = true
  · simp [hoff]
  · by_cases hsup : supportsProtocol I (effectiveInboundProtocol I) = true
    · cases findEntryEndpoint I.status.entryEndpoints (effectiveInboundProtocol I) with
      | none => simp [hoff, hsup]
      | some ep => obtain ⟨address, port⟩ := ep; simp [hoff, hsup]
    · simp [hsup]

/-- An emitted path over `I` to `t`. -/
def IsPath (cin : ClientConfigInput) (I : SingBoxNode) (t : String) (path : Path) : Prop :=
  path ∈ emittedPaths cin ∧ path.entry = I ∧ path.target.name = t

theorem IsPath.tag {path : Path} (h : IsPath cin I t path) : path.outbound.tag = pathTag t I.name := by
  obtain ⟨hem, rfl, rfl⟩ := h
  obtain ⟨I, _, hp⟩ := List.mem_flatMap.1 (List.mem_filter.1 hem).1
  obtain ⟨_, _, _, _, _, ref, _, rfl⟩ := mem_entryPaths.1 hp
  rfl

theorem ReadsAll.exists_path_group (hc : ReadsAll c u cred cin) {g : String} :
    (∃ path, IsPath cin I t path ∧ g ∈ pathGroups cin path) ↔
      c.PathTo u I t ∧ c.HasGroup t g ∧ g ∈ clientGroups ∧ (g = "ai" ∨ isPolicyOnly cin t = false) := by
  have hgroups : ∀ {path : Path}, g ∈ pathGroups cin path ↔
      g ∈ path.target.clientGroups ∧ g ∈ clientGroups ∧ (g = "ai" ∨ isPolicyOnly cin path.target.name = false) := by
    intro path
    simp [pathGroups]
  constructor
  · rintro ⟨path, ⟨hem, rfl, rfl⟩, hg⟩
    obtain ⟨I, hin, hp⟩ := List.mem_flatMap.1 (List.mem_filter.1 hem).1
    obtain ⟨hoff, hsup, address, port, hep, ref, href, rfl⟩ := mem_entryPaths.1 hp
    obtain ⟨hI, hi⟩ := hc.inbound.1 hin
    have hoffered := (hc.mem_resolve hI hi).1 ref href
    obtain ⟨hoffers, honline, hs⟩ := (hc.exists_offered hI).1 ⟨ref, hoffered, rfl⟩
    obtain ⟨hgr, hgc, hpol⟩ := hgroups.1 hg
    refine ⟨⟨hI, hi, ?_, hsup, by rw [hep]; rfl, hoffers, honline, (hc.selectable hs).1, (hc.selectable hs).2⟩,
      (hc.offered_groups hI hoffered).1 hgr, hgc, hpol⟩
    rwa [← Bool.not_eq_false, ← hc.offline hI, Bool.not_eq_true]
  · rintro ⟨h, hgt, hgc, hpol⟩
    -- a target of `ai` may be reserved for policies
    have hsel : isSelectable cin I t = true := by
      have hfree : isPolicyOnly cin t = false ∨ targetHasClientGroup cin t "ai" = true := by
        rcases hpol with rfl | hpol
        · exact .inr (hc.hasGroup.2 hgt)
        · exact .inl hpol
      simp [isSelectable, hfree, hc.allowed, h.allowed, h.admitted]
    obtain ⟨ref₀, hoff₀, hname₀⟩ := (hc.exists_offered h.entry).2 ⟨h.offers, h.online, hsel⟩
    obtain ⟨hres, hex⟩ := hc.mem_resolve h.entry h.inbound
    obtain ⟨ref, href, hname⟩ := hex ref₀ hoff₀
    obtain rfl : ref.name = t := hname.trans hname₀
    obtain ⟨⟨address, port⟩, hep⟩ := Option.isSome_iff_exists.1 h.endpoint
    have hoff : isOffline cin I.name = false := by
      rw [← Bool.not_eq_true, hc.offline h.entry, h.ready]
      simp
    obtain ⟨path, hpath, hentry, rfl⟩ : ∃ path ∈ entryPaths cin I, path.entry = I ∧ path.target = ref :=
      ⟨_, mem_entryPaths.2 ⟨hoff, h.protocol, address, port, hep, ref, href, rfl⟩, rfl, rfl⟩
    have hgroup := hgroups.2 ⟨(hc.offered_groups h.entry (hres _ href)).2 hgt, hgc, hpol⟩
    refine ⟨path, ⟨List.mem_filter.2 ⟨?_, decide_eq_true (List.ne_nil_of_mem hgroup)⟩, hentry, rfl⟩, hgroup⟩
    exact List.mem_flatMap.2 ⟨I, hc.inbound.2 ⟨h.entry, h.inbound⟩, hpath⟩

end

end SingboxOperator
