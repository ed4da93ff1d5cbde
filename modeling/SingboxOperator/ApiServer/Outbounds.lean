import SingboxOperator.ApiServer.Advertised
import SingboxOperator.ApiServer.Resolution
/-!
# The outbounds of a client

The whole result of `BuildClientConfig` in terms of the cluster: each path
that is to be advertised once and no other, every path in the selectors of its
groups, and the same list whatever order the maps are read in. The tag of a
path to the entry node's own name is that name. Object names are free, so it
can be the tag of a selector or of `direct`.
-/
open SingboxOperator.Lib

namespace SingboxOperator

/-! ## The rules of the policies -/

section
variable [Library] [MapOrder] {input : ClientConfigInput}

/-- The rule a policy contributes; none when its selector matches nothing. -/
def clientPolicyRule (input : ClientConfigInput) (p : EgressPolicy) : Option RouteRule :=
  let rule := policyMatchRule p.spec.matchFields
  match p.spec.action with
  | .reject => some { rule with action := "reject" }
  | .route =>
    if (resolveClientPolicyEgress input p).2 = 0 then none
    else if targetHasClientGroup input (resolveClientPolicyEgress input p).1 "ai" then
      some { rule with outbound := "ai" }
    else some { rule with action := "reject" }

theorem addClientPolicy_ok {acc acc' : List RouteRule × NameSet} {p : EgressPolicy}
    (h : addClientPolicy input acc p = .ok acc') :
    acc'.1 = acc.1 ++ (clientPolicyRule input p).toList ∧
      (acc'.2 = acc.2 ∨ p.spec.action = .route ∧ (resolveClientPolicyEgress input p).2 = 1 ∧
        acc'.2 = acc.2.insert (resolveClientPolicyEgress input p).1 true) := by
  unfold addClientPolicy at h
  dsimp only at h
  split at h
  · cases h
  · cases h
  · cases h
  · unfold clientPolicyRule
    cases ha : p.spec.action with
    | reject =>
      simp only [ha, Except.ok.injEq] at h
      simp [← h]
    | route =>
      simp only [ha] at h
      split at h
      · rename_i h0
        simp [← Except.ok.inj h, h0]
      · rename_i h0
        split at h
        · cases h
        · rename_i h1
          simp only [h0, if_false]
          rw [← Except.ok.inj h]
          refine ⟨?_, .inr ⟨trivial, not_not.1 h1, rfl⟩⟩
          by_cases hg : targetHasClientGroup input (resolveClientPolicyEgress input p).1 "ai" = true <;> simp [hg]

theorem foldlM_addClientPolicy {ps : List EgressPolicy} :
    ∀ {acc acc' : List RouteRule × NameSet}, ps.foldlM (addClientPolicy input) acc = .ok acc' →
      acc'.1 = acc.1 ++ ps.filterMap (clientPolicyRule input) ∧
        ∀ t ∈ acc'.2, t ∈ acc.2 ∨ ∃ p ∈ ps, p.spec.action = .route ∧ resolveClientPolicyEgress input p = (t, 1) := by
  induction ps with
  | nil =>
    intro acc acc' h
    obtain rfl := Except.ok.inj h
    exact ⟨by simp, fun t ht => .inl ht⟩
  | cons p ps ih =>
    intro acc acc' h
    rw [List.foldlM_cons] at h
    obtain ⟨mid, h1, h2⟩ := Except.bind_ok h
    obtain ⟨hrule, htarget⟩ := addClientPolicy_ok h1
    obtain ⟨hrules, htargets⟩ := ih h2
    refine ⟨?_, fun t ht => ?_⟩
    · rw [hrules, hrule]
      cases hr : clientPolicyRule input p <;> simp [hr]
    · rcases htargets t ht with hm | ⟨q, hq, hroute⟩
      · rcases htarget with heq | ⟨ha, hcount, heq⟩
        · exact .inl (heq ▸ hm)
        · rw [heq, AList.mem_insert] at hm
          rcases hm with rfl | hm
          · exact .inr ⟨p, List.mem_cons_self, ha, Prod.ext rfl hcount⟩
          · exact .inl hm
      · exact .inr ⟨q, List.mem_cons_of_mem _ hq, hroute⟩

/-- Sorted by priority and name, each policy contributes its rule; the targets are those of route policies. -/
theorem buildClientPolicies_ok {rules : List RouteRule} {targets : NameSet}
    (h : buildClientPolicies input = .ok (rules, targets)) :
    rules = (sortOn policyKey input.egressPolicies).filterMap (clientPolicyRule input) ∧
      ∀ t ∈ targets, ∃ p ∈ input.egressPolicies, p.spec.action = .route ∧
        resolveClientPolicyEgress input p = (t, 1) := by
  obtain ⟨hrules, htargets⟩ := foldlM_addClientPolicy h
  refine ⟨by simpa using hrules, fun t ht => ?_⟩
  obtain ⟨p, hp, hroute⟩ := (htargets t ht).resolve_left (AList.notMem_empty t)
  exact ⟨p, mem_sortOn.1 hp, hroute⟩

end

/-! ## The cluster's side -/

/-- Some route policy has this only target. -/
def Cluster.PolicyOnly [Library] (c : Cluster) (t : String) : Prop :=
  ∃ p ∈ c.policies, p.spec.action = .route ∧ egressCandidates p c.nodes c.externalOutbounds = [t]

/-- The selectors that take up the paths to a target. -/
def Cluster.Listed [Library] (c : Cluster) (t g : String) : Prop :=
  c.HasGroup t g ∧ g ∈ clientGroups ∧ (g = "ai" ∨ ¬ c.PolicyOnly t)

def Cluster.Advertised [Library] (c : Cluster) (u : User) (I : SingBoxNode) (t : String) : Prop :=
  c.PathTo u I t ∧ ∃ g, c.Listed t g

/-- What `buildClientConfig` walks over: the handler's input, with the targets of policies reserved. -/
structure Walks [Library] (c : Cluster) (u : User) (cred : UserCredential) (cin : ClientConfigInput) : Prop
    extends ReadsAll c u cred cin where
  distinct : (cin.inboundNodes.map SingBoxNode.name).Nodup
  policyOnly : ∀ t, isPolicyOnly cin t = true ↔ c.PolicyOnly t

section
variable [Library] {c : Cluster} {u : User} {cred : UserCredential} {cin : ClientConfigInput} {I : SingBoxNode}
  {t g : String}

/-! ## The policies of the handler -/

theorem get_policyOnlyEgresses :
    (policyOnlyEgresses c.policies c.nodes c.externalOutbounds).get t false = true ↔ c.PolicyOnly t := by
  simp only [policyOnlyEgresses, get_nameSet, List.mem_filterMap, Cluster.PolicyOnly]
  refine exists_congr fun p => and_congr_right fun _ => ?_
  by_cases ha : p.spec.action = .route
  · simp only [ha, if_true, true_and]
    cases egressCandidates p c.nodes c.externalOutbounds with
    | nil => simp
    | cons name names => cases names <;> simp
  · simp [ha]

theorem clientConfigInput_walks (h : clientConfigInput c u cred = .ok cin) : Walks c u cred cin := by
  have hreads := clientConfigInput_readsAll h
  obtain ⟨allowed, denied, _, rfl⟩ := clientConfigInput_ok h
  exact ⟨hreads, c.nodes_nodup.sublist (List.filter_sublist.map _), fun t => get_policyOnlyEgresses⟩

variable [MapOrder]

theorem ReadsCluster.resolves_unique (hc : ReadsCluster c u cred cin) {p : EgressPolicy} :
    resolveClientPolicyEgress cin p = (t, 1) ↔ egressCandidates p c.nodes c.externalOutbounds = [t] := by
  obtain ⟨names, hr, hperm⟩ := hc.client_names p
  rw [hr]
  constructor
  · intro h
    obtain ⟨name, rfl⟩ := List.length_eq_one_iff.1 (congrArg Prod.snd h)
    have hname : name = t := congrArg Prod.fst h
    rw [← List.singleton_perm.1 hperm, hname]
  · intro h
    rw [h] at hperm
    rw [List.perm_singleton.1 hperm]
    rfl

omit [Library] in
theorem isPolicyOnly_reserve {targets : NameSet} :
    isPolicyOnly (reserveTargets cin targets) t = true ↔
      isPolicyOnly cin t = true ∨ t ∈ targets ∧ targetHasClientGroup cin t "ai" = false := by
  simp only [isPolicyOnly, reserveTargets, GoMap.get_assignAll_true, List.mem_filter, List.mem_map, Bool.not_eq_true']
  refine or_congr_right (and_congr_left fun _ => ?_)
  rw [← AList.lookup_isSome, Option.isSome_iff_exists]
  constructor
  · rintro ⟨⟨k, v⟩, hm, rfl⟩
    exact ⟨v, mem_range.1 hm⟩
  · rintro ⟨v, hv⟩
    exact ⟨(t, v), mem_range.2 hv, rfl⟩

/-- What is reserved for policies has been in the handler's set before. -/
theorem Walks.reserve (hc : Walks c u cred cin) {rules : List RouteRule} {targets : NameSet}
    (h : buildClientPolicies cin = .ok (rules, targets)) : Walks c u cred (reserveTargets cin targets) := by
  refine ⟨hc.toReadsAll.reserve targets, hc.distinct, fun t => ?_⟩
  rw [isPolicyOnly_reserve, hc.policyOnly]
  refine ⟨fun h' => ?_, .inl⟩
  rcases h' with h' | ⟨ht, _⟩
  · exact h'
  · obtain ⟨p, hp, ha, hr⟩ := (buildClientPolicies_ok h).2 t ht
    exact ⟨p, hc.policies ▸ hp, ha, hc.resolves_unique.1 hr⟩

/-- The paths of an input, its selectors and `direct`. -/
def assembled (cin : ClientConfigInput) : List ClientOutbound :=
  (emittedPaths cin).map (fun path => .proxy path.outbound) ++ buildSelectors cin ++ [.direct]

theorem buildClientConfig_ok (hin : clientConfigInput c u cred = .ok cin) {obs : List ClientOutbound}
    (hb : buildClientConfig cin = .ok obs) : ∃ rin, Walks c u cred rin ∧ obs = assembled rin := by
  unfold buildClientConfig at hb
  obtain ⟨⟨rules, targets⟩, hpol, hb⟩ := Except.bind_ok hb
  exact ⟨_, (clientConfigInput_walks hin).reserve hpol, (Except.ok.inj hb).symm⟩

omit [Library] in
theorem proxy_mem_assembled {ob : ProxyOutbound} :
    .proxy ob ∈ assembled cin ↔ ∃ path ∈ emittedPaths cin, path.outbound = ob := by
  simp [assembled, buildSelectors]

omit [Library] in
theorem selector_mem_assembled {members : List String} :
    .selector g members ∈ assembled cin ↔ .selector g members ∈ buildSelectors cin := by
  simp [assembled]

/-! ## Each path once -/

omit [Library] in
theorem mem_emittedPaths {path : Path} :
    path ∈ emittedPaths cin ↔ ∃ I ∈ cin.inboundNodes, path ∈ entryPaths cin I ∧ pathGroups cin path ≠ [] := by
  simp only [emittedPaths, List.mem_filter, List.mem_flatMap, decide_eq_true_eq]
  constructor
  · rintro ⟨⟨I, hI, hp⟩, hg⟩
    exact ⟨I, hI, hp, hg⟩
  · rintro ⟨I, hI, hp, hg⟩
    exact ⟨⟨I, hI, hp⟩, hg⟩

omit [Library] in
theorem entryPaths_entry {path : Path} (h : path ∈ entryPaths cin I) :
    path.entry = I ∧ path.outbound.tag = pathTag path.target.name I.name := by
  obtain ⟨_, _, _, _, _, _, _, rfl⟩ := mem_entryPaths.1 h
  exact ⟨rfl, rfl⟩

omit [Library] in
theorem entryPaths_nodup : ((entryPaths cin I).map fun path => path.outbound.tag).Nodup := by
  have hrefs : ((resolveOutboundNodes cin I.name).map OutboundRef.name).Nodup := by
    unfold resolveOutboundNodes
    split
    · exact List.nodup_nil
    · exact nodup_map_sortOn (nodup_map_firstBy _ _)
  unfold entryPaths
  dsimp only
  split
  · exact List.nodup_nil
  · split
    · exact List.nodup_nil
    · rw [List.map_map]
      change ((resolveOutboundNodes cin I.name).map ((pathTag · I.name) ∘ OutboundRef.name)).Nodup
      rw [← List.map_map]
      exact hrefs.map_on fun t _ t' _ h => (pathTag_inj I.metadata.hash_notMem I.metadata.hash_notMem h).1

theorem Walks.tags_nodup (hc : Walks c u cred cin) :
    ((emittedPaths cin).map fun path => path.outbound.tag).Nodup := by
  refine List.Nodup.sublist (List.filter_sublist.map _) ?_
  rw [List.map_flatMap, List.nodup_flatMap]
  refine ⟨fun I _ => entryPaths_nodup, ?_⟩
  -- the tags of two entry nodes end in different names
  refine (List.pairwise_map.1 hc.distinct).imp fun {I J} hne tag hI hJ => ?_
  obtain ⟨path, hp, rfl⟩ := List.mem_map.1 hI
  obtain ⟨path', hp', htag⟩ := List.mem_map.1 hJ
  rw [(entryPaths_entry hp).2, (entryPaths_entry hp').2] at htag
  exact hne (pathTag_inj J.metadata.hash_notMem I.metadata.hash_notMem htag).2.symm

/-- A path is known by its tag. -/
theorem Walks.isPath_of_tag (hc : Walks c u cred cin) (hI : I ∈ c.nodes) {path : Path} (hp : path ∈ emittedPaths cin)
    (htag : path.outbound.tag = pathTag t I.name) : IsPath cin I t path := by
  obtain ⟨J, hJ, hpath, _⟩ := mem_emittedPaths.1 hp
  obtain ⟨hentry, htag'⟩ := entryPaths_entry hpath
  obtain ⟨ht, hname⟩ := pathTag_inj J.metadata.hash_notMem I.metadata.hash_notMem (htag'.symm.trans htag)
  exact ⟨hp, hentry.trans (Cluster.node_unique (hc.inbound.1 hJ).1 hI hname), ht⟩

theorem Walks.exists_path_listed (hc : Walks c u cred cin) :
    (∃ path, IsPath cin I t path ∧ g ∈ pathGroups cin path) ↔ c.PathTo u I t ∧ c.Listed t g := by
  rw [hc.exists_path_group, ← Bool.not_eq_true, hc.policyOnly]
  rfl

/-- The emitted paths are the advertised ones. -/
theorem Walks.exists_path (hc : Walks c u cred cin) : (∃ path, IsPath cin I t path) ↔ c.Advertised u I t := by
  constructor
  · rintro ⟨path, hpath⟩
    obtain ⟨_, _, _, hg⟩ := mem_emittedPaths.1 hpath.1
    obtain ⟨g, hg⟩ := List.exists_mem_of_ne_nil _ hg
    obtain ⟨hto, hl⟩ := hc.exists_path_listed.1 ⟨path, hpath, hg⟩
    exact ⟨hto, g, hl⟩
  · rintro ⟨hto, g, hl⟩
    obtain ⟨path, hpath, _⟩ := hc.exists_path_listed.2 ⟨hto, hl⟩
    exact ⟨path, hpath⟩

/-- A selector is there when its group has a path, and its members are the paths of the group. -/
theorem Walks.mem_selector (hc : Walks c u cred cin) (hI : I ∈ c.nodes) :
    (∃ members, .selector g members ∈ buildSelectors cin ∧ pathTag t I.name ∈ members) ↔
      c.PathTo u I t ∧ c.Listed t g := by
  rw [← hc.exists_path_listed]
  constructor
  · rintro ⟨members, hsel, hmem⟩
    obtain ⟨g', _, heq⟩ := mem_buildSelectors.1 hsel
    obtain ⟨rfl, rfl⟩ := ClientOutbound.selector.inj heq
    obtain ⟨path, hp, hg, htag⟩ := mem_groupOutbounds.1 (mem_sortCompact.1 hmem)
    exact ⟨path, hc.isPath_of_tag hI hp htag, hg⟩
  · rintro ⟨path, hpath, hg⟩
    have hmem := mem_groupOutbounds.2 ⟨path, hpath.1, hg, rfl⟩
    exact ⟨_, mem_buildSelectors.2 ⟨g, List.ne_nil_of_mem hmem, rfl⟩, hpath.tag ▸ mem_sortCompact.2 hmem⟩

end

/-- The proxy outbounds under the tag of the path over `I` to `t`. -/
def proxiesFor (obs : List ClientOutbound) (I : SingBoxNode) (t : String) : List ClientOutbound :=
  obs.filter fun ob => match ob with
    | .proxy p => p.tag = pathTag t I.name
    | _ => false

/-- The proxy outbounds are the advertised paths, each once; the selectors are those of their groups. -/
structure AdvertisesExactly [Library] (c : Cluster) (u : User) (cred : UserCredential) (obs : List ClientOutbound) :
    Prop where
  once : ∀ I t, c.Advertised u I t → ∃ address port,
    findEntryEndpoint I.status.entryEndpoints (effectiveInboundProtocol I) = some (address, port) ∧
      proxiesFor obs I t = [.proxy (buildProxyOutbound (pathTag t I.name) address port (effectiveInboundProtocol I)
        u.name t I.status.tlsServerName cred)]
  no_other : ∀ I ∈ c.nodes, ∀ t, ¬ c.Advertised u I t → proxiesFor obs I t = []
  known : ∀ ob, .proxy ob ∈ obs → ∃ I t, c.Advertised u I t ∧ ob.tag = pathTag t I.name
  members : ∀ I ∈ c.nodes, ∀ t g,
    (∃ members, .selector g members ∈ obs ∧ pathTag t I.name ∈ members) ↔ c.PathTo u I t ∧ c.Listed t g

section
variable [Library] [MapOrder] {c : Cluster} {u : User} {cred : UserCredential} {cin : ClientConfigInput}
  {obs : List ClientOutbound}

omit [Library] in
theorem proxiesFor_assembled (I : SingBoxNode) (t : String) :
    proxiesFor (assembled cin) I t =
      ((emittedPaths cin).filter fun path => path.outbound.tag = pathTag t I.name).map
        fun path => .proxy path.outbound := by
  have hsel : proxiesFor (buildSelectors cin) I t = [] := by
    refine List.filter_eq_nil_iff.2 fun ob hob => ?_
    obtain ⟨g, _, rfl⟩ := mem_buildSelectors.1 hob
    simp
  unfold proxiesFor assembled at *
  rw [List.filter_append, List.filter_append, hsel, List.filter_map]
  simp only [List.append_nil, List.filter_cons_of_neg, Bool.false_eq_true, not_false_eq_true, List.filter_nil]
  rfl

theorem Walks.advertisesExactly (hc : Walks c u cred cin) : AdvertisesExactly c u cred (assembled cin) where
  once I t h := by
    obtain ⟨path, hpath⟩ := hc.exists_path.2 h
    obtain ⟨J, _, hp, _⟩ := mem_emittedPaths.1 hpath.1
    have htag := hpath.tag
    have hone := filter_eq_singleton hc.tags_nodup hpath.1
    obtain ⟨_, _, address, port, hep, ref, _, rfl⟩ := mem_entryPaths.1 hp
    obtain rfl : J = I := hpath.2.1
    obtain rfl : ref.name = t := hpath.2.2
    refine ⟨address, port, hep, ?_⟩
    rw [proxiesFor_assembled, ← htag, hone, ← hc.user, ← hc.userCred]
    rfl
  no_other I hI t h := by
    rw [proxiesFor_assembled, List.map_eq_nil_iff, List.filter_eq_nil_iff]
    intro path hp htag
    exact h (hc.exists_path.1 ⟨path, hc.isPath_of_tag hI hp (of_decide_eq_true htag)⟩)
  known ob hob := by
    obtain ⟨path, hp, rfl⟩ := proxy_mem_assembled.1 hob
    obtain ⟨J, hJ, hpath, _⟩ := mem_emittedPaths.1 hp
    obtain ⟨hentry, htag⟩ := entryPaths_entry hpath
    exact ⟨J, path.target.name, hc.exists_path.1 ⟨path, hp, hentry, rfl⟩, htag⟩
  members I hI t g := by
    simp only [← hc.mem_selector hI, selector_mem_assembled]

end

/-! ## The order of the maps -/

section
variable [Library] {c : Cluster} {u : User} {cred : UserCredential} {cin : ClientConfigInput}

theorem addClientPolicy_order (hc : ReadsCluster c u cred cin) (o o' : MapOrder) :
    @addClientPolicy o _ cin = @addClientPolicy o' _ cin := by
  funext acc p
  obtain ⟨names, hr, hperm⟩ := @ReadsCluster.client_names _ o _ _ _ _ hc p
  obtain ⟨names', hr', hperm'⟩ := @ReadsCluster.client_names _ o' _ _ _ _ hc p
  have hlen : names.length = names'.length := hperm.length_eq.trans hperm'.length_eq.symm
  unfold addClientPolicy
  by_cases h1 : names.length = 1
  · obtain ⟨name, rfl⟩ := List.length_eq_one_iff.1 h1
    obtain rfl : [name] = names' := List.singleton_perm.1 (hperm.trans hperm'.symm)
    rw [hr, hr']
  · -- the name is not looked at when there is more than one match
    rw [hr, hr']
    by_cases h0 : names.length = 0
    · simp [h0, ← hlen]
    · simp [h0, h1, ← hlen]

variable {s : NameSet}

omit [Library] in
theorem resolveOutboundNodes_order (hc : ReadsCluster c u cred cin)
    (hs : ∀ t, s.get t false = cin.policyOnlyEgressNames.get t false) (o o' : MapOrder) (name : String) :
    @resolveOutboundNodes o { cin with policyOnlyEgressNames := s } name = @resolveOutboundNodes o' cin name := by
  have hsel : ∀ I t, isSelectable { cin with policyOnlyEgressNames := s } I t = isSelectable cin I t := by
    intro I t
    unfold isSelectable isPolicyOnly
    rw [hs]
    rfl
  have hnode : ∀ I n, nodeRef { cin with policyOnlyEgressNames := s } I n = nodeRef cin I n := by
    intro I n
    unfold nodeRef
    rw [hsel]
    rfl
  have hself : ∀ I, selfRef { cin with policyOnlyEgressNames := s } I = selfRef cin I := by
    intro I
    unfold selfRef
    rw [hsel]
    rfl
  have hext : ∀ I e, externalRef { cin with policyOnlyEgressNames := s } I e = externalRef cin I e := by
    intro I e
    unfold externalRef
    rw [hsel]
  unfold resolveOutboundNodes
  cases cin.inboundNodes.find? fun n => n.name = name with
  | none => rfl
  | some I =>
    have hroutes : (∅ : GoMap String (List CustomRoute)).get name [] = [] := rfl
    simp only [hnode, hself, hext]
    simp only [hc.routes, hroutes, List.filterMap_nil, List.append_nil]
    refine sortOn_firstBy_congr fun k => ?_
    rw [List.find?_append, List.find?_append, List.find?_append, List.find?_append]
    congr 1
    · congr 1
      refine find?_filterMap_range o o' _ _ (fun k n ref hl href => ?_) k
      obtain ⟨_, rfl⟩ := nodeRef_eq_some.1 href
      exact (hc.outbound.1 hl).2
    · refine find?_filterMap_range o o' _ _ (fun k e ref hl href => ?_) k
      simp only [Option.ite_none_right_eq_some] at href
      obtain ⟨_, rfl⟩ := externalRef_eq_some.1 href.2
      exact (hc.external.1 hl).2

omit [Library] in
theorem emittedPaths_order (hc : ReadsCluster c u cred cin)
    (hs : ∀ t, s.get t false = cin.policyOnlyEgressNames.get t false) (o o' : MapOrder) :
    @emittedPaths o { cin with policyOnlyEgressNames := s } = @emittedPaths o' cin := by
  have hentry : ∀ I, @entryPaths o { cin with policyOnlyEgressNames := s } I = @entryPaths o' cin I := by
    intro I
    unfold entryPaths
    rw [resolveOutboundNodes_order hc hs o o']
    rfl
  have hgroups : ∀ path, pathGroups { cin with policyOnlyEgressNames := s } path = pathGroups cin path := by
    intro path
    unfold pathGroups isPolicyOnly
    rw [hs]
  unfold emittedPaths
  simp only [hgroups]
  congr 2
  funext I
  exact hentry I

omit [Library] in
theorem buildSelectors_order (hc : ReadsCluster c u cred cin)
    (hs : ∀ t, s.get t false = cin.policyOnlyEgressNames.get t false) (o o' : MapOrder) :
    @buildSelectors o { cin with policyOnlyEgressNames := s } = @buildSelectors o' cin := by
  have hgroups : @groupOutbounds o { cin with policyOnlyEgressNames := s } = @groupOutbounds o' cin := by
    unfold groupOutbounds
    rw [emittedPaths_order hc hs o o']
    unfold pathGroups isPolicyOnly
    simp only [hs]
  unfold buildSelectors
  rw [hgroups]
  refine congrArg (List.map _) (sortOn_eq_of_perm (fun _ _ _ _ h => h) ?_)
  exact ((range_perm_of_lookup_eq o o' _ _ fun _ => rfl).filter _).map Prod.fst

/-- The result is the same, also when it is an error, in whatever order the maps are read. -/
theorem buildClientConfig_order (hc : ReadsCluster c u cred cin) (o o' : MapOrder) :
    @buildClientConfig o _ cin = @buildClientConfig o' _ cin := by
  have hpol : @buildClientPolicies o _ cin = @buildClientPolicies o' _ cin := by
    unfold buildClientPolicies
    rw [addClientPolicy_order hc o o']
  unfold buildClientConfig
  rw [hpol]
  cases @buildClientPolicies o' _ cin with
  | error e => rfl
  | ok res =>
    obtain ⟨rules, targets⟩ := res
    have hs : ∀ t, (@reserveTargets o cin targets).policyOnlyEgressNames.get t false =
        (@reserveTargets o' cin targets).policyOnlyEgressNames.get t false := by
      intro t
      rw [Bool.eq_iff_iff]
      exact (@isPolicyOnly_reserve _ t o targets).trans (@isPolicyOnly_reserve _ t o' targets).symm
    have hc' := @ReadsCluster.reserve _ _ _ _ o' hc targets
    have hpaths := emittedPaths_order hc' hs o o'
    have hsel := buildSelectors_order hc' hs o o'
    change Except.ok ((@emittedPaths o (@reserveTargets o cin targets)).map _ ++
      @buildSelectors o (@reserveTargets o cin targets) ++ _) = _
    rw [show @reserveTargets o cin targets = { @reserveTargets o' cin targets with
      policyOnlyEgressNames := (@reserveTargets o cin targets).policyOnlyEgressNames } from rfl, hpaths, hsel]
    rfl

end

/-- Exactly the advertised paths are emitted, and the order in which maps are read does not show. -/
theorem buildClientConfig_exact [Library] {c : Cluster} {u : User} {cred : UserCredential} {cin : ClientConfigInput}
    (hin : clientConfigInput c u cred = .ok cin) :
    (∀ (o : MapOrder) (obs : List ClientOutbound), @buildClientConfig o _ cin = .ok obs →
      AdvertisesExactly c u cred obs) ∧
    ∀ o o' : MapOrder, @buildClientConfig o _ cin = @buildClientConfig o' _ cin := by
  refine ⟨fun o obs hb => ?_, buildClientConfig_order (clientConfigInput_reads hin)⟩
  obtain ⟨rin, hc, rfl⟩ := @buildClientConfig_ok _ _ _ _ _ o hin obs hb
  exact hc.advertisesExactly

/-! ### A user whose group is denied one of two targets -/

section
attribute [local instance] plainLibrary storedOrder

def aliceOfStaff : User := { alice with spec := { alice.spec with userGroupRef := "staff" } }

def staffCluster : Cluster :=
  { pathCluster with
    users := [aliceOfStaff]
    userGroup := fun _ => .ok { metadata := .named "staff", spec := { deniedNodes := ["upstream"] } }
    users_nodup := List.nodup_singleton _ }

def staffInput : ClientConfigInput :=
  { pathInput with user := aliceOfStaff, deniedNodeNames := nameSet ["upstream"] }

def staffOutbounds : List ClientOutbound :=
  [.proxy (pathOutbound "hop"), .selector "hk" ["hop#gate"], .direct]

theorem staffInput_read : clientConfigInput staffCluster aliceOfStaff ⟨aliceUUID⟩ = .ok staffInput := by rfl

theorem staffInput_built : buildClientConfig staffInput = .ok staffOutbounds := by rfl

/-- The path goes through the relay `hop`; the one to `upstream` is not there. -/
theorem buildClientConfig_exact_staff :
    AdvertisesExactly staffCluster aliceOfStaff ⟨aliceUUID⟩ staffOutbounds ∧
      ∀ o : MapOrder, @buildClientConfig o _ staffInput = .ok staffOutbounds := by
  obtain ⟨hexact, horder⟩ := buildClientConfig_exact staffInput_read
  exact ⟨hexact _ _ staffInput_built, fun o => (horder o storedOrder).trans staffInput_built⟩

end

/-! ## Tags -/

/-- What a client needs of its outbounds: distinct tags with one `direct`, and
selectors that are not empty, strictly sorted and have proxies as members. -/
structure WellFormedOutbounds (obs : List ClientOutbound) : Prop where
  distinct : (obs.map ClientOutbound.tag).Nodup
  direct : obs.filter (fun ob => ob.tag = "direct") = [.direct]
  nonempty : ∀ g members, .selector g members ∈ obs → members ≠ []
  sorted : ∀ g members, .selector g members ∈ obs → members.Pairwise (· < ·)
  proxies : ∀ g members, .selector g members ∈ obs → ∀ m ∈ members, ∃ ob, .proxy ob ∈ obs ∧ ob.tag = m

/-- No path is tagged like a selector there is, or like `direct`: an entry node
can have such a name only while no path to a target of its name is advertised over it. -/
def Cluster.TagsFree [Library] (c : Cluster) (u : User) : Prop :=
  ∀ I, c.Advertised u I I.name → I.name ≠ "direct" ∧ ∀ J t, c.PathTo u J t → ¬ c.Listed t I.name

section
variable [Library] [MapOrder] {c : Cluster} {u : User} {cred : UserCredential} {cin : ClientConfigInput}

omit [Library] [MapOrder] in
/-- A tag without `#` is that of a path to the entry node's own name. -/
theorem pathTag_eq {t i tag : String} (hhash : '#' ∉ tag.toList) (h : pathTag t i = tag) : t = i ∧ i = tag := by
  unfold pathTag at h
  split at h
  · rename_i ht
    exact ⟨ht, ht.symm.trans h⟩
  · exact absurd (h ▸ by simp [String.toList_append]) hhash

omit [Library] [MapOrder] in
theorem hash_notMem_group {g : String} (h : g ∈ clientGroups) : '#' ∉ g.toList := by
  revert g
  decide

omit [Library] [MapOrder] in
theorem pathGroups_subset {path : Path} {g : String} (h : g ∈ pathGroups cin path) : g ∈ clientGroups := by
  have hg := (List.mem_filter.1 h).2
  rw [Bool.and_eq_true, decide_eq_true_eq] at hg
  exact hg.1

omit [Library] in
/-- The tags of the selectors are client groups, each once. -/
theorem buildSelectors_tags :
    ((buildSelectors cin).map ClientOutbound.tag).Nodup ∧
      ∀ tag ∈ (buildSelectors cin).map ClientOutbound.tag, ∃ path ∈ emittedPaths cin, tag ∈ pathGroups cin path := by
  have htags : (buildSelectors cin).map ClientOutbound.tag =
      sortOn id (((MapOrder.range ["BuildClientConfig"] (groupOutbounds cin)).filter fun g => g.2 ≠ []).map Prod.fst) := by
    unfold buildSelectors
    rw [List.map_map]
    exact List.map_id _
  constructor
  · rw [htags, (sortOn_perm id _).nodup_iff]
    exact (nodup_range_keys _ _).sublist (List.filter_sublist.map _)
  · intro tag htag
    obtain ⟨ob, hob, rfl⟩ := List.mem_map.1 htag
    obtain ⟨g, hne, rfl⟩ := mem_buildSelectors.1 hob
    obtain ⟨member, hm⟩ := List.exists_mem_of_ne_nil _ hne
    obtain ⟨path, hp, hg, _⟩ := mem_groupOutbounds.1 hm
    exact ⟨path, hp, hg⟩

omit [Library] in
/-- The selectors are as they should be, whatever the names. -/
theorem selectors_wellFormed {g : String} {members : List String} (h : .selector g members ∈ assembled cin) :
    members ≠ [] ∧ members.Pairwise (· < ·) ∧ ∀ m ∈ members, ∃ ob, .proxy ob ∈ assembled cin ∧ ob.tag = m := by
  obtain ⟨g', hne, heq⟩ := mem_buildSelectors.1 (selector_mem_assembled.1 h)
  obtain ⟨rfl, rfl⟩ := ClientOutbound.selector.inj heq
  refine ⟨?_, pairwise_lt_destutter_ne (sortOn_pairwise id _), fun m hm => ?_⟩
  · obtain ⟨member, hm⟩ := List.exists_mem_of_ne_nil _ hne
    exact List.ne_nil_of_mem (mem_sortCompact.2 hm)
  · obtain ⟨path, hp, _, rfl⟩ := mem_groupOutbounds.1 (mem_sortCompact.1 hm)
    exact ⟨path.outbound, proxy_mem_assembled.2 ⟨path, hp, rfl⟩, rfl⟩

/-- A path whose tag is one of the fixed ones goes to the entry node's own name. -/
theorem Walks.own_name (hc : Walks c u cred cin) {path : Path} (hp : path ∈ emittedPaths cin)
    (hhash : '#' ∉ path.outbound.tag.toList) : ∃ I, c.Advertised u I I.name ∧ I.name = path.outbound.tag := by
  obtain ⟨I, hI, hpath, _⟩ := mem_emittedPaths.1 hp
  obtain ⟨hentry, htag⟩ := entryPaths_entry hpath
  obtain ⟨ht, hname⟩ := pathTag_eq hhash htag.symm
  exact ⟨I, hc.exists_path.1 ⟨path, hp, hentry, ht⟩, hname⟩

theorem Walks.tag_ne_selector (hc : Walks c u cred cin) (hfree : c.TagsFree u) {path : Path}
    (hp : path ∈ emittedPaths cin) : path.outbound.tag ∉ (buildSelectors cin).map ClientOutbound.tag := by
  intro htag
  obtain ⟨path', hp', hg⟩ := buildSelectors_tags.2 _ htag
  obtain ⟨I, hadv, hname⟩ := hc.own_name hp (hash_notMem_group (pathGroups_subset hg))
  obtain ⟨J, hJ, hpath', _⟩ := mem_emittedPaths.1 hp'
  obtain ⟨hto, hl⟩ := hc.exists_path_listed.1 ⟨path', ⟨hp', (entryPaths_entry hpath').1, rfl⟩, hg⟩
  exact (hfree I hadv).2 J _ hto (hname ▸ hl)

theorem Walks.tag_ne_direct (hc : Walks c u cred cin) (hfree : c.TagsFree u) {path : Path}
    (hp : path ∈ emittedPaths cin) : path.outbound.tag ≠ "direct" := by
  intro htag
  obtain ⟨I, hadv, hname⟩ := hc.own_name hp (htag ▸ by decide)
  exact (hfree I hadv).1 (hname.trans htag)

omit [Library] in
theorem direct_notMem_selectors : "direct" ∉ (buildSelectors cin).map ClientOutbound.tag := by
  intro h
  obtain ⟨path, _, hg⟩ := buildSelectors_tags.2 _ h
  exact absurd (pathGroups_subset hg) (by decide)

theorem Walks.tags_distinct (hc : Walks c u cred cin) (hfree : c.TagsFree u) :
    ((assembled cin).map ClientOutbound.tag).Nodup := by
  unfold assembled
  rw [List.map_append, List.map_append, List.map_map, List.nodup_append, List.nodup_append]
  refine ⟨⟨hc.tags_nodup, buildSelectors_tags.1, ?_⟩, List.nodup_singleton _, ?_⟩
  · rintro _ htag tag htag' rfl
    obtain ⟨path, hp, rfl⟩ := List.mem_map.1 htag
    exact hc.tag_ne_selector hfree hp htag'
  · rintro _ htag tag htag' rfl
    rw [List.map_singleton, List.mem_singleton] at htag'
    rcases List.mem_append.1 htag with h | h
    · obtain ⟨path, hp, heq⟩ := List.mem_map.1 h
      exact hc.tag_ne_direct hfree hp (heq.trans htag')
    · exact direct_notMem_selectors (htag' ▸ h)

theorem Walks.wellFormedOutbounds (hc : Walks c u cred cin) :
    WellFormedOutbounds (assembled cin) ↔ c.TagsFree u := by
  constructor
  · intro hw I hadv
    -- the path to its own name is tagged with the name of the entry node
    obtain ⟨path, hpath⟩ := hc.exists_path.2 hadv
    have htag : path.outbound.tag = I.name := hpath.tag.trans (if_pos rfl)
    have hob := proxy_mem_assembled.2 ⟨path, hpath.1, rfl⟩
    refine ⟨fun hdirect => ?_, fun J t hto hl => ?_⟩
    · have hmem : .proxy path.outbound ∈ (assembled cin).filter fun ob => ob.tag = "direct" :=
        List.mem_filter.2 ⟨hob, decide_eq_true (htag.trans hdirect)⟩
      rw [hw.direct, List.mem_singleton] at hmem
      cases hmem
    · obtain ⟨members, hsel, _⟩ := (hc.advertisesExactly.members J hto.entry t I.name).2 ⟨hto, hl⟩
      have heq := List.inj_on_of_nodup_map hw.distinct hob hsel htag
      cases heq
  · intro hfree
    have hdirect := filter_eq_singleton (hc.tags_distinct hfree)
      (List.mem_append_right _ (List.mem_singleton_self ClientOutbound.direct))
    exact ⟨hc.tags_distinct hfree, hdirect, fun _ _ h => (selectors_wellFormed h).1,
      fun _ _ h => (selectors_wellFormed h).2.1, fun _ _ h => (selectors_wellFormed h).2.2⟩

end

/-- The outbounds are well formed exactly when no path is tagged like a selector or like `direct`. -/
theorem wellFormedOutbounds_iff [Library] [MapOrder] {c : Cluster} {u : User} {cred : UserCredential}
    {cin : ClientConfigInput} (hin : clientConfigInput c u cred = .ok cin) {obs : List ClientOutbound}
    (hb : buildClientConfig cin = .ok obs) : WellFormedOutbounds obs ↔ c.TagsFree u := by
  obtain ⟨rin, hc, rfl⟩ := buildClientConfig_ok hin hb
  exact hc.wellFormedOutbounds

/-! ### A node with the name of its region -/

def hkNode : SingBoxNode where
  metadata := .named "hk"
  spec :=
    { SingBoxNodeSpec.bare with
      address := "hk.test", region := "hk", roles := [.inbound, .outbound], clientGroups := ["hk"],
      supportedProtocols := [Port.https.listener .hysteria2] }
  status := { entryEndpoints := ["hysteria2:hk.test:443"] }

def hkCluster : Cluster where
  ns := "proxy"
  nodes := [hkNode]
  users := [alice]
  secret := pathCluster.secret
  nodes_nodup := List.nodup_singleton _
  externalOutbounds_nodup := noExternals_nodup
  users_nodup := edgeCluster.users_nodup
  policies_nodup := noPolicies_nodup

def hkInput : ClientConfigInput where
  user := alice
  userCred := ⟨aliceUUID⟩
  inboundNodes := [hkNode]
  outboundsByName := GoMap.assignAll SingBoxNode.name id ∅ [hkNode]

/-- The selector `hk` has itself as a member. -/
def hkOutbounds : List ClientOutbound :=
  [.proxy (buildProxyOutbound "hk" "hk.test" 443 .hysteria2 "alice" "hk" "" ⟨aliceUUID⟩), .selector "hk" ["hk"], .direct]

section
attribute [local instance] plainLibrary storedOrder

theorem hk_matched : matchUser hkCluster aliceUUID = some (alice, ⟨aliceUUID⟩) := by rfl

theorem hkInput_read : clientConfigInput hkCluster alice ⟨aliceUUID⟩ = .ok hkInput := by rfl

theorem hkInput_built : buildClientConfig hkInput = .ok hkOutbounds := by rfl

theorem hkOutbounds_not_distinct : ¬ (hkOutbounds.map ClientOutbound.tag).Nodup := by decide

theorem not_forall_wellFormedOutbounds :
    ¬ ∀ [Library] [MapOrder] (c : Cluster) (u : User) (cred : UserCredential) (cin : ClientConfigInput)
      (obs : List ClientOutbound) (requestUUID : String), matchUser c requestUUID = some (u, cred) →
        clientConfigInput c u cred = .ok cin → buildClientConfig cin = .ok obs → WellFormedOutbounds obs := by
  intro h
  exact hkOutbounds_not_distinct (h hkCluster alice _ _ _ _ hk_matched hkInput_read hkInput_built).distinct

theorem wellFormedOutbounds_iff_hk : ¬ hkCluster.TagsFree alice := fun hfree =>
  hkOutbounds_not_distinct ((wellFormedOutbounds_iff hkInput_read hkInput_built).2 hfree).distinct

end

end SingboxOperator
