import SingboxOperator.ApiServer.Merge
/-!
# References to `proxy`

Templates from before the regional selectors send traffic to an outbound
`proxy` that is no longer generated. Four pieces of code rewrite such
references, each in one place of the document. What none of them looks at
stays behind.
-/
open SingboxOperator.Lib

namespace SingboxOperator

/-! ## The references of a config -/

def outboundRef (r : Value) : Option String := r.asObject.bind fun rule => (rule.get "outbound").asString

def detourRef (r : Value) : Option String := r.asObject.bind fun server => (server.get "detour").asString

/-- A download detour, and the detour of an inline HTTP client. -/
def ruleSetRefs (r : Value) : List String :=
  (r.asObject.bind fun set => (set.get "download_detour").asString).toList ++
    (r.asObject.bind fun set => detourRef (set.get "http_client")).toList

/-- Every outbound a config refers to. -/
def outboundRefs (m : Object) : List String :=
  (mergedRules m).filterMap outboundRef ++ (finalOutbound m).asString.toList ++ (ruleSets m).flatMap ruleSetRefs ++
    (dnsServers m).filterMap detourRef

/-- What a rule set is downloaded through: an HTTP client it has goes before a download detour. -/
def ruleSetDetour (r : Value) : Option String :=
  r.asObject.bind fun set =>
    if (set.get "download_detour").asString.isSome && !set.has "http_client" then (set.get "download_detour").asString
    else detourRef (set.get "http_client")

def isServer (tag : String) (raw : Value) : Bool := raw.asObject.any fun server => (server.get "tag").isString tag

/-- The places where `proxy` stays behind: a leading rule, the final outbound
when no region has a selector, a rule set, and a DNS server that is not managed. -/
def LeavesProxy (t : Object) (tags : List String) : Prop :=
  (∃ r ∈ (mergedRules t).takeWhile isLeadingRule, outboundRef r = some "proxy") ∨
    (finalOutbound t = .str "proxy" ∧ ∀ mode ∈ clientRegionModes, mode.tag ∉ tags) ∨
    (∃ set ∈ ruleSets t, ruleSetDetour set = some "proxy") ∨
    ∃ server ∈ (dnsServers t).eraseP (isServer proxyDNSTag), detourRef server = some "proxy"

/-! ## Tags -/

theorem tag_toValue (ob : ClientOutbound) :
    (ob.toValue.asObject.bind fun v => (v.get "tag").asString) = some ob.tag := by
  cases ob <;> rfl

theorem outboundTags_toValue (obs : List ClientOutbound) :
    outboundTags (obs.map ClientOutbound.toValue) = obs.map ClientOutbound.tag := by
  simp only [outboundTags, List.filterMap_map, Function.comp_def, tag_toValue]
  exact congrFun List.filterMap_eq_map obs

theorem outboundTags_bootstrap (parseAddr : String → Bool) (outbounds : List Value) :
    outboundTags (outbounds.map (bootstrap parseAddr)) = outboundTags outbounds := by
  simp only [outboundTags, List.filterMap_map]
  refine List.filterMap_congr fun ob _ => ?_
  simp only [Function.comp_def, bootstrap]
  cases hob : ob.asObject with
  | none => simp [hob]
  | some outbound =>
    by_cases h : needsBootstrap parseAddr outbound = true
    · simp [h, Value.asObject, Object.get_set_ne]
    · simp [h, hob]

theorem MergedFrom.tags {parseAddr : String → Bool} {t m : Object} {generated : List Value} {rules : List RouteRule}
    (h : MergedFrom parseAddr t generated rules m) : outboundTags (mergedOutbounds m) = outboundTags generated := by
  rcases h.outbounds with h | h
  · rw [h]
  · rw [h, outboundTags_bootstrap]

/-! ## What becomes of the references -/

theorem outboundRef_eq_some {r : Value} {ref : String} :
    outboundRef r = some ref ↔ ∃ rule : Object, r = .obj rule ∧ rule.get "outbound" = .str ref := by
  simp [outboundRef, Option.bind_eq_some_iff]

theorem detourRef_eq_some {r : Value} {ref : String} :
    detourRef r = some ref ↔ ∃ server : Object, r = .obj server ∧ server.get "detour" = .str ref := by
  simp [detourRef, Option.bind_eq_some_iff]

/-- Of the two fields of a rule set one is left. -/
theorem ruleSetRefs_normalize (r : Value) : ruleSetRefs (normalizeRuleSet r) = (ruleSetDetour r).toList := by
  unfold normalizeRuleSet ruleSetDetour ruleSetRefs
  cases hr : r.asObject with
  | none => simp [hr]
  | some set =>
    cases hd : (set.get "download_detour").asString with
    | none => simp [hr, hd]
    | some detour =>
      simp only [hd, Option.bind_some, Option.isSome_some, Bool.true_and]
      by_cases hh : set.has "http_client" = true
      · simp [hh, Object.get_delete_ne]
      · simp [hh, Object.get_delete_ne, detourRef, Object.get]

/-- A rule that is retained goes where it went before, but not to `proxy`. -/
theorem outboundRef_retainRule {r r' : Value} {ref : String} (h : retainRule r = some r')
    (href : outboundRef r' = some ref) : ref = "direct" ∨ outboundRef r = some ref ∧ ref ≠ "proxy" := by
  rcases retainRule_cases r with ⟨_, hnone⟩ | ⟨_, r'', hsome, hkept⟩
  · rw [hnone] at h
    cases h
  · obtain rfl : r'' = r' := Option.some.inj (hsome.symm.trans h)
    obtain ⟨rule, rfl, hout⟩ := outboundRef_eq_some.1 href
    rcases hkept with ⟨hno, rfl⟩ | ⟨_, rule', _, heq, _, hdirect, _⟩
    · exact .inr ⟨href, fun hproxy => hno rule rfl (hproxy ▸ hout)⟩
    · obtain rfl := Value.obj.inj heq
      exact .inl (Value.str.inj (hout.symm.trans hdirect))

/-- No reference of the rules is `proxy`, but those of the leading rules. -/
theorem outboundRef_mergeRules {config : Object} {original : List Value} {tags : List String}
    (hlegacy : ∀ r ∈ original, ∀ ref, outboundRef r = some ref → ref = "direct" ∨ ref = "proxy") {r : Value}
    {ref : String} (hr : r ∈ mergeRules config [] original tags) (href : outboundRef r = some ref) :
    ref = "direct" ∨ ref ∈ tags ∨ r ∈ original.takeWhile isLeadingRule ∧ ref = "proxy" := by
  have htail : ∀ {r}, r ∈ original.dropWhile isLeadingRule → r ∈ original := fun h => (List.dropWhile_sublist _).subset h
  unfold mergeRules at hr
  simp only [List.append_assoc, List.mem_append, List.not_mem_nil, false_or] at hr
  rcases hr with hr | hr | hr | hr | hr
  · rcases hlegacy r ((List.takeWhile_sublist _).subset hr) ref href with h | h
    · exact .inl h
    · exact .inr (.inr ⟨hr, h⟩)
  · -- the rule that resolves has no outbound
    split at hr
    · rw [List.mem_singleton] at hr
      subst hr
      cases href
    · cases hr
  · obtain ⟨rule, rfl, hout⟩ := outboundRef_eq_some.1 href
    have hdirect : ((rule.get "outbound").isString "direct" && _) = true := (List.mem_filter.1 hr).2
    rw [hout, Bool.and_eq_true, Value.isString_iff] at hdirect
    exact .inl (Value.str.inj hdirect.1)
  · obtain ⟨mode, hmem, htag, rfl | rfl⟩ := mem_modeRules.1 hr
    · obtain rfl : mode.tag = ref := Option.some.inj href
      exact .inr (.inl htag)
    · obtain rfl : proxySelectorOf tags = ref := Option.some.inj href
      exact .inr (.inl (proxySelectorOf_mem (proxySelectorOf_ne_empty.2 ⟨mode, hmem, htag⟩)))
  · obtain ⟨r₀, hr₀, hretain⟩ := List.mem_filterMap.1 hr
    rcases outboundRef_retainRule hretain href with h | ⟨href₀, hne⟩
    · exact .inl h
    · exact .inl ((hlegacy r₀ (htail (List.mem_filter.1 hr₀).1) ref href₀).resolve_right hne)

/-- A server that is replaced takes its reference with it. -/
theorem mem_replaceServer {tag : String} {server : Object} {servers : List Value} {r : Value} :
    r ∈ replaceServer tag server servers ↔
      r ∈ servers.eraseP (isServer tag) ∨ (∃ old ∈ servers, isServer tag old = true) ∧ r = .obj server := by
  induction servers with
  | nil => simp [replaceServer]
  | cons raw rest ih =>
    unfold replaceServer
    change r ∈ (if isServer tag raw = true then .obj server :: rest else raw :: replaceServer tag server rest) ↔ _
    by_cases h : isServer tag raw = true
    · simp [h, or_comm]
    · simp [h, ih, or_assoc]

theorem clientDNSServer_eq_none {m : Object} {tag : String} (h : clientDNSServer m tag = none) :
    ∀ server ∈ dnsServers m, isServer tag server = false := by
  intro raw hraw
  have hnone := List.findSome?_eq_none_iff.1 h raw hraw
  unfold isServer
  cases hobj : raw.asObject with
  | none => rfl
  | some server =>
    rw [hobj] at hnone
    rw [Option.any_some, ← Bool.not_eq_true, Value.isString_iff]
    simpa using hnone

/-- The managed server goes through the first regional selector, or has no detour. -/
theorem detourRef_managedDNS {tags : List String} {proxyDNS : Object} {ref : String}
    (h : detourRef (.obj (managedDNS tags proxyDNS)) = some ref) : ref ∈ tags := by
  obtain ⟨_, hobj, hdetour⟩ := detourRef_eq_some.1 h
  obtain rfl := Value.obj.inj hobj
  unfold managedDNS at hdetour
  split at hdetour
  · rename_i hsel
    rw [Object.get_set_self] at hdetour
    exact Value.str.inj hdetour ▸ proxySelectorOf_mem hsel
  · rw [Object.get_delete_self] at hdetour
    cases hdetour

theorem detourRef_regionalDNS {tags : List String} {proxyDNS : Object} {r : Value} {ref : String}
    (hr : r ∈ regionalDNS tags proxyDNS) (h : detourRef r = some ref) : ref ∈ tags := by
  obtain ⟨mode, hmode, rfl⟩ := List.mem_map.1 hr
  obtain ⟨_, hobj, hdetour⟩ := detourRef_eq_some.1 h
  obtain rfl := Value.obj.inj hobj
  rw [Object.get_set_self] at hdetour
  exact Value.str.inj hdetour ▸ of_decide_eq_true (List.mem_filter.1 hmode).2

/-- The references of the servers: those of the servers that are not managed, and regional selectors. -/
theorem ManagesServers.detours {t : Object} {tags : List String} {servers : List Value}
    (h : ManagesServers t tags servers) :
    (∀ r ∈ servers, ∀ ref, detourRef r = some ref →
      ref ∈ tags ∨ ∃ r' ∈ (dnsServers t).eraseP (isServer proxyDNSTag), detourRef r' = some ref) ∧
    ∀ r ∈ (dnsServers t).eraseP (isServer proxyDNSTag), r ∈ servers := by
  unfold ManagesServers at h
  cases hsrv : clientDNSServer t proxyDNSTag with
  | none =>
    rw [hsrv] at h
    have herase : (dnsServers t).eraseP (isServer proxyDNSTag) = dnsServers t :=
      List.eraseP_of_forall_not fun r hr => by simp [clientDNSServer_eq_none hsrv r hr]
    rw [herase]
    obtain rfl : servers = dnsServers t := h
    exact ⟨fun r hr ref href => .inr ⟨r, hr, href⟩, fun r hr => hr⟩
  | some proxyDNS =>
    rw [hsrv] at h
    obtain ⟨bootstrapServer, hboot, rfl⟩ := h
    refine ⟨fun r hr ref href => ?_, fun r hr => ?_⟩
    · rcases List.mem_append.1 hr with hr | hr
      · rcases List.mem_append.1 hr with hr | hr
        · rcases mem_replaceServer.1 hr with hr | ⟨_, rfl⟩
          · exact .inr ⟨r, hr, href⟩
          · exact .inl (detourRef_managedDNS href)
        · exact .inl (detourRef_regionalDNS hr href)
      · rcases hboot with rfl | rfl
        · cases hr
        · rw [List.mem_singleton] at hr
          subst hr
          cases href
    · exact List.mem_append_left _ (List.mem_append_left _ (mem_replaceServer.2 (.inl hr)))

/-! ## Dangling references -/

theorem mem_outboundRefs {m : Object} {ref : String} :
    ref ∈ outboundRefs m ↔ (∃ r ∈ mergedRules m, outboundRef r = some ref) ∨ finalOutbound m = .str ref ∨
      (∃ set ∈ ruleSets m, ref ∈ ruleSetRefs set) ∨ ∃ server ∈ dnsServers m, detourRef server = some ref := by
  simp [outboundRefs]

theorem ruleSetDetour_mem {r : Value} {ref : String} (h : ruleSetDetour r = some ref) : ref ∈ ruleSetRefs r := by
  unfold ruleSetDetour at h
  unfold ruleSetRefs
  cases hr : r.asObject with
  | none => simp [hr] at h
  | some set =>
    rw [hr, Option.bind_some] at h
    split at h
    · simp [h]
    · simp [h]

section
variable {parseAddr : String → Bool} {t m : Object} {generated : List Value}

theorem MergedFrom.refs_cases (h : MergedFrom parseAddr t generated [] m)
    (hlegacy : ∀ ref ∈ outboundRefs t, ref = "direct" ∨ ref = "proxy") (hdirect : "direct" ∈ outboundTags generated)
    {ref : String} (href : ref ∈ outboundRefs m) :
    ref ∈ outboundTags generated ∨ ref = "proxy" ∧ LeavesProxy t (outboundTags generated) := by
  have hold : ∀ {ref}, ref ∈ outboundRefs t → ref ∈ outboundTags generated ∨ ref = "proxy" := by
    intro ref href
    rcases hlegacy ref href with rfl | hproxy
    · exact .inl hdirect
    · exact .inr hproxy
  rcases mem_outboundRefs.1 href with ⟨r, hr, hout⟩ | hfinal | ⟨set, hset, hmem⟩ | ⟨server, hserver, hdetour⟩
  · rw [h.rules] at hr
    have hrules : ∀ r ∈ mergedRules t, ∀ ref, outboundRef r = some ref → ref = "direct" ∨ ref = "proxy" :=
      fun r hr ref hout => hlegacy ref (mem_outboundRefs.2 (.inl ⟨r, hr, hout⟩))
    rcases outboundRef_mergeRules hrules hr hout with rfl | htag | ⟨hlead, rfl⟩
    · exact .inl hdirect
    · exact .inl htag
    · exact .inr ⟨rfl, .inl ⟨r, hlead, hout⟩⟩
  · rw [h.final] at hfinal
    split at hfinal
    · rename_i hsel
      exact .inl (Value.str.inj hfinal ▸ proxySelectorOf_mem hsel)
    · rename_i hsel
      have hno : ∀ mode ∈ clientRegionModes, mode.tag ∉ outboundTags generated :=
        fun mode hmem htag => hsel (proxySelectorOf_ne_empty.2 ⟨mode, hmem, htag⟩)
      refine (hold (mem_outboundRefs.2 (.inr (.inl hfinal)))).imp_right fun hproxy => ?_
      exact ⟨hproxy, .inr (.inl ⟨hproxy ▸ hfinal, hno⟩)⟩
  · rw [h.sets] at hset
    obtain ⟨set₀, hset₀, rfl⟩ := List.mem_map.1 hset
    rw [ruleSetRefs_normalize, Option.mem_toList] at hmem
    have href₀ : ref ∈ outboundRefs t :=
      mem_outboundRefs.2 (.inr (.inr (.inl ⟨set₀, hset₀, ruleSetDetour_mem hmem⟩)))
    refine (hold href₀).imp_right fun hproxy => ?_
    exact ⟨hproxy, .inr (.inr (.inl ⟨set₀, hset₀, hproxy ▸ hmem⟩))⟩
  · rcases h.servers.detours.1 server hserver ref hdetour with htag | ⟨server', hserver', hdetour'⟩
    · exact .inl htag
    · have href₀ : ref ∈ outboundRefs t :=
        mem_outboundRefs.2 (.inr (.inr (.inr ⟨server', List.mem_of_mem_eraseP hserver', hdetour'⟩)))
      refine (hold href₀).imp_right fun hproxy => ?_
      exact ⟨hproxy, .inr (.inr (.inr ⟨server', hserver', hproxy ▸ hdetour'⟩))⟩

/-- Nothing rewrites these references. -/
theorem MergedFrom.leaves_proxy (h : MergedFrom parseAddr t generated [] m)
    (hl : LeavesProxy t (outboundTags generated)) : "proxy" ∈ outboundRefs m := by
  rw [mem_outboundRefs]
  rcases hl with ⟨r, hr, hout⟩ | ⟨hfinal, hno⟩ | ⟨set, hset, hdetour⟩ | ⟨server, hserver, hdetour⟩
  · refine .inl ⟨r, ?_, hout⟩
    rw [h.rules, mergeRules]
    simp only [List.append_assoc]
    exact List.mem_append_left _ hr
  · refine .inr (.inl ?_)
    rw [h.final, if_neg, hfinal]
    rintro hsel
    obtain ⟨mode, hmem, htag⟩ := proxySelectorOf_ne_empty.1 hsel
    exact hno mode hmem htag
  · refine .inr (.inr (.inl ⟨normalizeRuleSet set, ?_, ?_⟩))
    · rw [h.sets]
      exact List.mem_map_of_mem hset
    · rw [ruleSetRefs_normalize, hdetour]
      exact List.mem_singleton_self _
  · exact .inr (.inr (.inr ⟨server, h.servers.detours.2 server hserver, hdetour⟩))

theorem MergedFrom.resolves (h : MergedFrom parseAddr t generated [] m)
    (hlegacy : ∀ ref ∈ outboundRefs t, ref = "direct" ∨ ref = "proxy") (hdirect : "direct" ∈ outboundTags generated) :
    (∀ ref ∈ outboundRefs m, ref ∈ outboundTags (mergedOutbounds m)) ↔
      "proxy" ∈ outboundTags generated ∨ ¬ LeavesProxy t (outboundTags generated) := by
  rw [h.tags]
  constructor
  · intro hall
    by_cases hl : LeavesProxy t (outboundTags generated)
    · exact .inl (hall _ (h.leaves_proxy hl))
    · exact .inr hl
  · rintro hcond ref href
    rcases h.refs_cases hlegacy hdirect href with htag | ⟨rfl, hl⟩
    · exact htag
    · exact hcond.resolve_right (not_not_intro hl)

end

/-- A config merged from a template with references to `direct` and `proxy`
refers to emitted outbounds only, exactly when one is named `proxy` or no
reference to `proxy` is in a place where it stays. -/
theorem refs_emitted_iff [Library] [MapOrder] {parseAddr : String → Bool} {t : Object}
    (hlegacy : ∀ ref ∈ outboundRefs t, ref = "direct" ∨ ref = "proxy") {cin : ClientConfigInput}
    {obs : List ClientOutbound} (hb : buildClientConfig cin = .ok obs) {input : ClientConfigInput}
    (hpol : input.egressPolicies = []) {m : Object}
    (hm : mergeClientConfig parseAddr (.ok t) (obs.map ClientOutbound.toValue) input = .ok m) :
    (∀ ref ∈ outboundRefs m, ref ∈ outboundTags (mergedOutbounds m)) ↔
      "proxy" ∈ obs.map ClientOutbound.tag ∨ ¬ LeavesProxy t (obs.map ClientOutbound.tag) := by
  obtain ⟨rules, targets, t', hrules, ht, hfrom⟩ := mergeClientConfig_ok hm
  obtain rfl := Except.ok.inj ht
  obtain rfl : rules = [] := by
    rw [(buildClientPolicies_ok hrules).1, hpol]
    rfl
  have hdirect : "direct" ∈ obs.map ClientOutbound.tag := by
    obtain ⟨_, _, hobs⟩ := Except.bind_ok hb
    rw [← Except.ok.inj hobs]
    simp [ClientOutbound.tag]
  rw [← outboundTags_toValue] at hdirect ⊢
  exact hfrom.resolves hlegacy hdirect

/-! ### A template without a region -/

/-- Everything that has no rule goes to `proxy`. -/
def oldTemplate : Object := [("route", .obj [("rules", .arr []), ("final", .str "proxy")])]

def nodelessInput : ClientConfigInput where
  user := alice
  userCred := ⟨aliceUUID⟩

section
attribute [local instance] plainLibrary storedOrder

theorem oldTemplate_refs : outboundRefs oldTemplate = ["proxy"] := by rfl

theorem oldTemplate_legacy : ∀ ref ∈ outboundRefs oldTemplate, ref = "direct" ∨ ref = "proxy" := by
  rw [oldTemplate_refs]
  decide

theorem nodelessInput_built : buildClientConfig nodelessInput = .ok [.direct] := by rfl

theorem oldTemplate_merged : ∃ m, mergeClientConfig (fun _ => true) (.ok oldTemplate)
    ([ClientOutbound.direct].map ClientOutbound.toValue) nodelessInput = .ok m := ⟨_, rfl⟩

theorem oldTemplate_leaves : LeavesProxy oldTemplate ([ClientOutbound.direct].map ClientOutbound.tag) :=
  .inr (.inl ⟨rfl, by decide⟩)

theorem not_forall_refs_emitted :
    ¬ ∀ [Library] [MapOrder] (parseAddr : String → Bool) (t : Object) (cin : ClientConfigInput)
      (obs : List ClientOutbound) (m : Object), (∀ ref ∈ outboundRefs t, ref = "direct" ∨ ref = "proxy") →
        buildClientConfig cin = .ok obs → cin.egressPolicies = [] →
        mergeClientConfig parseAddr (.ok t) (obs.map ClientOutbound.toValue) cin = .ok m →
          ∀ ref ∈ outboundRefs m, ref ∈ outboundTags (mergedOutbounds m) := by
  intro h
  obtain ⟨m, hm⟩ := oldTemplate_merged
  obtain ⟨rules, targets, t, hrules, ht, hfrom⟩ := mergeClientConfig_ok hm
  obtain rfl := Except.ok.inj ht
  obtain rfl : rules = [] := (buildClientPolicies_ok hrules).1
  have hall := h _ _ _ _ m oldTemplate_legacy nodelessInput_built rfl hm
  rcases (hfrom.resolves oldTemplate_legacy (List.mem_singleton_self _)).1 hall with hproxy | hno
  · exact absurd hproxy (by decide)
  · exact hno oldTemplate_leaves

theorem refs_emitted_iff_old : ∃ m, mergeClientConfig (fun _ => true) (.ok oldTemplate)
    ([ClientOutbound.direct].map ClientOutbound.toValue) nodelessInput = .ok m ∧
      ¬ ∀ ref ∈ outboundRefs m, ref ∈ outboundTags (mergedOutbounds m) := by
  obtain ⟨m, hm⟩ := oldTemplate_merged
  refine ⟨m, hm, fun hall => ?_⟩
  rcases (refs_emitted_iff oldTemplate_legacy nodelessInput_built rfl hm).1 hall with hproxy | hno
  · exact absurd hproxy (by decide)
  · exact hno oldTemplate_leaves

end

end SingboxOperator
