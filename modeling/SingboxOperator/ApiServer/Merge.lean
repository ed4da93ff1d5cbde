import SingboxOperator.ApiServer.Outbounds
import SingboxOperator.ApiServer.Template
/-!
# What a merge leaves of its template

`mergeClientConfig_ok` says once what a merged config is in terms of its
template: the rules, the rule sets, the final outbound, the DNS servers and
the outbounds. Each rule of the template is then found in the merged rules
once, but not in its place: domestic rules are taken forward, and the rules of
the Clash modes come before what is left.
-/
open SingboxOperator.Lib

namespace SingboxOperator

/-! ## Parts of a config -/

def mergedRules (m : Object) : List Value := (((m.get "route").asObject.getD []).get "rules").asArray.getD []

def mergedOutbounds (m : Object) : List Value := (m.get "outbounds").asArray.getD []

def ruleSets (m : Object) : List Value := (((m.get "route").asObject.getD []).get "rule_set").asArray.getD []

def finalOutbound (m : Object) : Value := ((m.get "route").asObject.getD []).get "final"

def dnsServers (m : Object) : List Value := (((m.get "dns").asObject.getD []).get "servers").asArray.getD []

/-! ## The regional selector -/

theorem proxySelectorOf_cases (tags : List String) :
    (∃ mode ∈ clientRegionModes, mode.tag ∈ tags ∧ proxySelectorOf tags = mode.tag ∧ mode.tag ≠ "") ∨
      (∀ mode ∈ clientRegionModes, mode.tag ∉ tags) ∧ proxySelectorOf tags = "" := by
  unfold proxySelectorOf
  cases h : clientRegionModes.find? fun mode => mode.tag ∈ tags with
  | none =>
    have hnone := List.find?_eq_none.1 h
    exact .inr ⟨fun mode hmode => by simpa using hnone mode hmode, rfl⟩
  | some mode =>
    have htag : ∀ mode ∈ clientRegionModes, mode.tag ≠ "" := by decide
    have hmem := List.mem_of_find?_eq_some h
    exact .inl ⟨mode, hmem, by simpa using List.find?_some h, rfl, htag mode hmem⟩

theorem proxySelectorOf_ne_empty {tags : List String} :
    proxySelectorOf tags ≠ "" ↔ ∃ mode ∈ clientRegionModes, mode.tag ∈ tags := by
  rcases proxySelectorOf_cases tags with ⟨mode, hmem, htag, heq, hne⟩ | ⟨hno, heq⟩
  · exact ⟨fun _ => ⟨mode, hmem, htag⟩, fun _ => heq ▸ hne⟩
  · exact ⟨fun h => absurd heq h, fun ⟨mode, hmem, htag⟩ => absurd htag (hno mode hmem)⟩

theorem proxySelectorOf_mem {tags : List String} (h : proxySelectorOf tags ≠ "") : proxySelectorOf tags ∈ tags := by
  rcases proxySelectorOf_cases tags with ⟨_, _, htag, heq, _⟩ | ⟨_, heq⟩
  · rwa [heq]
  · exact absurd heq h

/-- The rules of the modes, one by one. -/
theorem mem_modeRules {tags : List String} {r : Value} :
    r ∈ modeRules tags ↔ ∃ mode ∈ clientRegionModes, mode.tag ∈ tags ∧
      (r = modeRule mode.name mode.tag ∨ r = modeRule clientModeAuto (proxySelectorOf tags)) := by
  unfold modeRules
  dsimp only
  rw [List.mem_append, List.mem_map]
  constructor
  · rintro (h | ⟨mode, hmode, rfl⟩)
    · by_cases hs : proxySelectorOf tags ≠ ""
      · obtain ⟨mode, hmode, htag⟩ := proxySelectorOf_ne_empty.1 hs
        rw [if_pos hs, List.mem_singleton] at h
        exact ⟨mode, hmode, htag, .inr h⟩
      · rw [if_neg hs] at h
        cases h
    · obtain ⟨hmem, htag⟩ := List.mem_filter.1 hmode
      exact ⟨mode, hmem, of_decide_eq_true htag, .inl rfl⟩
  · rintro ⟨mode, hmem, htag, rfl | rfl⟩
    · exact .inr ⟨mode, List.mem_filter.2 ⟨hmem, decide_eq_true htag⟩, rfl⟩
    · rw [if_pos (proxySelectorOf_ne_empty.2 ⟨mode, hmem, htag⟩)]
      exact .inl (List.mem_singleton_self _)

/-! ## Old fields -/

def normalizeRoute (route : Object) : Object :=
  match (route.get "rule_set").asArray with
  | some sets => route.set "rule_set" (.arr (sets.map normalizeRuleSet))
  | none => route

/-- The two old fields are taken out one after the other. -/
theorem normalize_eq (t : Object) :
    ∃ m : Object, m.get "route" = t.get "route" ∧
      (m.get "dns").asObject = ((t.get "dns").asObject.map fun dns => dns.delete "independent_cache") ∧
      normalizeDeprecatedClientConfig t =
        ((m.get "route").asObject.bind fun route => (route.get "rule_set").asArray.map fun sets =>
          m.set "route" (.obj (route.set "rule_set" (.arr (sets.map normalizeRuleSet))))).getD m := by
  unfold normalizeDeprecatedClientConfig
  cases hd : (t.get "dns").asObject with
  | none =>
    refine ⟨t, rfl, by rw [hd]; rfl, ?_⟩
    dsimp only
    cases (t.get "route").asObject with
    | none => rfl
    | some route => cases h : (route.get "rule_set").asArray <;> simp [h]
  | some dns =>
    refine ⟨t.set "dns" (.obj (dns.delete "independent_cache")), Object.get_set_ne (by decide) _ _, ?_, ?_⟩
    · rw [Object.get_set_self]
      rfl
    · dsimp only
      generalize t.set "dns" (.obj (dns.delete "independent_cache")) = m
      cases (m.get "route").asObject with
      | none => rfl
      | some route => cases h : (route.get "rule_set").asArray <;> simp [h]

theorem normalize_route (t : Object) :
    ((normalizeDeprecatedClientConfig t).get "route").asObject = (t.get "route").asObject.map normalizeRoute := by
  obtain ⟨m, hroute, _, heq⟩ := normalize_eq t
  rw [heq, hroute]
  cases hr : (t.get "route").asObject with
  | none => simp [hroute, hr]
  | some route => cases hs : (route.get "rule_set").asArray <;> simp [hroute, hr, hs, normalizeRoute]

theorem normalize_dns (t : Object) :
    ((normalizeDeprecatedClientConfig t).get "dns").asObject =
      (t.get "dns").asObject.map fun dns => dns.delete "independent_cache" := by
  obtain ⟨m, _, hdns, heq⟩ := normalize_eq t
  rw [heq, ← hdns]
  cases hr : (m.get "route").asObject with
  | none => rfl
  | some route => cases hs : (route.get "rule_set").asArray <;> simp [hs, Object.get_set_ne]

theorem normalizeRoute_get {key : String} (h : "rule_set" ≠ key) (route : Object) :
    (normalizeRoute route).get key = route.get key := by
  unfold normalizeRoute
  split
  · exact Object.get_set_ne h _ _
  · rfl

theorem dnsServers_normalize (t : Object) : dnsServers (normalizeDeprecatedClientConfig t) = dnsServers t := by
  unfold dnsServers
  rw [normalize_dns]
  cases (t.get "dns").asObject with
  | none => rfl
  | some dns => simp [Object.get_delete_ne]

theorem dnsServers_setDefaultMode (m : Object) : dnsServers (setDefaultMode m) = dnsServers m := by
  unfold setDefaultMode dnsServers
  dsimp only
  rw [Object.get_set_ne (by decide)]

/-! ## DNS -/

/-- The managed resolver with the exit of the clients, or without one. -/
def managedDNS (tags : List String) (proxyDNS : Object) : Object :=
  if proxySelectorOf tags ≠ "" then proxyDNS.set "detour" (.str (proxySelectorOf tags)) else proxyDNS.delete "detour"

/-- Its copies for the regions. -/
def regionalDNS (tags : List String) (proxyDNS : Object) : List Value :=
  (clientRegionModes.filter fun mode => mode.tag ∈ tags).map fun mode =>
    .obj ((proxyDNS.set "tag" (.str (regionDNSTag mode))).set "detour" (.str mode.tag))

/-- The servers of a merged config: those of the template, or the managed ones in their midst. -/
def ManagesServers (t : Object) (tags : List String) (servers : List Value) : Prop :=
  match clientDNSServer t proxyDNSTag with
  | none => servers = dnsServers t
  | some proxyDNS => ∃ bootstrapServer : List Value,
    (bootstrapServer = [] ∨ bootstrapServer = [.obj [("type", .str "local"), ("tag", .str localDNSTag)]]) ∧
      servers = replaceServer proxyDNSTag (managedDNS tags proxyDNS) (dnsServers t) ++
        regionalDNS tags (managedDNS tags proxyDNS) ++ bootstrapServer

theorem clientDNSServer_congr {m m' : Object} (h : dnsServers m = dnsServers m') (tag : String) :
    clientDNSServer m tag = clientDNSServer m' tag := by
  have heq : ∀ m : Object, clientDNSServer m tag = (dnsServers m).findSome? fun raw =>
      raw.asObject.bind fun server => if (server.get "tag").isString tag then some server else none := fun _ => rfl
  rw [heq, heq, h]

theorem ManagesServers.congr {m m' : Object} (h : dnsServers m = dnsServers m') {tags : List String}
    {servers : List Value} (hm : ManagesServers m tags servers) : ManagesServers m' tags servers := by
  unfold ManagesServers at *
  rwa [clientDNSServer_congr h, h] at hm

section
variable {parseAddr : String → Bool}

/-- Of the route only the resolver changes, and of an outbound at most its resolver. -/
theorem configureClientDNS_ok {config config' route route' : Object} {outbounds outbounds' : List Value}
    {tags : List String}
    (h : configureClientDNS parseAddr config route outbounds tags = .ok (config', route', outbounds')) :
    (∀ key, "default_domain_resolver" ≠ key → route'.get key = route.get key) ∧
      ManagesServers config tags (dnsServers config') ∧
      (outbounds' = outbounds ∨ outbounds' = outbounds.map (bootstrap parseAddr)) := by
  unfold configureClientDNS at h
  unfold ManagesServers
  cases hserver : clientDNSServer config proxyDNSTag with
  | none =>
    simp only [hserver, Except.ok.injEq, Prod.mk.injEq] at h
    obtain ⟨rfl, rfl, rfl⟩ := h
    exact ⟨fun _ _ => rfl, rfl, .inl rfl⟩
  | some proxyDNS =>
    simp only [hserver] at h
    obtain ⟨dnsRules, _, h⟩ := Except.bind_ok h
    split at h
    · cases h
    · simp only [pure, Except.pure, Except.ok.injEq, Prod.mk.injEq] at h
      obtain ⟨rfl, rfl, rfl⟩ := h
      have hservers : ∀ (dns : Object) (servers : List Value) (rules final : Value),
          dnsServers (config.set "dns" (.obj (((dns.set "servers" (.arr servers)).set "rules" rules).set "final" final))) =
            servers := by
        intro dns servers rules final
        simp [dnsServers, Value.asObject, Value.asArray, Object.get_set_ne]
      refine ⟨fun key hkey => Object.get_set_ne hkey _ _, ?_, .inr rfl⟩
      dsimp only
      refine ⟨_, ?_, hservers _ _ _ _⟩
      split
      · exact .inr rfl
      · exact .inl rfl

/-! ## The merge -/

/-- A merged config in terms of its template. -/
structure MergedFrom (parseAddr : String → Bool) (t : Object) (generated : List Value) (rules : List RouteRule)
    (m : Object) : Prop where
  rules : mergedRules m = mergeRules t (rules.map clientRuleValue) (mergedRules t) (outboundTags generated)
  sets : ruleSets m = (ruleSets t).map normalizeRuleSet
  final : finalOutbound m =
    if proxySelectorOf (outboundTags generated) ≠ "" then .str (proxySelectorOf (outboundTags generated))
    else finalOutbound t
  servers : ManagesServers t (outboundTags generated) (dnsServers m)
  outbounds : mergedOutbounds m = generated ∨ mergedOutbounds m = generated.map (bootstrap parseAddr)

theorem templateRules_ok {route : Object} {rules : List RouteRule} {original : List Value}
    (h : templateRules route rules = .ok original) : original = (route.get "rules").asArray.getD [] := by
  unfold templateRules at h
  split at h
  · rename_i hrules
    rw [hrules, ← Except.ok.inj h]
    rfl
  · rename_i hrules
    split at h
    · cases h
    · rw [hrules, ← Except.ok.inj h]
      rfl

theorem mergeRules_congr {m m' : Object} (h : dnsServers m = dnsServers m') (policyRules original : List Value)
    (tags : List String) : mergeRules m policyRules original tags = mergeRules m' policyRules original tags := by
  unfold mergeRules
  rw [clientDNSServer_congr h]

theorem asArray_sliceValue (items : List Value) : (sliceValue items).asArray.getD [] = items := by
  cases items <;> rfl

/-- The route of a merged config, before the resolver is set. -/
def mergedRoute (m route : Object) (policyRules original : List Value) (tags : List String) : Object :=
  let route := route.set "rules" (sliceValue (mergeRules m policyRules original tags))
  if proxySelectorOf tags ≠ "" then route.set "final" (.str (proxySelectorOf tags)) else route

theorem mergedRoute_get (m route : Object) (policyRules original : List Value) (tags : List String) :
    (mergedRoute m route policyRules original tags).get "rules" = sliceValue (mergeRules m policyRules original tags) ∧
      (mergedRoute m route policyRules original tags).get "rule_set" = route.get "rule_set" ∧
      (mergedRoute m route policyRules original tags).get "final" =
        if proxySelectorOf tags ≠ "" then .str (proxySelectorOf tags) else route.get "final" := by
  unfold mergedRoute
  dsimp only
  split
  · refine ⟨?_, ?_, Object.get_set_self _ _ _⟩
    · rw [Object.get_set_ne (by decide), Object.get_set_self]
    · rw [Object.get_set_ne (by decide), Object.get_set_ne (by decide)]
  · exact ⟨Object.get_set_self _ _ _, Object.get_set_ne (by decide) _ _, Object.get_set_ne (by decide) _ _⟩

variable [Library] [MapOrder]

/-- The steps of a merge that has succeeded. -/
theorem mergeClientConfig_inv {template : Except String Object} {generated : List Value} {input : ClientConfigInput}
    {m : Object} (h : mergeClientConfig parseAddr template generated input = .ok m) :
    ∃ rules targets t route original m' route' outbounds, buildClientPolicies input = .ok (rules, targets) ∧
      template = .ok t ∧ ((normalizeDeprecatedClientConfig t).get "route").asObject = some route ∧
      templateRules route rules = .ok original ∧
      configureClientDNS parseAddr (setDefaultMode (normalizeDeprecatedClientConfig t))
        (mergedRoute (normalizeDeprecatedClientConfig t) route (rules.map clientRuleValue) original
          (outboundTags generated)) generated (outboundTags generated) = .ok (m', route', outbounds) ∧
      m = (m'.set "route" (.obj route')).set "outbounds" (.arr outbounds) := by
  unfold mergeClientConfig at h
  obtain ⟨⟨rules, targets⟩, h1, h⟩ := Except.bind_ok h
  obtain ⟨t, h2, h⟩ := Except.bind_ok h
  dsimp only at h
  split at h
  · rename_i route hroute
    obtain ⟨original, h3, h⟩ := Except.bind_ok h
    obtain ⟨_, _, h⟩ := Except.bind_ok h
    obtain ⟨⟨m', route', outbounds⟩, h4, h⟩ := Except.bind_ok h
    exact ⟨rules, targets, t, route, original, m', route', outbounds, h1, h2, hroute, h3, h4, (Except.ok.inj h).symm⟩
  · cases h

theorem mergeClientConfig_ok {template : Except String Object} {generated : List Value} {input : ClientConfigInput}
    {m : Object} (h : mergeClientConfig parseAddr template generated input = .ok m) :
    ∃ rules targets t, buildClientPolicies input = .ok (rules, targets) ∧ template = .ok t ∧
      MergedFrom parseAddr t generated rules m := by
  obtain ⟨rules, targets, t, route, original, m', route', outbounds, h1, h2, hroute, h3, h4, rfl⟩ :=
    mergeClientConfig_inv h
  refine ⟨rules, targets, t, h1, h2, ?_⟩
  obtain ⟨hget, hservers, hout⟩ := configureClientDNS_ok h4
  obtain ⟨hrules, hsets, hfinal⟩ := mergedRoute_get (normalizeDeprecatedClientConfig t) route
    (rules.map clientRuleValue) original (outboundTags generated)
  -- the template's route, before its rule sets were rewritten
  obtain ⟨route₀, hroute₀, rfl⟩ :
      ∃ route₀, (t.get "route").asObject = some route₀ ∧ normalizeRoute route₀ = route := by
    rw [normalize_route] at hroute
    simpa using hroute
  have horiginal : original = mergedRules t := by
    rw [templateRules_ok h3, normalizeRoute_get (by decide), mergedRules, hroute₀]
    rfl
  have hdns := (dnsServers_setDefaultMode _).trans (dnsServers_normalize t)
  have hroute' : ∀ {key}, "default_domain_resolver" ≠ key → route'.get key =
      (mergedRoute (normalizeDeprecatedClientConfig t) (normalizeRoute route₀) (rules.map clientRuleValue) original
        (outboundTags generated)).get key := fun hkey => hget _ hkey
  have hm :
      (((m'.set "route" (.obj route')).set "outbounds" (.arr outbounds)).get "route").asObject = some route' := by
    rw [Object.get_set_ne (by decide), Object.get_set_self]
    rfl
  refine ⟨?_, ?_, ?_, ?_, ?_⟩
  · rw [mergedRules, hm, Option.getD_some, hroute' (by decide), hrules, horiginal,
      mergeRules_congr (dnsServers_normalize t), asArray_sliceValue]
  · rw [ruleSets, hm, Option.getD_some, hroute' (by decide), hsets, ruleSets, hroute₀, Option.getD_some, normalizeRoute]
    cases hs : (route₀.get "rule_set").asArray with
    | none => simp [hs]
    | some sets => simp [Value.asArray]
  · rw [finalOutbound, hm, Option.getD_some, hroute' (by decide), hfinal, normalizeRoute_get (by decide), finalOutbound,
      hroute₀]
    rfl
  · have hservers' : dnsServers ((m'.set "route" (.obj route')).set "outbounds" (.arr outbounds)) = dnsServers m' := by
      unfold dnsServers
      rw [Object.get_set_ne (by decide), Object.get_set_ne (by decide)]
    rw [hservers']
    exact hservers.congr hdns
  · simpa [mergedOutbounds, Value.asArray] using hout

end

/-! ## Every rule of the template once -/

/-- A rule of the mode that old templates had. -/
def inProxyMode (r : Value) : Bool :=
  r.asObject.any fun rule => (rule.get "clash_mode").isString "Proxy" || (rule.get "clash_mode").isString "proxy"

/-- The same rule, up to an outbound `proxy` that has become `direct`. -/
def KeptAs (r r' : Value) : Prop :=
  ((∀ rule : Object, r = .obj rule → rule.get "outbound" ≠ .str "proxy") ∧ r' = r) ∨
    ∃ rule rule' : Object, r = .obj rule ∧ r' = .obj rule' ∧ rule.get "outbound" = .str "proxy" ∧
      rule'.get "outbound" = .str "direct" ∧ ∀ key, "outbound" ≠ key → rule'.get key = rule.get key

/-- `merged` is put together from the rules of a template and the generated
ones. The template's rules are its leading run, then what comes first of the
rest because it is domestic, then the others; each group keeps its order. -/
def MergesRules (original policyRules modes merged : List Value) : Prop :=
  ∃ lead tail domestic others resolve rest,
    original = lead ++ tail ∧ (∀ r ∈ lead, isLeadingRule r = true) ∧ (∀ r ∈ tail.head?, isLeadingRule r = false) ∧
    (domestic ++ others).Perm tail ∧ domestic.Sublist tail ∧ others.Sublist tail ∧
    (∀ r ∈ domestic, isDomestic r = true) ∧ (∀ r ∈ others, isDomestic r = false) ∧
    (resolve = [] ∨ resolve = [.obj [("action", .str "resolve")]]) ∧
    List.Forall₂ KeptAs (others.filter fun r => !inProxyMode r) rest ∧
    merged = lead ++ policyRules ++ resolve ++ domestic ++ modes ++ rest

theorem retainRule_cases (r : Value) :
    (inProxyMode r = true ∧ retainRule r = none) ∨
      inProxyMode r = false ∧ ∃ r', retainRule r = some r' ∧ KeptAs r r' := by
  cases hr : r.asObject with
  | none =>
    refine .inr ⟨by simp [inProxyMode, hr], r, by simp [retainRule, hr], .inl ⟨fun rule h => ?_, rfl⟩⟩
    rw [Value.asObject_eq_some.2 h] at hr
    cases hr
  | some rule =>
    obtain rfl := Value.asObject_eq_some.1 hr
    by_cases hmode : inProxyMode (.obj rule) = true
    · refine .inl ⟨hmode, ?_⟩
      have hmode' : ((rule.get "clash_mode").isString "Proxy" || (rule.get "clash_mode").isString "proxy") = true := hmode
      simp only [retainRule, hr, hmode', if_true]
    · refine .inr ⟨by simpa using hmode, ?_⟩
      have hmode' : ¬ ((rule.get "clash_mode").isString "Proxy" || (rule.get "clash_mode").isString "proxy") = true := hmode
      simp only [retainRule, hr, hmode']
      by_cases hout : (rule.get "outbound").isString "proxy" = true
      · simp only [hout, if_true]
        refine ⟨_, rfl, .inr ⟨rule, _, rfl, rfl, Value.isString_iff.1 hout, Object.get_set_self _ _ _, fun key hkey => ?_⟩⟩
        rw [Object.get_set_ne hkey, Object.get_delete_ne hkey]
      · simp only [hout]
        refine ⟨_, rfl, .inl ⟨fun rule' h => ?_, rfl⟩⟩
        obtain rfl := Value.obj.inj h
        exact fun h' => hout (Value.isString_iff.2 h')

theorem forall₂_retainRule (l : List Value) :
    List.Forall₂ KeptAs (l.filter fun r => !inProxyMode r) (l.filterMap retainRule) := by
  induction l with
  | nil => exact .nil
  | cons r l ih =>
    rcases retainRule_cases r with ⟨hmode, hnone⟩ | ⟨hmode, r', hsome, hkept⟩
    · simpa [hmode, hnone] using ih
    · simp only [List.filter_cons, hmode, Bool.not_false, if_true, List.filterMap_cons, hsome]
      exact .cons hkept ih

theorem mergesRules (config : Object) (policyRules original : List Value) (tags : List String) :
    MergesRules original policyRules (modeRules tags) (mergeRules config policyRules original tags) := by
  refine ⟨original.takeWhile isLeadingRule, original.dropWhile isLeadingRule,
    (original.dropWhile isLeadingRule).filter isDomestic, (original.dropWhile isLeadingRule).filter fun r => !isDomestic r,
    _, _, (List.takeWhile_append_dropWhile ..).symm, fun r hr => List.mem_takeWhile_imp hr, fun r hr => ?_, ?_,
    List.filter_sublist, List.filter_sublist, fun r hr => (List.mem_filter.1 hr).2, fun r hr => ?_, ?_,
    forall₂_retainRule _, rfl⟩
  · have hnot := List.head?_dropWhile_not isLeadingRule original
    rwa [Option.mem_def.1 hr] at hnot
  · exact List.filter_append_perm _ _
  · simpa using (List.mem_filter.1 hr).2
  · split
    · exact .inr rfl
    · exact .inl rfl

/-- Merging loses and duplicates no rule of the template. -/
theorem mergeClientConfig_rules [Library] [MapOrder] {parseAddr : String → Bool} {template : Except String Object}
    {generated : List Value} {input : ClientConfigInput} {m : Object}
    (h : mergeClientConfig parseAddr template generated input = .ok m) :
    ∃ (t : Object) (ps : List EgressPolicy), template = .ok t ∧ ps.Perm input.egressPolicies ∧
      ps.Pairwise (fun p q => policyKey p ≤ policyKey q) ∧
      MergesRules (mergedRules t) ((ps.filterMap (clientPolicyRule input)).map clientRuleValue)
        (modeRules (outboundTags generated)) (mergedRules m) := by
  obtain ⟨rules, targets, t, hpol, ht, hfrom⟩ := mergeClientConfig_ok h
  refine ⟨t, sortOn policyKey input.egressPolicies, ht, sortOn_perm _ _, sortOn_pairwise _ _, ?_⟩
  rw [hfrom.rules, (buildClientPolicies_ok hpol).1]
  exact mergesRules _ _ _ _

section
attribute [local instance] plainLibrary storedOrder

theorem defaultTemplate_merged : ∃ m, mergeClientConfig (fun _ => true) (.ok defaultTemplate)
    (hkOutbounds.map ClientOutbound.toValue) hkInput = .ok m := ⟨_, rfl⟩

theorem mergeClientConfig_rules_default : ∃ m modes, mergeClientConfig (fun _ => true) (.ok defaultTemplate)
    (hkOutbounds.map ClientOutbound.toValue) hkInput = .ok m ∧
      MergesRules (mergedRules defaultTemplate) [] modes (mergedRules m) := by
  obtain ⟨m, hm⟩ := defaultTemplate_merged
  obtain ⟨t, ps, ht, hperm, _, hrules⟩ := mergeClientConfig_rules hm
  obtain rfl := Except.ok.inj ht
  obtain rfl : ps = [] := List.perm_nil.1 hperm
  exact ⟨m, _, hm, hrules⟩

end

end SingboxOperator
