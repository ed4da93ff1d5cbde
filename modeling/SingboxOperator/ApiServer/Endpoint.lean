import SingboxOperator.ApiServer.Merge
import SingboxOperator.ApiServer.Resolution
/-!
# The client-config endpoint

`Server.handleClientConfig` from the path of the request to the status of the
answer: which namespace and which user a path names, which template is used, and
when the answer is a config. A template that cannot be found is replaced by the
built-in one; a template that is found and does not fit is an error, and so is
any unsound policy of the namespace, whoever asks.

`serve_isOk` says exactly when a request is answered with a config, and
`serve_builtin_iff` what is left of it when no template was found.
-/
open SingboxOperator.Lib

namespace SingboxOperator

/-! ## The server -/

def clientConfigPath : String := "/api/v1/client-config/"

/-- `strings.TrimPrefix` of the path, and its two parts. -/
def requestParts (path : String) : Option (String × String) :=
  let remaining :=
    if clientConfigPath.toList.isPrefixOf path.toList then path.toList.drop clientConfigPath.toList.length
    else path.toList
  match splitN '/' 2 remaining with
  | [ns, uuid] => if ns = [] ∨ uuid = [] then none else some (String.ofList ns, String.ofList uuid)
  | _ => none

/-- What the server reads, and `encoding/json` on the template and on the answer. -/
structure ApiView where
  cluster : String → Cluster
  cluster_ns : ∀ ns, (cluster ns).ns = ns
  configMap : String → String → Except ApiError (GoMap String String)
  unmarshal : String → Except String Object
  marshal : Object → String

structure Server where
  templateRef : String := ""

/-- The text of the administrator's template. A reference that is not one, a
ConfigMap that cannot be read and one without the key are all passed over. -/
def Server.templateText (s : Server) (view : ApiView) : Option String :=
  if s.templateRef = "" then none
  else
    match splitN '/' 2 s.templateRef.toList with
    | [ns, name] =>
      match view.configMap (String.ofList ns) (String.ofList name) with
      | .error _ => none
      | .ok data => data.lookup "config.json"
    | _ => none

def Server.template (s : Server) (view : ApiView) : Except String Object :=
  match s.templateText view with
  | some text => view.unmarshal text
  | none => .ok defaultTemplate

def notFound : HttpError := { code := 404, message := "404 page not found" }

section
variable [Library] [MapOrder]

/-- The input of `MergeClientConfig` for a user, and the outbounds. -/
def clientConfigFor (c : Cluster) (requestUUID : String) :
    Except HttpError (ClientConfigInput × List ClientOutbound) := do
  if !isUUID requestUUID then .error { code := 400, message := "invalid uuid" }
  else
    let _ ← c.listOrFail .user c.users
    match matchUser c requestUUID with
    | none => .error notFound
    | some (user, cred) =>
      let input ← clientConfigInput c user cred
      match buildClientConfig input with
      | .error _ => .error writeInternalError
      | .ok outbounds => .ok (input, outbounds)

variable (parseAddr : String → Bool)

/-- The handler: the body of the answer, or the error. -/
def Server.answer (s : Server) (view : ApiView) (path : String) : Except HttpError String :=
  match requestParts path with
  | none => .error notFound
  | some (ns, requestUUID) => do
    let (input, outbounds) ← clientConfigFor (view.cluster ns) requestUUID
    match mergeClientConfig parseAddr (s.template view) (outbounds.map ClientOutbound.toValue) input with
    | .error _ => .error writeInternalError
    | .ok m => .ok (view.marshal m)

/-- The handler behind the mux, which hands on what is under its path. -/
def Server.serve (s : Server) (view : ApiView) (path : String) : Except HttpError String :=
  if clientConfigPath.toList.isPrefixOf path.toList then s.answer parseAddr view path else .error notFound

end

/-! ## Paths -/

theorem splitN_two {s a b : List Char} : splitN '/' 2 s = [a, b] ↔ s = a ++ '/' :: b ∧ '/' ∉ a := by
  rw [← cut_eq_some]
  unfold splitN cut
  cases s.dropWhile (· ≠ '/') with
  | nil => simp
  | cons _ rest => simp [splitN]

/-- The path of a user's config, and no other path, names the namespace and the UUID. -/
theorem requestParts_iff {path ns uuid : String} (hpath : clientConfigPath.toList.isPrefixOf path.toList = true) :
    requestParts path = some (ns, uuid) ↔
      path = clientConfigPath ++ ns ++ "/" ++ uuid ∧ '/' ∉ ns.toList ∧ ns ≠ "" ∧ uuid ≠ "" := by
  obtain ⟨rest, hrest⟩ := List.isPrefixOf_iff_prefix.1 hpath
  have hslash : "/".toList = ['/'] := by decide
  have heq : path = clientConfigPath ++ ns ++ "/" ++ uuid ↔ rest = ns.toList ++ '/' :: uuid.toList := by
    rw [← String.toList_inj, ← hrest]
    simp [String.toList_append, hslash]
  have hne : ∀ s : String, s ≠ "" ↔ s.toList ≠ [] := fun s => by simp
  unfold requestParts
  rw [if_pos hpath, ← hrest, List.drop_left, heq, hne, hne]
  dsimp only
  constructor
  · intro h
    split at h
    · rename_i a b hsplit
      split at h
      · cases h
      · rename_i hempty
        obtain ⟨rfl, rfl⟩ := Prod.mk.inj (Option.some.inj h)
        obtain ⟨rfl, ha⟩ := splitN_two.1 hsplit
        simpa [ha] using hempty
    · cases h
  · rintro ⟨hs, ha, hns, huuid⟩
    rw [splitN_two.2 ⟨hs, ha⟩]
    simp [hns, huuid]

/-! ## When a user has a config -/

section
variable [Library]

/-- A policy that breaks no client config of its namespace. -/
structure PolicySound (c : Cluster) (p : EgressPolicy) : Prop where
  ingress : p.spec.ingressSelector.valid = none
  egress : p.spec.egressSelector.valid = none
  matchFields : p.spec.matchFields.valid p.spec.fallbackAction.isSome = none
  unique : p.spec.action = .route → (egressCandidates p c.nodes c.externalOutbounds).length ≤ 1

/-- A policy that has a rule in client configs. -/
def PolicyActive (c : Cluster) (p : EgressPolicy) : Prop :=
  p.spec.action = .route → egressCandidates p c.nodes c.externalOutbounds ≠ []

/-- The handler finds the user and can read what it needs. -/
structure Answerable (c : Cluster) (requestUUID : String) : Prop where
  uuid : isUUID requestUUID = true
  lists : ∀ kind, c.listError kind = none
  user : ∃ u cred, matchUser c requestUUID = some (u, cred) ∧ GroupReadable c u
  policies : ∀ p ∈ c.policies, PolicySound c p

omit [Library] in
theorem listOrFail_isOk {α : Type} (c : Cluster) (kind : Kind) (items : List α) :
    (∃ l, c.listOrFail kind items = .ok l) ↔ c.listError kind = none := by
  unfold Cluster.listOrFail
  cases c.listError kind <;> simp

omit [Library] in
theorem groupNames_isOk {c : Cluster} {u : User} : (∃ names, groupNames c u = .ok names) ↔ GroupReadable c u := by
  unfold groupNames GroupReadable
  by_cases hr : u.spec.userGroupRef = ""
  · simp [hr]
  · cases c.userGroup u.spec.userGroupRef with
    | error e => by_cases hn : e.notFound = true <;> simp [hr, hn]
    | ok ug => simp [hr]

theorem clientConfigInput_isOk {c : Cluster} {u : User} (cred : UserCredential) :
    (∃ cin, clientConfigInput c u cred = .ok cin) ↔
      c.listError .singBoxNode = none ∧ c.listError .externalOutbound = none ∧ c.listError .egressPolicy = none ∧
        GroupReadable c u := by
  rw [← listOrFail_isOk c _ c.nodes, ← listOrFail_isOk c _ c.externalOutbounds, ← listOrFail_isOk c _ c.policies,
    ← groupNames_isOk]
  unfold clientConfigInput
  constructor
  · rintro ⟨cin, h⟩
    obtain ⟨nodes, h1, h⟩ := Except.bind_ok h
    obtain ⟨outbounds, h2, h⟩ := Except.bind_ok h
    obtain ⟨policies, h3, h⟩ := Except.bind_ok h
    obtain ⟨names, h4, _⟩ := Except.bind_ok h
    exact ⟨⟨_, h1⟩, ⟨_, h2⟩, ⟨_, h3⟩, ⟨_, h4⟩⟩
  · rintro ⟨⟨nodes, h1⟩, ⟨outbounds, h2⟩, ⟨policies, h3⟩, ⟨names, h4⟩⟩
    rw [h1, h2, h3, h4]
    exact ⟨_, rfl⟩

variable [MapOrder] {c : Cluster} {u : User} {cred : UserCredential} {cin : ClientConfigInput}

theorem ReadsCluster.client_count (hc : ReadsCluster c u cred cin) (p : EgressPolicy) :
    (resolveClientPolicyEgress cin p).2 = (egressCandidates p c.nodes c.externalOutbounds).length := by
  obtain ⟨names, hr, hperm⟩ := hc.client_names p
  rw [hr]
  exact hperm.length_eq

theorem addClientPolicy_isOk (hc : ReadsCluster c u cred cin) (acc : List RouteRule × NameSet) (p : EgressPolicy) :
    (∃ acc', addClientPolicy cin acc p = .ok acc') ↔ PolicySound c p := by
  have hsound : PolicySound c p ↔ p.spec.ingressSelector.valid = none ∧ p.spec.egressSelector.valid = none ∧
      p.spec.matchFields.valid p.spec.fallbackAction.isSome = none ∧
      (p.spec.action = .route → (resolveClientPolicyEgress cin p).2 ≤ 1) := by
    rw [hc.client_count]
    exact ⟨fun h => ⟨h.ingress, h.egress, h.matchFields, h.unique⟩, fun h => ⟨h.1, h.2.1, h.2.2.1, h.2.2.2⟩⟩
  rw [hsound]
  unfold addClientPolicy
  cases p.spec.ingressSelector.valid with
  | some err => simp
  | none =>
    cases p.spec.egressSelector.valid with
    | some err => simp
    | none =>
      cases p.spec.matchFields.valid p.spec.fallbackAction.isSome with
      | some err => simp
      | none =>
        cases p.spec.action with
        | reject => simp
        | route =>
          rcases Nat.lt_trichotomy (resolveClientPolicyEgress cin p).2 1 with h | h | h
          · have h0 : (resolveClientPolicyEgress cin p).2 = 0 := by omega
            simp [h0]
          · simp [h]
          · have h0 : (resolveClientPolicyEgress cin p).2 ≠ 0 := by omega
            have h1 : (resolveClientPolicyEgress cin p).2 ≠ 1 := by omega
            simp [h0, h1, Nat.not_le.2 h]

theorem buildClientPolicies_isOk (h : clientConfigInput c u cred = .ok cin) :
    (∃ r, buildClientPolicies cin = .ok r) ↔ ∀ p ∈ c.policies, PolicySound c p := by
  have hpolicies : cin.egressPolicies = c.policies := by
    obtain ⟨_, _, _, rfl⟩ := clientConfigInput_ok h
    rfl
  unfold buildClientPolicies
  rw [foldlM_isOk (P := PolicySound c) (addClientPolicy_isOk (clientConfigInput_reads h))]
  simp [hpolicies]

theorem buildClientConfig_isOk (h : clientConfigInput c u cred = .ok cin) :
    (∃ obs, buildClientConfig cin = .ok obs) ↔ ∀ p ∈ c.policies, PolicySound c p := by
  rw [← buildClientPolicies_isOk h]
  unfold buildClientConfig
  constructor
  · rintro ⟨obs, h⟩
    obtain ⟨r, hr, _⟩ := Except.bind_ok h
    exact ⟨r, hr⟩
  · rintro ⟨r, hr⟩
    rw [hr]
    exact ⟨_, rfl⟩

theorem clientConfigFor_isOk {requestUUID : String} :
    (∃ r, clientConfigFor c requestUUID = .ok r) ↔ Answerable c requestUUID := by
  constructor
  · rintro ⟨⟨cin, obs⟩, h⟩
    unfold clientConfigFor at h
    split at h
    · cases h
    · rename_i hid
      obtain ⟨_, hlist, h⟩ := Except.bind_ok h
      split at h
      · cases h
      · rename_i u cred hm
        obtain ⟨cin', hin, h⟩ := Except.bind_ok h
        split at h
        · cases h
        · rename_i obs' hb
          obtain ⟨hn, he, hp, hg⟩ := (clientConfigInput_isOk cred).1 ⟨cin', hin⟩
          refine ⟨by simpa using hid, fun kind => ?_, ⟨u, cred, hm, hg⟩, (buildClientConfig_isOk hin).1 ⟨obs', hb⟩⟩
          cases kind with
          | user => exact (listOrFail_isOk c .user c.users).1 ⟨_, hlist⟩
          | singBoxNode => exact hn
          | externalOutbound => exact he
          | egressPolicy => exact hp
  · rintro ⟨hid, hlists, ⟨u, cred, hm, hg⟩, hpolicies⟩
    obtain ⟨_, hlist⟩ := (listOrFail_isOk c .user c.users).2 (hlists .user)
    obtain ⟨cin, hin⟩ := (clientConfigInput_isOk cred).2
      ⟨hlists .singBoxNode, hlists .externalOutbound, hlists .egressPolicy, hg⟩
    obtain ⟨obs, hb⟩ := (buildClientConfig_isOk hin).2 hpolicies
    refine ⟨(cin, obs), ?_⟩
    unfold clientConfigFor
    rw [if_neg (by simp [hid]), hlist]
    simp only [hm, bind, Except.bind, hin, hb]

end

/-! ## When a template fits -/

/-- The route of the template takes the rules of the active policies. -/
structure RouteFits [Library] (c : Cluster) (route : Object) : Prop where
  rules : (∃ p ∈ c.policies, PolicyActive c p) → (route.get "rules").asArray.isSome = true
  ruleSets : ∀ p ∈ c.policies, PolicyActive c p → ∀ ref ∈ p.spec.matchFields.ruleSet, ref ∈ definedRuleSets route

/-- The DNS of the template is its own, or leaves room for the managed servers. -/
structure DNSFits (t : Object) (tags : List String) : Prop where
  rules : ∃ rules, templateDNSRules ((t.get "dns").asObject.getD []) = .ok rules
  reserved : ∀ mode ∈ clientRegionModes, mode.tag ∈ tags → clientDNSServer t (regionDNSTag mode) = none

/-- A template from which the clients of a namespace get their configs. -/
structure TemplateFits [Library] (c : Cluster) (t : Object) (tags : List String) : Prop where
  route : ∃ route, (t.get "route").asObject = some route ∧ RouteFits c route
  dns : (clientDNSServer t proxyDNSTag).isSome = true → DNSFits t tags

theorem configureClientDNS_isOk {parseAddr : String → Bool} {config route : Object} {outbounds : List Value}
    {tags : List String} :
    (∃ r, configureClientDNS parseAddr config route outbounds tags = .ok r) ↔
      ((clientDNSServer config proxyDNSTag).isSome = true → DNSFits config tags) := by
  unfold configureClientDNS
  cases clientDNSServer config proxyDNSTag with
  | none => simp
  | some proxyDNS =>
    simp only [Option.isSome_some, true_implies]
    cases hrules : templateDNSRules ((config.get "dns").asObject.getD []) with
    | error err =>
      constructor
      · rintro ⟨r, h⟩
        cases h
      · rintro ⟨⟨rules, h⟩, _⟩
        rw [hrules] at h
        cases h
    | ok rules =>
      have hfits : DNSFits config tags ↔
          ((clientRegionModes.filter fun mode => mode.tag ∈ tags).find? fun mode =>
            (clientDNSServer config (regionDNSTag mode)).isSome) = none := by
        rw [List.find?_eq_none]
        constructor
        · intro h mode hmode
          obtain ⟨hmem, htag⟩ := List.mem_filter.1 hmode
          rw [h.reserved mode hmem (of_decide_eq_true htag)]
          simp
        · intro h
          refine ⟨⟨rules, hrules⟩, fun mode hmem htag => ?_⟩
          have hnone := h mode (List.mem_filter.2 ⟨hmem, decide_eq_true htag⟩)
          simpa using hnone
      rw [hfits]
      simp only [bind, Except.bind]
      cases (clientRegionModes.filter fun mode => mode.tag ∈ tags).find? fun mode =>
        (clientDNSServer config (regionDNSTag mode)).isSome <;> simp [pure, Except.pure]

theorem normalizeRuleSet_tag (raw : Value) :
    (normalizeRuleSet raw).asObject.bind (fun entry => (entry.get "tag").asString) =
      raw.asObject.bind fun entry => (entry.get "tag").asString := by
  unfold normalizeRuleSet
  cases h : raw.asObject with
  | none => simp [h]
  | some set =>
    dsimp only
    cases (set.get "download_detour").asString with
    | none => simp [h]
    | some detour =>
      by_cases hhas : set.has "http_client" = true
      · simp [hhas, Object.get_delete_ne]
      · simp [hhas, Object.get_delete_ne, Object.get_set_ne]

theorem definedRuleSets_normalizeRoute (route : Object) :
    definedRuleSets (normalizeRoute route) = definedRuleSets route := by
  unfold definedRuleSets normalizeRoute
  cases h : (route.get "rule_set").asArray with
  | none => simp [h]
  | some sets =>
    simp only [Object.get_set_self, Value.asArray_arr, Option.getD_some, List.filterMap_map]
    exact List.filterMap_congr fun raw _ => normalizeRuleSet_tag raw

theorem dnsFits_normalize {t : Object} {tags : List String} :
    DNSFits (setDefaultMode (normalizeDeprecatedClientConfig t)) tags ↔ DNSFits t tags := by
  have hservers := (dnsServers_setDefaultMode (normalizeDeprecatedClientConfig t)).trans (dnsServers_normalize t)
  have hdns : ((setDefaultMode (normalizeDeprecatedClientConfig t)).get "dns").asObject =
      (t.get "dns").asObject.map fun dns => dns.delete "independent_cache" := by
    rw [← normalize_dns, setDefaultMode, Object.get_set_ne (by decide)]
  have hrules : templateDNSRules (((setDefaultMode (normalizeDeprecatedClientConfig t)).get "dns").asObject.getD []) =
      templateDNSRules ((t.get "dns").asObject.getD []) := by
    rw [hdns]
    cases (t.get "dns").asObject with
    | none => rfl
    | some dns => simp [templateDNSRules, Object.get_delete_ne]
  constructor
  · rintro ⟨h1, h2⟩
    exact ⟨hrules ▸ h1, fun mode hm ht => clientDNSServer_congr hservers _ ▸ h2 mode hm ht⟩
  · rintro ⟨h1, h2⟩
    exact ⟨hrules ▸ h1, fun mode hm ht => (clientDNSServer_congr hservers _).trans (h2 mode hm ht)⟩

section
variable [Library] [MapOrder] {c : Cluster} {u : User} {cred : UserCredential} {cin : ClientConfigInput}

theorem active_iff (hc : ReadsCluster c u cred cin) (p : EgressPolicy) :
    PolicyActive c p ↔ ¬ (p.spec.action = .route ∧ (resolveClientPolicyEgress cin p).2 = 0) := by
  rw [hc.client_count, PolicyActive, List.length_eq_zero_iff, not_and]

theorem clientPolicyRule_isSome (hc : ReadsCluster c u cred cin) (p : EgressPolicy) :
    (clientPolicyRule cin p).isSome = true ↔ PolicyActive c p := by
  rw [active_iff hc]
  unfold clientPolicyRule
  cases p.spec.action with
  | reject => simp
  | route =>
    by_cases h0 : (resolveClientPolicyEgress cin p).2 = 0
    · simp [h0]
    · by_cases hg : targetHasClientGroup cin (resolveClientPolicyEgress cin p).1 "ai" = true <;> simp [h0, hg]

theorem checkRuleSets_isOk (hc : ReadsCluster c u cred cin) (hp : cin.egressPolicies = c.policies) {route : Object} :
    (∃ r, checkRuleSets cin route = .ok r) ↔
      ∀ p ∈ c.policies, PolicyActive c p → ∀ ref ∈ p.spec.matchFields.ruleSet, ref ∈ definedRuleSets route := by
  have hmissing : (∃ r, checkRuleSets cin route = .ok r) ↔ (cin.egressPolicies.findSome? fun p =>
      if p.spec.action = .route && (resolveClientPolicyEgress cin p).2 = 0 then none
      else (p.spec.matchFields.ruleSet.find? fun ref => ref ∉ definedRuleSets route).map fun ref => (p.name, ref)) =
        none := by
    unfold checkRuleSets
    dsimp only
    cases cin.egressPolicies.findSome? _ <;> simp
  rw [hmissing, List.findSome?_eq_none_iff, hp]
  refine forall₂_congr fun p _ => ?_
  rw [active_iff hc]
  by_cases h : p.spec.action = .route ∧ (resolveClientPolicyEgress cin p).2 = 0
  · simp [h]
  · simp [h]

/-- The merge succeeds for the templates that fit. -/
theorem mergeClientConfig_isOk (parseAddr : String → Bool) (h : clientConfigInput c u cred = .ok cin)
    (hsound : ∀ p ∈ c.policies, PolicySound c p) (t : Object) (generated : List Value) :
    (∃ m, mergeClientConfig parseAddr (.ok t) generated cin = .ok m) ↔ TemplateFits c t (outboundTags generated) := by
  have hc := clientConfigInput_reads h
  have hp : cin.egressPolicies = c.policies := by
    obtain ⟨_, _, _, rfl⟩ := clientConfigInput_ok h
    rfl
  obtain ⟨⟨rules, targets⟩, hpolicies⟩ := (buildClientPolicies_isOk h).2 hsound
  have hrules : rules ≠ [] ↔ ∃ p ∈ c.policies, PolicyActive c p := by
    rw [(buildClientPolicies_ok hpolicies).1, Ne, List.filterMap_eq_nil_iff]
    simp only [mem_sortOn, hp, not_forall, ← clientPolicyRule_isSome hc, Option.isSome_iff_ne_none, exists_prop]
  have htemplate : ∀ route : Object, (∃ original, templateRules (normalizeRoute route) rules = .ok original) ↔
      ((∃ p ∈ c.policies, PolicyActive c p) → (route.get "rules").asArray.isSome = true) := by
    intro route
    rw [← hrules, templateRules, normalizeRoute_get (by decide)]
    cases (route.get "rules").asArray with
    | some _ => simp
    | none => by_cases hr : rules = [] <;> simp [hr]
  have hdns : ((clientDNSServer (setDefaultMode (normalizeDeprecatedClientConfig t)) proxyDNSTag).isSome = true →
      DNSFits (setDefaultMode (normalizeDeprecatedClientConfig t)) (outboundTags generated)) ↔
      ((clientDNSServer t proxyDNSTag).isSome = true → DNSFits t (outboundTags generated)) := by
    rw [dnsFits_normalize, clientDNSServer_congr ((dnsServers_setDefaultMode _).trans (dnsServers_normalize t))]
  unfold mergeClientConfig
  simp only [hpolicies, bind, Except.bind]
  rw [normalize_route]
  constructor
  · rintro ⟨m, hm⟩
    cases hroute : (t.get "route").asObject with
    | none => simp [hroute] at hm
    | some route =>
      simp only [hroute, Option.map_some] at hm
      obtain ⟨original, h1, hm⟩ := Except.bind_ok hm
      obtain ⟨r, h2, hm⟩ := Except.bind_ok hm
      obtain ⟨r', h3, _⟩ := Except.bind_ok hm
      refine ⟨⟨route, hroute, (htemplate route).1 ⟨_, h1⟩, ?_⟩, hdns.1 (configureClientDNS_isOk.1 ⟨_, h3⟩)⟩
      rw [← definedRuleSets_normalizeRoute]
      exact (checkRuleSets_isOk hc hp).1 ⟨_, h2⟩
  · rintro ⟨⟨route, hroute, hfits⟩, hdnsFits⟩
    obtain ⟨original, h1⟩ := (htemplate route).2 hfits.rules
    obtain ⟨r, h2⟩ : ∃ r, checkRuleSets cin (normalizeRoute route) = .ok r := by
      rw [checkRuleSets_isOk hc hp, definedRuleSets_normalizeRoute]
      exact hfits.ruleSets
    obtain ⟨r', h3⟩ := configureClientDNS_isOk.2 (hdns.2 hdnsFits)
    simp only [hroute, Option.map_some, h1, h2]
    exact ⟨_, by rw [h3]; rfl⟩

/-! ## The answers -/

theorem clientConfigFor_ok {requestUUID : String} {obs : List ClientOutbound}
    (h : clientConfigFor c requestUUID = .ok (cin, obs)) :
    (∃ u cred, clientConfigInput c u cred = .ok cin) ∧ handleClientConfig c requestUUID = .ok obs := by
  unfold clientConfigFor at h
  split at h
  · cases h
  · rename_i hid
    obtain ⟨users, hlist, h⟩ := Except.bind_ok h
    cases hm : matchUser c requestUUID with
    | none =>
      rw [hm] at h
      cases h
    | some p =>
      obtain ⟨u, cred⟩ := p
      rw [hm] at h
      obtain ⟨cin', hin, h⟩ := Except.bind_ok h
      cases hb : buildClientConfig cin' with
      | error e =>
        rw [hb] at h
        cases h
      | ok obs' =>
        rw [hb] at h
        obtain ⟨rfl, rfl⟩ := Prod.mk.inj (Except.ok.inj h)
        refine ⟨⟨u, cred, hin⟩, ?_⟩
        unfold handleClientConfig
        rw [if_neg hid, hlist]
        simp only [bind, Except.bind, hm, hin, hb]

variable {parseAddr : String → Bool}

theorem answer_ok_iff {s : Server} {view : ApiView} {path ns requestUUID : String}
    (hparts : requestParts path = some (ns, requestUUID)) :
    (∃ body, s.answer parseAddr view path = .ok body) ↔
      Answerable (view.cluster ns) requestUUID ∧ ∃ t obs, s.template view = .ok t ∧
        handleClientConfig (view.cluster ns) requestUUID = .ok obs ∧
        TemplateFits (view.cluster ns) t (outboundTags (obs.map ClientOutbound.toValue)) := by
  unfold Server.answer
  rw [hparts]
  dsimp only
  cases hfor : clientConfigFor (view.cluster ns) requestUUID with
  | error err =>
    constructor
    · rintro ⟨body, h⟩
      cases h
    · rintro ⟨hanswerable, _⟩
      obtain ⟨r, hr⟩ := clientConfigFor_isOk.2 hanswerable
      rw [hfor] at hr
      cases hr
  | ok r =>
    obtain ⟨cin, obs⟩ := r
    have hanswerable := clientConfigFor_isOk.1 ⟨_, hfor⟩
    obtain ⟨⟨u, cred, hin⟩, hhandle⟩ := clientConfigFor_ok hfor
    simp only [bind, Except.bind, hanswerable, true_and, hhandle, Except.ok.injEq]
    cases htemplate : s.template view with
    | error err =>
      have hmerge : ∃ err',
          mergeClientConfig parseAddr (.error err) (obs.map ClientOutbound.toValue) cin = .error err' := by
        unfold mergeClientConfig
        cases buildClientPolicies cin with
        | error err' => exact ⟨err', rfl⟩
        | ok r => exact ⟨err, rfl⟩
      obtain ⟨err', hmerge⟩ := hmerge
      simp [hmerge]
    | ok t =>
      have hmerge := mergeClientConfig_isOk parseAddr hin hanswerable.policies t (obs.map ClientOutbound.toValue)
      simp only [Except.ok.injEq, exists_and_left, exists_eq_left', ← hmerge]
      cases mergeClientConfig parseAddr (.ok t) (obs.map ClientOutbound.toValue) cin <;> simp

/-- The request is for the config of a user, and the user's namespace has one for every template that fits. -/
theorem serve_isOk {s : Server} {view : ApiView} {path : String} :
    (∃ body, s.serve parseAddr view path = .ok body) ↔
      ∃ ns requestUUID, path = clientConfigPath ++ ns ++ "/" ++ requestUUID ∧ '/' ∉ ns.toList ∧ ns ≠ "" ∧
        Answerable (view.cluster ns) requestUUID ∧ ∃ t obs, s.template view = .ok t ∧
          handleClientConfig (view.cluster ns) requestUUID = .ok obs ∧
          TemplateFits (view.cluster ns) t (outboundTags (obs.map ClientOutbound.toValue)) := by
  unfold Server.serve
  by_cases hpath : clientConfigPath.toList.isPrefixOf path.toList = true
  · rw [if_pos hpath]
    constructor
    · rintro ⟨body, h⟩
      cases hparts : requestParts path with
      | none => simp [Server.answer, hparts] at h
      | some parts =>
        obtain ⟨ns, requestUUID⟩ := parts
        obtain ⟨hp, hslash, hns, _⟩ := (requestParts_iff hpath).1 hparts
        exact ⟨ns, requestUUID, hp, hslash, hns, (answer_ok_iff hparts).1 ⟨body, h⟩⟩
    · rintro ⟨ns, requestUUID, hp, hslash, hns, h⟩
      have huuid : requestUUID ≠ "" := by
        rintro rfl
        exact absurd h.1.uuid (by decide)
      exact (answer_ok_iff ((requestParts_iff hpath).2 ⟨hp, hslash, hns, huuid⟩)).2 h
  · rw [if_neg hpath]
    constructor
    · rintro ⟨body, h⟩
      cases h
    · rintro ⟨ns, requestUUID, rfl, _⟩
      refine absurd ( List.isPrefixOf_iff_prefix.2 ?_) hpath
      simp only [String.toList_append, List.append_assoc]
      exact List.prefix_append _ _

omit [MapOrder] in
/-- The built-in template fits unless a policy uses a rule set it does not define. -/
theorem defaultTemplate_fits {tags : List String} :
    TemplateFits c defaultTemplate tags ↔ ∀ p ∈ c.policies, PolicyActive c p →
      ∀ ref ∈ p.spec.matchFields.ruleSet, ref ∈ ["geosite-cn", "category-ads-all"] := by
  have hsets : ∀ route, (defaultTemplate.get "route").asObject = some route →
      (route.get "rules").asArray.isSome = true ∧ definedRuleSets route = ["geosite-cn", "category-ads-all"] := by
    intro route hroute
    obtain rfl := Option.some.inj hroute
    exact ⟨rfl, rfl⟩
  have hdns : DNSFits defaultTemplate tags := by
    refine ⟨⟨_, rfl⟩, fun mode hmode _ => ?_⟩
    have hmodes : mode = ⟨"HK", "hk"⟩ ∨ mode = ⟨"JP", "jp"⟩ ∨ mode = ⟨"US", "us"⟩ := by
      simpa [clientRegionModes] using hmode
    rcases hmodes with rfl | rfl | rfl <;> rfl
  constructor
  · rintro ⟨⟨route, hroute, hfits⟩, _⟩
    exact (hsets route hroute).2 ▸ hfits.ruleSets
  · intro h
    obtain ⟨route, hroute⟩ : ∃ route, (defaultTemplate.get "route").asObject = some route := ⟨_, rfl⟩
    exact ⟨⟨route, hroute, fun _ => (hsets route hroute).1, (hsets route hroute).2 ▸ h⟩, fun _ => hdns⟩

/-- What is left of a template that is passed over. -/
theorem builtin_fits {s : Server} {view : ApiView} (htext : s.templateText view = none) {requestUUID : String}
    (hanswerable : Answerable c requestUUID) :
    (∃ t obs, s.template view = .ok t ∧ handleClientConfig c requestUUID = .ok obs ∧
        TemplateFits c t (outboundTags (obs.map ClientOutbound.toValue))) ↔
      ∀ p ∈ c.policies, PolicyActive c p →
        ∀ ref ∈ p.spec.matchFields.ruleSet, ref ∈ ["geosite-cn", "category-ads-all"] := by
  have htemplate : s.template view = .ok defaultTemplate := by rw [Server.template, htext]
  constructor
  · rintro ⟨t, obs, ht, _, hfits⟩
    obtain rfl := Except.ok.inj (htemplate.symm.trans ht)
    exact defaultTemplate_fits.1 hfits
  · intro h
    obtain ⟨⟨cin, obs⟩, hfor⟩ := clientConfigFor_isOk.2 hanswerable
    exact ⟨defaultTemplate, obs, htemplate, (clientConfigFor_ok hfor).2, defaultTemplate_fits.2 h⟩

/-- Without a template of the administrator, for whatever reason, the answer
depends on the objects of the namespace alone. -/
theorem serve_builtin_iff {s : Server} {view : ApiView} (htext : s.templateText view = none) (path : String) :
    (∃ body, s.serve parseAddr view path = .ok body) ↔
      ∃ ns requestUUID, path = clientConfigPath ++ ns ++ "/" ++ requestUUID ∧ '/' ∉ ns.toList ∧ ns ≠ "" ∧
        Answerable (view.cluster ns) requestUUID ∧
        ∀ p ∈ (view.cluster ns).policies, PolicyActive (view.cluster ns) p →
          ∀ ref ∈ p.spec.matchFields.ruleSet, ref ∈ ["geosite-cn", "category-ads-all"] := by
  rw [serve_isOk]
  exact exists₂_congr fun ns requestUUID => and_congr_right fun _ => and_congr_right fun _ => and_congr_right fun _ =>
    and_congr_right fun hanswerable => builtin_fits htext hanswerable

end

/-! ### A template that is not there -/

section
attribute [local instance] plainLibrary storedOrder

def pathView : ApiView where
  cluster ns := { pathCluster with ns := ns }
  cluster_ns _ := rfl
  configMap _ _ := .error ⟨true, "not found"⟩
  unmarshal _ := .error "unexpected end of JSON input"
  marshal _ := ""

theorem alice_answerable : Answerable (pathView.cluster "proxy") aliceUUID where
  uuid := by decide
  lists _ := rfl
  user := ⟨alice, _, alice_matched, fun h => absurd rfl h⟩
  policies _ hp := absurd hp List.not_mem_nil

theorem serve_builtin_iff_alice :
    ({ templateRef := "ops/client-template" } : Server).templateText pathView = none ∧
      ∃ body, ({ templateRef := "ops/client-template" } : Server).serve (fun _ => true) pathView
        (clientConfigPath ++ "proxy" ++ "/" ++ aliceUUID) = .ok body := by
  have htext : ({ templateRef := "ops/client-template" } : Server).templateText pathView = none := by rfl
  refine ⟨htext, (serve_builtin_iff htext _).2 ⟨"proxy", aliceUUID, rfl, by decide, by decide, alice_answerable, ?_⟩⟩
  intro p hp
  cases hp

end

end SingboxOperator
