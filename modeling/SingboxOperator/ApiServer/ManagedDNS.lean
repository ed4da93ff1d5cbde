import SingboxOperator.ApiServer.Legacy
import SingboxOperator.Lib.Runs
/-!
# The managed resolver

With a template that has a `proxy-dns` server the DNS of a merged config is
managed: `proxy-dns` goes out through the first region there is, every region
has a copy of it, and the hostnames of proxies are resolved by `local`, so that
no proxy is needed to find a proxy. `ManagedDNS` says what is generated and how
it fits together.

A DNS server depends on its detour, a selector on its members, and whatever is
dialled by name on a resolver. The managed part of a config has no cycle when
`local` depends on nothing. A `local` that is dialled by name closes one: through
`proxy-dns` it needs a proxy, which needs `local`.
-/
open SingboxOperator.Lib Relation

namespace SingboxOperator

def dnsRules (m : Object) : List Value := (((m.get "dns").asObject.getD []).get "rules").asArray.getD []

def defaultResolver (m : Object) : Option String :=
  (((m.get "route").asObject.getD []).get "default_domain_resolver").asString

/-- The first server of a tag, as `clientDNSServer` finds it. -/
def findServer (tag : String) (servers : List Value) : Option Object :=
  servers.findSome? fun raw =>
    raw.asObject.bind fun server => if (server.get "tag").isString tag then some server else none

theorem clientDNSServer_eq (m : Object) (tag : String) : clientDNSServer m tag = findServer tag (dnsServers m) := rfl

/-! ## What is generated -/

def dnsModeRule (name server : String) : Value := .obj [("clash_mode", .str name), ("server", .str server)]

def regionsOf (tags : List String) : List RegionMode := clientRegionModes.filter fun mode => mode.tag ∈ tags

def generatedDNSRules (tags : List String) : List Value :=
  (regionsOf tags).map (fun mode => dnsModeRule mode.name (regionDNSTag mode)) ++
    [dnsModeRule clientModeAuto proxyDNSTag]

def localServer : Object := [("type", .str "local"), ("tag", .str localDNSTag)]

/-- The copies for the regions, and `local` where an outbound needs it and the template has none. -/
def generatedServers (parseAddr : String → Bool) (config : Object) (outbounds : List Value) (tags : List String)
    (proxyDNS : Object) : List Value :=
  regionalDNS tags (managedDNS tags proxyDNS) ++
    if !(clientDNSServer config localDNSTag).isSome &&
      outbounds.any (fun raw => raw.asObject.any (needsBootstrap parseAddr)) then [.obj localServer] else []

/-! ## What depends on what -/

inductive DNSNode
  | server (tag : String)
  | outbound (tag : String)
  deriving DecidableEq, Repr

section
variable (parseAddr : String → Bool)

/-- A server or outbound that is dialled by name. -/
def dialsHostname (o : Object) : Bool :=
  let server := (o.get "server").asString.getD ""
  server ≠ "" && !parseAddr server

/-- The server a `domain_resolver` names, by itself or in an object. -/
def resolverName (v : Value) : Option String :=
  match v.asString with
  | some tag => some tag
  | none => v.asObject.bind fun o => (o.get "server").asString

/-- What resolves the name that is dialled, if one is: the resolver of the entry, or the default. -/
def resolverOf (m o : Object) : Option String :=
  if dialsHostname parseAddr o then
    if (o.get "domain_resolver").isNull then defaultResolver m else resolverName (o.get "domain_resolver")
  else none

def isSelector (o : Object) : Bool := (o.get "type").isString "selector"

def selectorMembers (o : Object) : List String := ((o.get "outbounds").asArray.getD []).filterMap Value.asString

/-- The one cannot be reached before the other is. -/
inductive DependsOn (m : Object) : DNSNode → DNSNode → Prop
  | detour {tag ref : String} {server : Object} (hserver : clientDNSServer m tag = some server)
      (href : server.get "detour" = .str ref) : DependsOn m (.server tag) (.outbound ref)
  | serverResolver {tag ref : String} {server : Object} (hserver : clientDNSServer m tag = some server)
      (href : resolverOf parseAddr m server = some ref) : DependsOn m (.server tag) (.server ref)
  | member {tag ref : String} {o : Object} (ho : .obj o ∈ mergedOutbounds m) (htag : o.get "tag" = .str tag)
      (hsel : isSelector o = true) (href : ref ∈ selectorMembers o) : DependsOn m (.outbound tag) (.outbound ref)
  | outboundResolver {tag ref : String} {o : Object} (ho : .obj o ∈ mergedOutbounds m) (htag : o.get "tag" = .str tag)
      (href : resolverOf parseAddr m o = some ref) : DependsOn m (.outbound tag) (.server ref)

/-! ## The property -/

/-- The tags of servers. -/
def serverTags (servers : List Value) : List String :=
  servers.filterMap fun raw => raw.asObject.bind fun server => (server.get "tag").asString

/-- A region has a copy of the managed resolver, with the region as detour, and a rule that selects it. -/
def HasRegion (m resolver : Object) (newRules : List Value) (mode : RegionMode) : Prop :=
  (∃ server, clientDNSServer m (regionDNSTag mode) = some server ∧ server.get "detour" = .str mode.tag ∧
    ∀ key, "tag" ≠ key → "detour" ≠ key → server.get key = resolver.get key) ∧
  dnsModeRule mode.name (regionDNSTag mode) ∈ newRules

/-- An outbound that is dialled by name and has no resolver gets `local`; every other one is as it was. -/
def Bootstrapped (raw raw' : Value) : Prop :=
  (∃ o o' : Object, raw = .obj o ∧ needsBootstrap parseAddr o = true ∧ raw' = .obj o' ∧
    o'.get "domain_resolver" = .str localDNSTag ∧ ∀ key, "domain_resolver" ≠ key → o'.get key = o.get key) ∨
  (∀ o : Object, raw = .obj o → needsBootstrap parseAddr o = false) ∧ raw' = raw

/-- The DNS of a config merged from `t`, with the servers and the rules that are new. -/
structure ManagedDNS (t : Object) (generated : List Value) (m resolver : Object) (newServers newRules : List Value) :
    Prop where
  managed : clientDNSServer m proxyDNSTag = some resolver
  regions : ∀ mode ∈ clientRegionModes,
    (HasRegion m resolver newRules mode ↔ mode.tag ∈ outboundTags (mergedOutbounds m)) ∧
    (mode.tag ∈ outboundTags (mergedOutbounds m) ↔
      modeRule mode.name mode.tag ∈ modeRules (outboundTags (mergedOutbounds m)))
  routeRules : ∃ before after, mergedRules m = before ++ modeRules (outboundTags (mergedOutbounds m)) ++ after
  keepsRules : dnsRules m = dnsRules t ++ newRules
  servers : ∃ kept, dnsServers m = kept ++ newServers ∧ serverTags kept = serverTags (dnsServers t)
  newTags : (serverTags newServers).Nodup ∧ ∀ tag ∈ serverTags newServers, tag ∉ serverTags (dnsServers t)
  detour : (∃ mode ∈ clientRegionModes, mode.tag ∈ outboundTags (mergedOutbounds m) ∧
      resolver.get "detour" = .str mode.tag ∧ finalOutbound m = .str mode.tag ∧
      ∀ x, modeRule clientModeAuto x ∈ modeRules (outboundTags (mergedOutbounds m)) ↔ x = mode.tag) ∨
    (∀ mode ∈ clientRegionModes, mode.tag ∉ outboundTags (mergedOutbounds m)) ∧ resolver.get "detour" = .null
  outbounds : List.Forall₂ (Bootstrapped parseAddr) generated (mergedOutbounds m)
  hasLocal : (∃ o : Object, .obj o ∈ generated ∧ needsBootstrap parseAddr o = true) →
    (clientDNSServer m localDNSTag).isSome = true
  acyclic : ∀ x,
    (x = .server proxyDNSTag ∨ (∃ tag ∈ serverTags newServers, x = .server tag) ∨ ∃ tag, x = .outbound tag) →
    ∀ y, ReflTransGen (DependsOn parseAddr m) x y → ¬ TransGen (DependsOn parseAddr m) y y

/-- The template has a managed resolver at an address, and its `local`, if it has one, no detour. -/
structure DNSTemplate (t : Object) : Prop where
  proxyDNS : ∃ server addr, clientDNSServer t proxyDNSTag = some server ∧ server.get "server" = .str addr ∧
    parseAddr addr = true
  localDetour : ∀ server, clientDNSServer t localDNSTag = some server → server.get "detour" = .null

end

/-- Outbounds with distinct tags. Selectors have no selectors among their members, and a resolver is `local`. -/
structure PlainOutbounds (generated : List Value) : Prop where
  tags : (outboundTags generated).Nodup
  members : ∀ o : Object, .obj o ∈ generated → isSelector o = true → ∀ ref ∈ selectorMembers o,
    ∀ o' : Object, .obj o' ∈ generated → o'.get "tag" = .str ref → isSelector o' = false
  resolvers : ∀ o : Object, .obj o ∈ generated →
    o.get "domain_resolver" = .null ∨ resolverName (o.get "domain_resolver") = some localDNSTag

/-! ## Servers by their tags -/

section
variable {tag tag' : String} {server : Object} {servers : List Value}

theorem isServer_obj : isServer tag (.obj server) = true ↔ server.get "tag" = .str tag := by
  rw [isServer, Value.asObject_obj, Option.any_some, Value.isString_iff]

theorem findServer_cons (raw : Value) :
    findServer tag (raw :: servers) = if isServer tag raw then raw.asObject else findServer tag servers := by
  unfold findServer isServer
  rw [List.findSome?_cons]
  cases raw.asObject with
  | none => simp
  | some server => cases h : (server.get "tag").isString tag <;> simp [h]

theorem replaceServer_cons (raw : Value) :
    replaceServer tag server (raw :: servers) =
      if isServer tag raw then .obj server :: servers else raw :: replaceServer tag server servers := rfl

theorem findServer_append (servers' : List Value) :
    findServer tag (servers ++ servers') = (findServer tag servers).or (findServer tag servers') :=
  List.findSome?_append

theorem mem_serverTags :
    tag ∈ serverTags servers ↔ ∃ server : Object, .obj server ∈ servers ∧ server.get "tag" = .str tag := by
  unfold serverTags
  simp [Option.bind_eq_some_iff]

theorem findServer_eq_none : findServer tag servers = none ↔ tag ∉ serverTags servers := by
  rw [mem_serverTags]
  induction servers with
  | nil => simp [findServer]
  | cons raw rest ih =>
    rw [findServer_cons]
    cases raw with
    | obj o =>
      by_cases h : isServer tag (.obj o) = true
      · simp only [h, if_true, Value.asObject_obj, reduceCtorEq, false_iff, not_not]
        exact ⟨o, List.mem_cons_self, isServer_obj.1 h⟩
      · have htag : Object.get "tag" o ≠ .str tag := fun ht => h (isServer_obj.2 ht)
        rw [if_neg h, ih]
        refine not_congr ⟨fun ⟨o', ho', ht⟩ => ⟨o', List.mem_cons_of_mem _ ho', ht⟩, ?_⟩
        rintro ⟨o', ho', ht⟩
        rcases List.mem_cons.1 ho' with heq | ho'
        · exact absurd (Value.obj.inj heq ▸ ht) htag
        · exact ⟨o', ho', ht⟩
    | _ => simpa [isServer, Value.asObject] using ih

theorem findServer_tag (h : findServer tag servers = some server) : server.get "tag" = .str tag := by
  induction servers with
  | nil => cases h
  | cons raw rest ih =>
    rw [findServer_cons] at h
    by_cases hraw : isServer tag raw = true
    · rw [if_pos hraw, Value.asObject_eq_some] at h
      subst h
      exact isServer_obj.1 hraw
    · rw [if_neg hraw] at h
      exact ih h

theorem findServer_replaceServer_self (hserver : server.get "tag" = .str tag)
    (h : (findServer tag servers).isSome = true) : findServer tag (replaceServer tag server servers) = some server := by
  induction servers with
  | nil => cases h
  | cons raw rest ih =>
    rw [replaceServer_cons]
    rw [findServer_cons] at h
    by_cases hraw : isServer tag raw = true
    · rw [if_pos hraw, findServer_cons, if_pos (isServer_obj.2 hserver), Value.asObject_obj]
    · rw [if_neg hraw] at h ⊢
      rw [findServer_cons, if_neg hraw, ih h]

/-- What is not replaced is found as before. -/
theorem findServer_replaceServer_ne (hserver : server.get "tag" = .str tag) (hne : tag' ≠ tag) :
    findServer tag' (replaceServer tag server servers) = findServer tag' servers := by
  have hother : ∀ o : Object, o.get "tag" = .str tag → ¬ isServer tag' (.obj o) = true := by
    intro o ho ho'
    exact hne (Value.str.inj ((isServer_obj.1 ho').symm.trans ho))
  induction servers with
  | nil => rfl
  | cons raw rest ih =>
    rw [replaceServer_cons]
    by_cases hraw : isServer tag raw = true
    · rw [if_pos hraw, findServer_cons, if_neg (hother _ hserver), findServer_cons, if_neg]
      cases raw with
      | obj o => exact hother o (isServer_obj.1 hraw)
      | _ => simp [isServer, Value.asObject]
    · rw [if_neg hraw, findServer_cons, findServer_cons, ih]

theorem serverTags_replaceServer (hserver : server.get "tag" = .str tag) :
    serverTags (replaceServer tag server servers) = serverTags servers := by
  unfold serverTags
  induction servers with
  | nil => rfl
  | cons raw rest ih =>
    rw [replaceServer_cons]
    by_cases hraw : isServer tag raw = true
    · cases raw with
      | obj o => simp [hraw, hserver, isServer_obj.1 hraw]
      | _ => simp [isServer, Value.asObject] at hraw
    · rw [if_neg hraw, List.filterMap_cons, List.filterMap_cons, ih]

end

/-! ## The steps of `configureClientDNS` -/

theorem templateDNSRules_ok {dns : Object} {rules : List Value} (h : templateDNSRules dns = .ok rules) :
    rules = (dns.get "rules").asArray.getD [] := by
  unfold templateDNSRules at h
  cases hr : (dns.get "rules").asArray with
  | some rules' =>
    simp only [hr] at h
    exact (Except.ok.inj h).symm
  | none =>
    simp only [hr] at h
    split at h
    · exact (Except.ok.inj h).symm
    · cases h

theorem dnsRules_normalize (t : Object) : dnsRules (normalizeDeprecatedClientConfig t) = dnsRules t := by
  unfold dnsRules
  rw [normalize_dns]
  cases (t.get "dns").asObject with
  | none => rfl
  | some dns => simp [Object.get_delete_ne]

theorem dnsRules_setDefaultMode (m : Object) : dnsRules (setDefaultMode m) = dnsRules m := by
  unfold setDefaultMode dnsRules
  dsimp only
  rw [Object.get_set_ne (by decide)]

section
variable {parseAddr : String → Bool} {config config' route route' proxyDNS : Object} {outbounds outbounds' : List Value}
  {tags : List String}

theorem configureClientDNS_managed (hserver : clientDNSServer config proxyDNSTag = some proxyDNS)
    (h : configureClientDNS parseAddr config route outbounds tags = .ok (config', route', outbounds')) :
    (∀ mode ∈ regionsOf tags, clientDNSServer config (regionDNSTag mode) = none) ∧
      dnsServers config' = replaceServer proxyDNSTag (managedDNS tags proxyDNS) (dnsServers config) ++
        generatedServers parseAddr config outbounds tags proxyDNS ∧
      dnsRules config' = dnsRules config ++ generatedDNSRules tags ∧
      outbounds' = outbounds.map (bootstrap parseAddr) := by
  unfold configureClientDNS at h
  simp only [hserver] at h
  obtain ⟨templateRules, hrules, h⟩ := Except.bind_ok h
  split at h
  · cases h
  · rename_i hfree
    simp only [pure, Except.pure, Except.ok.injEq, Prod.mk.injEq] at h
    obtain ⟨rfl, rfl, rfl⟩ := h
    refine ⟨fun mode hmode => ?_, ?_, ?_, rfl⟩
    · simpa using List.find?_eq_none.1 hfree mode hmode
    · simp only [dnsServers, Value.asObject_obj, Object.get_set_self, Option.getD_some,
        @Object.get_set_ne "rules" "servers" (by decide), @Object.get_set_ne "final" "servers" (by decide),
        Value.asArray_arr, List.append_assoc]
      rfl
    · simp only [dnsRules, Value.asObject_obj, Object.get_set_self, Option.getD_some,
        @Object.get_set_ne "final" "rules" (by decide), Value.asArray_arr, List.append_assoc]
      rw [templateDNSRules_ok hrules]
      rfl

end

section
variable {parseAddr : String → Bool} {t m proxyDNS : Object} {generated : List Value}

/-- The DNS of a merged config in terms of the template. -/
structure ManagedFrom (parseAddr : String → Bool) (t : Object) (generated : List Value) (proxyDNS m : Object) :
    Prop where
  free : ∀ mode ∈ regionsOf (outboundTags generated), clientDNSServer t (regionDNSTag mode) = none
  servers : dnsServers m = replaceServer proxyDNSTag (managedDNS (outboundTags generated) proxyDNS) (dnsServers t) ++
    generatedServers parseAddr t generated (outboundTags generated) proxyDNS
  rules : dnsRules m = dnsRules t ++ generatedDNSRules (outboundTags generated)
  outbounds : mergedOutbounds m = generated.map (bootstrap parseAddr)

theorem mergeClientConfig_managed [Library] [MapOrder] {input : ClientConfigInput}
    (hserver : clientDNSServer t proxyDNSTag = some proxyDNS)
    (h : mergeClientConfig parseAddr (.ok t) generated input = .ok m) :
    ManagedFrom parseAddr t generated proxyDNS m := by
  obtain ⟨rules, _, t', route, original, m', route', outbounds, _, ht, _, _, hdns, rfl⟩ := mergeClientConfig_inv h
  obtain rfl := Except.ok.inj ht
  have hservers := (dnsServers_setDefaultMode (normalizeDeprecatedClientConfig t)).trans (dnsServers_normalize t)
  have hrules := (dnsRules_setDefaultMode (normalizeDeprecatedClientConfig t)).trans (dnsRules_normalize t)
  have hlookup := clientDNSServer_congr hservers
  obtain ⟨hfree, hsrv, hdnsRules, rfl⟩ := configureClientDNS_managed ((hlookup _).trans hserver) hdns
  -- putting `route` and `outbounds` back does not touch `dns`
  have hget : ((m'.set "route" (.obj route')).set "outbounds"
      (.arr (generated.map (bootstrap parseAddr)))).get "dns" = m'.get "dns" := by
    rw [Object.get_set_ne (by decide), Object.get_set_ne (by decide)]
  refine ⟨fun mode hmode => (hlookup _).symm.trans (hfree mode hmode), ?_, ?_, ?_⟩
  · rw [dnsServers, hget]
    rw [hservers, generatedServers, hlookup] at hsrv
    exact hsrv
  · rw [dnsRules, hget]
    rw [hrules] at hdnsRules
    exact hdnsRules
  · rw [mergedOutbounds, Object.get_set_self]
    rfl

/-! ## The servers of a merged config -/

theorem managedDNS_get {key : String} (h : "detour" ≠ key) (tags : List String) (proxyDNS : Object) :
    (managedDNS tags proxyDNS).get key = proxyDNS.get key := by
  unfold managedDNS
  split
  · exact Object.get_set_ne h _ _
  · exact Object.get_delete_ne h _

/-- The copy for a region. -/
def regionServer (managed : Object) (mode : RegionMode) : Object :=
  (managed.set "tag" (.str (regionDNSTag mode))).set "detour" (.str mode.tag)

theorem regionalDNS_eq (tags : List String) (managed : Object) :
    regionalDNS tags managed = (regionsOf tags).map fun mode => .obj (regionServer managed mode) := rfl

theorem regionServer_tag (managed : Object) (mode : RegionMode) :
    (regionServer managed mode).get "tag" = .str (regionDNSTag mode) := by
  rw [regionServer, Object.get_set_ne (by decide), Object.get_set_self]

theorem regionServer_get {key : String} (htag : "tag" ≠ key) (hdetour : "detour" ≠ key) (managed : Object)
    (mode : RegionMode) : (regionServer managed mode).get key = managed.get key := by
  rw [regionServer, Object.get_set_ne hdetour, Object.get_set_ne htag]

theorem mem_regionsOf {tags : List String} {mode : RegionMode} :
    mode ∈ regionsOf tags ↔ mode ∈ clientRegionModes ∧ mode.tag ∈ tags := by
  simp [regionsOf]

theorem regionDNSTag_ne : ∀ mode ∈ clientRegionModes,
    regionDNSTag mode ≠ proxyDNSTag ∧ regionDNSTag mode ≠ localDNSTag := by
  decide

theorem regionDNSTag_inj : ∀ mode ∈ clientRegionModes, ∀ mode' ∈ clientRegionModes,
    regionDNSTag mode = regionDNSTag mode' → mode = mode' := by
  decide

theorem nodup_regionDNSTags (tags : List String) : ((regionsOf tags).map regionDNSTag).Nodup := by
  have hall : (clientRegionModes.map regionDNSTag).Nodup := by decide
  exact hall.sublist (List.filter_sublist.map _)

theorem serverTags_regional (tags : List String) (managed : Object) :
    serverTags (regionalDNS tags managed) = (regionsOf tags).map regionDNSTag := by
  simp [serverTags, regionalDNS_eq, List.filterMap_map, Function.comp_def, regionServer_tag]

theorem findServer_regional {tags : List String} {mode : RegionMode} (hmode : mode ∈ regionsOf tags)
    (managed : Object) :
    findServer (regionDNSTag mode) (regionalDNS tags managed) = some (regionServer managed mode) := by
  have hregion : ∀ mode' ∈ regionsOf tags, mode' ∈ clientRegionModes := fun mode' h => (mem_regionsOf.1 h).1
  have hmem := hregion mode hmode
  rw [regionalDNS_eq]
  generalize regionsOf tags = modes at hmode hregion
  induction modes with
  | nil => cases hmode
  | cons mode' modes ih =>
    rw [List.map_cons, findServer_cons]
    by_cases htag : isServer (regionDNSTag mode) (.obj (regionServer managed mode')) = true
    · -- the tag tells the region
      rw [isServer_obj, regionServer_tag, Value.str.injEq] at htag
      obtain rfl := regionDNSTag_inj mode' (hregion mode' List.mem_cons_self) mode hmem htag
      rw [if_pos (isServer_obj.2 (regionServer_tag _ _)), Value.asObject_obj]
    · rw [if_neg htag]
      refine ih ?_ fun mode'' h => hregion mode'' (List.mem_cons_of_mem _ h)
      rcases List.mem_cons.1 hmode with rfl | hmode
      · exact absurd (isServer_obj.2 (regionServer_tag _ _)) htag
      · exact hmode

namespace ManagedFrom

variable (h : ManagedFrom parseAddr t generated proxyDNS m) (hserver : clientDNSServer t proxyDNSTag = some proxyDNS)
include h hserver

omit h in
theorem managed_tag : (managedDNS (outboundTags generated) proxyDNS).get "tag" = .str proxyDNSTag :=
  (managedDNS_get (by decide) _ _).trans (findServer_tag hserver)

theorem lookup_proxyDNS :
    clientDNSServer m proxyDNSTag = some (managedDNS (outboundTags generated) proxyDNS) := by
  rw [clientDNSServer_eq, h.servers, findServer_append,
    findServer_replaceServer_self (managed_tag hserver) (by rw [← clientDNSServer_eq, hserver]; rfl)]
  rfl

theorem lookup_region {mode : RegionMode} (hmode : mode ∈ regionsOf (outboundTags generated)) :
    clientDNSServer m (regionDNSTag mode) =
      some (regionServer (managedDNS (outboundTags generated) proxyDNS) mode) := by
  have hne := (regionDNSTag_ne mode (mem_regionsOf.1 hmode).1).1
  rw [clientDNSServer_eq, h.servers, findServer_append, findServer_replaceServer_ne (managed_tag hserver) hne,
    ← clientDNSServer_eq, h.free mode hmode, generatedServers, findServer_append, findServer_regional hmode]
  rfl

/-- The `local` of the template, or the one that is generated. -/
theorem lookup_local :
    clientDNSServer m localDNSTag = (clientDNSServer t localDNSTag).or
      (if generated.any (fun raw => raw.asObject.any (needsBootstrap parseAddr)) then some localServer else none) := by
  have hregional : findServer localDNSTag
      (regionalDNS (outboundTags generated) (managedDNS (outboundTags generated) proxyDNS)) = none := by
    rw [findServer_eq_none, serverTags_regional]
    intro hmem
    obtain ⟨mode, hmode, htag⟩ := List.mem_map.1 hmem
    exact (regionDNSTag_ne mode (mem_regionsOf.1 hmode).1).2 htag
  rw [clientDNSServer_eq, h.servers, findServer_append, findServer_replaceServer_ne (managed_tag hserver) (by decide),
    ← clientDNSServer_eq, generatedServers, findServer_append, hregional]
  cases clientDNSServer t localDNSTag with
  | some server => rfl
  | none =>
    by_cases hneeds : (generated.any fun raw => raw.asObject.any (needsBootstrap parseAddr)) = true
    · simp only [hneeds, Option.isSome_none, Bool.not_false, Bool.and_self, if_true]
      rfl
    · simp [hneeds, findServer]

omit h hserver in
theorem mem_newTags {tag : String} :
    tag ∈ serverTags (generatedServers parseAddr t generated (outboundTags generated) proxyDNS) ↔
      (∃ mode ∈ regionsOf (outboundTags generated), regionDNSTag mode = tag) ∨
        (clientDNSServer t localDNSTag = none ∧
          (generated.any fun raw => raw.asObject.any (needsBootstrap parseAddr)) = true ∧ tag = localDNSTag) := by
  rw [generatedServers, serverTags, List.filterMap_append, List.mem_append]
  refine or_congr ?_ ?_
  · rw [← List.mem_map, ← serverTags_regional _ (managedDNS (outboundTags generated) proxyDNS)]
    rfl
  · cases hl : clientDNSServer t localDNSTag with
    | some server => simp
    | none =>
      by_cases hneeds : (generated.any fun raw => raw.asObject.any (needsBootstrap parseAddr)) = true
      · simp [hneeds, localServer, Object.get, eq_comm]
      · simp [hneeds]

omit h hserver in
theorem nodup_newTags :
    (serverTags (generatedServers parseAddr t generated (outboundTags generated) proxyDNS)).Nodup := by
  have hregions := nodup_regionDNSTags (outboundTags generated)
  rw [generatedServers, serverTags, List.filterMap_append, ← serverTags, serverTags_regional]
  split
  · refine List.nodup_append.2 ⟨hregions, List.nodup_singleton _, ?_⟩
    intro tag htag tag' htag' heq
    obtain ⟨mode, hmode, rfl⟩ := List.mem_map.1 htag
    exact (regionDNSTag_ne mode (mem_regionsOf.1 hmode).1).2 (heq.trans (List.mem_singleton.1 htag'))
  · simpa using hregions

omit hserver in
theorem newTags_notMem {tag : String}
    (htag : tag ∈ serverTags (generatedServers parseAddr t generated (outboundTags generated) proxyDNS)) :
    tag ∉ serverTags (dnsServers t) := by
  rw [← findServer_eq_none, ← clientDNSServer_eq]
  rcases mem_newTags.1 htag with ⟨mode, hmode, rfl⟩ | ⟨hnone, _, rfl⟩
  · exact h.free mode hmode
  · exact hnone

end ManagedFrom

/-! ## Modes -/

theorem modeNames_ne_auto : ∀ mode ∈ clientRegionModes, mode.name ≠ clientModeAuto := by decide

theorem modeRule_inj {name name' outbound outbound' : String} :
    modeRule name outbound = modeRule name' outbound' ↔ name = name' ∧ outbound = outbound' := by
  simp [modeRule]

theorem dnsModeRule_inj {name name' server server' : String} :
    dnsModeRule name server = dnsModeRule name' server' ↔ name = name' ∧ server = server' := by
  simp [dnsModeRule]

theorem regionRule_mem {tags : List String} {mode : RegionMode} (hmode : mode ∈ clientRegionModes) :
    modeRule mode.name mode.tag ∈ modeRules tags ↔ mode.tag ∈ tags := by
  rw [mem_modeRules]
  constructor
  · rintro ⟨mode', hmode', htag, heq | heq⟩
    · rwa [(modeRule_inj.1 heq).2]
    · exact absurd (modeRule_inj.1 heq).1 (modeNames_ne_auto mode hmode)
  · exact fun htag => ⟨mode, hmode, htag, .inl rfl⟩

theorem autoRule_mem {tags : List String} (h : proxySelectorOf tags ≠ "") {x : String} :
    modeRule clientModeAuto x ∈ modeRules tags ↔ x = proxySelectorOf tags := by
  rw [mem_modeRules]
  constructor
  · rintro ⟨mode, hmode, _, heq | heq⟩
    · exact absurd (modeRule_inj.1 heq).1.symm (modeNames_ne_auto mode hmode)
    · exact (modeRule_inj.1 heq).2
  · rintro rfl
    obtain ⟨mode, hmode, htag⟩ := proxySelectorOf_ne_empty.1 h
    exact ⟨mode, hmode, htag, .inr rfl⟩

theorem regionDNSRule_mem {tags : List String} {mode : RegionMode} (hmode : mode ∈ clientRegionModes) :
    dnsModeRule mode.name (regionDNSTag mode) ∈ generatedDNSRules tags ↔ mode.tag ∈ tags := by
  rw [generatedDNSRules, List.mem_append, List.mem_map, List.mem_singleton]
  constructor
  · rintro (⟨mode', hmode', heq⟩ | heq)
    · obtain ⟨hmem, htag⟩ := mem_regionsOf.1 hmode'
      rwa [← regionDNSTag_inj mode' hmem mode hmode (dnsModeRule_inj.1 heq).2]
    · exact absurd (dnsModeRule_inj.1 heq).2 (regionDNSTag_ne mode hmode).1
  · exact fun htag => .inl ⟨mode, mem_regionsOf.2 ⟨hmode, htag⟩, rfl⟩

/-! ## Outbounds -/

theorem needsBootstrap_eq (o : Object) :
    needsBootstrap parseAddr o = (dialsHostname parseAddr o && (o.get "domain_resolver").isNull) := by
  simp only [needsBootstrap, dialsHostname, Bool.and_assoc, Bool.and_comm]

theorem bootstrapped_bootstrap (parseAddr : String → Bool) (raw : Value) :
    Bootstrapped parseAddr raw (bootstrap parseAddr raw) := by
  unfold Bootstrapped bootstrap
  cases raw with
  | obj o =>
    by_cases hneeds : needsBootstrap parseAddr o = true
    · refine .inl ⟨o, _, rfl, hneeds, ?_, Object.get_set_self _ _ _, fun key hkey => Object.get_set_ne hkey _ _⟩
      simp [hneeds]
    · refine .inr ⟨fun o' ho' => ?_, by simp [hneeds]⟩
      rw [← Value.obj.inj ho']
      simpa using hneeds
  | _ => exact .inr ⟨nofun, rfl⟩

theorem dialsHostname_congr {o o' : Object} (h : o.get "server" = o'.get "server") :
    dialsHostname parseAddr o = dialsHostname parseAddr o' := by
  rw [dialsHostname, dialsHostname, h]

theorem dialsHostname_addr {o : Object} {addr : String} (hserver : o.get "server" = .str addr)
    (haddr : parseAddr addr = true) : dialsHostname parseAddr o = false := by
  simp [dialsHostname, hserver, haddr]

/-- Only what is dialled by name has a resolver. -/
theorem resolverOf_eq_some {m o : Object} {ref : String} :
    resolverOf parseAddr m o = some ref ↔ dialsHostname parseAddr o = true ∧
      (if (o.get "domain_resolver").isNull then defaultResolver m else resolverName (o.get "domain_resolver")) =
        some ref := by
  unfold resolverOf
  cases dialsHostname parseAddr o <;> simp

/-- What a merged outbound has in common with the generated one, and what resolves it. -/
structure MergedOutbound (parseAddr : String → Bool) (m o o' : Object) : Prop where
  get : ∀ key, "domain_resolver" ≠ key → o'.get key = o.get key
  resolver : ∀ ref, resolverOf parseAddr m o' = some ref → ref = localDNSTag

namespace MergedOutbound

variable {o o' : Object} (h : MergedOutbound parseAddr m o o')
include h

theorem isSelector_eq : isSelector o' = isSelector o := by
  rw [isSelector, isSelector, h.get _ (by decide)]

theorem selectorMembers_eq : selectorMembers o' = selectorMembers o := by
  rw [selectorMembers, selectorMembers, h.get _ (by decide)]

end MergedOutbound

/-- A name that is dialled is resolved by `local`, by the generator's choice or by `bootstrap`. -/
theorem ManagedFrom.mem_outbounds (h : ManagedFrom parseAddr t generated proxyDNS m) (hgen : PlainOutbounds generated)
    {o' : Object} (ho' : .obj o' ∈ mergedOutbounds m) :
    ∃ o : Object, .obj o ∈ generated ∧ MergedOutbound parseAddr m o o' := by
  rw [h.outbounds] at ho'
  obtain ⟨raw, hraw, heq⟩ := List.mem_map.1 ho'
  rcases bootstrapped_bootstrap parseAddr raw with ⟨o, o₁, rfl, _, heq', hlocal, hget⟩ | ⟨hno, heq'⟩
  · obtain rfl : o₁ = o' := Value.obj.inj (heq'.symm.trans heq)
    refine ⟨o, hraw, hget, fun ref href => ?_⟩
    obtain ⟨_, href⟩ := resolverOf_eq_some.1 href
    rw [hlocal] at href
    exact (Option.some.inj href).symm
  · obtain rfl : raw = .obj o' := heq'.symm.trans heq
    refine ⟨o', hraw, fun _ _ => rfl, fun ref href => ?_⟩
    obtain ⟨hdials, href⟩ := resolverOf_eq_some.1 href
    have hneeds := hno o' rfl
    rw [needsBootstrap_eq, hdials, Bool.true_and] at hneeds
    rw [hneeds, if_neg Bool.false_ne_true] at href
    rcases hgen.resolvers o' hraw with hnull | hlocal
    · rw [hnull] at hneeds
      cases hneeds
    · exact Option.some.inj (href.symm.trans hlocal)

/-! ## No cycle -/

/-- A resolver comes before selectors, these before the other outbounds, and `local` is last. -/
def nodeRank (m : Object) : DNSNode → ℕ
  | .server tag => if tag = localDNSTag then 0 else 3
  | .outbound tag =>
    if (mergedOutbounds m).any fun raw => raw.asObject.any fun o => (o.get "tag").isString tag && isSelector o then 2
    else 1

/-- The servers that are managed, and every outbound. -/
def ManagedNode (tags : List String) : DNSNode → Prop
  | .server tag => tag = proxyDNSTag ∨ tag = localDNSTag ∨ ∃ mode ∈ regionsOf tags, regionDNSTag mode = tag
  | .outbound _ => True

theorem nodeRank_selector {o : Object} {tag : String} (ho : .obj o ∈ mergedOutbounds m) (htag : o.get "tag" = .str tag)
    (hsel : isSelector o = true) : nodeRank m (.outbound tag) = 2 := by
  refine if_pos (List.any_eq_true.2 ⟨_, ho, ?_⟩)
  rw [Value.asObject_obj, Option.any_some, Value.isString_iff.2 htag, hsel]
  rfl

theorem nodeRank_other {tag : String}
    (h : ∀ o : Object, .obj o ∈ mergedOutbounds m → o.get "tag" = .str tag → isSelector o = false) :
    nodeRank m (.outbound tag) = 1 := by
  refine if_neg fun hany => ?_
  obtain ⟨raw, hraw, hsel⟩ := List.any_eq_true.1 hany
  obtain ⟨o, ho, hsel⟩ := (Option.any_eq_true _ _).1 hsel
  obtain rfl := Value.asObject_eq_some.1 ho
  obtain ⟨htag, hsel⟩ := Bool.and_eq_true_iff.1 hsel
  rw [h o hraw (Value.isString_iff.1 htag)] at hsel
  cases hsel

theorem nodeRank_outbound (m : Object) (tag : String) :
    0 < nodeRank m (.outbound tag) ∧ nodeRank m (.outbound tag) < 3 := by
  rw [nodeRank]
  split <;> decide

namespace ManagedFrom

variable (h : ManagedFrom parseAddr t generated proxyDNS m) (hserver : clientDNSServer t proxyDNSTag = some proxyDNS)
include h hserver

/-- No managed server is dialled by name, and `local` has no detour. -/
theorem managed_server (haddr : dialsHostname parseAddr proxyDNS = false)
    (hlocal : ∀ l, clientDNSServer t localDNSTag = some l → l.get "detour" = .null ∧ dialsHostname parseAddr l = false)
    {tag : String} {server : Object} (hnode : ManagedNode (outboundTags generated) (.server tag))
    (hs : clientDNSServer m tag = some server) :
    dialsHostname parseAddr server = false ∧ (tag = localDNSTag → server.get "detour" = .null) := by
  have hmanaged : dialsHostname parseAddr (managedDNS (outboundTags generated) proxyDNS) = false :=
    (dialsHostname_congr (managedDNS_get (by decide) _ _)).trans haddr
  rcases hnode with rfl | rfl | ⟨mode, hmode, rfl⟩
  · obtain rfl := Option.some.inj ((h.lookup_proxyDNS hserver).symm.trans hs)
    exact ⟨hmanaged, fun heq => absurd heq (by decide)⟩
  · rw [h.lookup_local hserver] at hs
    cases hl : clientDNSServer t localDNSTag with
    | some l =>
      rw [hl, Option.some_or] at hs
      obtain rfl := Option.some.inj hs
      obtain ⟨hdetour, hdials⟩ := hlocal l hl
      exact ⟨hdials, fun _ => hdetour⟩
    | none =>
      rw [hl, Option.none_or] at hs
      split at hs
      · obtain rfl := Option.some.inj hs
        exact ⟨rfl, fun _ => rfl⟩
      · cases hs
  · obtain rfl := Option.some.inj ((h.lookup_region hserver hmode).symm.trans hs)
    refine ⟨(dialsHostname_congr (regionServer_get (by decide) (by decide) _ _)).trans hmanaged, fun heq => ?_⟩
    exact absurd heq (regionDNSTag_ne mode (mem_regionsOf.1 hmode).1).2

/-- Every dependency of the managed part goes down in rank. -/
theorem dependsOn_step (haddr : dialsHostname parseAddr proxyDNS = false)
    (hlocal : ∀ l, clientDNSServer t localDNSTag = some l → l.get "detour" = .null ∧ dialsHostname parseAddr l = false)
    (hgen : PlainOutbounds generated) (x y : DNSNode) (hx : ManagedNode (outboundTags generated) x)
    (hxy : DependsOn parseAddr m x y) : ManagedNode (outboundTags generated) y ∧ nodeRank m y < nodeRank m x := by
  cases hxy with
  | @detour tag ref server hs href =>
    refine ⟨trivial, ?_⟩
    have hne : tag ≠ localDNSTag := by
      intro heq
      rw [(h.managed_server hserver haddr hlocal hx hs).2 heq] at href
      cases href
    calc nodeRank m (.outbound ref) < 3 := (nodeRank_outbound m ref).2
      _ = nodeRank m (.server tag) := (if_neg hne).symm
  | serverResolver hs href =>
    -- a managed server is at an address
    have hdials := (resolverOf_eq_some.1 href).1
    rw [(h.managed_server hserver haddr hlocal hx hs).1] at hdials
    cases hdials
  | @member tag ref o' ho' htag hsel href =>
    refine ⟨trivial, ?_⟩
    obtain ⟨o, ho, hmerged⟩ := h.mem_outbounds hgen ho'
    rw [hmerged.selectorMembers_eq] at href
    have hsel₀ : isSelector o = true := hmerged.isSelector_eq ▸ hsel
    have hother : nodeRank m (.outbound ref) = 1 := by
      refine nodeRank_other fun p' hp' hptag => ?_
      obtain ⟨p, hp, hpmerged⟩ := h.mem_outbounds hgen hp'
      rw [hpmerged.get _ (by decide)] at hptag
      rw [hpmerged.isSelector_eq]
      exact hgen.members o ho hsel₀ ref href p hp hptag
    rw [hother, nodeRank_selector ho' htag hsel]
    decide
  | @outboundResolver tag ref o' ho' htag href =>
    obtain ⟨o, _, hmerged⟩ := h.mem_outbounds hgen ho'
    obtain rfl := hmerged.resolver ref href
    exact ⟨.inr (.inl rfl), (nodeRank_outbound m tag).1⟩

end ManagedFrom

/-! ## The fields -/

namespace ManagedFrom

variable (h : ManagedFrom parseAddr t generated proxyDNS m) (hserver : clientDNSServer t proxyDNSTag = some proxyDNS)
include h

theorem tags : outboundTags (mergedOutbounds m) = outboundTags generated := by
  rw [h.outbounds, outboundTags_bootstrap]

theorem forall₂_bootstrapped : List.Forall₂ (Bootstrapped parseAddr) generated (mergedOutbounds m) := by
  rw [h.outbounds, List.forall₂_map_right_iff, List.forall₂_same]
  exact fun raw _ => bootstrapped_bootstrap parseAddr raw

include hserver

theorem hasRegion_iff {mode : RegionMode} (hmode : mode ∈ clientRegionModes) :
    HasRegion m (managedDNS (outboundTags generated) proxyDNS) (generatedDNSRules (outboundTags generated)) mode ↔
      mode.tag ∈ outboundTags generated := by
  rw [HasRegion, regionDNSRule_mem hmode]
  refine ⟨And.right, fun htag => ⟨?_, htag⟩⟩
  refine ⟨_, h.lookup_region hserver (mem_regionsOf.2 ⟨hmode, htag⟩), ?_, fun key hkey hkey' => ?_⟩
  · rw [regionServer, Object.get_set_self]
  · exact regionServer_get hkey hkey' _ _

theorem hasLocal (hneeds : ∃ o : Object, .obj o ∈ generated ∧ needsBootstrap parseAddr o = true) :
    (clientDNSServer m localDNSTag).isSome = true := by
  obtain ⟨o, ho, hneeds⟩ := hneeds
  have hany : (generated.any fun raw => raw.asObject.any (needsBootstrap parseAddr)) = true :=
    List.any_eq_true.2 ⟨_, ho, hneeds⟩
  rw [h.lookup_local hserver, hany, if_pos rfl, Option.isSome_or, Option.isSome_some, Bool.or_true]

end ManagedFrom

theorem MergedFrom.autoDetour {rules : List RouteRule} (h : MergedFrom parseAddr t generated rules m)
    (proxyDNS : Object) :
    (∃ mode ∈ clientRegionModes, mode.tag ∈ outboundTags generated ∧
      (managedDNS (outboundTags generated) proxyDNS).get "detour" = .str mode.tag ∧ finalOutbound m = .str mode.tag ∧
      ∀ x, modeRule clientModeAuto x ∈ modeRules (outboundTags generated) ↔ x = mode.tag) ∨
    (∀ mode ∈ clientRegionModes, mode.tag ∉ outboundTags generated) ∧
      (managedDNS (outboundTags generated) proxyDNS).get "detour" = .null := by
  rcases proxySelectorOf_cases (outboundTags generated) with ⟨mode, hmode, htag, hsel, hne⟩ | ⟨hno, hsel⟩
  · have hsel' : proxySelectorOf (outboundTags generated) ≠ "" := hsel ▸ hne
    refine .inl ⟨mode, hmode, htag, ?_, ?_, fun x => ?_⟩
    · rw [managedDNS, if_pos hsel', Object.get_set_self, hsel]
    · rw [h.final, if_pos hsel', hsel]
    · rw [autoRule_mem hsel', hsel]
  · refine .inr ⟨hno, ?_⟩
    rw [managedDNS, if_neg (not_not.2 hsel), Object.get_delete_self]

theorem MergedFrom.modeRules_mem {rules : List RouteRule} (h : MergedFrom parseAddr t generated rules m) :
    ∃ before after, mergedRules m = before ++ modeRules (outboundTags generated) ++ after :=
  ⟨_, _, h.rules⟩

end

/-- Managed DNS fits together and has no cycle, when `local` is not dialled by name. -/
theorem mergeClientConfig_managesDNS [Library] [MapOrder] {parseAddr : String → Bool} {t : Object}
    (ht : DNSTemplate parseAddr t)
    (hleaf : ∀ l, clientDNSServer t localDNSTag = some l → dialsHostname parseAddr l = false)
    {generated : List Value} (hgen : PlainOutbounds generated) {input : ClientConfigInput} {m : Object}
    (hm : mergeClientConfig parseAddr (.ok t) generated input = .ok m) :
    ∃ resolver newServers newRules, ManagedDNS parseAddr t generated m resolver newServers newRules := by
  obtain ⟨proxyDNS, addr, hserver, haddr, hparse⟩ := ht.proxyDNS
  have h := mergeClientConfig_managed hserver hm
  obtain ⟨rules, _, t', _, ht', hfrom⟩ := mergeClientConfig_ok hm
  obtain rfl := Except.ok.inj ht'
  refine ⟨managedDNS (outboundTags generated) proxyDNS,
    generatedServers parseAddr t generated (outboundTags generated) proxyDNS,
    generatedDNSRules (outboundTags generated), ?_⟩
  have hstep := h.dependsOn_step hserver (dialsHostname_addr haddr hparse)
    (fun l hl => ⟨ht.localDetour l hl, hleaf l hl⟩) hgen
  constructor
  case managed => exact h.lookup_proxyDNS hserver
  case regions =>
    intro mode hmode
    rw [h.tags]
    exact ⟨h.hasRegion_iff hserver hmode, (regionRule_mem hmode).symm⟩
  case routeRules => exact h.tags ▸ hfrom.modeRules_mem
  case keepsRules => exact h.rules
  case servers => exact ⟨_, h.servers, serverTags_replaceServer (ManagedFrom.managed_tag hserver)⟩
  case newTags => exact ⟨ManagedFrom.nodup_newTags, fun tag htag => h.newTags_notMem htag⟩
  case detour => exact h.tags ▸ hfrom.autoDetour proxyDNS
  case outbounds => exact h.forall₂_bootstrapped
  case hasLocal => exact h.hasLocal hserver
  case acyclic =>
    intro x hx y hxy
    refine not_transGen_self_of_rank hstep ?_ hxy
    rcases hx with rfl | ⟨tag, htag, rfl⟩ | ⟨tag, rfl⟩
    · exact .inl rfl
    · rcases ManagedFrom.mem_newTags.1 htag with hregion | ⟨_, _, rfl⟩
      · exact .inr (.inr hregion)
      · exact .inr (.inl rfl)
    · exact trivial

/-! ### A region with one proxy, dialled by name -/

def ferryOutbounds : List Value :=
  [.obj [("type", .str "selector"), ("tag", .str "hk"), ("outbounds", Value.strings ["ferry"])],
    .obj [("type", .str "vless"), ("tag", .str "ferry"), ("server", .str "ferry.example.com")],
    .obj [("type", .str "direct"), ("tag", .str "direct")]]

def isResolverAddr (s : String) : Bool := s = "1.1.1.1"

theorem mem_ferryOutbounds {o : Object} (h : .obj o ∈ ferryOutbounds) :
    o = [("type", .str "selector"), ("tag", .str "hk"), ("outbounds", Value.strings ["ferry"])] ∨
      o = [("type", .str "vless"), ("tag", .str "ferry"), ("server", .str "ferry.example.com")] ∨
      o = [("type", .str "direct"), ("tag", .str "direct")] := by
  simpa only [ferryOutbounds, List.mem_cons, List.not_mem_nil, Value.obj.injEq, or_false] using h

theorem ferryOutbounds_plain : PlainOutbounds ferryOutbounds := by
  constructor
  case tags => decide
  case members =>
    intro o ho hsel ref href o' ho' htag
    rcases mem_ferryOutbounds ho with rfl | rfl | rfl
    · obtain rfl : ref = "ferry" := List.mem_singleton.1 href
      rcases mem_ferryOutbounds ho' with rfl | rfl | rfl
      · exact absurd (Value.str.inj htag) (by decide)
      · rfl
      · rfl
    · cases hsel
    · cases hsel
  case resolvers =>
    intro o ho
    rcases mem_ferryOutbounds ho with rfl | rfl | rfl <;> exact .inl rfl

theorem defaultTemplate_local {l : Object} (hl : clientDNSServer defaultTemplate localDNSTag = some l) :
    l = [("type", .str "local"), ("tag", .str "local")] :=
  (Option.some.inj hl).symm

theorem defaultTemplate_dns : DNSTemplate isResolverAddr defaultTemplate :=
  ⟨⟨_, "1.1.1.1", rfl, rfl, rfl⟩, fun l hl => by rw [defaultTemplate_local hl]; rfl⟩

/-- `local` is itself at a name, which `proxy-dns` resolves. -/
def loopTemplate : Object :=
  [("dns", .obj [("servers", .arr [
      .obj [("type", .str "https"), ("tag", .str "proxy-dns"), ("server", .str "1.1.1.1")],
      .obj [("type", .str "udp"), ("tag", .str "local"), ("server", .str "dns.example.com"),
        ("domain_resolver", .str "proxy-dns")]])]),
    ("route", .obj [("rules", .arr [])])]

theorem loopTemplate_dns : DNSTemplate isResolverAddr loopTemplate :=
  ⟨⟨_, "1.1.1.1", rfl, rfl, rfl⟩, fun l hl => by rw [← Option.some.inj hl]; rfl⟩

section
attribute [local instance] plainLibrary storedOrder

theorem loopTemplate_merged :
    ∃ m, mergeClientConfig isResolverAddr (.ok loopTemplate) ferryOutbounds nodelessInput = .ok m := ⟨_, rfl⟩

/-- `proxy-dns` goes out through `hk`, that is `ferry`, whose name `local` resolves, whose name `proxy-dns` resolves. -/
theorem loopTemplate_cycle {m : Object}
    (hm : mergeClientConfig isResolverAddr (.ok loopTemplate) ferryOutbounds nodelessInput = .ok m) :
    TransGen (DependsOn isResolverAddr m) (.server proxyDNSTag) (.server proxyDNSTag) := by
  obtain ⟨proxyDNS, hserver⟩ : ∃ proxyDNS, clientDNSServer loopTemplate proxyDNSTag = some proxyDNS := ⟨_, rfl⟩
  have h := mergeClientConfig_managed hserver hm
  have hmem : ∀ raw ∈ ferryOutbounds, bootstrap isResolverAddr raw ∈ mergedOutbounds m := by
    intro raw hraw
    rw [h.outbounds]
    exact List.mem_map_of_mem hraw
  have hlocal := (h.lookup_local hserver).trans rfl
  obtain rfl := Option.some.inj hserver
  have hhk : DependsOn isResolverAddr m (.server proxyDNSTag) (.outbound "hk") :=
    .detour (h.lookup_proxyDNS hserver) rfl
  have hferry : DependsOn isResolverAddr m (.outbound "hk") (.outbound "ferry") :=
    .member (hmem _ List.mem_cons_self) rfl rfl List.mem_cons_self
  have hname : DependsOn isResolverAddr m (.outbound "ferry") (.server localDNSTag) :=
    .outboundResolver (hmem _ (List.mem_cons_of_mem _ List.mem_cons_self)) rfl rfl
  have hback : DependsOn isResolverAddr m (.server localDNSTag) (.server proxyDNSTag) := .serverResolver hlocal rfl
  exact .tail (.tail (.tail (.single hhk) hferry) hname) hback

theorem not_forall_managedDNS :
    ¬ ∀ [Library] [MapOrder] (parseAddr : String → Bool) (t : Object) (generated : List Value)
      (input : ClientConfigInput) (m : Object), DNSTemplate parseAddr t → PlainOutbounds generated →
        mergeClientConfig parseAddr (.ok t) generated input = .ok m →
          ∃ resolver newServers newRules, ManagedDNS parseAddr t generated m resolver newServers newRules := by
  intro h
  obtain ⟨m, hm⟩ := loopTemplate_merged
  obtain ⟨resolver, newServers, newRules, hdns⟩ := h _ _ _ _ m loopTemplate_dns ferryOutbounds_plain hm
  exact hdns.acyclic _ (.inl rfl) _ .refl (loopTemplate_cycle hm)

theorem mergeClientConfig_managesDNS_ferry :
    ∃ m, mergeClientConfig isResolverAddr (.ok defaultTemplate) ferryOutbounds nodelessInput = .ok m ∧
      ∃ resolver newServers newRules,
        ManagedDNS isResolverAddr defaultTemplate ferryOutbounds m resolver newServers newRules := by
  obtain ⟨m, hm⟩ : ∃ m, mergeClientConfig isResolverAddr (.ok defaultTemplate) ferryOutbounds nodelessInput = .ok m :=
    ⟨_, rfl⟩
  refine ⟨m, hm, mergeClientConfig_managesDNS defaultTemplate_dns (fun l hl => ?_) ferryOutbounds_plain hm⟩
  rw [defaultTemplate_local hl]
  rfl

end

end SingboxOperator
