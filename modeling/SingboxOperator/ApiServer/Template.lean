import SingboxOperator.ApiServer.ClientConfig
import SingboxOperator.Lib.Value
/-!
# The client template

`MergeClientConfig` of `internal/apiserver/template.go`: the rules of the
policies, the rules of the Clash modes, the managed DNS servers and the
generated outbounds are put into an administrator's template. The template is
taken as `json.Unmarshal` returns it, the result as it is handed to
`json.Marshal`.

Decoded values are trees, so what Go changes in place is here the same object
with a field set; `dns` and `route` are put back where they were taken from.
-/
open SingboxOperator.Lib

namespace SingboxOperator

def proxyDNSTag : String := "proxy-dns"
def localDNSTag : String := "local"
def clientModeAuto : String := "Auto"

/-- A Clash mode and the selector it stands for. -/
structure RegionMode where
  name : String
  tag : String
  deriving DecidableEq, Repr

def clientRegionModes : List RegionMode := [⟨"HK", "hk"⟩, ⟨"JP", "jp"⟩, ⟨"US", "us"⟩]

/-- `DefaultTemplate`, for when there is no other. -/
def defaultTemplate : Object :=
  let adsURL := "https://fastly.jsdelivr.net/gh/SagerNet/sing-geosite@rule-set/geosite-category-ads-all.srs"
  let cnURL := "https://fastly.jsdelivr.net/gh/SagerNet/sing-geosite@rule-set/geosite-cn.srs"
  let ruleSet := fun tag url : String => Value.obj [("tag", .str tag), ("type", .str "remote"), ("format", .str "binary"),
    ("url", .str url), ("http_client", .obj [("detour", .str "direct")])]
  [("log", .obj [("level", .str "info")]),
    ("dns", .obj [
      ("servers", .arr [
        .obj [("type", .str "https"), ("tag", .str "proxy-dns"), ("server", .str "1.1.1.1")],
        .obj [("type", .str "hosts"), ("path", .arr []), ("predefined", .obj []), ("tag", .str "block")],
        .obj [("type", .str "local"), ("tag", .str "local")]]),
      ("rules", .arr [.obj [("rule_set", .str "geosite-cn"), ("server", .str "local")]]),
      ("final", .str "proxy-dns"),
      ("strategy", .str "ipv4_only")]),
    ("inbounds", .arr [
      .obj [("type", .str "tun"), ("tag", .str "tun-in"), ("address", .str "172.19.0.1/30"), ("auto_route", .bool true),
        ("strict_route", .bool true), ("stack", .str "gvisor"), ("platform", .obj [("http_proxy",
          .obj [("enabled", .bool true), ("server", .str "127.0.0.1"), ("server_port", .num "7891")])])],
      .obj [("type", .str "socks"), ("tag", .str "socks-in"), ("listen", .str "127.0.0.1"), ("listen_port", .num "7890")],
      .obj [("type", .str "http"), ("tag", .str "http-in"), ("listen", .str "127.0.0.1"), ("listen_port", .num "7891")]]),
    ("outbounds", .arr []),
    ("route", .obj [
      ("rules", .arr [
        .obj [("action", .str "sniff")],
        .obj [("protocol", .str "dns"), ("action", .str "hijack-dns")],
        .obj [("rule_set", Value.strings ["geosite-cn"]), ("outbound", .str "direct")],
        .obj [("ip_is_private", .bool true), ("outbound", .str "direct")],
        .obj [("rule_set", Value.strings ["category-ads-all"]), ("action", .str "reject")]]),
      ("rule_set", .arr [ruleSet "geosite-cn" cnURL, ruleSet "category-ads-all" adsURL]),
      ("final", .str "direct"),
      ("auto_detect_interface", .bool true),
      ("default_domain_resolver", .str "proxy-dns")]),
    ("experimental", .obj [("clash_api", .obj [("default_mode", .str "Auto")])])]

/-! ## The generated values -/

def optionalField (key : String) (v : Option Value) : Object := (v.map fun x => (key, x)).toList

def stringsField (key : String) (l : List String) : Object := if l = [] then [] else [(key, Value.strings l)]

def stringField (key s : String) : Object := if s = "" then [] else [(key, .str s)]

/-- The map of a client rule: the match fields that are set, and an action or an outbound. -/
def clientRuleValue (r : RouteRule) : Value :=
  .obj (stringsField "domain" r.domain ++ stringsField "domain_suffix" r.domainSuffix ++
    stringsField "domain_regex" r.domainRegex ++ stringsField "ip_cidr" r.ipCIDR ++ stringsField "rule_set" r.ruleSet ++
    stringField "action" r.action ++ stringField "outbound" r.outbound)

def ProxyOutbound.toValue (ob : ProxyOutbound) : Value :=
  .obj ([("type", .str ob.type), ("tag", .str ob.tag), ("server", .str ob.server),
      ("server_port", .num (toString ob.serverPort))] ++
    optionalField "username" (ob.auth.username.map .str) ++ optionalField "password" (ob.auth.password.map .str) ++
    optionalField "uuid" (ob.auth.uuid.map .str) ++
    optionalField "tls" (ob.tls.map fun tls => .obj ([("enabled", .bool tls.enabled)] ++
      optionalField "server_name" (tls.serverName.map .str) ++ optionalField "insecure" (tls.insecure.map .bool))))

def selectorValue (tag : String) (outbounds : List String) : Value :=
  .obj [("type", .str "selector"), ("tag", .str tag), ("outbounds", Value.strings outbounds)]

def ClientOutbound.toValue : ClientOutbound → Value
  | .proxy ob => ob.toValue
  | .selector tag outbounds => selectorValue tag outbounds
  | .direct => .obj [("type", .str "direct"), ("tag", .str "direct")]

/-! ## Fields of old templates -/

/-- A download detour becomes an inline HTTP client, unless there is one. -/
def normalizeRuleSet (raw : Value) : Value :=
  match raw.asObject with
  | some set =>
    match (set.get "download_detour").asString with
    | some detour =>
      let set := if set.has "http_client" then set else set.set "http_client" (.obj [("detour", .str detour)])
      .obj (set.delete "download_detour")
    | none => raw
  | none => raw

def normalizeDeprecatedClientConfig (m : Object) : Object :=
  let m := match (m.get "dns").asObject with
    | some dns => m.set "dns" (.obj (dns.delete "independent_cache"))
    | none => m
  match (m.get "route").asObject with
  | some route =>
    match (route.get "rule_set").asArray with
    | some sets => m.set "route" (.obj (route.set "rule_set" (.arr (sets.map normalizeRuleSet))))
    | none => m
  | none => m

/-! ## Rules -/

def isDomesticDirectRule (rule : Object) : Bool :=
  (rule.get "outbound").isString "direct" &&
    ((rule.get "ip_is_private").isTrue ||
      ((rule.get "rule_set").asArray.getD []).any (Value.isString "geosite-cn"))

/-- The rules that stay in front of everything. -/
def isLeadingRule (item : Value) : Bool :=
  item.asObject.any fun rule => (rule.get "action").isString "sniff" || (rule.get "action").isString "hijack-dns"

def isDomestic (item : Value) : Bool := item.asObject.any isDomesticDirectRule

/-- What becomes of a rule after the leading ones that is not domestic: the
rule of the old `Proxy` mode goes, and no reference to `proxy` is left. -/
def retainRule (item : Value) : Option Value :=
  match item.asObject with
  | some rule =>
    if (rule.get "clash_mode").isString "Proxy" || (rule.get "clash_mode").isString "proxy" then none
    else if (rule.get "outbound").isString "proxy" then
      some (.obj ((rule.delete "outbound").set "outbound" (.str "direct")))
    else some item
  | none => some item

/-- The tags of the generated outbounds. -/
def outboundTags (outbounds : List Value) : List String :=
  outbounds.filterMap fun ob => ob.asObject.bind fun v => (v.get "tag").asString

/-- The first regional selector there is. -/
def proxySelectorOf (tags : List String) : String :=
  ((clientRegionModes.find? fun mode => mode.tag ∈ tags).map RegionMode.tag).getD ""

def modeRule (name outbound : String) : Value := .obj [("clash_mode", .str name), ("outbound", .str outbound)]

def modeRules (tags : List String) : List Value :=
  let proxySelector := proxySelectorOf tags
  (if proxySelector ≠ "" then [modeRule clientModeAuto proxySelector] else []) ++
    (clientRegionModes.filter fun mode => mode.tag ∈ tags).map fun mode => modeRule mode.name mode.tag

def clientDNSServer (config : Object) (tag : String) : Option Object :=
  (((config.get "dns").asObject.getD []).get "servers").asArray.getD [] |>.findSome? fun raw =>
    raw.asObject.bind fun server => if (server.get "tag").isString tag then some server else none

/-- The rules of the merged config. Without a server override `resolve` goes by the DNS rules. -/
def mergeRules (config : Object) (policyRules original : List Value) (tags : List String) : List Value :=
  let rest := original.dropWhile isLeadingRule
  original.takeWhile isLeadingRule ++ policyRules ++
    (if (clientDNSServer config proxyDNSTag).isSome then [.obj [("action", .str "resolve")]] else []) ++
    rest.filter isDomestic ++ modeRules tags ++ (rest.filter fun rule => !isDomestic rule).filterMap retainRule

/-- A slice that starts as nil is `null` if nothing is appended to it. -/
def sliceValue : List Value → Value
  | [] => .null
  | items => .arr items

/-- The rule sets a template defines. -/
def definedRuleSets (route : Object) : List String :=
  ((route.get "rule_set").asArray.getD []).filterMap fun set => set.asObject.bind fun entry => (entry.get "tag").asString

section
variable [Library] [MapOrder]

/-- The first rule set a policy refers to and the template does not define. -/
def checkRuleSets (input : ClientConfigInput) (route : Object) : Except String Unit :=
  let missing := input.egressPolicies.findSome? fun p =>
    if p.spec.action = .route && (resolveClientPolicyEgress input p).2 = 0 then none
    else (p.spec.matchFields.ruleSet.find? fun ref => ref ∉ definedRuleSets route).map fun ref => (p.name, ref)
  match missing with
  | some (name, ref) =>
    .error ("policy " ++ name ++ ": rule_set " ++ quote ref ++ " is not defined in template route.rule_set")
  | none => .ok ()

end

/-- `Auto` is the default mode, whatever the template says. -/
def setDefaultMode (m : Object) : Object :=
  let experimental := (m.get "experimental").asObject.getD []
  let clash := (experimental.get "clash_api").asObject.getD []
  m.set "experimental" (.obj (experimental.set "clash_api" (.obj (clash.set "default_mode" (.str clientModeAuto)))))

/-! ## DNS -/

section
variable (parseAddr : String → Bool)

/-- A hostname that is dialled and has no resolver of its own. `parseAddr` is
whether `netip.ParseAddr` reads a text as an address. -/
def needsBootstrap (outbound : Object) : Bool :=
  let server := (outbound.get "server").asString.getD ""
  server ≠ "" && (outbound.get "domain_resolver").isNull && !parseAddr server

/-- Only the endpoints of proxies are resolved locally. -/
def bootstrap (raw : Value) : Value :=
  match raw.asObject with
  | some outbound =>
    if needsBootstrap parseAddr outbound then .obj (outbound.set "domain_resolver" (.str localDNSTag)) else raw
  | none => raw

def regionDNSTag (mode : RegionMode) : String := proxyDNSTag ++ "-" ++ mode.tag

/-- The first server of that tag, replaced. -/
def replaceServer (tag : String) (server : Object) : List Value → List Value
  | [] => []
  | raw :: rest =>
    if raw.asObject.any fun old => (old.get "tag").isString tag then .obj server :: rest
    else raw :: replaceServer tag server rest

def templateDNSRules (dns : Object) : Except String (List Value) :=
  match (dns.get "rules").asArray with
  | some rules => .ok rules
  | none => if (dns.get "rules").isNull then .ok [] else .error "template dns.rules must be an array"

/-- `proxy-dns` is the managed resolver, with a copy for every region; a
template without it keeps its DNS as it is. Returns the config, its route and
the outbounds. -/
def configureClientDNS (config route : Object) (outbounds : List Value) (tags : List String) :
    Except String (Object × Object × List Value) :=
  match clientDNSServer config proxyDNSTag with
  | none => .ok (config, route, outbounds)
  | some proxyDNS => do
    let dns := (config.get "dns").asObject.getD []
    let servers := (dns.get "servers").asArray.getD []
    let hasLocal := (clientDNSServer config localDNSTag).isSome
    let dnsRules ← templateDNSRules dns
    let proxySelector := proxySelectorOf tags
    let proxyDNS :=
      if proxySelector ≠ "" then proxyDNS.set "detour" (.str proxySelector) else proxyDNS.delete "detour"
    let modes := clientRegionModes.filter fun mode => mode.tag ∈ tags
    match modes.find? fun mode => (clientDNSServer config (regionDNSTag mode)).isSome with
    | some mode =>
      .error ("template DNS server tag " ++ quote (regionDNSTag mode) ++ " is reserved for generated Clash mode DNS")
    | none =>
      let regional := modes.map fun mode =>
        Value.obj ((proxyDNS.set "tag" (.str (regionDNSTag mode))).set "detour" (.str mode.tag))
      let modeRules := modes.map fun mode =>
        Value.obj [("clash_mode", .str mode.name), ("server", .str (regionDNSTag mode))]
      let bootstrapServer :=
        if !hasLocal && outbounds.any (fun raw => raw.asObject.any (needsBootstrap parseAddr)) then
          [Value.obj [("type", .str "local"), ("tag", .str localDNSTag)]]
        else []
      let dns := dns.set "servers" (.arr (replaceServer proxyDNSTag proxyDNS servers ++ regional ++ bootstrapServer))
      let dns := dns.set "rules" (.arr (dnsRules ++ modeRules ++
        [.obj [("clash_mode", .str clientModeAuto), ("server", .str proxyDNSTag)]]))
      let dns := dns.set "final" (.str proxyDNSTag)
      return (config.set "dns" (.obj dns), route.set "default_domain_resolver" (.str proxyDNSTag),
        outbounds.map (bootstrap parseAddr))

/-! ## The merge -/

/-- The rules of the template; without policies they may be missing. -/
def templateRules (route : Object) (policyRules : List RouteRule) : Except String (List Value) :=
  match (route.get "rules").asArray with
  | some rules => .ok rules
  | none => if policyRules ≠ [] then .error "template route.rules must be an array" else .ok []

def mergeClientConfig [Library] [MapOrder] (template : Except String Object) (generatedOutbounds : List Value)
    (input : ClientConfigInput) : Except String Object := do
  let (policyRules, _) ← buildClientPolicies input
  let m ← template
  let m := normalizeDeprecatedClientConfig m
  match (m.get "route").asObject with
  | some route =>
    let original ← templateRules route policyRules
    checkRuleSets input route
    let tags := outboundTags generatedOutbounds
    let route := route.set "rules" (sliceValue (mergeRules m (policyRules.map clientRuleValue) original tags))
    let m := setDefaultMode m
    let proxySelector := proxySelectorOf tags
    let route := if proxySelector ≠ "" then route.set "final" (.str proxySelector) else route
    let (m, route, outbounds) ← configureClientDNS parseAddr m route generatedOutbounds tags
    return (m.set "route" (.obj route)).set "outbounds" (.arr outbounds)
  | none => .error "template route must be an object"

end

end SingboxOperator
