import SingboxOperator.Api
import SingboxOperator.Lib.Digest
import SingboxOperator.Lib.Json
/-!
# The sing-box configuration

The value `Compute` marshals, and the credentials it puts there. The source
builds inbound and outbound entries as `map[string]any`; here each is a
record whose optional fields are the keys that may be missing, and `toJson`
gives back the map.
-/
open SingboxOperator.Lib

namespace SingboxOperator

/-! ## Credentials -/

/-- One entry of an inbound's `users`. -/
@[ext] structure UserEntry where
  name : Option String := none
  username : Option String := none
  password : Option String := none
  uuid : Option String := none
  deriving DecidableEq, Repr

/-- A UUID v5 in the namespace of `baseUUID`, or of the zero UUID when `baseUUID` is not one. -/
def deriveUUID (baseUUID suffix : String) : String :=
  let stripped := baseUUID.toList.filter (· ≠ '-')
  let namespaceBytes := match hexDecode stripped with
    | some bytes => if bytes.length ≠ 16 then List.replicate 16 0 else bytes
    | none => List.replicate 16 0
  let h := ((sha1 (namespaceBytes ++ bytesOf suffix)).modify 6 fun b => (b &&& 0x0f) ||| 0x50).modify 8
    fun b => (b &&& 0x3f) ||| 0x80
  let part := fun i n => hexEncode ((h.drop i).take n)
  part 0 4 ++ "-" ++ part 4 2 ++ "-" ++ part 6 2 ++ "-" ++ part 8 2 ++ "-" ++ part 10 6

def derivePassword (baseUUID suffix : String) : String :=
  String.ofList ((hexEncode (sha256 (bytesOf (baseUUID ++ "#" ++ suffix)))).toList.take 32)

def virtualUserName (userName outboundNodeName : String) : String := userName ++ "#" ++ outboundNodeName

/-- The single derivation point of all protocols. -/
def deriveAuth (protocol : Protocol) (uuid nodeName : String) : UserEntry :=
  match protocol with
  | .hysteria2 | .trojan => { password := some (derivePassword uuid nodeName) }
  | .vless => { uuid := some (deriveUUID uuid nodeName) }
  | .socks5 | .http | .naive => { username := some uuid, password := some (derivePassword uuid nodeName) }
  | .anytls => { password := some (derivePassword uuid nodeName) }
  | .tuic => { uuid := some (deriveUUID uuid nodeName), password := some (derivePassword uuid nodeName) }

/-- Put the user's identifier on an entry: naive reads it from `username`, the others from `name`. -/
def labelUser (protocol : Protocol) (auth : UserEntry) (label : String) : UserEntry :=
  if protocol = .naive then { auth with username := some label } else { auth with name := some label }

/-! ## Entries -/

@[ext] structure InboundTLS where
  enabled : Bool := true
  certificatePath : String
  keyPath : String
  deriving DecidableEq, Repr

@[ext] structure Inbound where
  type : String
  tag : String
  listen : String := "::"
  listenPort : Nat
  users : List UserEntry
  tls : Option InboundTLS := none
  deriving DecidableEq, Repr

@[ext] structure OutboundTLS where
  enabled : Bool := true
  serverName : Option String := none
  insecure : Option Bool := none
  deriving DecidableEq, Repr

@[ext] structure Obfs where
  type : String
  password : String
  deriving DecidableEq, Repr

@[ext] structure Outbound where
  type : String
  tag : String
  server : Option String := none
  serverPort : Option Nat := none
  version : Option String := none
  username : Option String := none
  password : Option String := none
  method : Option String := none
  uuid : Option String := none
  upMbps : Option Nat := none
  downMbps : Option Nat := none
  obfs : Option Obfs := none
  tls : Option OutboundTLS := none
  deriving DecidableEq, Repr

structure RouteRule where
  inbound : List String := []
  authUser : List String := []
  domain : List String := []
  domainSuffix : List String := []
  domainRegex : List String := []
  ipCIDR : List String := []
  ruleSet : List String := []
  action : String := ""
  outbound : String := ""
  deriving DecidableEq, Repr

@[ext] structure RouteConfig where
  rules : List RouteRule
  final : String
  deriving DecidableEq, Repr

@[ext] structure V2RayStatsConfig where
  enabled : Bool
  users : List String
  deriving DecidableEq, Repr

@[ext] structure V2RayAPIConfig where
  listen : String
  stats : V2RayStatsConfig
  deriving DecidableEq, Repr

@[ext] structure SingboxConfig where
  logLevel : String
  inbounds : List Inbound
  outbounds : List Outbound
  route : RouteConfig
  experimental : Option V2RayAPIConfig
  deriving DecidableEq, Repr

/-! ## JSON -/

open Json

def UserEntry.toJson (u : UserEntry) : Json :=
  .ofMap (optional "name" (u.name.map .str) ++ optional "username" (u.username.map .str) ++
    optional "password" (u.password.map .str) ++ optional "uuid" (u.uuid.map .str))

def Inbound.toJson (i : Inbound) : Json :=
  .ofMap ([("type", .str i.type), ("tag", .str i.tag), ("listen", .str i.listen), ("listen_port", .num i.listenPort),
      ("users", .arr (i.users.map UserEntry.toJson))] ++
    optional "tls" (i.tls.map fun t => .ofMap [("enabled", .bool t.enabled),
      ("certificate_path", .str t.certificatePath), ("key_path", .str t.keyPath)]))

def OutboundTLS.toJson (t : OutboundTLS) : Json :=
  .ofMap ([("enabled", .bool t.enabled)] ++ optional "server_name" (t.serverName.map .str) ++
    optional "insecure" (t.insecure.map .bool))

def Outbound.toJson (o : Outbound) : Json :=
  .ofMap ([("type", .str o.type), ("tag", .str o.tag)] ++ optional "server" (o.server.map .str) ++
    optional "server_port" (o.serverPort.map fun p : Nat => .num p) ++ optional "version" (o.version.map .str) ++
    optional "username" (o.username.map .str) ++ optional "password" (o.password.map .str) ++
    optional "method" (o.method.map .str) ++ optional "uuid" (o.uuid.map .str) ++
    optional "up_mbps" (o.upMbps.map fun n : Nat => .num n) ++
    optional "down_mbps" (o.downMbps.map fun n : Nat => .num n) ++
    optional "obfs" (o.obfs.map fun b => .ofMap [("type", .str b.type), ("password", .str b.password)]) ++
    optional "tls" (o.tls.map OutboundTLS.toJson))

/-- `json:",omitempty"` on a list of strings and on a string. -/
def omitStrs (key : String) (l : List String) : List (String × Json) := if l = [] then [] else [(key, strs l)]
def omitStr (key s : String) : List (String × Json) := if s = "" then [] else [(key, .str s)]

def RouteRule.toJson (r : RouteRule) : Json :=
  .obj (omitStrs "inbound" r.inbound ++ omitStrs "auth_user" r.authUser ++ omitStrs "domain" r.domain ++
    omitStrs "domain_suffix" r.domainSuffix ++ omitStrs "domain_regex" r.domainRegex ++ omitStrs "ip_cidr" r.ipCIDR ++
    omitStrs "rule_set" r.ruleSet ++ omitStr "action" r.action ++ omitStr "outbound" r.outbound)

def RouteConfig.toJson (r : RouteConfig) : Json :=
  .obj ((if r.rules = [] then [] else [("rules", .arr (r.rules.map RouteRule.toJson))]) ++ [("final", .str r.final)])

/-- A nil list of users is `null`. -/
def V2RayAPIConfig.toJson (v : V2RayAPIConfig) : Json :=
  .obj [("listen", .str v.listen), ("stats", .obj [("enabled", .bool v.stats.enabled),
    ("users", if v.stats.users = [] then .null else strs v.stats.users)])]

def SingboxConfig.toJson (c : SingboxConfig) : Json :=
  .obj ([("log", .obj [("level", .str c.logLevel)]), ("inbounds", .arr (c.inbounds.map Inbound.toJson)),
      ("outbounds", .arr (c.outbounds.map Outbound.toJson)), ("route", c.route.toJson)] ++
    optional "experimental" (c.experimental.map fun v => .obj [("v2ray_api", v.toJson)]))

/-! ## The config can be read back

Each `ofJson` reads the fields of an object by their keys, so what `toJson`
writes determines the value it came from.
-/

/-- A field of a map: a string, a flag, and those that may be absent. -/
def strAt (key : String) (v : Json) : String := ((v.field key).map asStr).getD ""
def boolAt (key : String) (v : Json) : Bool := ((v.field key).map asBool).getD false
def natAt (key : String) (v : Json) : Nat := ((v.field key).map asNat).getD 0
def optStrAt (key : String) (v : Json) : Option String := (v.field key).map asStr
def optNatAt (key : String) (v : Json) : Option Nat := (v.field key).map asNat

/-- The items of a list that may have been left out. -/
def listAt {α : Type} (item : Json → α) (key : String) (v : Json) : List α :=
  ((v.field key).map fun l => l.asList.map item).getD []

section
variable {key : String} {v : Json}

theorem strAt_of {s : String} (h : v.field key = some (.str s)) : strAt key v = s := by simp [strAt, h, asStr]
theorem boolAt_of {b : Bool} (h : v.field key = some (.bool b)) : boolAt key v = b := by simp [boolAt, h, asBool]
theorem natAt_of {n : Nat} (h : v.field key = some (.num n)) : natAt key v = n := by simp [natAt, h, asNat]

theorem optStrAt_of {s : Option String} (h : v.field key = s.map .str) : optStrAt key v = s := by
  cases s <;> simp [optStrAt, h, asStr]

theorem optNatAt_of {n : Option Nat} (h : v.field key = n.map fun n => .num n) : optNatAt key v = n := by
  cases n <;> simp [optNatAt, h, asNat]

theorem listAt_of {α : Type} {item : Json → α} {toJson : α → Json} (hitem : ∀ x, item (toJson x) = x) {l : List α}
    (h : v.field key = some (.arr (l.map toJson))) : listAt item key v = l := by
  simp [listAt, h, asList, Function.comp_def, hitem]

theorem map_of {α : Type} {item : Json → α} {toJson : α → Json} (hitem : ∀ x, item (toJson x) = x) {x : Option α}
    (h : v.field key = x.map toJson) : (v.field key).map item = x := by
  cases x <;> simp [h, hitem]

end

/-! ### Entries that are maps -/

namespace UserEntry

def fields (u : UserEntry) : List (String × Option Json) :=
  [("name", u.name.map .str), ("username", u.username.map .str), ("password", u.password.map .str),
    ("uuid", u.uuid.map .str)]

theorem field_toJson (u : UserEntry) {key : String} {v : Option Json} (h : (key, v) ∈ u.fields) :
    u.toJson.field key = v := by
  have hmap : u.toJson = ofMap (entries u.fields) := by simp [toJson, entries, fields]
  rw [hmap]
  exact field_ofMap (by simp [fields]) h

def ofJson (v : Json) : UserEntry :=
  { name := optStrAt "name" v, username := optStrAt "username" v, password := optStrAt "password" v,
    uuid := optStrAt "uuid" v }

theorem ofJson_toJson (u : UserEntry) : ofJson u.toJson = u := by
  refine UserEntry.ext (optStrAt_of ?_) (optStrAt_of ?_) (optStrAt_of ?_) (optStrAt_of ?_) <;>
    exact u.field_toJson (by simp [fields])

end UserEntry

namespace Inbound

def tlsFields (t : InboundTLS) : List (String × Option Json) :=
  [("enabled", some (.bool t.enabled)), ("certificate_path", some (.str t.certificatePath)),
    ("key_path", some (.str t.keyPath))]

def tlsOfJson (v : Json) : InboundTLS :=
  { enabled := boolAt "enabled" v, certificatePath := strAt "certificate_path" v, keyPath := strAt "key_path" v }

theorem tlsOfJson_ofMap (t : InboundTLS) : tlsOfJson (ofMap (entries (tlsFields t))) = t := by
  refine InboundTLS.ext (boolAt_of ?_) (strAt_of ?_) (strAt_of ?_) <;>
    exact field_ofMap (by simp [tlsFields]) (by simp [tlsFields])

def fields (i : Inbound) : List (String × Option Json) :=
  [("type", some (.str i.type)), ("tag", some (.str i.tag)), ("listen", some (.str i.listen)),
    ("listen_port", some (.num i.listenPort)), ("users", some (.arr (i.users.map UserEntry.toJson))),
    ("tls", i.tls.map fun t => ofMap (entries (tlsFields t)))]

theorem field_toJson (i : Inbound) {key : String} {v : Option Json} (h : (key, v) ∈ i.fields) :
    i.toJson.field key = v := by
  have hmap : i.toJson = ofMap (entries i.fields) := by simp [toJson, entries, fields, tlsFields, optional_some]
  rw [hmap]
  exact field_ofMap (by simp [fields]) h

def ofJson (v : Json) : Inbound :=
  { type := strAt "type" v, tag := strAt "tag" v, listen := strAt "listen" v, listenPort := natAt "listen_port" v,
    users := listAt UserEntry.ofJson "users" v, tls := (v.field "tls").map tlsOfJson }

theorem ofJson_toJson (i : Inbound) : ofJson i.toJson = i := by
  refine Inbound.ext (strAt_of ?_) (strAt_of ?_) (strAt_of ?_) (natAt_of ?_) (listAt_of UserEntry.ofJson_toJson ?_)
    (map_of tlsOfJson_ofMap ?_) <;> exact i.field_toJson (by simp [fields])

end Inbound

namespace OutboundTLS

def fields (t : OutboundTLS) : List (String × Option Json) :=
  [("enabled", some (.bool t.enabled)), ("server_name", t.serverName.map .str), ("insecure", t.insecure.map .bool)]

theorem field_toJson (t : OutboundTLS) {key : String} {v : Option Json} (h : (key, v) ∈ t.fields) :
    t.toJson.field key = v := by
  have hmap : t.toJson = ofMap (entries t.fields) := by simp [toJson, entries, fields, optional_some]
  rw [hmap]
  exact field_ofMap (by simp [fields]) h

def ofJson (v : Json) : OutboundTLS :=
  { enabled := boolAt "enabled" v, serverName := optStrAt "server_name" v,
    insecure := (v.field "insecure").map asBool }

theorem ofJson_toJson (t : OutboundTLS) : ofJson t.toJson = t := by
  have hinsecure : ∀ b, asBool (.bool b) = b := fun _ => rfl
  refine OutboundTLS.ext (boolAt_of ?_) (optStrAt_of ?_) (map_of hinsecure ?_) <;>
    exact t.field_toJson (by simp [fields])

end OutboundTLS

namespace Outbound

def obfsFields (b : Obfs) : List (String × Option Json) :=
  [("type", some (.str b.type)), ("password", some (.str b.password))]

def obfsOfJson (v : Json) : Obfs := { type := strAt "type" v, password := strAt "password" v }

theorem obfsOfJson_ofMap (b : Obfs) : obfsOfJson (ofMap (entries (obfsFields b))) = b := by
  refine Obfs.ext (strAt_of ?_) (strAt_of ?_) <;> exact field_ofMap (by simp [obfsFields]) (by simp [obfsFields])

def fields (o : Outbound) : List (String × Option Json) :=
  [("type", some (.str o.type)), ("tag", some (.str o.tag)), ("server", o.server.map .str),
    ("server_port", o.serverPort.map fun p : Nat => .num p), ("version", o.version.map .str),
    ("username", o.username.map .str), ("password", o.password.map .str), ("method", o.method.map .str),
    ("uuid", o.uuid.map .str), ("up_mbps", o.upMbps.map fun n : Nat => .num n),
    ("down_mbps", o.downMbps.map fun n : Nat => .num n),
    ("obfs", o.obfs.map fun b => ofMap (entries (obfsFields b))), ("tls", o.tls.map OutboundTLS.toJson)]

theorem field_toJson (o : Outbound) {key : String} {v : Option Json} (h : (key, v) ∈ o.fields) :
    o.toJson.field key = v := by
  have hmap : o.toJson = ofMap (entries o.fields) := by  simp [toJson, entries, fields, obfsFields, optional_some]
  rw [hmap]
  exact field_ofMap (by simp [fields]) h

def ofJson (v : Json) : Outbound :=
  { type := strAt "type" v, tag := strAt "tag" v, server := optStrAt "server" v, serverPort := optNatAt "server_port" v,
    version := optStrAt "version" v, username := optStrAt "username" v, password := optStrAt "password" v,
    method := optStrAt "method" v, uuid := optStrAt "uuid" v, upMbps := optNatAt "up_mbps" v,
    downMbps := optNatAt "down_mbps" v, obfs := (v.field "obfs").map obfsOfJson,
    tls := (v.field "tls").map OutboundTLS.ofJson }

theorem ofJson_toJson (o : Outbound) : ofJson o.toJson = o := by
  apply Outbound.ext <;> dsimp only [ofJson]
  case type | tag => exact strAt_of (o.field_toJson (by simp [fields]))
  case serverPort | upMbps | downMbps => exact optNatAt_of (o.field_toJson (by simp [fields]))
  case obfs => exact map_of obfsOfJson_ofMap (o.field_toJson (by simp [fields]))
  case tls => exact map_of OutboundTLS.ofJson_toJson (o.field_toJson (by simp [fields]))
  all_goals exact optStrAt_of (o.field_toJson (by simp [fields]))

end Outbound

/-! ### Entries that are structs -/

theorem find?_omitStrs (key k : String) (l : List String) :
    (omitStrs k l).find? (fun f => f.1 = key) = if k = key ∧ l ≠ [] then some (k, strs l) else none := by
  unfold omitStrs
  by_cases hl : l = [] <;> by_cases hk : k = key <;> simp [hl, hk]

theorem find?_omitStr (key k s : String) :
    (omitStr k s).find? (fun f => f.1 = key) = if k = key ∧ s ≠ "" then some (k, .str s) else none := by
  unfold omitStr
  by_cases hs : s = "" <;> by_cases hk : k = key <;> simp [hs, hk]

def RouteRule.ofJson (v : Json) : RouteRule :=
  { inbound := listAt asStr "inbound" v, authUser := listAt asStr "auth_user" v, domain := listAt asStr "domain" v,
    domainSuffix := listAt asStr "domain_suffix" v, domainRegex := listAt asStr "domain_regex" v,
    ipCIDR := listAt asStr "ip_cidr" v, ruleSet := listAt asStr "rule_set" v, action := strAt "action" v,
    outbound := strAt "outbound" v }

theorem RouteRule.ofJson_toJson (r : RouteRule) : RouteRule.ofJson r.toJson = r := by
  have hstrs : ∀ (l : List String) (k : String),
      (((if l ≠ [] then some (k, strs l) else none).map Prod.snd).map fun v => v.asList.map asStr).getD [] = l := by
    intro l k
    by_cases hl : l = [] <;> simp [hl, asStrs_strs]
  have hstr : ∀ s k : String, (((if s ≠ "" then some (k, Json.str s) else none).map Prod.snd).map asStr).getD "" = s := by
    intro s k
    by_cases hs : s = "" <;> simp [hs, asStr]
  simp only [ofJson, listAt, strAt, toJson, field, List.find?_append, find?_omitStrs, find?_omitStr, String.reduceEq,
    true_and, false_and, if_false, Option.or_none, Option.none_or, hstrs, hstr]

def RouteConfig.ofJson (v : Json) : RouteConfig :=
  { rules := listAt RouteRule.ofJson "rules" v, final := strAt "final" v }

theorem RouteConfig.ofJson_toJson (r : RouteConfig) : RouteConfig.ofJson r.toJson = r := by
  refine RouteConfig.ext ?_ (strAt_of ?_)
  · by_cases h : r.rules = []
    · simp [ofJson, listAt, toJson, field, h]
    · exact listAt_of RouteRule.ofJson_toJson (by simp [toJson, field, h])
  · by_cases h : r.rules = [] <;> simp [toJson, field, h]

def V2RayAPIConfig.ofJson (v : Json) : V2RayAPIConfig :=
  let stats := (v.field "stats").getD .null
  { listen := strAt "listen" v, stats := { enabled := boolAt "enabled" stats, users := listAt asStr "users" stats } }

theorem V2RayAPIConfig.ofJson_toJson (v : V2RayAPIConfig) : V2RayAPIConfig.ofJson v.toJson = v := by
  refine V2RayAPIConfig.ext rfl (V2RayStatsConfig.ext rfl ?_)
  by_cases h : v.stats.users = []
  · simp [ofJson, listAt, toJson, field, h, asList]
  · simp [ofJson, listAt, toJson, field, h, asStrs_strs]

def SingboxConfig.ofJson (v : Json) : SingboxConfig :=
  { logLevel := strAt "level" ((v.field "log").getD .null)
    inbounds := listAt Inbound.ofJson "inbounds" v
    outbounds := listAt Outbound.ofJson "outbounds" v
    route := RouteConfig.ofJson ((v.field "route").getD .null)
    experimental := ((v.field "experimental").bind (field "v2ray_api")).map V2RayAPIConfig.ofJson }

theorem SingboxConfig.ofJson_toJson (c : SingboxConfig) : SingboxConfig.ofJson c.toJson = c := by
  apply SingboxConfig.ext <;> dsimp only [ofJson]
  case logLevel => rfl
  case inbounds => exact listAt_of Inbound.ofJson_toJson rfl
  case outbounds => exact listAt_of Outbound.ofJson_toJson rfl
  case route => exact c.route.ofJson_toJson
  case experimental =>
    cases h : c.experimental with
    | none => simp [toJson, field, h, optional_none]
    | some v => simp [toJson, field, h, optional_some, V2RayAPIConfig.ofJson_toJson]

/-- The marshalled text has everything of the config in it. -/
theorem SingboxConfig.render_inj {c c' : SingboxConfig} (h : c'.toJson.render = c.toJson.render) : c' = c := by
  rw [← c'.ofJson_toJson, Json.render_inj h, c.ofJson_toJson]

end SingboxOperator
