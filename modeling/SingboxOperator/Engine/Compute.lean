import Mathlib.Data.Prod.Lex
import SingboxOperator.Engine.Config
/-!
# The config engine

`computeConfig` follows `Compute` in `internal/configengine/engine.go`, one
definition a function. Several loops of the source share a `seen` set and an
accumulator; here such a chain of loops is the list of candidates it walks,
with the first occurrence of each name kept. `json.Marshal` cannot fail on
the value built, so `compute` returns the output itself.
-/
open SingboxOperator.Lib

namespace SingboxOperator

structure UserCredential where
  uuid : String
  deriving DecidableEq, Repr

@[ext] structure NodeCredential where
  username : String
  password : String
  deriving DecidableEq, Repr

/-- Resolved credentials of an ExternalOutbound, by secret key. -/
abbrev ExternalCredential := GoMap String String

/-- A Go `map[string]bool` used as a set. -/
abbrev NameSet := GoMap String Bool

/-- Everything a node's config is computed from. -/
structure Input where
  node : SingBoxNode
  users : List User := []
  userCreds : GoMap String UserCredential := ∅
  outboundNodes : List SingBoxNode := []
  routes : List CustomRoute := []
  egressPolicies : List EgressPolicy := []
  nodeCreds : GoMap String NodeCredential := ∅
  outboundNodesByName : GoMap String SingBoxNode := ∅
  externalOutbounds : List ExternalOutbound := []
  externalOutboundsByName : GoMap String ExternalOutbound := ∅
  externalCreds : GoMap String ExternalCredential := ∅
  usageCollectionEnabled : Bool := false
  v2rayAPIListenAddr : String := ""
  userNodeRestrictions : GoMap String NameSet := ∅
  userNodeAllowlist : GoMap String NameSet := ∅

structure Output where
  config : String
  hash : String
  deriving DecidableEq, Repr

/-! ## Helpers -/

def relayContainerPort : Nat := 10808

def effectiveRelayPort (node : SingBoxNode) : Nat :=
  if node.spec.relayPort > 0 then node.spec.relayPort else relayContainerPort

def effectiveInboundProtocol (node : SingBoxNode) : Protocol := node.spec.inboundProtocol.getD .hysteria2

/-- 0 when the protocol is not supported. -/
def findProtocolPort (node : SingBoxNode) (protocol : Protocol) : Nat :=
  ((node.spec.supportedProtocols.find? fun p => p.protocol = protocol).map (·.port)).getD 0

/-- Deny wins; an empty allow set allows everything. -/
def isNodeAllowed (nodeName : String) (allowedNodes deniedNodes : NameSet) : Bool :=
  if deniedNodes.get nodeName false then false
  else if allowedNodes.len = 0 then true
  else allowedNodes.get nodeName false

def Input.allows (input : Input) (user : User) (nodeName : String) : Bool :=
  isNodeAllowed nodeName (input.userNodeAllowlist.get user.name ∅) (input.userNodeRestrictions.get user.name ∅)

def outboundTag (name : String) : String := "outbound-" ++ name

def inboundTag (node : SingBoxNode) : String := "inbound-" ++ (effectiveInboundProtocol node).name

def policyKey (p : EgressPolicy) : Int ×ₗ String := toLex (p.spec.priority, p.name)

def policiesForNode (input : Input) : List EgressPolicy := sortOn policyKey input.egressPolicies

def routesForNode (input : Input) : List CustomRoute :=
  sortOn CustomRoute.name (input.routes.filter fun r => r.inboundNode = input.node.name)

/-! ## External outbounds -/

def credKeyUsername := "username"
def credKeyPassword := "password"
def credKeyMethod := "method"
def credKeyUUID := "uuid"
def credKeyObfsPassword := "obfsPassword"

def hasRequiredExternalCreds (eob : ExternalOutbound) (creds : ExternalCredential) : Bool :=
  let required := fun keys : List String => keys.all fun k => creds.get k "" ≠ ""
  match eob.spec.protocol with
  | .shadowsocks => required [credKeyMethod, credKeyPassword]
  | .tuic => required [credKeyUUID, credKeyPassword]
  | .trojan | .anytls => required [credKeyPassword]
  | .hysteria2 =>
    required [credKeyPassword] &&
      match eob.spec.hysteria2 with
      | some opts => !(opts.obfs && creds.get credKeyObfsPassword "" = "")
      | none => true
  | .socks5 | .http => true

/-- Whether `name` is the node itself or a SingBoxNode visible to it. -/
def externalNameCollidesWithNode (input : Input) (name : String) : Bool :=
  name = input.node.name || (input.outboundNodesByName.lookup name).isSome ||
    input.outboundNodes.any fun n => n.name = name

/-- The usable ExternalOutbounds, in order. The first of a name wins, also when it is then refused. -/
def resolveExternalOutbounds (input : Input) (myRoutes : List CustomRoute) : List ExternalOutbound :=
  let routed := myRoutes.filterMap fun r =>
    if r.effectiveOutboundKind = .externalOutbound then input.externalOutboundsByName.lookup r.outboundNode else none
  (firstBy ExternalOutbound.name (input.externalOutbounds ++ routed)).filter fun eob =>
    !externalNameCollidesWithNode input eob.name && hasRequiredExternalCreds eob (input.externalCreds.get eob.name ∅)

def externalTLSEntry (tls : Option ExternalOutboundTLS) : OutboundTLS :=
  match tls with
  | none => {}
  | some t =>
    { serverName := if t.serverName ≠ "" then some t.serverName else none,
      insecure := if t.insecure then some true else none }

def buildExternalOutboundEntry (eob : ExternalOutbound) (creds : ExternalCredential) : Outbound :=
  let spec := eob.spec
  let cred := fun k => creds.get k ""
  let nonEmpty := fun k => if cred k ≠ "" then some (cred k) else none
  let entry : Outbound :=
    { type := "", tag := outboundTag eob.name, server := some spec.server, serverPort := some spec.port }
  match spec.protocol with
  | .socks5 =>
    { entry with type := "socks", version := some "5", username := nonEmpty credKeyUsername,
                 password := nonEmpty credKeyPassword }
  | .http =>
    { entry with type := "http", username := nonEmpty credKeyUsername, password := nonEmpty credKeyPassword,
                 tls := spec.tls.map fun t => externalTLSEntry (some t) }
  | .shadowsocks =>
    { entry with type := "shadowsocks", method := some (cred credKeyMethod), password := some (cred credKeyPassword) }
  | .trojan =>
    { entry with type := "trojan", password := some (cred credKeyPassword), tls := some (externalTLSEntry spec.tls) }
  | .hysteria2 =>
    let opts := spec.hysteria2.getD {}
    { entry with type := "hysteria2", password := some (cred credKeyPassword),
                 upMbps := if opts.upMbps > 0 then some opts.upMbps else none,
                 downMbps := if opts.downMbps > 0 then some opts.downMbps else none,
                 obfs := if opts.obfs then some { type := "salamander", password := cred credKeyObfsPassword } else none,
                 tls := some (externalTLSEntry spec.tls) }
  | .tuic =>
    { entry with type := "tuic", uuid := some (cred credKeyUUID), password := some (cred credKeyPassword),
                 tls := some (externalTLSEntry spec.tls) }
  | .anytls =>
    { entry with type := "anytls", password := some (cred credKeyPassword), tls := some (externalTLSEntry spec.tls) }

def buildExternalOutbounds (input : Input) (myRoutes : List CustomRoute) : List Outbound :=
  (resolveExternalOutbounds input myRoutes).map fun eob =>
    buildExternalOutboundEntry eob (input.externalCreds.get eob.name ∅)

/-! ## Relay outbounds -/

/-- The SOCKS entry through which a node is relayed to. -/
def relayOutbound (input : Input) (outNode : SingBoxNode) (name : String) : Outbound :=
  let cred := input.nodeCreds.get name ⟨"", ""⟩
  { type := "socks", tag := outboundTag name, server := some outNode.spec.address,
    serverPort := some outNode.spec.relayPort, username := some cred.username, password := some cred.password }

def buildOutboundNodeOutbounds (input : Input) (myRoutes : List CustomRoute) : List Outbound :=
  (input.outboundNodes.filter fun outNode =>
    !(myRoutes.any fun r => r.outboundNode = outNode.name) && admits outNode.spec.allowedInbounds input.node.name &&
      admits input.node.spec.allowedOutbounds outNode.name && outNode.spec.relayPort ≠ 0).map
    fun outNode => relayOutbound input outNode outNode.name

def buildRouteOutbounds (input : Input) (myRoutes : List CustomRoute) : List Outbound :=
  myRoutes.filterMap fun route =>
    match input.outboundNodesByName.lookup route.outboundNode with
    | none => none
    | some outNode =>
      if outNode.spec.relayPort ≠ 0 && admits outNode.spec.allowedInbounds input.node.name &&
          admits input.node.spec.allowedOutbounds outNode.name &&
          (input.users.isEmpty || input.users.any fun user => input.allows user outNode.name) then
        some (relayOutbound input outNode outNode.name)
      else none

def buildDirectOutbound : Outbound := { type := "direct", tag := "direct" }

def deduplicateByTag (outbounds : List Outbound) : List Outbound := firstBy Outbound.tag outbounds

def routeFinal (outbounds : List Outbound) : String :=
  ((outbounds.find? fun ob => ob.tag ≠ "direct" && ob.tag ≠ "").map Outbound.tag).getD "direct"

/-! ## Policies -/

section
variable [Library] [MapOrder]

/-- The names of the visible nodes and external outbounds a policy's selector matches. -/
def policyEgressCandidates (site : List String) (input : Input) (policy : EgressPolicy) : List String :=
  ((MapOrder.range ("OutboundNodesByName" :: site) input.outboundNodesByName).filterMap fun (_, node) =>
    if node.hasRole .outbound && policy.spec.egressSelector.matches node.metadata then some node.name else none) ++
  (MapOrder.range ("ExternalOutboundsByName" :: site) input.externalOutboundsByName).filterMap fun (_, eob) =>
    if policy.spec.egressSelector.matches eob.metadata then some eob.name else none

def resolvePolicyEgressName (site : List String) (input : Input) (policy : EgressPolicy) : String :=
  match sortOn id (policyEgressCandidates site input policy) with
  | [name] => name
  | _ => ""

def policyEgressAvailable (input : Input) (name : String) : Bool :=
  match input.outboundNodesByName.lookup name with
  | some node => node.hasRole .outbound && node.spec.relayPort > 0
  | none =>
    match input.externalOutboundsByName.lookup name with
    | some eob => hasRequiredExternalCreds eob (input.externalCreds.get name ∅)
    | none => false

/-- The status first, the selector only when the status is empty. -/
def policyEgressName (site : List String) (input : Input) (policy : EgressPolicy) : String :=
  if policy.status.resolvedEgress = "" then resolvePolicyEgressName site input policy else policy.status.resolvedEgress

def policyAuthUsers (input : Input) (egressName : String) : List String :=
  (input.users.filter fun user => input.allows user egressName).map fun user => virtualUserName user.name egressName

/-- The rule, if any, that rejects what the policy's egress carries besides its matches. -/
def policyFallbackRules (input : Input) (policy : EgressPolicy) : List RouteRule :=
  if policy.spec.fallbackAction = some .reject then
    let name := policyEgressName ["buildPolicyRules", "fallback", policy.name] input policy
    if name ≠ "" && policyEgressAvailable input name then
      let authUsers := policyAuthUsers input name
      if authUsers ≠ [] then [{ authUser := authUsers, action := "reject" }] else []
    else []
  else []

/-- What all rules of a policy have in common: the inbound and the match fields. -/
def policyRule (input : Input) (policy : EgressPolicy) : RouteRule :=
  let m := policy.spec.matchFields
  { inbound := [inboundTag input.node], domain := m.domain, domainSuffix := m.domainSuffix,
    domainRegex := m.domainRegex, ipCIDR := m.ipCIDR, ruleSet := m.ruleSet }

/-- One round of the loop of `buildPolicyRules`. -/
def policyRules (input : Input) (policy : EgressPolicy) : List RouteRule :=
  match policy.spec.action with
  | .reject => [{ policyRule input policy with action := "reject" }]
  | .route =>
    let name := policyEgressName ["buildPolicyRules", policy.name] input policy
    if name = "" || !policyEgressAvailable input name then []
    else { policyRule input policy with outbound := outboundTag name } :: policyFallbackRules input policy

def buildPolicyRules (input : Input) (policies : List EgressPolicy) : List RouteRule :=
  policies.flatMap (policyRules input)

def policyOutbound (input : Input) (name : String) : Option Outbound :=
  match input.outboundNodesByName.lookup name with
  | some node => if node.spec.relayPort = 0 then none else some (relayOutbound input node name)
  | none =>
    match input.externalOutboundsByName.lookup name with
    | some eob =>
      let creds := input.externalCreds.get name ∅
      if hasRequiredExternalCreds eob creds then some (buildExternalOutboundEntry eob creds) else none
    | none => none

def buildPolicyOutbounds (input : Input) (policies : List EgressPolicy) : List Outbound :=
  let names := (policies.filter fun p => p.spec.action = .route).map fun p =>
    policyEgressName ["buildPolicyOutbounds", p.name] input p
  ((names.filter (· ≠ "")).eraseDups).filterMap (policyOutbound input)

/-! ## Inbounds -/

def buildInboundEntry (protocol : Protocol) (tag : String) (port : Nat) (users : List UserEntry) : Inbound :=
  { type := if protocol = .socks5 then "socks" else protocol.name
    tag := tag
    listenPort := port
    users := users
    tls := if protocol = .hysteria2 || protocol = .naive || protocol = .anytls || protocol = .tuic then
        some { certificatePath := "/etc/sing-box/tls/tls.crt", keyPath := "/etc/sing-box/tls/tls.key" }
      else none }

/-- The targets of an inbound node, in the order their virtual users and rules are built. -/
def outboundNames (input : Input) (routes : List CustomRoute) (includeSelf : Bool) : List String :=
  let peers := (input.outboundNodes.filter fun n => n.spec.relayPort ≠ 0).map SingBoxNode.name
  let routed := (routes.filter fun r => r.effectiveOutboundKind = .singBoxNode &&
    match input.outboundNodesByName.lookup r.outboundNode with
    | some outNode => outNode.spec.relayPort ≠ 0
    | none => false).map CustomRoute.outboundNode
  let policied := ((input.egressPolicies.filter fun p => p.spec.action = .route).map fun p =>
    policyEgressName ["buildRouteInbounds", p.name] input p).filter fun name =>
      name ≠ "" && policyEgressAvailable input name
  let self := if includeSelf then [input.node.name] else []
  let externals := (resolveExternalOutbounds input routes).map ExternalOutbound.name
  (peers ++ routed ++ policied ++ self ++ externals).eraseDups

/-- The entry of a virtual user. -/
def virtualUserEntry (input : Input) (protocol : Protocol) (nodeName : String) (user : User) : UserEntry :=
  let cred := input.userCreds.get user.name ⟨""⟩
  labelUser protocol (deriveAuth protocol cred.uuid nodeName) (virtualUserName user.name nodeName)

def virtualUsers (input : Input) (protocol : Protocol) (names : List String) : List UserEntry :=
  names.flatMap fun nodeName =>
    (input.users.filter fun user => input.allows user nodeName).map (virtualUserEntry input protocol nodeName)

def targetRules (input : Input) (names : List String) : List RouteRule :=
  names.filterMap fun nodeName =>
    let authUsers := (input.users.filter fun user => input.allows user nodeName).map fun user =>
      virtualUserName user.name nodeName
    if authUsers ≠ [] then some { authUser := authUsers, outbound := outboundTag nodeName } else none

/-- At most one inbound, with the virtual users, and one rule for each target somebody may use. -/
def buildRouteInbounds (input : Input) (routes : List CustomRoute) (includeSelf : Bool) :
    List Inbound × List RouteRule :=
  let names := outboundNames input routes includeSelf
  let proto := effectiveInboundProtocol input.node
  let port := findProtocolPort input.node proto
  let users := virtualUsers input proto names
  let inbounds := if port ≠ 0 && users ≠ [] then [buildInboundEntry proto (inboundTag input.node) port users] else []
  (inbounds, targetRules input names)

/-- The entry of a user without a target. -/
def plainUserEntry (input : Input) (protocol : Protocol) (nodeName : String) (user : User) : UserEntry :=
  let cred := input.userCreds.get user.name ⟨""⟩
  labelUser protocol (deriveAuth protocol cred.uuid nodeName) user.name

def buildUsersBlock (input : Input) (protocol : Protocol) (nodeName : String) : List UserEntry :=
  input.users.map (plainUserEntry input protocol nodeName)

def buildUserInbounds (input : Input) : List Inbound :=
  let proto := effectiveInboundProtocol input.node
  let port := findProtocolPort input.node proto
  let users := buildUsersBlock input proto input.node.name
  if port = 0 then [] else if users = [] then []
  else [buildInboundEntry proto (inboundTag input.node) port users]

def relayTag : String := "relay-socks5"

def buildRelayInbound (input : Input) : Inbound :=
  let cred := input.nodeCreds.get input.node.name ⟨"", ""⟩
  { type := "socks", tag := relayTag, listenPort := effectiveRelayPort input.node,
    users := [{ username := some cred.username, password := some cred.password }] }

/-! ## Usage statistics -/

/-- The virtual users whose traffic is counted. Targets of policies are not among them. -/
def statsUsers (input : Input) : List String :=
  let myRoutes := routesForNode input
  let peers := (input.outboundNodes.filter fun n => n.spec.relayPort ≠ 0).map SingBoxNode.name
  let routed := (myRoutes.filter fun r => r.effectiveOutboundKind = .singBoxNode &&
    match input.outboundNodesByName.lookup r.outboundNode with
    | some outNode => outNode.spec.relayPort ≠ 0
    | none => false).map CustomRoute.outboundNode
  let self := if input.node.hasRole .inbound && input.node.hasRole .outbound then [input.node.name] else []
  let externals := (resolveExternalOutbounds input myRoutes).map ExternalOutbound.name
  let names := (peers ++ routed ++ self ++ externals).eraseDups
  let userSet : NameSet := GoMap.assignAll id (fun _ => true) ∅
    (names.flatMap fun nodeName => input.users.map fun user => virtualUserName user.name nodeName)
  sortOn id ((MapOrder.range ["buildExperimentalConfig"] userSet).map Prod.fst)

def buildExperimentalConfig (input : Input) : V2RayAPIConfig :=
  { listen := if input.v2rayAPIListenAddr = "" then "0.0.0.0:10085" else input.v2rayAPIListenAddr
    stats := { enabled := true, users := statsUsers input } }

/-! ## Compute -/

def isSelfOutbound (input : Input) : Bool := input.node.hasRole .inbound && input.node.hasRole .outbound

def hasOutboundPeers (input : Input) : Bool :=
  !input.outboundNodes.isEmpty || !(routesForNode input).isEmpty || !(policiesForNode input).isEmpty ||
    isSelfOutbound input || !(resolveExternalOutbounds input (routesForNode input)).isEmpty

/-- The inbounds for clients, and the rules that go with them. -/
def clientInbounds (input : Input) : List Inbound × List RouteRule :=
  if policiesForNode input ≠ [] then
    let (ibs, rls) := buildRouteInbounds input (routesForNode input) (isSelfOutbound input)
    (if ibs = [] then buildUserInbounds input else ibs, rls)
  else if hasOutboundPeers input then buildRouteInbounds input (routesForNode input) (isSelfOutbound input)
  else (buildUserInbounds input, [])

/-- The node's own exit, under the name clients use for it. -/
def selfOutbounds (input : Input) : List Outbound :=
  if isSelfOutbound input && admits input.node.spec.allowedOutbounds input.node.name then
    [{ type := "direct", tag := outboundTag input.node.name }]
  else []

def clientOutbounds (input : Input) : List Outbound :=
  let myRoutes := routesForNode input
  buildOutboundNodeOutbounds input myRoutes ++ buildRouteOutbounds input myRoutes ++
    buildExternalOutbounds input myRoutes ++ buildPolicyOutbounds input (policiesForNode input) ++ selfOutbounds input

def computeConfig (input : Input) : SingboxConfig :=
  let isInbound := input.node.hasRole .inbound
  let (clients, clientRules) := if isInbound then clientInbounds input else ([], [])
  let relays := if input.node.hasRole .outbound then [buildRelayInbound input] else []
  let rules := buildPolicyRules input (policiesForNode input) ++ clientRules
  let outbounds := deduplicateByTag ((if isInbound then clientOutbounds input else []) ++ [buildDirectOutbound])
  { logLevel := "info"
    inbounds := clients ++ relays
    outbounds := outbounds
    route := { rules := rules, final := if rules ≠ [] then "direct" else routeFinal outbounds }
    experimental := if input.usageCollectionEnabled then some (buildExperimentalConfig input) else none }

def computeHash (config : String) : String := hexEncode ((sha256 (bytesOf config)).take 8)

def compute (input : Input) : Output :=
  let data := (computeConfig input).toJson.render
  { config := data, hash := computeHash data }

end

end SingboxOperator
