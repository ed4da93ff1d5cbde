import Mathlib.Data.List.Destutter
import SingboxOperator.Controller.Collect
import SingboxOperator.Lib.GoStrings
/-!
# The client-config handler

What `handleClientConfig` of `internal/apiserver` reads for a user, and the
outbounds `BuildClientConfig` makes of it: a proxy outbound for every entry
node and every target behind it, selectors, and `direct`. Merging them into a
template is not part of this module.
-/
open SingboxOperator.Lib

namespace SingboxOperator

structure ClientConfigInput where
  user : User
  egressPolicies : List EgressPolicy := []
  userCred : UserCredential
  inboundNodes : List SingBoxNode := []
  routesByInbound : GoMap String (List CustomRoute) := ∅
  outboundsByName : GoMap String SingBoxNode := ∅
  externalOutboundsByName : GoMap String ExternalOutbound := ∅
  offlineNodeNames : NameSet := ∅
  allowedNodeNames : NameSet := ∅
  deniedNodeNames : NameSet := ∅
  policyOnlyEgressNames : NameSet := ∅

/-- The map of a proxy outbound; `auth` has the keys of `DeriveAuth`. -/
structure ProxyOutbound where
  type : String
  tag : String
  server : String
  serverPort : Int
  auth : UserEntry
  tls : Option OutboundTLS
  deriving DecidableEq, Repr

inductive ClientOutbound
  | proxy (ob : ProxyOutbound)
  | selector (tag : String) (outbounds : List String)
  | direct
  deriving DecidableEq, Repr

def ClientOutbound.tag : ClientOutbound → String
  | .proxy ob => ob.tag
  | .selector tag _ => tag
  | .direct => "direct"

/-! ## Entry endpoints -/

/-- What `updateStatus` writes to the status of a node: `protocol:address:port`. -/
def entryEndpoints (node : SingBoxNode) : List String :=
  node.spec.supportedProtocols.map fun p =>
    p.protocol.name ++ ":" ++ node.spec.address ++ ":" ++ Nat.repr p.port

def parseEndpoint (protocol : Protocol) (ep : String) : Option (String × Int) :=
  match splitN ':' 3 ep.toList with
  | [proto, address, port] =>
    if String.ofList proto = protocol.name then (atoi port).map fun p => (String.ofList address, p) else none
  | _ => none

/-- The first endpoint of the protocol that can be parsed. -/
def findEntryEndpoint (endpoints : List String) (protocol : Protocol) : Option (String × Int) :=
  endpoints.findSome? (parseEndpoint protocol)

def supportsProtocol (node : SingBoxNode) (protocol : Protocol) : Bool :=
  node.spec.supportedProtocols.any fun p => p.protocol = protocol

/-! ## The targets behind an entry node -/

structure OutboundRef where
  name : String
  allowedInbounds : List String := []
  clientGroups : List String
  deriving DecidableEq, Repr

/-- A node of that name is looked at first. -/
def targetHasClientGroup (input : ClientConfigInput) (name group : String) : Bool :=
  match input.outboundsByName.lookup name with
  | some n => group ∈ n.spec.clientGroups
  | none =>
    match input.externalOutboundsByName.lookup name with
    | some e => group ∈ e.spec.clientGroups
    | none => false

def isOffline (input : ClientConfigInput) (name : String) : Bool := input.offlineNodeNames.get name false

def isPolicyOnly (input : ClientConfigInput) (name : String) : Bool := input.policyOnlyEgressNames.get name false

/-- What is asked of every target: not reserved for policies, allowed to the user and to the entry node. -/
def isSelectable (input : ClientConfigInput) (inbound : SingBoxNode) (name : String) : Bool :=
  (!isPolicyOnly input name || targetHasClientGroup input name "ai") &&
    isNodeAllowed name input.allowedNodeNames input.deniedNodeNames && admits inbound.spec.allowedOutbounds name

/-- A peer. Without a relay port it has no outbound entry in node configs. -/
def nodeRef (input : ClientConfigInput) (inbound n : SingBoxNode) : Option OutboundRef :=
  if n.spec.relayPort ≠ 0 && n.spec.region = inbound.spec.region && !isOffline input n.name &&
      isSelectable input inbound n.name && admits n.spec.allowedInbounds inbound.name then
    some { name := n.name, allowedInbounds := n.spec.allowedInbounds, clientGroups := n.spec.clientGroups }
  else none

/-- The entry node itself, whether or not it has a relay port. -/
def selfRef (input : ClientConfigInput) (inbound : SingBoxNode) : Option OutboundRef :=
  if inbound.hasRole .outbound && !isOffline input inbound.name && isSelectable input inbound inbound.name then
    some { name := inbound.name, clientGroups := inbound.spec.clientGroups }
  else none

/-- An external outbound that no node hides. -/
def externalRef (input : ClientConfigInput) (inbound : SingBoxNode) (eob : ExternalOutbound) : Option OutboundRef :=
  if eob.spec.region = inbound.spec.region && (input.outboundsByName.lookup eob.name).isNone &&
      isSelectable input inbound eob.name && admits eob.spec.allowedInbounds inbound.name then
    some { name := eob.name, allowedInbounds := eob.spec.allowedInbounds, clientGroups := eob.spec.clientGroups }
  else none

/-- The target of a custom route. -/
def routeRef (input : ClientConfigInput) (inbound : SingBoxNode) (r : CustomRoute) : Option OutboundRef :=
  if r.effectiveOutboundKind = .externalOutbound then
    (input.externalOutboundsByName.lookup r.outboundNode).bind (externalRef input inbound)
  else (input.outboundsByName.lookup r.outboundNode).bind (nodeRef input inbound)

section
variable [MapOrder]

/-- The targets behind an entry node, each name once, sorted. External
outbounds without a region are not discovered. -/
def resolveOutboundNodes (input : ClientConfigInput) (inboundName : String) : List OutboundRef :=
  match input.inboundNodes.find? fun n => n.name = inboundName with
  | none => []
  | some inbound =>
    let peers := (MapOrder.range ["resolveOutboundNodes", "OutboundsByName", inboundName]
      input.outboundsByName).filterMap fun (_, n) => nodeRef input inbound n
    let externals := (MapOrder.range ["resolveOutboundNodes", "ExternalOutboundsByName", inboundName]
      input.externalOutboundsByName).filterMap fun (_, eob) =>
        if eob.spec.region ≠ "" then externalRef input inbound eob else none
    let routed := (input.routesByInbound.get inboundName []).filterMap (routeRef input inbound)
    sortOn OutboundRef.name
      (firstBy OutboundRef.name (peers ++ (selfRef input inbound).toList ++ externals ++ routed))

/-! ## Paths -/

def buildProxyOutbound (tag address : String) (port : Int) (protocol : Protocol)
    (userName outboundNodeName tlsServerName : String) (cred : UserCredential) : ProxyOutbound :=
  let auth := deriveAuth protocol cred.uuid outboundNodeName
  { type := if protocol = .socks5 then "socks" else protocol.name
    tag := tag
    server := address
    serverPort := port
    auth := if protocol = .naive then { auth with username := some (virtualUserName userName outboundNodeName) } else auth
    tls := if protocol = .hysteria2 || protocol = .naive || protocol = .anytls || protocol = .tuic then
        some (if tlsServerName ≠ "" then { serverName := some tlsServerName } else { insecure := some true })
      else none }

def pathTag (targetName inboundName : String) : String :=
  if targetName = inboundName then targetName else targetName ++ "#" ++ inboundName

/-- One round of the loops of `BuildClientConfig`: a target behind an entry node. -/
structure Path where
  entry : SingBoxNode
  target : OutboundRef
  outbound : ProxyOutbound

/-- The paths over one entry node. -/
def entryPaths (input : ClientConfigInput) (inbound : SingBoxNode) : List Path :=
  let protocol := effectiveInboundProtocol inbound
  if isOffline input inbound.name || !supportsProtocol inbound protocol then []
  else
    match findEntryEndpoint inbound.status.entryEndpoints protocol with
    | none => []
    | some (address, port) =>
      (resolveOutboundNodes input inbound.name).map fun ref =>
        { entry := inbound
          target := ref
          outbound := buildProxyOutbound (pathTag ref.name inbound.name) address port protocol input.user.name ref.name
            inbound.status.tlsServerName input.userCred }

def clientGroups : List String := ["hk", "jp", "us", "ai"]

/-- The selectors a path is a member of. -/
def pathGroups (input : ClientConfigInput) (path : Path) : List String :=
  path.target.clientGroups.filter fun group =>
    group ∈ clientGroups && (group = "ai" || !isPolicyOnly input path.target.name)

/-- The paths that are members of some selector; the others are not emitted. -/
def emittedPaths (input : ClientConfigInput) : List Path :=
  (input.inboundNodes.flatMap (entryPaths input)).filter fun path => pathGroups input path ≠ []

def groupOutbounds (input : ClientConfigInput) : GoMap String (List String) :=
  (emittedPaths input).foldl (fun m path =>
    (pathGroups input path).foldl (fun m group => m.insert group (m.get group [] ++ [path.outbound.tag])) m) ∅

/-- `sort.Strings` and `slices.Compact`. -/
def sortCompact (tags : List String) : List String := (sortOn id tags).destutter (· ≠ ·)

def buildSelectors (input : ClientConfigInput) : List ClientOutbound :=
  let groups := groupOutbounds input
  let groupTags := sortOn id (((MapOrder.range ["BuildClientConfig"] groups).filter fun g => g.2 ≠ []).map Prod.fst)
  groupTags.map fun tag => .selector tag (sortCompact (groups.get tag []))

/-! ## Policies of the client -/

variable [Library]

/-- The last match, and how many there are. -/
def resolveClientPolicyEgress (input : ClientConfigInput) (policy : EgressPolicy) : String × Nat :=
  let names :=
    ((MapOrder.range ["resolveClientPolicyEgress", "OutboundsByName", policy.name] input.outboundsByName).filterMap
      fun (_, n) => if policy.spec.egressSelector.matches n.metadata then some n.name else none) ++
    (MapOrder.range ["resolveClientPolicyEgress", "ExternalOutboundsByName", policy.name]
      input.externalOutboundsByName).filterMap
      fun (_, e) => if policy.spec.egressSelector.matches e.metadata then some e.name else none
  (names.getLast?.getD "", names.length)

def policyMatchRule (m : EgressPolicyMatch) : RouteRule :=
  { domain := m.domain, domainSuffix := m.domainSuffix, domainRegex := m.domainRegex, ipCIDR := m.ipCIDR,
    ruleSet := m.ruleSet }

/-- One round of `buildClientPolicies`: the rules and the targets so far. Its
checks of the two actions cannot fail on values of the schema. -/
def addClientPolicy (input : ClientConfigInput) (acc : List RouteRule × NameSet) (policy : EgressPolicy) :
    Except String (List RouteRule × NameSet) :=
  let refuse := fun (what err : String) => Except.error ("policy " ++ policy.name ++ what ++ err)
  match policy.spec.ingressSelector.valid, policy.spec.egressSelector.valid,
    policy.spec.matchFields.valid policy.spec.fallbackAction.isSome with
  | some err, _, _ => refuse " ingressSelector: " err
  | none, some err, _ => refuse " egressSelector: " err
  | none, none, some err => refuse " match: " err
  | none, none, none =>
    let rule := policyMatchRule policy.spec.matchFields
    match policy.spec.action with
    | .reject => .ok (acc.1 ++ [{ rule with action := "reject" }], acc.2)
    | .route =>
      let (name, count) := resolveClientPolicyEgress input policy
      if count = 0 then .ok acc
      else if count ≠ 1 then
        refuse ": egressSelector matched " (Nat.repr count ++ " targets, expected exactly one")
      else
        let rule := if targetHasClientGroup input name "ai" then { rule with outbound := "ai" }
          else { rule with action := "reject" }
        .ok (acc.1 ++ [rule], acc.2.insert name true)

/-- The rules of the policies, and the names they are routed to. -/
def buildClientPolicies (input : ClientConfigInput) : Except String (List RouteRule × NameSet) :=
  (sortOn policyKey input.egressPolicies).foldlM (addClientPolicy input) ([], ∅)

/-- A target of a policy is not advertised in the regional selectors, unless it is in `ai`. -/
def reserveTargets (input : ClientConfigInput) (targets : NameSet) : ClientConfigInput :=
  { input with
    policyOnlyEgressNames := GoMap.assignAll id (fun _ => true) input.policyOnlyEgressNames
      (((MapOrder.range ["BuildClientConfig", "targets"] targets).map Prod.fst).filter fun name =>
        !targetHasClientGroup input name "ai") }

def buildClientConfig (input : ClientConfigInput) : Except String (List ClientOutbound) := do
  let (_, targets) ← buildClientPolicies input
  let input := reserveTargets input targets
  return (emittedPaths input).map (fun path => .proxy path.outbound) ++ buildSelectors input ++ [.direct]

end

/-! ## The handler -/

/-- `json` tells the body of `writeInternalError` from the plain text of `http.Error`. -/
structure HttpError where
  code : Nat
  message : String
  json : Bool := false
  deriving DecidableEq, Repr

def writeInternalError : HttpError := { code := 500, message := "internal server error", json := true }

/-- `strings.EqualFold`, for the characters a UUID has. -/
def equalFold (s t : String) : Bool := s.toList.map Char.toLower = t.toList.map Char.toLower

def isHexDigit (c : Char) : Bool := c.isDigit || ('a' ≤ c && c ≤ 'f') || ('A' ≤ c && c ≤ 'F')

/-- Five groups of 8, 4, 4, 4 and 12 hexadecimal digits. -/
def isUUID (s : String) : Bool :=
  let groups := splitN '-' 6 s.toList
  groups.map List.length = [8, 4, 4, 4, 12] && groups.all fun g => g.all isHexDigit

/-- The first user with that UUID. A user whose Secret cannot be read is passed over. -/
def matchUser (c : Cluster) (requestUUID : String) : Option (User × UserCredential) :=
  c.users.findSome? fun user =>
    match getUserCredential c user with
    | .ok cred => if equalFold cred.uuid requestUUID then some (user, cred) else none
    | .error _ => none

/-- Ready unless the condition says otherwise. -/
def isSingBoxNodeReady (node : SingBoxNode) : Bool :=
  match node.status.conditions.find? fun cond => cond.type = "NodeReady" with
  | some cond => cond.status = "True"
  | none => true

def Cluster.listOrFail {α : Type} (c : Cluster) (kind : Kind) (items : List α) : Except HttpError (List α) :=
  match c.listError kind with
  | some _ => .error writeInternalError
  | none => .ok items

/-- The allowed and the denied names of a user's group. -/
def groupNames (c : Cluster) (user : User) : Except HttpError (NameSet × NameSet) :=
  if user.spec.userGroupRef = "" then .ok (∅, ∅)
  else
    match c.userGroup user.spec.userGroupRef with
    | .error e => if e.notFound then .ok (∅, ∅) else .error { code := 500, message := "internal server error" }
    | .ok ug => .ok (nameSet ug.spec.allowedNodes, nameSet ug.spec.deniedNodes)

section
variable [Library]

/-- The names to which some route policy resolves. -/
def policyOnlyEgresses (policies : List EgressPolicy) (nodes : List SingBoxNode) (outbounds : List ExternalOutbound) :
    NameSet :=
  nameSet (policies.filterMap fun policy =>
    if policy.spec.action = .route then
      match egressCandidates policy nodes outbounds with
      | [name] => some name
      | _ => none
    else none)

/-- What the handler reads for a user. -/
def clientConfigInput (c : Cluster) (user : User) (cred : UserCredential) : Except HttpError ClientConfigInput := do
  let nodes ← c.listOrFail .singBoxNode c.nodes
  let outbounds ← c.listOrFail .externalOutbound c.externalOutbounds
  let policies ← c.listOrFail .egressPolicy c.policies
  let (allowed, denied) ← groupNames c user
  return {
    user := user
    egressPolicies := policies
    userCred := cred
    inboundNodes := nodes.filter fun n => n.hasRole .inbound
    outboundsByName := GoMap.assignAll SingBoxNode.name id ∅ (nodes.filter fun n => n.hasRole .outbound)
    externalOutboundsByName := GoMap.assignAll ExternalOutbound.name id ∅ outbounds
    offlineNodeNames := nameSet ((nodes.filter fun n => !isSingBoxNodeReady n).map SingBoxNode.name)
    allowedNodeNames := allowed
    deniedNodeNames := denied
    policyOnlyEgressNames := policyOnlyEgresses policies nodes outbounds }

/-- The outbounds for the user a request names by UUID, up to `MergeClientConfig`. -/
def handleClientConfig [MapOrder] (c : Cluster) (requestUUID : String) : Except HttpError (List ClientOutbound) := do
  if !isUUID requestUUID then .error { code := 400, message := "invalid uuid" }
  else
    let _ ← c.listOrFail .user c.users
    match matchUser c requestUUID with
    | none => .error { code := 404, message := "404 page not found" }
    | some (user, cred) =>
      let input ← clientConfigInput c user cred
      match buildClientConfig input with
      | .error _ => .error writeInternalError
      | .ok outbounds => .ok outbounds

end

end SingboxOperator
