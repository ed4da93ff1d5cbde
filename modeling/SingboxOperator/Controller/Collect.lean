import SingboxOperator.Engine.Compute
/-!
# What the controller reads

`collectInput` of `internal/controller/singboxnode_controller.go`, with the
credential reads of `credmanager` and the policy helpers it calls. A
`Cluster` is what the API client answers in one namespace: the lists in the
order it returns them, and each single read with its possible error.
-/
open SingboxOperator.Lib

namespace SingboxOperator

structure ApiError where
  notFound : Bool
  message : String
  deriving DecidableEq, Repr

inductive Kind
  | singBoxNode
  | externalOutbound
  | user
  | egressPolicy
  deriving DecidableEq, Repr

/-- One namespace as the client sees it. Names are unique for each kind. -/
structure Cluster where
  ns : String
  nodes : List SingBoxNode := []
  externalOutbounds : List ExternalOutbound := []
  users : List User := []
  policies : List EgressPolicy := []
  userGroup : String → Except ApiError UserGroup := fun _ => .error ⟨true, "not found"⟩
  /-- The data of a Secret, by namespace and name. -/
  secret : String → String → Except ApiError (GoMap String String) := fun _ _ => .error ⟨true, "not found"⟩
  /-- The error of a List call that fails. -/
  listError : Kind → Option String := fun _ => none
  nodes_nodup : (nodes.map SingBoxNode.name).Nodup
  externalOutbounds_nodup : (externalOutbounds.map ExternalOutbound.name).Nodup
  users_nodup : (users.map User.name).Nodup
  policies_nodup : (policies.map EgressPolicy.name).Nodup

theorem noExternals_nodup : (([] : List ExternalOutbound).map ExternalOutbound.name).Nodup := List.nodup_nil
theorem noUsers_nodup : (([] : List User).map User.name).Nodup := List.nodup_nil
theorem noPolicies_nodup : (([] : List EgressPolicy).map EgressPolicy.name).Nodup := List.nodup_nil

/-- The flags of the reconciler that reach the config. -/
structure Flags where
  usageCollectionEnabled : Bool := false
  v2rayAPIListenAddr : String := ""

/-! ## Credentials -/

def secretName (nodeName : String) : String := "singboxnode-" ++ nodeName ++ "-relay-cred"

def getNodeCredential (c : Cluster) (nodeName : String) : Except String NodeCredential :=
  match c.secret c.ns (secretName nodeName) with
  | .error e => .error ("getting relay credential secret for node " ++ nodeName ++ ": " ++ e.message)
  | .ok data => .ok ⟨data.get "username" "", data.get "password" ""⟩

def getUserCredential (c : Cluster) (user : User) : Except String UserCredential :=
  let ref := user.spec.authSecret
  let ns := if ref.ns = "" then c.ns else ref.ns
  match c.secret ns ref.name with
  | .error e => .error ("getting auth secret for user " ++ user.name ++ ": " ++ e.message)
  | .ok data => .ok ⟨data.get "uuid" ""⟩

/-- The non-empty values of the credentials Secret; nothing at all without a reference. -/
def getExternalCredentials [MapOrder] (c : Cluster) (eob : ExternalOutbound) : Except String ExternalCredential :=
  match eob.spec.credentialsSecretRef with
  | none => .ok ∅
  | some ref =>
    match c.secret c.ns ref with
    | .error e => .error ("getting credentials secret for ExternalOutbound " ++ eob.name ++ ": " ++ e.message)
    | .ok data =>
      .ok (GoMap.assignAll Prod.fst Prod.snd ∅
        ((MapOrder.range ["GetExternalCredentials", eob.name] data).filter fun e => e.2 ≠ ""))

/-! ## Policy helpers -/

def findOutboundNode (nodes : List SingBoxNode) (name : String) : Option SingBoxNode :=
  nodes.find? fun n => n.name = name && n.hasRole .outbound

def findExternalOutbound (outbounds : List ExternalOutbound) (name : String) : Option ExternalOutbound :=
  outbounds.find? fun e => e.name = name

/-- Whether an egress target can be reached from the inbound. The node itself only needs the outbound role. -/
def egressConnectedToInbound (inbound : SingBoxNode) (name : String) (nodes : List SingBoxNode)
    (outbounds : List ExternalOutbound) : Bool :=
  match findOutboundNode nodes name with
  | some target =>
    if target.name = inbound.name then inbound.hasRole .outbound
    else if target.spec.region ≠ inbound.spec.region then false
    else admits target.spec.allowedInbounds inbound.name && admits inbound.spec.allowedOutbounds target.name
  | none =>
    match findExternalOutbound outbounds name with
    | some target =>
      if target.spec.region = "" || target.spec.region ≠ inbound.spec.region then false
      else admits target.spec.allowedInbounds inbound.name && admits inbound.spec.allowedOutbounds target.name
    | none => false

section
variable [Library]

/-- Nodes and ExternalOutbounds together. -/
def egressCandidates (policy : EgressPolicy) (nodes : List SingBoxNode) (outbounds : List ExternalOutbound) :
    List String :=
  (nodes.filterMap fun n =>
    if n.hasRole .outbound && policy.spec.egressSelector.matches n.metadata then some n.name else none) ++
  outbounds.filterMap fun e => if policy.spec.egressSelector.matches e.metadata then some e.name else none

/-- The candidates, the unique target and a validation message. -/
def resolveEgressPolicy (policy : EgressPolicy) (nodes : List SingBoxNode) (outbounds : List ExternalOutbound) :
    List String × String × String :=
  match policy.spec.matchFields.valid policy.spec.fallbackAction.isSome with
  | some err => ([], "", err)
  | none =>
    match policy.spec.action with
    | .reject => ([], "", "")
    | .route =>
      match egressCandidates policy nodes outbounds with
      | [] => ([], "", "")
      | [name] => ([name], name, "")
      | names =>
        (names, "", "egressSelector matched " ++ toString names.length ++ " egress targets, expected exactly one")

/-- The target a route policy resolves to on the listed resources. -/
def egressOf (policy : EgressPolicy) (nodes : List SingBoxNode) (outbounds : List ExternalOutbound) : String :=
  (resolveEgressPolicy policy nodes outbounds).2.1

/-- Whether the policy loop keeps a policy for `node`. -/
def policyApplies (node : SingBoxNode) (nodes : List SingBoxNode) (outbounds : List ExternalOutbound)
    (policy : EgressPolicy) : Bool :=
  node.hasRole .inbound && policy.spec.ingressSelector.matches node.metadata &&
    (resolveEgressPolicy policy nodes outbounds).2.2 = "" &&
    match policy.spec.action with
    | .reject => true
    | .route =>
      egressOf policy nodes outbounds ≠ "" &&
        egressConnectedToInbound node (egressOf policy nodes outbounds) nodes outbounds

end

/-! ## The loops -/

/-- Whether `other` is discovered as an outbound peer of `node`. -/
def isPeer (node other : SingBoxNode) : Bool :=
  other.name ≠ node.name && other.spec.region = node.spec.region && other.hasRole .outbound &&
    admits other.spec.allowedInbounds node.name && admits node.spec.allowedOutbounds other.name

def loadNodeCredential (c : Cluster) (input : Input) (name : String) : Input :=
  match getNodeCredential c name with
  | .ok cred => { input with nodeCreds := input.nodeCreds.insert name cred }
  | .error _ => input

def addPeer (c : Cluster) (input : Input) (other : SingBoxNode) : Input :=
  loadNodeCredential c
    { input with
      outboundNodes := input.outboundNodes ++ [other]
      outboundNodesByName := input.outboundNodesByName.insert other.name other } other.name

/-- Whether `eob` is discovered by `node`; `sbnNames` are the names SingBoxNodes have. -/
def isDiscovered (node : SingBoxNode) (sbnNames : List String) (eob : ExternalOutbound) : Bool :=
  eob.name ∉ sbnNames && eob.spec.region ≠ "" && eob.spec.region = node.spec.region &&
    admits eob.spec.allowedInbounds node.name && admits node.spec.allowedOutbounds eob.name

def loadExternalCredential [MapOrder] (c : Cluster) (input : Input) (eob : ExternalOutbound) : Input :=
  match getExternalCredentials c eob with
  | .ok creds => { input with externalCreds := input.externalCreds.insert eob.name creds }
  | .error _ => input

def addExternal [MapOrder] (c : Cluster) (input : Input) (eob : ExternalOutbound) : Input :=
  loadExternalCredential c
    { input with
      externalOutbounds := input.externalOutbounds ++ [eob]
      externalOutboundsByName := input.externalOutboundsByName.insert eob.name eob } eob

/-- A set of names, as the source builds it from a list. -/
def nameSet (names : List String) : NameSet := GoMap.assignAll id (fun _ => true) ∅ names

theorem get_nameSet {names : List String} {name : String} : (nameSet names).get name false = true ↔ name ∈ names := by
  simp [nameSet, GoMap.get_assignAll_true]

def loadUserCredential (c : Cluster) (input : Input) (user : User) : Input :=
  match getUserCredential c user with
  | .ok cred => { input with userCreds := input.userCreds.insert user.name cred }
  | .error _ => input

/-- A user without a group, or whose group does not exist, gets no restrictions. -/
def addUser (c : Cluster) (input : Input) (user : User) : Except String Input :=
  let input := loadUserCredential c { input with users := input.users ++ [user] } user
  if user.spec.userGroupRef = "" then .ok input
  else
    match c.userGroup user.spec.userGroupRef with
    | .error e =>
      if e.notFound then .ok input
      else .error ("fetching UserGroup " ++ user.spec.userGroupRef ++ ": " ++ e.message)
    | .ok ug =>
      let deniedSet := nameSet ug.spec.deniedNodes
      let allowedSet := nameSet ug.spec.allowedNodes
      .ok { input with
        userNodeRestrictions := input.userNodeRestrictions.insert user.name deniedSet
        userNodeAllowlist :=
          if allowedSet.len > 0 then input.userNodeAllowlist.insert user.name allowedSet else input.userNodeAllowlist }

/-- The error of a failed List call, or the items. -/
def Cluster.list {α : Type} (c : Cluster) (kind : Kind) (what : String) (items : List α) : Except String (List α) :=
  match c.listError kind with
  | some e => .error ("listing " ++ what ++ ": " ++ e)
  | none => .ok items

/-- Users are read by inbound nodes only. -/
def collectUsers (c : Cluster) (node : SingBoxNode) (input : Input) : Except String Input :=
  if node.hasRole .inbound then do
    let allUsers ← c.list .user "Users" c.users
    (sortOn User.name allUsers).foldlM (addUser c) input
  else .ok input

section
variable [Library] [MapOrder]

/-- What the policy loop does with a policy it keeps. -/
def addPolicy (c : Cluster) (nodes : List SingBoxNode) (outbounds : List ExternalOutbound) (input : Input)
    (policy : EgressPolicy) : Input :=
  let input := { input with egressPolicies := input.egressPolicies ++ [policy] }
  match policy.spec.action with
  | .reject => input
  | .route =>
    let egressName := egressOf policy nodes outbounds
    match findOutboundNode nodes egressName with
    | some egressNode =>
      loadNodeCredential c
        { input with outboundNodesByName := input.outboundNodesByName.insert egressNode.name egressNode } egressNode.name
    | none =>
      match findExternalOutbound outbounds egressName with
      | some egress =>
        loadExternalCredential c
          { input with externalOutboundsByName := input.externalOutboundsByName.insert egress.name egress } egress
      | none => input

def collectInput (flags : Flags) (c : Cluster) (node : SingBoxNode) : Except String Input := do
  let input : Input :=
    { node := node, usageCollectionEnabled := flags.usageCollectionEnabled,
      v2rayAPIListenAddr := flags.v2rayAPIListenAddr }
  let allNodes ← c.list .singBoxNode "SingBoxNodes" c.nodes
  let allNodes := sortOn SingBoxNode.name allNodes
  let sbnNames := node.name :: allNodes.map SingBoxNode.name
  let input := (allNodes.filter (isPeer node)).foldl (addPeer c) input
  let allExtOutbounds ← c.list .externalOutbound "ExternalOutbounds" c.externalOutbounds
  let allExtOutbounds := sortOn ExternalOutbound.name allExtOutbounds
  let input := (allExtOutbounds.filter (isDiscovered node sbnNames)).foldl (addExternal c) input
  let input ← collectUsers c node input
  let allPolicies ← c.list .egressPolicy "EgressPolicies" c.policies
  let input := (allPolicies.filter (policyApplies node allNodes allExtOutbounds)).foldl
    (addPolicy c allNodes allExtOutbounds) input
  return if node.hasRole .outbound then loadNodeCredential c input node.name else input

end

end SingboxOperator
