import SingboxOperator.Lib.GoMap
import SingboxOperator.Lib.Lists
/-!
# The custom resources

The objects of `api/v1alpha1`, with the fields the modelled code reads. An
enumeration of the schema is an inductive type, and a bound of the schema is a
field: an object the API server would refuse cannot be written down. Regular
expressions, CIDR notation and label selectors belong to libraries the
repository imports; `Library` stands for them.
-/
open SingboxOperator.Lib

namespace SingboxOperator

abbrev Labels := GoMap String String

/-- What the API server admits as an object name: lower case letters, digits, `-` and `.`. -/
def isObjectName (s : String) : Bool :=
  !s.toList.isEmpty && s.toList.all fun c => c.isLower || c.isDigit || c == '-' || c == '.'

@[ext] structure ObjectMeta where
  name : String
  labels : Labels := ∅
  name_ok : isObjectName name = true

/-- What a name has no character of: anything but lower case letters, digits, `-` and `.`. -/
theorem ObjectMeta.notMem_name (m : ObjectMeta) {c : Char}
    (hc : (c.isLower || c.isDigit || c == '-' || c == '.') = false) : c ∉ m.name.toList := by
  intro h
  have hok := m.name_ok
  simp only [isObjectName, Bool.and_eq_true, List.all_eq_true] at hok
  rw [hok.2 c h] at hc
  cases hc

def ObjectMeta.named (name : String) (ok : isObjectName name = true := by decide) : ObjectMeta := { name, name_ok := ok }

/-! ## SingBoxNode -/

inductive ProxyRole
  | inbound
  | outbound
  deriving DecidableEq, Repr

inductive Protocol
  | hysteria2
  | vless
  | trojan
  | socks5
  | http
  | naive
  | anytls
  | tuic
  deriving DecidableEq, Repr

def Protocol.name : Protocol → String
  | .hysteria2 => "hysteria2"
  | .vless => "vless"
  | .trojan => "trojan"
  | .socks5 => "socks5"
  | .http => "http"
  | .naive => "naive"
  | .anytls => "anytls"
  | .tuic => "tuic"

structure ProtocolConfig where
  protocol : Protocol
  port : Nat
  port_pos : 1 ≤ port
  port_le : port ≤ 65535

structure SingBoxNodeSpec where
  address : String
  region : String
  clientGroups : List String := []
  roles : List ProxyRole
  supportedProtocols : List ProtocolConfig := []
  inboundProtocol : Option Protocol := none
  /-- 0 when unset. -/
  relayPort : Nat := 0
  relayPort_le : relayPort ≤ 65535 := by decide
  allowedInbounds : List String := []
  allowedOutbounds : List String := []

structure Condition where
  type : String
  status : String
  deriving DecidableEq, Repr

/-- A condition as a reconciler writes it. -/
structure StatusCondition extends Condition where
  reason : String
  message : String
  deriving DecidableEq, Repr

structure SingBoxNodeStatus where
  entryEndpoints : List String := []
  tlsServerName : String := ""
  conditions : List Condition := []
  deriving DecidableEq

structure SingBoxNode where
  metadata : ObjectMeta
  spec : SingBoxNodeSpec
  status : SingBoxNodeStatus := {}

namespace SingBoxNode

def name (n : SingBoxNode) : String := n.metadata.name

def hasRole (n : SingBoxNode) (role : ProxyRole) : Bool := decide (role ∈ n.spec.roles)

end SingBoxNode

/-- The gate both allowlists use: an empty list lets every name through. -/
def admits (allowed : List String) (name : String) : Bool := allowed.isEmpty || decide (name ∈ allowed)

/-! ## ExternalOutbound -/

inductive ExternalProtocol
  | socks5
  | http
  | shadowsocks
  | trojan
  | hysteria2
  | tuic
  | anytls
  deriving DecidableEq, Repr

structure ExternalOutboundTLS where
  serverName : String := ""
  insecure : Bool := false
  deriving DecidableEq, Repr

structure Hysteria2Options where
  upMbps : Nat := 0
  downMbps : Nat := 0
  obfs : Bool := false
  deriving DecidableEq, Repr

structure ExternalOutboundSpec where
  protocol : ExternalProtocol
  server : String
  port : Nat
  port_pos : 1 ≤ port := by decide
  port_le : port ≤ 65535 := by decide
  credentialsSecretRef : Option String := none
  tls : Option ExternalOutboundTLS := none
  hysteria2 : Option Hysteria2Options := none
  region : String := ""
  clientGroups : List String := []
  allowedInbounds : List String := []

structure ExternalOutbound where
  metadata : ObjectMeta
  spec : ExternalOutboundSpec

def ExternalOutbound.name (e : ExternalOutbound) : String := e.metadata.name

/-! ## User and UserGroup -/

structure SecretReference where
  name : String
  ns : String := ""
  deriving DecidableEq, Repr

structure UserSpec where
  authSecret : SecretReference
  userGroupRef : String := ""

structure User where
  metadata : ObjectMeta
  spec : UserSpec

def User.name (u : User) : String := u.metadata.name

structure UserGroupSpec where
  allowedNodes : List String := []
  deniedNodes : List String := []

structure UserGroup where
  metadata : ObjectMeta
  spec : UserGroupSpec

/-! ## CustomRoute, retired but still read by the engine -/

inductive OutboundKind
  | singBoxNode
  | externalOutbound
  deriving DecidableEq, Repr

structure CustomRoute where
  name : String
  inboundNode : String
  outboundNode : String
  outboundKind : Option OutboundKind := none

def CustomRoute.effectiveOutboundKind (r : CustomRoute) : OutboundKind := r.outboundKind.getD .singBoxNode

/-! ## EgressPolicy -/

structure LabelSelectorRequirement where
  key : String
  operator : String
  values : List String := []
  deriving DecidableEq, Repr

structure EgressPolicySelector where
  matchLabels : Labels := ∅
  matchExpressions : List LabelSelectorRequirement := []
  matchNames : List String := []

structure EgressPolicyMatch where
  domain : List String := []
  domainSuffix : List String := []
  domainRegex : List String := []
  ipCIDR : List String := []
  ruleSet : List String := []
  deriving DecidableEq, Repr

inductive PolicyAction
  | route
  | reject
  deriving DecidableEq, Repr

inductive FallbackAction
  | reject
  deriving DecidableEq, Repr

structure EgressPolicySpec where
  ingressSelector : EgressPolicySelector := {}
  egressSelector : EgressPolicySelector := {}
  matchFields : EgressPolicyMatch := {}
  action : PolicyAction
  priority : Int := 0
  fallbackAction : Option FallbackAction := none

structure EgressPolicyStatus where
  resolvedIngresses : List String := []
  resolvedEgress : String := ""
  deriving DecidableEq, Repr

structure EgressPolicy where
  metadata : ObjectMeta
  spec : EgressPolicySpec
  status : EgressPolicyStatus := {}

def EgressPolicy.name (p : EgressPolicy) : String := p.metadata.name

/-! ## Library code -/

/-- The functions of imported libraries that decide something here: the
predicate a label selector stands for, and the errors of the two parsers. -/
class Library where
  labelSelectorAsSelector : Labels → List LabelSelectorRequirement → Except String (Labels → Bool)
  regexpCompile : String → Option String
  parseCIDR : String → Option String

/-! ## What example objects are made of -/

/-- A port within the bounds of the schema. -/
structure Port where
  number : Nat
  pos : 1 ≤ number
  le : number ≤ 65535

namespace Port

def https : Port := ⟨443, by decide, by decide⟩

def socks : Port := ⟨1080, by decide, by decide⟩

def container : Port := ⟨10808, by decide, by decide⟩

def listener (port : Port) (protocol : Protocol) : ProtocolConfig where
  protocol := protocol
  port := port.number
  port_pos := port.pos
  port_le := port.le

end Port

/-- A node with nothing set. -/
def SingBoxNodeSpec.bare : SingBoxNodeSpec where
  address := ""
  region := ""
  roles := []

/-- Label selectors as Kubernetes reads them, with every expression and every CIDR accepted. -/
@[reducible] def plainLibrary : Library where
  labelSelectorAsSelector matchLabels exprs :=
    if exprs.any fun e => e.operator ∉ ["In", "NotIn", "Exists", "DoesNotExist"] then
      .error "not a valid label selector operator"
    else
      .ok fun labels =>
        (matchLabels.toList.all fun e => labels.lookup e.1 = some e.2) &&
          exprs.all fun e =>
            match e.operator with
            | "In" => (labels.lookup e.key).any (· ∈ e.values)
            | "NotIn" => (labels.lookup e.key).all (· ∉ e.values)
            | "Exists" => (labels.lookup e.key).isSome
            | _ => (labels.lookup e.key).isNone
  regexpCompile _ := none
  parseCIDR _ := none

section
variable [Library]

def EgressPolicySelector.valid (s : EgressPolicySelector) : Option String :=
  match Library.labelSelectorAsSelector s.matchLabels s.matchExpressions with
  | .error e => some e
  | .ok _ => none

def EgressPolicySelector.matches (s : EgressPolicySelector) (obj : ObjectMeta) : Bool :=
  (s.matchNames.isEmpty || decide (obj.name ∈ s.matchNames)) &&
    match Library.labelSelectorAsSelector s.matchLabels s.matchExpressions with
    | .error _ => false
    | .ok selector => selector obj.labels

def EgressPolicyMatch.isEmpty (m : EgressPolicyMatch) : Bool :=
  m.domain.isEmpty && m.domainSuffix.isEmpty && m.domainRegex.isEmpty && m.ipCIDR.isEmpty && m.ruleSet.isEmpty

/-- The error of `EgressPolicyMatch.Valid`, if any. -/
def EgressPolicyMatch.valid (m : EgressPolicyMatch) (fallback : Bool) : Option String :=
  if m.isEmpty then
    if fallback then none else some "at least one match field is required unless fallback is true"
  else
    (m.domainRegex.findSome? Library.regexpCompile).or (m.ipCIDR.findSome? Library.parseCIDR)

end

end SingboxOperator
