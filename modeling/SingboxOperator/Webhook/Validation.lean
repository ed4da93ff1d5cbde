import SingboxOperator.Engine.Compute
import SingboxOperator.Lib.GoStrings
/-!
# Admission of nodes

`validateSingBoxNode` follows the webhook of the same name: the list of field
errors, empty when the node is admitted. What the schema of the CRD rules out by
itself is not checked again here: an unknown role and a port of 0 cannot be
written down as a `SingBoxNode`.

`validateSingBoxNode_eq_nil` says what is admitted, one field of `Admitted` for
each check.
-/
open SingboxOperator.Lib

namespace SingboxOperator

/-- A node with the field of its spec that only the webhook reads. -/
structure TaggedNode extends SingBoxNode where
  tag : String := ""

/-! ## Field errors -/

inductive FieldErrorType
  | required
  | invalid
  | duplicate
  deriving DecidableEq, Repr

inductive FieldValue
  | str (s : String)
  | int (n : Nat)
  deriving DecidableEq, Repr

structure FieldError where
  type : FieldErrorType
  field : String
  badValue : FieldValue
  detail : String
  deriving DecidableEq, Repr

namespace FieldError

def required (field detail : String) : FieldError := ⟨.required, field, .str "", detail⟩

def invalid (field : String) (value : FieldValue) (detail : String) : FieldError := ⟨.invalid, field, value, detail⟩

def duplicate (field value : String) : FieldError := ⟨.duplicate, field, .str value, ""⟩

end FieldError

/-- `path.Index(i)`. -/
def fieldIndex (field : String) (i : Nat) : String := field ++ "[" ++ toString i ++ "]"

/-- A loop over a list with the set of the entries seen before; `check` is told whether an entry is among them. -/
def checkEntries {α : Type} [DecidableEq α] (check : Nat → α → Bool → List FieldError) :
    Nat → List α → List α → List FieldError
  | _, _, [] => []
  | i, seen, x :: xs => check i x (decide (x ∈ seen)) ++ checkEntries check (i + 1) (x :: seen) xs

/-! ## The checks -/

structure SingBoxNodeWebhook where
  nodePortRangeMin : Int := 0
  nodePortRangeMax : Int := 0
  deriving DecidableEq, Repr

namespace SingBoxNodeWebhook

def inNodePortRange (w : SingBoxNodeWebhook) (port : Nat) : Bool :=
  if w.nodePortRangeMin = 0 && w.nodePortRangeMax = 0 then false
  else (port : Int) ≥ w.nodePortRangeMin && (port : Int) ≤ w.nodePortRangeMax

/-- The error text of a port in the range; the field is named in front. -/
def rangeDetail (w : SingBoxNodeWebhook) (field : String) (port : Nat) : String :=
  field ++ " " ++ toString port ++ " falls within the Kubernetes NodePort range [" ++ toString w.nodePortRangeMin ++
    ", " ++ toString w.nodePortRangeMax ++
    "]; hostPort in this range is rejected by Cilium — use a port outside this range"

end SingBoxNodeWebhook

/-- The length is in bytes. -/
def isValidHostname (hostname : String) : Bool :=
  if hostname.utf8ByteSize = 0 || hostname.utf8ByteSize > 253 then false
  else hostname.toList.all fun c => c ≠ ' '

/-- `parseIP` tells whether `net.ParseIP` returns an address. -/
def addressErrors (parseIP : String → Bool) (address : String) : List FieldError :=
  if address = "" then [.required "spec.address" "address must not be empty"]
  else if !parseIP address then
    if !isValidHostname address then
      [.invalid "spec.address" (.str address) "address must be a valid IP address or hostname"]
    else []
  else []

def protocolErrors (protocols : List ProtocolConfig) : List FieldError :=
  checkEntries (fun i protocol seen =>
    if seen then [.duplicate (fieldIndex "spec.supportedProtocols" i ++ ".protocol") protocol.name] else [])
    0 [] (protocols.map ProtocolConfig.protocol)

/-- The loop over the ports; `usedPorts` has for each port the place it was last seen at. -/
def portErrors (w : SingBoxNodeWebhook) : Nat → GoMap Nat String → List ProtocolConfig → List FieldError
  | _, _, [] => []
  | i, usedPorts, proto :: protos =>
    if proto.port ≠ 0 then
      let field := fieldIndex "spec.supportedProtocols" i ++ ".port"
      (match usedPorts.lookup proto.port with
        | some existing => [.invalid field (.int proto.port) ("port conflict with " ++ existing)]
        | none => []) ++
      (if w.inNodePortRange proto.port then [.invalid field (.int proto.port) (w.rangeDetail "port" proto.port)]
        else []) ++
      portErrors w (i + 1) (usedPorts.insert proto.port (fieldIndex "supportedProtocols" i ++ ".port")) protos
    else portErrors w (i + 1) usedPorts protos

def relayPortErrors (w : SingBoxNodeWebhook) (relayPort : Nat) : List FieldError :=
  if relayPort ≠ 0 && w.inNodePortRange relayPort then
    [.invalid "spec.relayPort" (.int relayPort) (w.rangeDetail "relayPort" relayPort)]
  else []

def roleErrors (roles : List ProxyRole) : List FieldError :=
  if roles = [] then [.required "spec.roles" "at least one role is required"] else []

/-- The loop both allowlists have. -/
def allowlistErrors (field : String) (entries : List String) : List FieldError :=
  checkEntries (fun i entry seen =>
    (if entry = "" then
      [.invalid (fieldIndex ("spec." ++ field) i) (.str entry) (field ++ " entry must not be empty")] else []) ++
    (if seen then [.duplicate (fieldIndex ("spec." ++ field) i) entry] else []))
    0 [] entries

def allowedInboundsErrors (node : SingBoxNode) : List FieldError :=
  allowlistErrors "allowedInbounds" node.spec.allowedInbounds

def allowedOutboundsErrors (node : SingBoxNode) : List FieldError :=
  allowlistErrors "allowedOutbounds" node.spec.allowedOutbounds

/-- The checks of inbound nodes. -/
def inboundErrors (node : TaggedNode) : List FieldError :=
  if node.hasRole .inbound then
    (if node.tag = "default" then
      [.invalid "spec.tag" (.str node.tag)
        "\"default\" is reserved for untagged inbound nodes; choose a different tag value"] else []) ++
    if node.spec.supportedProtocols = [] then
      [.required "spec.supportedProtocols" "inbound nodes must declare at least one supported protocol with a port"]
    else
      let effectiveProto := effectiveInboundProtocol node.toSingBoxNode
      if node.spec.supportedProtocols.any fun p => p.protocol = effectiveProto then []
      else
        [.invalid "spec.inboundProtocol" (.str ((node.spec.inboundProtocol.map Protocol.name).getD ""))
          ("effective inbound protocol " ++ quote effectiveProto.name ++
            " must be present in spec.supportedProtocols (add an entry with protocol=" ++ quote effectiveProto.name ++
            " and the desired port)")]
  else []

def SingBoxNodeWebhook.validateSingBoxNode (w : SingBoxNodeWebhook) (parseIP : String → Bool) (node : TaggedNode) :
    List FieldError :=
  addressErrors parseIP node.spec.address ++ protocolErrors node.spec.supportedProtocols ++
    portErrors w 0 ∅ node.spec.supportedProtocols ++ relayPortErrors w node.spec.relayPort ++
    roleErrors node.spec.roles ++ allowedInboundsErrors node.toSingBoxNode ++
    allowedOutboundsErrors node.toSingBoxNode ++ inboundErrors node

/-! ## What is admitted -/

/-- What the webhook asks of a node. -/
structure Admitted (w : SingBoxNodeWebhook) (parseIP : String → Bool) (node : TaggedNode) : Prop where
  address_ne : node.spec.address ≠ ""
  address : parseIP node.spec.address = true ∨ isValidHostname node.spec.address = true
  protocols : (node.spec.supportedProtocols.map ProtocolConfig.protocol).Nodup
  ports : (node.spec.supportedProtocols.map ProtocolConfig.port).Nodup
  portsInRange : ∀ p ∈ node.spec.supportedProtocols, w.inNodePortRange p.port = false
  relayPort : node.spec.relayPort ≠ 0 → w.inNodePortRange node.spec.relayPort = false
  roles : node.spec.roles ≠ []
  allowedInbounds : node.spec.allowedInbounds.Nodup ∧ "" ∉ node.spec.allowedInbounds
  allowedOutbounds : node.spec.allowedOutbounds.Nodup ∧ "" ∉ node.spec.allowedOutbounds
  tag : node.hasRole .inbound = true → node.tag ≠ "default"
  inboundProtocol : node.hasRole .inbound = true →
    ∃ p ∈ node.spec.supportedProtocols, p.protocol = effectiveInboundProtocol node.toSingBoxNode

/-- A loop that refuses the entries it has seen passes the lists without repetitions. -/
theorem checkEntries_eq_nil {α : Type} [DecidableEq α] {check : Nat → α → Bool → List FieldError} (ok : α → Prop)
    (hcheck : ∀ i x seen, check i x seen = [] ↔ ok x ∧ seen = false) (i : Nat) (seen xs : List α) :
    checkEntries check i seen xs = [] ↔ xs.Nodup ∧ ∀ x ∈ xs, ok x ∧ x ∉ seen := by
  induction xs generalizing i seen with
  | nil => simp [checkEntries]
  | cons x xs ih =>
    rw [checkEntries, List.append_eq_nil_iff, hcheck, ih, decide_eq_false_iff_not, List.nodup_cons]
    constructor
    · rintro ⟨⟨hok, hx⟩, hnodup, hxs⟩
      refine ⟨⟨fun hmem => (hxs x hmem).2 List.mem_cons_self, hnodup⟩, fun y hy => ?_⟩
      rcases List.mem_cons.1 hy with rfl | hy
      · exact ⟨hok, hx⟩
      · exact ⟨(hxs y hy).1, fun hmem => (hxs y hy).2 (List.mem_cons_of_mem _ hmem)⟩
    · rintro ⟨⟨hnotMem, hnodup⟩, hxs⟩
      refine ⟨hxs x List.mem_cons_self, hnodup, fun y hy => ?_⟩
      obtain ⟨hok, hseen⟩ := hxs y (List.mem_cons_of_mem _ hy)
      refine ⟨hok, fun hmem => ?_⟩
      rcases List.mem_cons.1 hmem with rfl | hmem
      · exact hnotMem hy
      · exact hseen hmem

theorem addressErrors_eq_nil {parseIP : String → Bool} {address : String} :
    addressErrors parseIP address = [] ↔
      address ≠ "" ∧ (parseIP address = true ∨ isValidHostname address = true) := by
  unfold addressErrors
  by_cases ha : address = ""
  · simp [ha]
  · cases hip : parseIP address <;> cases hname : isValidHostname address <;> simp [ha]

theorem protocolErrors_eq_nil {protocols : List ProtocolConfig} :
    protocolErrors protocols = [] ↔ (protocols.map ProtocolConfig.protocol).Nodup := by
  unfold protocolErrors
  rw [checkEntries_eq_nil fun _ => True]
  · simp
  · intro i protocol seen
    cases seen <;> simp

theorem allowlistErrors_eq_nil {field : String} {entries : List String} :
    allowlistErrors field entries = [] ↔ entries.Nodup ∧ "" ∉ entries := by
  unfold allowlistErrors
  rw [checkEntries_eq_nil fun entry => entry ≠ ""]
  · refine and_congr_right fun _ => ⟨fun h hmem => (h "" hmem).1 rfl, fun h x hx => ⟨?_, by simp⟩⟩
    rintro rfl
    exact h hx
  · intro i entry seen
    by_cases he : entry = "" <;> cases seen <;> simp [he]

theorem portErrors_eq_nil (w : SingBoxNodeWebhook) (i : Nat) (usedPorts : GoMap Nat String)
    (protos : List ProtocolConfig) :
    portErrors w i usedPorts protos = [] ↔ (protos.map ProtocolConfig.port).Nodup ∧
      ∀ p ∈ protos, usedPorts.lookup p.port = none ∧ w.inNodePortRange p.port = false := by
  induction protos generalizing i usedPorts with
  | nil => simp [portErrors]
  | cons proto protos ih =>
    have hport : proto.port ≠ 0 := by
      have := proto.port_pos
      omega
    have hlookup : ∀ p : ProtocolConfig, ∀ text,
        (usedPorts.insert proto.port text).lookup p.port = none ↔ p.port ≠ proto.port ∧ usedPorts.lookup p.port = none := by
      intro p text
      rw [GoMap.lookup_insert_eq]
      by_cases h : p.port = proto.port <;> simp [h]
    rw [portErrors, if_pos hport, List.append_eq_nil_iff, List.append_eq_nil_iff, ih, List.map_cons, List.nodup_cons]
    simp only [hlookup, List.forall_mem_cons]
    constructor
    · rintro ⟨⟨hconflict, hrange⟩, hnodup, hrest⟩
      refine ⟨⟨fun hmem => ?_, hnodup⟩, ⟨?_, by simpa using hrange⟩, fun p hp => ⟨(hrest p hp).1.2, (hrest p hp).2⟩⟩
      · obtain ⟨p, hp, heq⟩ := List.mem_map.1 hmem
        exact (hrest p hp).1.1 heq
      · cases hl : usedPorts.lookup proto.port with
        | none => rfl
        | some existing => simp [hl] at hconflict
    · rintro ⟨⟨hnotMem, hnodup⟩, ⟨hl, hrange⟩, hrest⟩
      refine ⟨⟨by simp [hl], by simp [hrange]⟩, hnodup, fun p hp => ⟨⟨fun heq => ?_, (hrest p hp).1⟩, (hrest p hp).2⟩⟩
      exact hnotMem (heq ▸ List.mem_map_of_mem hp)

theorem inboundErrors_eq_nil {node : TaggedNode} :
    inboundErrors node = [] ↔ (node.hasRole .inbound = true → node.tag ≠ "default") ∧
      (node.hasRole .inbound = true →
        ∃ p ∈ node.spec.supportedProtocols, p.protocol = effectiveInboundProtocol node.toSingBoxNode) := by
  unfold inboundErrors
  by_cases hi : node.hasRole .inbound = true
  · rw [if_pos hi, List.append_eq_nil_iff]
    simp only [hi, true_implies]
    refine and_congr ?_ ?_
    · by_cases ht : node.tag = "default" <;> simp [ht]
    · cases hp : node.spec.supportedProtocols with
      | nil => simp
      | cons p ps => by_cases h : p.protocol = effectiveInboundProtocol node.toSingBoxNode <;> simp [h]
  · simp [hi]

theorem validateSingBoxNode_eq_nil {w : SingBoxNodeWebhook} {parseIP : String → Bool} {node : TaggedNode} :
    w.validateSingBoxNode parseIP node = [] ↔ Admitted w parseIP node := by
  have hroles : roleErrors node.spec.roles = [] ↔ node.spec.roles ≠ [] := by
    unfold roleErrors
    by_cases h : node.spec.roles = [] <;> simp [h]
  have hrelay : relayPortErrors w node.spec.relayPort = [] ↔
      (node.spec.relayPort ≠ 0 → w.inNodePortRange node.spec.relayPort = false) := by
    unfold relayPortErrors
    by_cases h : node.spec.relayPort = 0 <;> simp [h]
  unfold SingBoxNodeWebhook.validateSingBoxNode
  simp only [List.append_eq_nil_iff, addressErrors_eq_nil, protocolErrors_eq_nil, portErrors_eq_nil, hrelay, hroles,
    allowedInboundsErrors, allowedOutboundsErrors, allowlistErrors_eq_nil, inboundErrors_eq_nil]
  constructor
  · rintro ⟨⟨⟨⟨⟨⟨⟨ha, hp⟩, hports, hrange⟩, hrelay⟩, hroles⟩, hin⟩, hout⟩, htag, hproto⟩
    exact ⟨ha.1, ha.2, hp, hports, fun p hp => (hrange p hp).2, hrelay, hroles, hin, hout, htag, hproto⟩
  · intro h
    refine ⟨⟨⟨⟨⟨⟨⟨⟨h.address_ne, h.address⟩, h.protocols⟩, h.ports, fun p hp => ⟨rfl, h.portsInRange p hp⟩⟩, h.relayPort⟩,
      h.roles⟩, h.allowedInbounds⟩, h.allowedOutbounds⟩, h.tag, h.inboundProtocol⟩

end SingboxOperator
