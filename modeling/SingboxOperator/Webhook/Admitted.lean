import SingboxOperator.ApiServer.Paths
import SingboxOperator.Webhook.Validation
/-!
# What admission promises the rest of the operator

The controller writes the entry endpoints of a node as `protocol:address:port`
and the API server takes them apart again; the engine binds the ports of the
protocols and the port of the relay on one host. Neither is safe for every node
the webhook admits: an address may have colons, which every IPv6 address has,
and the relay port, declared or not, is compared with no other port.
-/
open SingboxOperator.Lib

namespace SingboxOperator

/-! ## Entry endpoints -/

/-- The endpoint of a protocol is found at its address, unless the address has a colon. -/
theorem findEntryEndpoint_entryEndpoints {n : SingBoxNode}
    (hnodup : (n.spec.supportedProtocols.map ProtocolConfig.protocol).Nodup) {p : ProtocolConfig}
    (hp : p ∈ n.spec.supportedProtocols) :
    findEntryEndpoint (entryEndpoints n) p.protocol =
      if ':' ∈ n.spec.address.toList then none else some (n.spec.address, (p.port : Int)) := by
  unfold findEntryEndpoint entryEndpoints
  generalize n.spec.supportedProtocols = ps at hnodup hp
  induction ps with
  | nil => cases hp
  | cons q ps ih =>
    rw [List.map_cons, List.nodup_cons] at hnodup
    rw [List.map_cons, List.findSome?_cons, parseEndpoint_entry]
    rcases List.mem_cons.1 hp with rfl | hp
    · by_cases hc : ':' ∈ n.spec.address.toList
      · simp [hc, List.findSome?_eq_none_iff, parseEndpoint_entry]
      · simp [hc]
    · -- the protocol of an earlier endpoint is another one
      have hq : q.protocol ≠ p.protocol := fun he => hnodup.1 (he ▸ List.mem_map_of_mem hp)
      simpa [hq] using ih hnodup.2 hp

/-- The entry endpoints of an admitted node are read back as they were written,
when it has any, exactly if its address has no colon. -/
theorem entryEndpoints_roundTrip_iff {w : SingBoxNodeWebhook} {parseIP : String → Bool} {n : TaggedNode}
    (h : w.validateSingBoxNode parseIP n = []) :
    (∀ p ∈ n.spec.supportedProtocols,
      findEntryEndpoint (entryEndpoints n.toSingBoxNode) p.protocol = some (n.spec.address, (p.port : Int))) ↔
      n.spec.supportedProtocols = [] ∨ ':' ∉ n.spec.address.toList := by
  have hnodup := (validateSingBoxNode_eq_nil.1 h).protocols
  constructor
  · intro hread
    by_cases hc : ':' ∈ n.spec.address.toList
    · refine .inl (List.eq_nil_iff_forall_not_mem.2 fun p hp => ?_)
      have hp' := hread p hp
      rw [findEntryEndpoint_entryEndpoints hnodup hp, if_pos hc] at hp'
      cases hp'
    · exact .inr hc
  · rintro (hnil | hc) p hp
    · rw [hnil] at hp
      cases hp
    · rw [findEntryEndpoint_entryEndpoints hnodup hp, if_neg hc]

/-! ## Ports -/

/-- `ExtractNodePorts`. -/
def extractNodePorts (node : SingBoxNode) : List Nat :=
  node.spec.supportedProtocols.map ProtocolConfig.port ++
    if node.hasRole .outbound then [effectiveRelayPort node] else []

def listenPorts (config : SingboxConfig) : List Nat := config.inbounds.map Inbound.listenPort

theorem findProtocolPort_mem {n : SingBoxNode} {protocol : Protocol} (h : findProtocolPort n protocol ≠ 0) :
    findProtocolPort n protocol ∈ n.spec.supportedProtocols.map ProtocolConfig.port := by
  unfold findProtocolPort at h ⊢
  cases hf : n.spec.supportedProtocols.find? fun p => p.protocol = protocol with
  | none => simp [hf] at h
  | some p => exact List.mem_map_of_mem (List.mem_of_find?_eq_some hf)

theorem nodup_extractNodePorts {n : SingBoxNode}
    (hports : (n.spec.supportedProtocols.map ProtocolConfig.port).Nodup) :
    (extractNodePorts n).Nodup ↔
      (n.hasRole .outbound = true → effectiveRelayPort n ∉ n.spec.supportedProtocols.map ProtocolConfig.port) := by
  unfold extractNodePorts
  by_cases ho : n.hasRole .outbound = true
  · rw [if_pos ho, List.nodup_append_comm, List.singleton_append, List.nodup_cons]
    simp [hports, ho]
  · simp [ho, hports]

section
variable [Library] [MapOrder]

/-- What a config listens on is among the ports of its node, in their order. -/
theorem listenPorts_sublist (input : Input) :
    (listenPorts (computeConfig input)).Sublist (extractNodePorts input.node) := by
  unfold listenPorts extractNodePorts
  rw [computeConfig_inbounds, clientInbounds_inbounds, List.map_append]
  refine List.Sublist.append ?_ ?_
  · -- at most one client inbound, on the port of a protocol
    by_cases hi : input.node.hasRole .inbound = true
    · by_cases hp : clientPort input ≠ 0 ∧ clientUsers input ≠ []
      · rw [if_pos hi, if_pos hp, List.map_singleton, List.singleton_sublist]
        exact findProtocolPort_mem hp.1
      · simp [hi, hp]
    · simp [hi]
  · by_cases ho : input.node.hasRole .outbound = true <;> simp [ho, buildRelayInbound]

/-- The ports of an admitted node and those its configs listen on do not clash,
exactly if the relay of an outbound node listens on none of the protocols' ports. -/
theorem nodup_ports_iff {w : SingBoxNodeWebhook} {parseIP : String → Bool} {n : TaggedNode}
    (h : w.validateSingBoxNode parseIP n = []) :
    ((∀ input : Input, input.node = n.toSingBoxNode → (listenPorts (computeConfig input)).Nodup) ∧
      (extractNodePorts n.toSingBoxNode).Nodup) ↔
      (n.hasRole .outbound = true →
        effectiveRelayPort n.toSingBoxNode ∉ n.spec.supportedProtocols.map ProtocolConfig.port) := by
  rw [← nodup_extractNodePorts (validateSingBoxNode_eq_nil.1 h).ports]
  constructor
  · exact fun hports => hports.2
  · intro hports
    refine ⟨fun input hnode => ?_, hports⟩
    rw [← hnode] at hports
    exact hports.sublist (listenPorts_sublist input)

end

/-! ### An IPv6 address -/

def harbourNode : TaggedNode where
  metadata := .named "harbour"
  spec :=
    { SingBoxNodeSpec.bare with
      address := "2001:db8::1", region := "is", roles := [.inbound],
      supportedProtocols := [Port.https.listener .hysteria2] }

/-- Both checks of an address let it through. -/
theorem harbourNode_admitted (parseIP : String → Bool) :
    SingBoxNodeWebhook.validateSingBoxNode {} parseIP harbourNode = [] := by
  have haddress : addressErrors parseIP harbourNode.spec.address = [] :=
    addressErrors_eq_nil.2 ⟨by decide, .inr (by decide)⟩
  rw [SingBoxNodeWebhook.validateSingBoxNode, haddress]
  decide

theorem not_forall_entryEndpoints_roundTrip :
    ¬ ∀ (w : SingBoxNodeWebhook) (parseIP : String → Bool) (n : TaggedNode), w.validateSingBoxNode parseIP n = [] →
      ∀ p ∈ n.spec.supportedProtocols,
        findEntryEndpoint (entryEndpoints n.toSingBoxNode) p.protocol = some (n.spec.address, (p.port : Int)) := by
  intro h
  have hread := h {} (fun _ => true) harbourNode (harbourNode_admitted _) _ List.mem_cons_self
  revert hread
  decide

theorem entryEndpoints_roundTrip_iff_harbour :
    SingBoxNodeWebhook.validateSingBoxNode {} (fun _ => true) harbourNode = [] ∧
      ¬ ∀ p ∈ harbourNode.spec.supportedProtocols,
        findEntryEndpoint (entryEndpoints harbourNode.toSingBoxNode) p.protocol =
          some (harbourNode.spec.address, (p.port : Int)) := by
  have h := harbourNode_admitted fun _ => true
  refine ⟨h, ?_⟩
  rw [entryEndpoints_roundTrip_iff h]
  rintro (hnil | hc)
  · cases hnil
  · exact absurd hc (by decide)

/-! ### The port of the relay -/


/-- Its relay port is not declared, so the relay listens on the fallback. -/
def quayNode : TaggedNode where
  metadata := .named "quay"
  spec :=
    { SingBoxNodeSpec.bare with
      address := "203.0.113.40", region := "is", roles := [.inbound, .outbound],
      supportedProtocols := [Port.container.listener .hysteria2] }

def grace : User := { metadata := .named "grace", spec := { authSecret := { name := "grace-auth" } } }

theorem quayNode_admitted : SingBoxNodeWebhook.validateSingBoxNode {} (fun _ => true) quayNode = [] := by decide

section
attribute [local instance] plainLibrary storedOrder

/-- Two inbounds of one config listen on one port, and the port is listed twice. -/
theorem not_forall_nodup_ports :
    (¬ ∀ [Library] [MapOrder] (w : SingBoxNodeWebhook) (parseIP : String → Bool) (n : TaggedNode),
      w.validateSingBoxNode parseIP n = [] → ∀ input : Input, input.node = n.toSingBoxNode →
        (listenPorts (computeConfig input)).Nodup) ∧
    ¬ ∀ (w : SingBoxNodeWebhook) (parseIP : String → Bool) (n : TaggedNode),
      w.validateSingBoxNode parseIP n = [] → (extractNodePorts n.toSingBoxNode).Nodup := by
  constructor
  · intro h
    have hports := h {} (fun _ => true) quayNode quayNode_admitted
      { node := quayNode.toSingBoxNode, users := [grace] } rfl
    revert hports
    decide
  · intro h
    have hports := h {} (fun _ => true) quayNode quayNode_admitted
    revert hports
    decide

theorem nodup_ports_iff_quay :
    SingBoxNodeWebhook.validateSingBoxNode {} (fun _ => true) quayNode = [] ∧
      ¬ ((∀ input : Input, input.node = quayNode.toSingBoxNode → (listenPorts (computeConfig input)).Nodup) ∧
        (extractNodePorts quayNode.toSingBoxNode).Nodup) := by
  refine ⟨quayNode_admitted, ?_⟩
  rw [nodup_ports_iff quayNode_admitted]
  decide

end

end SingboxOperator
