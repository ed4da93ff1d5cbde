import SingboxOperator.ApiServer.Paths
import SingboxOperator.Controller.Pod
/-!
# TLS from the Secret to the client

Three functions have to agree on TLS. The engine writes the paths of a
certificate into the inbound of a node, `reconcilePod` mounts a Secret under
them, and `resolveTLSServerName` reads the name for the clients out of that
Secret. The engine looks at the protocol clients use, the other two at all the
protocols of the node; and only the latter two know whether there is a Secret.
-/
open SingboxOperator.Lib

namespace SingboxOperator

/-- The protocols with a `tls` block, on both ends. -/
def Protocol.usesTLS (protocol : Protocol) : Bool :=
  protocol = .hysteria2 || protocol = .naive || protocol = .anytls || protocol = .tuic

/-! ## Files -/

/-- The files a config makes sing-box open. -/
def SingboxConfig.files (cfg : SingboxConfig) : List String :=
  cfg.inbounds.flatMap fun ib => ib.tls.toList.flatMap fun t => [t.certificatePath, t.keyPath]

/-- `reconcileConfigMap` writes one key. -/
def VolumeSource.files : VolumeSource → List String
  | .configMap _ => ["config.json"]
  | .secret _ items => items.map Prod.snd

/-- What a container finds under its mounts. -/
def Pod.files (pod : Pod) (container : Container) : List String :=
  container.volumeMounts.flatMap fun m =>
    (pod.spec.volumes.filter (·.name = m.name)).flatMap fun v =>
      v.source.files.map fun file => m.mountPath ++ "/" ++ file

/-- Every file sing-box is told to open is there: the one it is started with, and those that one names. -/
def Pod.Supplies (pod : Pod) (cfg : SingboxConfig) : Prop :=
  ∀ container ∈ pod.spec.containers,
    (∀ file, container.args = ["run", "-c", file] → file ∈ pod.files container) ∧
      ∀ file ∈ cfg.files, file ∈ pod.files container

def certificateFiles : List String := ["/etc/sing-box/tls/tls.crt", "/etc/sing-box/tls/tls.key"]

theorem files_newPod (flags : OperatorFlags) (node : HostedNode) (configHash : String) {container : Container}
    (h : container ∈ (newPod flags node configHash).spec.containers) :
    (newPod flags node configHash).files container =
      "/etc/sing-box/config.json" :: if (tlsSecret flags node).isSome then certificateFiles else [] := by
  obtain rfl := List.mem_singleton.1 h
  simp only [Pod.files, newPod, volumeMounts, volumes]
  cases tlsSecret flags node with
  | none => rfl
  | some secret => rfl

theorem tls_buildInboundEntry (protocol : Protocol) (tag : String) (port : Nat) (users : List UserEntry)
    {t : InboundTLS} :
    (buildInboundEntry protocol tag port users).tls = some t ↔ protocol.usesTLS = true ∧
      t = { certificatePath := "/etc/sing-box/tls/tls.crt", keyPath := "/etc/sing-box/tls/tls.key" } := by
  change (if protocol.usesTLS = true then some _ else none) = some t ↔ _
  by_cases h : protocol.usesTLS = true
  · simp [h, eq_comm]
  · simp [h]

section
variable [Library] [MapOrder] {flags : Flags} {c : Cluster} {N : SingBoxNode}

/-- A config names certificate files when its client inbound is one for a TLS protocol. -/
theorem mem_files_view {file : String} :
    file ∈ (computeConfig (c.view flags N)).files ↔
      (effectiveInboundProtocol N).usesTLS = true ∧ file ∈ certificateFiles ∧
        ∃ ib ∈ (computeConfig (c.view flags N)).inbounds, ib.tag = inboundTag N := by
  simp only [SingboxConfig.files, List.mem_flatMap, Option.mem_toList]
  constructor
  · rintro ⟨ib, hib, t, ht, hfile⟩
    rcases Cluster.mem_inbounds_view.1 hib with ⟨_, _, _, rfl⟩ | ⟨_, rfl⟩
    · obtain ⟨htls, rfl⟩ := (tls_buildInboundEntry ..).1 ht
      exact ⟨htls, hfile, _, hib, rfl⟩
    · cases ht
  · rintro ⟨htls, hfile, ib, hib, htag⟩
    rcases Cluster.mem_inbounds_view.1 hib with ⟨_, _, _, rfl⟩ | ⟨_, rfl⟩
    · exact ⟨_, hib, _, (tls_buildInboundEntry ..).2 ⟨htls, rfl⟩, hfile⟩
    · exact absurd htag.symm (inboundTag_ne_relayTag _)

/-- The client inbound listens on a port of the protocol clients use. -/
theorem findProtocolPort_of_tag {ib : Inbound} (hib : ib ∈ (computeConfig (c.view flags N)).inbounds)
    (htag : ib.tag = inboundTag N) : findProtocolPort N (effectiveInboundProtocol N) ≠ 0 := by
  rcases Cluster.mem_inbounds_view.1 hib with ⟨_, hport, _⟩ | ⟨_, rfl⟩
  · exact hport
  · exact absurd htag.symm (inboundTag_ne_relayTag _)

omit [Library] [MapOrder] in
/-- The protocol clients use is one of those `needsTLS` looks at. -/
theorem needsTLS_of_usesTLS (htls : (effectiveInboundProtocol N).usesTLS = true)
    (hport : findProtocolPort N (effectiveInboundProtocol N) ≠ 0) : needsTLS N = true := by
  have hsupported := supportsProtocol_iff.2 hport
  simp only [supportsProtocol, List.any_eq_true, decide_eq_true_eq] at hsupported
  obtain ⟨p, hp, hproto⟩ := hsupported
  rw [needsTLS, List.any_eq_true]
  refine ⟨p, hp, ?_⟩
  rw [hproto]
  revert htls
  cases effectiveInboundProtocol N <;> decide

end

/-- A Secret is configured, on the node or for all nodes. -/
def TLSConfigured (flags : OperatorFlags) (node : HostedNode) : Prop :=
  node.tlsSecretName ≠ "" ∨ flags.defaultTLSSecret ≠ ""

theorem tlsSecret_isSome {flags : OperatorFlags} {node : HostedNode} :
    (tlsSecret flags node).isSome = true ↔ needsTLS node.toSingBoxNode = true ∧ TLSConfigured flags node := by
  unfold tlsSecret TLSConfigured
  by_cases hneeds : needsTLS node.toSingBoxNode = true
  · by_cases hname : node.tlsSecretName = "" <;> by_cases hdefault : flags.defaultTLSSecret = "" <;>
      simp [hneeds, hname, hdefault]
  · simp [hneeds]

/-- The Pod of a node has every file sing-box is told to open, unless the config
names a certificate and no Secret is configured. -/
theorem pod_supplies_iff [Library] [MapOrder] {flags : OperatorFlags} {c : Cluster} {node : HostedNode} {input : Input}
    (h : collectInput flags.toFlags c node.toSingBoxNode = .ok input) (configHash : String) :
    (newPod flags node configHash).Supplies (computeConfig input) ↔
      ((effectiveInboundProtocol node.toSingBoxNode).usesTLS = true →
        (∃ ib ∈ (computeConfig input).inbounds, ib.tag = inboundTag node.toSingBoxNode) →
          TLSConfigured flags node) := by
  obtain rfl := collectInput_ok h
  constructor
  · intro hsupplies htls hclient
    have hcert : "/etc/sing-box/tls/tls.crt" ∈ certificateFiles := List.mem_cons_self
    have hmem := (hsupplies _ (List.mem_singleton_self _)).2 _ (mem_files_view.2 ⟨htls, hcert, hclient⟩)
    rw [files_newPod flags node configHash (List.mem_singleton_self _)] at hmem
    by_cases hsecret : (tlsSecret flags node).isSome = true
    · exact (tlsSecret_isSome.1 hsecret).2
    · rw [if_neg hsecret] at hmem
      exact absurd hmem (by decide)
  · intro hconfigured container hcontainer
    rw [files_newPod flags node configHash hcontainer]
    refine ⟨fun file hargs => ?_, fun file hfile => ?_⟩
    · obtain rfl := List.mem_singleton.1 hcontainer
      obtain rfl : "/etc/sing-box/config.json" = file := by simpa using hargs
      exact List.mem_cons_self
    · obtain ⟨htls, hcert, ib, hib, htag⟩ := mem_files_view.1 hfile
      have hneeds := needsTLS_of_usesTLS htls (findProtocolPort_of_tag hib htag)
      rw [if_pos (tlsSecret_isSome.2 ⟨hneeds, hconfigured htls ⟨ib, hib, htag⟩⟩)]
      exact List.mem_cons_of_mem _ hcert

/-! ## Names -/

section
variable (certDNSNames : String → Option (List String))

/-- `certDNSNames` stands for `pem.Decode` and `x509.ParseCertificate`: the DNS
names of a certificate, none when either of them fails. -/
def resolveTLSServerName (flags : OperatorFlags) (c : Cluster) (node : HostedNode) : String :=
  if !needsTLS node.toSingBoxNode then ""
  else
    let secretName := if node.tlsSecretName = "" then flags.defaultTLSSecret else node.tlsSecretName
    if secretName = "" then ""
    else
      match c.secret c.ns secretName with
      | .error _ => ""
      | .ok data =>
        let certPEM := data.get "tls.crt" ""
        if certPEM = "" then ""
        else
          match certDNSNames certPEM with
          | none => ""
          | some names => (names.find? (· ≠ "")).getD ""

/-- The first name of the certificate in a Secret. -/
def certName (c : Cluster) (secret : String) : Option String :=
  match c.secret c.ns secret with
  | .error _ => none
  | .ok data =>
    if data.get "tls.crt" "" = "" then none else (certDNSNames (data.get "tls.crt" "")).bind (·.find? (· ≠ ""))

/-- The Pod mounts a Secret whose certificate is for this name. -/
def Pod.HasCertFor (c : Cluster) (pod : Pod) (name : String) : Prop :=
  ∃ v ∈ pod.spec.volumes, ∃ secret items, v.source = .secret secret items ∧ certName certDNSNames c secret = some name

theorem certName_ne {c : Cluster} {secret name : String} (h : certName certDNSNames c secret = some name) :
    name ≠ "" := by
  unfold certName at h
  split at h
  · cases h
  · split at h
    · cases h
    · obtain ⟨names, _, hfind⟩ := Option.bind_eq_some_iff.1 h
      simpa using List.find?_some hfind

/-- It is the Secret the Pod mounts whose certificate is read. -/
theorem resolveTLSServerName_eq (flags : OperatorFlags) (c : Cluster) (node : HostedNode) :
    resolveTLSServerName certDNSNames flags c node =
      ((tlsSecret flags node).bind (certName certDNSNames c)).getD "" := by
  unfold resolveTLSServerName tlsSecret
  by_cases hneeds : needsTLS node.toSingBoxNode = true
  · simp only [hneeds, Bool.not_true, Bool.false_eq_true, if_false, if_true]
    generalize (if node.tlsSecretName = "" then flags.defaultTLSSecret else node.tlsSecretName) = secret
    by_cases hname : secret = ""
    · simp [hname]
    · simp only [hname, if_false, ne_eq, not_false_eq_true, if_true, Option.bind_some, certName]
      cases c.secret c.ns secret with
      | error => rfl
      | ok data =>
        by_cases hempty : data.get "tls.crt" "" = ""
        · simp [hempty]
        · cases hnames : certDNSNames (data.get "tls.crt" "") <;> simp [hempty, hnames]
  · simp [hneeds]

theorem hasCertFor_newPod {flags : OperatorFlags} {c : Cluster} {node : HostedNode} {configHash name : String} :
    (newPod flags node configHash).HasCertFor certDNSNames c name ↔
      (tlsSecret flags node).bind (certName certDNSNames c) = some name := by
  simp only [Pod.HasCertFor, newPod, volumes]
  cases tlsSecret flags node with
  | none => simp
  | some secret => simp

theorem tls_buildProxyOutbound (tag address : String) (port : Int) (protocol : Protocol) (userName target name : String)
    (cred : UserCredential) {tls : OutboundTLS} :
    (buildProxyOutbound tag address port protocol userName target name cred).tls = some tls ↔ protocol.usesTLS = true ∧
      tls = if name ≠ "" then { serverName := some name } else { insecure := some true } := by
  change (if protocol.usesTLS = true then some _ else none) = some tls ↔ _
  by_cases h : protocol.usesTLS = true
  · simp [h, eq_comm]
  · simp [h]

section
variable {certDNSNames} [Library] [MapOrder] {c : Cluster} {requestUUID : String} {u : User} {cred : UserCredential}
  {obs : List ClientOutbound} {ob : ProxyOutbound} {flags : OperatorFlags} {node : HostedNode}

/-- With a fresh status, a client checks for a name exactly when the Pod of the
entry node has a certificate for it, and checks nothing exactly when there is no name to check. -/
theorem client_verifies_iff (hm : matchUser c requestUUID = some (u, cred))
    (hh : handleClientConfig c requestUUID = .ok obs) (hob : .proxy ob ∈ obs) (hI : node.toSingBoxNode ∈ c.nodes)
    {t : String} (htag : ob.tag = pathTag t node.name)
    (hfresh : node.status.tlsServerName = resolveTLSServerName certDNSNames flags c node) (configHash : String) :
    (∀ name, (∃ tls, ob.tls = some tls ∧ tls.serverName = some name) ↔
      (effectiveInboundProtocol node.toSingBoxNode).usesTLS = true ∧
        (newPod flags node configHash).HasCertFor certDNSNames c name) ∧
    ((∃ tls, ob.tls = some tls ∧ tls.insecure = some true) ↔
      (effectiveInboundProtocol node.toSingBoxNode).usesTLS = true ∧
        ∀ name, ¬ (newPod flags node configHash).HasCertFor certDNSNames c name) := by
  obtain ⟨cin, hin, hb⟩ := handleClientConfig_ok hm hh
  obtain ⟨_, _, _, _, _, address, port, _, rfl⟩ := proxy_path hin hb hob hI htag
  have hname : ∀ name, (tlsSecret flags node).bind (certName certDNSNames c) = some name → name ≠ "" := by
    intro name h
    obtain ⟨secret, _, hcert⟩ := Option.bind_eq_some_iff.1 h
    exact certName_ne certDNSNames hcert
  simp only [hfresh, resolveTLSServerName_eq, hasCertFor_newPod, tls_buildProxyOutbound]
  cases hcert : (tlsSecret flags node).bind (certName certDNSNames c) with
  | none => simp
  | some name => simp [hname name hcert]

end

end

/-! ### An entry node with and without a Secret -/

/-- The entry node of `pathCluster`, on a host. -/
def hostedGate (tlsSecretName : String) (tlsServerName : String) : HostedNode :=
  { gate with nodeRef := "host-1", tlsSecretName, status := { gate.status with tlsServerName } }

/-- `gate-tls` has a certificate for `gate.test`. -/
def gateTLSCluster : Cluster :=
  { pathCluster with
    nodes := [(hostedGate "gate-tls" "gate.test").toSingBoxNode, hop]
    secret := fun ns name =>
      if name = "gate-tls" then .ok ((∅ : GoMap String String).insert "tls.crt" "pem") else pathCluster.secret ns name
    nodes_nodup := by decide }

def gateDNSNames (text : String) : Option (List String) := if text = "pem" then some ["", "gate.test"] else none

section
attribute [local instance] plainLibrary storedOrder

/-- Alice has an entry on `gate`, whose Pod has a certificate only if a Secret is configured. -/
theorem pod_supplies_iff_gate :
    ¬ (newPod {} (hostedGate "" "") "cafe").Supplies (computeConfig (pathCluster.view {} gate)) ∧
      (newPod {} (hostedGate "gate-tls" "") "cafe").Supplies (computeConfig (pathCluster.view {} gate)) := by
  have hentry : ∃ ib ∈ (computeConfig (pathCluster.view {} gate)).inbounds, ib.tag = inboundTag gate := by
    obtain ⟨users, _, hib⟩ := Cluster.virtualEntry_mem (c := pathCluster) (I := gate) (by decide) (by decide) hop_target
      (u := alice) (List.mem_singleton_self _) (by decide)
    exact ⟨_, hib, rfl⟩
  have hbare : (newPod {} (hostedGate "" "") "cafe").Supplies (computeConfig (pathCluster.view {} gate)) ↔ _ :=
    pod_supplies_iff (pathCluster_collected gate) "cafe"
  have hnamed : (newPod {} (hostedGate "gate-tls" "") "cafe").Supplies (computeConfig (pathCluster.view {} gate)) ↔ _ :=
    pod_supplies_iff (pathCluster_collected gate) "cafe"
  refine ⟨fun hsupplies => ?_, hnamed.2 fun _ _ => .inl (by decide)⟩
  rcases hbare.1 hsupplies (by decide) hentry with h | h <;> exact h rfl

theorem gateTLS_answered : ∃ obs, handleClientConfig gateTLSCluster aliceUUID = .ok obs ∧
    .proxy (buildProxyOutbound (pathTag "hop" "gate") "gate.test" 443 .hysteria2 "alice" "hop" "gate.test"
      ⟨aliceUUID⟩) ∈ obs :=
  ⟨_, rfl, List.mem_cons_self⟩

theorem client_verifies_iff_gate : ∃ obs ob, handleClientConfig gateTLSCluster aliceUUID = .ok obs ∧ .proxy ob ∈ obs ∧
    (∃ tls, ob.tls = some tls ∧ tls.serverName = some "gate.test") ∧
    (newPod {} (hostedGate "gate-tls" "gate.test") "cafe").HasCertFor gateDNSNames gateTLSCluster "gate.test" := by
  obtain ⟨obs, hh, hob⟩ := gateTLS_answered
  have hfresh : (hostedGate "gate-tls" "gate.test").status.tlsServerName =
      resolveTLSServerName gateDNSNames {} gateTLSCluster (hostedGate "gate-tls" "gate.test") := by decide
  have hiff := (client_verifies_iff (c := gateTLSCluster) (u := alice) (t := "hop") rfl hh hob List.mem_cons_self rfl
    hfresh "cafe").1 "gate.test"
  have htls : ∃ tls, (buildProxyOutbound (pathTag "hop" "gate") "gate.test" 443 .hysteria2 "alice" "hop" "gate.test"
      ⟨aliceUUID⟩).tls = some tls ∧ tls.serverName = some "gate.test" := ⟨_, rfl, rfl⟩
  exact ⟨obs, _, hh, hob, htls, (hiff.1 htls).2⟩

end

end SingboxOperator
