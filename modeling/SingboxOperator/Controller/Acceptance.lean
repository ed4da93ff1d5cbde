import SingboxOperator.Controller.Targets
import SingboxOperator.Lib.GoStrings
/-!
# Accepted external outbounds

`ExternalOutboundReconciler.Reconcile` reports in the `Accepted` condition
whether an ExternalOutbound is coherent and its credentials are healthy. The
nodes of its region do not read that condition: `collectInput` and the engine
have checks of their own, and they check less.
-/
open SingboxOperator.Lib

namespace SingboxOperator

def ExternalProtocol.name : ExternalProtocol → String
  | .socks5 => "socks5"
  | .http => "http"
  | .shadowsocks => "shadowsocks"
  | .trojan => "trojan"
  | .hysteria2 => "hysteria2"
  | .tuic => "tuic"
  | .anytls => "anytls"

/-! ## The reconciler -/

/-- A failed check: a word for the condition and a text for people. -/
structure ExternalOutboundViolation where
  reason : String
  message : String
  deriving DecidableEq, Repr

def validShadowsocksMethods : List String :=
  ["aes-128-gcm", "aes-256-gcm", "chacha20-ietf-poly1305", "xchacha20-ietf-poly1305", "2022-blake3-aes-128-gcm",
    "2022-blake3-aes-256-gcm", "2022-blake3-chacha20-poly1305", "none"]

/-- The part of `specViolation` about `spec.tls`. -/
def tlsViolation (eob : ExternalOutbound) : Option ExternalOutboundViolation :=
  let protocol := eob.spec.protocol.name
  match eob.spec.protocol with
  | .trojan | .hysteria2 | .tuic | .anytls =>
    match eob.spec.tls with
    | none => some ⟨"InvalidSpec", "spec.tls is required for protocol " ++ quote protocol⟩
    | some tls =>
      if tls.serverName = "" && !tls.insecure then
        some ⟨"InvalidSpec", "spec.tls.serverName is required unless spec.tls.insecure is true"⟩
      else none
  | .socks5 | .shadowsocks =>
    if eob.spec.tls.isSome then some ⟨"InvalidSpec", "spec.tls is not allowed for protocol " ++ quote protocol⟩ else none
  | .http => none

def specViolation (eob : ExternalOutbound) : Option ExternalOutboundViolation :=
  (tlsViolation eob).or <|
    if eob.spec.hysteria2.isSome && eob.spec.protocol ≠ .hysteria2 then
      some ⟨"InvalidSpec", "spec.hysteria2 is only allowed when spec.protocol is hysteria2"⟩
    else if eob.spec.credentialsSecretRef.isNone && eob.spec.protocol ≠ .socks5 && eob.spec.protocol ≠ .http then
      some ⟨"InvalidSpec", "spec.credentialsSecretRef is required for protocol " ++ quote eob.spec.protocol.name⟩
    else none

/-- Any SingBoxNode of that name, whatever its roles and its region. -/
def nameConflict (c : Cluster) (eob : ExternalOutbound) : Option ExternalOutboundViolation :=
  if c.nodes.any fun n => n.name = eob.name then
    some ⟨"NameConflict", "a SingBoxNode named " ++ quote eob.name ++ " exists in namespace " ++ quote c.ns ++
      " and wins the outbound name"⟩
  else none

/-- The Secret keys that must be there and not be empty. -/
def requiredCredentialKeys (eob : ExternalOutbound) : List String :=
  match eob.spec.protocol with
  | .shadowsocks => [credKeyMethod, credKeyPassword]
  | .trojan | .anytls => [credKeyPassword]
  | .hysteria2 => credKeyPassword :: if (eob.spec.hysteria2.map (·.obfs)).getD false then [credKeyObfsPassword] else []
  | .tuic => [credKeyUUID, credKeyPassword]
  | .socks5 | .http => []

/-- The part of `credentialViolation` about the data of the Secret `ref`. -/
def secretViolation (eob : ExternalOutbound) (ref : String) (data : GoMap String String) :
    Option ExternalOutboundViolation :=
  if eob.spec.protocol = .socks5 || eob.spec.protocol = .http then
    let hasUsername : Bool := data.get credKeyUsername "" ≠ ""
    let hasPassword : Bool := data.get credKeyPassword "" ≠ ""
    if hasUsername ≠ hasPassword then
      some ⟨"SecretKeyMissing", "credentials secret " ++ quote ref ++ " must set both " ++ quote credKeyUsername ++
        " and " ++ quote credKeyPassword ++ " or neither"⟩
    else none
  else
    match (requiredCredentialKeys eob).find? fun key => data.get key "" = "" with
    | some key =>
      some ⟨"SecretKeyMissing", "credentials secret " ++ quote ref ++ " is missing required key " ++ quote key ++
        " for protocol " ++ quote eob.spec.protocol.name⟩
    | none =>
      let method := data.get credKeyMethod ""
      if eob.spec.protocol = .shadowsocks && method ∉ validShadowsocksMethods then
        some ⟨"InvalidMethod", "shadowsocks method " ++ quote method ++ " in credentials secret " ++ quote ref ++
          " is not supported"⟩
      else none

/-- A Secret that does not exist is a violation, one that cannot be read an error. -/
def credentialViolation (c : Cluster) (eob : ExternalOutbound) : Except ApiError (Option ExternalOutboundViolation) :=
  match eob.spec.credentialsSecretRef with
  | none => .ok none
  | some ref =>
    match c.secret c.ns ref with
    | .error err =>
      if err.notFound then
        .ok (some ⟨"SecretNotFound",
          "credentials secret " ++ quote ref ++ " not found in namespace " ++ quote c.ns⟩)
      else .error err
    | .ok data => .ok (secretViolation eob ref data)

def acceptedCondition : Option ExternalOutboundViolation → StatusCondition
  | some violation =>
    { type := "Accepted", status := "False", reason := violation.reason, message := violation.message }
  | none => { type := "Accepted", status := "True", reason := "Valid", message := "ExternalOutbound spec is valid" }

/-- The condition a run writes; nothing for an ExternalOutbound that is gone. -/
def reconcileExternalOutbound (c : Cluster) (name : String) : Except ApiError (Option StatusCondition) :=
  match findExternalOutbound c.externalOutbounds name with
  | none => .ok none
  | some eob =>
    match (specViolation eob).or (nameConflict c eob) with
    | some violation => .ok (some (acceptedCondition (some violation)))
    | none => do
      let violation ← credentialViolation c eob
      return some (acceptedCondition violation)

/-- The reconciler would report `Accepted=True`. -/
def Accepted (c : Cluster) (e : ExternalOutbound) : Prop :=
  ∃ cond, reconcileExternalOutbound c e.name = .ok (some cond) ∧ cond.type = "Accepted" ∧ cond.status = "True"

/-! ## What acceptance asks for -/

theorem nameConflict_eq_none {c : Cluster} {e : ExternalOutbound} :
    nameConflict c e = none ↔ ∀ n ∈ c.nodes, n.name ≠ e.name := by
  simp [nameConflict]

theorem accepted_iff {c : Cluster} {e : ExternalOutbound} (he : e ∈ c.externalOutbounds) :
    Accepted c e ↔
      specViolation e = none ∧ (∀ n ∈ c.nodes, n.name ≠ e.name) ∧ credentialViolation c e = .ok none := by
  have hfind : findExternalOutbound c.externalOutbounds e.name = some e :=
    find?_eq_some_of_unique he (by simp) fun e' he' hn => Cluster.external_unique he' he (by simpa using hn)
  simp only [Accepted, reconcileExternalOutbound, hfind, ← nameConflict_eq_none]
  cases hs : specViolation e with
  | some v => simp [acceptedCondition]
  | none =>
    cases hn : nameConflict c e with
    | some v => simp [acceptedCondition]
    | none =>
      cases hc : credentialViolation c e with
      | error err => simp [bind, Except.bind]
      | ok v => cases v <;> simp [acceptedCondition, bind, Except.bind, pure, Except.pure]

/-- The engine asks for the keys the reconciler asks for. -/
theorem hasRequiredExternalCreds_eq (e : ExternalOutbound) (creds : ExternalCredential) :
    hasRequiredExternalCreds e creds = (requiredCredentialKeys e).all fun k => creds.get k "" ≠ "" := by
  cases hp : e.spec.protocol with
  | hysteria2 =>
    cases ho : e.spec.hysteria2 with
    | none => simp [hasRequiredExternalCreds, requiredCredentialKeys, hp, ho]
    | some opts => cases hobfs : opts.obfs <;> simp [hasRequiredExternalCreds, requiredCredentialKeys, hp, ho, hobfs]
  | _ => simp [hasRequiredExternalCreds, requiredCredentialKeys, hp]

/-- The values of a Secret that rendering does not look at: SOCKS and HTTP
credentials come in pairs, and the Shadowsocks cipher is a known one. -/
def ValuesFit (e : ExternalOutbound) (data : GoMap String String) : Prop :=
  (e.spec.protocol = .socks5 ∨ e.spec.protocol = .http →
      (data.get credKeyUsername "" = "" ↔ data.get credKeyPassword "" = "")) ∧
    (e.spec.protocol = .shadowsocks → data.get credKeyMethod "" ∈ validShadowsocksMethods)

theorem secretViolation_eq_none {e : ExternalOutbound} {ref : String} {data : GoMap String String} :
    secretViolation e ref data = none ↔
      (∀ key ∈ requiredCredentialKeys e, data.get key "" ≠ "") ∧ ValuesFit e data := by
  unfold secretViolation ValuesFit
  by_cases hpair : e.spec.protocol = .socks5 ∨ e.spec.protocol = .http
  · have hkeys : requiredCredentialKeys e = [] := by rcases hpair with h | h <;> simp [requiredCredentialKeys, h]
    have hss : e.spec.protocol ≠ .shadowsocks := by rcases hpair with h | h <;> simp [h]
    simp only [← Bool.decide_or, hpair, decide_true, if_true, hkeys, List.not_mem_nil, false_imp_iff, implies_true,
      true_and, true_imp_iff, hss, and_true]
    by_cases hu : data.get credKeyUsername "" = "" <;> by_cases hw : data.get credKeyPassword "" = "" <;> simp [hu, hw]
  · simp only [← Bool.decide_or, hpair, decide_false, false_imp_iff, true_and]
    cases hf : (requiredCredentialKeys e).find? fun key => data.get key "" = "" with
    | some key =>
      have hmem := List.mem_of_find?_eq_some hf
      have hempty : data.get key "" = "" := by simpa using List.find?_some hf
      exact ⟨fun h => by simp at h, fun h => absurd hempty (h.1 key hmem)⟩
    | none =>
      have hall : ∀ key ∈ requiredCredentialKeys e, data.get key "" ≠ "" := by simpa using List.find?_eq_none.1 hf
      rw [and_iff_right hall]
      by_cases hss : e.spec.protocol = .shadowsocks <;> simp [hss]

theorem credentialViolation_eq_ok_none {c : Cluster} {e : ExternalOutbound} :
    credentialViolation c e = .ok none ↔
      ∀ ref, e.spec.credentialsSecretRef = some ref →
        ∃ data, c.secret c.ns ref = .ok data ∧ secretViolation e ref data = none := by
  unfold credentialViolation
  cases e.spec.credentialsSecretRef with
  | none => simp
  | some ref =>
    cases hs : c.secret c.ns ref with
    | error err => by_cases hn : err.notFound = true <;> simp [hn, hs]
    | ok data => simp [hs]

namespace Cluster
variable {c : Cluster} {I : SingBoxNode} {e : ExternalOutbound}

theorem get_externalCred [MapOrder] {ref : String} {data : GoMap String String}
    (hr : e.spec.credentialsSecretRef = some ref) (hs : c.secret c.ns ref = .ok data) (k : String) :
    (c.externalCred e).get k "" = data.get k "" := by
  rw [GoMap.get, GoMap.get, lookup_externalCred, hr, Option.bind_some, hs]
  cases h : data.lookup k with
  | none => simp [Except.toOption, h]
  | some v => by_cases hv : v = "" <;> simp [Except.toOption, h, hv, Option.filter]

/-- What acceptance asks for and rendering does not. -/
structure Coherent (c : Cluster) (e : ExternalOutbound) : Prop where
  spec : specViolation e = none
  name_free : ∀ n ∈ c.nodes, n.name ≠ e.name
  secret : ∀ ref, e.spec.credentialsSecretRef = some ref → ∃ data, c.secret c.ns ref = .ok data ∧ ValuesFit e data

/-- An accepted external outbound is coherent and has every key it needs. -/
theorem accepted_iff_coherent [MapOrder] (he : e ∈ c.externalOutbounds) :
    Accepted c e ↔ hasRequiredExternalCreds e (c.externalCred e) = true ∧ c.Coherent e := by
  rw [accepted_iff he, credentialViolation_eq_ok_none, hasRequiredExternalCreds_eq, List.all_eq_true]
  simp only [secretViolation_eq_none, decide_eq_true_eq]
  constructor
  · rintro ⟨hspec, hname, hcred⟩
    refine ⟨fun key hkey => ?_, hspec, hname, fun ref hr => ?_⟩
    · cases hr : e.spec.credentialsSecretRef with
      | some ref =>
        obtain ⟨data, hs, hall, _⟩ := hcred ref hr
        rw [get_externalCred hr hs]
        exact hall key hkey
      | none =>
        -- only SOCKS and HTTP do without a reference, and they need no key
        have hp : e.spec.protocol = .socks5 ∨ e.spec.protocol = .http := by
          by_contra hp
          rw [not_or] at hp
          obtain ⟨_, hrest⟩ := Option.or_eq_none_iff.1 hspec
          split at hrest <;> simp [hr, hp.1, hp.2] at hrest
        rcases hp with hp | hp <;> simp [requiredCredentialKeys, hp] at hkey
    · obtain ⟨data, hs, _, hfit⟩ := hcred ref hr
      exact ⟨data, hs, hfit⟩
  · rintro ⟨hkeys, hco⟩
    refine ⟨hco.spec, hco.name_free, fun ref hr => ?_⟩
    obtain ⟨data, hs, hfit⟩ := hco.secret ref hr
    exact ⟨data, hs, fun key hkey => get_externalCred hr hs key ▸ hkeys key hkey, hfit⟩

/-! ## What is rendered -/

section
variable [MapOrder]

/-- A relay entry has no SOCKS version, and the node's own exit no server. -/
theorem externalEntry_ne_relayEntry (n : SingBoxNode) : c.externalEntry e ≠ c.relayEntry n := by
  intro h
  have htype := congrArg Outbound.type h
  have hversion := congrArg Outbound.version h
  cases hp : e.spec.protocol <;>
    simp [externalEntry, relayEntry, buildExternalOutboundEntry, hp] at htype hversion

theorem externalEntry_ne_selfEntry : c.externalEntry e ≠ selfEntry I := by
  intro h
  have htype := congrArg Outbound.type h
  cases hp : e.spec.protocol <;> simp [externalEntry, selfEntry, buildExternalOutboundEntry, hp] at htype

end

section
variable [Library] [MapOrder] {flags : Flags}

/-- The name can be used: no node has it, or only nodes that are no targets do and policies reach it. -/
def NameReached (c : Cluster) (I : SingBoxNode) (e : ExternalOutbound) : Prop :=
  (∀ n ∈ c.nodes, n.name ≠ e.name) ∨
    (∀ n ∈ c.nodes, n.name = e.name → n.hasRole .outbound = false) ∧ c.PolicyReached I e.name

theorem externalEntry_mem_iff (hI : I ∈ c.nodes) (hi : I.hasRole .inbound = true) (he : e ∈ c.externalOutbounds)
    (hgate : I.PassesGate e) :
    c.externalEntry e ∈ (computeConfig (c.view flags I)).outbounds ↔
      hasRequiredExternalCreds e (c.externalCred e) = true ∧ c.NameReached I e := by
  constructor
  · intro hmem
    have hrole := exists_outbound_view.1 ⟨_, hmem, buildExternalOutboundEntry_tag e _⟩
    rcases outbound_renders hmem (buildExternalOutboundEntry_tag e _) with
      (⟨n, _, _, _, ho⟩ | ⟨e', hv, hname, _, _⟩) | ⟨_, _, ho⟩
    · exact absurd ho (externalEntry_ne_relayEntry n)
    · have hsub := visibleExternals_subset hv
      obtain rfl := external_unique hsub.1 he hname
      have ht : c.Target I e'.name := by
        rcases hrole.2 with h | ⟨ho, _, hself⟩
        · exact .inl h
        · exact .inr ⟨hi, ho, hself⟩
      obtain ⟨hreq, hfree⟩ := (target_external_iff hI he hsub.2 hgate).1 ht
      exact ⟨hreq, hfree.imp_right fun h => ⟨hsub.2, h⟩⟩
    · exact absurd ho externalEntry_ne_selfEntry
  · rintro ⟨hreq, hfree⟩
    have hno : ∀ n ∈ c.nodes, n.name = e.name → n.hasRole .outbound = false :=
      hfree.elim (fun h n hn hname => absurd hname (h n hn)) And.left
    exact externalEntry_mem hI hi he hno ((target_external_iff hI he hno hgate).2 ⟨hreq, hfree.imp_right And.right⟩)

theorem rendered_iff_accepted_view (hI : I ∈ c.nodes) (hi : I.hasRole .inbound = true) (he : e ∈ c.externalOutbounds)
    (hgate : I.PassesGate e) :
    (c.externalEntry e ∈ (computeConfig (c.view flags I)).outbounds ↔ Accepted c e) ↔
      (hasRequiredExternalCreds e (c.externalCred e) = true → c.NameReached I e → c.Coherent e) := by
  rw [externalEntry_mem_iff hI hi he hgate, accepted_iff_coherent he]
  constructor
  · intro h hreq hname
    exact (h.1 ⟨hreq, hname⟩).2
  · intro h
    exact ⟨fun ⟨hreq, hname⟩ => ⟨hreq, h hreq hname⟩, fun ⟨hreq, hco⟩ => ⟨hreq, .inl hco.name_free⟩⟩

end

end Cluster

/-- Every accepted external outbound is rendered. The other way round, one that is
rendered is accepted exactly when it also passes the checks that only the reconciler makes. -/
theorem rendered_iff_accepted_iff [Library] [MapOrder] {flags : Flags} {c : Cluster} {I : SingBoxNode} {input : Input}
    (h : collectInput flags c I = .ok input) (hI : I ∈ c.nodes) (hi : I.hasRole .inbound = true) {e : ExternalOutbound}
    (he : e ∈ c.externalOutbounds) (hgate : I.PassesGate e) :
    (c.externalEntry e ∈ (computeConfig input).outbounds ↔ Accepted c e) ↔
      (hasRequiredExternalCreds e (c.externalCred e) = true → c.NameReached I e → c.Coherent e) := by
  rw [collectInput_ok h]
  exact Cluster.rendered_iff_accepted_view hI hi he hgate

/-! ### A cipher no sing-box knows -/

def border : SingBoxNode where
  metadata := .named "border"
  spec :=
    { SingBoxNodeSpec.bare with
      address := "203.0.113.20", region := "hk", roles := [.inbound],
      supportedProtocols := [Port.https.listener .hysteria2] }

def legacy : ExternalOutbound where
  metadata := .named "legacy"
  spec := { protocol := .shadowsocks, server := "192.0.2.30", port := Port.https.number, port_pos := Port.https.pos,
            port_le := Port.https.le, credentialsSecretRef := some "legacy-cred", region := "hk" }

def shadowsocksSecret (method : String) : GoMap String String :=
  ((∅ : GoMap String String).insert credKeyMethod method).insert credKeyPassword "s3cret"

theorem border_nodup : ([border].map SingBoxNode.name).Nodup := List.nodup_singleton _
theorem legacy_nodup : ([legacy].map ExternalOutbound.name).Nodup := List.nodup_singleton _

/-- One entry node and one external outbound, with the given cipher in its Secret. -/
def borderCluster (method : String) : Cluster where
  ns := "proxy"
  nodes := [border]
  externalOutbounds := [legacy]
  secret := fun _ name => if name = "legacy-cred" then .ok (shadowsocksSecret method) else .error ⟨true, "not found"⟩
  nodes_nodup := border_nodup
  externalOutbounds_nodup := legacy_nodup
  users_nodup := noUsers_nodup
  policies_nodup := noPolicies_nodup

section
attribute [local instance] plainLibrary storedOrder

theorem border_collected (method : String) :
    collectInput {} (borderCluster method) border = .ok ((borderCluster method).view {} border) :=
  collectInput_eq_ok {} ⟨rfl, rfl, rfl, fun _ => ⟨rfl, fun _ hu => absurd hu List.not_mem_nil⟩⟩

theorem border_passesGate : border.PassesGate legacy := by
  refine ⟨?_, ?_, ?_, ?_⟩ <;> decide

theorem legacy_complete :
    hasRequiredExternalCreds legacy ((borderCluster "rc4-md5").externalCred legacy) = true := by decide

theorem legacy_nameReached (method : String) : (borderCluster method).NameReached border legacy :=
  .inl fun n hn => by rw [List.mem_singleton.1 hn]; decide

theorem legacy_not_coherent : ¬ (borderCluster "rc4-md5").Coherent legacy := by
  intro h
  obtain ⟨data, hs, hfit⟩ := h.secret "legacy-cred" rfl
  obtain rfl : shadowsocksSecret "rc4-md5" = data := Except.ok.inj hs
  exact absurd (hfit.2 rfl) (by decide)

/-- The Secret has a cipher that is not on the list: the status says so, and `border` renders it all the same. -/
theorem not_forall_rendered_iff_accepted : ¬ ∀ [Library] [MapOrder] (flags : Flags) (c : Cluster) (I : SingBoxNode)
    (input : Input) (e : ExternalOutbound), collectInput flags c I = .ok input → I ∈ c.nodes →
      I.hasRole .inbound = true → e ∈ c.externalOutbounds → I.PassesGate e →
        (c.externalEntry e ∈ (computeConfig input).outbounds ↔ Accepted c e) := by
  intro h
  have hiff := h {} (borderCluster "rc4-md5") border _ legacy (border_collected _) (List.mem_singleton_self _) (by decide)
    (List.mem_singleton_self _) border_passesGate
  exact legacy_not_coherent ((Cluster.rendered_iff_accepted_view (List.mem_singleton_self _) (by decide)
    (List.mem_singleton_self _) border_passesGate).1 hiff legacy_complete (legacy_nameReached _))

theorem legacy_coherent : (borderCluster "aes-128-gcm").Coherent legacy where
  spec := by decide
  name_free n hn := by rw [List.mem_singleton.1 hn]; decide
  secret ref hr := ⟨shadowsocksSecret "aes-128-gcm", by rw [← Option.some.inj hr]; rfl, by unfold ValuesFit; decide⟩

theorem rendered_iff_accepted_iff_legacy :
    (borderCluster "aes-128-gcm").externalEntry legacy ∈
        (computeConfig ((borderCluster "aes-128-gcm").view {} border)).outbounds ↔
      Accepted (borderCluster "aes-128-gcm") legacy :=
  (rendered_iff_accepted_iff (border_collected _) (List.mem_singleton_self _) (by decide) (List.mem_singleton_self _)
    border_passesGate).2 fun _ _ => legacy_coherent

end

end SingboxOperator
