import SingboxOperator.ApiServer.Endpoint
import SingboxOperator.Controller.AcceptanceRuns
/-!
# What the webhooks keep out

The validating webhooks of EgressPolicies and ExternalOutbounds see every object
that is created or whose spec is changed; a status is written past them. Both
repeat checks that are also made later: those of an ExternalOutbound by its
reconciler, those of a policy by its reconciler and by the API server.

Over whole histories of a namespace the later checks of a spec then never fail.
What can still go wrong with a policy is decided by other objects: a second target
that its selector matches makes it ambiguous, and no webhook is asked about that.
-/
open SingboxOperator.Lib

namespace SingboxOperator

/-! ## The webhooks -/

inductive AdmissionErrorType
  | required
  | forbidden
  | invalid
  deriving DecidableEq, Repr

structure AdmissionError where
  type : AdmissionErrorType
  field : String
  detail : String
  deriving DecidableEq, Repr

/-- The switch over the protocol. -/
def tlsErrors (eob : ExternalOutbound) : List AdmissionError :=
  let protocol := eob.spec.protocol.name
  match eob.spec.protocol with
  | .trojan | .hysteria2 | .tuic | .anytls =>
    match eob.spec.tls with
    | none => [⟨.required, "spec.tls", "tls is required for protocol " ++ quote protocol⟩]
    | some tls =>
      if tls.serverName = "" && !tls.insecure then
        [⟨.required, "spec.tls.serverName", "serverName is required unless insecure is true"⟩]
      else []
  | .socks5 | .shadowsocks =>
    if eob.spec.tls.isSome then [⟨.forbidden, "spec.tls", "tls is not allowed for protocol " ++ quote protocol⟩] else []
  | .http => []

def validateExternalOutbound (eob : ExternalOutbound) : List AdmissionError :=
  tlsErrors eob ++
    (if eob.spec.hysteria2.isSome && eob.spec.protocol ≠ .hysteria2 then
      [⟨.forbidden, "spec.hysteria2", "hysteria2 options are only allowed when protocol is hysteria2"⟩] else []) ++
    if eob.spec.credentialsSecretRef.isNone && eob.spec.protocol ≠ .socks5 && eob.spec.protocol ≠ .http then
      [⟨.required, "spec.credentialsSecretRef",
        "credentialsSecretRef is required for protocol " ++ quote eob.spec.protocol.name⟩]
    else []

def EgressPolicySelector.isEmpty (s : EgressPolicySelector) : Bool :=
  s.matchNames.isEmpty && s.matchLabels.len = 0 && s.matchExpressions.isEmpty

section
variable [Library]

/-- The checks of the two actions cannot fail on values of the schema. -/
def validateEgressPolicy (policy : EgressPolicy) : List AdmissionError :=
  ((policy.spec.ingressSelector.valid.map fun err => ⟨.invalid, "spec.ingressSelector", err⟩).toList ++
    (policy.spec.egressSelector.valid.map fun err => ⟨.invalid, "spec.egressSelector", err⟩).toList ++
    ((policy.spec.matchFields.valid policy.spec.fallbackAction.isSome).map fun err =>
      ⟨.invalid, "spec.match", err⟩).toList) ++
    if policy.spec.action = .route && policy.spec.egressSelector.isEmpty then
      [⟨.required, "spec.egressSelector", "egressSelector is required for route actions"⟩]
    else []

end

/-! ## And the checks that are made later -/

theorem tlsErrors_eq_nil {eob : ExternalOutbound} : tlsErrors eob = [] ↔ tlsViolation eob = none := by
  unfold tlsErrors tlsViolation
  cases eob.spec.protocol with
  | http => simp
  | socks5 | shadowsocks => cases eob.spec.tls <;> simp
  | trojan | hysteria2 | tuic | anytls =>
    cases eob.spec.tls with
    | none => simp
    | some tls => by_cases h : (tls.serverName = "" && !tls.insecure) = true <;> simp [h]

/-- The webhook and the reconciler make the same checks of a spec. -/
theorem validateExternalOutbound_eq_nil {eob : ExternalOutbound} :
    validateExternalOutbound eob = [] ↔ specViolation eob = none := by
  unfold validateExternalOutbound specViolation
  rw [List.append_eq_nil_iff, List.append_eq_nil_iff, tlsErrors_eq_nil, Option.or_eq_none_iff, and_assoc]
  refine and_congr_right fun _ => ?_
  by_cases h1 : (eob.spec.hysteria2.isSome && decide (eob.spec.protocol ≠ .hysteria2)) = true
  · rw [if_pos h1, if_pos h1]
    simp
  · rw [if_neg h1, if_neg h1]
    split <;> simp

section
variable [Library]

/-- What the webhook asks of a policy. -/
structure PolicyAdmitted (p : EgressPolicy) : Prop where
  ingress : p.spec.ingressSelector.valid = none
  egress : p.spec.egressSelector.valid = none
  matchFields : p.spec.matchFields.valid p.spec.fallbackAction.isSome = none
  selects : p.spec.action = .route → p.spec.egressSelector.isEmpty = false

theorem validateEgressPolicy_eq_nil {p : EgressPolicy} : validateEgressPolicy p = [] ↔ PolicyAdmitted p := by
  have hlist : ∀ (o : Option String) (f : String → AdmissionError), (o.map f).toList = [] ↔ o = none := by
    intro o f
    cases o <;> simp
  unfold validateEgressPolicy
  rw [List.append_eq_nil_iff, List.append_eq_nil_iff, List.append_eq_nil_iff, hlist, hlist, hlist]
  constructor
  · rintro ⟨⟨⟨h1, h2⟩, h3⟩, h4⟩
    refine ⟨h1, h2, h3, fun ha => ?_⟩
    simpa [ha] using h4
  · rintro ⟨h1, h2, h3, h4⟩
    refine ⟨⟨⟨h1, h2⟩, h3⟩, if_neg ?_⟩
    rw [Bool.and_eq_true, decide_eq_true_eq]
    rintro ⟨ha, hempty⟩
    rw [h4 ha] at hempty
    cases hempty

end

/-! ## Histories of a namespace -/

/-- A webhook is asked when an object is created and when its spec is changed. -/
def Admits {α : Type} (validate : α → List AdmissionError) (ch : Change α) (generation : Bool) : Prop :=
  match ch with
  | .create x => validate x = []
  | .update _ new => generation = true → validate new = []
  | .delete _ => True

theorem Admits.forall_mem {α σ κ : Type} {validate : α → List AdmissionError} {spec : α → σ} {key : α → κ}
    {ch : Change α} {generation : Bool} {l l' : List α} (h : Admits validate ch generation) (happ : ch.Applies key l l')
    (hspec : KeepsSpec spec ch generation) (hcongr : ∀ x y, spec x = spec y → validate x = validate y)
    (hl : ∀ x ∈ l, validate x = []) : ∀ x ∈ l', validate x = [] := by
  intro x hx
  cases happ with
  | create y s t =>
    rcases List.mem_append.1 hx with hx | hx
    · exact hl x (List.mem_append_left _ hx)
    · rcases List.mem_cons.1 hx with rfl | hx
      · exact h
      · exact hl x (List.mem_append_right _ hx)
  | update old new s t _ =>
    rcases List.mem_append.1 hx with hx | hx
    · exact hl x (List.mem_append_left _ hx)
    · rcases List.mem_cons.1 hx with rfl | hx
      · cases hg : generation with
        | true => exact h hg
        | false =>
          rw [hcongr x old (hspec old x rfl hg)]
          exact hl old (List.mem_append_right _ List.mem_cons_self)
      · exact hl x (List.mem_append_right _ (List.mem_cons_of_mem _ hx))
  | delete y s t =>
    rcases List.mem_append.1 hx with hx | hx
    · exact hl x (List.mem_append_left _ hx)
    · exact hl x (List.mem_append_right _ (List.mem_cons_of_mem _ hx))

section
variable [Library]

def Event.Admitted : Event → Prop
  | .externalOutbound ch generation => Admits validateExternalOutbound ch generation
  | .egressPolicy ch generation => Admits validateEgressPolicy ch generation
  | _ => True

/-- A change of a custom resource that the webhooks let through, or of a Secret. -/
inductive AdmissionStep : Cluster → Option Event → Cluster → Prop
  | change {c c' : Cluster} {ev : Event} (h : c.Step ev c') (hadm : ev.Admitted) : AdmissionStep c (some ev) c'
  | secret (c : Cluster) (ns secret : String) (result : Except ApiError (GoMap String String)) :
      AdmissionStep c none (c.withSecret ns secret result)

structure AllAdmitted (c : Cluster) : Prop where
  externals : ∀ e ∈ c.externalOutbounds, validateExternalOutbound e = []
  policies : ∀ p ∈ c.policies, validateEgressPolicy p = []

theorem AllAdmitted.step {c c' : Cluster} {ev : Option Event} (hc : AllAdmitted c) (h : AdmissionStep c ev c') :
    AllAdmitted c' := by
  cases h with
  | secret => exact ⟨hc.externals, hc.policies⟩
  | change h hadm =>
    cases h with
    | singBoxNode | user | userGroup => exact ⟨hc.externals, hc.policies⟩
    | externalOutbound _ happ hspec =>
      refine ⟨Admits.forall_mem hadm happ hspec (fun x y hxy => ?_) hc.externals, hc.policies⟩
      unfold validateExternalOutbound tlsErrors
      rw [hxy]
    | egressPolicy _ happ hspec =>
      refine ⟨hc.externals, Admits.forall_mem hadm happ hspec (fun x y hxy => ?_) hc.policies⟩
      unfold validateEgressPolicy
      rw [hxy]

theorem allAdmitted_of_run {c₀ c : Cluster} {trace : List (Cluster × Option Event × Cluster)}
    (h : Run AdmissionStep c₀ trace c) (hinit : AllAdmitted c₀) : AllAdmitted c :=
  (h.invariant (I := AllAdmitted) (P := fun _ _ => True) hinit (fun _ _ _ hs _ hi => hi.step hs) fun _ _ => trivial).1

/-- A cluster as caches show it: every ExternalOutbound and every policy has
been there, not necessarily at the same time. -/
structure SeenFrom (c₀ c : Cluster) : Prop where
  externals : ∀ e ∈ c.externalOutbounds, ∃ trace c', Run AdmissionStep c₀ trace c' ∧ e ∈ c'.externalOutbounds
  policies : ∀ p ∈ c.policies, ∃ trace c', Run AdmissionStep c₀ trace c' ∧ p ∈ c'.policies

theorem SeenFrom.allAdmitted {c₀ c : Cluster} (h : SeenFrom c₀ c) (hinit : AllAdmitted c₀) : AllAdmitted c := by
  constructor
  · intro e he
    obtain ⟨trace, c', hrun, he'⟩ := h.externals e he
    exact (allAdmitted_of_run hrun hinit).externals e he'
  · intro p hp
    obtain ⟨trace, c', hrun, hp'⟩ := h.policies p hp
    exact (allAdmitted_of_run hrun hinit).policies p hp'

end

/-! ## What is left to report -/

theorem secretViolation_reason {e : ExternalOutbound} {ref : String} {data : GoMap String String}
    {violation : ExternalOutboundViolation} (h : secretViolation e ref data = some violation) :
    violation.reason ≠ "InvalidSpec" := by
  unfold secretViolation at h
  dsimp only at h
  split at h
  · split at h
    · obtain rfl := Option.some.inj h
      exact (by decide : "SecretKeyMissing" ≠ "InvalidSpec")
    · cases h
  · split at h
    · obtain rfl := Option.some.inj h
      exact (by decide : "SecretKeyMissing" ≠ "InvalidSpec")
    · split at h
      · obtain rfl := Option.some.inj h
        exact (by decide : "InvalidMethod" ≠ "InvalidSpec")
      · cases h

theorem credentialViolation_reason {c : Cluster} {e : ExternalOutbound} {violation : ExternalOutboundViolation}
    (h : credentialViolation c e = .ok (some violation)) : violation.reason ≠ "InvalidSpec" := by
  unfold credentialViolation at h
  split at h
  · cases h
  · split at h
    · split at h
      · obtain rfl := Option.some.inj (Except.ok.inj h)
        exact (by decide : "SecretNotFound" ≠ "InvalidSpec")
      · cases h
    · exact secretViolation_reason (Except.ok.inj h)

/-- Only the check of the spec gives this reason. -/
theorem reconcileExternalOutbound_reason {c : Cluster} {e : ExternalOutbound} {cond : StatusCondition}
    (he : e ∈ c.externalOutbounds) (hspec : specViolation e = none)
    (h : reconcileExternalOutbound c e.name = .ok (some cond)) : cond.reason ≠ "InvalidSpec" := by
  simp only [reconcileExternalOutbound, findExternalOutbound_self he, hspec, Option.none_or] at h
  split at h
  · rename_i violation hname
    obtain rfl := Option.some.inj (Except.ok.inj h)
    unfold nameConflict at hname
    split at hname
    · obtain rfl := Option.some.inj hname
      exact (by decide : "NameConflict" ≠ "InvalidSpec")
    · cases hname
  · obtain ⟨violation, hcred, h⟩ := Except.bind_ok h
    obtain rfl := Option.some.inj (Except.ok.inj h)
    cases violation with
    | none => exact (by decide : "Valid" ≠ "InvalidSpec")
    | some violation => exact credentialViolation_reason hcred

theorem policyConditions_degraded {reason message : String} :
    (∃ cond ∈ policyConditions reason message, cond.type = "Degraded" ∧ cond.status = "True") ↔
      reason ≠ "" ∧ reason ≠ "EgressNotFound" := by
  unfold policyConditions
  by_cases h : reason = ""
  · simp [h]
  · by_cases h' : reason = "EgressNotFound" <;> simp [h, h']

section
variable [Library]

/-- A policy whose spec is sound is only degraded for what it selects. -/
theorem policyRun_degraded {p : EgressPolicy} (hp : PolicyAdmitted p) (nodes : List SingBoxNode)
    (outbounds : List ExternalOutbound) :
    (∃ cond ∈ (policyRun p nodes outbounds).conditions, cond.type = "Degraded" ∧ cond.status = "True") ↔
      ingressNames p nodes = [] ∨ p.spec.action = .route ∧ 1 < (egressCandidates p nodes outbounds).length := by
  have hlen : (sortOn id (egressCandidates p nodes outbounds)).length = (egressCandidates p nodes outbounds).length :=
    (sortOn_perm id _).length_eq
  unfold policyRun
  dsimp only
  rw [policyConditions_degraded]
  unfold validatePolicyResolution
  simp only [hp.ingress, hp.egress, hp.matchFields]
  by_cases hin : ingressNames p nodes = []
  · simp [hin]
  · rw [if_neg hin]
    by_cases ha : p.spec.action = .route
    · have hne : 1 ≤ (egressCandidates p nodes outbounds).length →
          sortOn id (egressCandidates p nodes outbounds) ≠ [] := by
        intro h hnil
        rw [← hlen, hnil] at h
        exact absurd h (by decide)
      rcases Nat.lt_trichotomy (egressCandidates p nodes outbounds).length 1 with h | h | h
      · have hnil : egressCandidates p nodes outbounds = [] := List.eq_nil_of_length_eq_zero (by omega)
        simp [ha, hnil, hin]
      · simp [ha, hne h.ge, hlen, h, hin]
      · have h1 : (egressCandidates p nodes outbounds).length ≠ 1 := by omega
        simp [ha, hne h.le, hlen, h, h1]
    · simp [ha, hin]

theorem reconcilePolicy_ok {c : Cluster} {p : EgressPolicy} (hp : p ∈ c.policies) {run : PolicyRun}
    (h : reconcilePolicy c p.name = .ok (some run)) : policyRun p c.nodes c.externalOutbounds = run := by
  have hfind : c.policies.find? (fun q => q.name = p.name) = some p :=
    find?_eq_some_of_unique hp (by simp) fun q hq hname =>
      List.inj_on_of_nodup_map c.policies_nodup hq hp (by simpa using hname)
  unfold reconcilePolicy at h
  rw [hfind] at h
  cases h1 : c.listError .singBoxNode <;> cases h2 : c.listError .externalOutbound <;> simp [h1, h2] at h
  exact h

theorem policySound_iff {c : Cluster} {p : EgressPolicy} (hp : PolicyAdmitted p) :
    PolicySound c p ↔ (p.spec.action = .route → (egressCandidates p c.nodes c.externalOutbounds).length ≤ 1) :=
  ⟨PolicySound.unique, fun h => ⟨hp.ingress, hp.egress, hp.matchFields, h⟩⟩

end

/-! ## And what is rendered -/

namespace Cluster
variable [Library] [MapOrder] {c : Cluster} {N : SingBoxNode} {flags : Flags}

/-- The protocols that only sing-box's external outbounds speak come from an ExternalOutbound. -/
theorem outbound_of_type {o : Outbound} (ho : o ∈ (computeConfig (c.view flags N)).outbounds)
    (hsocks : o.type ≠ "socks") (hdirect : o.type ≠ "direct") : ∃ e ∈ c.externalOutbounds, o = c.externalEntry e := by
  rw [computeConfig_outbounds] at ho
  rcases List.mem_append.1 (mem_of_mem_firstBy ho) with h | h
  · split at h
    · rcases mem_clientOutbounds_view.1 h with ⟨t, _, ⟨n, _, _, _, rfl⟩ | ⟨e, hv, _, _, rfl⟩⟩ | ⟨_, _, _, rfl⟩
      · exact absurd rfl hsocks
      · exact ⟨e, (visibleExternals_subset hv).1, rfl⟩
      · exact absurd rfl hdirect
    · cases h
  · rw [List.mem_singleton] at h
    subst h
    exact absurd rfl hdirect

end Cluster

def tlsProtocols : List String := ["trojan", "hysteria2", "tuic", "anytls"]

/-- The peer's certificate is checked against a name, or not checked on purpose. -/
def OutboundTLS.Verifiable (tls : OutboundTLS) : Prop :=
  tls.enabled = true ∧ ((∃ name, tls.serverName = some name ∧ name ≠ "") ∨ tls.insecure = some true)

theorem externalTLSEntry_verifiable {tls : ExternalOutboundTLS} (h : ¬ (tls.serverName = "" ∧ tls.insecure = false)) :
    (externalTLSEntry (some tls)).Verifiable := by
  refine ⟨rfl, ?_⟩
  by_cases hname : tls.serverName = ""
  · have hi : tls.insecure = true := by simpa [hname] using h
    exact .inr (by simp [externalTLSEntry, hi])
  · exact .inl ⟨tls.serverName, by simp [externalTLSEntry, hname], hname⟩

theorem externalEntry_tls [MapOrder] {c : Cluster} {e : ExternalOutbound} (h : tlsErrors e = [])
    (htype : (c.externalEntry e).type ∈ tlsProtocols) :
    ∃ tls, (c.externalEntry e).tls = some tls ∧ tls.Verifiable := by
  unfold Cluster.externalEntry buildExternalOutboundEntry at htype ⊢
  unfold tlsErrors at h
  cases hp : e.spec.protocol with
  | socks5 | http | shadowsocks =>
    simp only [hp] at htype
    exact absurd htype (by decide)
  | trojan | hysteria2 | tuic | anytls =>
    simp only [hp] at h ⊢
    refine ⟨_, rfl, ?_⟩
    cases ht : e.spec.tls with
    | none => simp [ht] at h
    | some tls =>
      refine externalTLSEntry_verifiable fun hempty => ?_
      simp [ht, hempty] at h

/-! ## Main results -/

section
variable [Library] {c₀ c : Cluster}

/-- Once admitted, an ExternalOutbound is never reported for its own spec: it is
refused for a node of its name or for the Secret it refers to. -/
theorem admitted_refused_iff (hinit : AllAdmitted c₀) (hseen : SeenFrom c₀ c) {e : ExternalOutbound}
    (he : e ∈ c.externalOutbounds) :
    (∀ cond, reconcileExternalOutbound c e.name = .ok (some cond) → cond.reason ≠ "InvalidSpec") ∧
      (¬ Accepted c e ↔ (∃ n ∈ c.nodes, n.name = e.name) ∨
        ∃ ref, e.spec.credentialsSecretRef = some ref ∧
          ∀ data, c.secret c.ns ref = .ok data → secretViolation e ref data ≠ none) := by
  have hspec := validateExternalOutbound_eq_nil.1 ((hseen.allAdmitted hinit).externals e he)
  refine ⟨fun cond h => reconcileExternalOutbound_reason he hspec h, ?_⟩
  rw [accepted_iff he, credentialViolation_eq_ok_none, and_iff_right hspec, not_and_or]
  push Not
  rfl

/-- Once admitted, a policy is degraded exactly when it selects no entry node or more than one target. -/
theorem admitted_degraded_iff (hinit : AllAdmitted c₀) (hseen : SeenFrom c₀ c) {p : EgressPolicy} (hp : p ∈ c.policies)
    {run : PolicyRun} (hrun : reconcilePolicy c p.name = .ok (some run)) :
    (∃ cond ∈ run.conditions, cond.type = "Degraded" ∧ cond.status = "True") ↔
      ingressNames p c.nodes = [] ∨
        p.spec.action = .route ∧ 1 < (egressCandidates p c.nodes c.externalOutbounds).length := by
  have hadm := validateEgressPolicy_eq_nil.1 ((hseen.allAdmitted hinit).policies p hp)
  obtain rfl := reconcilePolicy_ok hp hrun
  exact policyRun_degraded hadm _ _

variable [MapOrder]

/-- Every TLS outbound a node gets can be verified. The engine does not look: it
renders an ExternalOutbound without `tls` all the same. -/
theorem admitted_tls (hinit : AllAdmitted c₀) (hseen : SeenFrom c₀ c) {flags : Flags} {N : SingBoxNode} {input : Input}
    (h : collectInput flags c N = .ok input) {o : Outbound} (ho : o ∈ (computeConfig input).outbounds)
    (htype : o.type ∈ tlsProtocols) : ∃ tls, o.tls = some tls ∧ tls.Verifiable := by
  rw [collectInput_ok h] at ho
  obtain ⟨e, he, rfl⟩ := Cluster.outbound_of_type ho (fun hs => absurd (hs ▸ htype) (by decide))
    (fun hs => absurd (hs ▸ htype) (by decide))
  have hadm := (hseen.allAdmitted hinit).externals e he
  exact externalEntry_tls (List.append_eq_nil_iff.1 (List.append_eq_nil_iff.1 hadm).1).1 htype

/-- With the webhooks in place and the built-in template, a user who is found
goes without a config only for a route policy with two targets or a rule set that is not in the template. -/
theorem admitted_serve_iff {parseAddr : String → Bool} {s : Server} {view : ApiView}
    (htext : s.templateText view = none) {start : String → Cluster} (hinit : ∀ ns, AllAdmitted (start ns))
    (hseen : ∀ ns, SeenFrom (start ns) (view.cluster ns)) (path : String) :
    (∃ body, s.serve parseAddr view path = .ok body) ↔
      ∃ ns requestUUID, path = clientConfigPath ++ ns ++ "/" ++ requestUUID ∧ '/' ∉ ns.toList ∧ ns ≠ "" ∧
        isUUID requestUUID = true ∧ (∀ kind, (view.cluster ns).listError kind = none) ∧
        (∃ u cred, matchUser (view.cluster ns) requestUUID = some (u, cred) ∧ GroupReadable (view.cluster ns) u) ∧
        ∀ p ∈ (view.cluster ns).policies,
          (p.spec.action = .route →
            (egressCandidates p (view.cluster ns).nodes (view.cluster ns).externalOutbounds).length ≤ 1) ∧
          (PolicyActive (view.cluster ns) p →
            ∀ ref ∈ p.spec.matchFields.ruleSet, ref ∈ ["geosite-cn", "category-ads-all"]) := by
  rw [serve_isOk]
  refine exists₂_congr fun ns requestUUID => and_congr_right fun _ => and_congr_right fun _ =>
    and_congr_right fun _ => ?_
  have hpolicies : (∀ p ∈ (view.cluster ns).policies, PolicySound (view.cluster ns) p) ↔
      ∀ p ∈ (view.cluster ns).policies, p.spec.action = .route →
        (egressCandidates p (view.cluster ns).nodes (view.cluster ns).externalOutbounds).length ≤ 1 :=
    forall₂_congr fun p hp =>
      policySound_iff (validateEgressPolicy_eq_nil.1 (((hseen ns).allAdmitted (hinit ns)).policies p hp))
  constructor
  · rintro ⟨hanswerable, hfits⟩
    refine ⟨hanswerable.uuid, hanswerable.lists, hanswerable.user, fun p hp => ⟨?_, ?_⟩⟩
    · exact hpolicies.1 hanswerable.policies p hp
    · exact (builtin_fits htext hanswerable).1 hfits p hp
  · rintro ⟨hid, hlists, huser, h⟩
    have hanswerable : Answerable (view.cluster ns) requestUUID :=
      ⟨hid, hlists, huser, hpolicies.2 fun p hp => (h p hp).1⟩
    exact ⟨hanswerable, (builtin_fits htext hanswerable).2 fun p hp => (h p hp).2⟩

end

/-! ### A Trojan outbound and a policy that uses it -/

def causeway : ExternalOutbound where
  metadata := .named "causeway"
  spec := { protocol := .trojan, server := "192.0.2.60", port := Port.https.number, port_pos := Port.https.pos,
            port_le := Port.https.le, credentialsSecretRef := some "causeway-cred",
            tls := some { serverName := "cdn.test" }, region := "hk" }

def viaCauseway : EgressPolicy where
  metadata := .named "via-causeway"
  spec :=
    { egressSelector := { matchNames := ["causeway"] }, matchFields := { domain := ["b.example"] }, action := .route }

/-- A namespace before the two are created. -/
def causewayStart (ns : String) : Cluster where
  ns := ns
  nodes := [border]
  users := [alice]
  secret := fun _ name =>
    if name = "alice-auth" then .ok ((∅ : GoMap String String).insert "uuid" aliceUUID)
    else if name = "causeway-cred" then .ok ((∅ : GoMap String String).insert credKeyPassword "s3cret")
    else .error ⟨true, "not found"⟩
  nodes_nodup := border_nodup
  externalOutbounds_nodup := noExternals_nodup
  users_nodup := edgeCluster.users_nodup
  policies_nodup := noPolicies_nodup

theorem causeway_nodup : ([causeway].map ExternalOutbound.name).Nodup := List.nodup_singleton _
theorem viaCauseway_nodup : ([viaCauseway].map EgressPolicy.name).Nodup := List.nodup_singleton _

def causewayCluster (ns : String) : Cluster :=
  ((causewayStart ns).withExternalOutbounds [causeway] causeway_nodup).withPolicies [viaCauseway] viaCauseway_nodup

def causewayView : ApiView := { pathView with cluster := causewayCluster, cluster_ns := fun _ => rfl }

section
attribute [local instance] plainLibrary storedOrder

theorem causewayStart_admitted (ns : String) : AllAdmitted (causewayStart ns) :=
  ⟨fun _ he => absurd he List.not_mem_nil, fun _ hp => absurd hp List.not_mem_nil⟩

theorem causeway_created (ns : String) : ∃ trace, Run AdmissionStep (causewayStart ns) trace (causewayCluster ns) := by
  have h1 : AdmissionStep (causewayStart ns) (some (.externalOutbound (.create causeway) true))
      ((causewayStart ns).withExternalOutbounds [causeway] causeway_nodup) :=
    .change (.externalOutbound causeway_nodup (.create causeway [] []) (fun _ _ h => nomatch h))
      (by decide : validateExternalOutbound causeway = [])
  have h2 : AdmissionStep ((causewayStart ns).withExternalOutbounds [causeway] causeway_nodup)
      (some (.egressPolicy (.create viaCauseway) true)) (causewayCluster ns) :=
    .change (.egressPolicy viaCauseway_nodup (.create viaCauseway [] []) (fun _ _ h => nomatch h))
      (by decide : validateEgressPolicy viaCauseway = [])
  exact ⟨_, (Run.single h1).snoc h2⟩

theorem causeway_seen (ns : String) : SeenFrom (causewayStart ns) (causewayCluster ns) := by
  obtain ⟨trace, hrun⟩ := causeway_created ns
  exact ⟨fun _ he => ⟨trace, _, hrun, he⟩, fun _ hp => ⟨trace, _, hrun, hp⟩⟩

theorem admitted_refused_iff_causeway : Accepted (causewayCluster "proxy") causeway := by
  by_contra hrefused
  obtain ⟨_, hiff⟩ := admitted_refused_iff (causewayStart_admitted "proxy") (causeway_seen "proxy")
    (List.mem_singleton_self causeway)
  rcases hiff.1 hrefused with ⟨n, hn, hname⟩ | ⟨ref, href, hsecret⟩
  · rw [List.mem_singleton.1 hn] at hname
    exact absurd hname (by decide)
  · obtain rfl := Option.some.inj href
    exact hsecret _ rfl (by decide)

theorem admitted_degraded_iff_causeway :
    ∃ run, reconcilePolicy (causewayCluster "proxy") "via-causeway" = .ok (some run) ∧
      ¬ ∃ cond ∈ run.conditions, cond.type = "Degraded" ∧ cond.status = "True" := by
  refine ⟨_, rfl, ?_⟩
  rw [admitted_degraded_iff (causewayStart_admitted "proxy") (causeway_seen "proxy")
    (List.mem_singleton_self viaCauseway) rfl]
  decide

theorem causeway_collected :
    collectInput {} (causewayCluster "proxy") border = .ok ((causewayCluster "proxy").view {} border) :=
  collectInput_eq_ok {} ⟨rfl, rfl, rfl, fun _ => ⟨rfl, fun _ _ _ _ h => by cases h; rfl⟩⟩

theorem causeway_rendered :
    (causewayCluster "proxy").externalEntry causeway ∈
      (computeConfig ((causewayCluster "proxy").view {} border)).outbounds := by
  refine (Cluster.externalEntry_mem_iff (List.mem_singleton_self _) (by decide) (List.mem_singleton_self _) ?_).2
    ⟨by decide, .inl fun n hn => ?_⟩
  · refine ⟨?_, ?_, ?_, ?_⟩ <;> decide
  · rw [List.mem_singleton.1 hn]
    decide

theorem admitted_tls_causeway :
    ((causewayCluster "proxy").externalEntry causeway).type = "trojan" ∧
      ∃ tls, ((causewayCluster "proxy").externalEntry causeway).tls = some tls ∧ tls.Verifiable :=
  ⟨rfl, admitted_tls (causewayStart_admitted "proxy") (causeway_seen "proxy") causeway_collected causeway_rendered
    (by decide)⟩

theorem admitted_serve_iff_alice :
    ∃ body, ({ templateRef := "ops/client-template" } : Server).serve (fun _ => true) causewayView
      (clientConfigPath ++ "proxy" ++ "/" ++ aliceUUID) = .ok body := by
  have htext : ({ templateRef := "ops/client-template" } : Server).templateText causewayView = none := by rfl
  refine (admitted_serve_iff htext causewayStart_admitted causeway_seen _).2
    ⟨"proxy", aliceUUID, rfl, by decide, by decide, by decide, fun _ => rfl, ?_, fun p hp => ?_⟩
  · exact ⟨alice, _, alice_matched, fun h => absurd rfl h⟩
  · rw [List.mem_singleton.1 hp]
    exact ⟨fun _ => by decide, fun _ ref href => absurd href List.not_mem_nil⟩

end

end SingboxOperator
