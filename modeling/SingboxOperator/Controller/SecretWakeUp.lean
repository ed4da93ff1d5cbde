import SingboxOperator.Controller.WakeUp
/-!
# Changed Secrets

Only the Secrets of ExternalOutbounds are watched, and those of their region
are all a node can render. The credentials of users and the relay credentials
of nodes reach a config whenever it is computed next: a change of theirs wakes
nobody.
-/
open SingboxOperator.Lib

namespace SingboxOperator

namespace Cluster
variable {c : Cluster} {N : SingBoxNode} {ns secret : String} {result : Except ApiError (GoMap String String)}

theorem Answers.withSecret (h : c.Answers) : (c.withSecret ns secret result).Answers := ⟨h.list, h.group⟩

section
variable [Library] [MapOrder]

/-- Every node has the config it had, or is woken. -/
def NoLostSecret (flags : Flags) (c : Cluster) (ns secret : String) (result : Except ApiError (GoMap String String)) :
    Prop :=
  ∀ N ∈ c.nodes, (c.withSecret ns secret result).output flags N = c.output flags N ∨
    WokenBySecret (c.withSecret ns secret result) ns secret N.name

omit [MapOrder] in
/-- An inbound node that may consume an ExternalOutbound whose credentials are in the Secret. -/
def Covered (c : Cluster) (ns secret : String) (N : SingBoxNode) : Prop :=
  N.hasRole .inbound = true ∧ ns = c.ns ∧ ∃ e ∈ c.externalOutbounds, e.spec.credentialsSecretRef = some secret ∧
    (e.spec.region ≠ "" ∧ N.spec.region = e.spec.region ∨
      ∃ p ∈ c.policies, p.spec.action = .route ∧ p.spec.ingressSelector.matches N.metadata = true ∧
        p.spec.egressSelector.matches e.metadata = true)

omit [MapOrder] in
theorem Answers.wokenBySecret_iff (h : c.Answers) (hN : N ∈ c.nodes) :
    WokenBySecret c ns secret N.name ↔ c.Covered ns secret N := by
  constructor
  · rintro (henq | ⟨_, _, hw⟩)
    · obtain ⟨e, he, hmem⟩ := List.mem_flatMap.1 (List.mem_eraseDups.1 henq)
      obtain ⟨hns, he, href⟩ := h.mem_externalsOfSecret.1 he
      obtain ⟨hi, haff⟩ := (h.mem_inboundsAffected_iff he hN).1 hmem
      exact ⟨hi, hns, e, he, href, haff⟩
    · -- a status passes neither predicate
      cases hw with
      | enqueued h => simp [nodeRequests, enqueueRequestsFromMapFunc, generationChanged] at h
      | policy hp => simp [policyRequests, enqueueRequestsFromMapFunc, generationChanged, labelChanged] at hp
      | user hu => cases hu
      | userGroup hg => cases hg
  · rintro ⟨hi, hns, e, he, href, haff⟩
    refine .enqueued (List.mem_eraseDups.2 (List.mem_flatMap.2 ⟨e, h.mem_externalsOfSecret.2 ⟨hns, he, href⟩, ?_⟩))
    exact (h.mem_inboundsAffected_iff he hN).2 ⟨hi, haff⟩

/-! ## What a config shows of the credentials -/

/-- The relay credentials in the config of the node: its own, and those of the peers it can relay to. -/
def SameRelayCreds (c c' : Cluster) (N : SingBoxNode) : Prop :=
  (N.hasRole .outbound = true → c'.nodeCred N.name = c.nodeCred N.name) ∧
    (N.hasRole .inbound = true → ∀ n ∈ c.peers N, n.spec.relayPort ≠ 0 → c'.nodeCred n.name = c.nodeCred n.name)

omit [MapOrder] in
/-- Only ExternalOutbounds of the node's region are visible. -/
theorem visibleExternals_region {e : ExternalOutbound} (h : e ∈ c.visibleExternals N) :
    e.spec.region ≠ "" ∧ e.spec.region = N.spec.region := by
  rcases List.mem_append.1 h with h | h
  · obtain ⟨_, _, hgate⟩ := isDiscovered_iff.1 (List.mem_filter.1 h).2
    exact ⟨hgate.1, hgate.2.1⟩
  · obtain ⟨p, hp, ht⟩ := List.mem_filterMap.1 h
    obtain ⟨ha, _⟩ := externalTarget_eq_some.1 ht
    rcases kept_route_target hp ha with ⟨n, hn, _⟩ | ⟨e', _, ht', hne, hr, _⟩
    · obtain ⟨_, hmem, hname, hrole⟩ := nodeTarget_eq_some.1 hn
      obtain ⟨_, hall, _⟩ := externalTarget_eq_some.1 ht
      rw [hall n hmem hname] at hrole
      cases hrole
    · obtain rfl := Option.some.inj (ht.symm.trans ht')
      exact ⟨hne, hr⟩

theorem externalCred_of_not_covered (hi : N.hasRole .inbound = true) (hcov : ¬ c.Covered ns secret N)
    {e : ExternalOutbound} (he : e ∈ c.visibleExternals N) :
    (c.withSecret ns secret result).externalCred e = c.externalCred e := by
  have hsecret : ∀ ref, e.spec.credentialsSecretRef = some ref →
      (if c.ns = ns ∧ ref = secret then result else c.secret c.ns ref) = c.secret c.ns ref := by
    intro ref href
    refine if_neg fun ⟨hns, hname⟩ => hcov ⟨hi, hns.symm, e, (visibleExternals_subset he).1, hname ▸ href, .inl ?_⟩
    obtain ⟨hne, hr⟩ := visibleExternals_region he
    exact ⟨hne, hr.symm⟩
  unfold externalCred getExternalCredentials
  cases href : e.spec.credentialsSecretRef with
  | none => rfl
  | some ref => simp only [hsecret ref href]

theorem looksAlike_of_not_covered (hi : N.hasRole .inbound = true) (hcov : ¬ c.Covered ns secret N)
    (hrelay : c.SameRelayCreds (c.withSecret ns secret result) N)
    (hentries : c.SameEntries (c.withSecret ns secret result) N) :
    c.LooksAlike (c.withSecret ns secret result) N := by
  have hext : ∀ e ∈ c.visibleExternals N, (c.withSecret ns secret result).externalCred e = c.externalCred e :=
    fun e he => externalCred_of_not_covered hi hcov he
  have hnode : ∀ n ∈ c.visibleNodes N, n.spec.relayPort ≠ 0 →
      (c.withSecret ns secret result).relayEntry n = c.relayEntry n := by
    intro n hn hport
    have hcred : (c.withSecret ns secret result).nodeCred n.name = c.nodeCred n.name := by
      rcases mem_visibleNodes.1 hn with hpeer | ⟨hname, ho, _⟩
      · exact hrelay.2 hi n hpeer hport
      · rw [hname]
        exact hrelay.1 ho
    simp only [relayEntry, hcred]
  have hcomplete : (c.withSecret ns secret result).completeExternals N = c.completeExternals N :=
    List.filter_congr fun e he => by rw [hext e (List.mem_append_left _ he)]
  exact {
    users := rfl
    groupOf := fun _ _ => rfl
    entries := hentries
    ownCred := hrelay.1
    noPeers := rfl
    relayEntries := List.map_congr_left fun n hn => by
      obtain ⟨hpeer, hport⟩ := List.mem_filter.1 hn
      exact hnode n (List.mem_append_left _ hpeer) (by simpa using hport)
    externalEntries := by
      rw [externalEntries, externalEntries, hcomplete]
      refine List.map_congr_left fun e he => ?_
      simp only [externalEntry, hext e (List.mem_append_left _ (List.mem_filter.1 he).1)]
    kept := rfl
    egressName := fun _ _ _ => rfl
    renders := fun p _ _ o => by
      refine or_congr (exists_congr fun n => and_congr_right fun hn => and_congr_right fun _ =>
        and_congr_right fun hport => by rw [hnode n hn hport]) (exists_congr fun e => and_congr_right fun he => ?_)
      simp only [externalEntry, hext e he] }

/-! ## And what it can be told from -/

/-- The entry with the tag of a peer is the peer's. -/
theorem outbound_of_peer {flags : Flags} {n : SingBoxNode} (hn : n ∈ c.peers N) {o : Outbound}
    (ho : o ∈ (computeConfig (c.view flags N)).outbounds) (htag : o.tag = outboundTag n.name) : o = c.relayEntry n := by
  obtain ⟨hmem, hpeer⟩ := mem_peers.1 hn
  have hrole := (visibleNodes_subset (List.mem_append_left _ hn)).2
  rcases outbound_renders ho htag with (⟨n', hv, hname, _, rfl⟩ | ⟨e, hv, hname, _⟩) | ⟨_, hname, _⟩
  · rw [node_unique (visibleNodes_subset hv).1 hmem hname]
  · exact absurd hname.symm (visibleExternals_ne hmem hrole hv)
  · simp [isPeer, hname] at hpeer

theorem sameRelayCreds_of_config_eq {c' : Cluster} {flags : Flags} (hpeers : c'.peers N = c.peers N)
    (h : computeConfig (c'.view flags N) = computeConfig (c.view flags N)) : c.SameRelayCreds c' N := by
  refine ⟨fun ho => ?_, fun hi n hn hport => ?_⟩
  · have hmem : c'.relayInbound N ∈ (computeConfig (c.view flags N)).inbounds :=
      h ▸ mem_inbounds_view.2 (.inr ⟨ho, rfl⟩)
    rcases mem_inbounds_view.1 hmem with ⟨_, _, _, heq⟩ | ⟨_, heq⟩
    · exact absurd (congrArg Inbound.tag heq).symm (inboundTag_ne_relayTag N)
    · have husers := congrArg Inbound.users heq
      simp only [relayInbound, List.cons.injEq, UserEntry.mk.injEq, Option.some.injEq, and_true, true_and] at husers
      exact NodeCredential.ext husers.1 husers.2
  · have husable := (usable_of_peer (hpeers ▸ hn : n ∈ c'.peers N)).2 hport
    obtain ⟨o, ho, htag⟩ := exists_outbound_view.2 ⟨hi, .inl ⟨.inl ⟨n, hpeers ▸ hn, rfl⟩, husable⟩⟩
    have heq := outbound_of_peer (hpeers ▸ hn : n ∈ c'.peers N) ho htag
    rw [h] at ho
    have heq' := heq.symm.trans (outbound_of_peer hn ho htag)
    simp only [relayEntry, Outbound.mk.injEq, Option.some.injEq, true_and, and_true] at heq'
    exact NodeCredential.ext heq'.1 heq'.2

theorem sameEntries_of_config_eq {c' : Cluster} {flags : Flags} (husers : c'.users = c.users)
    (h : computeConfig (c'.view flags N) = computeConfig (c.view flags N)) : c.SameEntries c' N := by
  intro hi hport u hu
  -- the entries of the one inbound are those of the other
  have hclients : ∀ e ∈ clientUsers (c.view flags N), e ∈ clientUsers (c'.view flags N) := by
    intro e he
    have hmem : buildInboundEntry (effectiveInboundProtocol N) (inboundTag N)
        (findProtocolPort N (effectiveInboundProtocol N)) (clientUsers (c.view flags N)) ∈
        (computeConfig (c'.view flags N)).inbounds :=
      h ▸ mem_inbounds_view.2 (.inl ⟨hi, hport, List.ne_nil_of_mem he, rfl⟩)
    rcases mem_inbounds_view.1 hmem with ⟨_, _, _, heq⟩ | ⟨_, heq⟩
    · have hsame : clientUsers (c.view flags N) = clientUsers (c'.view flags N) := congrArg Inbound.users heq
      exact hsame ▸ he
    · exact absurd (congrArg Inbound.tag heq) (inboundTag_ne_relayTag N)
  constructor
  · intro t ht hmay
    have he := hclients _ ((mem_clientUsers_view hi).2 (.inl ⟨t, ht, u, hu, hmay, rfl⟩))
    rcases (mem_clientUsers_view hi).1 he with ⟨t', _, v, hv, _, heq⟩ | ⟨_, v, _, heq⟩
    · have hlabel := congrArg (UserEntry.label (effectiveInboundProtocol N)) heq
      simp only [virtualEntry, label_labelUser, Option.some.injEq] at hlabel
      obtain ⟨hname, rfl⟩ := virtualUserName_inj.1 hlabel
      obtain rfl := user_unique hu (husers ▸ hv) hname
      exact heq.symm
    · have hlabel := congrArg (UserEntry.label (effectiveInboundProtocol N)) heq
      simp only [virtualEntry, plainEntry, label_labelUser, Option.some.injEq] at hlabel
      exact absurd hlabel (virtualUserName_ne_name _ _ _)
  · intro hplain
    have he := hclients _ ((mem_clientUsers_view hi).2 (.inr ⟨hplain, u, hu, rfl⟩))
    rcases (mem_clientUsers_view hi).1 he with ⟨t', _, v, _, _, heq⟩ | ⟨_, v, hv, heq⟩
    · have hlabel := congrArg (UserEntry.label (effectiveInboundProtocol N)) heq
      simp only [virtualEntry, plainEntry, label_labelUser, Option.some.injEq] at hlabel
      exact absurd hlabel.symm (virtualUserName_ne_name _ _ _)
    · have hlabel := congrArg (UserEntry.label (effectiveInboundProtocol N)) heq
      simp only [plainEntry, label_labelUser, Option.some.injEq] at hlabel
      obtain rfl := user_unique hu (husers ▸ hv) hlabel
      exact heq.symm

/-- The config of a node that is not covered changes with what it shows of the credentials. -/
theorem config_eq_iff {flags : Flags} (hcov : ¬ c.Covered ns secret N) :
    computeConfig ((c.withSecret ns secret result).view flags N) = computeConfig (c.view flags N) ↔
      c.SameRelayCreds (c.withSecret ns secret result) N ∧ c.SameEntries (c.withSecret ns secret result) N := by
  refine ⟨fun h => ⟨sameRelayCreds_of_config_eq rfl h, sameEntries_of_config_eq rfl h⟩, fun ⟨hrelay, hentries⟩ => ?_⟩
  by_cases hi : N.hasRole .inbound = true
  · exact (looksAlike_of_not_covered hi hcov hrelay hentries).computeConfig_eq flags
  · exact computeConfig_of_not_inbound flags (by simpa using hi) hrelay.1

theorem noLostSecret_view (flags : Flags) (ha : c.Answers) :
    c.NoLostSecret flags ns secret result ↔ ∀ N ∈ c.nodes, ¬ c.Covered ns secret N →
      c.SameRelayCreds (c.withSecret ns secret result) N ∧ c.SameEntries (c.withSecret ns secret result) N := by
  refine forall₂_congr fun N hN => ?_
  have hwoken : WokenBySecret (c.withSecret ns secret result) ns secret N.name ↔ c.Covered ns secret N :=
    (ha.withSecret).wokenBySecret_iff hN
  rw [ha.output_eq_iff ha.withSecret, hwoken, or_comm, or_iff_not_imp_left]
  exact imp_congr_right fun hcov => config_eq_iff hcov

end

end Cluster

/-- Every node whose config changes with a Secret is woken exactly when the
nodes that no ExternalOutbound of that Secret covers show the same relay
credentials and the same user entries as before. -/
theorem noLostSecret_iff [Library] [MapOrder] {flags : Flags} {c : Cluster} {ns secret : String}
    {result : Except ApiError (GoMap String String)} (ha : c.Answers) :
    c.NoLostSecret flags ns secret result ↔ ∀ N ∈ c.nodes, ¬ c.Covered ns secret N →
      c.SameRelayCreds (c.withSecret ns secret result) N ∧ c.SameEntries (c.withSecret ns secret result) N :=
  Cluster.noLostSecret_view flags ha

/-! ### The Secret of a user comes after the user -/

def edgeSG : SingBoxNode where
  metadata := .named "edge-sg"
  spec :=
    { SingBoxNodeSpec.bare with
      address := "192.0.2.40", region := "sg", roles := [.inbound], inboundProtocol := some .socks5,
      supportedProtocols := [Port.socks.listener .socks5] }

def dana : User where
  metadata := .named "dana"
  spec := { authSecret := { name := "dana-auth" } }

def edgeWithDana : Cluster where
  ns := "proxy"
  nodes := [edgeSG]
  users := [dana]
  nodes_nodup := List.nodup_singleton _
  externalOutbounds_nodup := noExternals_nodup
  users_nodup := List.nodup_singleton _
  policies_nodup := noPolicies_nodup

/-- What `dana-auth` holds once it is created. -/
def danaAuth : GoMap String String := (∅ : GoMap String String).insert "uuid" "4c3f"

theorem edgeWithDana_answers : edgeWithDana.Answers := ⟨fun _ => rfl, fun _ _ h => by cases h; rfl⟩

section
attribute [local instance] plainLibrary storedOrder

theorem edgeSG_servesPlain : edgeWithDana.ServesPlain edgeSG :=
  Cluster.servesPlain_of_alone rfl rfl rfl (by decide)

/-- The entry of `dana` is made from the UUID of the Secret. -/
theorem dana_entry_changes :
    ¬ edgeWithDana.SameEntries (edgeWithDana.withSecret "proxy" "dana-auth" (.ok danaAuth)) edgeSG := by
  intro h
  have heq := (h (by decide) (by decide) dana (List.mem_singleton_self _)).2 edgeSG_servesPlain
  exact absurd (congrArg UserEntry.username heq) (by decide)

theorem edgeSG_not_covered : ¬ edgeWithDana.Covered "proxy" "dana-auth" edgeSG := by
  rintro ⟨_, _, e, he, _⟩
  exact absurd he List.not_mem_nil

/-- Creating `dana-auth` gives `dana` other credentials on `edge-sg`, which is not enqueued. -/
theorem not_forall_noLostSecret :
    ¬ ∀ [Library] [MapOrder] (flags : Flags) (c : Cluster) (ns secret : String)
      (result : Except ApiError (GoMap String String)), c.Answers → c.NoLostSecret flags ns secret result := by
  intro h
  have hall := (Cluster.noLostSecret_view {} edgeWithDana_answers).1
    (h {} edgeWithDana "proxy" "dana-auth" (.ok danaAuth) edgeWithDana_answers)
  exact dana_entry_changes (hall edgeSG (List.mem_singleton_self _) edgeSG_not_covered).2

theorem noLostSecret_iff_dana :
    edgeWithDana.Answers ∧ ¬ edgeWithDana.NoLostSecret {} "proxy" "dana-auth" (.ok danaAuth) :=
  ⟨edgeWithDana_answers, fun hall => dana_entry_changes
    ((noLostSecret_iff edgeWithDana_answers).1 hall edgeSG (List.mem_singleton_self _) edgeSG_not_covered).2⟩

end

end SingboxOperator
