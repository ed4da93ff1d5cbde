import SingboxOperator.ApiServer.Paths
import SingboxOperator.Controller.PolicyReconciler
/-!
# One egress, resolved five times

The controller, the status of a policy, the client config and the engine each
resolve the egress of a policy with a loop of their own. All of them see the
same candidates. But only the controller asks whether the policy is valid. And
the engine looks its target up by name, where an outbound node hides an
external outbound of the same name, whether the selector matches it or not.
-/
open SingboxOperator.Lib

namespace SingboxOperator

/-- All five name `t`, or none when it is empty, and what is rendered on `I` under this name is matched by the selector. -/
structure ResolvesTo [Library] [MapOrder] (c : Cluster) (I : SingBoxNode) (p : EgressPolicy) (cin : ClientConfigInput)
    (input : Input) (t : String) : Prop where
  controller : (resolveEgressPolicy p c.allNodes c.allExtOutbounds).2.1 = t
  status : (policyRun p c.nodes c.externalOutbounds).status.resolvedEgress = t
  policyOnly : ∀ name, (policyOnlyEgresses [p] c.nodes c.externalOutbounds).get name false = true ↔ name = t ∧ t ≠ ""
  client : (if (resolveClientPolicyEgress cin p).2 = 1 then (resolveClientPolicyEgress cin p).1 else "") = t
  engine : egressConnectedToInbound I t c.allNodes c.allExtOutbounds = true → p.status.resolvedEgress = "" →
    ∀ site, resolvePolicyEgressName site input p = t
  rendered : egressConnectedToInbound I t c.allNodes c.allExtOutbounds = true →
    (∀ n, input.outboundNodesByName.lookup t = some n → p.spec.egressSelector.matches n.metadata = true) ∧
      (input.outboundNodesByName.lookup t = none → ∀ e, input.externalOutboundsByName.lookup t = some e →
        p.spec.egressSelector.matches e.metadata = true)

/-! ## The candidates -/

section
variable [Library]

theorem egressCandidates_perm {p : EgressPolicy} {nodes nodes' : List SingBoxNode} {outs outs' : List ExternalOutbound}
    (hn : nodes.Perm nodes') (ho : outs.Perm outs') :
    (egressCandidates p nodes outs).Perm (egressCandidates p nodes' outs') :=
  (hn.filterMap _).append (ho.filterMap _)

theorem candidates_listed (c : Cluster) (p : EgressPolicy) :
    (egressCandidates p c.nodes c.externalOutbounds).Perm (egressCandidates p c.allNodes c.allExtOutbounds) :=
  egressCandidates_perm (sortOn_perm _ _).symm (sortOn_perm _ _).symm

omit [Library] in
theorem uniqueName_perm {l l' : List String} (h : l.Perm l') : uniqueName l = uniqueName l' := by
  match l, l', h with
  | [a], l', h => rw [List.singleton_perm.1 h]
  | [], l', h => rw [List.nil_perm.1 h]
  | a :: b :: l, [x], h => exact absurd h.length_eq (by simp)
  | a :: b :: l, [], h => exact absurd h.length_eq (by simp)
  | _ :: _ :: _, _ :: _ :: _, _ => rfl

theorem egressOf_route {p : EgressPolicy} (ha : p.spec.action = .route) (nodes : List SingBoxNode)
    (outs : List ExternalOutbound) :
    egressOf p nodes outs =
      if p.spec.matchFields.valid p.spec.fallbackAction.isSome = none then uniqueName (egressCandidates p nodes outs)
      else "" := by
  unfold egressOf resolveEgressPolicy
  cases p.spec.matchFields.valid p.spec.fallbackAction.isSome with
  | some err => simp
  | none =>
    simp only [ha, if_true]
    match egressCandidates p nodes outs with
    | [] => rfl
    | [name] => rfl
    | _ :: _ :: _ => rfl

omit [Library] in
theorem getLast?_eq_uniqueName (names : List String) :
    (if names.length = 1 then names.getLast?.getD "" else "") = uniqueName names := by
  match names with
  | [] => rfl
  | [name] => rfl
  | a :: b :: l => simp [uniqueName]

omit [Library] in
theorem uniqueName_cases (names : List String) : (∃ t, names = [t]) ∨ uniqueName names = "" := by
  match names with
  | [] => exact .inr rfl
  | [t] => exact .inl ⟨t, rfl⟩
  | _ :: _ :: _ => exact .inr rfl

omit [Library] in
theorem exists_unique_of_ne_empty {names : List String} (h : uniqueName names ≠ "") :
    ∃ t, names = [t] ∧ uniqueName names = t := by
  rcases uniqueName_cases names with ⟨t, rfl⟩ | hnone
  · exact ⟨t, rfl, rfl⟩
  · exact absurd hnone h

theorem mem_egressCandidates {p : EgressPolicy} {nodes : List SingBoxNode} {outs : List ExternalOutbound} {t : String} :
    t ∈ egressCandidates p nodes outs ↔
      (∃ n ∈ nodes, n.hasRole .outbound = true ∧ p.spec.egressSelector.matches n.metadata = true ∧ n.name = t) ∨
        ∃ e ∈ outs, p.spec.egressSelector.matches e.metadata = true ∧ e.name = t := by
  simp [egressCandidates, and_assoc]

/-- A candidate is the name of an object. -/
theorem ne_empty_of_mem_egressCandidates {p : EgressPolicy} {nodes : List SingBoxNode} {outs : List ExternalOutbound}
    {t : String} (h : t ∈ egressCandidates p nodes outs) : t ≠ "" := by
  rcases mem_egressCandidates.1 h with ⟨n, _, _, _, rfl⟩ | ⟨e, _, _, rfl⟩
  · exact n.metadata.name_ne_empty
  · exact e.metadata.name_ne_empty

/-- The contribution of a route policy. -/
theorem policyOnlyEgresses_singleton {p : EgressPolicy} (ha : p.spec.action = .route) (nodes : List SingBoxNode)
    (outs : List ExternalOutbound) (name : String) :
    (policyOnlyEgresses [p] nodes outs).get name false = true ↔
      name = uniqueName (egressCandidates p nodes outs) ∧ uniqueName (egressCandidates p nodes outs) ≠ "" := by
  simp only [policyOnlyEgresses, get_nameSet, List.filterMap_cons, ha, if_true, List.filterMap_nil]
  cases hcand : egressCandidates p nodes outs with
  | nil => simp [uniqueName]
  | cons t rest =>
    cases rest with
    | nil =>
      have ht : t ≠ "" := ne_empty_of_mem_egressCandidates (hcand ▸ List.mem_singleton_self t)
      simp [uniqueName, ht]
    | cons _ _ => simp [uniqueName]

variable [MapOrder]

/-- The handler's maps hold the same candidates. -/
theorem ReadsCluster.client_names {c : Cluster} {u : User} {cred : UserCredential} {cin : ClientConfigInput}
    (hc : ReadsCluster c u cred cin) (p : EgressPolicy) :
    ∃ names : List String, resolveClientPolicyEgress cin p = (names.getLast?.getD "", names.length) ∧
      names.Perm (egressCandidates p c.nodes c.externalOutbounds) := by
  have hn : ((MapOrder.range ["resolveClientPolicyEgress", "OutboundsByName", p.name] cin.outboundsByName).map
      Prod.snd).Perm (c.nodes.filter fun n => n.hasRole .outbound) :=
    range_values_perm _ SingBoxNode.name (c.nodes_nodup.of_map.filter _) fun k n => by
      rw [hc.outbound, List.mem_filter]
  have he : ((MapOrder.range ["resolveClientPolicyEgress", "ExternalOutboundsByName", p.name]
      cin.externalOutboundsByName).map Prod.snd).Perm c.externalOutbounds :=
    range_values_perm _ ExternalOutbound.name c.externalOutbounds_nodup.of_map fun k e => hc.external
  have hperm := (hn.filterMap fun n : SingBoxNode =>
    if p.spec.egressSelector.matches n.metadata then some n.name else none).append
      (he.filterMap fun e : ExternalOutbound =>
        if p.spec.egressSelector.matches e.metadata then some e.name else none)
  rw [List.filterMap_map, List.filterMap_map, List.filterMap_filter] at hperm
  have hcand : egressCandidates p c.nodes c.externalOutbounds =
      (c.nodes.filterMap fun n => if n.hasRole .outbound = true then
        if p.spec.egressSelector.matches n.metadata then some n.name else none else none) ++
      c.externalOutbounds.filterMap fun e => if p.spec.egressSelector.matches e.metadata then some e.name else none := by
    unfold egressCandidates
    congr 1
    refine List.filterMap_congr fun n _ => ?_
    by_cases ho : n.hasRole .outbound = true <;> simp [ho]
  exact ⟨_, rfl, hcand ▸ hperm⟩

theorem ReadsCluster.client_resolves {c : Cluster} {u : User} {cred : UserCredential} {cin : ClientConfigInput}
    (hc : ReadsCluster c u cred cin) (p : EgressPolicy) :
    (if (resolveClientPolicyEgress cin p).2 = 1 then (resolveClientPolicyEgress cin p).1 else "") =
      uniqueName (egressCandidates p c.nodes c.externalOutbounds) := by
  obtain ⟨names, hr, hperm⟩ := hc.client_names p
  rw [hr, ← uniqueName_perm hperm]
  exact getLast?_eq_uniqueName names

end

/-! ## Where they part -/

namespace Cluster
variable [Library] [MapOrder] {c : Cluster} {I : SingBoxNode} {p : EgressPolicy} {flags : Flags}

omit [MapOrder] in
/-- A policy that resolves and is connected is kept by the nodes it selects. -/
theorem mem_kept_of_connected (hp : p ∈ c.policies) (ha : p.spec.action = .route) (hi : I.hasRole .inbound = true)
    (hsel : p.spec.ingressSelector.matches I.metadata = true)
    (hvalid : p.spec.matchFields.valid p.spec.fallbackAction.isSome = none) {t : String}
    (hcand : egressCandidates p c.allNodes c.allExtOutbounds = [t])
    (hconn : egressConnectedToInbound I t c.allNodes c.allExtOutbounds = true) : p ∈ c.kept I ∧ c.egress p = t := by
  have hres : resolveEgressPolicy p c.allNodes c.allExtOutbounds = ([t], t, "") := by
    simp only [resolveEgressPolicy, hvalid, ha, hcand]
  have ht : t ≠ "" := ne_empty_of_mem_egressCandidates (hcand ▸ List.mem_singleton_self t)
  refine ⟨mem_kept.2 ⟨hp, ?_⟩, congrArg (·.2.1) hres⟩
  simp [policyApplies, egressOf, hres, ha, hi, hsel, ht, hconn]

omit [Library] [MapOrder] in
theorem connected_ne_empty {t : String} (h : egressConnectedToInbound I t c.allNodes c.allExtOutbounds = true) :
    t ≠ "" := by
  rintro rfl
  have hn : findOutboundNode c.allNodes "" = none := by
    refine Option.eq_none_iff_forall_ne_some.2 fun n hn => n.metadata.name_ne_empty ?_
    exact (findOutboundNode_eq_some.1 hn).2.1
  have he : findExternalOutbound c.allExtOutbounds "" = none :=
    List.find?_eq_none.2 fun e _ he => e.metadata.name_ne_empty (of_decide_eq_true he)
  simp [egressConnectedToInbound, hn, he] at h

/-- The node that hides the egress of a policy: its selector does not match it. -/
def HiddenEgress (c : Cluster) (p : EgressPolicy) (t : String) : Prop :=
  ∃ n ∈ c.nodes, n.name = t ∧ n.hasRole .outbound = true ∧ p.spec.egressSelector.matches n.metadata = false

omit [MapOrder] in
theorem fresh_of_not_hidden (h : ¬ c.HiddenEgress p (c.egress p)) : c.fresh p = c.egress p := by
  unfold fresh
  cases hn : c.nodeTarget p with
  | none => rfl
  | some n =>
    obtain ⟨_, hmem, hname, hr⟩ := nodeTarget_eq_some.1 hn
    have hmatch : p.spec.egressSelector.matches n.metadata = true := by
      by_contra hno
      exact h ⟨n, hmem, hname, hr, by simpa using hno⟩
    simp only [hmatch, if_true]

theorem exists_resolvesTo_view {u : User} {cred : UserCredential} {cin : ClientConfigInput}
    (hc : ReadsCluster c u cred cin) (hp : p ∈ c.policies) (ha : p.spec.action = .route)
    (hi : I.hasRole .inbound = true) (hsel : p.spec.ingressSelector.matches I.metadata = true) :
    (∃ t, ResolvesTo c I p cin (c.view flags I) t) ↔
      ∀ t, egressCandidates p c.allNodes c.allExtOutbounds = [t] →
        p.spec.matchFields.valid p.spec.fallbackAction.isSome = none ∧
          (egressConnectedToInbound I t c.allNodes c.allExtOutbounds = true → ¬ c.HiddenEgress p t) := by
  have hlisted : uniqueName (egressCandidates p c.nodes c.externalOutbounds) =
      uniqueName (egressCandidates p c.allNodes c.allExtOutbounds) := uniqueName_perm (candidates_listed c p)
  have hstatus : (policyRun p c.nodes c.externalOutbounds).status.resolvedEgress =
      uniqueName (egressCandidates p c.allNodes c.allExtOutbounds) :=
    (uniqueName_perm (sortOn_perm _ _)).trans hlisted
  have hcontroller : (resolveEgressPolicy p c.allNodes c.allExtOutbounds).2.1 = _ := egressOf_route ha _ _
  constructor
  · rintro ⟨t', h⟩ t hcand
    have hunique : uniqueName (egressCandidates p c.allNodes c.allExtOutbounds) = t := by rw [hcand]; rfl
    obtain rfl : t' = t := h.status.symm.trans (hstatus.trans hunique)
    have hvalid : p.spec.matchFields.valid p.spec.fallbackAction.isSome = none := by
      by_contra hne
      have hempty := h.controller
      rw [hcontroller, if_neg hne] at hempty
      exact ne_empty_of_mem_egressCandidates (hcand ▸ List.mem_singleton_self t') hempty.symm
    refine ⟨hvalid, fun hconn ⟨n, hn, hname, hr, hno⟩ => ?_⟩
    obtain ⟨hkept, htarget⟩ := mem_kept_of_connected hp ha hi hsel hvalid hcand hconn
    have hvis := mem_visibleNodes_of_target hkept (nodeTarget_eq_some.2 ⟨ha, hn, hname.trans htarget.symm, hr⟩)
    rw [(h.rendered hconn).1 n (view_node.2 ⟨hvis, hname⟩)] at hno
    cases hno
  · intro h
    refine ⟨uniqueName (egressCandidates p c.allNodes c.allExtOutbounds), ?_, hstatus, ?_, ?_, ?_, ?_⟩
    · rw [hcontroller]
      rcases uniqueName_cases (egressCandidates p c.allNodes c.allExtOutbounds) with ⟨t, hcand⟩ | hnone
      · rw [if_pos (h t hcand).1]
      · rw [hnone, ite_self]
    · rw [← hlisted]
      exact policyOnlyEgresses_singleton ha _ _
    · rw [hc.client_resolves, hlisted]
    · intro hconn _ site
      obtain ⟨t, hcand, hunique⟩ := exists_unique_of_ne_empty (connected_ne_empty hconn)
      rw [hunique] at hconn ⊢
      obtain ⟨hvalid, hshown⟩ := h t hcand
      obtain ⟨hkept, htarget⟩ := mem_kept_of_connected hp ha hi hsel hvalid hcand hconn
      rw [resolvePolicyEgressName_view site hkept ha, fresh_of_not_hidden (htarget ▸ hshown hconn), htarget]
    · intro hconn
      obtain ⟨t, hcand, hunique⟩ := exists_unique_of_ne_empty (connected_ne_empty hconn)
      rw [hunique] at hconn ⊢
      obtain ⟨hvalid, hshown⟩ := h t hcand
      obtain ⟨hkept, htarget⟩ := mem_kept_of_connected hp ha hi hsel hvalid hcand hconn
      refine ⟨fun n hn => ?_, fun hnone e he => ?_⟩
      · obtain ⟨hvis, hname⟩ := view_node.1 hn
        obtain ⟨hmem, hr⟩ := visibleNodes_subset hvis
        by_contra hno
        exact hshown hconn ⟨n, hmem, hname, hr, by simpa using hno⟩
      · obtain ⟨hvis, hname⟩ := view_external.1 he
        have hin : t ∈ egressCandidates p c.allNodes c.allExtOutbounds := hcand ▸ List.mem_singleton_self t
        rcases mem_egressCandidates.1 hin with ⟨n, hn, hr, _, hnn⟩ | ⟨e', he', hmatch, hen⟩
        · -- a matched node would have been found first
          have hvis' := mem_visibleNodes_of_target hkept
            (nodeTarget_eq_some.2 ⟨ha, mem_allNodes.1 hn, hnn.trans htarget.symm, hr⟩)
          exact absurd hnn (view_node_none hnone n hvis')
        · rwa [external_unique (visibleExternals_subset hvis).1 (mem_allExtOutbounds.1 he') (hname.trans hen.symm)]

end Cluster

/-- The copies of egress resolution agree exactly when a unique candidate
belongs to a valid policy and, where it is connected, no node hides it. -/
theorem exists_resolvesTo_iff [Library] [MapOrder] {flags : Flags} {c : Cluster} {I : SingBoxNode} {p : EgressPolicy}
    {u : User} {cred : UserCredential} {cin : ClientConfigInput} {input : Input}
    (hin : clientConfigInput c u cred = .ok cin) (hcol : collectInput flags c I = .ok input) (hp : p ∈ c.policies)
    (ha : p.spec.action = .route) (hi : I.hasRole .inbound = true)
    (hsel : p.spec.ingressSelector.matches I.metadata = true) :
    (∃ t, ResolvesTo c I p cin input t) ↔
      ∀ t, egressCandidates p c.allNodes c.allExtOutbounds = [t] →
        p.spec.matchFields.valid p.spec.fallbackAction.isSome = none ∧
          (egressConnectedToInbound I t c.allNodes c.allExtOutbounds = true → ¬ c.HiddenEgress p t) := by
  rw [collectInput_ok hcol]
  exact Cluster.exists_resolvesTo_view (clientConfigInput_reads hin) hp ha hi hsel

/-! ### A node in the place of an external outbound -/

/-- An external outbound with the name of the node `hop`. -/
def premiumHop : ExternalOutbound where
  metadata := { hop.metadata with labels := (∅ : Labels).insert "tier" "premium" }
  spec := { protocol := .socks5, server := "192.0.2.20", port := Port.socks.number, port_pos := Port.socks.pos,
            port_le := Port.socks.le, region := "hk" }

def viaPremium : EgressPolicy where
  metadata := .named "via-premium"
  spec :=
    { egressSelector := { matchLabels := (∅ : Labels).insert "tier" "premium" }, matchFields := { domain := ["a.example"] },
      action := .route }

def hiddenCluster : Cluster where
  ns := "proxy"
  nodes := [gate, hop]
  externalOutbounds := [premiumHop]
  users := [alice]
  policies := [viaPremium]
  nodes_nodup := pathCluster.nodes_nodup
  externalOutbounds_nodup := by decide
  users_nodup := edgeCluster.users_nodup
  policies_nodup := by decide

def hiddenInput : ClientConfigInput where
  user := alice
  egressPolicies := [viaPremium]
  userCred := ⟨aliceUUID⟩
  inboundNodes := [gate]
  outboundsByName := GoMap.assignAll SingBoxNode.name id ∅ [hop]
  externalOutboundsByName := GoMap.assignAll ExternalOutbound.name id ∅ [premiumHop]
  policyOnlyEgressNames := nameSet ["hop"]

section
attribute [local instance] plainLibrary storedOrder

theorem hiddenInput_read : clientConfigInput hiddenCluster alice ⟨aliceUUID⟩ = .ok hiddenInput := by rfl

theorem hiddenCluster_collected : collectInput {} hiddenCluster gate = .ok (hiddenCluster.view {} gate) :=
  collectInput_eq_ok {} ⟨rfl, rfl, rfl, fun _ => ⟨rfl, fun _ _ _ _ h => by cases h; rfl⟩⟩

theorem hop_hides : hiddenCluster.HiddenEgress viaPremium "hop" :=
  ⟨hop, List.mem_cons_of_mem _ List.mem_cons_self, rfl, by decide, by decide⟩

theorem hop_candidate : egressCandidates viaPremium hiddenCluster.allNodes hiddenCluster.allExtOutbounds = ["hop"] := by
  decide

theorem hop_connected :
    egressConnectedToInbound gate "hop" hiddenCluster.allNodes hiddenCluster.allExtOutbounds = true := by decide

/-- The status names the external outbound `hop`, and the node `hop` is what `gate` is given. -/
theorem not_forall_exists_resolvesTo :
    ¬ ∀ [Library] [MapOrder] (flags : Flags) (c : Cluster) (I : SingBoxNode) (p : EgressPolicy) (u : User)
      (cred : UserCredential) (cin : ClientConfigInput) (input : Input), clientConfigInput c u cred = .ok cin →
        collectInput flags c I = .ok input → p ∈ c.policies → p.spec.action = .route → I ∈ c.nodes →
        I.hasRole .inbound = true → p.spec.ingressSelector.matches I.metadata = true →
          ∃ t, ResolvesTo c I p cin input t := by
  intro h
  have hagree := h {} hiddenCluster gate viaPremium alice _ _ _ hiddenInput_read hiddenCluster_collected
    List.mem_cons_self rfl List.mem_cons_self (by decide) (by decide)
  exact ((Cluster.exists_resolvesTo_view (clientConfigInput_reads hiddenInput_read) List.mem_cons_self rfl (by decide)
    (by decide)).1 hagree "hop" hop_candidate).2 hop_connected hop_hides

theorem exists_resolvesTo_iff_hop :
    clientConfigInput hiddenCluster alice ⟨aliceUUID⟩ = .ok hiddenInput ∧
      ¬ ∃ t, ResolvesTo hiddenCluster gate viaPremium hiddenInput (hiddenCluster.view {} gate) t :=
  ⟨hiddenInput_read, fun h => ((exists_resolvesTo_iff hiddenInput_read hiddenCluster_collected List.mem_cons_self rfl
    (by decide) (by decide)).1 h "hop" hop_candidate).2 hop_connected hop_hides⟩

end

end SingboxOperator
