import SingboxOperator.ApiServer.Merge
/-!
# Policy traffic of a client

The route rule of a policy goes to the selector `ai` when its target declares
that group. The selector and its members come from a different loop, which
leaves out what the user cannot reach. So the rule keeps its promise, to
reject what has no path, only where every such target has one.
-/
open SingboxOperator.Lib

namespace SingboxOperator

section
variable [Library] [MapOrder] {parseAddr : String → Bool}

/-! ## The promise -/

/-- The rule of a policy with target `t` in a merged config: it rejects, or it
goes to a selector `ai` one of whose members is an emitted path to `t`; and it
rejects when the user has no path to `t`. -/
structure RejectsOrReaches (c : Cluster) (u : User) (obs : List ClientOutbound) (parseAddr : String → Bool) (m : Object)
    (t : String) (rule : RouteRule) : Prop where
  merged : clientRuleValue rule ∈ mergedRules m
  reaches : rule.action = "reject" ∨ rule.action = "" ∧ rule.outbound = "ai" ∧
    ∃ members, selectorValue "ai" members ∈ mergedOutbounds m ∧
      ∃ I ∈ c.nodes, ∃ ob, .proxy ob ∈ obs ∧ ob.tag = pathTag t I.name ∧ ob.tag ∈ members ∧
        (ob.toValue ∈ mergedOutbounds m ∨ bootstrap parseAddr ob.toValue ∈ mergedOutbounds m)
  rejects : (∀ I, ¬ c.PathTo u I t) → rule.action = "reject"

/-- Every route policy with the only target `t` has such a rule. -/
def PolicyTrafficSafe (c : Cluster) (u : User) (cin : ClientConfigInput) (obs : List ClientOutbound)
    (parseAddr : String → Bool) (m : Object) : Prop :=
  ∀ p ∈ c.policies, p.spec.action = .route → ∀ t, egressCandidates p c.nodes c.externalOutbounds = [t] →
    ∃ rule, clientPolicyRule cin p = some rule ∧ RejectsOrReaches c u obs parseAddr m t rule

variable {c : Cluster} {u : User} {cred : UserCredential} {cin : ClientConfigInput} {t : String}

omit [Library] in
/-- A path to a target of the group `ai` is a member of the selector `ai`. -/
theorem ReadsAll.selector_ai (hc : ReadsAll c u cred cin) (hai : c.HasGroup t "ai") {I : SingBoxNode}
    (h : c.PathTo u I t) :
    ∃ members, .selector "ai" members ∈ buildSelectors cin ∧
      ∃ path ∈ emittedPaths cin, path.outbound.tag = pathTag t I.name ∧ path.outbound.tag ∈ members := by
  obtain ⟨path, hpath, hgroup⟩ := hc.exists_path_group.2 ⟨h, hai, by simp [clientGroups], .inl rfl⟩
  have hmem : path.outbound.tag ∈ (groupOutbounds cin).get "ai" [] := mem_groupOutbounds.2 ⟨path, hpath.1, hgroup, rfl⟩
  exact ⟨_, mem_buildSelectors.2 ⟨"ai", List.ne_nil_of_mem hmem, rfl⟩, path, hpath.1, hpath.tag,
    mem_sortCompact.2 hmem⟩

theorem ReadsAll.policyTrafficSafe (hc : ReadsAll c u cred cin) {obs : List ClientOutbound}
    (hb : buildClientConfig cin = .ok obs) {template : Except String Object} {m : Object}
    (hm : mergeClientConfig parseAddr template (obs.map ClientOutbound.toValue) cin = .ok m) :
    PolicyTrafficSafe c u cin obs parseAddr m ↔
      ∀ p ∈ c.policies, p.spec.action = .route → ∀ t, egressCandidates p c.nodes c.externalOutbounds = [t] →
        c.HasGroup t "ai" → ∃ I, c.PathTo u I t := by
  -- the rule of such a policy depends on the group of its target alone
  have hrule : ∀ p ∈ c.policies, p.spec.action = .route → ∀ t, egressCandidates p c.nodes c.externalOutbounds = [t] →
      clientPolicyRule cin p = some (if targetHasClientGroup cin t "ai" then
        { policyMatchRule p.spec.matchFields with outbound := "ai" }
        else { policyMatchRule p.spec.matchFields with action := "reject" }) := by
    intro p _ ha t hcand
    simp only [clientPolicyRule, ha, hc.resolves_unique.2 hcand]
    by_cases hg : targetHasClientGroup cin t "ai" = true <;> simp [hg]
  constructor
  · intro hsafe p hp ha t hcand hai
    obtain ⟨rule, hr, hreach⟩ := hsafe p hp ha t hcand
    rw [hrule p hp ha t hcand, if_pos (hc.hasGroup.2 hai), Option.some.injEq] at hr
    by_contra hnone
    have := hreach.rejects (not_exists.1 hnone)
    simp [← hr, policyMatchRule] at this
  · intro hpath p hp ha t hcand
    obtain ⟨rules, targets, tmpl, hpol, _, hfrom⟩ := mergeClientConfig_ok hm
    refine ⟨_, hrule p hp ha t hcand, ?_⟩
    have hmerged : clientRuleValue (if targetHasClientGroup cin t "ai" then
        { policyMatchRule p.spec.matchFields with outbound := "ai" }
        else { policyMatchRule p.spec.matchFields with action := "reject" }) ∈ mergedRules m := by
      have hmem : p ∈ sortOn policyKey cin.egressPolicies := by rwa [mem_sortOn, hc.policies]
      rw [hfrom.rules, mergeRules, (buildClientPolicies_ok hpol).1]
      have := List.mem_map_of_mem (f := clientRuleValue) (List.mem_filterMap.2 ⟨p, hmem, hrule p hp ha t hcand⟩)
      simp only [List.append_assoc]
      exact List.mem_append_right _ (List.mem_append_left _ this)
    have hout : ∀ ob ∈ obs, ob.toValue ∈ mergedOutbounds m ∨ bootstrap parseAddr ob.toValue ∈ mergedOutbounds m := by
      intro ob hob
      have hin := List.mem_map_of_mem (f := ClientOutbound.toValue) hob
      rcases hfrom.outbounds with h | h
      · exact .inl (h ▸ hin)
      · exact .inr (h ▸ List.mem_map_of_mem hin)
    by_cases hg : targetHasClientGroup cin t "ai" = true
    · have hai := hc.hasGroup.1 hg
      obtain ⟨I, hI⟩ := hpath p hp ha t hcand hai
      -- the outbounds are built from the input with the targets of policies reserved
      unfold buildClientConfig at hb
      obtain ⟨⟨_, reserved⟩, _, hb⟩ := Except.bind_ok hb
      obtain rfl := Except.ok.inj hb
      obtain ⟨members, hsel, path, hem, htag, hmember⟩ := (hc.reserve reserved).selector_ai hai hI
      have hsel' := List.mem_append_left [.direct] (List.mem_append_right
        ((emittedPaths (reserveTargets cin reserved)).map fun path => .proxy path.outbound) hsel)
      have hob : .proxy path.outbound ∈
          (emittedPaths (reserveTargets cin reserved)).map (fun path => .proxy path.outbound) ++
            buildSelectors (reserveTargets cin reserved) ++ [ClientOutbound.direct] :=
        List.mem_append_left _ (List.mem_append_left _ (List.mem_map.2 ⟨path, hem, rfl⟩))
      rw [if_pos hg] at hmerged ⊢
      exact ⟨hmerged, .inr ⟨rfl, rfl, members, (hout _ hsel').elim id id, I, hI.entry, path.outbound, hob, htag, hmember,
        hout _ hob⟩, fun hno => absurd hI (hno I)⟩
    · rw [if_neg hg] at hmerged ⊢
      exact ⟨hmerged, .inl rfl, fun _ => rfl⟩

end

/-- The rules of the policies keep their promise exactly when the user has a
path to every target of a policy that is in the group `ai`. -/
theorem policyTrafficSafe_iff [Library] [MapOrder] {parseAddr : String → Bool} {c : Cluster} {u : User}
    {cred : UserCredential} {cin : ClientConfigInput} (hin : clientConfigInput c u cred = .ok cin)
    {obs : List ClientOutbound} (hb : buildClientConfig cin = .ok obs) {template : Except String Object} {m : Object}
    (hm : mergeClientConfig parseAddr template (obs.map ClientOutbound.toValue) cin = .ok m) :
    PolicyTrafficSafe c u cin obs parseAddr m ↔
      ∀ p ∈ c.policies, p.spec.action = .route → ∀ t, egressCandidates p c.nodes c.externalOutbounds = [t] →
        c.HasGroup t "ai" → ∃ I, c.PathTo u I t :=
  (clientConfigInput_readsAll hin).policyTrafficSafe hb hm

/-! ### A target in another region -/

def aiExit : SingBoxNode where
  metadata := .named "ai-exit"
  spec := { address := "ai-exit.test", region := "jp", roles := [.outbound], relayPort := Port.socks.number,
            relayPort_le := Port.socks.le, clientGroups := ["ai"] }

def viaAI : EgressPolicy where
  metadata := .named "via-ai"
  spec :=
    { egressSelector := { matchNames := ["ai-exit"] }, matchFields := { domain := ["ai.example"] }, action := .route }

def aiCluster : Cluster where
  ns := "proxy"
  nodes := [gate, aiExit]
  users := [alice]
  policies := [viaAI]
  nodes_nodup := by decide
  externalOutbounds_nodup := noExternals_nodup
  users_nodup := edgeCluster.users_nodup
  policies_nodup := by decide

def aiInput : ClientConfigInput where
  user := alice
  egressPolicies := [viaAI]
  userCred := ⟨aliceUUID⟩
  inboundNodes := [gate]
  outboundsByName := GoMap.assignAll SingBoxNode.name id ∅ [aiExit]
  policyOnlyEgressNames := nameSet ["ai-exit"]

def emptyTemplate : Object := [("route", .obj [("rules", .arr [])])]

/-- The rule goes to `ai`, and `direct` is the only outbound. -/
def aiMerged : Object :=
  [("route", .obj [("rules", .arr [.obj [("domain", Value.strings ["ai.example"]), ("outbound", .str "ai")]])]),
    ("experimental", .obj [("clash_api", .obj [("default_mode", .str "Auto")])]),
    ("outbounds", .arr [.obj [("type", .str "direct"), ("tag", .str "direct")]])]

section
attribute [local instance] plainLibrary storedOrder

theorem aiInput_read : clientConfigInput aiCluster alice ⟨aliceUUID⟩ = .ok aiInput := by rfl

theorem aiInput_built : buildClientConfig aiInput = .ok [.direct] := by rfl

theorem aiInput_merged :
    mergeClientConfig (fun _ => true) (.ok emptyTemplate) ([ClientOutbound.direct].map ClientOutbound.toValue) aiInput =
      .ok aiMerged := by rfl

theorem viaAI_candidates : egressCandidates viaAI aiCluster.nodes aiCluster.externalOutbounds = ["ai-exit"] := by decide

theorem aiExit_group : aiCluster.HasGroup "ai-exit" "ai" :=
  .inl ⟨aiExit, List.mem_cons_of_mem _ List.mem_cons_self, by decide, rfl, List.mem_cons_self⟩

theorem aiExit_no_path : ¬ ∃ I, aiCluster.PathTo alice I "ai-exit" := by
  rintro ⟨I, h⟩
  obtain rfl : I = gate := by
    rcases List.mem_pair.1 h.entry with rfl | rfl
    · rfl
    · exact absurd h.inbound (by decide)
  rcases h.offers with ⟨n, hn, _, hname, _, hreg, _⟩ | ⟨hr, _⟩ | ⟨e, he, _⟩
  · rcases List.mem_pair.1 hn with rfl | rfl
    · exact absurd hname (by decide)
    · exact absurd hreg (by decide)
  · exact absurd hr (by decide)
  · exact absurd he List.not_mem_nil

/-- The traffic for `ai.example` is sent to a selector that does not exist. -/
theorem not_forall_policyTrafficSafe :
    ¬ ∀ [Library] [MapOrder] (parseAddr : String → Bool) (c : Cluster) (u : User) (cred : UserCredential)
      (cin : ClientConfigInput) (obs : List ClientOutbound) (template : Except String Object) (m : Object), u ∈ c.users →
        clientConfigInput c u cred = .ok cin → buildClientConfig cin = .ok obs →
        mergeClientConfig parseAddr template (obs.map ClientOutbound.toValue) cin = .ok m →
          PolicyTrafficSafe c u cin obs parseAddr m := by
  intro h
  have hsafe := h (fun _ => true) aiCluster alice _ _ _ _ _ (List.mem_singleton_self _) aiInput_read aiInput_built
    aiInput_merged
  exact aiExit_no_path (((clientConfigInput_readsAll aiInput_read).policyTrafficSafe aiInput_built aiInput_merged).1 hsafe
    viaAI (List.mem_singleton_self _) rfl _ viaAI_candidates aiExit_group)

theorem policyTrafficSafe_iff_ai :
    mergeClientConfig (fun _ => true) (.ok emptyTemplate) ([ClientOutbound.direct].map ClientOutbound.toValue) aiInput =
        .ok aiMerged ∧
      ¬ PolicyTrafficSafe aiCluster alice aiInput [.direct] (fun _ => true) aiMerged :=
  ⟨aiInput_merged, fun hsafe => aiExit_no_path ((policyTrafficSafe_iff aiInput_read aiInput_built aiInput_merged).1 hsafe
    viaAI (List.mem_singleton_self _) rfl _ viaAI_candidates aiExit_group)⟩

end

end SingboxOperator
