import SingboxOperator.ApiServer.Merge
/-!
# Rejects of the template

A client takes the first rule that matches and is final. In a merged config
two kinds of rules stand in front of a rule of the template they came after
before: the domestic ones, which are taken forward, and those of the Clash
modes, which match every connection of their mode.
-/
open SingboxOperator.Lib

namespace SingboxOperator

def clientModes : List String := clientModeAuto :: clientRegionModes.map RegionMode.name

/-- How the rules match one connection of a client in one of the four modes.
What a rule asks for is left open. -/
structure Matching where
  mode : String
  mode_mem : mode ∈ clientModes
  holds : Value → Bool
  /-- The outbound is no condition. -/
  holds_congr : ∀ rule rule' : Object, (∀ key, "outbound" ≠ key → rule'.get key = rule.get key) →
    holds (.obj rule') = holds (.obj rule)
  /-- A rule that only names a mode matches in that mode. -/
  holds_modeRule : ∀ name ∈ clientModes, ∀ outbound, holds (modeRule name outbound) = decide (name = mode)

def hasAction (action : String) (r : Value) : Bool := r.asObject.any fun rule => (rule.get "action").isString action

/-- `sniff` and `resolve` go on with the next rule. -/
def isFinal (r : Value) : Bool := !(hasAction "sniff" r || hasAction "resolve" r)

namespace Matching
variable (M : Matching)

def firstMatch (rules : List Value) : Option Value := rules.find? fun r => isFinal r && M.holds r

def rejects (rules : List Value) : Bool := (M.firstMatch rules).any (hasAction "reject")

/-- There is a rule of the client's mode: a regional selector is, for `Auto` any, for a region its own. -/
def HasModeRule (tags : List String) : Prop :=
  ∃ mode ∈ clientRegionModes, mode.tag ∈ tags ∧ (M.mode = clientModeAuto ∨ M.mode = mode.name)

variable {M} {rules rules' : List Value}

theorem firstMatch_append : M.firstMatch (rules ++ rules') = (M.firstMatch rules).or (M.firstMatch rules') :=
  List.find?_append

theorem rejects_append_of_none (h : M.firstMatch rules = none) : M.rejects (rules ++ rules') = M.rejects rules' := by
  rw [rejects, firstMatch_append, h]
  rfl

theorem rejects_append_of_some {r : Value} (h : M.firstMatch rules = some r) :
    M.rejects (rules ++ rules') = hasAction "reject" r := by
  rw [rejects, firstMatch_append, h]
  rfl

theorem firstMatch_eq_none : M.firstMatch rules = none ↔ ∀ r ∈ rules, isFinal r = true → M.holds r = false := by
  simp [firstMatch]

theorem firstMatch_some {r : Value} (h : M.firstMatch rules = some r) : r ∈ rules ∧ isFinal r = true ∧ M.holds r = true := by
  have hr := List.find?_some h
  rw [Bool.and_eq_true] at hr
  exact ⟨List.mem_of_find?_eq_some h, hr⟩

/-! ## What the parts of the merged rules decide -/

theorem firstMatch_leading (h : M.rejects rules = true) : M.firstMatch (rules.takeWhile isLeadingRule) = none := by
  cases hlead : M.firstMatch (rules.takeWhile isLeadingRule) with
  | none => rfl
  | some r =>
    rw [← List.takeWhile_append_dropWhile (p := isLeadingRule) (l := rules), rejects_append_of_some hlead] at h
    have hr := List.mem_takeWhile_imp (firstMatch_some hlead).1
    simp only [isLeadingRule, hasAction, Option.any_eq_true, Bool.or_eq_true, Value.isString_iff] at hr h
    obtain ⟨rule, hobj, hsniff⟩ := hr
    obtain ⟨rule', hobj', hreject⟩ := h
    obtain rfl := Option.some.inj (hobj.symm.trans hobj')
    simp [hreject] at hsniff

theorem hasAction_modeRule (action name outbound : String) : hasAction action (modeRule name outbound) = false := rfl

theorem name_mem_clientModes {mode : RegionMode} (h : mode ∈ clientRegionModes) : mode.name ∈ clientModes :=
  List.mem_cons_of_mem _ (List.mem_map_of_mem h)

/-- A rule of a mode decides about every connection of that mode. -/
theorem firstMatch_modeRules {tags : List String} :
    (¬ M.HasModeRule tags → M.firstMatch (modeRules tags) = none) ∧
      (M.HasModeRule tags → ∃ name outbound, M.firstMatch (modeRules tags) = some (modeRule name outbound)) := by
  have hholds : ∀ r ∈ modeRules tags, ∃ name outbound, r = modeRule name outbound ∧
      (M.holds r = true → M.HasModeRule tags) := by
    intro r hr
    obtain ⟨mode, hmem, htag, rfl | rfl⟩ := mem_modeRules.1 hr
    · refine ⟨_, _, rfl, fun h => ?_⟩
      rw [M.holds_modeRule _ (name_mem_clientModes hmem)] at h
      exact ⟨mode, hmem, htag, .inr (of_decide_eq_true h).symm⟩
    · refine ⟨_, _, rfl, fun h => ?_⟩
      rw [M.holds_modeRule _ List.mem_cons_self] at h
      exact ⟨mode, hmem, htag, .inl (of_decide_eq_true h).symm⟩
  constructor
  · intro hno
    refine firstMatch_eq_none.2 fun r hr _ => ?_
    obtain ⟨_, _, _, himp⟩ := hholds r hr
    by_contra h
    exact hno (himp (by simpa using h))
  · rintro ⟨mode, hmem, htag, hmode⟩
    cases hfirst : M.firstMatch (modeRules tags) with
    | some r =>
      obtain ⟨name, outbound, rfl, _⟩ := hholds r (firstMatch_some hfirst).1
      exact ⟨name, outbound, rfl⟩
    | none =>
      have hnone := firstMatch_eq_none.1 hfirst
      rcases hmode with hauto | hregion
      · have h := hnone _ (mem_modeRules.2 ⟨mode, hmem, htag, .inr rfl⟩) rfl
        simp [M.holds_modeRule _ List.mem_cons_self, hauto] at h
      · have h := hnone _ (mem_modeRules.2 ⟨mode, hmem, htag, .inl rfl⟩) rfl
        simp [M.holds_modeRule _ (name_mem_clientModes hmem), hregion] at h

/-- A rule that is kept matches as before, with the same action. -/
theorem keptAs_same {r r' : Value} (h : KeptAs r r') :
    M.holds r' = M.holds r ∧ ∀ action, hasAction action r' = hasAction action r := by
  rcases h with ⟨_, rfl⟩ | ⟨rule, rule', rfl, rfl, _, _, hget⟩
  · exact ⟨rfl, fun _ => rfl⟩
  · refine ⟨M.holds_congr rule rule' hget, fun action => ?_⟩
    simp only [hasAction, Value.asObject, Option.any_some, hget "action" (by decide)]

theorem rejects_kept (h : List.Forall₂ KeptAs rules rules') : M.rejects rules' = M.rejects rules := by
  induction h with
  | nil => rfl
  | cons hr hrest ih =>
    rename_i r r' l l'
    obtain ⟨hholds, haction⟩ := keptAs_same (M := M) hr
    have hfinal : isFinal r' = isFinal r := by simp only [isFinal, haction]
    unfold rejects firstMatch at ih ⊢
    rw [List.find?_cons, List.find?_cons, hfinal, hholds]
    cases isFinal r && M.holds r with
    | true => exact haction "reject"
    | false => exact ih

end Matching

/-! ## When a reject is kept -/

/-- The template's reject of the connection is one of the merged rules as well,
unless a rule of a policy matches the connection. -/
def RejectKept (M : Matching) (original policyRules merged : List Value) : Prop :=
  M.rejects original = true → (∀ r ∈ policyRules, M.holds r = false) → M.rejects merged = true

/-- Nothing of what is put in front of the template's rules takes the
connection away: the first domestic rule to match it, if there is one, rejects
it; if there is none, the client's mode has no rule, and the other rules, without
those of the mode `Proxy`, reject it. -/
def Matching.NotOvertaken (M : Matching) (original : List Value) (tags : List String) : Prop :=
  match M.firstMatch ((original.dropWhile isLeadingRule).filter isDomestic) with
  | some r => hasAction "reject" r = true
  | none => ¬ M.HasModeRule tags ∧
    M.rejects (((original.dropWhile isLeadingRule).filter fun r => !isDomestic r).filter fun r => !inProxyMode r) = true

theorem rejects_mergeRules {M : Matching} {original policyRules : List Value} (config : Object) (tags : List String)
    (hrej : M.rejects original = true) (hpol : ∀ r ∈ policyRules, M.holds r = false) :
    M.rejects (mergeRules config policyRules original tags) = true ↔ M.NotOvertaken original tags := by
  have hpol' : M.firstMatch policyRules = none := Matching.firstMatch_eq_none.2 fun r hr _ => hpol r hr
  have hres : ∀ b : Bool, M.firstMatch (if b = true then [.obj [("action", .str "resolve")]] else []) = none := by
    intro b
    cases b <;> rfl
  unfold mergeRules Matching.NotOvertaken
  dsimp only
  simp only [List.append_assoc]
  rw [Matching.rejects_append_of_none (Matching.firstMatch_leading hrej), Matching.rejects_append_of_none hpol',
    Matching.rejects_append_of_none (hres _)]
  cases hdom : M.firstMatch ((original.dropWhile isLeadingRule).filter isDomestic) with
  | some r =>
    rw [Matching.rejects_append_of_some hdom]
  | none =>
    rw [Matching.rejects_append_of_none hdom]
    by_cases hmode : M.HasModeRule tags
    · obtain ⟨name, outbound, hfirst⟩ := Matching.firstMatch_modeRules.2 hmode
      rw [Matching.rejects_append_of_some hfirst, Matching.hasAction_modeRule]
      simp [hmode]
    · rw [Matching.rejects_append_of_none (Matching.firstMatch_modeRules.1 hmode),
        Matching.rejects_kept (forall₂_retainRule _)]
      simp only [hmode, not_false_eq_true, true_and]

/-- The rules the policies of the input generate. -/
def policyRuleValues [Library] [MapOrder] (input : ClientConfigInput) : List Value :=
  ((sortOn policyKey input.egressPolicies).filterMap (clientPolicyRule input)).map clientRuleValue

/-- A reject of the template is kept exactly when it is not overtaken. -/
theorem rejectKept_iff [Library] [MapOrder] {parseAddr : String → Bool} {t : Object} {generated : List Value}
    {input : ClientConfigInput} {m : Object} (h : mergeClientConfig parseAddr (.ok t) generated input = .ok m)
    (M : Matching) :
    RejectKept M (mergedRules t) (policyRuleValues input) (mergedRules m) ↔
      (M.rejects (mergedRules t) = true → (∀ r ∈ policyRuleValues input, M.holds r = false) →
        M.NotOvertaken (mergedRules t) (outboundTags generated)) := by
  obtain ⟨rules, targets, t', hrules, ht, hfrom⟩ := mergeClientConfig_ok h
  obtain rfl := Except.ok.inj ht
  rw [hfrom.rules, (buildClientPolicies_ok hrules).1]
  exact forall_congr' fun hrej => forall_congr' fun hno => rejects_mergeRules _ _ hrej hno

/-! ### The advertisements the built-in template rejects -/

/-- A connection to an advertiser, in the mode `Auto`. -/
def toAdvertiser : Matching where
  mode := clientModeAuto
  mode_mem := List.mem_cons_self
  holds r := r.asObject.any fun rule => (rule.get "clash_mode").isString clientModeAuto ||
    ((rule.get "rule_set").asArray.getD []).any (Value.isString "category-ads-all")
  holds_congr rule rule' h := by
    simp only [Value.asObject, Option.any_some, h "clash_mode" (by decide), h "rule_set" (by decide)]
  holds_modeRule name _ outbound := by
    simp [modeRule, Value.asObject, Object.get, Value.isString, Value.asArray]

section
attribute [local instance] plainLibrary storedOrder

theorem toAdvertiser_rejected : toAdvertiser.rejects (mergedRules defaultTemplate) = true := by decide

theorem toAdvertiser_overtaken :
    ¬ toAdvertiser.NotOvertaken (mergedRules defaultTemplate) (outboundTags (hkOutbounds.map ClientOutbound.toValue)) :=
  fun h => h.1 ⟨⟨"HK", "hk"⟩, by decide, by decide, .inl rfl⟩

/-- The rule of the mode `Auto` matches first, and what the template rejects goes out through `hk`. -/
theorem not_forall_rejectKept :
    ¬ ∀ [Library] [MapOrder] (parseAddr : String → Bool) (t : Object) (generated : List Value)
      (input : ClientConfigInput) (m : Object) (M : Matching),
        mergeClientConfig parseAddr (.ok t) generated input = .ok m →
          RejectKept M (mergedRules t) (policyRuleValues input) (mergedRules m) := by
  intro h
  obtain ⟨m, hm⟩ := defaultTemplate_merged
  obtain ⟨rules, targets, t, hrules, ht, hfrom⟩ := mergeClientConfig_ok hm
  obtain rfl := Except.ok.inj ht
  have hno : ∀ r ∈ rules.map clientRuleValue, toAdvertiser.holds r = false := by
    rw [(buildClientPolicies_ok hrules).1]
    exact fun r hr => absurd hr List.not_mem_nil
  have hkept := h _ _ _ _ m toAdvertiser hm toAdvertiser_rejected fun r hr => absurd hr List.not_mem_nil
  rw [hfrom.rules] at hkept
  exact toAdvertiser_overtaken ((rejects_mergeRules _ _ toAdvertiser_rejected hno).1 hkept)

theorem rejectKept_iff_default : ∃ m, mergeClientConfig (fun _ => true) (.ok defaultTemplate)
    (hkOutbounds.map ClientOutbound.toValue) hkInput = .ok m ∧
      ¬ RejectKept toAdvertiser (mergedRules defaultTemplate) (policyRuleValues hkInput) (mergedRules m) := by
  obtain ⟨m, hm⟩ := defaultTemplate_merged
  refine ⟨m, hm, fun hkept => toAdvertiser_overtaken ((rejectKept_iff hm toAdvertiser).1 hkept toAdvertiser_rejected ?_)⟩
  exact fun r hr => absurd hr List.not_mem_nil

end

end SingboxOperator
