import SingboxOperator.Engine.Spec
/-!
# Denying one more target

Adding a target to the denied set of a user takes entries out of the client
inbound, and in one case puts others in: when the node has policies and the
last pair of a user and a target goes, every user gets a plain entry instead.
-/
open SingboxOperator.Lib

namespace SingboxOperator

/-- The input with `t` added to the denied set of `user`. -/
def denyTarget (input : Input) (user : User) (t : String) : Input :=
  { input with
    userNodeRestrictions := input.userNodeRestrictions.insert user.name
      ((input.userNodeRestrictions.get user.name ∅).insert t true) }

/-- Every entry of every inbound stands in the inbound of that tag before. -/
def NoNewEntry (before after : SingboxConfig) : Prop :=
  ∀ ib ∈ after.inbounds, ∀ e ∈ ib.users, ∃ ib' ∈ before.inbounds, ib'.tag = ib.tag ∧ e ∈ ib'.users

variable {input : Input} {user : User} {t : String}

/-- Only the pair of the user and the target is affected. -/
theorem allows_denyTarget (v : User) (s : String) :
    (denyTarget input user t).allows v s = (input.allows v s && !(v.name = user.name && s = t)) := by
  unfold Input.allows denyTarget isNodeAllowed
  by_cases hv : v.name = user.name
  · by_cases hs : s = t
    · simp [hv, hs]
    · simp [hv, hs, GoMap.get_insert_ne _ _ _ hs]
  · simp [hv, GoMap.get_insert_ne _ _ _ hv]

section
variable [Library] [MapOrder]

/-- The node has policies, and the user and the target are the last pair it serves. -/
def LastPair (input : Input) (user : User) (t : String) : Prop :=
  input.node.hasRole .inbound = true ∧ clientPort input ≠ 0 ∧ input.egressPolicies ≠ [] ∧
    (t ∈ targets input ∧ ∃ v ∈ input.users, v.name = user.name ∧ input.allows v t = true) ∧
    ∀ s ∈ targets input, ∀ v ∈ input.users, input.allows v s = true → s = t ∧ v.name = user.name

omit [Library] [MapOrder] in
theorem hasOutboundPeers_denyTarget : hasOutboundPeers (denyTarget input user t) = hasOutboundPeers input := rfl

/-- The client entries after the denial: the targets do not depend on it, the pairs do. -/
theorem mem_clientUsers_denyTarget {e : UserEntry} :
    e ∈ clientUsers (denyTarget input user t) ↔
      (∃ s ∈ targets input, ∃ v ∈ input.users, (input.allows v s = true ∧ ¬ (v.name = user.name ∧ s = t)) ∧
        e = virtualUserEntry input (effectiveInboundProtocol input.node) s v) ∨
      ((∀ s ∈ targets input, ∀ v ∈ input.users, input.allows v s = true → v.name = user.name ∧ s = t) ∧
        (input.egressPolicies ≠ [] ∨ hasOutboundPeers input = false) ∧
        ∃ v ∈ input.users, e = plainUserEntry input (effectiveInboundProtocol input.node) input.node.name v) := by
  have htargets : targets (denyTarget input user t) = targets input := rfl
  rw [mem_clientUsers, htargets, hasOutboundPeers_denyTarget]
  simp only [allows_denyTarget]
  refine or_congr ?_ (and_congr ?_ Iff.rfl)
  · simp only [Bool.and_eq_true, Bool.not_eq_true', Bool.and_eq_false_iff, decide_eq_false_iff_not, not_and_or]
    rfl
  · unfold NoPair
    rw [htargets]
    refine forall₂_congr fun s _ => forall₂_congr fun v _ => ?_
    rw [allows_denyTarget]
    cases input.allows v s <;> simp

/-- The relay inbound stays, so new entries can only be client entries. -/
theorem noNewEntry_iff :
    NoNewEntry (computeConfig input) (computeConfig (denyTarget input user t)) ↔
      (input.node.hasRole .inbound = true → clientPort input ≠ 0 →
        ∀ e ∈ clientUsers (denyTarget input user t), e ∈ clientUsers input) := by
  constructor
  · intro h hi hp e he
    obtain ⟨ib', hib', htag, he'⟩ := h _ (mem_inbounds.2 (.inl ⟨hi, hp, List.ne_nil_of_mem he, rfl⟩)) e he
    rcases mem_inbounds.1 hib' with ⟨_, _, _, rfl⟩ | ⟨_, rfl⟩
    · exact he'
    · exact absurd htag.symm (inboundTag_ne_relayTag _)
  · intro h ib hib e he
    rcases mem_inbounds.1 hib with ⟨hi, hp, _, rfl⟩ | ⟨ho, rfl⟩
    · have he' := h hi hp e he
      exact ⟨_, mem_inbounds.2 (.inl ⟨hi, hp, List.ne_nil_of_mem he', rfl⟩), rfl, he'⟩
    · exact ⟨_, mem_inbounds.2 (.inr ⟨ho, rfl⟩), rfl, he⟩

/-- After the last pair is gone the client inbound has the plain entries. -/
theorem LastPair.clientUsers_eq (h : LastPair input user t) :
    clientUsers (denyTarget input user t) =
      buildUsersBlock input (effectiveInboundProtocol input.node) input.node.name := by
  obtain ⟨_, _, hpol, _, hlast⟩ := h
  refine clientUsers_of_noPair (fun s hs v hv => ?_) (.inl hpol)
  rw [allows_denyTarget]
  cases hallow : input.allows v s with
  | false => rfl
  | true => simp [hlast s hs v hv hallow]

/-- Denying adds an entry exactly when it takes the last pair of a node with
policies, and then the client inbound has the plain entries of all users. -/
theorem denyTarget_entries (input : Input) (user : User) (t : String) :
    (NoNewEntry (computeConfig input) (computeConfig (denyTarget input user t)) ↔ ¬ LastPair input user t) ∧
    (LastPair input user t → ∃ ib ∈ (computeConfig (denyTarget input user t)).inbounds,
      ib.tag = inboundTag input.node ∧
        ib.users = buildUsersBlock input (effectiveInboundProtocol input.node) input.node.name) := by
  rw [noNewEntry_iff]
  refine ⟨⟨fun hnew hlast => ?_, fun hlast hi hp e he => ?_⟩, fun hlast => ?_⟩
  · obtain ⟨hi, hp, _, ⟨ht, v, hv, _, hallow⟩, _⟩ := id hlast
    have hplain := hnew hi hp (plainUserEntry input (effectiveInboundProtocol input.node) input.node.name v) (by
      rw [hlast.clientUsers_eq]
      exact List.mem_map_of_mem hv)
    -- before the denial the entries are virtual, and none of those is labelled by a user alone
    rcases mem_clientUsers.1 hplain with ⟨s, _, w, _, _, heq⟩ | ⟨hnone, _⟩
    · have hl := congrArg (UserEntry.label (effectiveInboundProtocol input.node)) heq
      rw [label_plainUserEntry, label_virtualUserEntry, Option.some.injEq] at hl
      exact virtualUserName_ne_name _ _ _ hl.symm
    · simp [hnone t ht v hv] at hallow
  · rcases mem_clientUsers_denyTarget.1 he with ⟨s, hs, v, hv, ⟨hallow, _⟩, rfl⟩ | ⟨hall, hmode, hplain⟩
    · exact mem_clientUsers.2 (.inl ⟨s, hs, v, hv, hallow, rfl⟩)
    · refine mem_clientUsers.2 (.inr ⟨fun s hs v hv => ?_, hmode, hplain⟩)
      by_contra hallow
      rw [Bool.not_eq_false] at hallow
      obtain ⟨hname, rfl⟩ := hall s hs v hv hallow
      rcases hmode with hpol | hpeers
      · exact hlast ⟨hi, hp, hpol, ⟨hs, v, hv, hname, hallow⟩, fun s' hs' v' hv' ha' => (hall s' hs' v' hv' ha').symm⟩
      · rw [targets_eq_nil hpeers] at hs
        cases hs
  · obtain ⟨hi, hp, _, ⟨_, v, hv, _⟩, _⟩ := id hlast
    have hne : clientUsers (denyTarget input user t) ≠ [] := by
      rw [hlast.clientUsers_eq]
      exact List.ne_nil_of_mem (List.mem_map_of_mem hv)
    exact ⟨_, mem_inbounds.2 (.inl ⟨hi, hp, hne, rfl⟩), rfl, hlast.clientUsers_eq⟩

end

/-! ### A policy and the last pair -/

def carol : User := { metadata := .named "carol", spec := { authSecret := { name := "carol-auth" } } }

def gateway : SingBoxNode where
  metadata := .named "gateway"
  spec :=
    { SingBoxNodeSpec.bare with
      address := "203.0.113.2", region := "hk", roles := [.inbound],
      supportedProtocols := [{ protocol := .trojan, port := 8443, port_pos := by decide, port_le := by decide }],
      inboundProtocol := some .trojan }

def landing : SingBoxNode where
  metadata := .named "landing"
  spec := { address := "203.0.113.3", region := "hk", roles := [.outbound], relayPort := Port.container.number,
            relayPort_le := Port.container.le }

def blockAds : EgressPolicy where
  metadata := .named "block-ads"
  spec := { matchFields := { domain := ["ads.example"] }, action := .reject }

/-- One user, one target and one policy. -/
def lastPairInput : Input where
  node := gateway
  users := [carol]
  userCreds := (∅ : GoMap String UserCredential).insert "carol" ⟨"2f1c1d3e-6a5b-4c7d-8e9f-0a1b2c3d4e5f"⟩
  outboundNodes := [landing]
  outboundNodesByName := (∅ : GoMap String SingBoxNode).insert "landing" landing
  egressPolicies := [blockAds]

section
attribute [local instance] plainLibrary storedOrder

theorem lastPairInput_lastPair : LastPair lastPairInput carol "landing" := by
  refine ⟨by decide, by decide, List.cons_ne_nil _ _, ⟨by decide, carol, List.mem_singleton_self _, rfl, by decide⟩, ?_⟩
  have htargets : targets lastPairInput = ["landing"] := by decide
  intro s hs v hv _
  rw [htargets, List.mem_singleton] at hs
  rw [List.mem_singleton.1 hv]
  exact ⟨hs, rfl⟩

/-- Denying `landing` to `carol` replaces the entry `carol#landing` by an entry `carol`. -/
theorem not_forall_noNewEntry :
    ¬ ∀ [Library] [MapOrder] (input : Input) (user : User) (t : String),
      NoNewEntry (computeConfig input) (computeConfig (denyTarget input user t)) := by
  intro h
  have hnew := noNewEntry_iff.1 (h lastPairInput carol "landing") (by decide) (by decide)
  rw [lastPairInput_lastPair.clientUsers_eq] at hnew
  revert hnew
  decide

end

end SingboxOperator
