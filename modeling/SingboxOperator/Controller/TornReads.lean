import SingboxOperator.Controller.Trigger
import SingboxOperator.Controller.UserStatus
import SingboxOperator.Controller.WakeUp
/-!
# Reads at different times

`collectInput` lists nodes, external outbounds, users and policies one after the
other, and fetches the group of each user and all the Secrets in between. What a
pass makes of them is the config of a cluster that may never have existed.

`Stage.mix` is the cluster a pass sees if it reads the rest now. A change that
enqueues neither the node nor a policy which selects it changes the config of
that cluster no more than that of the real one, whatever the Secrets hold. The
Secrets are kept apart for that reason: a pass may have read some of them, and
what it has yet to read it will find as it is then.
-/
open SingboxOperator.Lib

namespace SingboxOperator

namespace Cluster
variable {c c' c₁ c₂ : Cluster} {ev : Event} {N N₁ N₂ : SingBoxNode}

/-! ## Who wakes a node -/

section
variable [Library]

/-- The change enqueues neither the node nor a policy that selects it. -/
structure Undisturbed (c' : Cluster) (ev : Event) (N : SingBoxNode) : Prop where
  node : N.name ∉ nodeRequests c' ev
  policies : ∀ p ∈ c'.policies, p.name ∈ policyRequests c' ev → ¬ p.Selects N

/-- The nodes a user touches are inbound ones. -/
theorem Answers.inbound_of_woken_user (ha : c.Answers) {ch : Change User} (hN : N ∈ c.nodes)
    (h : Woken c (.user ch) N.name) : N.hasRole .inbound = true := by
  cases h with
  | enqueued h =>
    obtain ⟨_, u, _, hu⟩ := mem_enqueueRequests.1 h
    obtain ⟨n, hn, hi, hname⟩ := ha.mem_matchingProtocolNodeMapper.1 hu
    exact node_unique hn hN hname ▸ hi
  | policy hp => cases hp
  | userGroup hg => cases hg
  | user hu hrun h =>
    unfold reconcileUser at hrun
    split at hrun
    · cases hrun
    · obtain ⟨nodes, hnodes, hrun⟩ := Except.bind_ok hrun
      obtain rfl := Option.some.inj (Except.ok.inj hrun)
      obtain ⟨n, hn, hname⟩ := List.mem_map.1 h
      rw [← (findMatchingInboundNodes_eq_ok.1 hnodes).2.2] at hn
      obtain ⟨hmem, hactive⟩ := List.mem_filter.1 hn
      rw [Bool.and_eq_true] at hactive
      exact node_unique hmem hN hname ▸ hactive.1

theorem Answers.not_woken_of_undisturbed (ha : c'.Answers) (hN : N ∈ c'.nodes) (h : c'.Undisturbed ev N) :
    ¬ Woken c' ev N.name := by
  intro hw
  cases hw with
  | enqueued hreq => exact h.node hreq
  | @policy _ _ policy run hp hrun htouched =>
    cases hfind : c'.policies.find? fun p => p.name = policy with
    | none => simp [reconcilePolicy, hfind] at hrun
    | some p =>
      have hmem := List.mem_of_find?_eq_some hfind
      obtain rfl : p.name = policy := by simpa using List.find?_some hfind
      rw [ha.reconcilePolicy_eq hmem] at hrun
      obtain rfl := Option.some.inj (Except.ok.inj hrun)
      exact h.policies p hmem hp ((mem_ingressNames_self hN).1 htouched)
  | user hu hrun htouched =>
    -- what a user touches has been enqueued directly
    cases ev with
    | user ch =>
      have hi := ha.inbound_of_woken_user hN (.user hu hrun htouched)
      exact h.node (mem_enqueueRequests.2 ⟨rfl, ch.object, ch.object_mem,
        ha.mem_matchingProtocolNodeMapper.2 ⟨N, hN, hi, rfl⟩⟩)
    | singBoxNode | externalOutbound | egressPolicy | userGroup => cases hu
  | @userGroup _ _ group patched u hg hrun hu hwoken =>
    cases ev with
    | userGroup ch =>
      obtain rfl := List.mem_singleton.1 hg
      have hi := ha.inbound_of_woken_user hN hwoken
      have href : ∃ u ∈ c'.users, u.spec.userGroupRef = ch.object.name := by
        unfold reconcileUserGroup at hrun
        split at hrun
        · cases hrun
        · cases hrun
        · obtain rfl := Except.ok.inj hrun
          obtain ⟨hmem, hname⟩ := List.mem_filter.1 hu
          exact ⟨u, hmem, of_decide_eq_true hname⟩
      exact h.node (mem_enqueueRequests.2 ⟨rfl, ch.object, ch.object_mem,
        ha.mem_usersInGroupToNodesMapper.2 ⟨href, N, hN, hi, rfl⟩⟩)
    | singBoxNode | externalOutbound | egressPolicy | user => cases hg

/-! ## Who is woken depends on little -/

omit [Library] in
theorem hasRole_of_face (h : face N₁ = face N₂) (role : ProxyRole) : N₁.hasRole role = N₂.hasRole role := by
  have hspec : N₁.spec = N₂.spec := congrArg Prod.snd h
  rw [SingBoxNode.hasRole, SingBoxNode.hasRole, hspec]

theorem selects_of_face (h : face N₁ = face N₂) {p : EgressPolicy} : p.Selects N₁ ↔ p.Selects N₂ := by
  have hmeta : N₁.metadata = N₂.metadata := congrArg Prod.fst h
  rw [EgressPolicy.Selects, EgressPolicy.Selects, hasRole_of_face h, hmeta]

omit [Library] in
theorem mem_names_filter {p : SingBoxNode → Bool} (hN : N ∈ c.nodes) :
    N.name ∈ (c.nodes.filter p).map SingBoxNode.name ↔ p N = true := by
  constructor
  · intro h
    obtain ⟨n, hn, hname⟩ := List.mem_map.1 h
    obtain ⟨hmem, hp⟩ := List.mem_filter.1 hn
    exact node_unique hmem hN hname ▸ hp
  · intro hp
    exact List.mem_map_of_mem (List.mem_filter.2 ⟨hN, hp⟩)

section
variable (ha₁ : c₁.Answers) (ha₂ : c₂.Answers) (hN₁ : N₁ ∈ c₁.nodes) (hN₂ : N₂ ∈ c₂.nodes) (hface : face N₁ = face N₂)
include ha₁ ha₂ hN₁ hN₂ hface

theorem requested_of_face_external {ch : Change ExternalOutbound} {generation : Bool}
    (hexts : c₁.externalOutbounds = c₂.externalOutbounds) (hpolicies : c₁.policies = c₂.policies)
    (h : N₁.name ∈ nodeRequests c₁ (.externalOutbound ch generation)) :
    N₂.name ∈ nodeRequests c₂ (.externalOutbound ch generation) := by
  obtain ⟨hgen, X, hX, hmem⟩ := mem_enqueueRequests.1 h
  refine mem_enqueueRequests.2 ⟨hgen, X, hX, ?_⟩
  simp only [externalOutboundMapper, inboundsAffectedByExternalOutbound, ha₁.list, ha₂.list, ← hexts,
    ← hpolicies] at hmem ⊢
  rw [mem_names_filter hN₁] at hmem
  rw [mem_names_filter hN₂]
  have hmeta : N₁.metadata = N₂.metadata := congrArg Prod.fst hface
  have hspec : N₁.spec = N₂.spec := congrArg Prod.snd hface
  rw [← hasRole_of_face hface, ← hmeta, ← hspec]
  exact hmem

theorem requested_of_face_policy {ch : Change EgressPolicy} {generation : Bool}
    (h : N₁.name ∈ nodeRequests c₁ (.egressPolicy ch generation)) :
    N₂.name ∈ nodeRequests c₂ (.egressPolicy ch generation) := by
  obtain ⟨hgen, p, hp, hmem⟩ := mem_enqueueRequests.1 h
  refine mem_enqueueRequests.2 ⟨hgen, p, hp, ?_⟩
  obtain ⟨n, hn, hi, hm, hname⟩ := ha₁.mem_egressPolicyMapper.1 hmem
  obtain rfl := node_unique hn hN₁ hname
  have hsel := (selects_of_face hface (p := p)).1 ⟨hi, hm⟩
  exact ha₂.mem_egressPolicyMapper.2 ⟨N₂, hN₂, hsel.1, hsel.2, rfl⟩

theorem requested_of_face_user {ch : Change User} (h : N₁.name ∈ nodeRequests c₁ (.user ch)) :
    N₂.name ∈ nodeRequests c₂ (.user ch) := by
  obtain ⟨_, u, hu, hmem⟩ := mem_enqueueRequests.1 h
  refine mem_enqueueRequests.2 ⟨rfl, u, hu, ?_⟩
  obtain ⟨n, hn, hi, hname⟩ := ha₁.mem_matchingProtocolNodeMapper.1 hmem
  obtain rfl := node_unique hn hN₁ hname
  exact ha₂.mem_matchingProtocolNodeMapper.2 ⟨N₂, hN₂, (hasRole_of_face hface .inbound).symm.trans hi, rfl⟩

theorem requested_of_face_userGroup {ch : Change UserGroup}
    (husers : N₁.hasRole .inbound = true → c₁.users = c₂.users)
    (h : N₁.name ∈ nodeRequests c₁ (.userGroup ch)) : N₂.name ∈ nodeRequests c₂ (.userGroup ch) := by
  obtain ⟨_, g, hg, hmem⟩ := mem_enqueueRequests.1 h
  refine mem_enqueueRequests.2 ⟨rfl, g, hg, ?_⟩
  obtain ⟨href, n, hn, hi, hname⟩ := ha₁.mem_usersInGroupToNodesMapper.1 hmem
  obtain rfl := node_unique hn hN₁ hname
  refine ha₂.mem_usersInGroupToNodesMapper.2 ⟨husers hi ▸ href, N₂, hN₂, ?_, rfl⟩
  exact (hasRole_of_face hface .inbound).symm.trans hi

end

end

/-! ## The cluster as it is -/

section
variable [Library] [MapOrder]

/-- The config does not read the node's own status. -/
theorem computeConfig_of_face (flags : Flags) (h : face N₁ = face N₂) :
    computeConfig (c.view flags N₁) = computeConfig (c.view flags N₂) := by
  obtain ⟨metadata, spec, status⟩ := N₁
  obtain ⟨metadata', spec', status'⟩ := N₂
  obtain ⟨rfl, rfl⟩ : metadata = metadata' ∧ spec = spec' := Prod.mk.inj h
  rfl

omit [MapOrder] in
/-- An inbound node of another region that no policy selects may render an ExternalOutbound of the name of `X`. -/
def Shadows (c : Cluster) (X N : SingBoxNode) : Prop :=
  N.name ≠ X.name ∧ N.hasRole .inbound = true ∧ N.spec.region ≠ X.spec.region ∧
    (∀ p ∈ c.policies, p.spec.ingressSelector.matches N.metadata = false) ∧
    ∃ e ∈ c.externalOutbounds, e.name = X.name ∧ N.PassesGate e

theorem Unseen.shadows {X : SingBoxNode} (h : c.Unseen X N) : c.Shadows X N := by
  obtain ⟨hname, hi, hregion, hpolicies, e, he, hX, hgate, _⟩ := h
  exact ⟨hname, hi, hregion, hpolicies, e, he, hX, hgate⟩

omit [MapOrder] in
/-- No node is created or deleted that hides an ExternalOutbound from the node without the node being told. -/
def Announced (c : Cluster) (ev : Event) (N : SingBoxNode) : Prop :=
  ∀ X generation, ev = .singBoxNode (.create X) generation ∨ ev = .singBoxNode (.delete X) generation → ¬ c.Shadows X N

/-- What does not disturb a node leaves its config as it was. -/
theorem Step.computeConfig_eq (flags : Flags) (h : c.Step ev c') (ha : c'.Answers) (hN : N ∈ c'.nodes)
    (hquiet : c'.Undisturbed ev N) (hannounced : c.Announced ev N) :
    N ∈ c.nodes ∧ computeConfig (c'.view flags N) = computeConfig (c.view flags N) := by
  have hwoken := ha.not_woken_of_undisturbed hN hquiet
  cases h with
  | @singBoxNode ch generation nodes hnodup h hspec =>
    refine (settled_of_node flags h hspec ha hN fun X hX _ hunseen => ?_).resolve_right hwoken
    exact hannounced X generation (by rcases hX with rfl | rfl <;> simp) hunseen.shadows
  | externalOutbound hnodup h hspec => exact ⟨hN, (settled_of_external flags h hspec ha hN).resolve_right hwoken⟩
  | egressPolicy hnodup h hspec => exact ⟨hN, (settled_of_policy flags h hspec ha hN).resolve_right hwoken⟩
  | user hnodup h => exact ⟨hN, (settled_of_user flags ha hN).resolve_right hwoken⟩
  | userGroup h hothers => exact ⟨hN, (settled_of_userGroup flags hothers ha hN).resolve_right hwoken⟩

end

/-! ## Other Secrets -/

/-- The same objects with other Secrets. -/
def withSecrets (c : Cluster) (secret : String → String → Except ApiError (GoMap String String)) : Cluster :=
  { c with secret }

section
variable {σ : String → String → Except ApiError (GoMap String String)}

@[simp]
theorem withSecrets_secret (c : Cluster) : c.withSecrets c.secret = c := rfl

theorem Answers.withSecrets (h : c.Answers) : (c.withSecrets σ).Answers := ⟨h.list, h.group⟩

theorem Step.secret_eq (h : c.Step ev c') : c'.secret = c.secret := by
  cases h <;> rfl

theorem Step.withSecrets (h : c.Step ev c') : (c.withSecrets σ).Step ev (c'.withSecrets σ) := by
  cases h with
  | singBoxNode hnodup h hspec => exact .singBoxNode hnodup h hspec
  | externalOutbound hnodup h hspec => exact .externalOutbound hnodup h hspec
  | egressPolicy hnodup h hspec => exact .egressPolicy hnodup h hspec
  | user hnodup h => exact .user hnodup h
  | userGroup h hothers => exact .userGroup h hothers

/-- No watch of objects looks at a Secret. -/
theorem Undisturbed.withSecrets [Library] (h : c.Undisturbed ev N) : (c.withSecrets σ).Undisturbed ev N := by
  cases ev <;> exact ⟨h.node, h.policies⟩

/-- What does not disturb a node leaves its config as it was, whatever the Secrets hold. -/
theorem Step.computeConfig_withSecrets [Library] [MapOrder] (flags : Flags) (h : c.Step ev c') (ha : c'.Answers)
    (hN : N ∈ c'.nodes) (hquiet : c'.Undisturbed ev N) (hannounced : c.Announced ev N) :
    computeConfig ((c'.withSecrets σ).view flags N) = computeConfig ((c.withSecrets σ).view flags N) := by
  have hstep : (c.withSecrets σ).Step ev (c'.withSecrets σ) := h.withSecrets
  have hundisturbed : (c'.withSecrets σ).Undisturbed ev N := hquiet.withSecrets
  exact (hstep.computeConfig_eq flags ha.withSecrets hN hundisturbed hannounced).2

end

/-! ## Other statuses -/

/-- The two clusters differ in the status of nodes alone. -/
def SameFaces (c c' : Cluster) : Prop :=
  ∃ nodes hnodup, c' = c.withNodes nodes hnodup ∧ nodes.map face = c.nodes.map face

theorem name_of_face (h : face N₁ = face N₂) : N₁.name = N₂.name := congrArg (fun x => x.1.name) h

namespace SameFaces
variable {c'' : Cluster}

theorem refl : c.SameFaces c := ⟨_, _, rfl, rfl⟩

theorem symm (h : c.SameFaces c') : c'.SameFaces c := by
  obtain ⟨nodes, hnodup, rfl, hface⟩ := h
  exact ⟨c.nodes, c.nodes_nodup, rfl, hface.symm⟩

theorem trans (h : c.SameFaces c') (h' : c'.SameFaces c'') : c.SameFaces c'' := by
  obtain ⟨nodes, hnodup, rfl, hface⟩ := h
  obtain ⟨nodes', hnodup', rfl, hface'⟩ := h'
  exact ⟨nodes', hnodup', rfl, hface'.trans hface⟩

theorem faces (h : c.SameFaces c') : c'.nodes.map face = c.nodes.map face := by
  obtain ⟨nodes, hnodup, rfl, hface⟩ := h
  exact hface

theorem names (h : c.SameFaces c') : c'.nodes.map SingBoxNode.name = c.nodes.map SingBoxNode.name := by
  have hnames := congrArg (List.map fun x => x.1.name) h.faces
  rw [List.map_map, List.map_map] at hnames
  exact hnames

theorem policies (h : c.SameFaces c') : c'.policies = c.policies := by
  obtain ⟨nodes, hnodup, rfl, _⟩ := h
  rfl

theorem answers (h : c.SameFaces c') (ha : c.Answers) : c'.Answers := by
  obtain ⟨nodes, hnodup, rfl, _⟩ := h
  exact ⟨ha.list, ha.group⟩

/-- Every node is there on the other side, under its name. -/
theorem mem_nodes (h : c.SameFaces c') (hN : N ∈ c.nodes) : ∃ N' ∈ c'.nodes, face N' = face N := by
  have hmem : face N ∈ c'.nodes.map face := by
    rw [h.faces]
    exact List.mem_map_of_mem hN
  exact List.mem_map.1 hmem

/-- No config reads the status of a node. -/
theorem computeConfig_eq [Library] [MapOrder] (h : c.SameFaces c') (hface : face N₁ = face N₂) (flags : Flags) :
    computeConfig (c'.view flags N₁) = computeConfig (c.view flags N₂) := by
  obtain ⟨nodes, hnodup, rfl, hfaces⟩ := h
  have halike : c.LooksAlike (c.withNodes nodes hnodup) N₁ := .of_face rfl rfl rfl rfl rfl rfl hfaces
  rw [halike.computeConfig_eq flags, computeConfig_of_face flags hface]

theorem compute_eq [Library] [MapOrder] (h : c.SameFaces c') (hface : face N₁ = face N₂) (flags : Flags) :
    compute (c'.view flags N₁) = compute (c.view flags N₂) := by
  rw [compute_eq_iff_config]
  exact h.computeConfig_eq hface flags

end SameFaces

end Cluster

/-- The Secrets a pass has read, as it has found them. -/
abbrev Fetched := String × String → Option (Except ApiError (GoMap String String))

/-- The Secrets as a pass sees them if it reads the rest now. -/
def Fetched.over (fetched : Fetched) (secret : String → String → Except ApiError (GoMap String String)) :
    String → String → Except ApiError (GoMap String String) :=
  fun ns name => (fetched (ns, name)).getD (secret ns name)

/-- What has been read is still so. -/
def Fetched.Current (fetched : Fetched) (now : Cluster) : Prop :=
  ∀ key result, fetched key = some result → result = now.secret key.1 key.2

section
variable {fetched : Fetched} {now : Cluster}

theorem Fetched.Current.over_eq (h : fetched.Current now) : fetched.over now.secret = now.secret := by
  funext ns name
  unfold Fetched.over
  cases hf : fetched (ns, name) with
  | none => rfl
  | some result => exact h (ns, name) result hf

theorem Fetched.current_none : Fetched.Current (fun _ => none) now := fun _ _ h => absurd h (by simp)

theorem Fetched.Current.read (h : fetched.Current now) (key : String × String) :
    Fetched.Current (Function.update fetched key (some (now.secret key.1 key.2))) now := by
  intro key' result hf
  by_cases hkey : key' = key
  · subst hkey
    rw [Function.update_self] at hf
    exact (Option.some.inj hf).symm
  · rw [Function.update_of_ne hkey] at hf
    exact h key' result hf

theorem Fetched.Current.of_secret_eq {now' : Cluster} (h : fetched.Current now) (hsecret : now'.secret = now.secret) :
    fetched.Current now' := by
  intro key result hf
  rw [hsecret]
  exact h key result hf

end

/-! ## The cluster as a pass sees it -/

/-- How far `collectInput` has come, and which groups it has fetched. -/
inductive Stage
  | node
  | nodes
  | externalOutbounds
  | users (groups : List String)
  | policies

namespace Stage
open Cluster
variable {stage : Stage} {read now now' : Cluster} {ev : Event} {N N₀ : SingBoxNode} {fetched : Fetched}
  {σ : String → String → Except ApiError (GoMap String String)}

/-- What has been read is as it was then, and the rest, with all the Secrets, as it is now. -/
def mix : Stage → Cluster → Cluster → Cluster
  | .node, _, now => now
  | .nodes, read, now => now.withNodes read.nodes read.nodes_nodup
  | .externalOutbounds, read, now =>
    (now.withNodes read.nodes read.nodes_nodup).withExternalOutbounds read.externalOutbounds
      read.externalOutbounds_nodup
  | .users groups, read, now =>
    { ((now.withNodes read.nodes read.nodes_nodup).withExternalOutbounds read.externalOutbounds
        read.externalOutbounds_nodup).withUsers read.users read.users_nodup with
      userGroup := fun group => if group ∈ groups then read.userGroup group else now.userGroup group }
  | .policies, read, now => read.withSecrets now.secret

theorem mix_withSecrets : stage.mix read (now.withSecrets σ) = (stage.mix read now).withSecrets σ := by
  cases stage <;> rfl

/-- A list that has just been read is as it is now. -/
theorem mix_users_nil : (Stage.users []).mix (Stage.externalOutbounds.mix read now) now =
    Stage.externalOutbounds.mix read now := by
  simp [mix]

theorem mix_users_cons {groups : List String} (group : String) :
    (Stage.users (group :: groups)).mix ((Stage.users groups).mix read now) now = (Stage.users groups).mix read now := by
  simp only [mix, Cluster.mk.injEq, true_and, and_true]
  funext name
  by_cases hmem : name ∈ groups <;> simp [hmem]

theorem mix_policies : Stage.policies.mix (stage.mix read now) now = stage.mix read now := by
  cases stage <;> rfl

theorem sameFaces_mix (h : now.SameFaces now') : (stage.mix read now).SameFaces (stage.mix read now') := by
  cases stage with
  | node => exact h
  | nodes | externalOutbounds | users | policies =>
    obtain ⟨nodes, hnodup, rfl, _⟩ := h
    exact .refl

theorem answers_mix (hread : read.Answers) (hnow : now.Answers) : (stage.mix read now).Answers := by
  cases stage with
  | node | nodes | externalOutbounds => exact ⟨hnow.list, hnow.group⟩
  | users groups =>
    refine ⟨hnow.list, fun name e h => ?_⟩
    simp only [mix] at h
    split at h
    · exact hread.group name e h
    · exact hnow.group name e h
  | policies => exact hread.withSecrets

section
variable [Library] [MapOrder]

/-- Why the result of a pass will be right: the objects it has read and those it is
going to read give the config of the cluster as it is, whatever the Secrets hold, and
the Secrets it has read still hold the same. -/
structure Agrees (flags : Flags) (now : Cluster) (N N₀ : SingBoxNode) (stage : Stage) (read : Cluster)
    (fetched : Fetched) : Prop where
  node : face N₀ = face N
  answers : read.Answers
  listed : stage ≠ .node → ∃ n ∈ read.nodes, face n = face N
  users : ∀ groups, stage = .users groups → N.hasRole .inbound = true → read.users = now.users
  groups : ∀ groups, stage = .users groups → N.hasRole .inbound = true → ∀ u ∈ now.users, u.spec.userGroupRef ∈ groups →
    read.userGroup u.spec.userGroupRef = now.userGroup u.spec.userGroupRef
  config : ∀ σ, computeConfig (((stage.mix read now).withSecrets σ).view flags N₀) =
    computeConfig ((now.withSecrets σ).view flags N)
  fetched : fetched.Current now

omit [Library] [MapOrder] in
theorem nodes_mix (h : stage ≠ .node) : (stage.mix read now).nodes = read.nodes := by
  cases stage with
  | node => exact absurd rfl h
  | nodes | externalOutbounds | users | policies => rfl

omit [Library] [MapOrder] in
theorem policies_mix (h : stage ≠ .policies) : (stage.mix read now).policies = now.policies := by
  cases stage with
  | policies => exact absurd rfl h
  | node | nodes | externalOutbounds | users => rfl

omit [Library] [MapOrder] in
/-- Policies are listed last, so which of them are enqueued is not a matter of what has been read. -/
theorem policyRequests_mix (h : stage ≠ .policies) : policyRequests (stage.mix read now) ev = policyRequests now ev := by
  cases stage with
  | policies => exact absurd rfl h
  | node | nodes | externalOutbounds | users => rfl

omit [MapOrder] in
theorem undisturbed_mix {n : SingBoxNode} (hface : face n = face N) (hquiet : now.Undisturbed ev N)
    (hpolicies : stage ≠ .policies)
    (hreq : n.name ∈ nodeRequests (stage.mix read now) ev → N.name ∈ nodeRequests now ev) :
    (stage.mix read now).Undisturbed ev n where
  node h := hquiet.node (hreq h)
  policies p hp h := by
    rw [policies_mix hpolicies] at hp
    rw [policyRequests_mix hpolicies] at h
    rw [selects_of_face hface]
    exact hquiet.policies p hp h

/-- A pass that has listed the nodes is not disturbed by more than the cluster as it is. -/
theorem mix_config (flags : Flags) (hstep : now.Step ev now') (hread : read.Answers) (ha : now'.Answers)
    (hN : N ∈ now'.nodes) (hquiet : now'.Undisturbed ev N) {n : SingBoxNode} (hn : n ∈ read.nodes)
    (hface : face n = face N) (hstage : stage ≠ .node)
    (husers : ∀ groups, stage = .users groups → N.hasRole .inbound = true → read.users = now.users) :
    computeConfig ((stage.mix read now').view flags n) = computeConfig ((stage.mix read now).view flags n) := by
  by_cases hpolicies : stage = .policies
  · -- everything has been listed before
    subst hpolicies
    simp only [mix, hstep.secret_eq]
  have ha' : (stage.mix read now').Answers := answers_mix hread ha
  have hn' : n ∈ (stage.mix read now').nodes := by
    rw [nodes_mix hstage]
    exact hn
  have hsettled : (n.name ∈ nodeRequests (stage.mix read now') ev → N.name ∈ nodeRequests now' ev) →
      ¬ Woken (stage.mix read now') ev n.name :=
    fun hreq => ha'.not_woken_of_undisturbed hn' (undisturbed_mix hface hquiet hpolicies hreq)
  cases hstep with
  | singBoxNode =>
    -- the nodes have been listed before
    cases stage with
    | node => exact absurd rfl hstage
    | policies => exact absurd rfl hpolicies
    | nodes | externalOutbounds | users => rfl
  | externalOutbound hnodup h hspec =>
    cases stage with
    | node => exact absurd rfl hstage
    | policies => exact absurd rfl hpolicies
    | externalOutbounds | users => rfl
    | nodes =>
      refine (settled_of_external (c := Stage.nodes.mix read now) flags h hspec ha' hn).resolve_right
        (hsettled fun hreq => ?_)
      exact requested_of_face_external ha' ha hn' hN hface rfl rfl hreq
  | egressPolicy hnodup h hspec =>
    have hwoken := hsettled fun hreq => requested_of_face_policy ha' ha hn' hN hface hreq
    cases stage with
    | node => exact absurd rfl hstage
    | policies => exact absurd rfl hpolicies
    | nodes =>
      exact (settled_of_policy (c := Stage.nodes.mix read now) flags h hspec ha' hn).resolve_right hwoken
    | externalOutbounds =>
      exact (settled_of_policy (c := Stage.externalOutbounds.mix read now) flags h hspec ha' hn).resolve_right hwoken
    | users groups =>
      exact (settled_of_policy (c := (Stage.users groups).mix read now) flags h hspec ha' hn).resolve_right hwoken
  | user hnodup h =>
    have hwoken := hsettled fun hreq => requested_of_face_user ha' ha hn' hN hface hreq
    cases stage with
    | node => exact absurd rfl hstage
    | policies => exact absurd rfl hpolicies
    | users => rfl
    | nodes => exact (settled_of_user (c := Stage.nodes.mix read now) flags ha' hn).resolve_right hwoken
    | externalOutbounds =>
      exact (settled_of_user (c := Stage.externalOutbounds.mix read now) flags ha' hn).resolve_right hwoken
  | @userGroup ch userGroup h hothers =>
    cases stage with
    | node => exact absurd rfl hstage
    | policies => exact absurd rfl hpolicies
    | nodes =>
      refine (settled_of_userGroup (c := Stage.nodes.mix read now) flags hothers ha' hn).resolve_right
        (hsettled fun hreq => ?_)
      exact requested_of_face_userGroup ha' ha hn' hN hface (fun _ => rfl) hreq
    | externalOutbounds =>
      refine (settled_of_userGroup (c := Stage.externalOutbounds.mix read now) flags hothers ha' hn).resolve_right
        (hsettled fun hreq => ?_)
      exact requested_of_face_userGroup ha' ha hn' hN hface (fun _ => rfl) hreq
    | users groups =>
      have hothers' : ∀ name, name ≠ ch.object.name →
          (if name ∈ groups then read.userGroup name else userGroup name) =
            if name ∈ groups then read.userGroup name else now.userGroup name := by
        intro name hne
        rw [hothers name hne]
      refine (settled_of_userGroup (c := (Stage.users groups).mix read now) flags hothers' ha' hn).resolve_right
        (hsettled fun hreq => ?_)
      refine requested_of_face_userGroup ha' ha hn' hN hface (fun hi => ?_) hreq
      exact husers groups rfl ((hasRole_of_face hface .inbound).symm.trans hi)

namespace Agrees

/-- A change that does not disturb the node does not disturb its pass. -/
theorem step {flags : Flags} (h : Agrees flags now N N₀ stage read fetched) (hstep : now.Step ev now')
    (ha : now'.Answers) (hN : N ∈ now'.nodes) (hquiet : now'.Undisturbed ev N) (hannounced : now.Announced ev N) :
    Agrees flags now' N N₀ stage read fetched := by
  -- every change of a user would have enqueued an inbound node
  have husers : N.hasRole .inbound = true → now'.users = now.users := by
    intro hi
    cases hstep with
    | singBoxNode | externalOutbound | egressPolicy | userGroup => rfl
    | @user ch users hnodup h =>
      exact absurd (mem_enqueueRequests.2 ⟨rfl, ch.object, ch.object_mem,
        ha.mem_matchingProtocolNodeMapper.2 ⟨N, hN, hi, rfl⟩⟩) hquiet.node
  -- and so would every change of a group a user refers to
  have hgroups : N.hasRole .inbound = true → ∀ u ∈ now'.users,
      now'.userGroup u.spec.userGroupRef = now.userGroup u.spec.userGroupRef := by
    intro hi u hu
    cases hstep with
    | singBoxNode | externalOutbound | egressPolicy | user => rfl
    | @userGroup ch userGroup h hothers =>
      refine hothers _ fun hname => hquiet.node (mem_enqueueRequests.2 ⟨rfl, ch.object, ch.object_mem, ?_⟩)
      exact ha.mem_usersInGroupToNodesMapper.2 ⟨⟨u, hu, hname⟩, N, hN, hi, rfl⟩
  refine ⟨h.node, h.answers, h.listed, fun groups hs hi => (h.users groups hs hi).trans (husers hi).symm,
    fun groups hs hi u hu hmem => ?_, fun σ => ?_, h.fetched.of_secret_eq hstep.secret_eq⟩
  · rw [hgroups hi u hu]
    exact h.groups groups hs hi u (husers hi ▸ hu) hmem
  · by_cases hstage : stage = .node
    · subst hstage
      exact computeConfig_of_face flags h.node
    · obtain ⟨n, hn, hface⟩ := h.listed hstage
      have hself : face N₀ = face n := h.node.trans hface.symm
      have hmix : computeConfig (((stage.mix read now').withSecrets σ).view flags n) =
          computeConfig (((stage.mix read now).withSecrets σ).view flags n) := by
        have hstep' : (now.withSecrets σ).Step ev (now'.withSecrets σ) := hstep.withSecrets
        have hquiet' : (now'.withSecrets σ).Undisturbed ev N := hquiet.withSecrets
        rw [← mix_withSecrets, ← mix_withSecrets]
        exact mix_config flags hstep' h.answers ha.withSecrets hN hquiet' hn hface hstage h.users
      calc computeConfig (((stage.mix read now').withSecrets σ).view flags N₀)
          = computeConfig (((stage.mix read now').withSecrets σ).view flags n) := computeConfig_of_face flags hself
        _ = computeConfig (((stage.mix read now).withSecrets σ).view flags n) := hmix
        _ = computeConfig (((stage.mix read now).withSecrets σ).view flags N₀) :=
            (computeConfig_of_face flags hself).symm
        _ = computeConfig ((now.withSecrets σ).view flags N) := h.config σ
        _ = computeConfig ((now'.withSecrets σ).view flags N) :=
            (hstep.computeConfig_withSecrets flags ha hN hquiet hannounced).symm

/-- Nor do other Secrets, as long as those the pass has read hold the same. -/
theorem withSecrets {flags : Flags} (h : Agrees flags now N N₀ stage read fetched)
    (hcurrent : fetched.Current (now.withSecrets σ)) : Agrees flags (now.withSecrets σ) N N₀ stage read fetched := by
  refine ⟨h.node, h.answers, h.listed, h.users, h.groups, fun σ' => ?_, hcurrent⟩
  rw [mix_withSecrets]
  exact h.config σ'

/-- Nor does the status of a node, be it the node's own. -/
theorem of_sameFaces {flags : Flags} {N' : SingBoxNode} (h : Agrees flags now N N₀ stage read fetched)
    (hfaces : now.SameFaces now') (hface : face N' = face N) : Agrees flags now' N' N₀ stage read fetched := by
  have hrole : N'.hasRole .inbound = N.hasRole .inbound := hasRole_of_face hface .inbound
  have hnode : face N₀ = face N' := h.node.trans hface.symm
  obtain ⟨nodes, hnodup, rfl, heq⟩ := id hfaces
  refine ⟨hnode, h.answers, fun hs => ?_, fun groups hs hi => h.users groups hs (hrole ▸ hi),
    fun groups hs hi => h.groups groups hs (hrole ▸ hi), fun σ => ?_, h.fetched.of_secret_eq rfl⟩
  · obtain ⟨n, hn, hn'⟩ := h.listed hs
    exact ⟨n, hn, hn'.trans hface.symm⟩
  · have hsecrets : (now.withSecrets σ).SameFaces ((now.withNodes nodes hnodup).withSecrets σ) :=
      ⟨nodes, hnodup, rfl, heq⟩
    have hmix : ((stage.mix read now).withSecrets σ).SameFaces
        ((stage.mix read (now.withNodes nodes hnodup)).withSecrets σ) := by
      rw [← mix_withSecrets, ← mix_withSecrets]
      exact sameFaces_mix hsecrets
    rw [hmix.computeConfig_eq rfl flags, hsecrets.computeConfig_eq hface flags]
    exact h.config σ

/-! ## One read after the other -/

theorem start (flags : Flags) (ha : now.Answers) (hface : face N₀ = face N) :
    Agrees flags now N N₀ .node now (fun _ => none) where
  node := hface
  answers := ha
  listed h := absurd rfl h
  users := nofun
  groups := nofun
  config _ := computeConfig_of_face flags hface
  fetched := Fetched.current_none

theorem getSecret {flags : Flags} (h : Agrees flags now N N₀ stage read fetched) (key : String × String) :
    Agrees flags now N N₀ stage read (Function.update fetched key (some (now.secret key.1 key.2))) :=
  { h with fetched := h.fetched.read key }

theorem listNodes {flags : Flags} (h : Agrees flags now N N₀ .node read fetched) (ha : now.Answers)
    (hN : N ∈ now.nodes) : Agrees flags now N N₀ .nodes now fetched where
  node := h.node
  answers := ha
  listed _ := ⟨N, hN, rfl⟩
  users := nofun
  groups := nofun
  config := h.config
  fetched := h.fetched

theorem listExternalOutbounds {flags : Flags} (h : Agrees flags now N N₀ .nodes read fetched) (ha : now.Answers) :
    Agrees flags now N N₀ .externalOutbounds (Stage.nodes.mix read now) fetched where
  node := h.node
  answers := answers_mix h.answers ha
  listed _ := h.listed nofun
  users := nofun
  groups := nofun
  config := h.config
  fetched := h.fetched

theorem listUsers {flags : Flags} (h : Agrees flags now N N₀ .externalOutbounds read fetched) (ha : now.Answers) :
    Agrees flags now N N₀ (.users []) (Stage.externalOutbounds.mix read now) fetched where
  node := h.node
  answers := answers_mix h.answers ha
  listed _ := h.listed nofun
  users _ _ _ := rfl
  groups := by
    rintro groups ⟨⟩ _ u _ hmem
    cases hmem
  config := by
    rw [mix_users_nil]
    exact h.config
  fetched := h.fetched

/-- The group of a user of the list that has been read. -/
theorem getUserGroup {flags : Flags} {groups : List String} (h : Agrees flags now N N₀ (.users groups) read fetched)
    (ha : now.Answers) (group : String) :
    Agrees flags now N N₀ (.users (group :: groups)) ((Stage.users groups).mix read now) fetched where
  node := h.node
  answers := answers_mix h.answers ha
  listed _ := h.listed nofun
  users := by
    rintro _ ⟨⟩ hi
    exact h.users groups rfl hi
  groups := by
    rintro _ ⟨⟩ hi u hu _
    simp only [mix]
    split
    · rename_i hmem
      exact h.groups groups rfl hi u hu hmem
    · rfl
  config := by
    rw [mix_users_cons]
    exact h.config
  fetched := h.fetched

theorem listPolicies {flags : Flags} (h : Agrees flags now N N₀ stage read fetched) (ha : now.Answers)
    (hstage : stage ≠ .node) : Agrees flags now N N₀ .policies (stage.mix read now) fetched where
  node := h.node
  answers := answers_mix h.answers ha
  listed _ := by
    rw [nodes_mix hstage]
    exact h.listed hstage
  users := nofun
  groups := nofun
  config := by
    rw [mix_policies]
    exact h.config
  fetched := h.fetched

/-- What the pass computes in the end is what the node should have. -/
theorem output_eq {flags : Flags} (h : Agrees flags now N N₀ .policies read fetched) (ha : now.Answers) :
    (read.withSecrets (fetched.over now.secret)).output flags N₀ = now.output flags N := by
  rw [h.answers.withSecrets.output_eq, ha.output_eq, Except.ok.injEq, compute_eq_iff_config, h.fetched.over_eq]
  exact h.config now.secret

end Agrees

end

end Stage

end SingboxOperator
