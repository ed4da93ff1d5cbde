import SingboxOperator.Controller.Collect
/-!
# What a node sees

`Cluster.view` says in one record what the loops of `collectInput` leave
behind, and `collectInput_ok` that they do. The lemmas after it say what each
map of that record answers, in terms of the objects of the cluster.
-/
open SingboxOperator.Lib

namespace SingboxOperator

theorem Except.bind_ok {ε α β : Type} {x : Except ε α} {f : α → Except ε β} {b : β} (h : x >>= f = .ok b) :
    ∃ a, x = .ok a ∧ f a = .ok b := by
  cases x with
  | error e => cases h
  | ok a => exact ⟨a, rfl, h⟩

namespace Cluster

/-! ## The cluster as a node reads it -/

def allNodes (c : Cluster) : List SingBoxNode := sortOn SingBoxNode.name c.nodes
def allExtOutbounds (c : Cluster) : List ExternalOutbound := sortOn ExternalOutbound.name c.externalOutbounds
def allUsers (c : Cluster) : List User := sortOn User.name c.users

def peers (c : Cluster) (node : SingBoxNode) : List SingBoxNode := c.allNodes.filter (isPeer node)

def discovered (c : Cluster) (node : SingBoxNode) : List ExternalOutbound :=
  c.allExtOutbounds.filter (isDiscovered node (node.name :: c.allNodes.map SingBoxNode.name))

def servedUsers (c : Cluster) (node : SingBoxNode) : List User := if node.hasRole .inbound then c.allUsers else []

/-- The group of a user that names one which exists. -/
def groupOf (c : Cluster) (user : User) : Option UserGroup :=
  if user.spec.userGroupRef = "" then none else (c.userGroup user.spec.userGroupRef).toOption

def deniedSet (c : Cluster) (user : User) : Option NameSet :=
  (c.groupOf user).map fun ug => nameSet ug.spec.deniedNodes

def allowedSet (c : Cluster) (user : User) : Option NameSet :=
  (c.groupOf user).bind fun ug =>
    if (nameSet ug.spec.allowedNodes).len > 0 then some (nameSet ug.spec.allowedNodes) else none

/-- Whether the user's group lets the user be relayed through `target`. -/
def mayUse (c : Cluster) (user : User) (target : String) : Bool :=
  isNodeAllowed target ((c.allowedSet user).getD ∅) ((c.deniedSet user).getD ∅)

def nodeCred (c : Cluster) (name : String) : NodeCredential := (getNodeCredential c name).toOption.getD ⟨"", ""⟩

def userCred (c : Cluster) (user : User) : UserCredential := (getUserCredential c user).toOption.getD ⟨""⟩

def externalCred [MapOrder] (c : Cluster) (eob : ExternalOutbound) : ExternalCredential :=
  (getExternalCredentials c eob).toOption.getD ∅

section
variable [Library]

/-- The target a route policy resolves to. -/
def egress (c : Cluster) (policy : EgressPolicy) : String := egressOf policy c.allNodes c.allExtOutbounds

/-- The policies that apply to a node, in the order they are listed. -/
def kept (c : Cluster) (node : SingBoxNode) : List EgressPolicy :=
  c.policies.filter (policyApplies node c.allNodes c.allExtOutbounds)

/-- The node a policy is routed to. -/
def nodeTarget (c : Cluster) (policy : EgressPolicy) : Option SingBoxNode :=
  match policy.spec.action with
  | .reject => none
  | .route => findOutboundNode c.allNodes (c.egress policy)

/-- The external outbound a policy is routed to; a node of that name has precedence. -/
def externalTarget (c : Cluster) (policy : EgressPolicy) : Option ExternalOutbound :=
  match policy.spec.action with
  | .reject => none
  | .route =>
    match findOutboundNode c.allNodes (c.egress policy) with
    | some _ => none
    | none => findExternalOutbound c.allExtOutbounds (c.egress policy)

def visibleNodes (c : Cluster) (node : SingBoxNode) : List SingBoxNode :=
  c.peers node ++ (c.kept node).filterMap c.nodeTarget

def visibleExternals (c : Cluster) (node : SingBoxNode) : List ExternalOutbound :=
  c.discovered node ++ (c.kept node).filterMap c.externalTarget

variable [MapOrder]

/-- The result of `collectInput`, field by field. -/
def view (flags : Flags) (c : Cluster) (node : SingBoxNode) : Input where
  node := node
  users := c.servedUsers node
  userCreds := GoMap.assignSome User.name (fun u => (getUserCredential c u).toOption) ∅ (c.servedUsers node)
  outboundNodes := c.peers node
  egressPolicies := c.kept node
  nodeCreds := GoMap.assignSome id (fun name => (getNodeCredential c name).toOption) ∅
    ((c.visibleNodes node).map SingBoxNode.name ++ if node.hasRole .outbound then [node.name] else [])
  outboundNodesByName := GoMap.assignAll SingBoxNode.name id ∅ (c.visibleNodes node)
  externalOutbounds := c.discovered node
  externalOutboundsByName := GoMap.assignAll ExternalOutbound.name id ∅ (c.visibleExternals node)
  externalCreds := GoMap.assignSome ExternalOutbound.name (fun e => (getExternalCredentials c e).toOption) ∅
    (c.visibleExternals node)
  usageCollectionEnabled := flags.usageCollectionEnabled
  v2rayAPIListenAddr := flags.v2rayAPIListenAddr
  userNodeRestrictions := GoMap.assignSome User.name c.deniedSet ∅ (c.servedUsers node)
  userNodeAllowlist := GoMap.assignSome User.name c.allowedSet ∅ (c.servedUsers node)

end

end Cluster

/-! ## Each loop -/

theorem loadNodeCredential_eq (c : Cluster) (input : Input) (name : String) :
    loadNodeCredential c input name =
      { input with
        nodeCreds := GoMap.assignSome id (fun name => (getNodeCredential c name).toOption) input.nodeCreds [name] } := by
  unfold loadNodeCredential
  cases h : getNodeCredential c name <;> simp [GoMap.assignSome_cons, h, Except.toOption]

theorem loadExternalCredential_eq [MapOrder] (c : Cluster) (input : Input) (eob : ExternalOutbound) :
    loadExternalCredential c input eob =
      { input with
        externalCreds := GoMap.assignSome ExternalOutbound.name (fun e => (getExternalCredentials c e).toOption)
          input.externalCreds [eob] } := by
  unfold loadExternalCredential
  cases h : getExternalCredentials c eob <;> simp [GoMap.assignSome_cons, h, Except.toOption]

theorem foldl_addPeer (c : Cluster) (l : List SingBoxNode) (input : Input) :
    l.foldl (addPeer c) input =
      { input with
        outboundNodes := input.outboundNodes ++ l
        outboundNodesByName := GoMap.assignAll SingBoxNode.name id input.outboundNodesByName l
        nodeCreds := GoMap.assignSome id (fun name => (getNodeCredential c name).toOption) input.nodeCreds
          (l.map SingBoxNode.name) } := by
  induction l generalizing input with
  | nil => simp
  | cons n l ih =>
    rw [List.foldl_cons, ih, addPeer, loadNodeCredential_eq]
    simp [GoMap.assignSome_cons]

theorem foldl_addExternal [MapOrder] (c : Cluster) (l : List ExternalOutbound) (input : Input) :
    l.foldl (addExternal c) input =
      { input with
        externalOutbounds := input.externalOutbounds ++ l
        externalOutboundsByName := GoMap.assignAll ExternalOutbound.name id input.externalOutboundsByName l
        externalCreds := GoMap.assignSome ExternalOutbound.name (fun e => (getExternalCredentials c e).toOption)
          input.externalCreds l } := by
  induction l generalizing input with
  | nil => simp
  | cons e l ih =>
    rw [List.foldl_cons, ih, addExternal, loadExternalCredential_eq]
    simp [GoMap.assignSome_cons]

theorem loadUserCredential_eq (c : Cluster) (input : Input) (user : User) :
    loadUserCredential c input user =
      { input with
        userCreds := GoMap.assignSome User.name (fun u => (getUserCredential c u).toOption) input.userCreds [user] } := by
  unfold loadUserCredential
  cases h : getUserCredential c user <;> simp [GoMap.assignSome_cons, h, Except.toOption]

/-- A user is always added; only a group that cannot be read is an error. -/
theorem addUser_ok {c : Cluster} {input input' : Input} {user : User} (h : addUser c input user = .ok input') :
    input' = { input with
      users := input.users ++ [user]
      userCreds := GoMap.assignSome User.name (fun u => (getUserCredential c u).toOption) input.userCreds [user]
      userNodeRestrictions := GoMap.assignSome User.name c.deniedSet input.userNodeRestrictions [user]
      userNodeAllowlist := GoMap.assignSome User.name c.allowedSet input.userNodeAllowlist [user] } := by
  -- what the two restriction maps get, by the group that is found
  have hgroup : ∀ ug, c.groupOf user = ug →
      GoMap.assignSome User.name c.deniedSet input.userNodeRestrictions [user] =
        (match ug with
          | none => input.userNodeRestrictions
          | some ug => input.userNodeRestrictions.insert user.name (nameSet ug.spec.deniedNodes)) ∧
      GoMap.assignSome User.name c.allowedSet input.userNodeAllowlist [user] =
        (match ug with
          | none => input.userNodeAllowlist
          | some ug =>
            if (nameSet ug.spec.allowedNodes).len > 0 then
              input.userNodeAllowlist.insert user.name (nameSet ug.spec.allowedNodes)
            else input.userNodeAllowlist) := by
    intro ug hg
    simp only [GoMap.assignSome_cons, GoMap.assignSome_nil, Cluster.deniedSet, Cluster.allowedSet, hg]
    cases ug with
    | none => exact ⟨rfl, rfl⟩
    | some ug => exact ⟨rfl, by by_cases ha : (nameSet ug.spec.allowedNodes).len > 0 <;> simp [ha]⟩
  simp only [addUser, loadUserCredential_eq] at h
  by_cases hr : user.spec.userGroupRef = ""
  · obtain ⟨hd, ha⟩ := hgroup none (by simp [Cluster.groupOf, hr])
    simp only [hr, if_true, Except.ok.injEq] at h
    rw [hd, ha, ← h]
  · simp only [hr, if_false] at h
    cases hg : c.userGroup user.spec.userGroupRef with
    | error e =>
      obtain ⟨hd, ha⟩ := hgroup none (by simp [Cluster.groupOf, hr, hg, Except.toOption])
      by_cases hn : e.notFound = true
      · simp only [hg, hn, if_true, Except.ok.injEq] at h
        rw [hd, ha, ← h]
      · simp [hg, hn] at h
    | ok ug =>
      obtain ⟨hd, ha⟩ := hgroup (some ug) (by simp [Cluster.groupOf, hr, hg, Except.toOption])
      simp only [hg, Except.ok.injEq] at h
      rw [hd, ha, ← h]

theorem foldlM_addUser {c : Cluster} {l : List User} : ∀ {input input' : Input},
    l.foldlM (addUser c) input = .ok input' →
    input' = { input with
      users := input.users ++ l
      userCreds := GoMap.assignSome User.name (fun u => (getUserCredential c u).toOption) input.userCreds l
      userNodeRestrictions := GoMap.assignSome User.name c.deniedSet input.userNodeRestrictions l
      userNodeAllowlist := GoMap.assignSome User.name c.allowedSet input.userNodeAllowlist l } := by
  induction l with
  | nil =>
    intro input input' h
    simp only [List.foldlM_nil, pure, Except.pure, Except.ok.injEq] at h
    simp [h]
  | cons u l ih =>
    intro input input' h
    rw [List.foldlM_cons] at h
    obtain ⟨mid, h1, h2⟩ := Except.bind_ok h
    rw [ih h2, addUser_ok h1]
    simp [GoMap.assignSome_cons]

section
variable [Library] [MapOrder]

/-- A reject policy has no target, a route policy a node or else an external outbound. -/
theorem foldl_addPolicy (c : Cluster) (l : List EgressPolicy) (input : Input) :
    l.foldl (addPolicy c c.allNodes c.allExtOutbounds) input =
      { input with
        egressPolicies := input.egressPolicies ++ l
        outboundNodesByName :=
          GoMap.assignAll SingBoxNode.name id input.outboundNodesByName (l.filterMap c.nodeTarget)
        nodeCreds := GoMap.assignSome id (fun name => (getNodeCredential c name).toOption) input.nodeCreds
          ((l.filterMap c.nodeTarget).map SingBoxNode.name)
        externalOutboundsByName :=
          GoMap.assignAll ExternalOutbound.name id input.externalOutboundsByName (l.filterMap c.externalTarget)
        externalCreds := GoMap.assignSome ExternalOutbound.name (fun e => (getExternalCredentials c e).toOption)
          input.externalCreds (l.filterMap c.externalTarget) } := by
  induction l generalizing input with
  | nil => simp
  | cons p l ih =>
    rw [List.foldl_cons, ih, addPolicy]
    simp only [List.filterMap_cons]
    cases ha : p.spec.action with
    | reject => simp [Cluster.nodeTarget, Cluster.externalTarget, ha]
    | route =>
      -- a node hides an external outbound of the same name
      cases hn : findOutboundNode c.allNodes (c.egress p) with
      | some n =>
        have hn' : findOutboundNode c.allNodes (egressOf p c.allNodes c.allExtOutbounds) = some n := hn
        simp [Cluster.nodeTarget, Cluster.externalTarget, ha, hn, hn', loadNodeCredential_eq, GoMap.assignSome_cons]
      | none =>
        have hn' : findOutboundNode c.allNodes (egressOf p c.allNodes c.allExtOutbounds) = none := hn
        cases he : findExternalOutbound c.allExtOutbounds (c.egress p) with
        | some e =>
          have he' : findExternalOutbound c.allExtOutbounds (egressOf p c.allNodes c.allExtOutbounds) = some e := he
          simp [Cluster.nodeTarget, Cluster.externalTarget, ha, hn, hn', he, he', loadExternalCredential_eq,
            GoMap.assignSome_cons]
        | none =>
          have he' : findExternalOutbound c.allExtOutbounds (egressOf p c.allNodes c.allExtOutbounds) = none := he
          simp [Cluster.nodeTarget, Cluster.externalTarget, ha, hn, hn', he, he']

end

theorem Cluster.list_eq_ok {α : Type} {c : Cluster} {kind : Kind} {what : String} {items l : List α} :
    c.list kind what items = .ok l ↔ c.listError kind = none ∧ l = items := by
  unfold Cluster.list
  cases c.listError kind with
  | some e => simp
  | none => simp [eq_comm]

theorem collectUsers_ok {c : Cluster} {node : SingBoxNode} {input input' : Input}
    (h : collectUsers c node input = .ok input') :
    input' = { input with
      users := input.users ++ c.servedUsers node
      userCreds := GoMap.assignSome User.name (fun u => (getUserCredential c u).toOption) input.userCreds
        (c.servedUsers node)
      userNodeRestrictions := GoMap.assignSome User.name c.deniedSet input.userNodeRestrictions (c.servedUsers node)
      userNodeAllowlist := GoMap.assignSome User.name c.allowedSet input.userNodeAllowlist (c.servedUsers node) } := by
  unfold collectUsers at h
  by_cases hi : node.hasRole .inbound = true
  · rw [if_pos hi] at h
    obtain ⟨users, h1, h2⟩ := Except.bind_ok h
    obtain ⟨_, rfl⟩ := Cluster.list_eq_ok.1 h1
    rw [foldlM_addUser h2, Cluster.servedUsers, if_pos hi]
    rfl
  · rw [if_neg hi, Except.ok.injEq] at h
    simp [← h, Cluster.servedUsers, hi]

/-- When nothing fails, the loops leave the view of the cluster. -/
theorem collectInput_ok [Library] [MapOrder] {flags : Flags} {c : Cluster} {node : SingBoxNode} {input : Input}
    (h : collectInput flags c node = .ok input) : input = c.view flags node := by
  unfold collectInput at h
  obtain ⟨nodes, h1, h⟩ := Except.bind_ok h
  obtain ⟨exts, h2, h⟩ := Except.bind_ok h
  dsimp only at h
  obtain ⟨withUsers, h3, h⟩ := Except.bind_ok h
  obtain ⟨policies, h4, h⟩ := Except.bind_ok h
  obtain ⟨_, rfl⟩ := Cluster.list_eq_ok.1 h1
  obtain ⟨_, rfl⟩ := Cluster.list_eq_ok.1 h2
  obtain ⟨_, rfl⟩ := Cluster.list_eq_ok.1 h4
  have hn : sortOn SingBoxNode.name c.nodes = c.allNodes := rfl
  have he : sortOn ExternalOutbound.name c.externalOutbounds = c.allExtOutbounds := rfl
  rw [hn, he, foldl_addExternal, foldl_addPeer] at h3
  simp only [hn, he, collectUsers_ok h3, foldl_addPolicy, loadNodeCredential_eq, pure, Except.pure,
    Except.ok.injEq] at h
  rw [← h]
  by_cases ho : node.hasRole .outbound = true <;>
    simp [ho, Cluster.view, Cluster.visibleNodes, Cluster.visibleExternals, GoMap.assignAll_append,
      GoMap.assignSome_append, Cluster.peers, Cluster.discovered, Cluster.kept]

/-! ## When nothing fails -/

/-- The group of the user can be read, or does not exist. -/
def GroupReadable (c : Cluster) (user : User) : Prop :=
  user.spec.userGroupRef ≠ "" → ∀ e, c.userGroup user.spec.userGroupRef = .error e → e.notFound = true

/-- The lists can be read, for an inbound node also the users and their groups. -/
def Cluster.Readable (c : Cluster) (node : SingBoxNode) : Prop :=
  c.listError .singBoxNode = none ∧ c.listError .externalOutbound = none ∧ c.listError .egressPolicy = none ∧
    (node.hasRole .inbound = true → c.listError .user = none ∧ ∀ u ∈ c.users, GroupReadable c u)

theorem addUser_isOk {c : Cluster} {input : Input} {user : User} :
    (∃ input', addUser c input user = .ok input') ↔ GroupReadable c user := by
  unfold addUser GroupReadable
  by_cases hr : user.spec.userGroupRef = ""
  · simp [hr]
  · cases hg : c.userGroup user.spec.userGroupRef with
    | error e => by_cases hn : e.notFound = true <;> simp [hr, hn]
    | ok ug => simp [hr]

theorem foldlM_addUser_isOk {c : Cluster} {l : List User} : ∀ {input : Input},
    (∃ input', l.foldlM (addUser c) input = .ok input') ↔ ∀ u ∈ l, GroupReadable c u := by
  induction l with
  | nil => intro input; exact ⟨fun _ => nofun, fun _ => ⟨input, rfl⟩⟩
  | cons u l ih =>
    intro input
    rw [List.forall_mem_cons, List.foldlM_cons]
    constructor
    · rintro ⟨input', h⟩
      obtain ⟨mid, h1, h2⟩ := Except.bind_ok h
      exact ⟨addUser_isOk.1 ⟨mid, h1⟩, ih.1 ⟨input', h2⟩⟩
    · rintro ⟨hu, hl⟩
      obtain ⟨mid, h1⟩ := addUser_isOk.2 hu
      rw [h1]
      exact ih.2 hl

theorem collectUsers_isOk {c : Cluster} {node : SingBoxNode} {input : Input} :
    (∃ input', collectUsers c node input = .ok input') ↔
      (node.hasRole .inbound = true → c.listError .user = none ∧ ∀ u ∈ c.users, GroupReadable c u) := by
  have hfold : (∃ input', (sortOn User.name c.users).foldlM (addUser c) input = .ok input') ↔
      ∀ u ∈ c.users, GroupReadable c u := by
    simp only [foldlM_addUser_isOk, mem_sortOn]
  unfold collectUsers
  by_cases hi : node.hasRole .inbound = true
  · simp only [hi, if_true, true_imp_iff, ← hfold]
    constructor
    · rintro ⟨input', h⟩
      obtain ⟨users, h1, h2⟩ := Except.bind_ok h
      obtain ⟨he, rfl⟩ := Cluster.list_eq_ok.1 h1
      exact ⟨he, input', h2⟩
    · rintro ⟨he, input', h⟩
      exact ⟨input', by rw [Cluster.list_eq_ok.2 ⟨he, rfl⟩]; exact h⟩
  · simp [hi]

theorem collectInput_isOk [Library] [MapOrder] {flags : Flags} {c : Cluster} {node : SingBoxNode} :
    (∃ input, collectInput flags c node = .ok input) ↔ c.Readable node := by
  constructor
  · rintro ⟨input, h⟩
    unfold collectInput at h
    obtain ⟨nodes, h1, h⟩ := Except.bind_ok h
    obtain ⟨exts, h2, h⟩ := Except.bind_ok h
    dsimp only at h
    obtain ⟨withUsers, h3, h⟩ := Except.bind_ok h
    obtain ⟨policies, h4, h⟩ := Except.bind_ok h
    exact ⟨(Cluster.list_eq_ok.1 h1).1, (Cluster.list_eq_ok.1 h2).1, (Cluster.list_eq_ok.1 h4).1,
      collectUsers_isOk.1 ⟨withUsers, h3⟩⟩
  · rintro ⟨h1, h2, h3, h4⟩
    simp only [collectInput, Cluster.list_eq_ok.2 ⟨h1, rfl⟩, Cluster.list_eq_ok.2 ⟨h2, rfl⟩,
      Cluster.list_eq_ok.2 ⟨h3, rfl⟩, bind, Except.bind]
    generalize hr : collectUsers c node _ = r
    obtain ⟨i, rfl⟩ : ∃ i, r = .ok i := hr ▸ collectUsers_isOk.2 h4
    exact ⟨_, rfl⟩

theorem collectInput_eq_ok [Library] [MapOrder] (flags : Flags) {c : Cluster} {node : SingBoxNode}
    (h : c.Readable node) : collectInput flags c node = .ok (c.view flags node) := by
  obtain ⟨input, hi⟩ := collectInput_isOk.2 h
  rw [hi, collectInput_ok hi]

/-! ## What the view answers -/

namespace Cluster
variable {c : Cluster} {N : SingBoxNode}

@[simp] theorem mem_allNodes {n : SingBoxNode} : n ∈ c.allNodes ↔ n ∈ c.nodes := mem_sortOn
@[simp] theorem mem_allExtOutbounds {e : ExternalOutbound} : e ∈ c.allExtOutbounds ↔ e ∈ c.externalOutbounds :=
  mem_sortOn
@[simp] theorem mem_allUsers {u : User} : u ∈ c.allUsers ↔ u ∈ c.users := mem_sortOn

theorem node_unique {n n' : SingBoxNode} (h : n ∈ c.nodes) (h' : n' ∈ c.nodes) (hn : n.name = n'.name) : n = n' :=
  List.inj_on_of_nodup_map c.nodes_nodup h h' hn

theorem external_unique {e e' : ExternalOutbound} (h : e ∈ c.externalOutbounds) (h' : e' ∈ c.externalOutbounds)
    (hn : e.name = e'.name) : e = e' :=
  List.inj_on_of_nodup_map c.externalOutbounds_nodup h h' hn

theorem user_unique {u u' : User} (h : u ∈ c.users) (h' : u' ∈ c.users) (hn : u.name = u'.name) : u = u' :=
  List.inj_on_of_nodup_map c.users_nodup h h' hn

theorem findOutboundNode_eq_some {name : String} {n : SingBoxNode} :
    findOutboundNode c.allNodes name = some n ↔ n ∈ c.nodes ∧ n.name = name ∧ n.hasRole .outbound = true := by
  constructor
  · intro h
    have hp := List.find?_some h
    simp only [Bool.and_eq_true, decide_eq_true_eq] at hp
    exact ⟨mem_allNodes.1 (List.mem_of_find?_eq_some h), hp.1, hp.2⟩
  · rintro ⟨hm, rfl, hr⟩
    refine find?_eq_some_of_unique (mem_allNodes.2 hm) (by simp [hr]) fun n' hn' hp => ?_
    simp only [Bool.and_eq_true, decide_eq_true_eq] at hp
    exact node_unique (mem_allNodes.1 hn') hm hp.1

theorem findOutboundNode_eq_none {name : String} :
    findOutboundNode c.allNodes name = none ↔ ∀ n ∈ c.nodes, n.name = name → n.hasRole .outbound = false := by
  simp [findOutboundNode, List.find?_eq_none]

theorem findExternalOutbound_eq_some {name : String} {e : ExternalOutbound} :
    findExternalOutbound c.allExtOutbounds name = some e ↔ e ∈ c.externalOutbounds ∧ e.name = name := by
  constructor
  · intro h
    exact ⟨mem_allExtOutbounds.1 (List.mem_of_find?_eq_some h), by simpa using List.find?_some h⟩
  · rintro ⟨hm, rfl⟩
    refine find?_eq_some_of_unique (mem_allExtOutbounds.2 hm) (by simp) fun e' he' hp => ?_
    exact external_unique (mem_allExtOutbounds.1 he') hm (by simpa using hp)

theorem mem_peers {n : SingBoxNode} : n ∈ c.peers N ↔ n ∈ c.nodes ∧ isPeer N n = true := by
  simp [peers, List.mem_filter]

theorem mem_servedUsers {u : User} : u ∈ c.servedUsers N ↔ N.hasRole .inbound = true ∧ u ∈ c.users := by
  unfold servedUsers
  by_cases h : N.hasRole .inbound = true <;> simp [h]

/-- A read of a map filled from the served users. -/
theorem get_servedUsers {V : Type} (val : User → Option V) (zero : V) {u : User} (hu : u ∈ c.servedUsers N) :
    (GoMap.assignSome User.name val ∅ (c.servedUsers N)).get u.name zero = (val u).getD zero := by
  have hl : (GoMap.assignSome User.name val ∅ (c.servedUsers N)).lookup u.name = val u :=
    GoMap.lookup_assignSome User.name val
      (fun v hv hn => by rw [user_unique (mem_servedUsers.1 hv).2 (mem_servedUsers.1 hu).2 hn]) ∅ (.inl ⟨rfl, hu⟩)
  rw [GoMap.get, hl]

section
variable [Library]

theorem mem_kept {p : EgressPolicy} :
    p ∈ c.kept N ↔ p ∈ c.policies ∧ policyApplies N c.allNodes c.allExtOutbounds p = true := List.mem_filter

theorem kept_unique {p q : EgressPolicy} (hp : p ∈ c.kept N) (hq : q ∈ c.kept N) (h : p.name = q.name) : p = q :=
  List.inj_on_of_nodup_map c.policies_nodup (mem_kept.1 hp).1 (mem_kept.1 hq).1 h

/-- Policies are sorted by priority, and ties are broken by the name. -/
theorem policyKey_inj {p q : EgressPolicy} (hp : p ∈ c.kept N) (hq : q ∈ c.kept N) (h : policyKey p = policyKey q) :
    p = q :=
  kept_unique hp hq (congrArg (fun k => (ofLex k).2) h)

theorem nodeTarget_eq_some {p : EgressPolicy} {n : SingBoxNode} :
    c.nodeTarget p = some n ↔
      p.spec.action = .route ∧ n ∈ c.nodes ∧ n.name = c.egress p ∧ n.hasRole .outbound = true := by
  unfold nodeTarget
  cases p.spec.action <;> simp [findOutboundNode_eq_some]

theorem externalTarget_eq_some {p : EgressPolicy} {e : ExternalOutbound} :
    c.externalTarget p = some e ↔
      p.spec.action = .route ∧ (∀ n ∈ c.nodes, n.name = c.egress p → n.hasRole .outbound = false) ∧
        e ∈ c.externalOutbounds ∧ e.name = c.egress p := by
  unfold externalTarget
  cases p.spec.action with
  | reject => simp
  | route =>
    cases h : findOutboundNode c.allNodes (c.egress p) with
    | some n =>
      obtain ⟨hm, hn, hr⟩ := findOutboundNode_eq_some.1 h
      refine ⟨fun he => by simp at he, fun ⟨_, hall, _⟩ => ?_⟩
      simp [hall n hm hn] at hr
    | none =>
      simp only [findExternalOutbound_eq_some, true_and]
      exact ⟨fun he => ⟨findOutboundNode_eq_none.1 h, he⟩, fun he => he.2⟩

theorem visibleNodes_subset {n : SingBoxNode} (h : n ∈ c.visibleNodes N) :
    n ∈ c.nodes ∧ n.hasRole .outbound = true := by
  rcases List.mem_append.1 h with h | h
  · obtain ⟨hm, hp⟩ := mem_peers.1 h
    simp only [isPeer, Bool.and_eq_true] at hp
    exact ⟨hm, hp.1.1.2⟩
  · obtain ⟨p, _, hp⟩ := List.mem_filterMap.1 h
    obtain ⟨_, hm, _, hr⟩ := nodeTarget_eq_some.1 hp
    exact ⟨hm, hr⟩

/-- No node that can be a target shares its name with a visible external outbound. -/
theorem visibleExternals_subset {e : ExternalOutbound} (h : e ∈ c.visibleExternals N) :
    e ∈ c.externalOutbounds ∧ ∀ n ∈ c.nodes, n.name = e.name → n.hasRole .outbound = false := by
  rcases List.mem_append.1 h with h | h
  · obtain ⟨hm, hd⟩ := List.mem_filter.1 h
    simp only [isDiscovered, Bool.and_eq_true, decide_eq_true_eq] at hd
    refine ⟨mem_allExtOutbounds.1 hm, fun n hn hname => absurd ?_ hd.1.1.1.1⟩
    exact List.mem_cons_of_mem _ (hname ▸ List.mem_map_of_mem (mem_allNodes.2 hn))
  · obtain ⟨p, _, hp⟩ := List.mem_filterMap.1 h
    obtain ⟨_, hall, hm, hname⟩ := externalTarget_eq_some.1 hp
    exact ⟨hm, fun n hn hne => hall n hn (hne.trans hname)⟩

theorem visibleExternals_ne {n : SingBoxNode} {e : ExternalOutbound} (hn : n ∈ c.nodes)
    (hr : n.hasRole .outbound = true) (he : e ∈ c.visibleExternals N) : n.name ≠ e.name := by
  intro h
  have hno := (visibleExternals_subset he).2 n hn h
  rw [hr] at hno
  cases hno

variable [MapOrder] {flags : Flags}

@[simp] theorem node_view : (c.view flags N).node = N := rfl
@[simp] theorem users_view : (c.view flags N).users = c.servedUsers N := rfl
@[simp] theorem outboundNodes_view : (c.view flags N).outboundNodes = c.peers N := rfl
@[simp] theorem egressPolicies_view : (c.view flags N).egressPolicies = c.kept N := rfl

theorem view_node {k : String} {n : SingBoxNode} :
    (c.view flags N).outboundNodesByName.lookup k = some n ↔ n ∈ c.visibleNodes N ∧ n.name = k :=
  GoMap.lookup_assignAll_iff _ fun _ hy _ hz => node_unique (visibleNodes_subset hy).1 (visibleNodes_subset hz).1

theorem view_node_none {k : String} (h : (c.view flags N).outboundNodesByName.lookup k = none) :
    ∀ n ∈ c.visibleNodes N, n.name ≠ k := by
  intro n hv hname
  rw [view_node.2 ⟨hv, hname⟩] at h
  cases h

theorem view_external {k : String} {e : ExternalOutbound} :
    (c.view flags N).externalOutboundsByName.lookup k = some e ↔ e ∈ c.visibleExternals N ∧ e.name = k :=
  GoMap.lookup_assignAll_iff _ fun _ hy _ hz =>
    external_unique (visibleExternals_subset hy).1 (visibleExternals_subset hz).1

theorem view_nodeCred {name : String}
    (h : name ∈ (c.visibleNodes N).map SingBoxNode.name ∨ name = N.name ∧ N.hasRole .outbound = true) :
    (c.view flags N).nodeCreds.get name ⟨"", ""⟩ = c.nodeCred name := by
  have hmem : name ∈ (c.visibleNodes N).map SingBoxNode.name ++ if N.hasRole .outbound then [N.name] else [] := by
    rcases h with h | ⟨rfl, h⟩
    · exact List.mem_append_left _ h
    · simp [h]
  have hl := GoMap.lookup_assignSome id (fun name => (getNodeCredential c name).toOption) (x := name)
    (fun y _ hy => by rw [show y = name from hy]) ∅ (.inl ⟨rfl, hmem⟩)
  rw [GoMap.get, nodeCred, view]
  exact congrArg (Option.getD · _) hl

theorem view_externalCred {e : ExternalOutbound} (h : e ∈ c.visibleExternals N) :
    (c.view flags N).externalCreds.get e.name ∅ = c.externalCred e := by
  have hl := GoMap.lookup_assignSome ExternalOutbound.name (fun e => (getExternalCredentials c e).toOption) (x := e)
    (fun x hx hn => by rw [external_unique (visibleExternals_subset hx).1 (visibleExternals_subset h).1 hn]) ∅
    (.inl ⟨rfl, h⟩)
  rw [GoMap.get, externalCred, view]
  exact congrArg (Option.getD · _) hl

theorem view_userCred {u : User} (h : u ∈ c.servedUsers N) :
    (c.view flags N).userCreds.get u.name ⟨""⟩ = c.userCred u :=
  get_servedUsers (fun u => (getUserCredential c u).toOption) _ h

theorem view_allows {u : User} (h : u ∈ c.servedUsers N) (t : String) :
    (c.view flags N).allows u t = c.mayUse u t := by
  have ha := get_servedUsers c.allowedSet ∅ h
  have hd := get_servedUsers c.deniedSet ∅ h
  simp only [Input.allows, view, ha, hd, mayUse]

end

/-- The credentials of an external outbound are a copy of its Secret, in whatever order it is copied. -/
theorem lookup_externalCred [MapOrder] (c : Cluster) (e : ExternalOutbound) (k : String) :
    (c.externalCred e).lookup k =
      e.spec.credentialsSecretRef.bind fun ref =>
        (c.secret c.ns ref).toOption.bind fun data => (data.lookup k).filter (· ≠ "") := by
  unfold externalCred getExternalCredentials
  cases e.spec.credentialsSecretRef with
  | none => rfl
  | some ref =>
    cases hs : c.secret c.ns ref with
    | error err => simp [hs, Except.toOption]
    | ok data =>
      simp only [hs, Except.toOption, Option.getD_some, Option.bind_some]
      exact lookup_copy _ data (· ≠ "") k

end Cluster

end SingboxOperator
