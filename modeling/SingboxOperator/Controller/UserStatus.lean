import SingboxOperator.Controller.ListOrder
import SingboxOperator.Controller.UserReconciler
/-!
# Whether the reconciler of users comes to rest

A run writes the user's status, and a status that changes starts the next run.
`setStatusCondition` keeps the conditions still once they are set. The names of
the nodes are written in the order the nodes are listed in, which is any order:
with two of them the next run may find the status changed again.
-/
open SingboxOperator.Lib

namespace SingboxOperator

/-! ## Conditions -/

/-- `metav1.Condition`. -/
structure MetaCondition extends StatusCondition where
  observedGeneration : Int
  lastTransitionTime : Int
  deriving DecidableEq, Repr

/-- `SetStatusCondition` for a condition that comes without a time: the first one
of its type is changed where it stands, and its time only with its status. -/
def setStatusCondition (now generation : Int) (cond : StatusCondition) : List MetaCondition → List MetaCondition
  | [] => [{ toStatusCondition := cond, observedGeneration := generation, lastTransitionTime := now }]
  | existing :: rest =>
    if existing.type = cond.type then
      { toStatusCondition := cond
        observedGeneration := generation
        lastTransitionTime := if existing.status ≠ cond.status then now else existing.lastTransitionTime } :: rest
    else existing :: setStatusCondition now generation cond rest

def setStatusConditions (now generation : Int) (conds : List StatusCondition) (conditions : List MetaCondition) :
    List MetaCondition :=
  conds.foldl (fun conditions cond => setStatusCondition now generation cond conditions) conditions

/-- The condition of a type says what was set. -/
def IsSet (generation : Int) (cond : StatusCondition) (conditions : List MetaCondition) : Prop :=
  ∃ e, conditions.find? (fun e => e.type = cond.type) = some e ∧ e.toStatusCondition = cond ∧
    e.observedGeneration = generation

section
variable {now generation : Int} {cond cond' : StatusCondition} {conditions : List MetaCondition}

theorem setStatusCondition_isSet (now generation : Int) (cond : StatusCondition) (conditions : List MetaCondition) :
    IsSet generation cond (setStatusCondition now generation cond conditions) := by
  unfold IsSet
  induction conditions with
  | nil => simp [setStatusCondition]
  | cons existing rest ih =>
    rw [setStatusCondition]
    by_cases h : existing.type = cond.type
    · simp [h]
    · simpa [h] using ih

theorem IsSet.setStatusCondition_other (h : IsSet generation cond conditions) (hne : cond'.type ≠ cond.type) :
    IsSet generation cond (setStatusCondition now generation cond' conditions) := by
  obtain ⟨e, hfind, he⟩ := h
  refine ⟨e, ?_, he⟩
  rw [← hfind]
  clear hfind
  induction conditions with
  | nil => simp [setStatusCondition, hne]
  | cons existing rest ih =>
    rw [setStatusCondition]
    by_cases h' : existing.type = cond'.type
    · rw [if_pos h', List.find?_cons_of_neg (by simpa using hne), List.find?_cons_of_neg (by simpa [h'] using hne)]
    · rw [if_neg h', List.find?_cons, List.find?_cons, ih]

theorem IsSet.setStatusCondition_self (h : IsSet generation cond conditions) :
    setStatusCondition now generation cond conditions = conditions := by
  obtain ⟨e, hfind, rfl, rfl⟩ := h
  induction conditions with
  | nil => cases hfind
  | cons existing rest ih =>
    rw [setStatusCondition]
    by_cases h' : existing.type = e.type
    · rw [List.find?_cons_of_pos (by simpa using h')] at hfind
      obtain rfl := Option.some.inj hfind
      simp
    · rw [List.find?_cons_of_neg (by simpa using h')] at hfind
      rw [if_neg h', ih hfind]

/-- Conditions of different types are all set in the end. -/
theorem setStatusConditions_isSet {conds : List StatusCondition}
    (hnodup : (conds.map fun cond => cond.type).Nodup) (conditions : List MetaCondition) :
    ∀ cond ∈ conds, IsSet generation cond (setStatusConditions now generation conds conditions) := by
  induction conds using List.reverseRecOn with
  | nil => simp
  | append_singleton conds last ih =>
    rw [List.map_append, List.nodup_append] at hnodup
    obtain ⟨hconds, _, hdisjoint⟩ := hnodup
    intro cond hcond
    rw [setStatusConditions, List.foldl_concat]
    rcases List.mem_append.1 hcond with hcond | hcond
    · -- the last one is of another type
      have hne := hdisjoint cond.type (List.mem_map_of_mem hcond) last.type (by simp)
      exact (ih hconds cond hcond).setStatusCondition_other (Ne.symm hne)
    · rw [List.mem_singleton.1 hcond]
      exact setStatusCondition_isSet _ _ _ _

theorem setStatusConditions_self {conds : List StatusCondition} (h : ∀ cond ∈ conds, IsSet generation cond conditions) :
    setStatusConditions now generation conds conditions = conditions := by
  unfold setStatusConditions
  induction conds with
  | nil => rfl
  | cons cond conds ih =>
    rw [List.foldl_cons, (h cond List.mem_cons_self).setStatusCondition_self]
    exact ih fun cond' hcond' => h cond' (List.mem_cons_of_mem _ hcond')

end

/-- What the write of a status reads and changes of an object: its generation, and what the status says of it. -/
structure StatusRecord where
  generation : Int
  observedGeneration : Int
  conditions : List MetaCondition
  deriving DecidableEq, Repr

namespace StatusRecord
variable {r : StatusRecord} {conds : List StatusCondition} {now : Int}

/-- The conditions are set one after the other, for the generation the object has. -/
def set (r : StatusRecord) (now : Int) (conds : List StatusCondition) : StatusRecord where
  generation := r.generation
  observedGeneration := r.generation
  conditions := setStatusConditions now r.generation conds r.conditions

structure Says (r : StatusRecord) (conds : List StatusCondition) : Prop where
  observedGeneration : r.observedGeneration = r.generation
  conditions : ∀ cond ∈ conds, IsSet r.generation cond r.conditions

theorem says_set (r : StatusRecord) (now : Int) (hnodup : (conds.map fun cond => cond.type).Nodup) :
    (r.set now conds).Says conds :=
  ⟨rfl, setStatusConditions_isSet hnodup _⟩

theorem Says.set_eq (h : r.Says conds) : r.set now conds = r := by
  rw [set, setStatusConditions_self h.conditions]
  obtain ⟨hobserved, _⟩ := h
  cases r
  simp_all

end StatusRecord

/-! ## The status of a user -/

/-- The status as it is stored. -/
structure StoredUserStatus where
  activeNodeCount : Nat := 0
  activeNodes : List String := []
  conditions : List MetaCondition := []
  observedGeneration : Int := 0
  deriving DecidableEq, Repr

/-- `updateStatus`, with what a run has to write. -/
def updateUserStatus (now generation : Int) (latest : StoredUserStatus) (written : UserStatus) : StoredUserStatus where
  activeNodeCount := written.activeNodeCount
  activeNodes := written.activeNodes
  conditions := setStatusConditions now generation written.conditions latest.conditions
  observedGeneration := generation

/-- What a run has to write; nothing if the user is gone or the run fails before. -/
def statusWritten (c : Cluster) (name : String) : Option UserStatus :=
  match reconcileUser c name with
  | .ok (some run) => run.status.toOption
  | _ => none

/-- The status of a user after a run. -/
def statusAfter (now generation : Int) (c : Cluster) (name : String) (latest : StoredUserStatus) : StoredUserStatus :=
  match statusWritten c name with
  | some written => updateUserStatus now generation latest written
  | none => latest

namespace Cluster

/-- The inbound nodes the user's group lets through. -/
def activeNodes (c : Cluster) (user : User) : List SingBoxNode :=
  c.nodes.filter fun n => n.hasRole .inbound && c.mayUse user n.name

variable {c c' : Cluster} {user : User}

/-- Where there is no group, or it does not exist, the user may use everything. -/
theorem mayUse_of_groupOf_none (h : c.groupOf user = none) (name : String) : c.mayUse user name = true := by
  simp [mayUse, allowedSet, deniedSet, h, isNodeAllowed, GoMap.get, GoMap.len]

/-- The sets `findMatchingInboundNodes` builds allow what those of the config engine allow. -/
theorem mayUse_of_groupOf_some {ug : UserGroup} (h : c.groupOf user = some ug) (name : String) :
    c.mayUse user name = isNodeAllowed name (nameSet ug.spec.allowedNodes) (nameSet ug.spec.deniedNodes) := by
  simp only [mayUse, allowedSet, deniedSet, h, Option.bind_some, Option.map_some, Option.getD_some]
  by_cases hlen : (nameSet ug.spec.allowedNodes).len = 0
  · have hempty : (∅ : NameSet).len = 0 := rfl
    rw [if_neg (by omega), Option.getD_none]
    simp [isNodeAllowed, hlen, hempty]
  · rw [if_pos (Nat.pos_of_ne_zero hlen), Option.getD_some]

end Cluster

section
variable {c c' : Cluster} {user : User} {name : String}

theorem findMatchingInboundNodes_eq_ok {nodes : List SingBoxNode} :
    findMatchingInboundNodes c user = .ok nodes ↔
      c.listError .singBoxNode = none ∧ GroupReadable c user ∧ c.activeNodes user = nodes := by
  unfold findMatchingInboundNodes Cluster.list GroupReadable
  cases hlist : c.listError .singBoxNode with
  | some e => simp [bind, Except.bind]
  | none =>
    have hfree : c.groupOf user = none →
        c.activeNodes user = c.nodes.filter fun n => n.hasRole .inbound := by
      intro hg
      exact List.filter_congr fun n _ => by rw [Cluster.mayUse_of_groupOf_none hg, Bool.and_true]
    by_cases href : user.spec.userGroupRef = ""
    · rw [hfree (by simp [Cluster.groupOf, href])]
      simp [href, bind, Except.bind]
    · cases hg : c.userGroup user.spec.userGroupRef with
      | error e =>
        rw [hfree (by simp [Cluster.groupOf, href, hg, Except.toOption])]
        cases hn : e.notFound <;> simp [href, hn, bind, Except.bind]
      | ok ug =>
        have hactive : c.activeNodes user = (c.nodes.filter fun n => n.hasRole .inbound).filter fun n =>
            isNodeAllowed n.name (nameSet ug.spec.allowedNodes) (nameSet ug.spec.deniedNodes) := by
          have hgroup : c.groupOf user = some ug := by simp [Cluster.groupOf, href, hg, Except.toOption]
          rw [List.filter_filter]
          refine List.filter_congr fun n _ => ?_
          rw [Cluster.mayUse_of_groupOf_some hgroup, Bool.and_comm]
        rw [hactive]
        simp [href, bind, Except.bind]

theorem userGroupCondition_isOk : (∃ group, userGroupCondition c user = .ok group) ↔ GroupReadable c user := by
  unfold userGroupCondition GroupReadable
  by_cases href : user.spec.userGroupRef = ""
  · simp [href]
  · cases hg : c.userGroup user.spec.userGroupRef with
    | error e => cases hn : e.notFound <;> simp [href, hn]
    | ok ug => simp [href]

theorem nodup_conditionTypes {group : List StatusCondition} (h : userGroupCondition c user = .ok group) :
    ("Ready" :: group.map fun cond => cond.type).Nodup := by
  unfold userGroupCondition at h
  by_cases href : user.spec.userGroupRef = ""
  · rw [if_pos href] at h
    obtain rfl := Except.ok.inj h
    simp
  · rw [if_neg href] at h
    cases hg : c.userGroup user.spec.userGroupRef with
    | ok ug =>
      simp only [hg] at h
      obtain rfl := Except.ok.inj h
      decide
    | error e =>
      simp only [hg] at h
      cases hn : e.notFound with
      | true =>
        rw [hn, if_pos rfl] at h
        obtain rfl := Except.ok.inj h
        simp
      | false =>
        rw [hn] at h
        cases h

theorem userStatus_eq_ok {nodes : List SingBoxNode} {w : UserStatus} :
    userStatus c user nodes = .ok w ↔ ∃ group, userGroupCondition c user = .ok group ∧
      { activeNodeCount := nodes.length
        activeNodes := nodes.map SingBoxNode.name
        conditions := { type := "Ready", status := "True", reason := "Reconciled",
                        message := "User active on " ++ toString nodes.length ++ " nodes" } :: group } = w := by
  unfold userStatus
  cases h : userGroupCondition c user <;> simp [bind, Except.bind, pure, Except.pure]

/-- A run writes a status when the user is there and everything it reads can be read. -/
theorem statusWritten_eq_some {w : UserStatus} :
    statusWritten c name = some w ↔ ∃ user, c.users.find? (fun u => u.name = name) = some user ∧
      c.listError .singBoxNode = none ∧ userStatus c user (c.activeNodes user) = .ok w := by
  unfold statusWritten reconcileUser
  cases hfind : c.users.find? fun u => u.name = name with
  | none => simp
  | some user =>
    cases hnodes : findMatchingInboundNodes c user with
    | error e =>
      have hfail : ¬ (c.listError .singBoxNode = none ∧ GroupReadable c user) := by
        rintro ⟨hlist, hgroup⟩
        rw [findMatchingInboundNodes_eq_ok.2 ⟨hlist, hgroup, rfl⟩] at hnodes
        cases hnodes
      simp only [hnodes, bind, Except.bind, reduceCtorEq, false_iff]
      rintro ⟨user', hu, hlist, hw⟩
      obtain rfl := Option.some.inj hu
      obtain ⟨group, hgroup, _⟩ := userStatus_eq_ok.1 hw
      exact hfail ⟨hlist, userGroupCondition_isOk.1 ⟨group, hgroup⟩⟩
    | ok nodes =>
      obtain ⟨hlist, _, rfl⟩ := findMatchingInboundNodes_eq_ok.1 hnodes
      simp only [hnodes, bind, Except.bind, pure, Except.pure]
      cases hw : userStatus c user (c.activeNodes user) <;> simp [Except.toOption, hlist, hw]

theorem exists_statusWritten (hfind : c.users.find? (fun u => u.name = name) = some user)
    (hlist : c.listError .singBoxNode = none) (hgroup : GroupReadable c user) :
    ∃ w, statusWritten c name = some w ∧ w.activeNodes = (c.activeNodes user).map SingBoxNode.name := by
  obtain ⟨group, hgroup⟩ := userGroupCondition_isOk.2 hgroup
  exact ⟨_, statusWritten_eq_some.2 ⟨user, hfind, hlist, userStatus_eq_ok.2 ⟨group, hgroup, rfl⟩⟩, rfl⟩

theorem activeNodes_of_statusWritten {w : UserStatus} (hw : statusWritten c name = some w) :
    ∃ user, c.users.find? (fun u => u.name = name) = some user ∧ c.listError .singBoxNode = none ∧
      GroupReadable c user ∧ w.activeNodes = (c.activeNodes user).map SingBoxNode.name := by
  obtain ⟨user, hfind, hlist, hstatus⟩ := statusWritten_eq_some.1 hw
  obtain ⟨group, hgroup, rfl⟩ := userStatus_eq_ok.1 hstatus
  exact ⟨user, hfind, hlist, userGroupCondition_isOk.1 ⟨group, hgroup⟩, rfl⟩

/-- In another order the same nodes are written, and the same conditions. -/
theorem Cluster.Permuted.statusWritten (h : c.Permuted c') {w : UserStatus}
    (hw : statusWritten c name = some w) :
    ∃ w', SingboxOperator.statusWritten c' name = some w' ∧ w'.activeNodeCount = w.activeNodeCount ∧
      w'.activeNodes.Perm w.activeNodes ∧ w'.conditions = w.conditions := by
  obtain ⟨user, hfind, hlist, hstatus⟩ := statusWritten_eq_some.1 hw
  obtain ⟨group, hgroup, rfl⟩ := userStatus_eq_ok.1 hstatus
  have hmay : c'.mayUse user = c.mayUse user := by
    funext t
    simp only [Cluster.mayUse, Cluster.allowedSet, Cluster.deniedSet, h.groupOf]
  have hnodes : (c'.activeNodes user).Perm (c.activeNodes user) := by
    unfold Cluster.activeNodes
    rw [hmay]
    exact h.nodes.filter _
  have hgroup' : userGroupCondition c' user = .ok group := by
    rw [← hgroup, userGroupCondition, userGroupCondition, h.userGroup, h.ns]
  have hfind' : c'.users.find? (fun u => u.name = name) = some user := by
    rw [← hfind]
    refine find?_eq_of_perm h.users fun u hu v hv hun hvn => ?_
    exact Cluster.user_unique hu hv ((of_decide_eq_true hun).trans (of_decide_eq_true hvn).symm)
  refine ⟨_, statusWritten_eq_some.2 ⟨user, hfind', ?_, userStatus_eq_ok.2 ⟨group, hgroup', rfl⟩⟩, hnodes.length_eq,
    hnodes.map _, ?_⟩
  · rw [h.listError, hlist]
  · dsimp only
    rw [hnodes.length_eq]

/-! ## Coming to rest -/

/-- After a run the next one, whatever the order of the lists, leaves the status as it is. -/
def ComesToRest (generation : Int) (c : Cluster) (name : String) (latest : StoredUserStatus) : Prop :=
  ∀ now now' c', c.Permuted c' →
    statusAfter now' generation c' name (statusAfter now generation c name latest) =
      statusAfter now generation c name latest

theorem nodup_writtenTypes {w : UserStatus} (hw : statusWritten c name = some w) :
    (w.conditions.map fun cond => cond.type).Nodup := by
  obtain ⟨user, _, _, hstatus⟩ := statusWritten_eq_some.1 hw
  obtain ⟨group, hgroup, rfl⟩ := userStatus_eq_ok.1 hstatus
  exact nodup_conditionTypes hgroup

/-- Writing a status for the second time changes nothing. -/
theorem updateUserStatus_self {w : UserStatus} (hw : statusWritten c name = some w) (now now' generation : Int)
    (latest : StoredUserStatus) :
    updateUserStatus now' generation (updateUserStatus now generation latest w) w =
      updateUserStatus now generation latest w := by
  simp only [updateUserStatus, setStatusConditions_self (setStatusConditions_isSet (nodup_writtenTypes hw) _)]

theorem statusAfter_of_some {w : UserStatus} (hw : statusWritten c name = some w) (now generation : Int)
    (latest : StoredUserStatus) :
    statusAfter now generation c name latest = updateUserStatus now generation latest w := by
  rw [statusAfter, hw]

theorem statusAfter_of_none (hw : statusWritten c name = none) (now generation : Int) (latest : StoredUserStatus) :
    statusAfter now generation c name latest = latest := by
  rw [statusAfter, hw]

/-- The same cluster with its nodes listed backwards. -/
def Cluster.backwards (c : Cluster) : Cluster :=
  { c with
    nodes := c.nodes.reverse
    nodes_nodup := by
      rw [List.map_reverse, List.nodup_reverse]
      exact c.nodes_nodup }

theorem Cluster.permuted_backwards (c : Cluster) : c.Permuted c.backwards where
  ns := rfl
  nodes := List.reverse_perm _
  externalOutbounds := .refl _
  users := .refl _
  policies := .refl _
  userGroup := rfl
  secret := rfl
  listError := rfl

theorem statusWritten_backwards {w w' : UserStatus} (hw : statusWritten c name = some w)
    (hw' : statusWritten c.backwards name = some w') : w'.activeNodes = w.activeNodes.reverse := by
  obtain ⟨user, hfind, _, _, hnames⟩ := activeNodes_of_statusWritten hw
  obtain ⟨user', hfind', _, _, hnames'⟩ := activeNodes_of_statusWritten hw'
  obtain rfl : user = user' := Option.some.inj (hfind.symm.trans hfind')
  have hactive : c.backwards.activeNodes user = (c.activeNodes user).reverse := List.filter_reverse
  rw [hnames', hnames, hactive, List.map_reverse]

theorem nodup_activeNodes {w : UserStatus} (hw : statusWritten c name = some w) : w.activeNodes.Nodup := by
  obtain ⟨user, _, _, _, hnames⟩ := activeNodes_of_statusWritten hw
  rw [hnames]
  exact c.nodes_nodup.sublist (List.filter_sublist.map _)

variable {generation : Int} {latest : StoredUserStatus}

/-- Two nodes are written the other way round when they are listed the other way round. -/
theorem ComesToRest.length_le_one (h : ComesToRest generation c name latest) {w : UserStatus}
    (hw : statusWritten c name = some w) : w.activeNodes.length ≤ 1 := by
  obtain ⟨w', hw', -⟩ := c.permuted_backwards.statusWritten hw
  have hrest := h 0 0 c.backwards c.permuted_backwards
  rw [statusAfter_of_some hw', statusAfter_of_some hw] at hrest
  have hnames : w'.activeNodes = w.activeNodes := congrArg StoredUserStatus.activeNodes hrest
  rw [statusWritten_backwards hw hw'] at hnames
  exact length_le_one_of_reverse (nodup_activeNodes hw) hnames

/-- The reconciler comes to rest exactly for the users it finds at most one node
for, as long as it can read the nodes and the group of the user at all. -/
theorem comesToRest_iff :
    ComesToRest generation c name latest ↔
      ∀ user, c.users.find? (fun u => u.name = name) = some user → c.listError .singBoxNode = none →
        GroupReadable c user → (c.activeNodes user).length ≤ 1 := by
  constructor
  · intro h user hfind hlist hgroup
    obtain ⟨w, hw, hnames⟩ := exists_statusWritten hfind hlist hgroup
    have hle := h.length_le_one hw
    rwa [hnames, List.length_map] at hle
  · intro h now now' c' hperm
    cases hw : statusWritten c name with
    | none =>
      have hw' : statusWritten c' name = none := by
        cases hw' : statusWritten c' name with
        | none => rfl
        | some w' =>
          obtain ⟨w, hw'', -⟩ := hperm.symm.statusWritten hw'
          rw [hw] at hw''
          cases hw''
      rw [statusAfter_of_none hw', statusAfter_of_none hw]
    | some w =>
      obtain ⟨w', hw', hcount, hnames, hconds⟩ := hperm.statusWritten hw
      have heq : w'.activeNodes = w.activeNodes := by
        cases hl : w.activeNodes with
        | nil => exact (hl ▸ hnames).eq_nil
        | cons a l =>
          obtain rfl : l = [] := by
            obtain ⟨user, hfind, hlist, hgroup, hactive⟩ := activeNodes_of_statusWritten hw
            have hle := h user hfind hlist hgroup
            rw [← List.length_map (f := SingBoxNode.name), ← hactive, hl, List.length_cons] at hle
            exact List.eq_nil_of_length_eq_zero (by omega)
          exact List.perm_singleton.1 (hl ▸ hnames)
      obtain rfl : w' = w := by
        cases w
        cases w'
        simp_all
      rw [statusAfter_of_some hw', statusAfter_of_some hw]
      exact updateUserStatus_self hw now now' generation latest

end

/-! ### Two inbound nodes -/

def pierNode : SingBoxNode where
  metadata := .named "pier"
  spec :=
    { SingBoxNodeSpec.bare with
      address := "203.0.113.50", region := "nl", roles := [.inbound],
      supportedProtocols := [Port.https.listener .hysteria2] }

def jettyNode : SingBoxNode where
  metadata := .named "jetty"
  spec :=
    { SingBoxNodeSpec.bare with
      address := "203.0.113.51", region := "nl", roles := [.inbound],
      supportedProtocols := [Port.https.listener .hysteria2] }

def heidi : User := { metadata := .named "heidi", spec := { authSecret := { name := "heidi-auth" } } }

def portCluster : Cluster where
  ns := "proxy"
  nodes := [pierNode, jettyNode]
  users := [heidi]
  nodes_nodup := by decide
  externalOutbounds_nodup := noExternals_nodup
  users_nodup := by decide
  policies_nodup := noPolicies_nodup

/-- The status of the user is written over and over. -/
theorem not_forall_comesToRest :
    ¬ ∀ (generation : Int) (c : Cluster) (name : String) (latest : StoredUserStatus),
      ComesToRest generation c name latest := by
  intro h
  have hlength := (h 1 portCluster "heidi" {}).length_le_one rfl
  revert hlength
  decide

end SingboxOperator
