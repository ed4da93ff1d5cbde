import SingboxOperator.Controller.PolicyReconciler
import SingboxOperator.Controller.UserReconciler
import SingboxOperator.Controller.View
import SingboxOperator.Lib.Changes
/-!
# Who is woken by a change

The watches of `SetupWithManager`, with their map functions and predicates. A
change of one custom resource enqueues nodes directly; it also enqueues
policies, users and groups, and their reconcilers then touch nodes and users. The map
functions list the cluster as it is after the change.
-/
open SingboxOperator.Lib

namespace SingboxOperator

def UserGroup.name (g : UserGroup) : String := g.metadata.name

/-- A change of one custom resource. The flag of an update says whether it has
changed `metadata.generation`. -/
inductive Event
  | singBoxNode (ch : Change SingBoxNode) (generation : Bool)
  | externalOutbound (ch : Change ExternalOutbound) (generation : Bool)
  | egressPolicy (ch : Change EgressPolicy) (generation : Bool)
  | user (ch : Change User)
  | userGroup (ch : Change UserGroup)

/-! ## Predicates and handlers of controller-runtime -/

section
variable {α : Type}

/-- `GenerationChangedPredicate` only looks at updates. -/
def generationChanged (ch : Change α) (generation : Bool) : Bool :=
  match ch with
  | .update _ _ => generation
  | _ => true

/-- `LabelChangedPredicate`, for the two kinds it is used for. -/
def labelChanged (metadata : α → ObjectMeta) : Change α → Bool
  | .update old new => (metadata old).labels ≠ (metadata new).labels
  | _ => true

/-- `EnqueueRequestsFromMapFunc` under a predicate: an update is mapped from both objects. -/
def enqueueRequestsFromMapFunc (passes : Bool) (mapper : α → List String) (ch : Change α) : List String :=
  if passes then ch.objects.flatMap mapper else []

theorem mem_enqueueRequests {passes : Bool} {mapper : α → List String} {ch : Change α} {name : String} :
    name ∈ enqueueRequestsFromMapFunc passes mapper ch ↔ passes = true ∧ ∃ x ∈ ch.objects, name ∈ mapper x := by
  cases passes <;> simp [enqueueRequestsFromMapFunc]

end

/-! ## Map functions -/

def sameRegionNodeMapper (c : Cluster) (changedNode : SingBoxNode) : List String :=
  match c.listError .singBoxNode with
  | some _ => []
  | none =>
    (c.nodes.filter fun n => n.name ≠ changedNode.name && n.spec.region = changedNode.spec.region).map SingBoxNode.name

/-- All inbound nodes, whatever their protocol. -/
def matchingProtocolNodeMapper (c : Cluster) (_ : User) : List String :=
  match c.listError .singBoxNode with
  | some _ => []
  | none => (c.nodes.filter fun n => n.hasRole .inbound).map SingBoxNode.name

def usersInGroupToNodesMapper (c : Cluster) (userGroup : UserGroup) : List String :=
  match c.listError .user, c.listError .singBoxNode with
  | none, none =>
    if c.users.any fun u => u.spec.userGroupRef = userGroup.name then
      (c.nodes.filter fun n => n.hasRole .inbound).map SingBoxNode.name
    else []
  | _, _ => []

section
variable [Library]

def egressPolicyMapper (c : Cluster) (policy : EgressPolicy) : List String :=
  match c.listError .singBoxNode with
  | some _ => []
  | none =>
    (c.nodes.filter fun n => n.hasRole .inbound && policy.spec.ingressSelector.matches n.metadata).map SingBoxNode.name

/-- The inbound nodes of the region, and those a route policy connects with the
ExternalOutbound, if there still is one of that name. -/
def inboundsAffectedByExternalOutbound (c : Cluster) (eobName eobRegion : String) : List String :=
  match c.listError .singBoxNode, c.listError .externalOutbound, c.listError .egressPolicy with
  | none, none, none =>
    let eob := findExternalOutbound c.externalOutbounds eobName
    (c.nodes.filter fun node =>
      node.hasRole .inbound &&
        (eobRegion ≠ "" && node.spec.region = eobRegion ||
          eob.any fun eob => c.policies.any fun policy =>
            policy.spec.action = .route && policy.spec.ingressSelector.matches node.metadata &&
              policy.spec.egressSelector.matches eob.metadata)).map SingBoxNode.name
  | _, _, _ => []

def externalOutboundMapper (c : Cluster) (eob : ExternalOutbound) : List String :=
  inboundsAffectedByExternalOutbound c eob.name eob.spec.region

end

/-- The ExternalOutbounds whose credentials are in the Secret. They are in its
namespace, so a Secret of another one has none here. -/
def externalsOfSecret (c : Cluster) (ns secret : String) : List ExternalOutbound :=
  match c.listError .externalOutbound with
  | some _ => []
  | none => if ns = c.ns then c.externalOutbounds.filter fun e => e.spec.credentialsSecretRef = some secret else []

def externalCredentialSecretMapper [Library] (c : Cluster) (ns secret : String) : List String :=
  ((externalsOfSecret c ns secret).flatMap fun e =>
    inboundsAffectedByExternalOutbound c e.name e.spec.region).eraseDups

/-- The mapper of `ExternalOutboundReconciler`. -/
def credentialsSecretMapper (c : Cluster) (ns secret : String) : List String :=
  (externalsOfSecret c ns secret).map ExternalOutbound.name

/-- Every policy, whatever has changed. -/
def policyMapper (c : Cluster) {α : Type} (_ : α) : List String :=
  match c.listError .egressPolicy with
  | some _ => []
  | none => c.policies.map EgressPolicy.name

/-! ## The controllers -/

section
variable [Library]

/-- The queue of `SingBoxNodeReconciler`. Only its own watch of nodes has no predicate. -/
def nodeRequests (c : Cluster) : Event → List String
  | .singBoxNode ch generation =>
    ch.object.name :: enqueueRequestsFromMapFunc (generationChanged ch generation) (sameRegionNodeMapper c) ch
  | .externalOutbound ch generation =>
    enqueueRequestsFromMapFunc (generationChanged ch generation) (externalOutboundMapper c) ch
  | .egressPolicy ch generation =>
    enqueueRequestsFromMapFunc (generationChanged ch generation) (egressPolicyMapper c) ch
  | .user ch => enqueueRequestsFromMapFunc true (matchingProtocolNodeMapper c) ch
  | .userGroup ch => enqueueRequestsFromMapFunc true (usersInGroupToNodesMapper c) ch

omit [Library] in
/-- The queue of `EgressPolicyReconciler`. -/
def policyRequests (c : Cluster) : Event → List String
  | .singBoxNode ch generation =>
    enqueueRequestsFromMapFunc (generationChanged ch generation || labelChanged SingBoxNode.metadata ch)
      (policyMapper c) ch
  | .externalOutbound ch generation =>
    enqueueRequestsFromMapFunc (generationChanged ch generation || labelChanged ExternalOutbound.metadata ch)
      (policyMapper c) ch
  | .egressPolicy ch _ => [ch.object.name]
  | _ => []

omit [Library] in
/-- The queue of `UserReconciler`. -/
def userRequests : Event → List String
  | .user ch => [ch.object.name]
  | _ => []

omit [Library] in
/-- The queue of `UserGroupReconciler`. -/
def userGroupRequests : Event → List String
  | .userGroup ch => [ch.object.name]
  | _ => []

/-- A node is enqueued, or touched by a reconciler the event enqueues. A patch
of a user by the reconciler of its group is an event of its own. -/
inductive Woken (c : Cluster) : Event → String → Prop
  | enqueued {ev : Event} {name : String} (h : name ∈ nodeRequests c ev) : Woken c ev name
  | policy {ev : Event} {name policy : String} {run : PolicyRun} (hp : policy ∈ policyRequests c ev)
      (hrun : reconcilePolicy c policy = .ok (some run)) (h : name ∈ run.touched) : Woken c ev name
  | user {ev : Event} {name user : String} {run : UserRun} (hu : user ∈ userRequests ev)
      (hrun : reconcileUser c user = .ok (some run)) (h : name ∈ run.touched) : Woken c ev name
  | userGroup {ev : Event} {name group : String} {patched : List User} {u : User} (hg : group ∈ userGroupRequests ev)
      (hrun : reconcileUserGroup c group = .ok patched) (hu : u ∈ patched) (h : Woken c (.user (.update u u)) name) :
      Woken c ev name

/-- A change of a Secret enqueues nodes and ExternalOutbounds. What the
reconciler of the latter writes is their status. -/
inductive WokenBySecret (c : Cluster) (ns secret : String) : String → Prop
  | enqueued {name : String} (h : name ∈ externalCredentialSecretMapper c ns secret) : WokenBySecret c ns secret name
  | externalOutbound {name : String} {e : ExternalOutbound} (he : e ∈ c.externalOutbounds)
      (hreq : e.name ∈ credentialsSecretMapper c ns secret)
      (h : Woken c (.externalOutbound (.update e e) false) name) : WokenBySecret c ns secret name

end

/-! ## Changes of the cluster -/

/-- An update that keeps the generation keeps the spec. -/
def KeepsSpec {α σ : Type} (spec : α → σ) (ch : Change α) (generation : Bool) : Prop :=
  ∀ old new, ch = .update old new → generation = false → spec new = spec old

/-- What reading a group gives before and after the change. -/
inductive GroupChange : Change UserGroup → Except ApiError UserGroup → Except ApiError UserGroup → Prop
  | create (g : UserGroup) (e : ApiError) (h : e.notFound = true) : GroupChange (.create g) (.error e) (.ok g)
  | update (old new : UserGroup) (h : new.name = old.name) : GroupChange (.update old new) (.ok old) (.ok new)
  | delete (g : UserGroup) (e : ApiError) (h : e.notFound = true) : GroupChange (.delete g) (.ok g) (.error e)

namespace Cluster

abbrev withNodes (c : Cluster) (nodes : List SingBoxNode) (h : (nodes.map SingBoxNode.name).Nodup) : Cluster :=
  { c with nodes := nodes, nodes_nodup := h }

abbrev withExternalOutbounds (c : Cluster) (outbounds : List ExternalOutbound)
    (h : (outbounds.map ExternalOutbound.name).Nodup) : Cluster :=
  { c with externalOutbounds := outbounds, externalOutbounds_nodup := h }

abbrev withPolicies (c : Cluster) (policies : List EgressPolicy) (h : (policies.map EgressPolicy.name).Nodup) : Cluster :=
  { c with policies := policies, policies_nodup := h }

abbrev withUsers (c : Cluster) (users : List User) (h : (users.map User.name).Nodup) : Cluster :=
  { c with users := users, users_nodup := h }

/-- Reading the Secret now gives `result`. -/
abbrev withSecret (c : Cluster) (ns secret : String) (result : Except ApiError (GoMap String String)) : Cluster :=
  { c with secret := fun ns' secret' => if ns' = ns ∧ secret' = secret then result else c.secret ns' secret' }

/-- The event leads to a cluster in which nothing else has changed. -/
inductive Step (c : Cluster) : Event → Cluster → Prop
  | singBoxNode {ch : Change SingBoxNode} {generation : Bool} {nodes : List SingBoxNode}
      (hnodup : (nodes.map SingBoxNode.name).Nodup) (h : ch.Applies SingBoxNode.name c.nodes nodes)
      (hspec : KeepsSpec SingBoxNode.spec ch generation) :
      Step c (.singBoxNode ch generation) (c.withNodes nodes hnodup)
  | externalOutbound {ch : Change ExternalOutbound} {generation : Bool} {outbounds : List ExternalOutbound}
      (hnodup : (outbounds.map ExternalOutbound.name).Nodup)
      (h : ch.Applies ExternalOutbound.name c.externalOutbounds outbounds)
      (hspec : KeepsSpec ExternalOutbound.spec ch generation) :
      Step c (.externalOutbound ch generation) (c.withExternalOutbounds outbounds hnodup)
  | egressPolicy {ch : Change EgressPolicy} {generation : Bool} {policies : List EgressPolicy}
      (hnodup : (policies.map EgressPolicy.name).Nodup) (h : ch.Applies EgressPolicy.name c.policies policies)
      (hspec : KeepsSpec EgressPolicy.spec ch generation) :
      Step c (.egressPolicy ch generation) (c.withPolicies policies hnodup)
  | user {ch : Change User} {users : List User} (hnodup : (users.map User.name).Nodup)
      (h : ch.Applies User.name c.users users) : Step c (.user ch) (c.withUsers users hnodup)
  | userGroup {ch : Change UserGroup} {userGroup : String → Except ApiError UserGroup}
      (h : GroupChange ch (c.userGroup ch.object.name) (userGroup ch.object.name))
      (hothers : ∀ name, name ≠ ch.object.name → userGroup name = c.userGroup name) :
      Step c (.userGroup ch) { c with userGroup := userGroup }

/-- Every read is answered, if only by saying that there is no such group. -/
structure Answers (c : Cluster) : Prop where
  list : ∀ kind, c.listError kind = none
  group : ∀ name e, c.userGroup name = .error e → e.notFound = true

namespace Answers
variable {c : Cluster} (h : c.Answers)
include h

theorem readable (N : SingBoxNode) : c.Readable N :=
  ⟨h.list _, h.list _, h.list _, fun _ => ⟨h.list _, fun _ _ _ => h.group _⟩⟩

theorem mem_sameRegionNodeMapper {X : SingBoxNode} {name : String} :
    name ∈ sameRegionNodeMapper c X ↔
      ∃ n ∈ c.nodes, n.name ≠ X.name ∧ n.spec.region = X.spec.region ∧ n.name = name := by
  simp [sameRegionNodeMapper, h.list, and_assoc]

theorem mem_matchingProtocolNodeMapper {u : User} {name : String} :
    name ∈ matchingProtocolNodeMapper c u ↔ ∃ n ∈ c.nodes, n.hasRole .inbound = true ∧ n.name = name := by
  simp [matchingProtocolNodeMapper, h.list, and_assoc]

theorem mem_usersInGroupToNodesMapper {g : UserGroup} {name : String} :
    name ∈ usersInGroupToNodesMapper c g ↔
      (∃ u ∈ c.users, u.spec.userGroupRef = g.name) ∧ ∃ n ∈ c.nodes, n.hasRole .inbound = true ∧ n.name = name := by
  by_cases hu : ∃ u ∈ c.users, u.spec.userGroupRef = g.name
  · have hany : (c.users.any fun u => decide (u.spec.userGroupRef = g.name)) = true := by simpa using hu
    simp [usersInGroupToNodesMapper, h.list, hany, hu, and_assoc]
  · have hany : (c.users.any fun u => decide (u.spec.userGroupRef = g.name)) = false := by simpa using hu
    simp [usersInGroupToNodesMapper, h.list, hany, hu]

theorem mem_policyMapper {α : Type} {x : α} {name : String} :
    name ∈ policyMapper c x ↔ ∃ p ∈ c.policies, p.name = name := by
  simp [policyMapper, h.list]

section
variable [Library]

theorem mem_egressPolicyMapper {p : EgressPolicy} {name : String} :
    name ∈ egressPolicyMapper c p ↔
      ∃ n ∈ c.nodes, n.hasRole .inbound = true ∧ p.spec.ingressSelector.matches n.metadata = true ∧ n.name = name := by
  simp [egressPolicyMapper, h.list, and_assoc]

/-- The inbound nodes of the region are enqueued, whatever the policies are. -/
theorem mem_inboundsAffected {eobName eobRegion : String} {N : SingBoxNode} (hN : N ∈ c.nodes)
    (hi : N.hasRole .inbound = true) (hne : eobRegion ≠ "") (hr : eobRegion = N.spec.region) :
    N.name ∈ inboundsAffectedByExternalOutbound c eobName eobRegion := by
  simp only [inboundsAffectedByExternalOutbound, h.list]
  exact List.mem_map_of_mem (List.mem_filter.2 ⟨hN, by simp [hi, hne, hr.symm]⟩)

/-- For an ExternalOutbound that is there, also the inbound nodes a route policy connects with it. -/
theorem mem_inboundsAffected_iff {e : ExternalOutbound} (he : e ∈ c.externalOutbounds) {N : SingBoxNode}
    (hN : N ∈ c.nodes) :
    N.name ∈ inboundsAffectedByExternalOutbound c e.name e.spec.region ↔
      N.hasRole .inbound = true ∧ (e.spec.region ≠ "" ∧ N.spec.region = e.spec.region ∨
        ∃ p ∈ c.policies, p.spec.action = .route ∧ p.spec.ingressSelector.matches N.metadata = true ∧
          p.spec.egressSelector.matches e.metadata = true) := by
  have hfind : findExternalOutbound c.externalOutbounds e.name = some e :=
    find?_eq_some_of_unique he (by simp) fun e' he' hname => external_unique he' he (by simpa using hname)
  simp only [inboundsAffectedByExternalOutbound, h.list, hfind, List.mem_map, List.mem_filter]
  constructor
  · rintro ⟨n, ⟨hn, hp⟩, hname⟩
    obtain rfl := node_unique hn hN hname
    simpa [and_assoc] using hp
  · intro hp
    exact ⟨N, ⟨hN, by simpa [and_assoc] using hp⟩, rfl⟩

omit [Library] in
theorem mem_externalsOfSecret {ns secret : String} {e : ExternalOutbound} :
    e ∈ externalsOfSecret c ns secret ↔
      ns = c.ns ∧ e ∈ c.externalOutbounds ∧ e.spec.credentialsSecretRef = some secret := by
  by_cases hns : ns = c.ns <;> simp [externalsOfSecret, h.list, hns]

theorem reconcilePolicy_eq {p : EgressPolicy} (hp : p ∈ c.policies) :
    reconcilePolicy c p.name = .ok (some (policyRun p c.nodes c.externalOutbounds)) := by
  have hfind : c.policies.find? (fun q => q.name = p.name) = some p :=
    find?_eq_some_of_unique hp (by simp) fun q hq hname =>
      List.inj_on_of_nodup_map c.policies_nodup hq hp (by simpa using hname)
  simp only [reconcilePolicy, hfind, h.list]

/-- A policy that is enqueued touches the inbound nodes it selects. -/
theorem woken_of_policy {ev : Event} {N : SingBoxNode} (hN : N ∈ c.nodes) (hi : N.hasRole .inbound = true)
    {p : EgressPolicy} (hp : p ∈ c.policies) (hreq : p.name ∈ policyRequests c ev)
    (hm : p.spec.ingressSelector.matches N.metadata = true) : Woken c ev N.name :=
  .policy hreq (h.reconcilePolicy_eq hp) (mem_ingressNames.2 ⟨N, hN, hi, hm, rfl⟩)

end

end Answers

end Cluster

end SingboxOperator
