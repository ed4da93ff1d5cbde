import SingboxOperator.Controller.Access
import SingboxOperator.Controller.UserStatus
/-!
# Whether the status of a user names the nodes that serve it

The reconciler of users filters the inbound nodes by the lists of the user's
group. The config engine filters the targets of each node by the same lists, and
lets the user in wherever one is left, or where nobody has one. The two answers
are about different names.
-/
open SingboxOperator.Lib

namespace SingboxOperator

section
variable [Library] [MapOrder] {flags : Flags} {c : Cluster} {u : User} {w : UserStatus}

/-- The client inbound of the node's config has an entry of the user, plain or for some target. -/
def InjectedInto (flags : Flags) (c : Cluster) (u : User) (N : SingBoxNode) : Prop :=
  ∃ input, collectInput flags c N = .ok input ∧ ∃ s, Serves input (entryName u s)

/-- The active nodes are the inbound nodes with an entry of the user. -/
def TellsTruth (flags : Flags) (c : Cluster) (u : User) (w : UserStatus) : Prop :=
  ∀ name, name ∈ w.activeNodes ↔
    ∃ N ∈ c.nodes, N.name = name ∧ N.hasRole .inbound = true ∧ InjectedInto flags c u N

theorem injectedInto_iff {N : SingBoxNode} (hread : c.Readable N) (hu : u ∈ c.users) :
    InjectedInto flags c u N ↔ c.Served N u := by
  have hinput : InjectedInto flags c u N ↔ ∃ s, Serves (c.view flags N) (entryName u s) := by
    constructor
    · rintro ⟨input, hi, hs⟩
      rwa [collectInput_ok hi] at hs
    · exact fun hs => ⟨_, collectInput_eq_ok flags hread, hs⟩
  rw [hinput]
  constructor
  · rintro ⟨s, hs⟩
    obtain ⟨hi, hport, hentry⟩ := (Cluster.serves_entryName_view hu).1 hs
    refine ⟨hi, hport, hu, ?_⟩
    cases s with
    | none => exact .inr hentry
    | some t => exact .inl ⟨t, hentry⟩
  · rintro ⟨hi, hport, _, ⟨t, ht⟩ | hplain⟩
    · exact ⟨some t, (Cluster.serves_entryName_view hu).2 ⟨hi, hport, ht⟩⟩
    · exact ⟨none, (Cluster.serves_entryName_view hu).2 ⟨hi, hport, hplain⟩⟩

omit [Library] [MapOrder] in
theorem mem_writtenNodes (hu : u ∈ c.users) (hw : statusWritten c u.name = some w) {name : String} :
    name ∈ w.activeNodes ↔
      ∃ N ∈ c.nodes, N.name = name ∧ N.hasRole .inbound = true ∧ c.mayUse u N.name = true := by
  obtain ⟨user, hfind, _, hstatus⟩ := statusWritten_eq_some.1 hw
  obtain rfl : user = u :=
    Cluster.user_unique (List.mem_of_find?_eq_some hfind) hu (by simpa using List.find?_some hfind)
  obtain ⟨group, _, rfl⟩ := userStatus_eq_ok.1 hstatus
  simp only [Cluster.activeNodes, List.mem_map, List.mem_filter, Bool.and_eq_true]
  constructor
  · rintro ⟨N, ⟨hN, hi, hmay⟩, rfl⟩
    exact ⟨N, hN, rfl, hi, hmay⟩
  · rintro ⟨N, hN, rfl, hi, hmay⟩
    exact ⟨N, ⟨hN, hi, hmay⟩, rfl⟩

/-- The status tells the truth exactly when, for every inbound node, the group
lets the user use a node of its name just where the node serves the user. -/
theorem tellsTruth_iff (hu : u ∈ c.users) (hw : statusWritten c u.name = some w)
    (hread : ∀ N ∈ c.nodes, c.Readable N) :
    TellsTruth flags c u w ↔
      ∀ N ∈ c.nodes, N.hasRole .inbound = true → (c.mayUse u N.name = true ↔ c.Served N u) := by
  unfold TellsTruth
  simp only [mem_writtenNodes hu hw]
  constructor
  · intro h N hN hi
    have hname := h N.name
    constructor
    · intro hmay
      obtain ⟨N', hN', heq, _, hinj⟩ := hname.1 ⟨N, hN, rfl, hi, hmay⟩
      obtain rfl := Cluster.node_unique hN' hN heq
      exact (injectedInto_iff (hread N' hN') hu).1 hinj
    · intro hserved
      obtain ⟨N', hN', heq, _, hmay⟩ :=
        hname.2 ⟨N, hN, rfl, hi, (injectedInto_iff (hread N hN) hu).2 hserved⟩
      rwa [heq] at hmay
  · intro h name
    refine exists_congr fun N => and_congr_right fun hN => and_congr_right fun _ => and_congr_right fun hi => ?_
    rw [h N hN hi, injectedInto_iff (hread N hN) hu]

end

/-! ### A group that denies the inbound node -/

def wharfNode : SingBoxNode where
  metadata := .named "wharf"
  spec :=
    { SingBoxNodeSpec.bare with
      address := "203.0.113.60", region := "no", roles := [.inbound],
      supportedProtocols := [Port.https.listener .hysteria2] }

def ivan : User where
  metadata := .named "ivan"
  spec := { authSecret := { name := "ivan-auth" }, userGroupRef := "dockers" }

def dockers : UserGroup := { metadata := .named "dockers", spec := { deniedNodes := ["wharf"] } }

/-- Every Secret exists. -/
def wharfCluster : Cluster where
  ns := "proxy"
  nodes := [wharfNode]
  users := [ivan]
  userGroup name := if name = "dockers" then .ok dockers else .error ⟨true, "not found"⟩
  secret _ _ := .ok ((∅ : GoMap String String).insert "uuid" "8c0f9a34-5ad2-4f0a-9a53-2f1f3a1b7c10")
  nodes_nodup := by decide
  externalOutbounds_nodup := noExternals_nodup
  users_nodup := by decide
  policies_nodup := noPolicies_nodup

section
attribute [local instance] plainLibrary storedOrder

theorem wharfCluster_readable : ∀ N ∈ wharfCluster.nodes, wharfCluster.Readable N := by
  intro N _
  refine ⟨rfl, rfl, rfl, fun _ => ⟨rfl, fun u hu _ e he => ?_⟩⟩
  rw [List.mem_singleton.1 hu] at he
  cases he

/-- The node has nothing to relay to, so it serves everybody. -/
theorem wharfNode_served : wharfCluster.Served wharfNode ivan :=
  ⟨by decide, by decide, List.mem_singleton_self _, .inr (Cluster.servesPlain_of_alone rfl rfl rfl (by decide))⟩

theorem ivan_written : ∃ w, statusWritten wharfCluster ivan.name = some w ∧ w.activeNodes = [] := ⟨_, rfl, rfl⟩

/-- The user has an entry on `wharf`, and an empty list of active nodes. -/
theorem not_forall_tellsTruth :
    ¬ ∀ [Library] [MapOrder] (flags : Flags) (c : Cluster) (u : User) (w : UserStatus),
      (∀ ns name, ∃ data, c.secret ns name = .ok data) → (∀ N ∈ c.nodes, c.Readable N) → u ∈ c.users →
        statusWritten c u.name = some w → TellsTruth flags c u w := by
  intro h
  obtain ⟨w, hw, hnone⟩ := ivan_written
  have hivan : ivan ∈ wharfCluster.users := List.mem_singleton_self _
  have htruth := h {} wharfCluster ivan w (fun _ _ => ⟨_, rfl⟩) wharfCluster_readable hivan hw
  have hinjected : InjectedInto {} wharfCluster ivan wharfNode :=
    (injectedInto_iff (wharfCluster_readable _ (List.mem_singleton_self _)) hivan).2 wharfNode_served
  have hmem := (htruth "wharf").2 ⟨wharfNode, List.mem_singleton_self _, rfl, by decide, hinjected⟩
  rw [hnone] at hmem
  cases hmem

theorem tellsTruth_iff_wharf :
    ivan ∈ wharfCluster.users ∧ (∀ N ∈ wharfCluster.nodes, wharfCluster.Readable N) ∧
      ∃ w, statusWritten wharfCluster ivan.name = some w ∧ ¬ TellsTruth {} wharfCluster ivan w := by
  have hivan : ivan ∈ wharfCluster.users := List.mem_singleton_self _
  obtain ⟨w, hw, _⟩ := ivan_written
  refine ⟨hivan, wharfCluster_readable, w, hw, fun htruth => ?_⟩
  have hmay := ((tellsTruth_iff hivan hw wharfCluster_readable).1 htruth wharfNode (List.mem_singleton_self _)
    (by decide)).2 wharfNode_served
  exact absurd hmay (by decide)

end

end SingboxOperator
