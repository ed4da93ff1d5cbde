import SingboxOperator.Controller.Rollout
/-!
# Pods come to run the config of the cluster

Left to themselves, the passes and the kubelet bring every Pod in line, and then
there is nothing left to do. A Pod with another hash is deleted, is gone, and is
created anew by the next pass; its volume is filled and its container started.
Each of these enqueues the node for two more passes at most.

While a Pod is being deleted a pass that needs another one comes back every few
seconds, and no bound can be given for how often it does before the kubelet is
done. Those passes are not counted.
-/
open SingboxOperator.Lib

namespace SingboxOperator

/-- The node for whose sake the transition is made, unless somebody deletes a Pod, a container
ends by itself or a pass fails. -/
def RolloutTransition.ofNode : RolloutTransition → Option String
  | .controllers a => a.ofNode
  | .reconcilePod node (.ok _) | .mount node | .start node | .removed node => some node
  | _ => none

/-- The node as a pass for its Pod has read it, on some host. -/
def SingBoxNode.hosted (N : SingBoxNode) (nodeRef : String) : HostedNode := { N with nodeRef }

theorem ControllersTransition.pendingAfter_of_ne {a : ControllersTransition} {node name : String}
    (ha : a.ofNode = some node) (hne : name ≠ node) (configMap pending : String → Option Output) :
    a.pendingAfter configMap pending name = pending name := by
  cases a with
  | reconcileConfigMap =>
    cases ha
    exact Function.update_of_ne hne ..
  | fail => cases ha
  | _ => rfl

/-! ## What a Pod means to the passes -/

namespace Controllers

/-- The node may be enqueued, and its pass broken off. -/
structure Told (s s' : Controllers) (node : String) : Prop where
  policies : s'.policies = s.policies
  configMap : s'.configMap = s.configMap
  deleting : s'.deleting = s.deleting
  record : s'.record = s.record
  host : s'.host = s.host
  tlsServerName : s'.tlsServerName = s.tlsServerName
  nodeQueue : ∀ name ≠ node, (name ∈ s'.nodeQueue ↔ name ∈ s.nodeQueue)
  nodeWork : s'.nodeWork node = s.nodeWork node ∨ s'.nodeWork node = none
  others : ∀ name ≠ node, s'.nodeWork name = s.nodeWork name

namespace Told
variable {s s' : Controllers} {node : String}

theorem refl : s.Told s node := ⟨rfl, rfl, rfl, rfl, rfl, rfl, fun _ _ => Iff.rfl, .inl rfl, fun _ _ => rfl⟩

theorem enqueue (s : Controllers) (node : String) : s.Told { s with nodeQueue := s.nodeQueue ∪ [node] } node := by
  refine ⟨rfl, rfl, rfl, rfl, rfl, rfl, fun name hne => ?_, .inl rfl, fun _ _ => rfl⟩
  rw [List.mem_union_iff, List.mem_singleton, or_iff_left hne]

theorem done (s : Controllers) (node : String) :
    s.Told ({ s with nodeQueue := s.nodeQueue ∪ [node] }.done node) node :=
  ⟨rfl, rfl, rfl, rfl, rfl, rfl, (enqueue s node).nodeQueue, .inr (Function.update_self ..),
    fun _ hne => Function.update_of_ne hne ..⟩

theorem trans {s'' : Controllers} (h : s.Told s' node) (h' : s'.Told s'' node) : s.Told s'' node where
  policies := h'.policies.trans h.policies
  configMap := h'.configMap.trans h.configMap
  deleting := h'.deleting.trans h.deleting
  record := h'.record.trans h.record
  host := h'.host.trans h.host
  tlsServerName := h'.tlsServerName.trans h.tlsServerName
  nodeQueue name hne := (h'.nodeQueue name hne).trans (h.nodeQueue name hne)
  nodeWork := by
    rcases h'.nodeWork with hwork | hwork
    · rw [hwork]
      exact h.nodeWork
    · exact .inr hwork
  others name hne := (h'.others name hne).trans (h.others name hne)

theorem cluster (h : s.Told s' node) : s'.cluster = s.cluster := congrArg (fun p => p.world.cluster) h.policies

theorem frame (h : s.Told s' node) : s.Frame s' node :=
  .of_policies_eq h.policies h.others h.nodeQueue (fun _ _ => congrFun h.configMap _) (fun _ _ => congrFun h.record _)
    h.deleting h.host h.tlsServerName

section
variable [Library] [MapOrder] {flags : Flags}

theorem alone (h : s.Told s' node) (ha : s.Alone flags node) : s'.Alone flags node where
  answers := h.cluster ▸ ha.answers
  pass point hw := by
    rcases h.nodeWork with hwork | hwork
    · obtain ⟨N, hN, hname, hlive, hagrees, hhost, hinbound⟩ := ha.pass point (hwork.symm.trans hw)
      refine ⟨N, by rw [h.cluster]; exact hN, hname, by rw [h.deleting]; exact hlive, ?_, fun hp => ?_, hinbound⟩
      · exact hagrees.of_sameFaces h.frame.sameFaces ha.answers rfl (congrFun h.configMap _)
      · exact (hhost hp).of_eq (congrFun h.record _) h.host
    · cases hwork.symm.trans hw
  credential := by
    rw [h.cluster, h.deleting]
    exact ha.credential

theorem quiet {name : String} (h : s.Told s' node) (hq : s.Quiet flags name) : s'.Quiet flags name :=
  hq.of_eq h.cluster (congrFun h.configMap _) (congrFun h.record _) h.host h.tlsServerName

/-- At most two passes more. -/
theorem rank_le (h : s.Told s' node) :
    s'.rank flags node ≤ s.rank flags node + 2 * s.cluster.passLength node := by
  have hidle : s'.nodeWork node = none → s'.rank flags node ≤ s.rank flags node + 2 * s.cluster.passLength node := by
    intro hidle
    have hle : s'.rank flags node ≤ _ := s'.rank_le_of_none hidle
    have hfinalizer : _ ≤ s.rank flags node := s.weight_le_rank node
    rw [h.cluster, h.record] at hle
    omega
  rcases h.nodeWork with hwork | hwork
  · cases hw : s.nodeWork node with
    | none => exact hidle (hwork.trans hw)
    | some point =>
      have hmore := weight_le (node ∈ s'.nodeQueue ∨ ¬ s'.Quiet flags node)
      have hpass := Nat.mul_le_mul_right (s.cluster.passLength node) hmore
      rw [rank_of_some hw, rank_of_some (hwork.trans hw), h.cluster, h.record]
      omega
  · exact hidle hwork

end

end Told

/-- Only a pass that is started is under way. -/
theorem Step.idle [Library] [MapOrder] {flags : Flags} {s s' : Controllers} {a : ControllersTransition}
    {node : String} (hstep : s.Step flags a s') (hidle : s.nodeWork node = none) (hget : a ≠ .get node) :
    s'.nodeWork node = none := by
  -- a transition of a pass under way is one for another node
  have hother : ∀ {name point} (x : Option NodePoint), s.nodeWork name = some point →
      Function.update s.nodeWork name x node = none := by
    intro name point x hw
    rw [Function.update_of_ne]
    · exact hidle
    · rintro rfl
      cases hidle.symm.trans hw
  cases hstep with
  | change | changeHost | changeSecret | policy | triggerNodeReconcile | enqueue | ignore | addFinalizer => exact hidle
  | get => exact (Function.update_of_ne (fun heq => hget (by rw [heq])) ..).trans hidle
  | updateNodeReadyStatus hw | statusNotUpdated hw | ensureCredential hw | createCredential hw | getSecret hw
  | tearSecret hw | listNodes hw | listExternalOutbounds hw | listUsers hw | getUserGroup hw | tearUserGroup hw
  | listPolicies hw | compute hw | computeTorn hw | reconcileConfigMap hw | updateStatus hw | fail hw =>
    exact hother _ hw

end Controllers

namespace Rollout
variable {s s' : Rollout} {node name : String}

theorem told_store (s : Rollout) (node : String) (p : Option PlacedPod) :
    s.controllers.Told (s.store node p).controllers node := .enqueue ..

theorem told_reconciled (s : Rollout) (node : String) (pod : Option Pod) :
    s.controllers.Told (s.reconciled node pod).controllers node := by
  unfold reconciled
  dsimp only
  split
  · exact .refl
  · exact .enqueue ..

theorem told_resume (h : s.controllers.Told s'.controllers node) (result : Except String Bool) :
    s.controllers.Told (s'.resume node result).controllers node := by
  unfold resume
  split
  · exact h
  · exact h.trans (.done ..)

theorem pods_resume (result : Except String Bool) : (s.resume node result).pods = s.pods := by
  unfold resume
  split <;> rfl

theorem pending_resume (result : Except String Bool) : (s.resume node result).pending = s.pending := by
  unfold resume
  split <;> rfl

/-- What a transition made for one node leaves as it is. -/
structure Frame (s s' : Rollout) (node : String) : Prop where
  controllers : s.controllers.Frame s'.controllers node
  pods : ∀ name ≠ node, s'.pods name = s.pods name
  pending : ∀ name ≠ node, s'.pending name = s.pending name

theorem Frame.store (s : Rollout) (node : String) (p : Option PlacedPod) : s.Frame (s.store node p) node :=
  ⟨(told_store s node p).frame, fun _ hne => Function.update_of_ne hne .., fun _ _ => rfl⟩

/-! ## How far a node is from rest -/

section
variable [Library] [MapOrder] (flags : OperatorFlags)

/-- The Pod has the hash of the config of the cluster as it is. -/
def UpToDate (s : Rollout) (node : String) (pod : Pod) : Prop :=
  ∀ N ∈ s.controllers.cluster.nodes, N.name = node →
    pod.configHash = desiredHash (compute (s.controllers.cluster.view flags.toFlags N)).hash

/-- The output is the one computed from the cluster as it is. -/
def Computed (s : Rollout) (node : String) (output : Output) : Prop :=
  ∀ N ∈ s.controllers.cluster.nodes, N.name = node →
    output = compute (s.controllers.cluster.view flags.toFlags N)

/-- The events of the Pod that are left: a Pod with another hash is deleted, then gone,
and the new one is created and started. -/
noncomputable def podEvents (s : Rollout) (node : String) : ℕ :=
  match s.pods node with
  | none => 2
  | some p =>
    (if p.pod.deleting then 3 else 4 * weight (¬ s.UpToDate flags node p.pod)) + weight (p.running = none)

/-- The ConfigMap has yet to get into the volume. -/
def Unmounted (s : Rollout) (node : String) : Prop :=
  ∃ p, s.pods node = some p ∧ p.volume ≠ s.controllers.configMap node

/-- Every event of the Pod may lead to two more passes. A transition of a pass may leave the
Pod to be looked at and the volume to be filled. -/
noncomputable def rank (s : Rollout) (node : String) : ℕ :=
  (6 * s.controllers.cluster.passLength node + 3) * s.podEvents flags node +
    (3 * s.controllers.rank flags.toFlags node + weight (s.pending node ≠ none) + weight (s.Unmounted node))

variable {flags}

theorem UpToDate.of_sameFaces {pod : Pod} (h : s.UpToDate flags node pod)
    (hfaces : s.controllers.cluster.SameFaces s'.controllers.cluster) : s'.UpToDate flags node pod := by
  intro N' hN' hname
  obtain ⟨N, hN, hface⟩ := hfaces.symm.mem_nodes hN'
  rw [hfaces.compute_eq hface.symm]
  exact h N hN ((Cluster.name_of_face hface).trans hname)

theorem podEvents_eq (hfaces : s.controllers.cluster.SameFaces s'.controllers.cluster)
    (hpods : s'.pods node = s.pods node) : s'.podEvents flags node = s.podEvents flags node := by
  have hdate : ∀ pod, s'.UpToDate flags node pod ↔ s.UpToDate flags node pod := fun pod =>
    ⟨fun h => h.of_sameFaces hfaces.symm, fun h => h.of_sameFaces hfaces⟩
  simp only [podEvents, hpods, hdate]

theorem Frame.rank_eq (h : s.Frame s' node) (hne : name ≠ node) : s'.rank flags name = s.rank flags name := by
  have hunmounted : s'.Unmounted name ↔ s.Unmounted name := by
    rw [Unmounted, Unmounted, h.pods name hne, h.controllers.configMap name hne]
  rw [rank, rank, podEvents_eq h.controllers.sameFaces (h.pods name hne), h.controllers.sameFaces.passLength,
    h.controllers.rank_eq hne, h.pending name hne]
  simp only [hunmounted]

/-- A transition of a pass. -/
theorem rank_lt_of_controllers (hfaces : s.controllers.cluster.SameFaces s'.controllers.cluster)
    (hpods : s'.pods node = s.pods node)
    (hrank : s'.controllers.rank flags.toFlags node < s.controllers.rank flags.toFlags node) :
    s'.rank flags node < s.rank flags node := by
  rw [rank, rank, podEvents_eq hfaces hpods, hfaces.passLength]
  have hpending := weight_le (s'.pending node ≠ none)
  have hunmounted := weight_le (s'.Unmounted node)
  omega

/-- An event of the Pod. -/
theorem rank_lt_of_podEvents (htold : s.controllers.Told s'.controllers node)
    (hevents : s'.podEvents flags node < s.podEvents flags node) : s'.rank flags node < s.rank flags node := by
  have hrank : s'.controllers.rank flags.toFlags node ≤ _ := htold.rank_le
  have hpending := weight_le (s'.pending node ≠ none)
  have hunmounted := weight_le (s'.Unmounted node)
  have hmul := Nat.mul_le_mul_left (6 * s.controllers.cluster.passLength node + 3) (Nat.succ_le_of_lt hevents)
  rw [Nat.mul_succ] at hmul
  rw [rank, rank, htold.cluster]
  omega

/-- No pass for the node is under way while its Pod is being deleted. -/
def Waits (s : Rollout) (node : String) : Prop :=
  ∀ p, s.pods node = some p → p.pod.deleting = true → s.controllers.nodeWork node = none

omit [Library] [MapOrder] in
/-- No pass for a node is started while its Pod is being deleted. -/
def Patient (s : Rollout) (a : RolloutTransition) : Prop :=
  ∀ node p, a = .controllers (.get node) → s.pods node = some p → p.pod.deleting = false

/-! ### One transition after the other -/

/-- The config a pass has written is that of the cluster as it is. -/
theorem upToDate_of_written {output : Output} {pod : Pod} (h : s.controllers.Alone flags.toFlags node)
    (hw : s.controllers.nodeWork node = some (.written output)) :
    s.UpToDate flags node pod ↔ pod.configHash = desiredHash output.hash := by
  obtain ⟨N, hN, rfl, _, _⟩ := h.pass _ hw
  obtain rfl := h.written_eq hw hN
  refine ⟨fun hdate => hdate N hN rfl, fun hhash N' hN' hname => ?_⟩
  obtain rfl := Cluster.node_unique hN' hN hname
  exact hhash

theorem Step.frame {a : RolloutTransition} (hstep : s.Step flags a s') (ha : a.ofNode = some node)
    (h : s.controllers.Alone flags.toFlags node) : s.Frame s' node ∧ s'.controllers.Alone flags.toFlags node := by
  cases hstep with
  | controllers hstep _ =>
    have hadvances := hstep.advances ha h
    refine ⟨⟨hadvances.frame, fun _ _ => rfl, fun name hne => ?_⟩, hadvances.alone⟩
    exact ControllersTransition.pendingAfter_of_ne ha hne ..
  | @reconcilePod N output calls site result hw hp hpod =>
    have htold := told_resume (s.told_reconciled N.name site.pod) result
    cases result with
    | error => cases ha
    | ok =>
      cases ha
      refine ⟨⟨htold.frame, fun name hne => ?_, fun name hne => ?_⟩, htold.alone h⟩
      · rw [pods_resume, pods_reconciled_of_ne hne]
      · rw [pending_resume, pending_reconciled, Function.update_of_ne hne]
  | mount =>
    cases ha
    exact ⟨⟨Controllers.Told.refl.frame, fun _ hne => Function.update_of_ne hne .., fun _ _ => rfl⟩, h⟩
  | start | removed =>
    cases ha
    exact ⟨.store .., (told_store s node _).alone h⟩
  | restart | terminate => cases ha

/-- What `reconcilePod` does about the Pod, unless it fails. -/
inductive Deals (s s' : Rollout) (node : String) (output : Output) : Prop
  | keeps {p : PlacedPod} (hp : s.pods node = some p) (hhash : p.pod.configHash = desiredHash output.hash)
      (hsame : s' = { s with pending := Function.update s.pending node none })
  | deletes {p : PlacedPod} (hp : s.pods node = some p) (hhash : p.pod.configHash ≠ desiredHash output.hash)
      (hgone : ∀ p', s'.pods node = some p' → p'.pod.deleting = true ∧ p'.running = p.running)
      (hwork : s'.controllers.nodeWork node = none)
  | creates {p' : PlacedPod} (hp : s.pods node = none) (hp' : s'.pods node = some p')
      (hhash : p'.pod.configHash = desiredHash output.hash) (hdel : p'.pod.deleting = false)

omit [Library] [MapOrder] in
theorem deals_of_reconcilePod {N : HostedNode} {output : Output} {calls : Calls} {site : Site} {requeue : Bool}
    (h : (s.site flags N).reconcilePod output.hash calls = (site, .ok requeue)) :
    s.Deals ((s.reconciled N.name site.pod).resume N.name (.ok requeue)) N.name output := by
  have hpods : ((s.reconciled N.name site.pod).resume N.name (.ok requeue)).pods N.name = _ :=
    (congrFun (pods_resume _) _).trans (s.pods_reconciled N.name site.pod)
  rcases Site.reconcilePod_cases h with ⟨err, ⟨⟩, _⟩ | ⟨pod, hfound, hhash, hresult, hkept⟩ |
    ⟨pod, hfound, hhash, hresult, hgone⟩ | ⟨hfound, hresult, hnew⟩
  · obtain ⟨p, hp, rfl⟩ := Option.map_eq_some_iff.1 hfound
    cases hresult
    exact .keeps hp hhash (if_pos hkept)
  · obtain ⟨p, hp, rfl⟩ := Option.map_eq_some_iff.1 hfound
    cases hresult
    refine .deletes hp hhash (fun p' hp' => ?_) (Function.update_self ..)
    rw [hp', hp] at hpods
    rcases hgone with hgone | hgone
    · rw [hgone] at hpods
      cases hpods
    · rw [hgone] at hpods
      obtain rfl := Option.some.inj hpods
      exact ⟨rfl, rfl⟩
  · have hp : s.pods N.name = none := Option.map_eq_none_iff.1 hfound
    rw [hp] at hpods
    exact .creates hp (hpods.trans (congrArg _ hnew)) (configHash_newPod ..) rfl

section
variable {p : PlacedPod}

theorem podEvents_of_none (hp : s.pods node = none) : s.podEvents flags node = 2 := by rw [podEvents, hp]

theorem podEvents_le (s : Rollout) (node : String) : s.podEvents flags node ≤ 5 := by
  unfold podEvents
  cases s.pods node with
  | none => exact Nat.le_of_ble_eq_true rfl
  | some p =>
    have hdate := weight_le (¬ s.UpToDate flags node p.pod)
    have hrunning := weight_le (p.running = none)
    dsimp only
    split <;> omega

theorem podEvents_of_deleting (hp : s.pods node = some p) (hdel : p.pod.deleting = true) :
    s.podEvents flags node = 3 + weight (p.running = none) := by
  rw [podEvents, hp]
  simp only [if_pos hdel]

theorem podEvents_of_live (hp : s.pods node = some p) (hdel : p.pod.deleting = false) :
    s.podEvents flags node = 4 * weight (¬ s.UpToDate flags node p.pod) + weight (p.running = none) := by
  rw [podEvents, hp]
  simp only [hdel, Bool.false_eq_true, if_false]

variable (flags) in
/-- What the volume holds and the container runs does not matter otherwise. -/
theorem podEvents_of_pod {p' : PlacedPod} (hp : s.pods node = some p) (hp' : s'.pods node = some p')
    (hfaces : s.controllers.cluster.SameFaces s'.controllers.cluster) (hpod : p'.pod = p.pod) :
    s'.podEvents flags node + weight (p.running = none) = s.podEvents flags node + weight (p'.running = none) := by
  have hdate : s'.UpToDate flags node p.pod ↔ s.UpToDate flags node p.pod :=
    ⟨fun h => h.of_sameFaces hfaces.symm, fun h => h.of_sameFaces hfaces⟩
  simp only [podEvents, hp, hp', hpod, hdate]
  omega

end

/-- What a pass does about the Pod brings the node nearer to rest. -/
theorem Deals.rank_lt {node : String} {output : Output} (hdeals : s.Deals s' node output)
    (h : s.controllers.Alone flags.toFlags node) (hw : s.controllers.nodeWork node = some (.written output))
    (hpending : s.pending node = some output) (hwaits : s.Waits node)
    (htold : s.controllers.Told s'.controllers node) : s'.rank flags node < s.rank flags node := by
  cases hdeals with
  | keeps hp hhash hsame =>
    -- all that has changed is that the Pod has been looked at
    have hdealt : weight (Function.update s.pending node none node ≠ none) = 0 :=
      weight_neg (not_not.2 (Function.update_self ..))
    have hsome : weight (s.pending node ≠ none) = 1 := weight_pos (by rw [hpending]; rintro ⟨⟩)
    rw [hsame, rank, rank, hdealt, hsome]
    exact Nat.add_lt_add_left (Nat.add_lt_add_right (Nat.lt_succ_self _) _) _
  | @deletes p hp hhash hgone _ =>
    have hlive : p.pod.deleting = false := by
      by_contra hdel
      cases (hwaits p hp (Bool.not_eq_false _ ▸ hdel)).symm.trans hw
    have hold : ¬ s.UpToDate flags node p.pod := fun hdate => hhash ((upToDate_of_written h hw).1 hdate)
    refine rank_lt_of_podEvents htold ?_
    rw [podEvents_of_live hp hlive, weight_pos hold]
    cases hp' : s'.pods node with
    | none =>
      rw [podEvents_of_none hp']
      omega
    | some p' =>
      obtain ⟨hdel, hrunning⟩ := hgone p' hp'
      rw [podEvents_of_deleting hp' hdel, hrunning]
      omega
  | creates hp hp' hhash hdel =>
    refine rank_lt_of_podEvents htold ?_
    have hdate := UpToDate.of_sameFaces ((upToDate_of_written h hw).2 hhash) htold.frame.sameFaces
    rw [podEvents_of_none hp, podEvents_of_live hp' hdel, weight_neg (not_not.2 hdate)]
    exact Nat.lt_succ_of_le ((Nat.zero_add _).trans_le (weight_le _))

/-- Every transition brings its node nearer to rest. -/
theorem Step.rank_lt {a : RolloutTransition} (hstep : s.Step flags a s') (ha : a.ofNode = some node)
    (h : s.controllers.Alone flags.toFlags node) (hwaits : s.Waits node) :
    s'.rank flags node < s.rank flags node := by
  cases hstep with
  | controllers hstep _ =>
    have hadvances := hstep.advances ha h
    exact rank_lt_of_controllers hadvances.frame.sameFaces rfl hadvances.rank
  | @reconcilePod N output calls site result hw hpending hpod =>
    have htold := told_resume (s.told_reconciled N.name site.pod) result
    cases result with
    | error => cases ha
    | ok requeue =>
      cases ha
      exact (deals_of_reconcilePod hpod).rank_lt h hw hpending hwaits htold
  | @mount node' p output hp hmap hnew =>
    cases ha
    set s' : Rollout := { s with pods := Function.update s.pods node (some { p with volume := some output }) }
    have hp' : s'.pods node = some { p with volume := some output } := Function.update_self ..
    have hevents := podEvents_of_pod flags hp hp' .refl rfl
    have hmounted : ¬ s'.Unmounted node := by
      rintro ⟨q, hq, hne⟩
      obtain rfl := Option.some.inj (hp'.symm.trans hq)
      exact hne hmap.symm
    have hunmounted : s.Unmounted node := ⟨p, hp, fun heq => hnew (heq.trans hmap)⟩
    rw [rank, rank, Nat.add_right_cancel hevents, weight_pos hunmounted, weight_neg hmounted]
    exact Nat.lt_succ_self _
  | @start node' p output hp hvolume hrunning =>
    cases ha
    have hp' : (s.store node (some { p with running := some output })).pods node = _ := Function.update_self ..
    refine rank_lt_of_podEvents (told_store ..) ?_
    have hevents := podEvents_of_pod flags hp hp' (told_store s node _).frame.sameFaces rfl
    rw [weight_pos hrunning, weight_neg (by rintro ⟨⟩)] at hevents
    omega
  | @removed node' p hp hdel =>
    cases ha
    refine rank_lt_of_podEvents (told_store ..) ?_
    rw [podEvents_of_none (Function.update_self ..), podEvents_of_deleting hp hdel]
    omega
  | restart | terminate => cases ha

omit [Library] [MapOrder] in
/-- What happens to a Pod that keeps its mark of deletion. -/
theorem Waits.of_update {p : PlacedPod} (h : s.Waits name) (hp : s.pods node = some p) {p' : Option PlacedPod}
    (hpods : s'.pods = Function.update s.pods node p') (hwork : s'.controllers.nodeWork = s.controllers.nodeWork)
    (hdel : ∀ q, p' = some q → q.pod.deleting = p.pod.deleting) : s'.Waits name := by
  intro q hq hq'
  rw [hwork]
  by_cases hne : name = node
  · subst hne
    rw [hpods, Function.update_self] at hq
    exact h p hp ((hdel q hq).symm.trans hq')
  · rw [hpods, Function.update_of_ne hne] at hq
    exact h q hq hq'

/-- Patience lasts. -/
theorem Step.waits {a : RolloutTransition} (hstep : s.Step flags a s') (ha : a.ofNode ≠ none) (hpatient : s.Patient a)
    (h : s.Waits node) : s'.Waits node := by
  cases hstep with
  | controllers hstep _ =>
    intro p hp hdel
    refine hstep.idle (h p hp hdel) ?_
    rintro rfl
    cases (hpatient node p rfl hp).symm.trans hdel
  | @reconcilePod N output calls site result hw hpending hpod =>
    cases result with
    | error => exact absurd rfl ha
    | ok requeue =>
      intro p hp hdel
      by_cases hne : node = N.name
      · subst hne
        cases deals_of_reconcilePod hpod with
        | keeps hp' _ hsame =>
          rw [hsame] at hp ⊢
          exact h p hp hdel
        | deletes _ _ _ hwork => exact hwork
        | creates _ hp' _ hlive =>
          obtain rfl := Option.some.inj (hp'.symm.trans hp)
          cases hlive.symm.trans hdel
      · rw [pods_resume, pods_reconciled_of_ne hne] at hp
        rw [(told_resume (s.told_reconciled N.name site.pod) _).others node hne]
        exact h p hp hdel
  | mount hp | start hp => exact h.of_update hp rfl rfl (by rintro q ⟨⟩; rfl)
  | removed hp => exact h.of_update hp rfl rfl (by rintro q ⟨⟩)
  | restart | terminate => exact absurd rfl ha

/-- A pass that finds nothing to write leaves the cluster as it is. -/
theorem Step.quiet {a : RolloutTransition} (hstep : s.Step flags a s') (ha : a.ofNode = some node)
    (h : s.controllers.Alone flags.toFlags node) (hquiet : s.controllers.Quiet flags.toFlags node) :
    s'.controllers.cluster = s.controllers.cluster ∧ s'.controllers.Quiet flags.toFlags node := by
  cases hstep with
  | controllers hstep _ => exact hstep.quiet ha h hquiet
  | @reconcilePod N output calls site result hw hp hpod =>
    have htold := told_resume (s.told_reconciled N.name site.pod) result
    exact ⟨htold.cluster, htold.quiet hquiet⟩
  | mount => exact ⟨rfl, hquiet⟩
  | start | restart | terminate | removed => exact ⟨rfl, (told_store s _ _).quiet hquiet⟩

omit [Library] [MapOrder] in
/-- Only such configs have got into the Pods. -/
def OnlyHolds (s : Rollout) (Q : String → Output → Prop) : Prop :=
  ∀ node p output, s.pods node = some p → p.volume = some output ∨ p.running = some output → Q node output

/-- What gets into a Pod has been in the ConfigMap. -/
theorem Step.onlyHolds {a : RolloutTransition} {Q : String → Output → Prop} (hstep : s.Step flags a s')
    (hmap : ∀ node output, s.controllers.configMap node = some output → Q node output) (h : s.OnlyHolds Q) :
    s'.OnlyHolds Q := by
  -- a Pod changes at one node at a time
  have hupdate : ∀ {node' : String} {p' : Option PlacedPod},
      (∀ q output, p' = some q → q.volume = some output ∨ q.running = some output → Q node' output) →
      ∀ node p output, Function.update s.pods node' p' node = some p →
        p.volume = some output ∨ p.running = some output → Q node output := by
    intro node' p' hp' node p output hp ho
    by_cases hne : node = node'
    · subst hne
      rw [Function.update_self] at hp
      exact hp' p output hp ho
    · rw [Function.update_of_ne hne] at hp
      exact h node p output hp ho
  cases hstep with
  | controllers => exact h
  | @reconcilePod N output' calls site result hw hpending hpod =>
    intro node p output hp ho
    rw [pods_resume] at hp
    by_cases hne : node = N.name
    · subst hne
      rw [pods_reconciled, Option.map_eq_some_iff] at hp
      obtain ⟨pod, _, rfl⟩ := hp
      cases hp : s.pods N.name with
      | none =>
        rw [hp] at ho
        rcases ho with ho | ho <;> cases ho
      | some q =>
        rw [hp] at ho
        exact h N.name q output hp ho
    · exact h node p output ((pods_reconciled_of_ne hne _).symm.trans hp) ho
  | @mount node' p output' hp hmap' _ =>
    refine hupdate fun q output hq ho => ?_
    obtain rfl := Option.some.inj hq
    rcases ho with ho | ho
    · exact hmap node' output (hmap'.trans ho)
    · exact h node' p output hp (.inr ho)
  | @start node' p output' hp hvolume _ | @restart node' p output' hp hvolume _ =>
    refine hupdate fun q output hq ho => ?_
    obtain rfl := Option.some.inj hq
    exact h node' p output hp (.inl (ho.elim id fun ho => hvolume.trans ho))
  | @terminate node' p hp =>
    refine hupdate fun q output hq ho => ?_
    obtain rfl := Option.some.inj hq
    exact h node' p output hp ho
  | removed => exact hupdate (by rintro q _ ⟨⟩)

/-! ## Whole runs -/

/-- Nothing is lost, and no pass fails. -/
theorem Step.noticed {a : RolloutTransition} (hstep : s.Step flags a s') (ha : a.ofNode = some node)
    (h : s.controllers.Alone flags.toFlags node) : s.Noticed flags a ∧ s.Uninterrupted a := by
  refine ⟨?_, ?_, ?_⟩
  · rintro b rfl
    cases hstep with
    | controllers hstep _ => exact hstep.noticed ha h
  · rintro name rfl
    cases ha
  · rintro name err rfl
    cases ha

/-- As long as a live node waits or is being reconciled, its pass can go on. -/
theorem exists_step {N : SingBoxNode} (h : s.controllers.Alone flags.toFlags N.name) (hinv : s.Inv N.name)
    (hN : N ∈ s.controllers.cluster.nodes) (hlive : s.controllers.deleting N.name = false)
    (hactive : s.controllers.Active N.name) : ∃ a s', s.Step flags a s' ∧ a.ofNode = some N.name := by
  cases hp : s.pending N.name with
  | none =>
    obtain ⟨a, c, hstep, ha, _⟩ := h.exists_step hN hlive hactive
    refine ⟨.controllers a, _, .controllers hstep ?_, ha⟩
    rintro node rfl
    obtain rfl := Option.some.inj ha
    exact hp
  | some output =>
    -- whatever there is of a Pod, the pass knows what to do
    obtain ⟨hw, _⟩ := hinv.pending output hp
    cases hpod : (s.site flags (N.hosted "")).reconcilePod output.hash {} with
    | mk site result =>
      have hstep : s.Step flags (.reconcilePod N.name result) _ := .reconcilePod (N := N.hosted "") hw hp hpod
      cases result with
      | ok => exact ⟨_, _, hstep, rfl⟩
      | error err =>
        exfalso
        unfold Site.reconcilePod at hpod
        cases hfound : (s.site flags (N.hosted "")).pod with
        | none => simp [hfound] at hpod
        | some pod =>
          by_cases hhash : pod.configHash = desiredHash output.hash <;> simp [hfound, hhash] at hpod

/-- What holds while the passes and the kubelet are left to themselves, from `s₀` on. -/
structure LeftAlone (flags : OperatorFlags) (s₀ s : Rollout) : Prop where
  alone : ∀ node, s.controllers.Alone flags.toFlags node
  inv : ∀ node, s.Inv node
  policies : s.controllers.PoliciesRest
  sameFaces : s₀.controllers.cluster.SameFaces s.controllers.cluster
  deleting : s.controllers.deleting = s₀.controllers.deleting

section
variable {s₀ : Rollout}

theorem LeftAlone.refl (h : s.Reached flags) (hidle : ∀ node, s.controllers.nodeWork node = none)
    (hpolicies : s.controllers.PoliciesRest)
    (hcred : ∀ N ∈ s.controllers.cluster.nodes, s.controllers.deleting N.name = false →
      s.controllers.cluster.HasCredential N) : s.LeftAlone flags s where
  alone := (Controllers.LeftAlone.refl h.controllers hidle hpolicies hcred).alone
  inv := h.inv
  policies := hpolicies
  sameFaces := .refl
  deleting := rfl

theorem LeftAlone.step {a : RolloutTransition} (h : s₀.LeftAlone flags s) (hstep : s.Step flags a s')
    (ha : a.ofNode ≠ none) : s₀.LeftAlone flags s' := by
  obtain ⟨node, ha⟩ := Option.ne_none_iff_exists'.1 ha
  obtain ⟨hframe, halone⟩ := hstep.frame ha (h.alone node)
  refine ⟨fun name => ?_, fun name => (hstep.meets name).inv (h.inv name), hframe.controllers.policiesRest h.policies,
    h.sameFaces.trans hframe.controllers.sameFaces, hframe.controllers.deleting.trans h.deleting⟩
  by_cases hne : name = node
  · rw [hne]
    exact halone
  · exact hframe.controllers.alone hne (h.alone name)

/-- A live node for which nothing is left to do is at rest, and its Pod runs. -/
theorem LeftAlone.settled (h : s₀.LeftAlone flags s) (hend : ∀ a s', s.Step flags a s' → a.ofNode = none)
    {N : SingBoxNode} (hN : N ∈ s.controllers.cluster.nodes) (hlive : s.controllers.deleting N.name = false) :
    s.controllers.AtRest N ∧
      ∃ p output, s.pods N.name = some p ∧ p.pod.deleting = false ∧ p.running = some output := by
  have hactive : ¬ s.controllers.Active N.name := by
    intro hactive
    obtain ⟨a, s', hstep, ha⟩ := exists_step (h.alone N.name) (h.inv N.name) hN hlive hactive
    cases (hend a s' hstep).symm.trans ha
  rw [Controllers.Active, not_or, not_not] at hactive
  have hrest : s.controllers.AtRest N := ⟨hN, hlive, hactive.1, hactive.2, fun p hp _ => h.policies p hp⟩
  obtain ⟨_, p, current, hp, hmap, _⟩ := (h.inv N.name).annotated_of_atRest hrest
  have hdel : p.pod.deleting = false := by
    by_contra hdel
    cases hend _ _ (.removed hp (Bool.not_eq_false _ ▸ hdel))
  have hvolume : p.volume = some current := by
    by_contra hnew
    cases hend _ _ (.mount hp hmap hnew)
  cases hrunning : p.running with
  | none => cases hend _ _ (.start hp hvolume hrunning)
  | some output => exact ⟨hrest, p, output, hp, hdel, hrunning⟩

/-- Nothing is left to do once nothing is left that needs no patience. -/
theorem end_of_patient (hend : ∀ a s', s.Step flags a s' → ¬ (a.ofNode ≠ none ∧ s.Patient a)) :
    ∀ a s', s.Step flags a s' → a.ofNode = none := by
  intro a s' hstep
  by_contra ha
  refine hend a s' hstep ⟨ha, fun node p _ hp => ?_⟩
  by_contra hdel
  -- the kubelet has not finished with the Pod
  refine hend _ _ (.removed hp (Bool.not_eq_false _ ▸ hdel)) ⟨by rintro ⟨⟩, by rintro _ _ ⟨⟩⟩

/-- No pass is too early, and only the nodes of the list are active or have a Pod. -/
structure Patiently (flags : OperatorFlags) (names : List String) (s₀ s : Rollout) : Prop
    extends s₀.LeftAlone flags s where
  waits : ∀ node, s.Waits node
  names : ∀ node, s.controllers.Active node ∨ s.pods node ≠ none → node ∈ names

/-- Only what waits, is being reconciled or has a Pod makes a transition. -/
theorem Step.active {a : RolloutTransition} (hstep : s.Step flags a s') (ha : a.ofNode = some node) :
    s.controllers.Active node ∨ s.pods node ≠ none := by
  cases hstep with
  | controllers hstep _ => exact .inl (hstep.active ha)
  | @reconcilePod N output calls site result hw _ _ =>
    cases result with
    | error => cases ha
    | ok =>
      cases ha
      exact .inl (.inr (by rw [hw]; rintro ⟨⟩))
  | mount hp | start hp | removed hp =>
    cases ha
    exact .inr (by rw [hp]; rintro ⟨⟩)
  | restart | terminate => cases ha

/-- What is left to do for the nodes of the list. -/
noncomputable def total (flags : OperatorFlags) (names : List String) (s : Rollout) : ℕ :=
  (names.map (s.rank flags)).sum

theorem Patiently.step {names : List String} {a : RolloutTransition} (h : s₀.Patiently flags names s)
    (hstep : s.Step flags a s') (ha : a.ofNode ≠ none ∧ s.Patient a) :
    s₀.Patiently flags names s' ∧ s'.total flags names < s.total flags names := by
  have hleft := h.toLeftAlone.step hstep ha.1
  have hwaits := fun node => hstep.waits ha.1 ha.2 (h.waits node)
  obtain ⟨node, ha⟩ := Option.ne_none_iff_exists'.1 ha.1
  obtain ⟨hframe, _⟩ := hstep.frame ha (h.alone node)
  have hmem := h.names node (hstep.active ha)
  have hlt := hstep.rank_lt ha (h.alone node) (h.waits node)
  refine ⟨⟨hleft, hwaits, fun name hname => ?_⟩, List.sum_lt_sum _ _ (fun name _ => ?_) ⟨node, hmem, hlt⟩⟩
  · by_cases hne : name = node
    · rw [hne]
      exact hmem
    · rw [hframe.controllers.active_iff hne, hframe.pods name hne] at hname
      exact h.names name hname
  · by_cases hne : name = node
    · rw [hne]
      exact hlt.le
    · exact (hframe.rank_eq hne).le

theorem LeftAlone.patiently {names : List String} (h : s₀.LeftAlone flags s)
    (hidle : ∀ node, s.controllers.nodeWork node = none)
    (hnames : ∀ node, node ∈ s.controllers.nodeQueue ∨ s.pods node ≠ none → node ∈ names) :
    s₀.Patiently flags names s := by
  refine ⟨h, fun node _ _ _ => hidle node, fun node hnode => hnames node ?_⟩
  exact hnode.imp_left fun hactive => hactive.resolve_right fun hwork => hwork (hidle node)

/-- There is a run to where nothing is left to do. -/
theorem Patiently.exists_end {names : List String} (h : s.Patiently flags names s) :
    ∃ trace s', Run (Rollout.Step flags) s trace s' ∧ (∀ x ∈ trace, x.2.1.ofNode ≠ none ∧ x.1.Patient x.2.1) ∧
      s.LeftAlone flags s' ∧ ∀ a s'', s'.Step flags a s'' → a.ofNode = none := by
  have hstep : ∀ (t : Rollout) a t', t.Step flags a t' → a.ofNode ≠ none ∧ t.Patient a →
      s.Patiently flags names t → s.Patiently flags names t' ∧ t'.total flags names < t.total flags names :=
    fun t a t' hs ha ht => ht.step hs ha
  obtain ⟨trace, s', hrun, hown, hend⟩ := exists_run_to_end
    (P := fun t (a : RolloutTransition) => a.ofNode ≠ none ∧ Patient t a) hstep h
  refine ⟨trace, s', hrun, hown, ?_, end_of_patient hend⟩
  exact (hrun.invariant h (fun t a t' hs ha ht => (ht.step hs ha).1) hown).1.toLeftAlone

/-- Where nothing is left to write, the passes leave the cluster as it is, and only its configs get into the Pods. -/
theorem LeftAlone.quiet_run {trace : RolloutTrace} (h : s.LeftAlone flags s)
    (hquiet : ∀ node, s.controllers.Quiet flags.toFlags node) (hpods : ∀ node, s.pods node = none)
    (hrun : Run (Rollout.Step flags) s trace s') (hown : ∀ x ∈ trace, x.2.1.ofNode ≠ none) :
    s'.controllers.cluster = s.controllers.cluster ∧ s'.OnlyHolds (s.Computed flags) := by
  have hstep : ∀ (t : Rollout) a t', t.Step flags a t' → a.ofNode ≠ none →
      (s.LeftAlone flags t ∧ (∀ node, t.controllers.Quiet flags.toFlags node) ∧
        t.controllers.cluster = s.controllers.cluster ∧ t.OnlyHolds (s.Computed flags)) →
      s.LeftAlone flags t' ∧ (∀ node, t'.controllers.Quiet flags.toFlags node) ∧
        t'.controllers.cluster = s.controllers.cluster ∧ t'.OnlyHolds (s.Computed flags) := by
    rintro t a t' hs ha ⟨hleft, hquiet, hcluster, hholds⟩
    obtain ⟨node, hnode⟩ := Option.ne_none_iff_exists'.1 ha
    obtain ⟨hframe, _⟩ := hs.frame hnode (hleft.alone node)
    obtain ⟨hsame, hnext⟩ := hs.quiet hnode (hleft.alone node) (hquiet node)
    refine ⟨hleft.step hs ha, fun name => ?_, hsame.trans hcluster, hs.onlyHolds ?_ hholds⟩
    · by_cases hne : name = node
      · rw [hne]
        exact hnext
      · exact hframe.controllers.quiet hne (hquiet name)
    · intro name output hmap N hN hname
      rw [← hcluster] at hN ⊢
      exact Option.some.inj (hmap.symm.trans (hquiet name N hN hname).1)
  have hstart : s.OnlyHolds (s.Computed flags) := by
    intro node p _ hp
    cases (hpods node).symm.trans hp
  obtain ⟨_, _, hcluster, hholds⟩ := (hrun.invariant ⟨h, hquiet, rfl, hstart⟩ hstep hown).1
  exact ⟨hcluster, hholds⟩

/-- The passes and the kubelet keep what a run has led to. -/
theorem LeftAlone.reached {trace : RolloutTrace} (h : s.LeftAlone flags s) (hrun : Run (Rollout.Step flags) s trace s')
    (hown : ∀ x ∈ trace, x.2.1.ofNode ≠ none) (hreached : s.ReachedUninterrupted flags) :
    s'.ReachedUninterrupted flags := by
  have hleft := (hrun.invariant h (fun _ _ _ hs ha ht => ht.step hs ha) hown).2
  refine hreached.run hrun fun x hx => ?_
  obtain ⟨node, ha⟩ := Option.ne_none_iff_exists'.1 (hown x hx)
  exact (hrun.step_of_mem x hx).noticed ha ((hleft x hx).1.alone node)

end

/-- The Pod of a node at rest. -/
theorem Reached.upToDate (h : s.Reached flags) {N : SingBoxNode} (hrest : s.controllers.AtRest N) :
    ∃ p, s.pods N.name = some p ∧ s.UpToDate flags N.name p.pod := by
  obtain ⟨_, p, output, hp, hmap, hhash⟩ := (h.inv N.name).annotated_of_atRest hrest
  obtain rfl := Option.some.inj (hmap.symm.trans (h.controllers.inv.configMap_eq hrest))
  refine ⟨p, hp, fun N' hN' hname => ?_⟩
  obtain rfl := Cluster.node_unique hN' hrest.mem hname
  exact hhash

/-- From rest, or from anywhere between two passes. -/
theorem Inv.rank_le (h : s.Inv node) (hidle : s.controllers.nodeWork node = none) :
    s.rank flags node ≤ 36 * s.controllers.cluster.passLength node + 19 := by
  have hnone : s.pending node = none := by
    cases hp : s.pending node with
    | none => rfl
    | some output => cases hidle.symm.trans (h.pending output hp).1
  have hpod : s.podEvents flags node ≤ 5 := s.podEvents_le node
  have hevents := Nat.mul_le_mul_left (6 * s.controllers.cluster.passLength node + 3) hpod
  have hrank : s.controllers.rank flags.toFlags node ≤ _ := s.controllers.rank_le hidle
  have hunmounted := weight_le (s.Unmounted node)
  rw [rank, weight_neg (not_not.2 hnone)]
  omega

end

end Rollout

section
variable [Library] [MapOrder] {flags : OperatorFlags} {s : Rollout} {N : SingBoxNode}

end

/-! ### Two inbound nodes and a user -/

section
attribute [local instance] plainLibrary storedOrder

end

end SingboxOperator
