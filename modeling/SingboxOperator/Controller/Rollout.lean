import SingboxOperator.Controller.PassesEnd
/-!
# What sing-box runs

The passes for a node go on from the ConfigMap to the Pod: `reconcilePod` keeps
a Pod with the hash of the config, deletes another one and comes back, or creates
it. The kubelet brings the ConfigMap into the volume of the Pod when it gets to
it, and sing-box reads the volume when its container starts, or starts again.

A Pod at rest has the hash of the config of the cluster as it is, whatever fails on
the way. That it also runs this config needs more: between the ConfigMap and the
Pod no pass may fail. If one does and the change is taken back, the next pass
finds the old hash on a Pod whose container may have read the new config.

Trusted: a volume shows what the ConfigMap has held at some time since the Pod was
created, and a Pod event enqueues the node.
-/
open SingboxOperator.Lib

namespace SingboxOperator

/-! ## The system -/

/-- A Pod with the config in its volume and the config its container has been started with. -/
structure PlacedPod where
  pod : Pod
  volume : Option Output := none
  running : Option Output := none

/-- Only configs with this hash have got into the Pod. -/
def PlacedPod.Holds (p : PlacedPod) (hash : String) : Prop :=
  ∀ output, p.volume = some output ∨ p.running = some output → output.hash = hash

/-- The two controllers with the Pods of the nodes. -/
structure Rollout where
  controllers : Controllers
  pods : String → Option PlacedPod
  /-- What the pass for a node has written to the ConfigMap, until it comes to the Pod. -/
  pending : String → Option Output

inductive RolloutTransition
  | controllers (a : ControllersTransition)
  | reconcilePod (node : String) (result : Except String Bool)
  | mount (node : String)
  | start (node : String)
  | restart (node : String)
  | terminate (node : String)
  | removed (node : String)

/-- A pass that has written the ConfigMap goes on to the Pod, unless it fails. -/
def ControllersTransition.pendingAfter (configMap pending : String → Option Output) :
    ControllersTransition → String → Option Output
  | .reconcileConfigMap node => Function.update pending node (configMap node)
  | .fail node => Function.update pending node none
  | _ => pending

namespace Rollout

/-- The node with its objects, as `reconcilePod` finds them. -/
def site (s : Rollout) (flags : OperatorFlags) (N : HostedNode) : Site where
  cluster := s.controllers.cluster
  node := N
  flags := flags
  configMap := s.controllers.configMap N.name
  pod := (s.pods N.name).map PlacedPod.pod

/-- The Pod of the node is another one now, which enqueues the node. -/
def store (s : Rollout) (node : String) (p : Option PlacedPod) : Rollout :=
  { s with
    pods := Function.update s.pods node p
    controllers := { s.controllers with nodeQueue := s.controllers.nodeQueue ∪ [node] } }

/-- `reconcilePod` leaves this Pod. A new one has an empty volume. -/
def reconciled (s : Rollout) (node : String) (pod : Option Pod) : Rollout :=
  let s := { s with pending := Function.update s.pending node none }
  if pod = (s.pods node).map PlacedPod.pod then s
  else s.store node (pod.map fun pod => { (s.pods node).getD { pod } with pod })

/-- The pass goes on, or is over and the node is enqueued again. -/
def resume (s : Rollout) (node : String) : Except String Bool → Rollout
  | .ok false => s
  | _ => { s with controllers := { s.controllers with nodeQueue := s.controllers.nodeQueue ∪ [node] }.done node }

end Rollout

section
variable [Library] [MapOrder] (flags : OperatorFlags)

/-- The transitions of the controllers, of which the one that ends a pass well waits
for the Pod, and what becomes of the Pods. `mount` and `start` are the kubelet's,
`restart` is a container that ends by itself, and `terminate` is somebody who
deletes the Pod. Of the node a pass has read, only the name matters here. -/
inductive Rollout.Step (s : Rollout) : RolloutTransition → Rollout → Prop
  | controllers {a : ControllersTransition} {controllers : Controllers}
      (h : s.controllers.Step flags.toFlags a controllers)
      (hpod : ∀ node, a = .updateStatus node → s.pending node = none) :
      Step s (.controllers a) { s with controllers, pending := a.pendingAfter controllers.configMap s.pending }
  | reconcilePod {N : HostedNode} {output : Output} {calls : Calls} {site : Site} {result : Except String Bool}
      (hw : s.controllers.nodeWork N.name = some (.written output)) (hp : s.pending N.name = some output)
      (h : (s.site flags N).reconcilePod output.hash calls = (site, result)) :
      Step s (.reconcilePod N.name result) ((s.reconciled N.name site.pod).resume N.name result)
  | mount {node : String} {p : PlacedPod} {output : Output} (hp : s.pods node = some p)
      (hmap : s.controllers.configMap node = some output) (hnew : p.volume ≠ some output) :
      Step s (.mount node) { s with pods := Function.update s.pods node (some { p with volume := some output }) }
  | start {node : String} {p : PlacedPod} {output : Output} (hp : s.pods node = some p)
      (hvolume : p.volume = some output) (hrunning : p.running = none) :
      Step s (.start node) (s.store node (some { p with running := some output }))
  | restart {node : String} {p : PlacedPod} {output : Output} (hp : s.pods node = some p)
      (hvolume : p.volume = some output) (hrunning : p.running ≠ none) :
      Step s (.restart node) (s.store node (some { p with running := some output }))
  | terminate {node : String} {p : PlacedPod} (hp : s.pods node = some p) :
      Step s (.terminate node) (s.store node (some { p with pod := { p.pod with deleting := true } }))
  | removed {node : String} {p : PlacedPod} (hp : s.pods node = some p) (hdel : p.pod.deleting = true) :
      Step s (.removed node) (s.store node none)

end

/-- A run, transition by transition. -/
abbrev RolloutTrace := List (Rollout × RolloutTransition × Rollout)

/-- The operator has just been started. -/
structure Rollout.Started (s : Rollout) : Prop where
  controllers : s.controllers.Started
  pending : ∀ node, s.pending node = none

/-! ## What a step does for one node -/

theorem desiredHash_inj {hash hash' : String} (h : desiredHash hash = desiredHash hash') : hash = hash' := by
  have hlist := congrArg String.toList h
  simp only [desiredHash, String.toList_append, List.append_cancel_right_eq] at hlist
  exact String.toList_inj.1 hlist

/-- What `reconcilePod` can do. -/
theorem Site.reconcilePod_cases {s s' : Site} {hash : String} {calls : Calls} {result : Except String Bool}
    (h : s.reconcilePod hash calls = (s', result)) :
    (∃ err, result = .error err ∧ s'.pod = s.pod) ∨
      (∃ pod, s.pod = some pod ∧ pod.configHash = desiredHash hash ∧ result = .ok false ∧ s'.pod = s.pod) ∨
      (∃ pod, s.pod = some pod ∧ pod.configHash ≠ desiredHash hash ∧ result = .ok true ∧
        (s'.pod = none ∨ s'.pod = some { pod with deleting := true })) ∨
      s.pod = none ∧ result = .ok false ∧ s'.pod = some (newPod s.flags s.node hash) := by
  unfold reconcilePod at h
  cases hget : calls.getPod with
  | some err =>
    simp only [hget] at h
    obtain ⟨rfl, rfl⟩ := Prod.mk.inj h
    exact .inl ⟨err, rfl, rfl⟩
  | none =>
    cases hpod : s.pod with
    | some pod =>
      simp only [hget, hpod] at h
      by_cases hhash : pod.configHash = desiredHash hash
      · rw [if_pos hhash] at h
        obtain ⟨rfl, rfl⟩ := Prod.mk.inj h
        exact .inr (.inl ⟨pod, rfl, hhash, rfl, hpod⟩)
      · rw [if_neg hhash] at h
        cases hdel : calls.deletePod with
        | some err =>
          simp only [hdel] at h
          obtain ⟨rfl, rfl⟩ := Prod.mk.inj h
          exact .inl ⟨err, rfl, hpod⟩
        | none =>
          simp only [hdel] at h
          obtain ⟨rfl, rfl⟩ := Prod.mk.inj h
          refine .inr (.inr (.inl ⟨pod, rfl, hhash, rfl, ?_⟩))
          cases calls.goneAtOnce with
          | true => exact .inl rfl
          | false => exact .inr rfl
    | none =>
      simp only [hget, hpod] at h
      cases hcreate : calls.createPod with
      | some err =>
        simp only [hcreate] at h
        obtain ⟨rfl, rfl⟩ := Prod.mk.inj h
        exact .inl ⟨err, rfl, hpod⟩
      | none =>
        simp only [hcreate] at h
        obtain ⟨rfl, rfl⟩ := Prod.mk.inj h
        exact .inr (.inr (.inr ⟨rfl, rfl, rfl⟩))

/-- A live node of the name is there and does not wait. -/
structure Controllers.Rests (s : Controllers) (node : String) : Prop where
  mem : ∃ N ∈ s.cluster.nodes, N.name = node
  live : s.deleting node = false
  queue : node ∉ s.nodeQueue

/-- The pass for the node has written the ConfigMap. -/
def Controllers.Wrote (s : Controllers) (node : String) : Prop := ∃ output, s.nodeWork node = some (.written output)

/-- What a transition of the controllers can mean for the Pod of a node. -/
inductive Controllers.Meets (s s' : Controllers) (node : String) : ControllersTransition → Prop
  /-- It is about something else. -/
  | aside {a : ControllersTransition} (hwork : s'.nodeWork node = s.nodeWork node)
      (hmap : s'.configMap node = s.configMap node) (hrests : s'.Rests node → s.Rests node)
      (hpending : ∀ configMap pending, a.pendingAfter configMap pending node = pending node) : Meets s s' node a
  /-- The pass for the node has yet to write the ConfigMap. -/
  | reads {a : ControllersTransition} {point : NodePoint} (hidle : ¬ s.Wrote node)
      (hwork : s'.nodeWork node = some point) (hpoint : ∀ output, point ≠ .written output)
      (hmap : s'.configMap node = s.configMap node)
      (hpending : ∀ configMap pending, a.pendingAfter configMap pending node = pending node) : Meets s s' node a
  | writes {output : Output} (hidle : ¬ s.Wrote node) (hwork : s'.nodeWork node = some (.written output))
      (hmap : s'.configMap node = some output) : Meets s s' node (.reconcileConfigMap node)
  | ends (hwork : s.Wrote node) (hwork' : s'.nodeWork node = none) (hmap : s'.configMap node = s.configMap node)
      (hrests : s'.Rests node → s.Rests node) : Meets s s' node (.updateStatus node)
  | fails (hwork : s'.nodeWork node = none) (hmap : s'.configMap node = s.configMap node) (hq : node ∈ s'.nodeQueue) :
      Meets s s' node (.fail node)

section
variable [Library] [MapOrder] {flags : Flags}

omit [MapOrder] in
theorem PolicyController.Step.nodes_eq {s s' : PolicyController} {a : PolicyTransition} (h : s.Step a s')
    (ha : ∀ ev, a ≠ .change ev) : s'.world.cluster.nodes = s.world.cluster.nodes := by
  cases h with
  | change => exact absurd rfl (ha _)
  | _ => rfl

namespace Controllers
variable {s s' : Controllers} {node : String}

omit [Library] [MapOrder] in
theorem Rests.of_eq (h : s'.Rests node)
    (hnodes : s'.cluster.nodes.map SingBoxNode.name = s.cluster.nodes.map SingBoxNode.name)
    (hdeleting : s'.deleting = s.deleting) (hqueue : s.nodeQueue ⊆ s'.nodeQueue) : s.Rests node := by
  obtain ⟨N, hN, hname⟩ := h.mem
  have hmem : node ∈ s.cluster.nodes.map SingBoxNode.name := by
    rw [← hnodes]
    exact List.mem_map.2 ⟨N, hN, hname⟩
  exact ⟨List.mem_map.1 hmem, hdeleting ▸ h.live, fun hq => h.queue (hqueue hq)⟩

omit [Library] [MapOrder] in
theorem not_wrote {point : NodePoint} (hw : s.nodeWork node = some point) (hpoint : ∀ output, point ≠ .written output) :
    ¬ s.Wrote node := by
  rintro ⟨output, hw'⟩
  exact hpoint output (Option.some.inj (hw.symm.trans hw'))

omit [Library] [MapOrder] in
/-- A transition of the pass for another node. -/
theorem Meets.of_ne {a : ControllersTransition} {node' : String} {point : Option NodePoint} (hne : node ≠ node')
    (hwork : s'.nodeWork = Function.update s.nodeWork node' point) (hmap : s'.configMap node = s.configMap node)
    (hrests : s'.Rests node → s.Rests node)
    (hpending : ∀ configMap pending, a.pendingAfter configMap pending node = pending node) : s.Meets s' node a :=
  .aside (by rw [hwork, Function.update_of_ne hne]) hmap hrests hpending

omit [Library] [MapOrder] in
/-- A transition of some pass that has yet to write the ConfigMap. -/
theorem Meets.of_read {a : ControllersTransition} {node' : String} {point point' : NodePoint}
    (hw : s.nodeWork node' = some point) (hpoint : ∀ output, point ≠ .written output)
    (hpoint' : ∀ output, point' ≠ .written output) (hwork : s'.nodeWork = Function.update s.nodeWork node' (some point'))
    (hmap : s'.configMap = s.configMap) (hrests : s'.Rests node → s.Rests node)
    (hpending : ∀ configMap pending, a.pendingAfter configMap pending node = pending node) : s.Meets s' node a := by
  by_cases hne : node = node'
  · subst hne
    exact .reads (not_wrote hw hpoint) (by rw [hwork, Function.update_self]) hpoint' (congrFun hmap _) hpending
  · exact .of_ne hne hwork (congrFun hmap _) hrests hpending

omit [Library] [MapOrder] in
theorem Meets.of_move {a : ControllersTransition} {node' : String} {point point' : NodePoint}
    (hw : s.nodeWork node' = some point) (hpoint : ∀ output, point ≠ .written output)
    (hpoint' : ∀ output, point' ≠ .written output)
    (hpending : ∀ configMap pending, a.pendingAfter configMap pending node = pending node) :
    s.Meets (s.move node' point') node a :=
  .of_read hw hpoint hpoint' rfl rfl (fun h => h.of_eq rfl rfl (List.Subset.refl _)) hpending

omit [MapOrder] in
/-- Whoever comes in, or comes back to life, is enqueued. -/
theorem Rests.of_change {ev : Event} {policies : PolicyController} (hchange : s.policies.Step (.change ev) policies)
    (hpolicies : s'.policies = policies)
    (hqueue : s'.nodeQueue = s.nodeQueue ∪ nodeRequests policies.world.cluster ev)
    (hdeleting : (∀ ch g, ev = .singBoxNode ch g → ch.object.name ≠ node) → s'.deleting node = s.deleting node)
    (h : s'.Rests node) : s.Rests node := by
  obtain ⟨⟨N, hN, rfl⟩, hlive, hq⟩ := h
  rw [hqueue, List.mem_union_iff, not_or] at hq
  rw [cluster, hpolicies] at hN
  cases hchange with
  | @change _ c' _ hstep _ _ =>
    refine ⟨⟨N, (hstep.mem_nodes hN).resolve_right hq.2, rfl⟩, ?_, hq.1⟩
    rw [← hdeleting]
    · exact hlive
    · rintro ch g rfl hname
      exact hq.2 (hname ▸ List.mem_cons_self)

omit [MapOrder] in
/-- The write of a status. -/
theorem Rests.of_updated {N : SingBoxNode} {status : SingBoxNodeStatus} {record : NodeRecord}
    {policies : PolicyController} (hwrite : StatusWrite s.policies N status policies)
    (hpolicies : s'.policies = policies) (hdeleting : s'.deleting = s.deleting)
    (hqueue : s'.nodeQueue = (s.updated N status record policies).nodeQueue) (h : s'.Rests node) : s.Rests node := by
  refine h.of_eq ?_ hdeleting fun _ hq => hqueue ▸ List.mem_union_iff.2 (.inl hq)
  rw [cluster, hpolicies]
  exact hwrite.sameFaces.names

theorem Step.meets {a : ControllersTransition} (h : s.Step flags a s') (node : String) : s.Meets s' node a := by
  have hunion : ∀ names : List String, s.nodeQueue ⊆ s.nodeQueue ∪ names := fun _ _ hq => List.mem_union_iff.2 (.inl hq)
  cases h with
  | change h hnode =>
    exact .aside rfl rfl (Rests.of_change h rfl rfl fun hother => (hnode node hother).2.1) fun _ _ => rfl
  | changeHost | changeSecret | enqueue =>
    exact .aside rfl rfl (fun hrests => hrests.of_eq rfl rfl (hunion _)) fun _ _ => rfl
  | policy h ha =>
    refine .aside rfl rfl (fun hrests => hrests.of_eq ?_ rfl (List.Subset.refl _)) fun _ _ => rfl
    exact congrArg _ (h.nodes_eq (by rintro ev rfl; exact ha))
  | triggerNodeReconcile h =>
    refine .aside rfl rfl (fun hrests => hrests.of_eq ?_ rfl (hunion _)) fun _ _ => rfl
    exact congrArg _ (h.nodes_eq (by rintro ev ⟨⟩))
  | @ignore node' hidle hq hgone =>
    refine .aside rfl rfl (fun hrests => ⟨hrests.mem, hrests.live, fun hmem => hrests.queue ?_⟩) fun _ _ => rfl
    refine List.mem_filter.2 ⟨hmem, decide_eq_true ?_⟩
    rintro rfl
    obtain ⟨N, hN, hname⟩ := hrests.mem
    exact absurd ((hgone N hN hname).symm.trans hrests.live) (by decide)
  | addFinalizer =>
    exact .aside rfl rfl (fun hrests => hrests.of_eq rfl rfl (List.Subset.refl _)) fun _ _ => rfl
  | @get N hidle hq hN hlive _ =>
    by_cases hne : node = N.name
    · subst hne
      refine .reads ?_ nodeWork_move (by rintro _ ⟨⟩) rfl fun _ _ => rfl
      rintro ⟨output, hw⟩
      cases hidle.symm.trans hw
    · refine .of_ne hne rfl rfl (fun hrests => ⟨hrests.mem, hrests.live, fun hmem => hrests.queue ?_⟩) fun _ _ => rfl
      exact List.mem_filter.2 ⟨hmem, decide_eq_true hne⟩
  | updateNodeReadyStatus hw h =>
    exact .of_read hw (by rintro _ ⟨⟩) (by rintro _ ⟨⟩) rfl rfl (Rests.of_updated h.statusWrite rfl rfl rfl) fun _ _ => rfl
  | createCredential hw _ _ =>
    refine .of_read hw (by rintro _ ⟨⟩) (by rintro _ ⟨⟩) rfl rfl (fun hrests => ?_) fun _ _ => rfl
    exact hrests.of_eq rfl rfl (hunion _)
  | statusNotUpdated hw | ensureCredential hw | getSecret hw | tearSecret hw | listNodes hw | listExternalOutbounds hw
  | listUsers hw | getUserGroup hw | tearUserGroup hw | listPolicies hw | compute hw | computeTorn hw =>
    exact .of_move hw (by rintro _ ⟨⟩) (by rintro _ ⟨⟩) fun _ _ => rfl
  | @reconcileConfigMap node' output hw =>
    by_cases hne : node = node'
    · subst hne
      exact .writes (not_wrote hw (by rintro _ ⟨⟩)) nodeWork_move (Function.update_self ..)
    · refine .of_ne hne rfl (Function.update_of_ne hne ..) (fun hrests => ?_) fun _ _ => Function.update_of_ne hne ..
      exact hrests.of_eq rfl rfl (hunion _)
  | @updateStatus N output now policies hw h =>
    by_cases hne : node = N.name
    · subst hne
      exact .ends ⟨output, hw⟩ (Function.update_self ..) rfl (Rests.of_updated h.statusWrite rfl rfl rfl)
    · exact .of_ne hne rfl rfl (Rests.of_updated h.statusWrite rfl rfl rfl) fun _ _ => rfl
  | @fail node' point hw =>
    by_cases hne : node = node'
    · subst hne
      exact .fails (Function.update_self ..) rfl (List.mem_union_iff.2 (.inr (List.mem_singleton_self _)))
    · refine .of_ne hne rfl rfl (fun hrests => ?_) fun _ _ => Function.update_of_ne hne ..
      exact hrests.of_eq rfl rfl (hunion _)

end Controllers
end

namespace Rollout
variable {s s' : Rollout} {node node' : String} {p : Option PlacedPod} {pod : Option Pod} {result : Except String Bool}

theorem mem_of_mem_enqueued {queue : List String} (h : node ∈ queue ∪ [node']) (hne : node ≠ node') : node ∈ queue :=
  (List.mem_union_iff.1 h).resolve_right fun heq => hne (List.mem_singleton.1 heq)

theorem pods_reconciled (s : Rollout) (node : String) (pod : Option Pod) :
    (s.reconciled node pod).pods node = pod.map fun pod => { (s.pods node).getD { pod } with pod } := by
  unfold reconciled
  dsimp only
  split
  · rename_i heq
    subst heq
    cases s.pods node <;> rfl
  · exact Function.update_self ..

theorem pods_reconciled_of_ne (hne : node ≠ node') (pod : Option Pod) :
    (s.reconciled node' pod).pods node = s.pods node := by
  unfold reconciled
  dsimp only
  split
  · rfl
  · exact Function.update_of_ne hne ..

theorem pending_reconciled : (s.reconciled node pod).pending = Function.update s.pending node none := by
  unfold reconciled
  dsimp only
  split <;> rfl

/-- All that `reconcilePod` means to the controllers is that the node may be enqueued. -/
theorem controllers_reconciled (s : Rollout) (node : String) (pod : Option Pod) :
    ∃ queue, s.controllers.nodeQueue ⊆ queue ∧ (∀ name ≠ node, name ∈ queue → name ∈ s.controllers.nodeQueue) ∧
      (s.reconciled node pod).controllers = { s.controllers with nodeQueue := queue } := by
  unfold reconciled
  dsimp only
  split
  · exact ⟨_, List.Subset.refl _, fun _ _ => id, rfl⟩
  · refine ⟨_, fun _ hq => List.mem_union_iff.2 (.inl hq), fun name hne hq => ?_, rfl⟩
    exact mem_of_mem_enqueued hq hne

/-- What a transition can mean for the Pod of a node. -/
inductive Meets (s s' : Rollout) (node : String) : RolloutTransition → Prop
  | controllers {a : ControllersTransition} (h : s.controllers.Meets s'.controllers node a)
      (hpods : s'.pods node = s.pods node)
      (hpending : s'.pending node = a.pendingAfter s'.controllers.configMap s.pending node)
      (hpod : a = .updateStatus node → s.pending node = none) : Meets s s' node (.controllers a)
  /-- It is about the Pod of another node. -/
  | aside {a : RolloutTransition} (hwork : s'.controllers.nodeWork node = s.controllers.nodeWork node)
      (hmap : s'.controllers.configMap node = s.controllers.configMap node)
      (hrests : s'.controllers.Rests node → s.controllers.Rests node)
      (hpods : s'.pods node = s.pods node) (hpending : s'.pending node = s.pending node) : Meets s s' node a
  /-- `reconcilePod` has kept the Pod or created it. -/
  | looks {output : Output} {p : PlacedPod} (hpending : s.pending node = some output)
      (hpending' : s'.pending node = none)
      (hmap : s'.controllers.configMap node = s.controllers.configMap node) (hp : s'.pods node = some p)
      (hhash : p.pod.configHash = desiredHash output.hash)
      (hold : s.pods node = some p ∨ p.volume = none ∧ p.running = none) :
      Meets s s' node (.reconcilePod node (.ok false))
  /-- It has failed, or deleted the Pod. -/
  | retries {result : Except String Bool} (hpending : s'.pending node = none)
      (hmap : s'.controllers.configMap node = s.controllers.configMap node) (hq : node ∈ s'.controllers.nodeQueue)
      (hpod : (∃ err, result = .error err) ∨ ∀ p, s'.pods node = some p → p.pod.deleting = true) :
      Meets s s' node (.reconcilePod node result)
  /-- The kubelet, or somebody who deletes the Pod. -/
  | kubelet {a : RolloutTransition} {p : PlacedPod}
      (hwork : s'.controllers.nodeWork node = s.controllers.nodeWork node)
      (hmap : s'.controllers.configMap node = s.controllers.configMap node)
      (hrests : s'.controllers.Rests node → s.controllers.Rests node) (hpending : s'.pending node = s.pending node)
      (hp : s.pods node = some p) (hgone : s'.pods node = none → node ∈ s'.controllers.nodeQueue)
      (hkeeps : ∀ p', s'.pods node = some p' → p'.pod.configHash = p.pod.configHash ∧
        (p'.pod.deleting = false → p.pod.deleting = false) ∧
        ∀ o, p'.volume = some o ∨ p'.running = some o →
          p.volume = some o ∨ p.running = some o ∨ s.controllers.configMap node = some o) : Meets s s' node a

theorem Meets.of_store (hne : node ≠ node') {a : RolloutTransition} : s.Meets (s.store node' p) node a := by
  refine .aside rfl rfl (fun h => ?_) (Function.update_of_ne hne ..) rfl
  exact h.of_eq rfl rfl fun _ hq => List.mem_union_iff.2 (.inl hq)

/-- A step of the kubelet that the node is told of. -/
theorem Meets.of_told {a : RolloutTransition} {q : PlacedPod} (hq : s.pods node = some q)
    (hkeeps : ∀ p', p = some p' → p'.pod.configHash = q.pod.configHash ∧
      (p'.pod.deleting = false → q.pod.deleting = false) ∧
      ∀ o, p'.volume = some o ∨ p'.running = some o → q.volume = some o ∨ q.running = some o) :
    s.Meets (s.store node p) node a := by
  have hp : (s.store node p).pods node = p := Function.update_self ..
  refine .kubelet rfl rfl (fun h => ?_) rfl hq (fun _ => ?_) fun p' hp' => ?_
  · exact h.of_eq rfl rfl fun _ hq => List.mem_union_iff.2 (.inl hq)
  · exact List.mem_union_iff.2 (.inr (List.mem_singleton_self _))
  · obtain ⟨hhash, hdel, hread⟩ := hkeeps p' (hp.symm.trans hp')
    exact ⟨hhash, hdel, fun o ho => (hread o ho).imp_right .inl⟩

theorem Meets.of_reconcilePod {flags : OperatorFlags} {N : HostedNode} {output : Output} {calls : Calls} {site : Site}
    (hp : s.pending N.name = some output) (h : (s.site flags N).reconcilePod output.hash calls = (site, result)) :
    s.Meets ((s.reconciled N.name site.pod).resume N.name result) N.name (.reconcilePod N.name result) := by
  obtain ⟨queue, _, _, hcontrollers⟩ := s.controllers_reconciled N.name site.pod
  have hpods := s.pods_reconciled N.name site.pod
  have hpending : (s.reconciled N.name site.pod).pending N.name = none := by
    rw [pending_reconciled, Function.update_self]
  have hmap : (s.reconciled N.name site.pod).controllers.configMap = s.controllers.configMap := by rw [hcontrollers]
  have hq : N.name ∈ (s.reconciled N.name site.pod).controllers.nodeQueue ∪ [N.name] :=
    List.mem_union_iff.2 (.inr (List.mem_singleton_self _))
  rcases Site.reconcilePod_cases h with ⟨err, rfl, _⟩ | ⟨pod, hpod, hhash, rfl, hkept⟩ | ⟨pod, hpod, hhash, rfl, hdel⟩ |
    ⟨hpod, rfl, hnew⟩
  · exact .retries hpending (congrFun hmap _) hq (.inl ⟨err, rfl⟩)
  · -- the Pod is the one that was there
    obtain ⟨p, hp', rfl⟩ := Option.map_eq_some_iff.1 hpod
    have hplaced : (s.reconciled N.name site.pod).pods N.name = some p := hpods.trans (by rw [hkept, hpod, hp']; rfl)
    exact .looks hp hpending (congrFun hmap _) hplaced hhash (.inl hp')
  · refine .retries hpending (congrFun hmap _) hq (.inr fun p hp' => ?_)
    have hp'' := hpods.symm.trans hp'
    rcases hdel with hnone | hsome
    · rw [hnone] at hp''
      cases hp''
    · rw [hsome] at hp''
      rw [← Option.some.inj hp'']
  · have hnone : s.pods N.name = none := Option.map_eq_none_iff.1 hpod
    have hplaced : (s.reconciled N.name site.pod).pods N.name = some { pod := newPod flags N output.hash } :=
      hpods.trans (by rw [hnew, hnone]; rfl)
    exact .looks hp hpending (congrFun hmap _) hplaced (configHash_newPod ..) (.inr ⟨rfl, rfl⟩)

theorem Meets.of_reconciled_ne (hne : node ≠ node') {a : RolloutTransition} :
    s.Meets ((s.reconciled node' pod).resume node' result) node a := by
  obtain ⟨queue, hqueue, _, hcontrollers⟩ := s.controllers_reconciled node' pod
  have hpods := s.pods_reconciled_of_ne hne pod
  have hpending : (s.reconciled node' pod).pending node = s.pending node := by
    rw [pending_reconciled, Function.update_of_ne hne]
  have hrests : (s.reconciled node' pod).controllers.Rests node → s.controllers.Rests node := fun h =>
    h.of_eq (by rw [hcontrollers]; rfl) (by rw [hcontrollers]) (by rw [hcontrollers]; exact hqueue)
  have hwork := congrArg (fun c => c.nodeWork node) hcontrollers
  have hmap := congrArg (fun c => c.configMap node) hcontrollers
  unfold resume
  split
  · exact .aside hwork hmap hrests hpods hpending
  · refine .aside ((Function.update_of_ne hne ..).trans hwork) hmap (fun h => hrests ?_) hpods hpending
    exact h.of_eq rfl rfl fun _ hq => List.mem_union_iff.2 (.inl hq)

section
variable [Library] [MapOrder] {flags : OperatorFlags}

theorem Step.meets {a : RolloutTransition} (h : s.Step flags a s') (node : String) : s.Meets s' node a := by
  cases h with
  | controllers h hpod => exact .controllers (h.meets node) rfl rfl (hpod node)
  | @reconcilePod N output calls site result hw hp h =>
    by_cases hne : node = N.name
    · subst hne
      exact .of_reconcilePod hp h
    · exact .of_reconciled_ne hne
  | @mount node' p output hp hmap _ =>
    by_cases hne : node = node'
    · subst hne
      have hplaced : Function.update s.pods node (some { p with volume := some output }) node = _ :=
        Function.update_self ..
      refine .kubelet rfl rfl id rfl hp (fun hnone => ?_) fun p' hp' => ?_
      · cases hplaced.symm.trans hnone
      · obtain rfl := Option.some.inj (hplaced.symm.trans hp')
        refine ⟨rfl, id, fun o ho => ?_⟩
        rcases ho with ho | ho
        · exact .inr (.inr (hmap.trans ho))
        · exact .inr (.inl ho)
    · exact .aside rfl rfl id (Function.update_of_ne hne ..) rfl
  | @start node' p output hp hvolume _ | @restart node' p output hp hvolume _ =>
    by_cases hne : node = node'
    · subst hne
      refine .of_told hp fun p' hp' => ?_
      obtain rfl := Option.some.inj hp'
      refine ⟨rfl, id, fun o ho => .inl (ho.elim id fun ho => hvolume.trans ho)⟩
    · exact .of_store hne
  | @terminate node' p hp =>
    by_cases hne : node = node'
    · subst hne
      refine .of_told hp fun p' hp' => ?_
      obtain rfl := Option.some.inj hp'
      exact ⟨rfl, Bool.noConfusion, fun _ => id⟩
    · exact .of_store hne
  | @removed node' p hp hdel =>
    by_cases hne : node = node'
    · subst hne
      exact .of_told hp fun p' hp' => by cases hp'
    · exact .of_store hne

end

/-! ## The hash on the Pod -/

/-- The Pod of the node has the hash of its ConfigMap. -/
def Annotated (s : Rollout) (node : String) : Prop :=
  ∃ p output, s.pods node = some p ∧ s.controllers.configMap node = some output ∧
    p.pod.configHash = desiredHash output.hash

/-- The pass for the node has dealt with the Pod, or there is none. -/
structure Dealt (s : Rollout) (node : String) : Prop where
  pending : s.pending node = none
  work : s.controllers.nodeWork node = none ∨ s.controllers.Wrote node

/-- What always holds of a node, whatever fails. -/
structure Inv (s : Rollout) (node : String) : Prop where
  pending : ∀ output, s.pending node = some output →
    s.controllers.nodeWork node = some (.written output) ∧ s.controllers.configMap node = some output
  annotated : s.controllers.Rests node → s.Dealt node → s.Annotated node

theorem Dealt.of_eq (h : s'.Dealt node) (hwork : s'.controllers.nodeWork node = s.controllers.nodeWork node)
    (hpending : s'.pending node = s.pending node) : s.Dealt node := by
  refine ⟨hpending.symm.trans h.pending, h.work.imp (fun hw => hwork.symm.trans hw) ?_⟩
  rintro ⟨output, hw⟩
  exact ⟨output, hwork.symm.trans hw⟩

theorem Annotated.of_eq (h : s.Annotated node) (hpods : s'.pods node = s.pods node)
    (hmap : s'.controllers.configMap node = s.controllers.configMap node) : s'.Annotated node := by
  obtain ⟨p, output, hp, houtput, hhash⟩ := h
  exact ⟨p, output, hpods.trans hp, hmap.trans houtput, hhash⟩

theorem Inv.aside (h : s.Inv node) (hwork : s'.controllers.nodeWork node = s.controllers.nodeWork node)
    (hmap : s'.controllers.configMap node = s.controllers.configMap node)
    (hrests : s'.controllers.Rests node → s.controllers.Rests node) (hpods : s'.pods node = s.pods node)
    (hpending : s'.pending node = s.pending node) : s'.Inv node where
  pending output ho := by
    rw [hwork, hmap]
    exact h.pending output (hpending.symm.trans ho)
  annotated hr hd :=
    (h.annotated (hrests hr) (hd.of_eq hwork hpending)).of_eq hpods hmap

theorem Inv.controllers {a : ControllersTransition} (h : s.Inv node)
    (hmeets : s.controllers.Meets s'.controllers node a) (hpods : s'.pods node = s.pods node)
    (hpending : s'.pending node = a.pendingAfter s'.controllers.configMap s.pending node)
    (hpod : a = .updateStatus node → s.pending node = none) : s'.Inv node := by
  cases hmeets with
  | aside hwork hmap hrests hsame =>
    rw [hsame] at hpending
    exact h.aside hwork hmap hrests hpods hpending
  | reads hidle hwork hpoint hmap hsame =>
    rw [hsame] at hpending
    refine ⟨fun output ho => ?_, fun _ hd => ?_⟩
    · exact absurd ⟨output, (h.pending output (hpending.symm.trans ho)).1⟩ hidle
    · rcases hd.work with hd | ⟨output, hd⟩
      · cases hwork.symm.trans hd
      · exact absurd (Option.some.inj (hwork.symm.trans hd)) (hpoint output)
  | @writes output hidle hwork hmap =>
    have hsome : s'.pending node = some output := by
      rw [hpending, ControllersTransition.pendingAfter, Function.update_self]
      exact hmap
    refine ⟨fun output' ho => ?_, fun _ hd => ?_⟩
    · obtain rfl := Option.some.inj (hsome.symm.trans ho)
      exact ⟨hwork, hmap⟩
    · cases hsome.symm.trans hd.pending
  | ends hwork hwork' hmap hrests =>
    have hnone : s'.pending node = none := hpending.trans (hpod rfl)
    refine ⟨fun output ho => ?_, fun hr _ => ?_⟩
    · cases hnone.symm.trans ho
    · exact (h.annotated (hrests hr) ⟨hpod rfl, .inr hwork⟩).of_eq hpods hmap
  | fails hwork hmap hq =>
    have hnone : s'.pending node = none := by
      rw [hpending, ControllersTransition.pendingAfter, Function.update_self]
    refine ⟨fun output ho => ?_, fun hr _ => absurd hq hr.queue⟩
    cases hnone.symm.trans ho

theorem Meets.inv {a : RolloutTransition} (hmeets : s.Meets s' node a) (h : s.Inv node) : s'.Inv node := by
  cases hmeets with
  | controllers hmeets hpods hpending hpod => exact h.controllers hmeets hpods hpending hpod
  | aside hwork hmap hrests hpods hpending => exact h.aside hwork hmap hrests hpods hpending
  | @looks output p hpending hpending' hmap hp hhash _ =>
    refine ⟨fun output ho => ?_, fun _ _ => ?_⟩
    · cases hpending'.symm.trans ho
    · exact ⟨p, output, hp, hmap.trans (h.pending output hpending).2, hhash⟩
  | retries hpending hmap hq _ =>
    refine ⟨fun output ho => ?_, fun hr _ => absurd hq hr.queue⟩
    cases hpending.symm.trans ho
  | kubelet hwork hmap hrests hpending hp hgone hkeeps =>
    refine ⟨fun output ho => ?_, fun hr hd => ?_⟩
    · rw [hwork, hmap]
      exact h.pending output (hpending.symm.trans ho)
    · obtain ⟨q, output, hq, houtput, hhash⟩ :=
        h.annotated (hrests hr) (hd.of_eq hwork hpending)
      obtain rfl := Option.some.inj (hp.symm.trans hq)
      cases hp' : s'.pods node with
      | none => exact absurd (hgone hp') hr.queue
      | some p' => exact ⟨p', output, hp', hmap.trans houtput, (hkeeps p' hp').1.trans hhash⟩

/-! ## What the container runs -/

/-- No pass fails between the ConfigMap and the Pod. -/
structure Uninterrupted (s : Rollout) (a : RolloutTransition) : Prop where
  fail : ∀ node, a = .controllers (.fail node) → s.pending node = none
  reconcilePod : ∀ node err, a ≠ .reconcilePod node (.error err)

/-- A Pod that is there to stay has the hash of the ConfigMap, unless the pass is
about to look at it, and if it has, only configs with this hash have got into it. -/
def Fresh (s : Rollout) (node : String) : Prop :=
  ∀ p, s.pods node = some p → p.pod.deleting = false → ∃ output, s.controllers.configMap node = some output ∧
    (s.pending node = none → p.pod.configHash = desiredHash output.hash) ∧
    (p.pod.configHash = desiredHash output.hash → p.Holds output.hash)

theorem Fresh.of_eq (h : s.Fresh node) (hpods : s'.pods node = s.pods node)
    (hmap : s'.controllers.configMap node = s.controllers.configMap node)
    (hpending : s'.pending node = none → s.pending node = none) : s'.Fresh node := by
  intro p hp hdel
  obtain ⟨output, houtput, hhash, hholds⟩ := h p (hpods.symm.trans hp) hdel
  exact ⟨output, hmap.trans houtput, fun hnone => hhash (hpending hnone), hholds⟩

theorem Fresh.controllers {a : ControllersTransition} (h : s.Fresh node) (hinv : s.Inv node)
    (hmeets : s.controllers.Meets s'.controllers node a) (hpods : s'.pods node = s.pods node)
    (hpending : s'.pending node = a.pendingAfter s'.controllers.configMap s.pending node)
    (hfail : a = .fail node → s.pending node = none) : s'.Fresh node := by
  cases hmeets with
  | aside _ hmap _ hsame | reads _ _ _ hmap hsame =>
    rw [hsame] at hpending
    exact h.of_eq hpods hmap fun hnone => hpending.symm.trans hnone
  | @writes output hidle _ hmap =>
    have hsome : s'.pending node = some output := by
      rw [hpending, ControllersTransition.pendingAfter, Function.update_self]
      exact hmap
    have hnone : s.pending node = none := by
      cases hp : s.pending node with
      | none => rfl
      | some output' => exact absurd ⟨output', (hinv.pending output' hp).1⟩ hidle
    -- the Pod had the hash of the old config, so it can only have that of the new one if they are the same
    intro p hp hdel
    obtain ⟨old, _, hhash, hholds⟩ := h p (hpods.symm.trans hp) hdel
    refine ⟨output, hmap, fun hn => ?_, fun hnew => ?_⟩
    · cases hsome.symm.trans hn
    · rw [← desiredHash_inj ((hhash hnone).symm.trans hnew)]
      exact hholds (hhash hnone)
  | ends _ _ hmap _ => exact h.of_eq hpods hmap fun hnone => hpending.symm.trans hnone
  | fails _ hmap _ => exact h.of_eq hpods hmap fun _ => hfail rfl

theorem Meets.fresh {a : RolloutTransition} (hmeets : s.Meets s' node a) (ha : s.Uninterrupted a) (hinv : s.Inv node)
    (h : s.Fresh node) : s'.Fresh node := by
  cases hmeets with
  | controllers hmeets hpods hpending _ =>
    exact h.controllers hinv hmeets hpods hpending fun hfail => ha.fail node (by rw [hfail])
  | aside _ hmap _ hpods hpending => exact h.of_eq hpods hmap fun hnone => hpending.symm.trans hnone
  | @looks output p hpending hpending' hmap hp hhash hold =>
    intro p' hp' hdel
    obtain rfl := Option.some.inj (hp.symm.trans hp')
    refine ⟨output, hmap.trans (hinv.pending output hpending).2, fun _ => hhash, fun _ => ?_⟩
    rcases hold with hold | ⟨hvolume, hrunning⟩
    · obtain ⟨output', houtput', _, hholds⟩ := h p hold hdel
      obtain rfl := Option.some.inj ((hinv.pending output hpending).2.symm.trans houtput')
      exact hholds hhash
    · rintro o (ho | ho)
      · cases hvolume.symm.trans ho
      · cases hrunning.symm.trans ho
  | retries _ _ _ hpod =>
    rcases hpod with ⟨err, rfl⟩ | hpod
    · exact absurd rfl (ha.reconcilePod node err)
    · intro p hp hdel
      cases (hpod p hp).symm.trans hdel
  | @kubelet _ p hwork hmap _ hpending hp _ hkeeps =>
    intro p' hp' hdel
    obtain ⟨hhash', hdel', hread⟩ := hkeeps p' hp'
    obtain ⟨output, houtput, hhash, hholds⟩ := h p hp (hdel' hdel)
    refine ⟨output, hmap.trans houtput, fun hnone => hhash'.trans (hhash (hpending.symm.trans hnone)), ?_⟩
    intro hnew o ho
    rcases hread o ho with ho | ho | ho
    · exact hholds (hhash'.symm.trans hnew) o (.inl ho)
    · exact hholds (hhash'.symm.trans hnew) o (.inr ho)
    · rw [Option.some.inj (ho.symm.trans houtput)]

/-! ## Whole runs -/

section
variable [Library] [MapOrder] {flags : OperatorFlags}

variable (flags) in
/-- What the controllers do is not lost on a node. -/
def Noticed (s : Rollout) (a : RolloutTransition) : Prop :=
  ∀ b, a = .controllers b → SingboxOperator.Noticed flags.toFlags s.controllers b

theorem noticed_of_queue {c : Controllers} {b : ControllersTransition}
    (hb : b = .enqueue node ∨ b = .fail node) : SingboxOperator.Noticed flags.toFlags c b := by
  rcases hb with rfl | rfl <;>
    exact ⟨by rintro _ _ _ ⟨⟩, by rintro _ ⟨⟩, by rintro _ ⟨⟩⟩

theorem reached_store (h : s.controllers.Reached flags.toFlags) :
    (s.store node p).controllers.Reached flags.toFlags :=
  h.step .enqueue (noticed_of_queue (.inl rfl))

/-- With the Pods left out, the controllers make the transitions they make on their own. -/
theorem Step.reached {a : RolloutTransition} (hstep : s.Step flags a s') (hnoticed : s.Noticed flags a)
    (h : s.controllers.Reached flags.toFlags) : s'.controllers.Reached flags.toFlags := by
  cases hstep with
  | controllers hstep _ => exact h.step hstep (hnoticed _ rfl)
  | @reconcilePod N output calls site result hw hp hpod =>
    have hreconciled : (s.reconciled N.name site.pod).controllers.Reached flags.toFlags := by
      unfold reconciled
      dsimp only
      split
      · exact h
      · exact reached_store h
    unfold resume
    split
    · exact hreconciled
    · obtain ⟨queue, _, _, hcontrollers⟩ := s.controllers_reconciled N.name site.pod
      have hw' : (s.reconciled N.name site.pod).controllers.nodeWork N.name = some (.written output) := by
        rw [hcontrollers]
        exact hw
      exact hreconciled.step (.fail hw') (noticed_of_queue (.inr rfl))
  | mount => exact h
  | start | restart | terminate | removed => exact reached_store h

omit [Library] [MapOrder] in
theorem Started.inv (h : s.Started) (node : String) : s.Inv node where
  pending output ho := by cases (h.pending node).symm.trans ho
  annotated hr _ := by
    obtain ⟨N, hN, rfl⟩ := hr.mem
    exact absurd (h.controllers.nodeQueue N hN) hr.queue

variable (flags) in
/-- A run from the start leads here, and nothing gets lost in it. -/
def Reached (s : Rollout) : Prop :=
  ∃ s₀ trace, s₀.Started ∧ Run (Rollout.Step flags) s₀ trace s ∧ ∀ x ∈ trace, x.1.Noticed flags x.2.1

variable (flags) in
/-- Nor does a pass fail between the ConfigMap and the Pod, and none had when the operator was started. -/
def ReachedUninterrupted (s : Rollout) : Prop :=
  ∃ s₀ trace, s₀.Started ∧ (∀ node, s₀.Fresh node) ∧ Run (Rollout.Step flags) s₀ trace s ∧
    ∀ x ∈ trace, x.1.Noticed flags x.2.1 ∧ x.1.Uninterrupted x.2.1

theorem Reached.controllers (h : s.Reached flags) : s.controllers.Reached flags.toFlags := by
  obtain ⟨s₀, trace, hstart, hrun, hnoticed⟩ := h
  exact (hrun.invariant hstart.controllers.reached (fun _ _ _ hs hn hr => hs.reached hn hr) hnoticed).1

theorem Reached.inv (h : s.Reached flags) (node : String) : s.Inv node := by
  obtain ⟨s₀, trace, hstart, hrun, hnoticed⟩ := h
  exact (hrun.invariant (hstart.inv node) (fun _ _ _ hs _ hi => (hs.meets node).inv hi) hnoticed).1

theorem Started.reachedUninterrupted (h : s.Started) (hpods : ∀ node, s.pods node = none) :
    s.ReachedUninterrupted flags := by
  refine ⟨s, [], h, fun node p hp => ?_, .nil, fun _ hx => absurd hx List.not_mem_nil⟩
  cases (hpods node).symm.trans hp

theorem ReachedUninterrupted.reached (h : s.ReachedUninterrupted flags) : s.Reached flags := by
  obtain ⟨s₀, trace, hstart, _, hrun, hall⟩ := h
  exact ⟨s₀, trace, hstart, hrun, fun x hx => (hall x hx).1⟩

theorem ReachedUninterrupted.fresh (h : s.ReachedUninterrupted flags) (node : String) : s.Fresh node := by
  obtain ⟨s₀, trace, hstart, hfresh, hrun, hall⟩ := h
  refine (hrun.invariant (I := fun s => s.Inv node ∧ s.Fresh node) (P := Uninterrupted) ⟨hstart.inv node, hfresh node⟩
    (fun _ _ _ hs hu hi => ?_) fun x hx => (hall x hx).2).1.2
  have hmeets := hs.meets node
  exact ⟨hmeets.inv hi.1, hmeets.fresh hu hi.1 hi.2⟩

omit [MapOrder] in
/-- What is known of a node at rest. -/
theorem Inv.annotated_of_atRest {N : SingBoxNode} (h : s.Inv N.name) (hrest : s.controllers.AtRest N) :
    s.pending N.name = none ∧ s.Annotated N.name := by
  have hnone : s.pending N.name = none := by
    cases hp : s.pending N.name with
    | none => rfl
    | some output => cases hrest.work.symm.trans (h.pending output hp).1
  exact ⟨hnone, h.annotated ⟨⟨N, hrest.mem, rfl⟩, hrest.live, hrest.queue⟩ ⟨hnone, .inl hrest.work⟩⟩

/-- The run goes on, with nothing lost and no pass that fails before it comes to the Pod. -/
theorem ReachedUninterrupted.run {trace : RolloutTrace} (h : s.ReachedUninterrupted flags)
    (hrun : Run (Rollout.Step flags) s trace s')
    (hall : ∀ x ∈ trace, x.1.Noticed flags x.2.1 ∧ x.1.Uninterrupted x.2.1) : s'.ReachedUninterrupted flags := by
  obtain ⟨s₀, trace₀, hstart, hfresh, hrun₀, hall₀⟩ := h
  exact ⟨s₀, _, hstart, hfresh, hrun₀.trans hrun, List.forall_mem_append.2 ⟨hall₀, hall⟩⟩

end

end Rollout

end SingboxOperator
