import SingboxOperator.Controller.RolloutPasses
/-!
# A pass that fails before it comes to the Pod

The hash on a Pod is that of the config it was created for, not of the one its
container has read. If a pass fails between the ConfigMap and the Pod and the
container starts again, it reads a config the hash does not tell of. Once the
change is taken back the hash is the right one again, and the passes let the
container run.
-/
open SingboxOperator.Lib

namespace SingboxOperator

/-- What happens in a run besides the passes for one node and what the kubelet does for its Pod. -/
def Rollout.besides (node : String) (trace : RolloutTrace) : List RolloutTransition :=
  (trace.map fun x => x.2.1).filter fun a => a.ofNode ≠ some node

section
variable {s s' : Rollout} {node : String} {trace trace' : RolloutTrace}

theorem Rollout.besides_append : Rollout.besides node (trace ++ trace') =
    Rollout.besides node trace ++ Rollout.besides node trace' := by
  rw [besides, List.map_append, List.filter_append]
  rfl

theorem Rollout.besides_eq_nil (h : ∀ x ∈ trace, x.2.1.ofNode = some node) : Rollout.besides node trace = [] := by
  refine List.filter_eq_nil_iff.2 fun a ha => ?_
  obtain ⟨x, hx, rfl⟩ := List.mem_map.1 ha
  simpa using h x hx

end

/-- Users come and go, and the statuses of nodes change in the meantime. -/
theorem Cluster.SameFaces.withUsers {c c' : Cluster} {users : List User} {hnodup : (users.map User.name).Nodup}
    (h : (c.withUsers users hnodup).SameFaces c') : c.SameFaces (c'.withUsers c.users c.users_nodup) := by
  obtain ⟨nodes, hnodes, rfl, hface⟩ := h
  exact ⟨nodes, hnodes, rfl, hface⟩

namespace Controllers.Frame
variable {s s' s'' : Controllers} {node : String}

theorem refl : s.Frame s node :=
  .of_policies_eq rfl (fun _ _ => rfl) (fun _ _ => Iff.rfl) (fun _ _ => rfl) (fun _ _ => rfl) rfl rfl rfl

theorem trans (h : s.Frame s' node) (h' : s'.Frame s'' node) : s.Frame s'' node where
  sameFaces := h.sameFaces.trans h'.sameFaces
  nodes M hne := (h'.nodes M hne).trans (h.nodes M hne)
  nodeWork name hne := (h'.nodeWork name hne).trans (h.nodeWork name hne)
  nodeQueue name hne := (h'.nodeQueue name hne).trans (h.nodeQueue name hne)
  configMap name hne := (h'.configMap name hne).trans (h.configMap name hne)
  record name hne := (h'.record name hne).trans (h.record name hne)
  deleting := h'.deleting.trans h.deleting
  host := h'.host.trans h.host
  tlsServerName := h'.tlsServerName.trans h.tlsServerName
  policyQueue policy := (h'.policyQueue policy).trans (h.policyQueue policy)
  policyWork := h'.policyWork.trans h.policyWork

end Controllers.Frame

namespace Rollout
variable [Library] [MapOrder] {flags : OperatorFlags} {s s' s₀ : Rollout} {N : SingBoxNode} {p : PlacedPod}

/-! ## Up to the Pod -/

/-- The pass for the node waits or is under way, and has yet to come to the Pod. -/
structure Ahead (flags : OperatorFlags) (s₀ s : Rollout) (node : String) : Prop where
  alone : s.controllers.Alone flags.toFlags node
  waits : s.controllers.nodeWork node = none → node ∈ s.controllers.nodeQueue
  pending : ∀ output, s.controllers.nodeWork node = some (.written output) → s.pending node = some output
  frame : s₀.controllers.Frame s.controllers node
  pods : s.pods = s₀.pods

theorem Ahead.step {b : ControllersTransition} (h : s₀.Ahead flags s N.name)
    (hN : ∃ N' ∈ s₀.controllers.cluster.nodes, N'.name = N.name) (hlive : s₀.controllers.deleting N.name = false)
    (hstep : s.Step flags (.controllers b) s') (hb : b.ofNode = some N.name) (hb' : b ≠ .updateStatus N.name) :
    s₀.Ahead flags s' N.name ∧ s'.controllers.rank flags.toFlags N.name < s.controllers.rank flags.toFlags N.name := by
  cases hstep with
  | @controllers _ c hstep hpod =>
    have hadvances := hstep.advances hb h.alone
    have hframe := h.frame.trans hadvances.frame
    refine ⟨⟨hadvances.alone, fun hidle => ?_, fun output hw => ?_, hframe, h.pods⟩, hadvances.rank⟩
    · -- a node that waited and does not wait any more is one whose pass has been started
      cases hstep.meets N.name with
      | aside hwork _ hrests _ =>
        by_contra hq
        obtain ⟨N₀, hN₀, hname⟩ := hN
        obtain ⟨N', hN', hface⟩ := hframe.sameFaces.mem_nodes hN₀
        have hrest : c.Rests N.name :=
          ⟨⟨N', hN', (Cluster.name_of_face hface).trans hname⟩, by rw [hframe.deleting]; exact hlive, hq⟩
        exact (hrests hrest).queue (h.waits (hwork.symm.trans hidle))
      | reads _ hwork | writes _ hwork => cases hwork.symm.trans hidle
      | ends => exact absurd rfl hb'
      | fails => cases hb
    · cases hstep.meets N.name with
      | aside hwork _ _ hsame => exact (hsame ..).trans (h.pending output (hwork.symm.trans hw))
      | reads _ hwork hpoint => exact absurd (Option.some.inj (hwork.symm.trans hw)) (hpoint output)
      | writes _ hwork hmap =>
        cases hwork.symm.trans hw
        exact (Function.update_self ..).trans hmap
      | ends => exact absurd rfl hb'
      | fails => cases hb

/-- The pass goes on until it comes to the Pod. -/
theorem Ahead.exists_run (h : s.Ahead flags s N.name) (hN : N ∈ s.controllers.cluster.nodes)
    (hlive : s.controllers.deleting N.name = false) :
    ∃ trace s' output, Run (Rollout.Step flags) s trace s' ∧
      (∀ x ∈ trace, x.2.1.ofNode = some N.name ∧ x.1.Noticed flags x.2.1) ∧ s.Ahead flags s' N.name ∧
      s'.controllers.nodeWork N.name = some (.written output) := by
  have hstep : ∀ (t : Rollout) a t', t.Step flags a t' →
      (∃ b, a = .controllers b ∧ b.ofNode = some N.name ∧ b ≠ .updateStatus N.name) → s.Ahead flags t N.name →
      s.Ahead flags t' N.name ∧ t'.controllers.rank flags.toFlags N.name < t.controllers.rank flags.toFlags N.name := by
    rintro t _ t' hs ⟨b, rfl, hb, hb'⟩ ht
    exact ht.step ⟨N, hN, rfl⟩ hlive hs hb hb'
  obtain ⟨trace, s', hrun, hown, hend⟩ := exists_run_to_end
    (P := fun _ (a : RolloutTransition) => ∃ b, a = .controllers b ∧ b.ofNode = some N.name ∧ b ≠ .updateStatus N.name)
    hstep h
  obtain ⟨hlast, hall⟩ := hrun.invariant h (fun t a t' hs ha ht => (hstep t a t' hs ha ht).1) hown
  obtain ⟨N', hN', hface⟩ := hlast.frame.sameFaces.mem_nodes hN
  have hname := Cluster.name_of_face hface
  have hactive : s'.controllers.Active N'.name := by
    rw [hname]
    cases hw : s'.controllers.nodeWork N.name with
    | none => exact .inl (hlast.waits hw)
    | some point => exact .inr (by rw [hw]; rintro ⟨⟩)
  obtain ⟨b, c, hs, hb, hwritten⟩ := Controllers.Alone.exists_step (hname ▸ hlast.alone) hN'
    (by rw [hname, hlast.frame.deleting]; exact hlive) hactive
  rw [hname] at hb hwritten
  have hupdate : b = .updateStatus N.name := by
    by_contra hb'
    refine hend _ _ (.controllers hs ?_) ⟨b, rfl, hb, hb'⟩
    rintro node rfl
    exact absurd (by rw [Option.some.inj hb]) hb'
  obtain ⟨output, hw⟩ := hwritten hupdate
  refine ⟨trace, s', output, hrun, fun x hx => ?_, hlast, hw⟩
  obtain ⟨b, hb, hof, _⟩ := hown x hx
  have hof' : x.2.1.ofNode = some N.name := by
    rw [hb]
    exact hof
  exact ⟨hof', ((hrun.step_of_mem x hx).noticed hof' (hall x hx).1.alone).1⟩

/-! ## The failure -/

theorem Inv.of_run {trace : RolloutTrace} {node : String} (h : s.Inv node) (hrun : Run (Rollout.Step flags) s trace s') :
    s'.Inv node :=
  (hrun.invariant (P := fun _ _ => True) h (fun _ _ _ hs _ hi => (hs.meets node).inv hi) fun _ _ => trivial).1

theorem noticed_of_pod {a : RolloutTransition} (ha : ∀ b, a ≠ .controllers b) : s.Noticed flags a :=
  fun b hb => absurd hb (ha b)

variable (flags) in
/-- The kubelet fills the volume, if it has not done so before. -/
theorem exists_mount {output : Output} (hp : s.pods N.name = some p)
    (hmap : s.controllers.configMap N.name = some output) :
    ∃ trace s', Run (Rollout.Step flags) s trace s' ∧
      (∀ x ∈ trace, x.2.1.ofNode = some N.name ∧ x.1.Noticed flags x.2.1) ∧
      s'.controllers = s.controllers ∧ s'.pods N.name = some { p with volume := some output } := by
  by_cases hvolume : p.volume = some output
  · refine ⟨[], s, .nil, fun _ hx => absurd hx List.not_mem_nil, rfl, ?_⟩
    rw [← hvolume]
    exact hp
  · refine ⟨_, _, .single (.mount hp hmap hvolume), fun x hx => ?_, rfl, Function.update_self ..⟩
    rw [List.mem_singleton.1 hx]
    exact ⟨rfl, noticed_of_pod (by rintro b ⟨⟩)⟩

variable (flags) in
/-- The pass fails at the Pod. Until it is run again, the config it has written gets into
the volume, and the container starts with it. -/
theorem exists_restart {output : Output} (hinv : s.Inv N.name)
    (hw : s.controllers.nodeWork N.name = some (.written output)) (hpending : s.pending N.name = some output)
    (hp : s.pods N.name = some p) (hrunning : p.running ≠ none) :
    ∃ trace s', Run (Rollout.Step flags) s trace s' ∧ (∀ x ∈ trace, x.1.Noticed flags x.2.1) ∧
      besides N.name trace = [.reconcilePod N.name (.error ""), .restart N.name] ∧
      s.controllers.Told s'.controllers N.name ∧ s'.controllers.nodeWork N.name = none ∧
      s'.pods N.name = some { p with volume := some output, running := some output } := by
  set s₁ := { s with pending := Function.update s.pending N.name none }.resume N.name (.error "")
  have hfails : s.Step flags (.reconcilePod N.name (.error "")) s₁ := by
    have hpod : (s.site flags (N.hosted "")).reconcilePod output.hash { getPod := some "" } =
        (s.site flags (N.hosted ""), .error "") := rfl
    have hkept : s.reconciled N.name (s.site flags (N.hosted "")).pod =
        { s with pending := Function.update s.pending N.name none } := if_pos rfl
    have hstep : s.Step flags (.reconcilePod N.name (.error "")) _ :=
      .reconcilePod (N := N.hosted "") hw hpending hpod
    rw [show (N.hosted "").name = N.name from rfl, hkept] at hstep
    exact hstep
  have hmap : s₁.controllers.configMap N.name = some output := (hinv.pending output hpending).2
  obtain ⟨trace, s₂, hmount, hown, hcontrollers, hp₂⟩ := exists_mount flags (s := s₁) hp hmap
  have hrestart : s₂.Step flags (.restart N.name) _ := .restart hp₂ rfl hrunning
  have htold : s.controllers.Told s₂.controllers N.name := by
    rw [hcontrollers]
    exact .done ..
  refine ⟨_, _, ((Run.single hfails).trans hmount).trans (.single hrestart), ?_, ?_,
    htold.trans (told_store ..), ?_, Function.update_self ..⟩
  · have hpod : ∀ (t : Rollout) a, (∀ b, a ≠ .controllers b) → t.Noticed flags a := fun _ _ => noticed_of_pod
    simp only [List.forall_mem_append, List.forall_mem_singleton]
    exact ⟨⟨hpod _ _ (by rintro b ⟨⟩), fun x hx => (hown x hx).2⟩, hpod _ _ (by rintro b ⟨⟩)⟩
  · rw [besides_append, besides_append, besides_eq_nil fun x hx => (hown x hx).1]
    simp [besides, RolloutTransition.ofNode]
  · exact (congrArg (fun c => c.nodeWork N.name) hcontrollers).trans (Function.update_self ..)

/-! ## Users come and go -/

omit [MapOrder] in
/-- The cluster is another one now. -/
def changed (s : Rollout) (c : Cluster) (ev : Event) : Rollout :=
  { s with
    controllers :=
      { s.controllers with
        policies :=
          { s.controllers.policies with
            world := { s.controllers.policies.world with cluster := c }
            queue := s.controllers.policies.queue ∪ policyRequests c ev }
        nodeQueue := s.controllers.nodeQueue ∪ nodeRequests c ev } }

section
variable {users : List User} {hnodup : (users.map User.name).Nodup} {ch : Change User} {node : String}

theorem step_changed (ha : s.controllers.cluster.Answers) (hch : ch.Applies User.name s.controllers.cluster.users users) :
    s.Step flags (.controllers (.change (.user ch)))
      (s.changed (s.controllers.cluster.withUsers users hnodup) (.user ch)) :=
  .controllers (.change (.change (.user hnodup hch) ⟨ha.list, ha.group⟩ fun _ _ => rfl) fun _ _ => ⟨rfl, rfl, rfl, rfl⟩)
    (by rintro _ ⟨⟩)

theorem noticed_changed : s.Noticed flags (.controllers (.change (.user ch))) := by
  rintro b ⟨⟩
  refine ⟨by rintro _ _ _ ⟨⟩, ?_, by rintro _ ⟨⟩⟩
  rintro ev ⟨⟩ N hN X generation (hX | hX) <;> cases hX

omit [MapOrder] in
/-- Users mean nothing to the policies. -/
theorem mem_queue_changed {c : Cluster} {policy : String} :
    policy ∈ (s.changed c (.user ch)).controllers.policies.queue ↔ policy ∈ s.controllers.policies.queue :=
  List.mem_union_iff.trans (or_iff_left List.not_mem_nil)

theorem alone_changed (h : s.controllers.Alone flags.toFlags node) (hidle : s.controllers.nodeWork node = none) :
    (s.changed (s.controllers.cluster.withUsers users hnodup) (.user ch)).controllers.Alone flags.toFlags node where
  answers := ⟨h.answers.list, h.answers.group⟩
  pass point hw := by cases hidle.symm.trans hw
  credential := h.credential

end

/-! ## Back to rest -/

/-- The Pod of the node is the one it was at first, and runs what it ran. -/
structure Stays (flags : OperatorFlags) (s₀ s : Rollout) (p₀ : PlacedPod) (node : String) : Prop where
  alone : s.controllers.Alone flags.toFlags node
  inv : s.Inv node
  frame : s₀.controllers.Frame s.controllers node
  pod : ∃ p, s.pods node = some p ∧ p.pod = p₀.pod ∧ p.running = p₀.running

theorem Stays.intro {node : String} (halone : s.controllers.Alone flags.toFlags node) (hinv : s.Inv node)
    (hp : s.pods node = some p) : s.Stays flags s p node :=
  ⟨halone, hinv, .refl, p, hp, rfl, rfl⟩

/-- The passes let a Pod with the hash of the config of the cluster run. -/
theorem Stays.step {a : RolloutTransition} {node : String} (h : s₀.Stays flags s p node)
    (hdel : p.pod.deleting = false) (hdate : s₀.UpToDate flags node p.pod) (hrunning : p.running ≠ none)
    (hstep : s.Step flags a s') (ha : a.ofNode = some node) :
    s₀.Stays flags s' p node ∧ s'.rank flags node < s.rank flags node := by
  obtain ⟨hframe, halone⟩ := hstep.frame ha h.alone
  obtain ⟨q, hq, hpod, hrun⟩ := h.pod
  have hwaits : s.Waits node := by
    intro q' hq' hdel'
    obtain rfl := Option.some.inj (hq.symm.trans hq')
    rw [hpod] at hdel'
    cases hdel.symm.trans hdel'
  refine ⟨⟨halone, (hstep.meets node).inv h.inv, h.frame.trans hframe.controllers, ?_⟩,
    hstep.rank_lt ha h.alone hwaits⟩
  cases hstep with
  | controllers => exact ⟨q, hq, hpod, hrun⟩
  | @reconcilePod N output calls site result hw _ hreconcile =>
    cases result with
    | error => cases ha
    | ok requeue =>
      cases ha
      cases deals_of_reconcilePod hreconcile with
      | keeps _ _ hsame =>
        rw [hsame]
        exact ⟨q, hq, hpod, hrun⟩
      | deletes hp hhash =>
        obtain rfl := Option.some.inj (hq.symm.trans hp)
        have hdate' : s.UpToDate flags N.name q.pod := by
          rw [hpod]
          exact hdate.of_sameFaces h.frame.sameFaces
        exact absurd ((upToDate_of_written h.alone hw).1 hdate') hhash
      | creates hp => cases hp.symm.trans hq
  | mount hp =>
    cases ha
    obtain rfl := Option.some.inj (hp.symm.trans hq)
    exact ⟨_, Function.update_self .., hpod, hrun⟩
  | start hp _ hnone =>
    cases ha
    obtain rfl := Option.some.inj (hp.symm.trans hq)
    exact absurd (hrun.symm.trans hnone) hrunning
  | removed hp hdel' =>
    cases ha
    obtain rfl := Option.some.inj (hp.symm.trans hq)
    rw [hpod] at hdel'
    cases hdel.symm.trans hdel'
  | restart | terminate => cases ha

theorem Stays.exists_run {node : String} (h : s.Stays flags s p node) (hdel : p.pod.deleting = false)
    (hdate : s.UpToDate flags node p.pod) (hrunning : p.running ≠ none) (hN : N ∈ s.controllers.cluster.nodes)
    (hname : N.name = node) (hlive : s.controllers.deleting node = false) :
    ∃ trace s' N', Run (Rollout.Step flags) s trace s' ∧
      (∀ x ∈ trace, x.2.1.ofNode = some node ∧ x.1.Noticed flags x.2.1) ∧ s.Stays flags s' p node ∧
      N' ∈ s'.controllers.cluster.nodes ∧ Cluster.face N' = Cluster.face N ∧ ¬ s'.controllers.Active node := by
  have hstep : ∀ (t : Rollout) a t', t.Step flags a t' → a.ofNode = some node → s.Stays flags t p node →
      s.Stays flags t' p node ∧ t'.rank flags node < t.rank flags node :=
    fun t a t' hs ha ht => ht.step hdel hdate hrunning hs ha
  obtain ⟨trace, s', hrun, hown, hend⟩ := exists_run_to_end
    (P := fun _ (a : RolloutTransition) => a.ofNode = some node) hstep h
  obtain ⟨hlast, hall⟩ := hrun.invariant h (fun t a t' hs ha ht => (hstep t a t' hs ha ht).1) hown
  obtain ⟨N', hN', hface⟩ := hlast.frame.sameFaces.mem_nodes hN
  refine ⟨trace, s', N', hrun, fun x hx => ⟨hown x hx, ?_⟩, hlast, hN', hface, fun hactive => ?_⟩
  · exact ((hrun.step_of_mem x hx).noticed (hown x hx) (hall x hx).1.alone).1
  · obtain rfl : N'.name = node := (Cluster.name_of_face hface).trans hname
    obtain ⟨a, s'', hs, ha⟩ := exists_step hlast.alone hlast.inv hN'
      (by rw [hlast.frame.deleting]; exact hlive) hactive
    exact hend a s'' hs ha

/-- The Pod of the node runs what is computed for the cluster `c`; the policies and
what is being deleted are as they were. -/
structure Misled (flags : OperatorFlags) (s s' : Rollout) (N : SingBoxNode) (c : Cluster) (p : PlacedPod) : Prop where
  sameFaces : c.SameFaces s'.controllers.cluster
  alone : s'.controllers.Alone flags.toFlags N.name
  inv : s'.Inv N.name
  idle : s'.controllers.nodeWork N.name = none
  deleting : s'.controllers.deleting = s.controllers.deleting
  policyQueue : ∀ policy, policy ∈ s'.controllers.policies.queue ↔ policy ∈ s.controllers.policies.queue
  policyWork : s'.controllers.policies.work = s.controllers.policies.work
  pods : s'.pods N.name = some { p with volume := some (compute (c.view flags.toFlags N)),
                                        running := some (compute (c.view flags.toFlags N)) }

/-- The users change, the pass for it fails when it comes to the Pod, and the container starts again. -/
theorem Reached.exists_misled (h : s.Reached flags) (hrest : s.controllers.AtRest N) (hi : N.hasRole .inbound = true)
    (hcred : s.controllers.cluster.HasCredential N) (hp : s.pods N.name = some p) (hrunning : p.running ≠ none)
    {users : List User} (hnodup : (users.map User.name).Nodup) {ch : Change User}
    (hch : ch.Applies User.name s.controllers.cluster.users users) :
    ∃ (trace : RolloutTrace) (s' : Rollout), Run (Rollout.Step flags) s trace s' ∧
      (∀ x ∈ trace, x.1.Noticed flags x.2.1) ∧
      besides N.name trace = [.controllers (.change (.user ch)), .reconcilePod N.name (.error ""), .restart N.name] ∧
      s.Misled flags s' N (s.controllers.cluster.withUsers users hnodup) p := by
  have ha := h.controllers.inv.answers
  have halone : s.controllers.Alone flags.toFlags N.name := by
    refine ⟨ha, fun point hw => ?_, fun M hM hname _ => ?_⟩
    · cases hrest.work.symm.trans hw
    · rw [Cluster.node_unique hM hrest.mem hname]
      exact hcred
  set s₁ := s.changed (s.controllers.cluster.withUsers users hnodup) (.user ch)
  have hstep₁ : s.Step flags _ s₁ := step_changed ha hch
  have halone₁ : s₁.controllers.Alone flags.toFlags N.name := alone_changed halone hrest.work
  have hahead : s₁.Ahead flags s₁ N.name := by
    refine ⟨halone₁, fun _ => ?_, fun output hw => ?_, .refl, rfl⟩
    · exact List.mem_union_iff.2 (.inr (halone₁.answers.mem_nodeRequests_user hrest.mem hi ch))
    · cases hrest.work.symm.trans hw
  obtain ⟨trace₂, s₂, output, hrun₂, hown₂, hahead₂, hw₂⟩ := hahead.exists_run hrest.mem hrest.live
  have hinv₂ : s₂.Inv N.name := ((h.inv N.name).of_run (.single hstep₁)).of_run hrun₂
  obtain rfl : output = compute ((s.controllers.cluster.withUsers users hnodup).view flags.toFlags N) := by
    obtain ⟨N₂, hN₂, hface₂⟩ := hahead₂.frame.sameFaces.mem_nodes hrest.mem
    have hname₂ := Cluster.name_of_face hface₂
    have halone₂ : s₂.controllers.Alone flags.toFlags N₂.name := hname₂ ▸ hahead₂.alone
    exact (halone₂.written_eq (hname₂ ▸ hw₂) hN₂).trans (hahead₂.frame.sameFaces.compute_eq hface₂ flags.toFlags)
  obtain ⟨trace₃, s₃, hrun₃, hnoticed₃, hbesides₃, htold₃, hidle₃, hp₃⟩ := exists_restart flags hinv₂ hw₂
    (hahead₂.pending _ hw₂) (by rw [hahead₂.pods]; exact hp) hrunning
  refine ⟨_, s₃, ((Run.single hstep₁).trans hrun₂).trans hrun₃, ?_, ?_,
    ⟨hahead₂.frame.sameFaces.trans htold₃.frame.sameFaces, htold₃.alone hahead₂.alone, hinv₂.of_run hrun₃, hidle₃,
      htold₃.deleting.trans hahead₂.frame.deleting, fun policy => ?_, ?_, hp₃⟩⟩
  · simp only [List.forall_mem_append, List.forall_mem_singleton]
    exact ⟨⟨noticed_changed, fun x hx => (hown₂ x hx).2⟩, hnoticed₃⟩
  · rw [besides_append, besides_append, hbesides₃, besides_eq_nil fun x hx => (hown₂ x hx).1]
    rfl
  · rw [htold₃.policies, hahead₂.frame.policyQueue]
    exact mem_queue_changed
  · rw [htold₃.policies]
    exact hahead₂.frame.policyWork

/-- A change of the users is taken back after the pass for it has failed: the next
passes find the hash the Pod has had all along. -/
theorem Reached.interrupted (h : s.Reached flags) (hrest : s.controllers.AtRest N) (hi : N.hasRole .inbound = true)
    (hcred : s.controllers.cluster.HasCredential N) (hp : s.pods N.name = some p) (hdel : p.pod.deleting = false)
    (hrunning : p.running ≠ none) {users : List User} (hnodup : (users.map User.name).Nodup) {ch ch' : Change User}
    (hch : ch.Applies User.name s.controllers.cluster.users users)
    (hback : ch'.Applies User.name users s.controllers.cluster.users) :
    ∃ (trace : RolloutTrace) (s' : Rollout) (N' : SingBoxNode) (p' : PlacedPod),
      Run (Rollout.Step flags) s trace s' ∧ (∀ x ∈ trace, x.1.Noticed flags x.2.1) ∧
      besides N.name trace = [.controllers (.change (.user ch)), .reconcilePod N.name (.error ""), .restart N.name,
        .controllers (.change (.user ch'))] ∧
      s.controllers.cluster.SameFaces s'.controllers.cluster ∧ Cluster.face N' = Cluster.face N ∧
      s'.controllers.AtRest N' ∧ s'.pods N.name = some p' ∧ p'.pod = p.pod ∧
      p'.running = some (compute ((s.controllers.cluster.withUsers users hnodup).view flags.toFlags N)) := by
  obtain ⟨trace₁, s₁, hrun₁, hnoticed₁, hbesides₁, hmisled⟩ := h.exists_misled hrest hi hcred hp hrunning hnodup hch
  set s₂ := s₁.changed (s₁.controllers.cluster.withUsers s.controllers.cluster.users s.controllers.cluster.users_nodup)
    (.user ch')
  have hstep₂ : s₁.Step flags _ s₂ :=
    step_changed hmisled.alone.answers (by rw [hmisled.sameFaces.users]; exact hback)
  have hfaces₂ : s.controllers.cluster.SameFaces s₂.controllers.cluster := hmisled.sameFaces.withUsers
  obtain ⟨N₂, hN₂, hface₂⟩ := hfaces₂.mem_nodes hrest.mem
  have hlive₂ : s₂.controllers.deleting N.name = false := (congrFun hmisled.deleting _).trans hrest.live
  obtain ⟨q, hq, hdate⟩ := h.upToDate hrest
  obtain rfl := Option.some.inj (hp.symm.trans hq)
  have hstays := Stays.intro (alone_changed hmisled.alone hmisled.idle) (hmisled.inv.of_run (.single hstep₂))
    hmisled.pods
  obtain ⟨trace₃, s', N', hrun₃, hown₃, hstays₃, hN', hface', hactive⟩ :=
    hstays.exists_run hdel (hdate.of_sameFaces hfaces₂) (by rintro ⟨⟩) hN₂ (Cluster.name_of_face hface₂) hlive₂
  have hface : Cluster.face N' = Cluster.face N := hface'.trans hface₂
  have hname : N'.name = N.name := Cluster.name_of_face hface
  have hfaces : s.controllers.cluster.SameFaces s'.controllers.cluster := hfaces₂.trans hstays₃.frame.sameFaces
  rw [Controllers.Active, not_or, not_not, ← hname] at hactive
  obtain ⟨p', hp', hpod, hrunning'⟩ := hstays₃.pod
  refine ⟨_, s', N', p', (hrun₁.trans (.single hstep₂)).trans hrun₃, ?_, ?_, hfaces, hface,
    ⟨hN', ?_, hactive.1, hactive.2, fun policy hmem hsel => ?_⟩, hp', hpod, hrunning'⟩
  · simp only [List.forall_mem_append, List.forall_mem_singleton]
    exact ⟨⟨hnoticed₁, noticed_changed⟩, fun x hx => (hown₃ x hx).2⟩
  · rw [besides_append, besides_append, hbesides₁, besides_eq_nil fun x hx => (hown₃ x hx).1]
    rfl
  · rw [hname, hstays₃.frame.deleting]
    exact hlive₂
  · -- the policies that select the node have been at rest all the time
    rw [hfaces.policies] at hmem
    obtain ⟨hqueue, hwork⟩ := hrest.policies policy hmem ((Cluster.selects_of_face hface).1 hsel)
    rw [hstays₃.frame.policyQueue, mem_queue_changed, hmisled.policyQueue, hstays₃.frame.policyWork]
    exact ⟨hqueue, (congrFun hmisled.policyWork _).trans hwork⟩

end Rollout

end SingboxOperator
