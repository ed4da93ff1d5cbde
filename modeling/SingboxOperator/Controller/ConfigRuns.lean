import SingboxOperator.Controller.NodePasses
/-!
# What a node can rely on

In every interleaving of changes, reads and writes a node has the ConfigMap of
the cluster as it is, and a status that says so, when it neither waits nor is
being reconciled, and no policy that selects it does. Three things have to be
excluded that are known to get lost: a touch within the second of the last one, a
node that takes or gives up the name of an ExternalOutbound of another region,
and a Secret that changes without a watch. Of the Secrets only those of
ExternalOutbounds are watched; a node whose config depends on another one is
on its own, and so it is when the pass for an outbound node creates its relay
credential.
-/
open SingboxOperator.Lib

namespace SingboxOperator

/-! ## What gets lost -/

/-- The Secrets a transition leaves behind, if it writes one. -/
def ControllersTransition.secretWrite (c : Cluster) : ControllersTransition → Option Cluster
  | .changeSecret ns secret result => some (c.withSecret ns secret result)
  | .createCredential node data => some (c.withSecret c.ns (secretName node) (.ok data))
  | _ => none

/-- The nodes that are told of the Secret a transition writes. -/
def ControllersTransition.secretRequests [Library] (c : Cluster) : ControllersTransition → List String
  | .changeSecret ns secret _ => externalCredentialSecretMapper c ns secret
  | .createCredential node _ => externalCredentialSecretMapper c c.ns (secretName node)
  | _ => []

section
variable [Library] [MapOrder] (flags : Flags)

/-- With other Secrets the node would have the same config. If a pass for it is
under way, what matters is that the Secrets it has read hold the same. -/
def Controllers.Unaffected (s : Controllers) (c : Cluster) (N : SingBoxNode) : Prop :=
  match s.nodeWork N.name with
  | some (.fetched _) | some (.checked _) | some .torn => True
  | some (.reading _ _ _ secrets) => secrets.Current c
  | none | some (.computed _) | some (.written _) => c.output flags N = s.cluster.output flags N

/-- A run of a policy touches only nodes that wait already, or whose annotation shows
another second; no node appears or disappears that an inbound node of another
region is not told of; and no Secret is written behind the back of a node. -/
structure Noticed (s : Controllers) (a : ControllersTransition) : Prop where
  touch : ∀ policy node now, a = .triggerNodeReconcile policy node now →
    node ∈ s.nodeQueue ∨ s.reconcileTrigger node ≠ some (second now)
  change : ∀ ev, a = .change ev → ∀ N ∈ s.cluster.nodes, s.cluster.Announced ev N
  secret : ∀ c, a.secretWrite s.cluster = some c → ∀ N ∈ s.cluster.nodes,
    N.name ∈ s.nodeQueue ∨ N.name ∈ a.secretRequests s.cluster ∨ s.Unaffected flags c N

end

/-! ## What a policy is going to do -/

section
variable [Library]

/-- The run of a policy is going to touch the node. -/
def PolicyPoint.WillTouch (N : SingBoxNode) : PolicyPoint → Prop
  | .policyRead p => p.Selects N
  | .nodesRead p nodes => N.name ∈ ingressNames p nodes
  | .decided run => N.name ∈ run.touched
  | .touching remaining => N.name ∈ remaining

namespace PolicyController
variable {s s' : PolicyController} {N : SingBoxNode}

/-- The policy waits, or its run is going to touch the node. -/
def WillTouch (s : PolicyController) (N : SingBoxNode) (policy : String) : Prop :=
  policy ∈ s.queue ∨ ∃ r, s.work policy = some r ∧ r.WillTouch N

/-- A policy that selects the node is going to touch it. -/
def Due (s : PolicyController) (N : SingBoxNode) : Prop :=
  ∃ p ∈ s.world.cluster.policies, p.Selects N ∧ s.WillTouch N p.name

/-- Who is touched is not a matter of the status. -/
theorem Due.of_face {N' : SingBoxNode} (h : s.Due N) (hface : Cluster.face N' = Cluster.face N)
    (hpolicies : s'.world.cluster.policies = s.world.cluster.policies) (hqueue : s.queue ⊆ s'.queue)
    (hwork : s'.work = s.work) : s'.Due N' := by
  obtain ⟨p, hp, hsel, ht⟩ := h
  refine ⟨p, hpolicies ▸ hp, (Cluster.selects_of_face hface).2 hsel, ht.imp (fun hq => hqueue hq) ?_⟩
  rintro ⟨r, hr, htouch⟩
  refine ⟨r, hwork ▸ hr, ?_⟩
  cases r with
  | policyRead p => exact (Cluster.selects_of_face hface).2 htouch
  | nodesRead | decided | touching =>
    simp only [PolicyPoint.WillTouch, Cluster.name_of_face hface] at htouch ⊢
    exact htouch

theorem WillTouch.of_work_eq {policy : String} (h : s.WillTouch N policy)
    (hqueue : policy ∈ s.queue → policy ∈ s'.queue) (hwork : s'.work policy = s.work policy) : s'.WillTouch N policy :=
  h.imp hqueue (by rw [hwork]; exact id)

/-- The run of one policy gets on, and those of the others are where they were. -/
theorem WillTouch.read {policy policy' : String} {r r' : PolicyPoint} (h : s.WillTouch N policy)
    (hqueue : s.queue ⊆ s'.queue) (hw : s.work policy' = some r)
    (hwork : s'.work = Function.update s.work policy' (some r')) (hr : r.WillTouch N → r'.WillTouch N) :
    s'.WillTouch N policy := by
  by_cases hname : policy = policy'
  · subst hname
    refine h.imp (fun hq => hqueue hq) ?_
    rintro ⟨r₀, hr₀, ht⟩
    obtain rfl := Option.some.inj (hr₀.symm.trans hw)
    exact ⟨r', by rw [hwork, Function.update_self], hr ht⟩
  · exact h.of_work_eq (fun hq => hqueue hq) (by rw [hwork, Function.update_of_ne hname])

/-- Until a policy has touched the node, it is going to. -/
theorem Step.willTouch {a : PolicyTransition} (h : s.Step a s') (hsilent : a.Silent) (hN : N ∈ s.world.cluster.nodes)
    {p : EgressPolicy} (hp : p ∈ s.world.cluster.policies) (hsel : p.Selects N) (ht : s.WillTouch N p.name) :
    s'.WillTouch N p.name := by
  cases h with
  | change => cases hsilent
  | triggerNodeReconcile => cases hsilent
  | resync => exact ht.of_work_eq (fun hq => List.mem_union_iff.2 (.inl hq)) rfl
  | @gone policy hidle hq hgone =>
    exact ht.of_work_eq (fun hq => List.mem_filter.2 ⟨hq, by simpa using hgone p hp⟩) rfl
  | @get p' hidle hq hp' =>
    by_cases hname : p.name = p'.name
    · obtain rfl : p = p' := List.inj_on_of_nodup_map s.world.cluster.policies_nodup hp hp' hname
      exact .inr ⟨_, Function.update_self .., hsel⟩
    · exact ht.of_work_eq (fun hq => List.mem_filter.2 ⟨hq, by simpa using hname⟩) (Function.update_of_ne hname ..)
  | listNodes hw hnodes =>
    refine ht.read (List.Subset.refl _) hw rfl fun hsel' => ?_
    exact mem_ingressNames.2 ⟨N, hnodes.mem_iff.2 hN, hsel'.1, hsel'.2, rfl⟩
  | listExternalOutbounds hw _ => exact ht.read (List.Subset.refl _) hw rfl id
  | updateStatus hw _ => exact ht.read (fun _ hq => List.mem_union_iff.2 (.inl hq)) hw rfl id
  | @finish policy hw =>
    by_cases hname : p.name = policy
    · subst hname
      refine ht.imp id ?_
      rintro ⟨r, hr, htouch⟩
      obtain rfl := Option.some.inj (hr.symm.trans hw)
      cases htouch
    · exact ht.of_work_eq id (Function.update_of_ne hname ..)
  | @fail policy r hw =>
    by_cases hname : p.name = policy
    · exact .inl (List.mem_union_iff.2 (.inr (List.mem_singleton.2 hname)))
    · exact ht.of_work_eq (fun hq => List.mem_union_iff.2 (.inl hq)) (Function.update_of_ne hname ..)

end PolicyController

/-- A node that is there before the change is there afterwards, or is enqueued. -/
theorem Cluster.Step.mem_nodes_new {c c' : Cluster} {ev : Event} {N : SingBoxNode} (h : c.Step ev c')
    (hN : N ∈ c.nodes) : N ∈ c'.nodes ∨ N.name ∈ nodeRequests c' ev := by
  cases h with
  | singBoxNode hnodup h hspec =>
    rcases h.mem_new hN with hobj | hnew
    · exact .inr (List.mem_cons.2 (.inl (h.key_eq hobj)))
    · exact .inl hnew
  | externalOutbound | egressPolicy | user | userGroup => exact .inl hN

end

/-! ## What is right for a node -/

/-- What the passes of `SingBoxNodeReconciler` read and write. -/
structure ConfigWorld where
  cluster : Cluster
  configMap : String → Option Output
  /-- `deletionTimestamp` is set, and the finalizer not yet removed. -/
  deleting : String → Bool
  record : String → NodeRecord

/-- The record says what `updateStatus` has it say. -/
structure NodeRecord.Reports (r : NodeRecord) (configHash : String) : Prop where
  conditions : r.toStatusRecord.Says [reconciledCondition]
  phase : r.phase = "Running"
  configHash : r.configHash = configHash

theorem NodeRecord.reports_report (r : NodeRecord) (now : Int) (configHash : String) :
    (r.report now configHash).Reports configHash :=
  ⟨r.toStatusRecord.says_set now (by simp), rfl, rfl⟩

section
variable [Library] [MapOrder] (flags : Flags)

namespace ConfigWorld

omit [Library] [MapOrder] in
/-- The nodes that are not being deleted. -/
def live (w : ConfigWorld) : List SingBoxNode := w.cluster.nodes.filter fun N => !w.deleting N.name

/-- This is the config of the cluster as it is, and the ConfigMap of the node. -/
structure Configured (w : ConfigWorld) (N : SingBoxNode) (output : Output) : Prop where
  computed : w.cluster.output flags N = .ok output
  configMap : w.configMap N.name = some output

/-- And the status of the node says so. -/
structure Current (w : ConfigWorld) (N : SingBoxNode) : Prop where
  configured : ∃ output, w.Configured flags N output ∧ (w.record N.name).Reports output.hash
  endpoints : N.status.entryEndpoints = entryEndpoints N
  conditions : N.status.conditions = (w.record N.name).shown

/-- What a pass for the node has read will give the config of the cluster as it is. -/
def Agrees (w : ConfigWorld) (N : SingBoxNode) : NodePoint → Prop
  | .fetched N₀ | .checked N₀ => Cluster.face N₀ = Cluster.face N
  | .reading N₀ stage read secrets => Stage.Agrees flags w.cluster N N₀ stage read secrets
  | .torn => False
  | .computed output => w.cluster.output flags N = .ok output
  | .written output => w.Configured flags N output

end ConfigWorld

def configAim : Aim ConfigWorld String NodePoint :=
  Aim.forEach ConfigWorld.live SingBoxNode.name (ConfigWorld.Current flags) (ConfigWorld.Agrees flags)

variable {flags}

namespace ConfigWorld
variable {w w' : ConfigWorld} {N N' : SingBoxNode}

omit [Library] [MapOrder] in
theorem mem_live : N ∈ w.live ↔ N ∈ w.cluster.nodes ∧ w.deleting N.name = false := by
  simp [live]

theorem Configured.of_eq {output : Output} (h : w.Configured flags N output)
    (houtput : w'.cluster.output flags N' = w.cluster.output flags N)
    (hmap : w'.configMap N'.name = w.configMap N.name) : w'.Configured flags N' output :=
  ⟨houtput.trans h.computed, hmap.trans h.configMap⟩

theorem Current.of_eq (h : w.Current flags N) (houtput : w'.cluster.output flags N = w.cluster.output flags N)
    (hmap : w'.configMap N.name = w.configMap N.name) (hrecord : w'.record N.name = w.record N.name) :
    w'.Current flags N := by
  obtain ⟨output, hconfigured, hreports⟩ := h.configured
  exact ⟨⟨output, hconfigured.of_eq houtput hmap, hrecord ▸ hreports⟩, h.endpoints, hrecord ▸ h.conditions⟩

/-- A node that is not disturbed keeps its ConfigMap and its pass. -/
theorem keeps_of_step {ev : Event} {name : String} (h : w.cluster.Step ev w'.cluster)
    (ha : w.cluster.Answers) (ha' : w'.cluster.Answers) (hconfigMap : w'.configMap = w.configMap)
    (hnode : (∀ ch g, ev = .singBoxNode ch g → ch.object.name ≠ name) →
      w'.deleting name = w.deleting name ∧ w'.record name = w.record name)
    (hannounced : ∀ N ∈ w.cluster.nodes, w.cluster.Announced ev N)
    (hquiet : ∀ N ∈ w'.cluster.nodes, N.name = name → w'.cluster.Undisturbed ev N) :
    (configAim flags).Keeps w w' name := by
  refine Aim.keeps_forEach fun N hN hname => ?_
  subst hname
  obtain ⟨hN, hlive⟩ := mem_live.1 hN
  have hundisturbed := hquiet N hN rfl
  have hold : N ∈ w.cluster.nodes := (h.mem_nodes hN).resolve_right hundisturbed.node
  have hconfig := (h.computeConfig_eq flags ha' hN hundisturbed (hannounced N hold)).2
  have houtput : w'.cluster.output flags N = w.cluster.output flags N := (ha.output_eq_iff ha').2 hconfig
  have hmap : w'.configMap N.name = w.configMap N.name := by rw [hconfigMap]
  obtain ⟨hdeleting, hrecord⟩ : w'.deleting N.name = w.deleting N.name ∧ w'.record N.name = w.record N.name := by
    refine hnode fun ch g hev hobj => hundisturbed.node ?_
    subst hev
    exact List.mem_cons.2 (.inl hobj.symm)
  refine ⟨N, mem_live.2 ⟨hold, hdeleting ▸ hlive⟩, rfl, fun hcur => hcur.of_eq houtput hmap hrecord, fun r hr => ?_⟩
  cases r with
  | fetched | checked | torn => exact hr
  | reading N₀ stage read secrets => exact Stage.Agrees.step hr h ha' hN hundisturbed (hannounced N hold)
  | computed output => exact houtput.trans hr
  | written output => exact Configured.of_eq hr houtput hmap

/-- What a pass agrees with is not a matter of the status of nodes. -/
theorem Agrees.of_sameFaces {r : NodePoint} (h : w.Agrees flags N r) (hfaces : w.cluster.SameFaces w'.cluster)
    (ha : w.cluster.Answers) (hface : Cluster.face N' = Cluster.face N)
    (hmap : w'.configMap N'.name = w.configMap N.name) : w'.Agrees flags N' r := by
  have houtput : w'.cluster.output flags N' = w.cluster.output flags N := by
    rw [(hfaces.answers ha).output_eq, ha.output_eq, hfaces.compute_eq hface]
  cases r with
  | fetched N₀ => exact Eq.trans h hface.symm
  | checked N₀ => exact Eq.trans h hface.symm
  | reading N₀ stage read secrets => exact Stage.Agrees.of_sameFaces h hfaces hface
  | torn => exact h
  | computed output => exact houtput.trans h
  | written output => exact Configured.of_eq h houtput hmap

end ConfigWorld

namespace Controllers
variable {s s' : Controllers}

omit [Library] [MapOrder] in
def world (s : Controllers) : ConfigWorld := ⟨s.cluster, s.configMap, s.deleting, s.record⟩

open Classical in
omit [MapOrder] in
/-- The controller of nodes, with the nodes counted as waiting that a policy is going to touch. -/
noncomputable def tracking (s : Controllers) : Controller ConfigWorld String NodePoint where
  world := s.world
  queue := s.nodeQueue ++ (s.cluster.nodes.filter fun N => s.policies.Due N).map SingBoxNode.name
  work := s.nodeWork

omit [MapOrder] in
theorem mem_tracking_queue {name : String} :
    name ∈ s.tracking.queue ↔ name ∈ s.nodeQueue ∨ ∃ N ∈ s.cluster.nodes, s.policies.Due N ∧ N.name = name := by
  simp [tracking, and_assoc]

/-- What always holds. -/
structure Inv (flags : Flags) (s : Controllers) : Prop where
  answers : s.cluster.Answers
  policies : s.policies.Tracked policyAim
  nodes : s.tracking.Tracked (configAim flags)

/-- An event of the cluster: it is enough that whoever is disturbed waits. -/
theorem Inv.event (h : s.Inv flags) {ev : Event} (hstep : s.cluster.Step ev s'.cluster) (ha : s'.cluster.Answers)
    (hwork : s'.nodeWork = s.nodeWork) (hconfigMap : s'.configMap = s.configMap)
    (hnode : ∀ name, (∀ ch g, ev = .singBoxNode ch g → ch.object.name ≠ name) →
      s'.deleting name = s.deleting name ∧ s'.record name = s.record name)
    (hannounced : ∀ N ∈ s.cluster.nodes, s.cluster.Announced ev N)
    (hqueue : s.tracking.queue ⊆ s'.tracking.queue)
    (hdisturbed : ∀ N ∈ s'.cluster.nodes, ¬ s'.cluster.Undisturbed ev N → N.name ∈ s'.tracking.queue) :
    s'.tracking.Tracked (configAim flags) := by
  have hkeeps : ∀ name, name ∉ s'.tracking.queue → (configAim flags).Keeps s.world s'.world name := by
    intro name hname
    refine ConfigWorld.keeps_of_step (w := s.world) hstep h.answers ha hconfigMap (hnode name)
      hannounced fun N hN hN' => ?_
    by_contra hnot
    exact hname (hN' ▸ hdisturbed N hN hnot)
  refine ((Controller.Step.change hkeeps).tracked h.nodes).mono rfl hwork fun name hname => ?_
  rcases List.mem_union_iff.1 hname with hmem | hmem
  · exact hqueue hmem
  · exact hmem

/-! ## The transitions of others -/

theorem Inv.change (h : s.Inv flags) {ev : Event} {policies : PolicyController} {trigger : String → Option Nat}
    {deleting : String → Bool} {record : String → NodeRecord} {tlsServerName : String → String}
    (hstep : s.policies.Step (.change ev) policies)
    (hnode : ∀ name, (∀ ch g, ev = .singBoxNode ch g → ch.object.name ≠ name) →
      deleting name = s.deleting name ∧ record name = s.record name)
    (hannounced : ∀ N ∈ s.cluster.nodes, s.cluster.Announced ev N) :
    { s with
      policies
      deleting
      record
      tlsServerName
      reconcileTrigger := trigger
      nodeQueue := s.nodeQueue ∪ nodeRequests policies.world.cluster ev }.Inv flags := by
  have hpolicies := hstep.towards.tracked h.policies
  cases hstep with
  | @change ev c' _ hchange ha hrecord =>
    refine ⟨ha, hpolicies, h.event hchange ha rfl rfl hnode hannounced (fun name hname => ?_) fun N hN hnot => ?_⟩
    · rw [mem_tracking_queue] at hname ⊢
      rcases hname with hq | ⟨N, hN, ⟨p, hp, hsel, ht⟩, rfl⟩
      · exact .inl (List.mem_union_iff.2 (.inl hq))
      · -- the node and the policy are still there, or the node has been enqueued
        rcases hchange.mem_nodes_new hN with hN' | hreq
        · rcases hchange.selects ha hN' hp hsel with ⟨q, hq, hname, hqsel⟩ | hreq
          · refine .inr ⟨N, hN', ⟨q, hq, hqsel, ?_⟩, rfl⟩
            rw [hname]
            exact ht.of_work_eq (fun hq => List.mem_union_iff.2 (.inl hq)) rfl
          · exact .inl (List.mem_union_iff.2 (.inr hreq))
        · exact .inl (List.mem_union_iff.2 (.inr hreq))
    · rw [mem_tracking_queue]
      by_cases hreq : N.name ∈ nodeRequests c' ev
      · exact .inl (List.mem_union_iff.2 (.inr hreq))
      · have hpol : ∃ p ∈ c'.policies, p.name ∈ policyRequests c' ev ∧ p.Selects N := by
          by_contra hnone
          exact hnot ⟨hreq, fun p hp hmem hsel => hnone ⟨p, hp, hmem, hsel⟩⟩
        obtain ⟨p, hp, hmem, hsel⟩ := hpol
        exact .inr ⟨N, hN, ⟨p, hp, hsel, .inl (List.mem_union_iff.2 (.inr hmem))⟩, rfl⟩

/-- A run that has decided touches every node its policy selects, unless the policy waits again. -/
theorem Inv.willTouch_of_decided (h : s.Inv flags) {run : PolicyRun} {p : EgressPolicy}
    (hw : s.policies.work p.name = some (.decided run)) (hp : p ∈ s.cluster.policies) {N : SingBoxNode}
    (hN : N ∈ s.cluster.nodes) (hsel : p.Selects N) : p.name ∈ s.policies.queue ∨ N.name ∈ run.touched := by
  by_cases hq : p.name ∈ s.policies.queue
  · exact .inl hq
  · have hrun : run = s.policies.world.found p := (h.policies p.name).onCourse hw hq p hp rfl
    subst hrun
    exact .inr ((mem_ingressNames_self hN).2 hsel)

/-- The status of a policy matters to the nodes it selects, and those are touched next. -/
theorem Inv.updateStatus (h : s.Inv flags) {policies : PolicyController} {policy : String} {now : Int}
    (hstep : s.policies.Step (.updateStatus policy now) policies) : { s with policies }.Inv flags := by
  have hpolicies := hstep.towards.tracked h.policies
  have htouch := fun N hN p hp hsel ht => hstep.willTouch (N := N) trivial hN (p := p) hp hsel ht
  cases hstep with
  | @updateStatus run p now hw hp =>
    have hchange := Operator.step_withStatus hp run.status
    have ha : (s.cluster.withStatus fun q => if q.name = p.name then run.status else q.status).Answers :=
      ⟨h.answers.list, h.answers.group⟩
    have hmem : ∀ q ∈ s.cluster.policies, q.restatus (fun q => if q.name = p.name then run.status else q.status) ∈
        (s.cluster.withStatus fun q => if q.name = p.name then run.status else q.status).policies :=
      fun q hq => List.mem_map_of_mem hq
    refine ⟨ha, hpolicies, h.event hchange ha rfl rfl (fun _ _ => ⟨rfl, rfl⟩)
      (fun _ _ _ _ hev => by simp at hev) (fun name hname => ?_) fun N hN hnot => ?_⟩
    · rw [mem_tracking_queue] at hname ⊢
      rcases hname with hq | ⟨N, hN, ⟨q, hq, hsel, ht⟩, rfl⟩
      · exact .inl hq
      · exact .inr ⟨N, hN, ⟨_, hmem q hq, hsel, htouch N hN q hq hsel ht⟩, rfl⟩
    · -- no node is enqueued, and no other policy
      rw [mem_tracking_queue]
      have hsel : p.Selects N := by
        by_contra hno
        refine hnot ⟨List.not_mem_nil, fun q hq hreq hsel => hno ?_⟩
        obtain ⟨q₀, hq₀, rfl⟩ := List.mem_map.1 hq
        obtain rfl : q₀ = p := List.inj_on_of_nodup_map s.cluster.policies_nodup hq₀ hp (List.mem_singleton.1 hreq)
        exact hsel
      refine .inr ⟨N, hN, ⟨_, hmem p hp, hsel, ?_⟩, rfl⟩
      rcases h.willTouch_of_decided hw hp hN hsel with hq | htouched
      · exact .inl (List.mem_union_iff.2 (.inl hq))
      · exact .inr ⟨_, Function.update_self .., htouched⟩

/-- The reads of a policy change nothing, and bring the touches nearer. -/
theorem Inv.of_due (h : s.Inv flags) (hpolicies : s'.policies.Tracked policyAim) (hworld : s'.world = s.world)
    (hwork : s'.nodeWork = s.nodeWork) (hqueue : s.nodeQueue ⊆ s'.nodeQueue)
    (hdue : ∀ N ∈ s.cluster.nodes, s.policies.Due N → s'.policies.Due N ∨ N.name ∈ s'.nodeQueue) : s'.Inv flags := by
  have hcluster : s'.cluster = s.cluster := congrArg ConfigWorld.cluster hworld
  refine ⟨hcluster ▸ h.answers, hpolicies, h.nodes.mono hworld hwork fun name hname => ?_⟩
  rw [mem_tracking_queue] at hname ⊢
  rcases hname with hq | ⟨N, hN, hN', rfl⟩
  · exact .inl (hqueue hq)
  · rcases hdue N hN hN' with hd | hq
    · exact .inr ⟨N, hcluster ▸ hN, hd, rfl⟩
    · exact .inl hq

theorem Inv.policy (h : s.Inv flags) {a : PolicyTransition} {policies : PolicyController}
    (hstep : s.policies.Step a policies) (hsilent : a.Silent) : { s with policies }.Inv flags := by
  have hpolicies := hstep.towards.tracked h.policies
  -- but for the status everything a run reads and writes stays as it is
  have hsame : policies.world = s.policies.world → { s with policies }.Inv flags := by
    intro hworld
    refine h.of_due hpolicies ?_ rfl (List.Subset.refl _) ?_
    · simp only [world, cluster, hworld]
    · rintro N hN ⟨p, hp, hsel, ht⟩
      refine .inl ⟨p, ?_, hsel, hstep.willTouch hsilent hN hp hsel ht⟩
      rw [hworld]
      exact hp
  cases a with
  | change | triggerNodeReconcile => cases hsilent
  | updateStatus policy now => exact h.updateStatus hstep
  | resync | gone | get | listNodes | listExternalOutbounds | finish | fail =>
    refine hsame ?_
    cases hstep
    rfl

theorem Inv.triggerNodeReconcile (h : s.Inv flags) {policy node : String} {policies : PolicyController} {now : Nat}
    (hstep : s.policies.Step (.triggerNodeReconcile policy node) policies)
    (hshows : node ∈ s.nodeQueue ∨ s.reconcileTrigger node ≠ some (second now)) :
    { s with
      policies
      reconcileTrigger := Function.update s.reconcileTrigger node (some (second now))
      nodeQueue := s.nodeQueue ∪ if s.reconcileTrigger node = some (second now) then [] else [node] }.Inv flags := by
  have hpolicies := hstep.towards.tracked h.policies
  have hnode : node ∈ s.nodeQueue ∪ if s.reconcileTrigger node = some (second now) then [] else [node] := by
    rcases hshows with hq | hne
    · exact List.mem_union_iff.2 (.inl hq)
    · rw [if_neg hne]
      exact List.mem_union_iff.2 (.inr (List.mem_singleton_self _))
  cases hstep with
  | @triggerNodeReconcile policy n remaining hw hn =>
    refine h.of_due hpolicies rfl rfl (fun _ hq => List.mem_union_iff.2 (.inl hq)) ?_
    rintro N hN ⟨p, hp, hsel, ht⟩
    by_cases hname : N.name = n.name
    · exact .inr (hname ▸ hnode)
    · refine .inl ⟨p, hp, hsel, ht.read (fun _ hq => List.mem_union_iff.2 (.inl hq)) hw rfl fun htouch => ?_⟩
      exact (List.mem_cons.1 htouch).resolve_left hname

/-- Requests too many do no harm. -/
theorem Inv.enqueue (h : s.Inv flags) (names : List String) (host : String → Option KubeNode) :
    { s with host, nodeQueue := s.nodeQueue ∪ names }.Inv flags :=
  h.of_due h.policies rfl rfl (fun _ hq => List.mem_union_iff.2 (.inl hq)) fun _ _ hdue => .inl hdue

/-- Other Secrets: whoever would have another config waits. -/
theorem Inv.secrets (h : s.Inv flags) {σ : String → String → Except ApiError (GoMap String String)}
    (names : List String) (tlsServerName : String → String)
    (hnoticed : ∀ N ∈ s.cluster.nodes,
      N.name ∈ s.nodeQueue ∨ N.name ∈ names ∨ s.Unaffected flags (s.cluster.withSecrets σ) N) :
    { s.withCluster (s.cluster.withSecrets σ) with tlsServerName, nodeQueue := s.nodeQueue ∪ names }.Inv flags := by
  have hpolicies : (s.withCluster (s.cluster.withSecrets σ)).policies.Tracked policyAim := by
    -- no policy reads a Secret
    intro name
    refine (h.policies name).of_work_eq id rfl fun _ => ?_
    exact PolicyWorld.keeps_of_unchanged fun p hp _ => ⟨hp, rfl, .refl _, .refl _⟩
  refine ⟨h.answers.withSecrets, hpolicies, fun name => ?_⟩
  refine (h.nodes name).of_change (fun hq => ?_) rfl (fun hq hidle hs N hN hname => ?_)
    fun hq r hw hr N hN hname => ?_
  · rw [mem_tracking_queue] at hq ⊢
    exact hq.imp_left fun hq => List.mem_union_iff.2 (.inl hq)
  all_goals
    subst hname
    rw [mem_tracking_queue, not_or] at hq
    have hcur := (hnoticed N (ConfigWorld.mem_live.1 hN).1).resolve_left fun hmem =>
      hq.1 (List.mem_union_iff.2 (.inl hmem))
    have hsame := hcur.resolve_left fun hmem => hq.1 (List.mem_union_iff.2 (.inr hmem))
  · simp only [Unaffected, show s.nodeWork N.name = none from hidle] at hsame
    exact (hs N hN rfl).of_eq hsame rfl rfl
  · simp only [Unaffected, show s.nodeWork N.name = some r from hw] at hsame
    have hagrees := hr N hN rfl
    cases r with
    | fetched | checked | torn => exact hagrees
    | reading N₀ stage read secrets => exact Stage.Agrees.withSecrets hagrees hsame
    | computed output => exact hsame.trans hagrees
    | written output => exact ConfigWorld.Configured.of_eq hagrees hsame rfl

/-! ## The passes for nodes -/

/-- The reconciler of nodes takes a step of its own. -/
theorem Inv.node (h : s.Inv flags) {t : Controller ConfigWorld String NodePoint}
    (hstep : Controller.Step (configAim flags) s.tracking t) (hcluster : s'.policies = s.policies)
    (hworld : s'.world = t.world) (hwork : s'.nodeWork = t.work)
    (hqueue : ∀ name ∈ t.queue, name ∈ s'.nodeQueue ∨ ∃ N ∈ s.cluster.nodes, s.policies.Due N ∧ N.name = name) :
    s'.Inv flags := by
  refine ⟨?_, ?_, (hstep.tracked h.nodes).mono hworld hwork fun name hname => ?_⟩
  · rw [cluster, hcluster]
    exact h.answers
  · rw [hcluster]
    exact h.policies
  · rw [mem_tracking_queue, cluster, hcluster]
    exact hqueue name hname

/-- A read, after which the pass still agrees with the cluster if it did before. -/
theorem Inv.read (h : s.Inv flags) {node : String} {r r' : NodePoint} (hw : s.nodeWork node = some r)
    (hr : ∀ N ∈ s.cluster.nodes, N.name = node → s.world.Agrees flags N r → s.world.Agrees flags N r') :
    (s.move node r').Inv flags := by
  refine h.node (.read (k := node) (r := r) hw fun hcourse N hN hname => ?_) rfl rfl rfl
    fun name hname => mem_tracking_queue.1 hname
  exact hr N (ConfigWorld.mem_live.1 hN).1 hname (hcourse N hN hname)

theorem Inv.get (h : s.Inv flags) {N : SingBoxNode} (hN : N ∈ s.cluster.nodes) :
    ({ s with nodeQueue := s.nodeQueue.filter (· ≠ N.name) }.move N.name (.fetched N)).Inv flags := by
  refine h.node (.start (k := N.name) (r := .fetched N) fun N' hN' hname => ?_) rfl rfl rfl fun name hname => ?_
  · obtain rfl := Cluster.node_unique (ConfigWorld.mem_live.1 hN').1 hN hname
    exact rfl
  · obtain ⟨hmem, hne⟩ := List.mem_filter.1 hname
    exact (mem_tracking_queue.1 hmem).imp_left fun hq => List.mem_filter.2 ⟨hq, hne⟩

theorem Inv.ignore (h : s.Inv flags) {node : String} (hidle : s.nodeWork node = none)
    (hgone : ∀ N ∈ s.cluster.nodes, N.name = node → s.deleting node = true) :
    { s with nodeQueue := s.nodeQueue.filter (· ≠ node) }.Inv flags := by
  refine h.node (.skip (k := node) hidle fun N hN hname => ?_) rfl rfl rfl fun name hname => ?_
  · obtain ⟨hmem, hlive⟩ := ConfigWorld.mem_live.1 hN
    rw [hname] at hlive
    exact absurd ((hgone N hmem hname).symm.trans hlive) (by decide)
  · obtain ⟨hmem, hne⟩ := List.mem_filter.1 hname
    exact (mem_tracking_queue.1 hmem).imp_left fun hq => List.mem_filter.2 ⟨hq, hne⟩

/-- What is written to the record of a node that waits does not matter. -/
theorem Inv.addFinalizer (h : s.Inv flags) {node : String} (hq : node ∈ s.nodeQueue) (record : NodeRecord) :
    { s with record := Function.update s.record node record }.Inv flags := by
  refine ⟨h.answers, h.policies, fun name => ?_⟩
  by_cases hne : name = node
  · subst hne
    exact .queued (mem_tracking_queue.2 (.inl hq))
  refine (h.nodes name).of_work_eq id rfl fun _ => Aim.keeps_forEach fun N hN hname => ?_
  have hother : Function.update s.record node record N.name = s.record N.name :=
    Function.update_of_ne (by rw [hname]; exact hne) ..
  refine ⟨N, hN, hname, fun hcur => hcur.of_eq rfl rfl hother, fun r hr => ?_⟩
  cases r with
  | fetched | checked | reading | torn | computed => exact hr
  | written => exact ConfigWorld.Configured.of_eq hr rfl rfl

theorem Inv.reconcileConfigMap (h : s.Inv flags) {node : String} {output : Output}
    (hw : s.nodeWork node = some (.computed output)) (names : List String) :
    ({ s with
      configMap := Function.update s.configMap node (some output)
      nodeQueue := s.nodeQueue ∪ names }.move node (.written output)).Inv flags := by
  let w : ConfigWorld := ⟨s.cluster, Function.update s.configMap node (some output), s.deleting, s.record⟩
  have hkeeps : ∀ name, name ≠ node → (configAim flags).Keeps s.world w name := by
    intro name hne
    refine Aim.keeps_forEach fun N hN hname => ?_
    have hother : w.configMap N.name = s.configMap N.name := Function.update_of_ne (by rw [hname]; exact hne) ..
    refine ⟨N, hN, hname, fun hcur => hcur.of_eq rfl hother rfl, fun r hr => ?_⟩
    cases r with
    | fetched | checked | reading | torn | computed => exact hr
    | written => exact ConfigWorld.Configured.of_eq hr rfl hother
  have hwrite : Controller.Step (configAim flags) s.tracking
      ⟨w, s.tracking.queue ∪ [], Function.update s.tracking.work node (some (.written output))⟩ := by
    refine .write hw (fun hcourse => .inr fun N hN hname => ?_) fun name hne _ => hkeeps name hne
    refine ⟨hcourse N hN hname, ?_⟩
    rw [hname]
    exact Function.update_self ..
  refine h.node hwrite rfl rfl rfl fun name hname => ?_
  rcases List.mem_union_iff.1 hname with hmem | hmem
  · exact (mem_tracking_queue.1 hmem).imp_left fun hq => List.mem_union_iff.2 (.inl hq)
  · cases hmem

/-- A pass may end in any way when the node waits. -/
theorem Inv.fail (h : s.Inv flags) (node : String) :
    ({ s with nodeQueue := s.nodeQueue ∪ [node] }.done node).Inv flags := by
  refine h.node (.retry (k := node)) rfl rfl rfl fun name hname => ?_
  rcases List.mem_union_iff.1 hname with hmem | hmem
  · exact (mem_tracking_queue.1 hmem).imp_left fun hq => List.mem_union_iff.2 (.inl hq)
  · exact .inl (List.mem_union_iff.2 (.inr hmem))

/-! ## Writes of a status -/

section
variable {N : SingBoxNode} {status : SingBoxNodeStatus} {record : NodeRecord} {policies : PolicyController}

/-- The status of a node is written by its own pass. -/
theorem Inv.updated (h : s.Inv flags) (hstep : s.policies.Step (.change (N.statusUpdate status)) policies)
    {r : NodePoint} (hw : s.nodeWork N.name = some r) : (s.updated N status record policies).Inv flags := by
  have hwrite := hstep.statusWrite
  have hfaces : s.cluster.SameFaces policies.world.cluster := hwrite.sameFaces
  refine ⟨hwrite.answers, hstep.towards.tracked h.policies, fun name => ?_⟩
  refine (h.nodes name).of_change (fun hq => ?_) rfl (fun _ hidle hs N' hN' hname => ?_)
    fun _ r' _ hcourse N' hN' hname => ?_
  · rw [mem_tracking_queue] at hq ⊢
    rcases hq with hq | ⟨M, hM, hdue, rfl⟩
    · exact .inl (List.mem_union_iff.2 (.inl hq))
    · obtain ⟨M', hM', hface⟩ := hfaces.mem_nodes hM
      refine .inr ⟨M', hM', ?_, Cluster.name_of_face hface⟩
      exact hdue.of_face hface hfaces.policies (fun policy hq => (hwrite.queue policy).2 hq) hwrite.work
  all_goals
    obtain ⟨hmem, hlive⟩ := ConfigWorld.mem_live.1 hN'
  · -- it is another node
    have hne : N'.name ≠ N.name := by
      rintro heq
      rw [← hname, heq] at hidle
      cases hw.symm.trans hidle
    have hold : N' ∈ s.cluster.nodes := (hwrite.others N' hne).1 hmem
    have houtput : policies.world.cluster.output flags N' = s.cluster.output flags N' := by
      rw [hwrite.answers.output_eq, h.answers.output_eq]
      exact congrArg Except.ok (hfaces.compute_eq rfl flags)
    exact (hs N' (ConfigWorld.mem_live.2 ⟨hold, hlive⟩) hname).of_eq houtput rfl (Function.update_of_ne hne ..)
  · obtain ⟨N₀, hN₀, hface⟩ := hfaces.symm.mem_nodes hmem
    have hname₀ := Cluster.name_of_face hface
    have hagrees := hcourse N₀ (ConfigWorld.mem_live.2 ⟨hN₀, by rw [hname₀]; exact hlive⟩) (hname₀.trans hname)
    exact ConfigWorld.Agrees.of_sameFaces hagrees hfaces h.answers hface.symm (by rw [hname₀]; rfl)

theorem Inv.updateNodeReadyStatus (h : s.Inv flags) {N₀ : SingBoxNode}
    (hw : s.nodeWork N.name = some (.fetched N₀))
    (hstep : s.policies.Step (.change (N.statusUpdate status)) policies) :
    ((s.updated N status record policies).move N.name (.checked N₀)).Inv flags :=
  (h.updated hstep hw).read hw fun _ _ _ hr => hr

theorem Inv.report (h : s.Inv flags) {output : Output} {now : Int} (hw : s.nodeWork N.name = some (.written output))
    (hstep : s.policies.Step (.change (N.statusUpdate (s.reportStatus now N output.hash))) policies) :
    ((s.updated N (s.reportStatus now N output.hash) (s.reportRecord now N.name output.hash) policies).done
      N.name).Inv flags := by
  have hwrite := hstep.statusWrite
  have hupdated : (s.updated N _ (s.reportRecord now N.name output.hash) policies).Inv flags := h.updated hstep hw
  refine hupdated.node (.finish (k := N.name) (r := .written output) hw fun hcourse N' hN' hname => ?_) rfl rfl rfl
    fun _ hname => mem_tracking_queue.1 hname
  have hagrees := hcourse N' hN' hname
  obtain rfl := Cluster.node_unique (ConfigWorld.mem_live.1 hN').1 hwrite.written hname
  have hrecord : Function.update s.record N.name (s.reportRecord now N.name output.hash) N.name = _ :=
    Function.update_self ..
  have hreports := (s.record N.name).reports_report now output.hash
  refine ⟨⟨output, hagrees, ?_⟩, rfl, congrArg NodeRecord.shown hrecord.symm⟩
  rw [reportRecord] at hrecord
  rw [← hrecord] at hreports
  exact hreports

end

/-! ## Whole runs -/

theorem Step.inv {a : ControllersTransition} (hstep : s.Step flags a s') (hnoticed : Noticed flags s a)
    (h : s.Inv flags) : s'.Inv flags := by
  cases hstep with
  | change hchange hnode =>
    exact h.change hchange (fun name hname => ⟨(hnode name hname).2.1, (hnode name hname).2.2.1⟩)
      (hnoticed.change _ rfl)
  | changeHost => exact h.enqueue _ _
  | changeSecret => exact h.secrets _ _ (hnoticed.secret _ rfl)
  | policy hpolicy hsilent => exact h.policy hpolicy hsilent
  | triggerNodeReconcile htouch => exact h.triggerNodeReconcile htouch (hnoticed.touch _ _ _ rfl)
  | @enqueue node => exact h.enqueue [node] s.host
  | ignore hidle _ hgone => exact h.ignore hidle hgone
  | addFinalizer _ hq _ _ _ => exact h.addFinalizer hq _
  | get _ _ hN _ _ => exact h.get hN
  | updateNodeReadyStatus hw hchange => exact h.updateNodeReadyStatus hw hchange
  | statusNotUpdated hw => exact h.read hw fun _ _ _ hr => hr
  | ensureCredential hw _ => exact h.read hw fun _ _ _ hr => Stage.Agrees.start flags h.answers hr
  | @createCredential N calls data hw hmissing hcreate =>
    have hsecrets := h.secrets (σ := (s.cluster.withSecret s.cluster.ns (secretName N.name) (.ok data)).secret)
      (externalCredentialSecretMapper s.cluster s.cluster.ns (secretName N.name)) s.tlsServerName
      (hnoticed.secret _ rfl)
    exact hsecrets.read hw fun _ _ _ hr => Stage.Agrees.start flags hsecrets.answers hr
  | @getSecret _ _ _ _ _ key hw _ _ => exact h.read hw fun _ _ _ hr => Stage.Agrees.getSecret hr key
  | @tearSecret _ _ _ _ secrets key result hw hread hother =>
    exact h.read hw fun N _ _ (hr : Stage.Agrees ..) => hother (hr.fetched key result hread)
  | listNodes hw => exact h.read hw fun N hN _ hr => Stage.Agrees.listNodes hr h.answers hN
  | listExternalOutbounds hw => exact h.read hw fun _ _ _ hr => Stage.Agrees.listExternalOutbounds hr h.answers
  | listUsers hw _ => exact h.read hw fun _ _ _ hr => Stage.Agrees.listUsers hr h.answers
  | getUserGroup hw _ _ _ => exact h.read hw fun _ _ _ hr => Stage.Agrees.getUserGroup hr h.answers _
  | @tearUserGroup node N₀ groups read secrets u hw hu hi hmem hother =>
    -- a group that users refer to does not change behind the back of an inbound node
    refine h.read hw fun N _ _ (hr : Stage.Agrees ..) => hother ?_
    have hi' : N.hasRole .inbound = true := (Cluster.hasRole_of_face hr.node .inbound).symm.trans hi
    exact hr.groups groups rfl hi' u (hr.users groups rfl hi' ▸ hu) hmem
  | @listPolicies node N₀ stage read secrets hw hstage =>
    refine h.read hw fun _ _ _ hr => Stage.Agrees.listPolicies hr h.answers ?_
    rintro rfl
    split at hstage
    · obtain ⟨groups, hgroups, _⟩ := hstage
      cases hgroups
    · cases hstage
  | compute hw houtput => exact h.read hw fun _ _ _ hr => (Stage.Agrees.output_eq hr h.answers).symm.trans houtput
  | computeTorn hw => exact h.read hw fun _ _ _ hr => hr.elim
  | reconcileConfigMap hw => exact h.reconcileConfigMap hw _
  | updateStatus hw hchange => exact h.report hw hchange
  | @fail node _ _ => exact h.fail node

theorem Started.inv (h : s.Started) : s.Inv flags where
  answers := h.answers
  policies := Controller.Started.tracked h.policies
  nodes := by
    refine Controller.Started.tracked ⟨fun N hN => mem_tracking_queue.2 (.inl ?_), h.nodeWork⟩
    exact h.nodeQueue N (ConfigWorld.mem_live.1 hN).1

theorem inv_of_run {s₀ : Controllers} {trace : ControllersTrace} (h : Run (Controllers.Step flags) s₀ trace s)
    (hstart : s₀.Started) (hnoticed : ∀ x ∈ trace, Noticed flags x.1 x.2.1) : s.Inv flags :=
  (h.invariant hstart.inv (fun _ _ _ hs hn hi => hs.inv hn hi) hnoticed).1

variable (flags) in
/-- A run from the start leads here, and nothing gets lost in it. -/
def Reached (s : Controllers) : Prop :=
  ∃ s₀ trace, s₀.Started ∧ Run (Controllers.Step flags) s₀ trace s ∧ ∀ x ∈ trace, Noticed flags x.1 x.2.1

theorem Reached.inv : s.Reached flags → s.Inv flags := fun ⟨_, _, hstart, hrun, hnoticed⟩ =>
  inv_of_run hrun hstart hnoticed

theorem Started.reached (h : s.Started) : s.Reached flags :=
  ⟨s, [], h, .nil, fun _ hx => absurd hx List.not_mem_nil⟩

theorem Reached.step (h : s.Reached flags) {a : ControllersTransition} (hstep : s.Step flags a s')
    (hnoticed : Noticed flags s a) : s'.Reached flags := by
  obtain ⟨s₀, trace, hstart, hrun, hall⟩ := h
  refine ⟨s₀, _, hstart, hrun.snoc hstep, List.forall_mem_append.2 ⟨hall, fun x hx => ?_⟩⟩
  rw [List.mem_singleton.1 hx]
  exact hnoticed

omit [MapOrder] in
/-- A live node that neither waits nor is being reconciled, and no policy that selects it does. -/
structure AtRest (s : Controllers) (N : SingBoxNode) : Prop where
  mem : N ∈ s.cluster.nodes
  live : s.deleting N.name = false
  queue : N.name ∉ s.nodeQueue
  work : s.nodeWork N.name = none
  policies : ∀ p ∈ s.cluster.policies, p.Selects N → p.name ∉ s.policies.queue ∧ s.policies.work p.name = none

/-- What the invariant says of a node at rest. -/
theorem Inv.current (h : s.Inv flags) {N : SingBoxNode} (hrest : s.AtRest N) : s.world.Current flags N := by
  refine h.nodes.settled (k := N.name) (fun hmem => ?_) hrest.work N (ConfigWorld.mem_live.2 ⟨hrest.mem, hrest.live⟩) rfl
  rcases mem_tracking_queue.1 hmem with hmem | ⟨N', hN', ⟨p, hp, hsel, ht⟩, hname⟩
  · exact hrest.queue hmem
  · obtain rfl := Cluster.node_unique hN' hrest.mem hname
    obtain ⟨hq, hw⟩ := hrest.policies p hp hsel
    rcases ht with hq' | ⟨r, hr, _⟩
    · exact hq hq'
    · rw [hw] at hr
      cases hr

theorem Inv.configMap_eq (h : s.Inv flags) {N : SingBoxNode} (hrest : s.AtRest N) :
    s.configMap N.name = some (compute (s.cluster.view flags N)) := by
  obtain ⟨output, hconfigured, _⟩ := (h.current hrest).configured
  obtain rfl := Except.ok.inj (hconfigured.computed.symm.trans (h.answers.output_eq flags))
  exact hconfigured.configMap

end Controllers

end

end SingboxOperator
