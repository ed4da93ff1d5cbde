import SingboxOperator.ApiServer.Paths
import SingboxOperator.Controller.Interrupted
/-!
# What clients are told and what is deployed

The API server answers from the cluster, the nodes run what is in their
ConfigMaps. The two are compared at the end of any run of the controllers, for
nodes at rest: no node status has to be assumed fresh, and no config computed
from the cluster as it is. A path a client is given works on the deployed
configs, and on those sing-box runs; a user a group keeps from a target, or one
that has been deleted, has no entry left for it.
-/
open SingboxOperator.Lib

namespace SingboxOperator

/-- The ConfigMap of the node holds the text of this config. -/
def Controllers.Deployed (s : Controllers) (N : SingBoxNode) (config : SingboxConfig) : Prop :=
  ∃ output, s.configMap N.name = some output ∧ output.config = config.toJson.render

section
variable [Library] [MapOrder] {flags : Flags} {s : Controllers} {N : SingBoxNode} {config : SingboxConfig}

/-- At rest one config is deployed, and it is that of the cluster as it is. -/
theorem Controllers.Reached.deployed_iff (h : s.Reached flags) (hrest : s.AtRest N) :
    s.Deployed N config ↔ config = computeConfig (s.cluster.view flags N) := by
  have hmap := h.inv.configMap_eq hrest
  constructor
  · rintro ⟨output, houtput, htext⟩
    obtain rfl := Option.some.inj (hmap.symm.trans houtput)
    rw [config_compute] at htext
    exact (SingboxConfig.render_inj htext).symm
  · rintro rfl
    exact ⟨_, hmap, config_compute _⟩

variable {requestUUID : String} {u : User} {cred : UserCredential} {obs : List ClientOutbound} {ob : ProxyOutbound}
  {I : SingBoxNode}

/-- A path to an external outbound that a client is given is served by what is
deployed exactly when the credentials of the outbound are complete, and no
node has its name unless policies reach it. -/
theorem deployed_external_iff (h : s.Reached flags) (hm : matchUser s.cluster requestUUID = some (u, cred))
    (hh : handleClientConfig s.cluster requestUUID = .ok obs) (hob : .proxy ob ∈ obs) (hI : s.AtRest I)
    {E : ExternalOutbound} (hE : E ∈ s.cluster.externalOutbounds)
    (hno : ∀ n ∈ s.cluster.nodes, n.name = E.name → n.hasRole .outbound = false)
    (htag : ob.tag = pathTag E.name I.name) (hd : s.Deployed I config) :
    ExternalPathServed s.cluster I E u config ↔
      hasRequiredExternalCreds E (s.cluster.externalCred E) = true ∧
        ((∀ n ∈ s.cluster.nodes, n.name ≠ E.name) ∨ s.cluster.PolicyReached I E.name) := by
  obtain ⟨hu, _⟩ := matchUser_eq_some hm
  obtain ⟨cin, hin, hb⟩ := handleClientConfig_ok hm hh
  obtain rfl := (h.deployed_iff hI).1 hd
  exact externalPathServed_view hu hin hb hob hI.mem hE hno htag

/-- In the config of a cluster a user has an entry for a target exactly when there is
a user of that name who may use it. -/
theorem Cluster.entry_iff (c : Cluster) (t : String) :
    (∃ ib ∈ (computeConfig (c.view flags N)).inbounds, ib.tag = inboundTag N ∧ ∃ e ∈ ib.users,
        e.label (effectiveInboundProtocol N) = some (virtualUserName u.name t)) ↔
      N.hasRole .inbound = true ∧ findProtocolPort N (effectiveInboundProtocol N) ≠ 0 ∧ c.Target N t ∧
        ∃ v ∈ c.users, v.name = u.name ∧ c.mayUse v t = true := by
  have hserves : Serves (c.view flags N) (virtualUserName u.name t) ↔ _ := serves_virtualUserName
  refine hserves.trans (and_congr_right fun hi => and_congr_right fun _ => and_congr Cluster.mem_targets_view ?_)
  constructor
  · rintro ⟨v, hv, hname, hallow⟩
    exact ⟨v, (Cluster.mem_servedUsers.1 hv).2, hname, (Cluster.view_allows hv t).symm.trans hallow⟩
  · rintro ⟨v, hv, hname, hmay⟩
    have hserved : v ∈ c.servedUsers N := Cluster.mem_servedUsers.2 ⟨hi, hv⟩
    exact ⟨v, hserved, hname, (Cluster.view_allows hserved t).trans hmay⟩

/-- On what is deployed a user has an entry for a target exactly when there is a
user of that name who may use it now. -/
theorem deployed_entry_iff (h : s.Reached flags) (hrest : s.AtRest N) (hd : s.Deployed N config) (t : String) :
    (∃ ib ∈ config.inbounds, ib.tag = inboundTag N ∧ ∃ e ∈ ib.users,
        e.label (effectiveInboundProtocol N) = some (virtualUserName u.name t)) ↔
      N.hasRole .inbound = true ∧ findProtocolPort N (effectiveInboundProtocol N) ≠ 0 ∧ s.cluster.Target N t ∧
        ∃ v ∈ s.cluster.users, v.name = u.name ∧ s.cluster.mayUse v t = true := by
  obtain rfl := (h.deployed_iff hrest).1 hd
  exact s.cluster.entry_iff t

end

/-! ## What runs -/

/-- sing-box has been started with this config, in a Pod of the node that is there to stay. -/
def Rollout.Runs (s : Rollout) (N : SingBoxNode) (config : SingboxConfig) : Prop :=
  ∃ p output, s.pods N.name = some p ∧ p.pod.deleting = false ∧ p.running = some output ∧
    output.config = config.toJson.render

section
variable [Library] [MapOrder] {flags : OperatorFlags} {s : Rollout}

/-- Where passes may fail between the ConfigMap and the Pod, no such thing holds. From
any state with an inbound node at rest and sing-box running there, a run leads to the
node at rest again, in the same cluster but for statuses, with sing-box running a config
that has an entry for a user who is not there. All that happens in it besides the
passes for the node and the kubelet's filling the volume: the user comes, the pass fails
at the Pod, the container starts again, and the user goes. -/
theorem running_entry_stale (h : s.Reached flags) {N : SingBoxNode} (hrest : s.controllers.AtRest N)
    (hcred : s.controllers.cluster.HasCredential N) {p : PlacedPod} (hp : s.pods N.name = some p)
    (hdel : p.pod.deleting = false) (hrunning : p.running ≠ none) (hi : N.hasRole .inbound = true)
    (hport : findProtocolPort N (effectiveInboundProtocol N) ≠ 0) {t : String}
    (ht : s.controllers.cluster.Target N t) {u : User} (hgone : ∀ v ∈ s.controllers.cluster.users, v.name ≠ u.name)
    (hmay : s.controllers.cluster.mayUse u t = true) :
    ∃ (trace : RolloutTrace) (s' : Rollout) (N' : SingBoxNode) (config : SingboxConfig),
      Run (Rollout.Step flags) s trace s' ∧ (∀ x ∈ trace, x.1.Noticed flags x.2.1) ∧
      Rollout.besides N.name trace = [.controllers (.change (.user (.create u))), .reconcilePod N.name (.error ""),
        .restart N.name, .controllers (.change (.user (.delete u)))] ∧
      s.controllers.cluster.SameFaces s'.controllers.cluster ∧ Cluster.face N' = Cluster.face N ∧
      s'.controllers.AtRest N' ∧ s'.Runs N' config ∧
      ∃ ib ∈ config.inbounds, ib.tag = inboundTag N ∧ ∃ e ∈ ib.users,
        e.label (effectiveInboundProtocol N) = some (virtualUserName u.name t) := by
  have hnodup : ((u :: s.controllers.cluster.users).map User.name).Nodup := by
    refine List.nodup_cons.2 ⟨fun hmem => ?_, s.controllers.cluster.users_nodup⟩
    obtain ⟨v, hv, hname⟩ := List.mem_map.1 hmem
    exact hgone v hv hname
  obtain ⟨trace, s', N', p', hrun, hnoticed, hbesides, hfaces, hface, hrest', hp', hsame, hrunning'⟩ :=
    h.interrupted hrest hi hcred hp hdel hrunning hnodup (.create u [] _) (.delete u [] _)
  refine ⟨trace, s', N', _, hrun, hnoticed, hbesides, hfaces, hface, hrest', ⟨p', _, ?_, ?_, hrunning',
    config_compute _⟩, ?_⟩
  · rw [Cluster.name_of_face hface]
    exact hp'
  · rw [hsame]
    exact hdel
  · exact (Cluster.entry_iff _ t).2 ⟨hi, hport, ht, u, List.mem_cons_self, rfl, hmay⟩

end

/-! ### One relay -/

theorem pathCluster_answers : pathCluster.Answers := ⟨fun _ => rfl, fun _ _ h => by cases h; rfl⟩

theorem pathCluster_hasCredential : ∀ N ∈ pathCluster.nodes, pathCluster.HasCredential N := by
  refine List.forall_mem_cons.2 ⟨fun ho => absurd ho (by decide), List.forall_mem_cons.2 ⟨fun _ => ?_, ?_⟩⟩
  · exact ⟨_, rfl⟩
  · exact fun _ hN => absurd hN List.not_mem_nil

section
attribute [local instance] plainLibrary storedOrder

def pathConfigMap (node : String) : Option Output :=
  (pathCluster.nodes.find? fun N => N.name = node).map fun N => compute (pathCluster.view {} N)

/-- The operator has been started again on a cluster that is in order. -/
def pathStarted : Controllers where
  policies :=
    { world :=
        { cluster := pathCluster
          record := fun _ => { generation := 1, observedGeneration := 0, conditions := [] } }
      queue := []
      work := fun _ => none }
  configMap := pathConfigMap
  deleting _ := false
  record node :=
    { generation := 1
      observedGeneration := 1
      conditions :=
        [{ toStatusCondition := nodeReadyCondition "worker-1" (some worker), observedGeneration := 1,
           lastTransitionTime := 0 },
         { toStatusCondition := reconciledCondition, observedGeneration := 1, lastTransitionTime := 0 }]
      finalizer := true
      nodeRef := "worker-1"
      phase := "Running"
      configHash := ((pathConfigMap node).map Output.hash).getD "" }
  host _ := some worker
  tlsServerName _ := ""
  reconcileTrigger _ := none
  nodeQueue := ["gate", "hop"]
  nodeWork _ := none

theorem pathStarted_started : pathStarted.Started :=
  ⟨pathCluster_answers, ⟨fun p hp => absurd hp List.not_mem_nil, fun _ => rfl⟩, by decide, fun _ => rfl⟩

/-- There is nothing to write. -/
theorem pathStarted_quiet (node : String) : pathStarted.Quiet {} node := by
  have hshows : ∀ N ∈ pathCluster.nodes, pathConfigMap N.name = some (compute (pathCluster.view {} N)) →
      N.status.conditions = [⟨"NodeReady", "True"⟩, ⟨"Ready", "True"⟩] →
      N.status.entryEndpoints = entryEndpoints N → N.status.tlsServerName = "" →
      pathStarted.Shows N (compute (pathCluster.view {} N)).hash := by
    intro N _ hmap hconditions hendpoints htls
    refine ⟨⟨⟨_, rfl, rfl, rfl⟩, hconditions⟩, ⟨?_, rfl, ?_⟩, hendpoints, htls⟩
    · exact ⟨rfl, List.forall_mem_singleton.2 ⟨_, rfl, rfl, rfl⟩⟩
    · exact congrArg (fun output => (output.map Output.hash).getD "") hmap
  rintro N hN rfl
  rcases List.mem_cons.1 hN with rfl | hN
  · exact ⟨rfl, hshows gate List.mem_cons_self rfl rfl (by decide) rfl⟩
  · obtain rfl := List.mem_singleton.1 hN
    exact ⟨rfl, hshows hop hop_mem rfl rfl (by decide) rfl⟩

/-- There are no Pods yet. -/
def pathRollout : Rollout where
  controllers := pathStarted
  pods _ := none
  pending _ := none

/-- The passes for the two nodes leave the cluster as it is. -/
theorem path_running : ∃ s : Rollout, s.ReachedUninterrupted {} ∧ s.controllers.cluster = pathCluster ∧
    ∀ N ∈ pathCluster.nodes, s.controllers.AtRest N ∧ ∃ p, s.pods N.name = some p ∧ p.pod.deleting = false ∧
      p.running = some (compute (pathCluster.view {} N)) := by
  have hstart : pathRollout.ReachedUninterrupted {} :=
    Rollout.Started.reachedUninterrupted ⟨pathStarted_started, fun _ => rfl⟩ fun _ => rfl
  have hleft : pathRollout.LeftAlone {} pathRollout :=
    .refl hstart.reached (fun _ => rfl) (fun _ hp => absurd hp List.not_mem_nil) fun N hN _ =>
      pathCluster_hasCredential N hN
  have hpatiently : pathRollout.Patiently {} ["gate", "hop"] pathRollout :=
    hleft.patiently (fun _ => rfl) fun _ hnode => hnode.resolve_right fun hp => hp rfl
  obtain ⟨trace, s, hrun, hown, hleft', hend⟩ := hpatiently.exists_end
  have hown' : ∀ x ∈ trace, x.2.1.ofNode ≠ none := fun x hx => (hown x hx).1
  have hquiet := hleft.quiet_run pathStarted_quiet (fun _ => rfl) hrun hown'
  have hcluster : s.controllers.cluster = pathCluster := hquiet.1
  refine ⟨s, hleft.reached hrun hown' hstart, hcluster, fun N hN => ?_⟩
  obtain ⟨hrest, p, output, hp, hdel, hrunning⟩ := hleft'.settled hend (hcluster ▸ hN) (by rw [hleft'.deleting]; rfl)
  obtain rfl := hquiet.2 N.name p output hp (.inr hrunning) N hN rfl
  exact ⟨hrest, p, hp, hdel, hrunning⟩

theorem path_deployed :
    ∃ s : Controllers, s.Reached {} ∧ s.cluster = pathCluster ∧ s.AtRest gate ∧ s.AtRest hop := by
  obtain ⟨s, hreached, hcluster, hall⟩ := path_running
  exact ⟨s.controllers, hreached.reached.controllers, hcluster, (hall gate List.mem_cons_self).1, (hall hop hop_mem).1⟩

theorem alice_deployed : ∃ obs, handleClientConfig pathCluster aliceUUID = .ok obs ∧
    .proxy (pathOutbound "hop") ∈ obs ∧ .proxy (pathOutbound "upstream") ∈ obs := by
  obtain ⟨obs, hb, hhop, hup⟩ := pathInput_built
  obtain ⟨obs', hh, _⟩ := alice_answered
  obtain ⟨cin, hin, hb'⟩ := handleClientConfig_ok alice_matched hh
  obtain rfl := Except.ok.inj (hin.symm.trans pathInput_read)
  obtain rfl := Except.ok.inj (hb.symm.trans hb')
  exact ⟨obs, hh, hhop, hup⟩

/-- `upstream` has no Secret, so `gate` is deployed without it. -/
theorem deployed_external_iff_upstream : ∃ s : Controllers, s.cluster = pathCluster ∧
    ∃ entry, s.Deployed gate entry ∧ ¬ ExternalPathServed pathCluster gate upstream alice entry := by
  obtain ⟨s, hreached, hcluster, hgate, _⟩ := path_deployed
  obtain ⟨obs, hh, _, hob⟩ := alice_deployed
  have hd := (hreached.deployed_iff hgate).2 rfl
  have hserved := deployed_external_iff (E := upstream) hreached (hcluster ▸ alice_matched) (hcluster ▸ hh) hob hgate
    (by rw [hcluster]; exact List.mem_cons_self) (by rw [hcluster]; exact upstream_no_node) rfl hd
  rw [hcluster] at hserved hd
  exact ⟨s, hcluster, _, hd, fun h => upstream_incomplete (hserved.1 h).1⟩

/-- Alice has an entry for `hop`, and `carol`, who is not there, has none. -/
theorem deployed_entry_iff_alice : ∃ s : Controllers, s.cluster = pathCluster ∧ ∃ entry, s.Deployed gate entry ∧
    (∃ ib ∈ entry.inbounds, ib.tag = inboundTag gate ∧ ∃ e ∈ ib.users,
      e.label (effectiveInboundProtocol gate) = some (virtualUserName "alice" "hop")) ∧
    ¬ ∃ ib ∈ entry.inbounds, ib.tag = inboundTag gate ∧ ∃ e ∈ ib.users,
      e.label (effectiveInboundProtocol gate) = some (virtualUserName "carol" "hop") := by
  obtain ⟨s, hreached, hcluster, hgate, _⟩ := path_deployed
  have hd := (hreached.deployed_iff hgate).2 rfl
  have hentry := fun u => deployed_entry_iff (u := u) hreached hgate hd "hop"
  simp only [hcluster] at hentry hd
  refine ⟨s, hcluster, _, hd, ?_, fun hserved => ?_⟩
  · exact (hentry alice).2 ⟨by decide, by decide, hop_target, alice, List.mem_singleton_self _, rfl, by decide⟩
  · obtain ⟨_, _, _, v, hv, hname, _⟩ := (hentry { alice with metadata := .named "carol" }).1 hserved
    rw [List.mem_singleton.1 hv] at hname
    exact absurd hname (by decide)

/-- `carol` has come and gone. -/
theorem running_entry_stale_carol : ∃ (s s' : Rollout) (trace : RolloutTrace) (N : SingBoxNode) (entry : SingboxConfig),
    s.controllers.cluster = pathCluster ∧ Run (Rollout.Step {}) s trace s' ∧
    (Rollout.besides "gate" trace).length = 4 ∧ (∀ v ∈ s'.controllers.cluster.users, v.name ≠ "carol") ∧
    s'.controllers.AtRest N ∧ N.name = "gate" ∧ s'.Runs N entry ∧
    ∃ ib ∈ entry.inbounds, ib.tag = inboundTag gate ∧ ∃ e ∈ ib.users,
      e.label (effectiveInboundProtocol gate) = some (virtualUserName "carol" "hop") := by
  obtain ⟨s, hreached, hcluster, hall⟩ := path_running
  obtain ⟨hrest, p, hp, hdel, hrunning⟩ := hall gate List.mem_cons_self
  have hgone : ∀ v ∈ s.controllers.cluster.users, v.name ≠ "carol" := by rw [hcluster]; decide
  obtain ⟨trace, s', N, entry, hrun, _, hbesides, hfaces, hface, hrest', hruns, hentry⟩ :=
    running_entry_stale (t := "hop") (u := { alice with metadata := .named "carol" }) hreached.reached hrest
    (by rw [hcluster]; exact pathCluster_hasCredential gate List.mem_cons_self) hp hdel (by rw [hrunning]; rintro ⟨⟩)
    (by decide) (by decide) (by rw [hcluster]; exact hop_target) hgone (by rw [hcluster]; decide)
  refine ⟨s, s', trace, N, entry, hcluster, hrun, congrArg List.length hbesides, ?_, hrest', Cluster.name_of_face hface,
    hruns, hentry⟩
  rw [hfaces.users]
  exact hgone

end

end SingboxOperator
