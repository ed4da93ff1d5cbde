import SingboxOperator.ApiServer.Outbounds
import SingboxOperator.Controller.NodeHealth
/-!
# Hosts that are down

The API server takes a SingBoxNode for offline when its NodeReady condition is
there and not True. At rest that condition mirrors the host, so a client gets
no path that starts at, or leads to, a node whose host is not ready, is taken
offline by hand, or is gone; and no node on a host that is available is left out
for its health.
-/
open SingboxOperator.Lib

namespace SingboxOperator

namespace HealthWorld

/-- The node as the API server lists it. -/
def listed (w : HealthWorld) (n : HostedNode) : SingBoxNode :=
  { n.toSingBoxNode with
    status := { n.status with conditions := (w.record n.name).conditions.map fun cond => cond.toCondition } }

/-- The host of the node is ready and not taken offline. -/
def Available (w : HealthWorld) (n : HostedNode) : Prop :=
  ∃ host, w.host n.nodeRef = some host ∧ isNodeAvailable host = true

variable {w : HealthWorld} {n : HostedNode}

theorem isReady_of_isSet {generation : Int} {cond : StatusCondition} (htype : cond.type = "NodeReady")
    (h : IsSet generation cond (w.record n.name).conditions) :
    isSingBoxNodeReady (w.listed n) = true ↔ cond.status = "True" := by
  obtain ⟨stored, hfind, rfl, _⟩ := h
  rw [htype] at hfind
  have hlisted : (w.listed n).status.conditions.find? (fun c => c.type = "NodeReady") = some stored.toCondition := by
    simp only [listed, List.find?_map]
    rw [show ((fun c : Condition => decide (c.type = "NodeReady")) ∘ fun cond : MetaCondition => cond.toCondition) =
      fun cond => decide (cond.type = "NodeReady") from rfl, hfind]
    rfl
  simp [isSingBoxNodeReady, hlisted]

/-- With a current condition, the API server takes exactly the nodes on available hosts for ready. -/
theorem isReady_iff (h : w.Current n) (hdel : n.deleting = false) :
    isSingBoxNodeReady (w.listed n) = true ↔ w.Available n := by
  rw [isReady_of_isSet (nodeReadyCondition_type ..) (h hdel), nodeReadyCondition_status]
  rfl

end HealthWorld

/-- Every node has come to rest, and none is being deleted. -/
def HealthController.AtRest (s : HealthController) : Prop :=
  ∀ n ∈ s.world.nodes, n.deleting = false ∧ n.name ∉ s.queue ∧ s.work n.name = none

section
variable [Library] [MapOrder]

theorem exists_user_of_answer {c : Cluster} {requestUUID : String} {obs : List ClientOutbound}
    (h : handleClientConfig c requestUUID = .ok obs) : ∃ u cred, matchUser c requestUUID = some (u, cred) := by
  cases hm : matchUser c requestUUID with
  | some found => exact ⟨found.1, found.2, rfl⟩
  | none =>
    unfold handleClientConfig at h
    split at h
    · cases h
    · obtain ⟨_, _, h⟩ := Except.bind_ok h
      simp [hm] at h

/-- In every run in which the conditions can be written, a client that asks when
the controller is at rest gets only paths that start at a node on an available
host, and lead to one if they lead to a node. -/
theorem answer_available {s₀ s : HealthController} {trace : HealthTrace} (h : Run HealthController.Step s₀ trace s)
    (hstart : s₀.Started) (hwritten : ∀ x ∈ trace, StatusWritten x.1 x.2.1) (hrest : s.AtRest) {c : Cluster}
    (hc : c.nodes.Perm (s.world.nodes.map s.world.listed)) {requestUUID : String} {obs : List ClientOutbound}
    (hh : handleClientConfig c requestUUID = .ok obs) {ob : ProxyOutbound} (hob : .proxy ob ∈ obs) :
    ∃ n ∈ s.world.nodes, ∃ t, ob.tag = pathTag t n.name ∧ s.world.Available n ∧
      ∀ n' ∈ s.world.nodes, n'.hasRole .outbound = true → n'.name = t → s.world.Available n' := by
  have hready : ∀ n ∈ s.world.nodes, isSingBoxNodeReady (s.world.listed n) = true ↔ s.world.Available n := by
    intro n hn
    obtain ⟨hdel, hq, hidle⟩ := hrest n hn
    exact HealthWorld.isReady_iff ((HealthController.tracked_of_run h hstart hwritten).settled hq hidle n hn rfl) hdel
  obtain ⟨u, cred, hm⟩ := exists_user_of_answer hh
  obtain ⟨cin, hin, hb⟩ := handleClientConfig_ok hm hh
  obtain ⟨rin, hwalks, rfl⟩ := buildClientConfig_ok hin hb
  obtain ⟨I, t, ⟨hpath, _⟩, htag⟩ := hwalks.advertisesExactly.known ob hob
  obtain ⟨n, hn, rfl⟩ := List.mem_map.1 (hc.mem_iff.1 hpath.entry)
  refine ⟨n, hn, t, htag, (hready n hn).1 hpath.ready, fun n' hn' hrole hname => ?_⟩
  exact (hready n' hn').1 (hpath.online _ (hc.mem_iff.2 (List.mem_map_of_mem hn')) hrole hname)

end

/-! ### A client of `beacon` -/

section
attribute [local instance] plainLibrary storedOrder

def beaconCluster : Cluster where
  ns := "proxy"
  nodes := [beaconRestarted.world.listed beacon]
  users := [alice]
  secret := pathCluster.secret
  nodes_nodup := List.nodup_singleton _
  externalOutbounds_nodup := noExternals_nodup
  users_nodup := edgeCluster.users_nodup
  policies_nodup := noPolicies_nodup

def beaconOutbound : ProxyOutbound :=
  buildProxyOutbound "beacon" "beacon.test" 443 .hysteria2 "alice" "beacon" "" ⟨aliceUUID⟩

theorem beacon_answered :
    handleClientConfig beaconCluster aliceUUID = .ok [.proxy beaconOutbound, .selector "hk" ["beacon"], .direct] := by
  rfl

theorem answer_available_beacon :
    ∃ trace s, Run HealthController.Step beaconRestarted trace s ∧ trace.map (·.2.1) = healthPass "beacon" 5 ∧
      ∃ n ∈ s.world.nodes, ∃ t, beaconOutbound.tag = pathTag t n.name ∧ s.world.Available n ∧
        ∀ n' ∈ s.world.nodes, n'.hasRole .outbound = true → n'.name = t → s.world.Available n' := by
  obtain ⟨trace, s, hrun, hactions, hnodes, _, hrecord, hq, hidle⟩ := beaconRestarted_pass
  have hrest : s.AtRest := by
    intro n hn
    rw [hnodes, List.mem_singleton] at hn
    subst hn
    exact ⟨rfl, hq, hidle⟩
  have hlisted : s.world.listed beacon = beaconRestarted.world.listed beacon := by
    have hname : s.world.record beacon.name = beaconRestarted.world.record beacon.name := hrecord
    simp only [HealthWorld.listed, hname]
  have hc : beaconCluster.nodes.Perm (s.world.nodes.map s.world.listed) := by
    rw [hnodes, List.map_singleton, hlisted]
    exact .refl _
  exact ⟨trace, s, hrun, hactions, answer_available hrun beaconRestarted_started (statusWritten_of_pass hactions) hrest hc
    beacon_answered List.mem_cons_self⟩

end

end SingboxOperator
