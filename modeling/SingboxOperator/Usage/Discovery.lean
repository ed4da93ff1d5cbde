import SingboxOperator.Engine.Compute
import SingboxOperator.Usage.Collector
/-!
# Discovery of the nodes to poll

`discover` follows `K8sDiscoverer.Discover`. Without a namespace of its own the
discoverer lists all namespaces; of a node the target it builds has only the
name. `sort.Slice` may put nodes of one name in any order, as the list they come
from may, so a stable sort of an arbitrary list stands for it.
-/
open SingboxOperator.Lib

namespace SingboxOperator.Usage

/-- A SingBoxNode and its namespace. -/
structure NodeObject where
  ns : String
  node : SingBoxNode

structure PodStatus where
  phase : String
  podIP : String
  deriving DecidableEq, Repr

/-- A discoverer and what the API server answers it. A list is refused when its
error is set; `pods` are those with the labels of a node in a namespace. -/
structure K8sDiscoverer where
  ns : String
  nodes : List NodeObject
  policies : List (String × EgressPolicy) := []
  users : List (String × User) := []
  nodesError : Option String := none
  policiesError : Option String := none
  usersError : Option String := none
  pods : String → String → Except String (List PodStatus)
  nodes_nodup : (nodes.map fun n => (n.ns, n.node.name)).Nodup

/-- `client.InNamespace`: the empty namespace stands for all. -/
def K8sDiscoverer.watches (d : K8sDiscoverer) (ns : String) : Bool := d.ns = "" || ns = d.ns

def listed {α : Type} (what : String) (error : Option String) (items : List α) : Except String (List α) :=
  match error with
  | some e => .error ("listing " ++ what ++ ": " ++ e)
  | none => .ok items

def resolveV2RayAPIAddr (d : K8sDiscoverer) (n : NodeObject) : String :=
  match d.pods n.ns n.node.name with
  | .error _ => n.node.spec.address ++ ":10085"
  | .ok pods =>
    match pods.find? fun pod => pod.phase = "Running" && pod.podIP ≠ "" with
    | some pod => pod.podIP ++ ":10085"
    | none => n.node.spec.address ++ ":10085"

/-- The region of a node, where an empty one is `default`. -/
def regionOf (n : SingBoxNode) : String := if n.spec.region = "" then "default" else n.spec.region

section
variable [Library] [MapOrder]

/-- Names of inbound nodes with the names of the nodes policies route them to. -/
def routesByInbound (policies : List EgressPolicy) (inboundNodes allNodes : List NodeObject) : GoMap String NameSet :=
  let pairs := (policies.filter fun p => p.spec.action = .route).flatMap fun p =>
    (inboundNodes.filter fun n => p.spec.ingressSelector.matches n.node.metadata).flatMap fun inbound =>
      (allNodes.filter fun n => n.node.hasRole .outbound && p.spec.egressSelector.matches n.node.metadata).map
        fun egress => (inbound.node.name, egress.node.name)
  pairs.foldl (fun m e => m.insert e.1 ((m.get e.1 ∅).insert e.2 true)) ∅

def outboundByRegion (allNodes : List NodeObject) : GoMap String (List String) :=
  (allNodes.filter fun n => n.node.hasRole .outbound).foldl
    (fun m n => m.insert (regionOf n.node) (m.get (regionOf n.node) [] ++ [n.node.name])) ∅

/-- One round of the loop that builds the result. -/
def collectTarget (d : K8sDiscoverer) (allNodes : List NodeObject) (policies : List EgressPolicy) (users : List User)
    (n : NodeObject) : CollectTarget :=
  let inboundNodes := allNodes.filter fun n => n.node.hasRole .inbound
  let explicit := (routesByInbound policies inboundNodes allNodes).get n.node.name ∅
  let fallback := (outboundByRegion allNodes).get (regionOf n.node) []
  let outboundNames : NameSet := GoMap.assignAll id (fun _ => true) ∅
    ((MapOrder.range ["Discover", "explicit", n.ns, n.node.name] explicit).map Prod.fst ++ fallback)
  let sortedOutbound :=
    sortOn id ((MapOrder.range ["Discover", "outbound", n.ns, n.node.name] outboundNames).map Prod.fst)
  { nodeName := n.node.name
    v2rayAPIAddr := resolveV2RayAPIAddr d n
    virtualUsers := sortOn id (users.flatMap fun user => sortedOutbound.map fun name => virtualUserName user.name name) }

def K8sDiscoverer.allNodes (d : K8sDiscoverer) : List NodeObject :=
  sortOn (fun n => n.node.name) (d.nodes.filter fun n => d.watches n.ns)

def K8sDiscoverer.inboundNodes (d : K8sDiscoverer) : List NodeObject :=
  d.allNodes.filter fun n => n.node.hasRole .inbound

def discover (d : K8sDiscoverer) : Except String (List CollectTarget) := do
  let listedNodes ← listed "SingBoxNodes" d.nodesError (d.nodes.filter fun n => d.watches n.ns)
  let allNodes := sortOn (fun n => n.node.name) listedNodes
  if (allNodes.filter fun n => n.node.hasRole .inbound).isEmpty then .ok []
  else
    let allPolicies ← listed "EgressPolicies" d.policiesError (d.policies.filter fun p => d.watches p.1)
    let allUsers ← listed "Users" d.usersError (d.users.filter fun u => d.watches u.1)
    let users := sortOn User.name (allUsers.map Prod.snd)
    .ok ((allNodes.filter fun n => n.node.hasRole .inbound).map
      (collectTarget d allNodes (allPolicies.map Prod.snd) users))

/-- There is one target for each inbound node, in order. -/
theorem discover_ok {d : K8sDiscoverer} {targets : List CollectTarget} (h : discover d = .ok targets) :
    ∃ policies users, targets = d.inboundNodes.map (collectTarget d d.allNodes policies users) := by
  unfold discover at h
  cases hn : d.nodesError with
  | some e => simp [listed, hn, bind, Except.bind] at h
  | none =>
    simp only [listed, hn, bind, Except.bind] at h
    split at h
    · rename_i hnil
      have hempty : d.inboundNodes = [] := List.isEmpty_iff.1 hnil
      refine ⟨[], [], ?_⟩
      rw [hempty, ← Except.ok.inj h]
      rfl
    · cases hp : d.policiesError with
      | some e => simp [hp] at h
      | none =>
        cases hu : d.usersError with
        | some e => simp [hp, hu] at h
        | none =>
          simp only [hp, hu] at h
          exact ⟨_, _, (Except.ok.inj h).symm⟩

end

end SingboxOperator.Usage
