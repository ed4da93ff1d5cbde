import SingboxOperator.Controller.Collect
/-!
# The reconciler of policies

`EgressPolicyReconciler.Reconcile`: what it writes to the status of a policy
and which nodes it touches. It reads the same lists as `collectInput`, but
names the unique egress whether or not the policy is valid.
-/
open SingboxOperator.Lib

namespace SingboxOperator

/-- What a run leaves behind: the status, its conditions and the nodes it has touched. -/
structure PolicyRun where
  status : EgressPolicyStatus
  conditions : List StatusCondition
  touched : List String
  deriving DecidableEq, Repr

/-- The only name, or none. -/
def uniqueName : List String → String
  | [name] => name
  | _ => ""

/-- An unmatched selector is an inactive policy, not a configuration error. -/
def policyConditions (reason message : String) : List StatusCondition :=
  if reason ≠ "" then
    [{ type := "Degraded", status := if reason = "EgressNotFound" then "False" else "True", reason, message },
      { type := "Ready", status := "False", reason, message }]
  else
    [{ type := "Degraded", status := "False", reason := "Resolved", message := "EgressPolicy selectors resolved" },
      { type := "Ready", status := "True", reason := "Resolved", message := "EgressPolicy resolved successfully" }]

section
variable [Library]

/-- The reason and the message of the first check that fails. The checks of
the two actions cannot fail on values of the schema. -/
def validatePolicyResolution (policy : EgressPolicy) (ingressNames egressNames : List String) : String × String :=
  match policy.spec.ingressSelector.valid, policy.spec.egressSelector.valid,
    policy.spec.matchFields.valid policy.spec.fallbackAction.isSome with
  | some err, _, _ => ("InvalidIngressSelector", err)
  | none, some err, _ => ("InvalidEgressSelector", err)
  | none, none, some err => ("InvalidMatch", err)
  | none, none, none =>
    if ingressNames = [] then ("IngressNotFound", "ingressSelector matched no inbound SingBoxNode")
    else if policy.spec.action = .route && egressNames = [] then
      ("EgressNotFound", "egressSelector matched no egress targets; policy is inactive")
    else if policy.spec.action = .route && egressNames.length ≠ 1 then
      ("EgressNotUnique",
        "egressSelector matched " ++ toString egressNames.length ++ " egress targets, expected exactly one")
    else ("", "")

/-- The inbound nodes a policy selects. -/
def ingressNames (policy : EgressPolicy) (nodes : List SingBoxNode) : List String :=
  sortOn id ((nodes.filter fun n => n.hasRole .inbound && policy.spec.ingressSelector.matches n.metadata).map
    SingBoxNode.name)

def policyRun (policy : EgressPolicy) (nodes : List SingBoxNode) (outbounds : List ExternalOutbound) : PolicyRun :=
  let ingress := ingressNames policy nodes
  let egress := sortOn id (egressCandidates policy nodes outbounds)
  let (reason, message) := validatePolicyResolution policy ingress egress
  { status := { resolvedIngresses := ingress, resolvedEgress := uniqueName egress }
    conditions := policyConditions reason message
    touched := ingress }

/-- Nothing happens for a policy that is gone. -/
def reconcilePolicy (c : Cluster) (name : String) : Except String (Option PolicyRun) :=
  match c.policies.find? fun p => p.name = name with
  | none => .ok none
  | some policy =>
    match c.listError .singBoxNode, c.listError .externalOutbound with
    | some err, _ => .error err
    | none, some err => .error err
    | none, none => .ok (some (policyRun policy c.nodes c.externalOutbounds))

theorem mem_ingressNames {policy : EgressPolicy} {nodes : List SingBoxNode} {name : String} :
    name ∈ ingressNames policy nodes ↔
      ∃ n ∈ nodes, n.hasRole .inbound = true ∧ policy.spec.ingressSelector.matches n.metadata = true ∧ n.name = name := by
  simp [ingressNames, and_assoc]

/-- Only inbound nodes the policy selects are touched. -/
theorem touched_of_reconcilePolicy {c : Cluster} {policy name : String} {run : PolicyRun}
    (h : reconcilePolicy c policy = .ok (some run)) (hname : name ∈ run.touched) :
    ∃ p ∈ c.policies, ∃ n ∈ c.nodes, n.hasRole .inbound = true ∧
      p.spec.ingressSelector.matches n.metadata = true ∧ n.name = name := by
  unfold reconcilePolicy at h
  cases hp : c.policies.find? fun p => decide (p.name = policy) with
  | none => simp [hp] at h
  | some p =>
    cases h1 : c.listError .singBoxNode <;> cases h2 : c.listError .externalOutbound <;> simp [hp, h1, h2] at h
    subst h
    exact ⟨p, List.mem_of_find?_eq_some hp, mem_ingressNames.1 hname⟩

end

end SingboxOperator
