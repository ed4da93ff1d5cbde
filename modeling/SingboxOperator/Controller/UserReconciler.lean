import SingboxOperator.Controller.Collect
import SingboxOperator.Lib.GoStrings
/-!
# The reconcilers of users and groups

`UserReconciler` and `UserGroupReconciler`. Neither writes a config: a user's
run touches the inbound nodes the user may use, and a group's run touches the
users that refer to it.
-/
open SingboxOperator.Lib

namespace SingboxOperator

structure UserStatus where
  activeNodeCount : Nat
  activeNodes : List String
  conditions : List StatusCondition
  deriving DecidableEq, Repr

/-- What a run leaves behind: the nodes it has touched, and the status unless writing it fails. -/
structure UserRun where
  touched : List String
  status : Except String UserStatus

/-- A group that does not exist restricts nothing. -/
def findMatchingInboundNodes (c : Cluster) (user : User) : Except String (List SingBoxNode) := do
  let allNodes ← c.list .singBoxNode "SingBoxNodes" c.nodes
  let inbound := allNodes.filter fun n => n.hasRole .inbound
  if user.spec.userGroupRef = "" then .ok inbound
  else
    match c.userGroup user.spec.userGroupRef with
    | .error e => if e.notFound then .ok inbound else .error e.message
    | .ok ug =>
      .ok (inbound.filter fun n => isNodeAllowed n.name (nameSet ug.spec.allowedNodes) (nameSet ug.spec.deniedNodes))

/-- The condition about the group, for a user that names one. -/
def userGroupCondition (c : Cluster) (user : User) : Except String (List StatusCondition) :=
  if user.spec.userGroupRef = "" then .ok []
  else
    match c.userGroup user.spec.userGroupRef with
    | .ok _ => .ok [{ type := "UserGroupReady", status := "True", reason := "UserGroupFound", message := "" }]
    | .error e =>
      if e.notFound then
        .ok [{ type := "UserGroupReady", status := "False", reason := "UserGroupNotFound",
               message := "UserGroup " ++ quote user.spec.userGroupRef ++ " not found in namespace " ++ quote c.ns }]
      else .error e.message

def userStatus (c : Cluster) (user : User) (nodes : List SingBoxNode) : Except String UserStatus := do
  let group ← userGroupCondition c user
  return {
    activeNodeCount := nodes.length
    activeNodes := nodes.map SingBoxNode.name
    conditions := { type := "Ready", status := "True", reason := "Reconciled",
                    message := "User active on " ++ toString nodes.length ++ " nodes" } :: group }

/-- Nothing happens for a user that is gone. -/
def reconcileUser (c : Cluster) (name : String) : Except String (Option UserRun) :=
  match c.users.find? fun u => u.name = name with
  | none => .ok none
  | some user => do
    let nodes ← findMatchingInboundNodes c user
    return some { touched := nodes.map SingBoxNode.name, status := userStatus c user nodes }

/-- The users a run patches. It runs for a group that is gone as well. -/
def reconcileUserGroup (c : Cluster) (name : String) : Except String (List User) :=
  match c.userGroup name, c.listError .user with
  | .error ⟨false, message⟩, _ => .error message
  | _, some err => .error err
  | _, none => .ok (c.users.filter fun u => u.spec.userGroupRef = name)

end SingboxOperator
