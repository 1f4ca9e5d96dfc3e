import Brezel.Service.Lifecycle

/-!
# Operations in a reconciliation pass

A pass lists the operations of the lifecycle once, before it looks at the first resource.  What it
finds out about a resource may settle the latest unfinished operation of a family; an operation is
settled only while it is still the version that was listed.
-/

namespace Brezel.Service

open Domain Store

/-- `sameOperationVersion`. -/
def sameOperationVersion (current expected : Operation) : Bool :=
  current.id = expected.id && current.projectID = expected.projectID &&
    current.resourceID = expected.resourceID && current.kind = expected.kind &&
    current.state = expected.state && current.updatedAt = expected.updatedAt

/-- The latest candidate of a kind. -/
def latestCandidate (candidates : List Operation) (kindStart : String) : Option Operation :=
  candidates.foldl (fun selected operation =>
    if hasStart operation.kind kindStart = false then selected
    else
      match selected with
      | none => some operation
      | some latest =>
        if latest.id = "" ∨ latest.updatedAt < operation.updatedAt then some operation
        else selected) none

/-- `latestIncompleteOperations`. -/
def latestIncompleteOperations (candidates : List Operation) (kindStarts : List String) :
    List Operation :=
  kindStarts.filterMap fun kindStart =>
    (latestCandidate candidates kindStart).filter fun operation =>
      operation.id ≠ "" && operation.state ≠ .succeeded

/-- Settle the selected operations, or report that one of them has changed. -/
def settleOperations (settle : Operation → Operation) :
    List Operation → State → Except ServiceError State
  | [], state => .ok state
  | operation :: rest, state =>
    match state.operations.lookup (operationKey operation) with
    | none => .error .superseded
    | some persisted =>
      if sameOperationVersion persisted operation then
        settleOperations settle rest (state.putOperation (settle operation))
      else .error .superseded

/-- The errors of a lookup in a pass: an absent resource needs no work. -/
def ignoreNotFound : ServiceError → List ServiceError
  | .notFound => []
  | error => [error]

end Brezel.Service
