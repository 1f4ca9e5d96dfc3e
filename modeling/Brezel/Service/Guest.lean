import Brezel.Service.Memory

/-!
# Guest operations

A guest operation is admitted under the mutex, bound to the revision of the row it was admitted
with, run by the data plane, and released.  The data plane asks again before it acts: the binding
must not be revoked or expired, and `nodeBindingIsCurrent` compares it with the durable row.

The operations of the public interface differ in the identifiers they draw and in the events they
log; `GuestKind` holds the difference and `guestOperation` is their common code.
-/

namespace Brezel.Service

open Domain Store Node

/-! ## Admission and release -/

/-- The states in which guest operations are admitted. -/
def admitsGuests (sandbox : Sandbox) : Bool :=
  sandbox.state = .running || (sandbox.state = .standby && sandbox.lifecycle.autoResume)

/-- Note the activity in memory. -/
def markActivity (key : Key) (at_ : Time) : Code Unit :=
  access fun _ memory => ((), { memory with
    recentActivity := Function.update memory.recentActivity key at_ })

/-- Enter an operation into `activeGuestOps` and `activeGuestOpsByProject`. -/
def enterGuest (key : Key) (operationID : String) : Code Unit :=
  access fun choice memory => ((), { memory with
    activeGuestOps := Function.update memory.activeGuestOps key
      ((operationID, choice.thread) :: memory.activeGuestOps key)
    activeGuestOpsByProject := Function.update memory.activeGuestOpsByProject key.1
      (memory.activeGuestOpsByProject key.1 + 1) })

/-- Remove an operation from `activeGuestOps` and `activeGuestOpsByProject`. -/
def leaveGuest (key : Key) (operationID : String) : Code Unit :=
  access fun choice memory => ((), { memory with
    activeGuestOps := Function.update memory.activeGuestOps key
      ((memory.activeGuestOps key).erase (operationID, choice.thread))
    activeGuestOpsByProject := Function.update memory.activeGuestOpsByProject key.1
      (memory.activeGuestOpsByProject key.1 - 1) })

/-- The durable start of activity in `acquireGuestOperation`. -/
def startActivity (key : Key) (sandbox : Sandbox) : Code (Except ServiceError Sandbox) := do
  if sandbox.lifecycle.standbyAfterSeconds ≤ 0 then
    return .ok sandbox
  let startedAt ← now
  match ← recordActivityLocked key startedAt with
  | .error error => return .error error
  | .ok active =>
  markActivity key startedAt
  return .ok active

/-- The body of `acquireGuestOperation`, inside the mutex. -/
def acquireGuestOperation (deployment : Deployment) (key : Key) (operationID : String) :
    Code (Except ServiceError Sandbox) := do
  match validateProjectID key.1 with
  | .error _ => return .error (.invalid "invalid project")
  | .ok () =>
  if isBlank key.2 || containsAny key.2 ['\r', '\n'] then
    return .error (.invalid "invalid sandbox id")
  match ← getSandbox key with
  | .error error => return .error error
  | .ok sandbox =>
  if ← fenced key then
    return .error (.conflict "sandbox has an active backend mutation")
  if sandbox.expiresAt ≤ (← now) then
    return .error (.conflict "sandbox expired")
  if admitsGuests sandbox = false then
    return .error (.conflict ("sandbox is " ++ sandbox.state.text))
  if sandbox.backendID = "" then
    return .error (.backend "sandbox backend identity is unavailable")
  let running ← look fun _ memory => memory.activeGuestOpsByProject key.1
  if deployment.limits.maxConcurrentGuestOpsPerProject ≤ running then
    return .error .quota
  match ← startActivity key sandbox with
  | .error error => return .error error
  | .ok active =>
  note (.admitting key)
  enterGuest key operationID
  return .ok active

/-- The body of the release closure, inside the mutex; `sandbox` is the admitted record. -/
def releaseGuestOperation (key : Key) (operationID : String) (sandbox : Sandbox) : Code Unit := do
  if sandbox.lifecycle.standbyAfterSeconds ≤ 0 then
    leaveGuest key operationID
  else
    let releasedAt ← now
    markActivity key releasedAt
    let _ ← recordActivityLocked key releasedAt
    leaveGuest key operationID

/-! ## Bindings -/

/-- The backend identity and the generation of a binding. -/
def bindingTarget (deployment : Deployment) (sandbox : Sandbox) : String × Nat :=
  if deployment.requiresNodeAssignment then (sandbox.nodeRouteID, sandbox.nodeGeneration)
  else (sandbox.backendID, 0)

/-- The binding that `authorizedNodeDataPlane` asks for: it ends with the sandbox and after five
minutes at the latest. -/
def bindingFor (deployment : Deployment) (sandbox : Sandbox) (operationID : String) (at_ : Time) :
    SandboxBinding :=
  let target := bindingTarget deployment sandbox
  let latest := at_ + seconds (5 * 60)
  ⟨sandbox.projectID, sandbox.id, target.1, operationID, sandbox.revision, target.2,
    if sandbox.expiresAt < latest then sandbox.expiresAt else latest⟩

/-- `authorizedNodeDataPlane`. -/
def authorizedNodeDataPlane (deployment : Deployment) (sandbox : Sandbox) (operationID : String) :
    Code (Except ServiceError SandboxBinding) := do
  if deployment.requiresNodeAssignment ∧
      (sandbox.nodeID = "" ∨ sandbox.nodeRouteID = "" ∨ sandbox.nodeGeneration = 0) then
    return .error (.backend "sandbox has no active node assignment")
  let binding := bindingFor deployment sandbox operationID (← now)
  if binding.acceptable (← now) = false then
    return .error (.backend "could not bind authorized node operation")
  access fun _ memory => ((), { memory with bindings := binding :: memory.bindings })
  return .ok binding

/-- What `nodeBindingIsCurrent` decides from the row it finds. -/
def currentFor (row : Option Sandbox) (at_ : Time) (binding : SandboxBinding) : Bool :=
  match row with
  | none => false
  | some current =>
    let target := if current.nodeRouteID = "" then current.backendID else current.nodeRouteID
    target = binding.backendID && current.revision = binding.revision &&
      at_ < current.expiresAt && admitsGuests current

/-- `nodeBindingIsCurrent`, inside the mutex. -/
def nodeBindingIsCurrent (binding : SandboxBinding) : Code Bool := do
  match ← getSandbox (binding.projectID, binding.sandboxID) with
  | .error _ => return false
  | .ok current =>
  let at_ ← now
  return currentFor (some current) at_ binding

/-- `validate`. -/
def validateBinding (binding : SandboxBinding) : Code (Option BindingError) := do
  let isRevoked ← look fun _ memory => decide (binding.operationID ∈ memory.revoked)
  let at_ ← now
  let isCurrent ← locked (nodeBindingIsCurrent binding)
  return binding.verdict isRevoked at_ isCurrent

/-- `Revoke`. -/
def revokeBinding (binding : SandboxBinding) : Code Unit :=
  access fun _ memory => ((), { memory with revoked := binding.operationID :: memory.revoked })

/-! ## Operations -/

/-- What distinguishes the guest operations: the kind of their identifiers, the events they log,
and whether a failed operation logs its end too. -/
structure GuestKind where
  identifierKind : String
  startEvent : Option String
  finishEvent : Option String
  logsFailure : Bool

/-- `WriteFile`. -/
def writeFile : GuestKind := ⟨"fileop", none, some "file.written", false⟩

/-- `ReadFile`. -/
def readFile : GuestKind := ⟨"fileop", none, some "file.read", false⟩

/-- `RoundTripPort`. -/
def roundTripPort : GuestKind := ⟨"portreq", none, none, false⟩

/-- `OpenPortWebSocket`. -/
def openPortWebSocket : GuestKind := ⟨"wsop", none, none, false⟩

/-- `appendDataEvent`: the event carries the state of the current row. -/
def appendDataEvent (sandbox : Sandbox) : Option String → Code Unit
  | none => return ()
  | some type => do
      let at_ ← now
      let _ ← updateRows fun choice state =>
        match state.row (sandboxKey sandbox) with
        | none => .ok ((), state)
        | some current => .ok ((), state.appendEvent
            { eventFor choice sandbox "" type at_ [] with state := current.state })
      return ()

/-- `translateGuestError` on a refused binding. -/
def translateBindingError : BindingError → ServiceError
  | .invalid => .backend "sandbox guest operation failed"
  | _ => .conflict "sandbox changed before the guest operation started"

/-- The call of the data plane: check the binding, then let the engine act. -/
def runGuest (key : Key) (binding : SandboxBinding) : Code (Option ServiceError) := do
  match ← validateBinding binding with
  | some error => return some (translateBindingError error)
  | none =>
    let succeeded ← guestCall key binding.operationID
    return if succeeded then none else some (.backend "sandbox guest operation failed")

/-- One guest operation from its admission to its release. -/
def guestOperation (deployment : Deployment) (kind : GuestKind) (key : Key) :
    Code (Option ServiceError) := do
  let operationID ← randomID kind.identifierKind
  match ← locked (acquireGuestOperation deployment key operationID) with
  | .error error => return some error
  | .ok sandbox =>
  match ← authorizedNodeDataPlane deployment sandbox operationID with
  | .error error =>
    locked (releaseGuestOperation key operationID sandbox)
    return some error
  | .ok binding =>
  appendDataEvent sandbox kind.startEvent
  let error ← runGuest key binding
  appendDataEvent sandbox
    (if error.isNone || kind.logsFailure then kind.finishEvent else none)
  revokeBinding binding
  locked (releaseGuestOperation key operationID sandbox)
  return error

end Brezel.Service
