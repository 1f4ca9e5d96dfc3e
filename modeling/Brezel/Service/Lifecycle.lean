import Brezel.Service.Routes

/-!
# Cleanup, expiration and lifecycle transitions

A transition writes its intent, fences the sandbox, makes its outside calls without the mutex, and
writes the result.  Each function below is a source function; the bodies of critical sections that
the source writes between a lock and an unlock are definitions of their own, named after the
function and what the section does.

A cleanup runs outside the mutex (`cleanupSandboxOutsideLock`) for `Delete` and for reconciliation,
and inside it (`reconcileCleanupLocked`) for reads of an expired or half-deleted sandbox.
-/

namespace Brezel.Service

open Domain Store

/-- What a mutation returns. -/
abbrev Outcome := Sandbox × Operation × Option ServiceError

/-- The error of an outcome. -/
def failureOf {α : Type} : Except ServiceError α → Option ServiceError
  | .ok _ => none
  | .error error => some error

/-! ## Transitions -/

/-- `beginTransitionLocked`: write the transitional state together with a running operation. -/
def beginTransitionLocked (sandbox : Sandbox) (idempotencyKey kind : String)
    (target : SandboxState) : Code (Operation × Option ServiceError) := do
  if canTransition sandbox.state target = false then
    return (Operation.zero, some (.conflict "invalid lifecycle transition"))
  let at_ ← now
  let id ← randomID "op"
  let operation : Operation :=
    ⟨id, sandbox.projectID, kind, sandbox.id, .running, idempotencyKey, at_, at_, none⟩
  let begun := { sandbox with
    state := target, updatedAt := at_, revision := sandbox.revision + 1, failure := none }
  let result ← updateRows fun choice state => .ok ((),
    (((state.putSandbox begun).putOperation operation).putIdempotency operation).appendEvent
      (eventFor choice begun operation.id ("sandbox." ++ target.text) at_ []))
  return (operation, failureOf result)

/-- The record a completed transition writes. -/
def completedSandbox (sandbox : Sandbox) (target : SandboxState) (at_ : Time) : Sandbox :=
  let completed := { sandbox with
    state := target, updatedAt := at_, revision := sandbox.revision + 1, failure := none }
  if target = .running then markSandboxActive completed at_ else completed

/-- A sandbox that was resumed counts as active. -/
def noteResumed (key : Key) (target : SandboxState) (at_ : Time) : Code Unit :=
  access fun _ memory => ((), if target = .running then { memory with
    recentActivity := Function.update memory.recentActivity key at_ } else memory)

/-- `completeTransitionLocked`. -/
def completeTransitionLocked (sandbox : Sandbox) (operation : Operation) (target : SandboxState) :
    Code Outcome := do
  if canTransition sandbox.state target = false then
    return (sandbox, operation, some (.conflict "invalid lifecycle transition"))
  let at_ ← now
  noteResumed (sandboxKey sandbox) target at_
  let completed := completedSandbox sandbox target at_
  let succeeded := { operation with state := .succeeded, updatedAt := at_, failure := none }
  let result ← updateRows fun choice state => .ok ((),
    ((state.putSandbox completed).putOperation succeeded).appendEvent
      (eventFor choice completed operation.id ("sandbox." ++ target.text) at_ []))
  return (completed, succeeded, failureOf result)

/-- `failTransitionLocked`. -/
def failTransitionLocked (sandbox : Sandbox) (operation : Operation) (code : String) :
    Code Outcome := do
  let at_ ← now
  let failure : Failure :=
    ⟨code, "sandbox backend did not confirm the requested transition", true⟩
  let unconfirmed := { sandbox with
    state := .unknown, updatedAt := at_, revision := sandbox.revision + 1, failure := some failure }
  let failed := { operation with state := .failed, updatedAt := at_, failure := some failure }
  let _ ← updateRows fun choice state => .ok ((),
    ((state.putSandbox unconfirmed).putOperation failed).appendEvent
      (eventFor choice unconfirmed operation.id "sandbox.unknown" at_ [("code", code)]))
  return (unconfirmed, failed, some (.backend "lifecycle transition"))

/-- `markUnknownLocked`. -/
def markUnknownLocked (sandbox : Sandbox) (code : String) :
    Code (Sandbox × Option ServiceError) := do
  let at_ ← now
  let unknown := { sandbox with
    state := .unknown, updatedAt := at_, revision := sandbox.revision + 1
    failure := some ⟨code, "backend state could not be confirmed", true⟩ }
  let result ← updateRows fun choice state => .ok ((),
    (state.putSandbox unknown).appendEvent
      (eventFor choice unknown "" "sandbox.unknown" at_ [("code", code)]))
  return (unknown, failureOf result)

/-- `markMissingLocked`. -/
def markMissingLocked (sandbox : Sandbox) : Code (Sandbox × Option ServiceError) := do
  note (.missingLocked (sandboxKey sandbox))
  let at_ ← now
  let missing := { sandbox with
    state := .failed, updatedAt := at_, revision := sandbox.revision + 1
    failure := some ⟨"backend_resource_missing",
      "backend confirmed the sandbox resource is absent", false⟩ }
  let result ← updateRows fun choice state => .ok ((),
    (state.putSandbox missing).appendEvent
      (eventFor choice missing "" "sandbox.failed" at_ [("code", "backend_resource_missing")]))
  return (missing, failureOf result)

/-! ## Cleanup -/

/-- The durable intent to clean up: `CleanupTarget` is `deleted` or `expired`. -/
def cleanupIntended (sandbox : Sandbox) : Bool :=
  sandbox.cleanupTarget = .deleted || sandbox.cleanupTarget = .expired

/-- The errors a cleanup can meet outside. -/
inductive CleanupError
  | backend (error : BackendError)
  | route (failure : RouteFailure)
  | emptyIdentity
  deriving DecidableEq, Repr

/-- The lookup of a missing backend identifier at the start of a cleanup. -/
def findForCleanup (sandbox : Sandbox) : Code (Except (String × CleanupError) Sandbox) := do
  if sandbox.backendID ≠ "" then
    return .ok sandbox
  match ← backendCall (sandboxKey sandbox) (.find sandbox.id sandbox.projectID) with
  | .ok remote =>
    if RemoteSandbox.id remote ≠ "" then
      return .ok { sandbox with backendID := RemoteSandbox.id remote }
    return .error ("backend_cleanup_identity_invalid", .emptyIdentity)
  | .error .notFound => return .ok sandbox
  | .error error => return .error ("backend_cleanup_recovery_failed", .backend error)

/-- The backend deletion of a cleanup.  Confirmed absence counts as success. -/
def deleteBackend (sandbox : Sandbox) : Code (Option BackendError) := do
  if sandbox.backendID = "" then
    return none
  match ← backendCall (sandboxKey sandbox) (.delete sandbox.backendID) with
  | .ok _ => return none
  | .error .notFound => return none
  | .error error => return some error

/-- The fence of a cleanup: close the route before the backend resource goes away. -/
def fenceForCleanup (deployment : Deployment) (sandbox : Sandbox) :
    Code (Sandbox × Option RouteFailure) := do
  if sandbox.nodeRouteID = "" then
    return (sandbox, none)
  prepareNodeRoutePause deployment sandbox

/-- `cleanupSandboxOutsideLock`: the sandbox with what was learned of it, and the failure code and
error when a step failed. -/
def cleanupSandboxOutsideLock (deployment : Deployment) (sandbox : Sandbox) :
    Code (Sandbox × Option (String × CleanupError)) := do
  match ← findForCleanup sandbox with
  | .error failure => return (sandbox, some failure)
  | .ok found =>
  match ← recoverNodeRouteForCleanup deployment found with
  | (recovered, some failure) =>
    return (recovered, some ("node_route_cleanup_recovery_failed", .route failure))
  | (recovered, none) =>
  match ← fenceForCleanup deployment recovered with
  | (closed, some failure) =>
    return (closed, some ("node_route_cleanup_fence_failed", .route failure))
  | (closed, none) =>
  match ← deleteBackend closed with
  | some error => return (closed, some ("backend_cleanup_failed", .backend error))
  | none =>
  match ← removeNodeRoute deployment closed with
  | (removed, some failure) => return (removed, some ("node_route_cleanup_failed", .route failure))
  | (removed, none) => return (removed, none)

/-- `completeLatestOperation`. -/
def completeLatestOperation (state : State) (projectID resourceID kindStart : String)
    (at_ : Time) : State :=
  let selected := state.operations.entries.foldl (fun selected pair =>
    if pair.2.projectID ≠ projectID ∨ pair.2.resourceID ≠ resourceID ∨
        hasStart pair.2.kind kindStart = false then selected
    else
      match selected with
      | none => some pair.2
      | some latest => if latest.updatedAt < pair.2.updatedAt then some pair.2 else selected) none
  match selected with
  | none => state
  | some operation =>
    state.putOperation { operation with state := .succeeded, updatedAt := at_, failure := none }

/-- The last write of `reconcileCleanupLocked`. -/
def finishCleanupLocked (sandbox : Sandbox) (target : SandboxState) :
    Code (Sandbox × Option ServiceError) := do
  let at_ ← now
  let finished := { sandbox with
    state := target, updatedAt := at_, revision := sandbox.revision + 1, failure := none }
  let result ← updateRows fun choice state =>
    let written := state.putSandbox finished
    let settled := if target = .deleted then
      completeLatestOperation written finished.projectID finished.id "delete_sandbox:" at_
      else written
    .ok ((), settled.appendEvent
      (eventFor choice finished "" ("sandbox." ++ target.text) at_ []))
  return (finished, failureOf result)

/-- The lookup of `reconcileCleanupLocked`, which takes the identifier of any successful answer. -/
def findLocked (sandbox : Sandbox) : Code (Option Sandbox) := do
  if sandbox.backendID ≠ "" then
    return some sandbox
  match ← backendCall (sandboxKey sandbox) (.find sandbox.id sandbox.projectID) with
  | .ok remote => return some { sandbox with backendID := RemoteSandbox.id remote }
  | .error .notFound => return some sandbox
  | .error _ => return none

/-- `reconcileCleanupLocked`. -/
def reconcileCleanupLocked (deployment : Deployment) (sandbox : Sandbox) :
    Code (Sandbox × Option ServiceError) := do
  if cleanupIntended sandbox = false then
    return (sandbox, some (.conflict "invalid cleanup target"))
  note (.cleaningLocked (sandboxKey sandbox))
  match ← findLocked sandbox with
  | none => markUnknownLocked sandbox "backend_cleanup_recovery_failed"
  | some found =>
  match ← deleteBackend found with
  | some _ => markUnknownLocked found "backend_cleanup_failed"
  | none =>
  match ← removeNodeRoute deployment found with
  | (removed, some _) => markUnknownLocked removed "node_route_cleanup_failed"
  | (removed, none) => finishCleanupLocked removed sandbox.cleanupTarget

/-- `beginExpirationLocked`. -/
def beginExpirationLocked (sandbox : Sandbox) : Code (Sandbox × Option ServiceError) := do
  if sandbox.cleanupTarget = .deleted then
    return (sandbox, some (.conflict "sandbox deletion is already in progress"))
  if sandbox.state = .deleting ∧ sandbox.cleanupTarget = .expired then
    return (sandbox, none)
  if sandbox.state ≠ .deleting ∧ canTransition sandbox.state .deleting = false then
    return (sandbox, some (.conflict ("cannot expire sandbox from " ++ sandbox.state.text)))
  let at_ ← now
  let expiring := { sandbox with
    cleanupTarget := .expired, state := .deleting, updatedAt := at_
    revision := sandbox.revision + 1 }
  let result ← updateRows fun choice state => .ok ((),
    (state.putSandbox expiring).appendEvent
      (eventFor choice expiring "" "sandbox.expiring" at_ []))
  return (expiring, failureOf result)

/-- `expireLocked`. -/
def expireLocked (deployment : Deployment) (sandbox : Sandbox) :
    Code (Sandbox × Option ServiceError) := do
  match ← beginExpirationLocked sandbox with
  | (expiring, some error) => return (expiring, some error)
  | (expiring, none) => reconcileCleanupLocked deployment expiring

/-! ## Pause and resume -/

/-- The first section of `lifecycleAction`: the checks, the intent and the fence. -/
def lifecycleActionBegin (key : Key) (idempotencyKey kind : String)
    (source transitional : SandboxState) : Code (Except Outcome (Sandbox × Operation)) := do
  match requireMutation key.1 idempotencyKey with
  | .error error => return .error (Sandbox.zero, Operation.zero, some error)
  | .ok () =>
  match ← getSandbox key with
  | .error error => return .error (Sandbox.zero, Operation.zero, some error)
  | .ok sandbox =>
  match ← lookupIdempotency key.1 (kind ++ ":" ++ key.2) idempotencyKey with
  | some existing => return .error (sandbox, existing, none)
  | none =>
  if ← fenced key then
    return .error (sandbox, Operation.zero,
      some (.conflict "sandbox has an active backend mutation"))
  if sandbox.state ≠ source then
    return .error (sandbox, Operation.zero, some (.conflict
      ("sandbox is " ++ sandbox.state.text ++ ", expected " ++ source.text)))
  if ← hasActiveGuestOperationsLocked key then
    return .error (sandbox, Operation.zero,
      some (.conflict "sandbox has active guest operations"))
  match ← beginTransitionLocked sandbox idempotencyKey (kind ++ ":" ++ key.2) transitional with
  | (operation, some error) => return .error (sandbox, operation, some error)
  | (operation, none) =>
  let begun := sandboxOrZero (← getSandbox key)
  setFence key
  return .ok (begun, operation)

/-- The last section of a transition. -/
def finishTransition (key : Key) (sandbox : Sandbox) (operation : Operation)
    (target : SandboxState) (failureCode : Option String) : Code Outcome := do
  clearFence key
  match failureCode with
  | some code => failTransitionLocked sandbox operation code
  | none => completeTransitionLocked sandbox operation target

/-- `lifecycleAction`; `call` returns the sandbox with what it learned and whether it succeeded. -/
def lifecycleAction (key : Key) (idempotencyKey kind : String)
    (source transitional target : SandboxState) (call : Sandbox → Code (Sandbox × Bool)) :
    Code Outcome := do
  match ← locked (lifecycleActionBegin key idempotencyKey kind source transitional) with
  | .error outcome => return outcome
  | .ok (begun, operation) =>
  let (sandbox, succeeded) ← call begun
  locked (finishTransition key sandbox operation target
    (if succeeded then none else some ("backend_" ++ kind ++ "_failed")))

/-- Pause outside the mutex. -/
def pauseOutside (deployment : Deployment) (sandbox : Sandbox) : Code (Sandbox × Bool) := do
  match ← prepareNodeRoutePause deployment sandbox with
  | (drained, some _) => return (drained, false)
  | (drained, none) =>
  match ← backendCall (sandboxKey drained)
      (.pause drained.backendID drained.lifecycle.standbyCheckpoint) with
  | .error _ => return (drained, false)
  | .ok _ =>
  let (standby, failure) ← completeNodeRouteStandby deployment drained
  return (standby, failure.isNone)

/-- `Pause`. -/
def pause (deployment : Deployment) (key : Key) (idempotencyKey : String) : Code Outcome :=
  lifecycleAction key idempotencyKey "pause_sandbox" .running .pausing .standby
    (pauseOutside deployment)

/-- Resume outside the mutex. -/
def resumeOutside (deployment : Deployment) (fuel : Nat) (sandbox : Sandbox) :
    Code (Sandbox × Bool) := do
  let at_ ← now
  let remaining := (sandbox.expiresAt - at_).tdiv (seconds 1)
  if remaining < 1 then
    return (sandbox, false)
  match ← backendCall (sandboxKey sandbox)
      (.resume sandbox.backendID sandbox.lifecycle.standbyCheckpoint remaining) with
  | .error _ => return (sandbox, false)
  | .ok remote =>
  let (resumed, failure) ← resumeNodeRoute deployment fuel
    { sandbox with backendID := RemoteSandbox.id remote }
  return (resumed, failure.isNone)

/-- `Resume`. -/
def resume (deployment : Deployment) (fuel : Nat) (key : Key) (idempotencyKey : String) :
    Code Outcome :=
  lifecycleAction key idempotencyKey "resume_sandbox" .standby .resuming .running
    (resumeOutside deployment fuel)

/-! ## Delete -/

/-- The first section of `Delete`. -/
def deleteBegin (key : Key) (idempotencyKey : String) :
    Code (Except Outcome (Sandbox × Operation)) := do
  match requireMutation key.1 idempotencyKey with
  | .error error => return .error (Sandbox.zero, Operation.zero, some error)
  | .ok () =>
  match ← getSandbox key with
  | .error error => return .error (Sandbox.zero, Operation.zero, some error)
  | .ok sandbox =>
  match ← lookupIdempotency key.1 ("delete_sandbox:" ++ key.2) idempotencyKey with
  | some existing => return .error (sandbox, existing, none)
  | none =>
  if ← fenced key then
    return .error (sandbox, Operation.zero,
      some (.conflict "sandbox has an active backend mutation"))
  if sandbox.state = .deleted ∨ sandbox.state = .expired then
    return .error (sandbox, Operation.zero, some (.conflict "sandbox is already terminal"))
  if ← hasActiveGuestOperationsLocked key then
    return .error (sandbox, Operation.zero,
      some (.conflict "sandbox has active guest operations"))
  match ← beginTransitionLocked { sandbox with cleanupTarget := .deleted } idempotencyKey
      ("delete_sandbox:" ++ key.2) .deleting with
  | (operation, some error) => return .error (sandbox, operation, some error)
  | (operation, none) =>
  let begun := sandboxOrZero (← getSandbox key)
  setFence key
  return .ok (begun, operation)

/-- The failure code of a cleanup; a missing resource is none. -/
def deleteFailureCode : Option (String × CleanupError) → Option String
  | none => none
  | some (_, .backend .notFound) => none
  | some (code, _) => some (if code = "" then "backend_delete_failed" else code)

/-- `Delete`. -/
def delete (deployment : Deployment) (key : Key) (idempotencyKey : String) : Code Outcome := do
  match ← locked (deleteBegin key idempotencyKey) with
  | .error outcome => return outcome
  | .ok (begun, operation) =>
  let (sandbox, failure) ← cleanupSandboxOutsideLock deployment begun
  locked (finishTransition key sandbox operation .deleted (deleteFailureCode failure))

/-! ## Checkpoints -/

/-- The first section of `Checkpoint`. -/
def checkpointBegin (deployment : Deployment) (key : Key) (idempotencyKey name : String)
    (kind : CheckpointKind) :
    Code (Except (Checkpoint × Operation × Option ServiceError) (Sandbox × Operation)) := do
  match requireMutation key.1 idempotencyKey with
  | .error error => return .error (Checkpoint.zero, Operation.zero, some error)
  | .ok () =>
  if name = "" ∨ containsAny name ['\r', '\n'] then
    return .error (Checkpoint.zero, Operation.zero, some (.invalid "checkpoint name is required"))
  let digest := deployment.checkpointDigest name kind
  match ← getSandbox key with
  | .error error => return .error (Checkpoint.zero, Operation.zero, some error)
  | .ok sandbox =>
  if sandbox.state ≠ .running then
    return .error (Checkpoint.zero, Operation.zero, some (.conflict "sandbox must be running"))
  if ← hasActiveGuestOperationsLocked key then
    return .error (Checkpoint.zero, Operation.zero,
      some (.conflict "sandbox has active guest operations"))
  if (kind = .filesystem ∧ deployment.capabilities.filesystemCheckpoint = false) ∨
      (kind = .fullState ∧ deployment.capabilities.fullStateCheckpoint = false) then
    return .error (Checkpoint.zero, Operation.zero,
      some (.denied "requested checkpoint kind is not enforced by backend"))
  match ← lookupIdempotencyInput key.1 ("checkpoint_sandbox:" ++ key.2) idempotencyKey digest with
  | .error error => return .error (Checkpoint.zero, Operation.zero, some error)
  | .ok (some existing) =>
    let checkpoint ← look fun _ memory =>
      (memory.state.checkpoints.lookup (key.1, existing.resourceID)).getD Checkpoint.zero
    return .error (checkpoint, existing, none)
  | .ok none =>
  if ← fenced key then
    return .error (Checkpoint.zero, Operation.zero,
      some (.conflict "sandbox has an active backend mutation"))
  let id ← randomID "op"
  let at_ ← now
  let operation : Operation := ⟨id, key.1, "checkpoint_sandbox:" ++ key.2, key.2, .running,
    idempotencyKey, at_, at_, none⟩
  match ← updateRows fun _ state => .ok ((), ((state.putOperation operation).putIdempotency
      operation).putIdempotencyDigest operation digest) with
  | .error error => return .error (Checkpoint.zero, operation, some error)
  | .ok () =>
  setFence key
  return .ok (sandbox, operation)

/-- The last section of `Checkpoint`. -/
def checkpointFinish (key : Key) (kind : CheckpointKind) (sandbox : Sandbox)
    (operation : Operation) (reply : Except BackendError RemoteCheckpoint) :
    Code (Checkpoint × Operation × Option ServiceError) := do
  clearFence key
  match reply with
  | .error _ =>
    let at_ ← now
    let failed := { operation with
      state := .failed, updatedAt := at_
      failure := some ⟨"backend_checkpoint_failed",
        "sandbox backend could not create the checkpoint", true⟩ }
    let _ ← updateRows fun _ state => .ok ((), state.putOperation failed)
    return (Checkpoint.zero, failed, some (.backend "create checkpoint"))
  | .ok remote =>
    let id ← randomID "chk"
    let createdAt ← now
    let at_ ← now
    let checkpoint : Checkpoint := ⟨id, key.1, key.2, sandbox.environmentRevision,
      sandbox.backend, remote.ref, remote.kind, createdAt⟩
    let succeeded := { operation with resourceID := id, state := .succeeded, updatedAt := at_ }
    let kindText := match kind with
      | .unset => ""
      | .filesystem => "filesystem"
      | .fullState => "full_state"
    let result ← updateRows fun choice state => .ok ((),
      ((state.putCheckpoint checkpoint).putOperation succeeded).appendEvent
        (eventFor choice sandbox succeeded.id "checkpoint.created" at_
          [("checkpoint_id", id), ("kind", kindText)]))
    return (checkpoint, succeeded, failureOf result)

/-- `Checkpoint`. -/
def checkpoint (deployment : Deployment) (key : Key) (idempotencyKey name : String)
    (kind : CheckpointKind) : Code (Checkpoint × Operation × Option ServiceError) := do
  match ← locked (checkpointBegin deployment key idempotencyKey name kind) with
  | .error outcome => return outcome
  | .ok (sandbox, operation) =>
  let reply ← backendCall key (.checkpoint sandbox.backendID kind name)
  locked (checkpointFinish key kind sandbox operation reply)

/-- `getCheckpoint`. -/
def getCheckpoint (key : Key) : Code (Except ServiceError Checkpoint) :=
  look fun choice memory =>
    if choice.readFails then .error .store
    else
      match memory.state.checkpoints.lookup key with
      | none => .error .notFound
      | some checkpoint => .ok checkpoint

/-- `checkpointInUseLocked`: a failing store reads as a checkpoint that is not in use. -/
def checkpointInUseLocked (key : Key) (sourceSandboxID : String) : Code Bool :=
  look fun choice memory => !choice.usesUnread &&
    memory.state.sandboxes.entries.any fun pair =>
      pair.2.projectID = key.1 && !pair.2.state.terminal &&
        (pair.2.id = sourceSandboxID || pair.2.sourceCheckpointID = key.2)

/-- The end of `DeleteCheckpoint`: the answer of the backend.  Confirmed absence counts as
success. -/
def deleteCheckpointFinish (key source : Key) (operation : Operation)
    (failure : Option BackendError) : Code (Operation × Option ServiceError) := do
  match failure with
  | some _ =>
    let at_ ← now
    let failed := { operation with
      state := .failed, updatedAt := at_
      failure := some ⟨"backend_checkpoint_delete_unconfirmed",
        "sandbox engine did not confirm checkpoint cleanup", true⟩ }
    let _ ← updateRows fun _ state => .ok ((), state.putOperation failed)
    return (failed, some (.backend "delete checkpoint"))
  | none =>
    let at_ ← now
    let succeeded := { operation with state := .succeeded, updatedAt := at_ }
    let result ← updateRows fun choice state =>
      let removed := (state.dropCheckpoint key).putOperation succeeded
      .ok ((), match removed.row source with
        | none => removed
        | some sandbox => removed.appendEvent (eventFor choice sandbox succeeded.id
            "checkpoint.deleted" at_ [("checkpoint_id", key.2)]))
    return (succeeded, failureOf result)

/-- The body of `DeleteCheckpoint`, inside the mutex. -/
def deleteCheckpointLocked (key : Key) (idempotencyKey : String) :
    Code (Operation × Option ServiceError) := do
  match requireMutation key.1 idempotencyKey with
  | .error error => return (Operation.zero, some error)
  | .ok () =>
  match ← lookupIdempotency key.1 ("delete_checkpoint:" ++ key.2) idempotencyKey with
  | some existing => return (existing, none)
  | none =>
  match ← getCheckpoint key with
  | .error error => return (Operation.zero, some error)
  | .ok checkpoint =>
  if ← checkpointInUseLocked key checkpoint.sourceSandboxID then
    return (Operation.zero, some (.conflict "checkpoint is the source of an active sandbox"))
  let at_ ← now
  let id ← randomID "op"
  let operation : Operation := ⟨id, key.1, "delete_checkpoint:" ++ key.2, key.2, .running,
    idempotencyKey, at_, at_, none⟩
  match ← updateRows fun _ state =>
      .ok ((), (state.putOperation operation).putIdempotency operation) with
  | .error error => return (operation, some error)
  | .ok () =>
  let source : Key := (key.1, checkpoint.sourceSandboxID)
  match ← backendCall source (.deleteCheckpoint checkpoint.backendRef) with
  | .ok _ => deleteCheckpointFinish key source operation none
  | .error .notFound => deleteCheckpointFinish key source operation none
  | .error error => deleteCheckpointFinish key source operation (some error)

/-- `DeleteCheckpoint`. -/
def deleteCheckpoint (key : Key) (idempotencyKey : String) :
    Code (Operation × Option ServiceError) :=
  locked (deleteCheckpointLocked key idempotencyKey)

end Brezel.Service
