import Brezel.Service.Workspaces

/-!
# Reconciliation

The periodic pass that recovers from crashes.  For every sandbox that is not terminal it finishes a
durable cleanup, starts the cleanup of an expired sandbox, or compares the durable row with what
the backend and the node report.  Observations are made without the mutex; before one is written,
the code checks again that the row is still the version it was made for.  Workspaces come before
the sandboxes; after them the pass pauses idle sandboxes.

A pass that has to change the node route fences the sandbox first.  It may give up after that
without writing anything, because its context is cancelled or the store fails; the notes `gaveUp`
mark these places.
-/

namespace Brezel.Service

open Domain Store

/-! ## Versions and observations -/

/-- `sameSandboxReconcileVersion`. -/
def sameSandboxReconcileVersion (current expected : Sandbox) : Bool :=
  current.revision = expected.revision && current.backendID = expected.backendID &&
    current.nodeID = expected.nodeID && current.nodeRouteID = expected.nodeRouteID &&
    current.nodeGeneration = expected.nodeGeneration

/-- `sameReconcileObservation`; `sameFailure` compares every field of a failure. -/
def sameReconcileObservation (left right : Sandbox) : Bool :=
  left.backendID = right.backendID && left.state = right.state && left.nodeID = right.nodeID &&
    left.nodeRouteID = right.nodeRouteID && left.nodeGeneration = right.nodeGeneration &&
    left.failure = right.failure

/-- `latestReconcileOperations`. -/
def latestReconcileOperations (candidates : List Operation) : SandboxState → List Operation
  | .running => latestIncompleteOperations candidates ["create_sandbox", "resume_sandbox:"]
  | .standby => latestIncompleteOperations candidates ["pause_sandbox:", "auto_pause_sandbox:"]
  | _ => []

/-- The errors that a pass reports. -/
def ignoreSuperseded : Except ServiceError Unit → List ServiceError
  | .ok () => []
  | .error .superseded => []
  | .error error => [error]

/-- Mark the place where a result was not written. -/
def noteGivingUp (key : Key) : Except ServiceError Unit → Code Unit
  | .ok () => return ()
  | .error _ => note (.gaveUp key)

/-- `markUnknownObservationLocked`. -/
def markUnknownObservationLocked (current observed : Sandbox) (code : String) :
    Code (Option ServiceError) := do
  let unknown := { observed with
    state := .unknown
    failure := some ⟨code, "backend state could not be confirmed", true⟩ }
  if sameReconcileObservation current unknown then
    return none
  let (_, error) ← markUnknownLocked unknown code
  return error

/-! ## Cleanup of a sandbox with durable intent -/

/-- The first section of `reconcileSandboxCleanup`. -/
def reconcileCleanupBegin (key : Key) : Code (Except (List ServiceError) Sandbox) := do
  match ← getSandbox key with
  | .error error => return .error (ignoreNotFound error)
  | .ok current =>
  if current.state.terminal ∨ cleanupIntended current = false then
    return .error []
  if ← fenced key then
    return .error []
  if ← hasActiveGuestOperationsLocked key then
    return .error []
  setFence key
  return .ok current

/-- `completeReconciledCleanupLocked`. -/
def completeReconciledCleanupLocked (current routed : Sandbox) (candidates : List Operation) :
    Code (List ServiceError) := do
  let at_ ← now
  let completed := { routed with
    state := current.cleanupTarget, updatedAt := at_, revision := current.revision + 1
    failure := none }
  let operations := if current.cleanupTarget = .deleted then
    latestIncompleteOperations candidates ["delete_sandbox:"] else []
  let result ← updateRows fun choice state =>
    match state.row (sandboxKey current) with
    | none => .error .superseded
    | some persisted =>
      if sameSandboxReconcileVersion persisted current = false ∨
          persisted.cleanupTarget ≠ current.cleanupTarget then .error .superseded
      else
        match settleOperations (fun operation =>
            { operation with state := .succeeded, updatedAt := at_, failure := none })
            operations (state.putSandbox completed) with
        | .error error => .error error
        | .ok settled => .ok ((), settled.appendEvent
            (eventFor choice completed "" ("sandbox." ++ completed.state.text) at_ []))
  return ignoreSuperseded result

/-- The last section of `reconcileSandboxCleanup`. -/
def reconcileCleanupFinish (key : Key) (expected routed : Sandbox)
    (failure : Option (String × CleanupError)) (candidates : List Operation) :
    Code (List ServiceError) := do
  clearFence key
  if ← contextCancelled then
    return [.cancelled]
  match ← getSandbox key with
  | .error error => return ignoreNotFound error
  | .ok current =>
  if sameSandboxReconcileVersion current expected = false ∨ current.state.terminal ∨
      current.cleanupTarget ≠ expected.cleanupTarget then
    return []
  match failure with
  | some (code, _) =>
    let error ← markUnknownObservationLocked current routed code
    return .backend code :: error.toList
  | none => completeReconciledCleanupLocked current routed candidates

/-- `reconcileSandboxCleanup`. -/
def reconcileSandboxCleanup (deployment : Deployment) (key : Key) (candidates : List Operation) :
    Code (List ServiceError) := do
  match ← locked (reconcileCleanupBegin key) with
  | .error errors => return errors
  | .ok current =>
  let (routed, failure) ← cleanupSandboxOutsideLock deployment current
  locked (reconcileCleanupFinish key current routed failure candidates)

/-! ## A sandbox the backend does not know -/

/-- The first section of `reconcileMissingSandbox`. -/
def reconcileMissingBegin (key : Key) (expected : Sandbox) :
    Code (Except (List ServiceError) Sandbox) := do
  match ← getSandbox key with
  | .error error => return .error (ignoreNotFound error)
  | .ok current =>
  if sameSandboxReconcileVersion current expected = false ∨ current.state.terminal ∨
      cleanupIntended current then
    return .error []
  if ← hasActiveGuestOperationsLocked key then
    return .error []
  if ← fenced key then
    return .error []
  setFence key
  note (.missing key)
  return .ok current

/-- `markReconciledMissingLocked`. -/
def markReconciledMissingLocked (current routed : Sandbox) (candidates : List Operation) :
    Code (List ServiceError) := do
  let at_ ← now
  let failure : Failure := ⟨"backend_resource_missing",
    "backend confirmed the sandbox resource is absent", false⟩
  let failed := { routed with
    state := .failed, updatedAt := at_, revision := current.revision + 1, failure := some failure }
  let operations := latestIncompleteOperations candidates
    ["create_sandbox", "resume_sandbox:", "pause_sandbox:", "auto_pause_sandbox:",
      "delete_sandbox:"]
  let result ← updateRows fun choice state =>
    match state.row (sandboxKey current) with
    | none => .error .superseded
    | some persisted =>
      if sameSandboxReconcileVersion persisted current = false then .error .superseded
      else
        match settleOperations (fun operation =>
            { operation with state := .failed, updatedAt := at_, failure := some failure })
            operations (state.putSandbox failed) with
        | .error error => .error error
        | .ok settled => .ok ((), settled.appendEvent
            (eventFor choice failed "" "sandbox.failed" at_ [("code", failure.code)]))
  noteGivingUp (sandboxKey current) result
  return ignoreSuperseded result

/-- The last section of `reconcileMissingSandbox`. -/
def reconcileMissingFinish (key : Key) (current routed : Sandbox)
    (failure : Option RouteFailure) (candidates : List Operation) :
    Code (List ServiceError) := do
  clearFence key
  if ← contextCancelled then
    note (.gaveUp key)
    return [.cancelled]
  match ← getSandbox key with
  | .error error =>
    note (.gaveUp key)
    return ignoreNotFound error
  | .ok latest =>
  if sameSandboxReconcileVersion latest current = false ∨ latest.state.terminal ∨
      cleanupIntended latest then
    return []
  match failure with
  | some _ =>
    let error ← markUnknownObservationLocked latest routed
      "node_route_missing_backend_cleanup_failed"
    if error.isSome then
      note (.gaveUp key)
    return .backend "remove stale node route" :: error.toList
  | none => markReconciledMissingLocked latest routed candidates

/-- `reconcileMissingSandbox`. -/
def reconcileMissingSandbox (deployment : Deployment) (key : Key) (expected : Sandbox)
    (candidates : List Operation) : Code (List ServiceError) := do
  match ← locked (reconcileMissingBegin key expected) with
  | .error errors => return errors
  | .ok current =>
  let (routed, failure) ← removeNodeRoute deployment current
  locked (reconcileMissingFinish key current routed failure candidates)

/-! ## The state of one sandbox -/

/-- What a section of the pass decides: return, clean the sandbox up, or go on. -/
inductive Verdict (α : Type)
  | done (errors : List ServiceError)
  | cleanup
  | proceed (value : α)

/-- The pass begins the expiration of a sandbox. -/
def expireInPass {α : Type} (key : Key) (sandbox : Sandbox) : Code (Verdict α) := do
  cancelActiveGuestOperationsLocked key
  match ← beginExpirationLocked sandbox with
  | (_, some error) => return .done [error]
  | (_, none) => return .cleanup

/-- The first section of `reconcileSandboxBackendState`. -/
def reconcileInspectBegin (key : Key) : Code (Verdict Sandbox) := do
  match ← getSandbox key with
  | .error error => return .done (ignoreNotFound error)
  | .ok sandbox =>
  if sandbox.state.terminal then
    return .done []
  if ← fenced key then
    return .done []
  if cleanupIntended sandbox then
    return .cleanup
  if sandbox.expiresAt ≤ (← now) then
    expireInPass key sandbox
  else if ← hasActiveGuestOperationsLocked key then
    return .done []
  else
    return .proceed sandbox

/-- What the backend's answer means for a sandbox that has not changed meanwhile. -/
inductive Finding
  | missing (current : Sandbox)
  | present (current : Sandbox) (remote : RemoteSandbox)

/-- The second section of `reconcileSandboxBackendState`: the answer to the inspection. -/
def reconcileInspected (key : Key) (expected : Sandbox)
    (reply : Except BackendError RemoteSandbox) : Code (Verdict Finding) := do
  match ← getSandbox key with
  | .error error => return .done (ignoreNotFound error)
  | .ok current =>
  if current.revision ≠ expected.revision ∨ current.state.terminal then
    return .done []
  if ← fenced key then
    return .done []
  if ← hasActiveGuestOperationsLocked key then
    return .done []
  if cleanupIntended current then
    return .done []
  if current.expiresAt ≤ (← now) then
    expireInPass key current
  else
    match reply with
    | .error .notFound => return .proceed (.missing current)
    | .error _ =>
      let error ← markUnknownObservationLocked current current "backend_reconcile_failed"
      return .done (.backend "inspect sandbox" :: error.toList)
    | .ok remote =>
      if remote.id = "" ∨ (expected.backendID ≠ "" ∧ remote.id ≠ expected.backendID) then
        let error ← markUnknownObservationLocked current current "backend_identity_mismatch"
        return .done (.backend "backend returned a mismatched sandbox identity" :: error.toList)
      else
        return .proceed (.present current remote)

/-- The row changed, or is no longer one that an observation may touch. -/
def supersededBy (current expected : Sandbox) : Bool :=
  !sameSandboxReconcileVersion current expected || current.state.terminal ||
    cleanupIntended current

/-- The write at the end of `reconcileSandboxBackendState`. -/
def commitObservation (key : Key) (current routed : Sandbox) (remoteState : SandboxState)
    (candidates : List Operation) : Code (List ServiceError) := do
  note (.reported key remoteState)
  let observed := { routed with state := remoteState, failure := none }
  let operations := latestReconcileOperations candidates remoteState
  if sameReconcileObservation current observed ∧ operations = [] then
    return []
  let at_ ← now
  let changed := !sameReconcileObservation current observed
  let written := if changed then
    { observed with updatedAt := at_, revision := current.revision + 1 } else observed
  let result ← updateRows fun choice state =>
    let replaced : Except ServiceError State :=
      if changed then
        match state.row key with
        | none => .error .superseded
        | some persisted =>
          if sameSandboxReconcileVersion persisted current then .ok (state.putSandbox written)
          else .error .superseded
      else .ok state
    match replaced with
    | .error error => .error error
    | .ok replaced =>
      match settleOperations (fun operation =>
          { operation with state := .succeeded, updatedAt := at_, failure := none })
          operations replaced with
      | .error error => .error error
      | .ok settled => .ok ((), if changed then settled.appendEvent
          (eventFor choice written "" "sandbox.reconciled" at_ []) else settled)
  if changed then
    noteGivingUp key result
  return ignoreSuperseded result

/-- The third section of `reconcileSandboxBackendState`: the answer to the route lookup.  It ends
the pass, or fences the sandbox for a route repair. -/
def reconcileObserved (key : Key) (expected routed : Sandbox) (repair : Bool)
    (failure : Option RouteFailure) (remoteState : SandboxState) (candidates : List Operation) :
    Code (Verdict Unit) := do
  match ← getSandbox key with
  | .error error => return .done (ignoreNotFound error)
  | .ok current =>
  if supersededBy current expected then
    return .done []
  if ← fenced key then
    return .done []
  if ← hasActiveGuestOperationsLocked key then
    return .done []
  match failure with
  | some _ =>
    let error ← markUnknownObservationLocked current routed "node_route_reconcile_failed"
    return .done (.backend "reconcile node route" :: error.toList)
  | none =>
  if repair then
    setFence key
    return .proceed ()
  else
    note (.observed { routed with state := remoteState, failure := none })
    let errors ← commitObservation key current routed remoteState candidates
    return .done errors

/-- The last section of `reconcileSandboxBackendState`, after a route repair. -/
def reconcileRepaired (key : Key) (expected routed : Sandbox) (failure : Option RouteFailure)
    (remoteState : SandboxState) (candidates : List Operation) : Code (List ServiceError) := do
  clearFence key
  if ← contextCancelled then
    note (.gaveUp key)
    return [.cancelled]
  match ← getSandbox key with
  | .error error =>
    note (.gaveUp key)
    return ignoreNotFound error
  | .ok current =>
  if supersededBy current expected then
    return []
  if ← hasActiveGuestOperationsLocked key then
    return []
  match failure with
  | some _ =>
    let error ← markUnknownObservationLocked current routed "node_route_reconcile_failed"
    if error.isSome then
      note (.gaveUp key)
    return .backend "reconcile node route" :: error.toList
  | none => commitObservation key current routed remoteState candidates

/-- The part of `reconcileSandboxBackendState` after a successful inspection. -/
def reconcilePresent (deployment : Deployment) (fuel : Nat) (key : Key) (current : Sandbox)
    (remote : RemoteSandbox) (candidates : List Operation) : Code (List ServiceError) := do
  let (routed, repair, failure) ←
    observeNodeRoute deployment { current with backendID := remote.id } remote.state
  if ← contextCancelled then
    return [.cancelled]
  match ← locked (reconcileObserved key current routed repair failure remote.state candidates) with
  | .done errors => return errors
  | .cleanup => return []
  | .proceed () =>
  let (repaired, failure) ← reconcileNodeRoute deployment fuel routed remote.state
  locked (reconcileRepaired key current repaired failure remote.state candidates)

/-- The inspection of `reconcileSandboxBackendState`. -/
def inspectBackend (key : Key) (sandbox : Sandbox) : Code (Except BackendError RemoteSandbox) :=
  if sandbox.backendID = "" then backendCall key (.find key.2 key.1)
  else backendCall key (.inspect sandbox.backendID)

/-- `reconcileSandboxBackendState`. -/
def reconcileSandboxBackendState (deployment : Deployment) (fuel : Nat) (key : Key)
    (candidates : List Operation) : Code (List ServiceError) := do
  if ← contextCancelled then
    return [.cancelled]
  match ← locked (reconcileInspectBegin key) with
  | .done errors => return errors
  | .cleanup => reconcileSandboxCleanup deployment key candidates
  | .proceed expected =>
  let reply ← inspectBackend key expected
  if ← contextCancelled then
    return [.cancelled]
  match ← locked (reconcileInspected key expected reply) with
  | .done errors => return errors
  | .cleanup => reconcileSandboxCleanup deployment key candidates
  | .proceed (.missing current) => reconcileMissingSandbox deployment key current candidates
  | .proceed (.present current remote) =>
    reconcilePresent deployment fuel key current remote candidates

/-! ## Automatic standby -/

/-- The start of `pauseIfIdle`: the checks, the intent and the fence of an idle sandbox. -/
def pauseIfIdleBegin (key : Key) : Code (Except (List ServiceError) (Sandbox × Operation)) := do
  match ← getSandbox key with
  | .error error => return .error [error]
  | .ok sandbox =>
  if sandbox.state ≠ .running ∨ sandbox.lifecycle.standbyAfterSeconds = 0 then
    return .error []
  if ← fenced key then
    return .error []
  if ← hasActiveGuestOperationsLocked key then
    return .error []
  let recent ← look fun _ memory => memory.recentActivity key
  let lastActive := if sandbox.lastActiveAt < recent then recent else sandbox.lastActiveAt
  if lastActive = zeroTime then
    let at_ ← now
    let recorded ← recordActivityLocked key at_
    return .error (failureOf recorded).toList
  else if (← now) < standbyEligibleAt sandbox.lifecycle lastActive then
    return .error []
  else
    let idempotencyKey :=
      "automatic-standby:" ++ toString lastActive ++ ":" ++ toString sandbox.revision
    match ← beginTransitionLocked sandbox idempotencyKey ("auto_pause_sandbox:" ++ key.2)
        .pausing with
    | (_, some error) => return .error [error]
    | (operation, none) =>
    match ← getSandbox key with
    | .error error => return .error [error]
    | .ok begun =>
    setFence key
    return .ok (begun, operation)

/-- `pauseIfIdle`. -/
def pauseIfIdle (deployment : Deployment) (key : Key) : Code (List ServiceError) := do
  match ← locked (pauseIfIdleBegin key) with
  | .error errors => return errors
  | .ok (begun, operation) =>
  let (sandbox, succeeded) ← pauseOutside deployment begun
  let (_, _, error) ← locked (finishTransition key sandbox operation .standby
    (if succeeded then none else some "backend_auto_pause_sandbox_failed"))
  return error.toList

/-! ## The whole pass -/

/-- `isReconciledLifecycleOperation`. -/
def isReconciledLifecycleOperation (operation : Operation) : Bool :=
  operation.kind = "create_sandbox" || operation.kind = "resume_sandbox:" ++ operation.resourceID ||
    operation.kind = "pause_sandbox:" ++ operation.resourceID ||
    operation.kind = "auto_pause_sandbox:" ++ operation.resourceID ||
    operation.kind = "delete_sandbox:" ++ operation.resourceID ||
    operation.kind = "create_workspace" ||
    operation.kind = "delete_workspace:" ++ operation.resourceID

/-- `ListLifecycleOperationsForReconcile`.  SQLite lists the operations in its index, a part of
them. -/
def listLifecycleOperationsForReconcile : Code (Except ServiceError (List Operation)) :=
  look fun choice memory =>
    if choice.readFails then .error .store
    else .ok ((memory.state.operations.entries.map (·.2)).filter fun operation =>
      isReconciledLifecycleOperation operation &&
        (choice.store = .file || choice.indexed operation))

/-- `ListSandboxesForReconcile`. -/
def listSandboxesForReconcile : Code (Except ServiceError (List Sandbox)) :=
  look fun choice memory =>
    if choice.readFails then .error .store
    else .ok ((memory.state.sandboxes.entries.map (·.2)).filter fun sandbox =>
      !sandbox.state.terminal)

/-- The loop of `reconcileBackendState` over the sandboxes. -/
def reconcileSandboxes (deployment : Deployment) (fuel : Nat) (operations : List Operation) :
    List Sandbox → Code (List ServiceError)
  | [] => return []
  | sandbox :: rest => do
      if ← contextCancelled then
        return [.cancelled]
      let errors ← reconcileSandboxBackendState deployment fuel (sandboxKey sandbox)
        (operations.filter fun operation =>
          (operation.projectID, operation.resourceID) = sandboxKey sandbox)
      let others ← reconcileSandboxes deployment fuel operations rest
      return errors ++ others

/-- `reconcileBackendState`. -/
def reconcileBackendState (deployment : Deployment) (fuel : Nat) : Code (List ServiceError) := do
  if ← contextCancelled then
    return [.cancelled]
  match ← listLifecycleOperationsForReconcile with
  | .error error => return [error]
  | .ok operations =>
  let workspaceErrors ← reconcileWorkspaces deployment operations
  match ← listSandboxesForReconcile with
  | .error error => return workspaceErrors ++ [error]
  | .ok sandboxes =>
    let errors ← reconcileSandboxes deployment fuel operations sandboxes
    return workspaceErrors ++ errors

/-- The loop of `reconcileAutoStandby`. -/
def pauseIdleSandboxes (deployment : Deployment) : List Sandbox → Code (List ServiceError)
  | [] => return []
  | sandbox :: rest => do
      let errors ← pauseIfIdle deployment (sandboxKey sandbox)
      let others ← pauseIdleSandboxes deployment rest
      return errors ++ others

/-- `reconcileAutoStandby`. -/
def reconcileAutoStandby (deployment : Deployment) : Code (List ServiceError) := do
  match ← listSandboxesForReconcile with
  | .error error => return [error]
  | .ok sandboxes => pauseIdleSandboxes deployment (sandboxes.filter fun sandbox =>
    sandbox.state = .running && 0 < sandbox.lifecycle.standbyAfterSeconds)

/-- `Reconcile`. -/
def reconcile (deployment : Deployment) (fuel : Nat) : Code (List ServiceError) := do
  let backendErrors ← reconcileBackendState deployment fuel
  if ← contextCancelled then
    return backendErrors ++ [.cancelled]
  let standbyErrors ← reconcileAutoStandby deployment
  return backendErrors ++ standbyErrors

end Brezel.Service
