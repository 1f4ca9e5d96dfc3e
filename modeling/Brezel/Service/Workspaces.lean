import Brezel.Service.Observations

/-!
# Workspaces

A durable workspace outlives the sandboxes it is mounted into, and at most one live sandbox mounts
it.  Creation and deletion run inside the mutex, with their backend calls.  Reconciliation fences a
workspace, calls the backend without the mutex, and writes what it learned when the record is still
the version it started from.
-/

namespace Brezel.Service

open Domain Store

/-- What a workspace mutation returns. -/
abbrev WorkspaceOutcome := Workspace × Operation × Option ServiceError

/-- `getWorkspace`. -/
def getWorkspace (key : Key) : Code (Except ServiceError Workspace) :=
  look fun choice memory =>
    if choice.readFails then .error .store
    else
      match memory.state.workspaces.lookup key with
      | none => .error .notFound
      | some workspace => .ok workspace

/-- The workspace is in `activeWorkspaceMutations`. -/
def workspaceFenced (key : Key) : Code Bool :=
  look fun _ memory => key ∈ memory.activeWorkspaceMutations

/-- Put the workspace into `activeWorkspaceMutations`. -/
def setWorkspaceFence (key : Key) : Code Unit :=
  access fun _ memory => ((), { memory with
    activeWorkspaceMutations := key :: memory.activeWorkspaceMutations })

/-- Take the workspace out of `activeWorkspaceMutations`. -/
def clearWorkspaceFence (key : Key) : Code Unit :=
  access fun _ memory => ((), { memory with
    activeWorkspaceMutations := memory.activeWorkspaceMutations.filter (· ≠ key) })

/-- Write a workspace and an operation. -/
def writeWorkspace (workspace : Workspace) (operation : Operation) :
    Code (Except ServiceError Unit) :=
  updateRows fun _ state =>
    .ok ((), (state.putWorkspace (workspaceKey workspace) workspace).putOperation operation)

/-! ## Creation -/

/-- `admitWorkspaceCreate` on a snapshot of the durable state: an earlier equal request, or the
number of live workspaces of the project. -/
def admitWorkspaceCreate (state : State) (projectID idempotencyKey digest : String) :
    Except ServiceError (Operation ⊕ Nat) :=
  let index : IdempotencyKey := (projectID, "create_workspace", idempotencyKey)
  match state.idempotentOperation index with
  | some operation =>
    match requireIdempotencyDigest state index digest with
    | .error error => .error error
    | .ok () => .ok (.inl operation)
  | none => .ok (.inr (state.workspaces.entries.filter fun pair =>
    pair.2.projectID = projectID && !pair.2.state.terminal).length)

/-- The transaction that writes the intent, unless an equal request was admitted meanwhile. -/
def workspaceRows (workspace : Workspace) (operation : Operation) (digest : String)
    (state : State) : Except ServiceError ((Workspace × Operation) × State) :=
  let index : IdempotencyKey :=
    (operation.projectID, "create_workspace", operation.idempotencyKey)
  match state.idempotentOperation index with
  | some existing =>
    match requireIdempotencyDigest state index digest with
    | .error error => .error error
    | .ok () => .ok (((state.workspaces.lookup
        (operation.projectID, existing.resourceID)).getD Workspace.zero, existing), state)
  | none => .ok ((workspace, operation),
      (((state.putWorkspace (workspaceKey workspace) workspace).putOperation
        operation).putIdempotency operation).putIdempotencyDigest operation digest)

/-- Draw the identifiers and write the intent.  All of it happens inside the mutex, in one
access. -/
def persistWorkspace (projectID idempotencyKey digest : String) (input : CreateWorkspaceInput) :
    Code (Except WorkspaceOutcome (Workspace × Operation)) :=
  access fun choice memory =>
    let id := "wrk_" ++ choice.identifier
    let workspace : Workspace := ⟨id, projectID, input.name, "", id, .preparing, .unset,
      choice.now, choice.now, none⟩
    let operation : Operation := ⟨"op_" ++ choice.identifier, projectID, "create_workspace", id,
      .running, idempotencyKey, choice.now, choice.now, none⟩
    let (result, state) := transact choice.fault
      (guarding choice.store (workspaceRows workspace operation digest)) memory.state
    match result with
    | .error error => (.error (workspace, operation, some (translateStore error)),
        { memory with state := state })
    | .ok (written, recorded) =>
      if recorded.resourceID ≠ id then
        (.error (written, recorded, none), { memory with state := state })
      else (.ok (written, recorded), { memory with state := state })

/-- Record a failed creation. -/
def failWorkspaceCreate (workspace : Workspace) (operation : Operation) (failure : Failure) :
    Code WorkspaceOutcome := do
  let at_ ← now
  let unconfirmed := { workspace with
    state := .unknown, failure := some failure, updatedAt := at_ }
  let failed := { operation with state := .failed, failure := some failure, updatedAt := at_ }
  let _ ← writeWorkspace unconfirmed failed
  return (unconfirmed, failed, some (.backend "create workspace"))

/-- The end of `CreateWorkspace`: the answer of the backend. -/
def createWorkspaceFinish (workspace : Workspace) (operation : Operation)
    (reply : Except BackendError RemoteWorkspace) : Code WorkspaceOutcome := do
  match reply with
  | .error _ =>
    failWorkspaceCreate workspace operation ⟨"backend_workspace_create_unconfirmed",
      "workspace engine did not confirm whether the resource was created", true⟩
  | .ok remote =>
    if remote.id = "" ∨ remote.name ≠ workspace.backendName then
      failWorkspaceCreate workspace operation ⟨"backend_workspace_identity_invalid",
        "workspace engine returned an invalid resource identity", true⟩
    else
      let at_ ← now
      let ready := { workspace with
        backendID := remote.id, state := .ready, updatedAt := at_, failure := none }
      let succeeded := { operation with state := .succeeded, updatedAt := at_, failure := none }
      let result ← writeWorkspace ready succeeded
      return (ready, succeeded, failureOf result)

/-- The body of `CreateWorkspace`, inside the mutex. -/
def createWorkspaceLocked (deployment : Deployment) (projectID idempotencyKey : String)
    (input : CreateWorkspaceInput) : Code WorkspaceOutcome := do
  match requireMutation projectID idempotencyKey with
  | .error error => return (Workspace.zero, Operation.zero, some error)
  | .ok () =>
  match validateWorkspaceName input.name with
  | .error message => return (Workspace.zero, Operation.zero, some (.invalid message))
  | .ok () =>
  if deployment.capabilities.durableWorkspaces = false then
    return (Workspace.zero, Operation.zero, some (.denied "durable workspaces are unavailable"))
  let digest := deployment.workspaceDigest input
  let admission ← look fun choice memory =>
    if choice.readFails then .error .store
    else admitWorkspaceCreate memory.state projectID idempotencyKey digest
  match admission with
  | .error error => return (Workspace.zero, Operation.zero, some error)
  | .ok (.inl existing) =>
    match ← getWorkspace (projectID, existing.resourceID) with
    | .error error => return (Workspace.zero, existing, some error)
    | .ok workspace => return (workspace, existing, none)
  | .ok (.inr active) =>
  if deployment.limits.maxWorkspacesPerProject ≤ active then
    return (Workspace.zero, Operation.zero, some .quota)
  match ← persistWorkspace projectID idempotencyKey digest input with
  | .error outcome => return outcome
  | .ok (workspace, operation) =>
  let reply ← workspaceCall (projectID, workspace.id)
    (.create ⟨workspace.id, projectID, workspace.name⟩)
  createWorkspaceFinish workspace operation reply

/-- `CreateWorkspace`. -/
def createWorkspace (deployment : Deployment) (projectID idempotencyKey : String)
    (input : CreateWorkspaceInput) : Code WorkspaceOutcome :=
  locked (createWorkspaceLocked deployment projectID idempotencyKey input)

/-! ## Deletion -/

/-- A live sandbox mounts the workspace. -/
def workspaceAttached (state : State) (key : Key) : Bool :=
  state.sandboxes.entries.any fun pair =>
    !pair.2.state.terminal && pair.2.projectID = key.1 &&
      pair.2.workspaceMounts.any (·.workspaceID = key.2)

/-- `workspaceAttachedLocked`. -/
def workspaceAttachedLocked (key : Key) : Code (Except ServiceError Bool) :=
  look fun choice memory =>
    if choice.readFails then .error .store else .ok (workspaceAttached memory.state key)

/-- `failWorkspaceCleanupLocked`. -/
def failWorkspaceCleanupLocked (workspace : Workspace) (operation : Operation) (code : String) :
    Code WorkspaceOutcome := do
  let at_ ← now
  let failure : Failure := ⟨code, "workspace engine did not confirm cleanup", true⟩
  let unconfirmed := { workspace with
    state := .unknown, updatedAt := at_, failure := some failure }
  let failed := { operation with state := .failed, updatedAt := at_, failure := some failure }
  let _ ← writeWorkspace unconfirmed failed
  return (unconfirmed, failed, some (.backend "delete workspace"))

/-- The end of `reconcileWorkspaceCleanupLocked`. -/
def finishWorkspaceCleanupLocked (workspace : Workspace) (operation : Operation) :
    Code WorkspaceOutcome := do
  let at_ ← now
  let deleted := { workspace with state := .deleted, updatedAt := at_, failure := none }
  let succeeded := { operation with state := .succeeded, updatedAt := at_, failure := none }
  let result ← writeWorkspace deleted succeeded
  return (deleted, succeeded, failureOf result)

/-- The lookup of `reconcileWorkspaceCleanupLocked`, which takes the identifier of any successful
answer. -/
def findWorkspaceLocked (key : Key) (workspace : Workspace) : Code (Option Workspace) := do
  if workspace.backendID ≠ "" then
    return some workspace
  match ← workspaceCall key (.find workspace.backendName) with
  | .ok remote => return some { workspace with backendID := RemoteWorkspace.id remote }
  | .error .notFound => return some workspace
  | .error _ => return none

/-- The deletion at the backend.  Confirmed absence counts as success. -/
def deleteWorkspaceBackend (key : Key) (workspace : Workspace) : Code (Option BackendError) := do
  if workspace.backendID = "" then
    return none
  match ← workspaceCall key (.delete workspace.backendID) with
  | .ok _ => return none
  | .error .notFound => return none
  | .error error => return some error

/-- `reconcileWorkspaceCleanupLocked`; the operation it is called with has an identifier. -/
def reconcileWorkspaceCleanupLocked (key : Key) (workspace : Workspace) (operation : Operation) :
    Code WorkspaceOutcome := do
  match ← findWorkspaceLocked key workspace with
  | none =>
    failWorkspaceCleanupLocked workspace operation "backend_workspace_cleanup_recovery_failed"
  | some found =>
  match ← deleteWorkspaceBackend key found with
  | some _ => failWorkspaceCleanupLocked found operation "backend_workspace_delete_unconfirmed"
  | none => finishWorkspaceCleanupLocked found operation

/-- The body of `DeleteWorkspace`, inside the mutex. -/
def deleteWorkspaceLocked (deployment : Deployment) (key : Key) (idempotencyKey : String) :
    Code WorkspaceOutcome := do
  match requireMutation key.1 idempotencyKey with
  | .error error => return (Workspace.zero, Operation.zero, some error)
  | .ok () =>
  if deployment.capabilities.durableWorkspaces = false then
    return (Workspace.zero, Operation.zero, some (.denied "durable workspaces are unavailable"))
  match ← getWorkspace key with
  | .error error => return (Workspace.zero, Operation.zero, some error)
  | .ok workspace =>
  match ← lookupIdempotency key.1 ("delete_workspace:" ++ key.2) idempotencyKey with
  | some existing => return (workspace, existing, none)
  | none =>
  if ← workspaceFenced key then
    return (workspace, Operation.zero,
      some (.conflict "workspace has an active backend mutation"))
  if workspace.state.terminal then
    return (workspace, Operation.zero, some (.conflict "workspace is already terminal"))
  match ← workspaceAttachedLocked key with
  | .error error => return (workspace, Operation.zero, some error)
  | .ok attached =>
  if attached then
    return (workspace, Operation.zero,
      some (.conflict "workspace is attached to an active sandbox"))
  let at_ ← now
  let id ← randomID "op"
  let deleting := { workspace with
    state := .deleting, cleanupTarget := .deleted, updatedAt := at_, failure := none }
  let operation : Operation := ⟨id, key.1, "delete_workspace:" ++ key.2, key.2, .running,
    idempotencyKey, at_, at_, none⟩
  match ← updateRows fun _ state => .ok ((),
      ((state.putWorkspace key deleting).putOperation operation).putIdempotency operation) with
  | .error error => return (deleting, operation, some error)
  | .ok () => reconcileWorkspaceCleanupLocked key deleting operation

/-- `DeleteWorkspace`. -/
def deleteWorkspace (deployment : Deployment) (key : Key) (idempotencyKey : String) :
    Code WorkspaceOutcome :=
  locked (deleteWorkspaceLocked deployment key idempotencyKey)

/-! ## Reconciliation -/

/-- `validWorkspaceIdentity`. -/
def validWorkspaceIdentity (expected : Workspace) (remote : RemoteWorkspace) : Bool :=
  remote.id ≠ "" && remote.name = expected.backendName

/-- `sameWorkspaceReconcileVersion`; `sameFailure` compares every field of a failure. -/
def sameWorkspaceReconcileVersion (current expected : Workspace) : Bool :=
  current.id = expected.id && current.projectID = expected.projectID &&
    current.backendID = expected.backendID && current.backendName = expected.backendName &&
    current.state = expected.state && current.cleanupTarget = expected.cleanupTarget &&
    current.updatedAt = expected.updatedAt && current.failure = expected.failure

/-- The durable intent to delete, as `reconcileWorkspace` reads it. -/
def workspaceCleanupIntended (workspace : Workspace) : Bool :=
  workspace.cleanupTarget = .deleted || workspace.state = .deleting

/-- Why the backend did not confirm the state of a workspace. -/
inductive WorkspaceFault
  | missing
  | unconfirmed (code : String)
  deriving DecidableEq, Repr

/-- `failureCode` of a fault. -/
def WorkspaceFault.code : WorkspaceFault → String
  | .missing => "backend_workspace_missing"
  | .unconfirmed code => code

/-- The errors that a pass reports. -/
def WorkspaceFault.errors : Option WorkspaceFault → List ServiceError
  | some (.unconfirmed code) => [.backend code]
  | _ => []

/-- The first section of `reconcileWorkspace`. -/
def reconcileWorkspaceBegin (key : Key) : Code (Except (List ServiceError) Workspace) := do
  match ← getWorkspace key with
  | .error error => return .error (ignoreNotFound error)
  | .ok current =>
  if current.state.terminal then
    return .error []
  if ← workspaceFenced key then
    return .error []
  setWorkspaceFence key
  return .ok current

/-- The lookup of a missing backend identifier before a deletion. -/
def findWorkspaceForCleanup (key : Key) (workspace : Workspace) :
    Code (Except WorkspaceFault Workspace) := do
  if workspace.backendID ≠ "" then
    return .ok workspace
  match ← workspaceCall key (.find workspace.backendName) with
  | .ok remote =>
    if validWorkspaceIdentity workspace remote then
      return .ok { workspace with backendID := RemoteWorkspace.id remote }
    return .error (.unconfirmed "backend_workspace_identity_invalid")
  | .error .notFound => return .ok workspace
  | .error _ => return .error (.unconfirmed "backend_workspace_cleanup_recovery_failed")

/-- The calls of `reconcileWorkspace` for a workspace with durable deletion intent. -/
def cleanupWorkspaceOutsideLock (key : Key) (workspace : Workspace) :
    Code (Workspace × Option WorkspaceFault) := do
  match ← findWorkspaceForCleanup key workspace with
  | .error fault => return (workspace, some fault)
  | .ok found =>
  match ← deleteWorkspaceBackend key found with
  | some _ => return (found, some (.unconfirmed "backend_workspace_delete_unconfirmed"))
  | none => return (found, none)

/-- The call of `reconcileWorkspace` for any other workspace. -/
def observeWorkspaceOutsideLock (key : Key) (workspace : Workspace) :
    Code (Workspace × Option WorkspaceFault) := do
  match ← workspaceCall key (.find workspace.backendName) with
  | .ok remote =>
    if validWorkspaceIdentity workspace remote then
      return ({ workspace with
        backendID := RemoteWorkspace.id remote, backendName := RemoteWorkspace.name remote }, none)
    return (workspace, some (.unconfirmed "backend_workspace_identity_invalid"))
  | .error .notFound => return (workspace, some .missing)
  | .error _ => return (workspace, some (.unconfirmed "backend_workspace_reconcile_failed"))

/-- The backend calls of `reconcileWorkspace`. -/
def reconcileWorkspaceOutside (key : Key) (expected : Workspace) :
    Code (Workspace × Option WorkspaceFault) :=
  if workspaceCleanupIntended expected then cleanupWorkspaceOutsideLock key expected
  else observeWorkspaceOutsideLock key expected

/-- What an observation writes: the record, the operations it settles and their state. -/
def concludeWorkspace (cleanup : Bool) (observed : Workspace) (fault : Option WorkspaceFault)
    (at_ : Time) (candidates : List Operation) : Workspace × List Operation × OperationState :=
  match cleanup, fault with
  | true, none => ({ observed with state := .deleted, updatedAt := at_, failure := none },
      latestIncompleteOperations candidates ["delete_workspace:"], .succeeded)
  | true, some fault => ({ observed with
      state := .unknown, updatedAt := at_
      failure := some ⟨fault.code, "workspace engine did not confirm cleanup", true⟩ },
      latestIncompleteOperations candidates ["delete_workspace:"], .failed)
  | false, some .missing => ({ observed with
      state := .failed, updatedAt := at_
      failure := some ⟨WorkspaceFault.missing.code,
        "workspace engine confirmed the resource is absent", false⟩ },
      latestIncompleteOperations candidates ["create_workspace"], .failed)
  | false, some (.unconfirmed code) => ({ observed with
      state := .unknown, updatedAt := at_
      failure := some ⟨code, "workspace engine state could not be confirmed", true⟩ }, [], .unset)
  | false, none => ({ observed with state := .ready, updatedAt := at_, failure := none },
      latestIncompleteOperations candidates ["create_workspace"], .succeeded)

/-- `persistWorkspaceObservationLocked`. -/
def persistWorkspaceObservationLocked (key : Key) (current observed : Workspace)
    (operations : List Operation) (operationState : OperationState) :
    Code (Except ServiceError Unit) :=
  updateRows fun _ state =>
    match state.workspaces.lookup key with
    | none => .error .superseded
    | some persisted =>
      if sameWorkspaceReconcileVersion persisted current = false then .error .superseded
      else
        match settleOperations (fun operation => { operation with
            state := operationState, updatedAt := observed.updatedAt
            failure := if operationState = .succeeded then none else observed.failure })
            operations (state.putWorkspace key observed) with
        | .error error => .error error
        | .ok settled => .ok ((), settled)

/-- The last section of `reconcileWorkspace`. -/
def reconcileWorkspaceFinish (key : Key) (expected observed : Workspace)
    (fault : Option WorkspaceFault) (candidates : List Operation) : Code (List ServiceError) := do
  clearWorkspaceFence key
  if ← contextCancelled then
    return [.cancelled]
  match ← getWorkspace key with
  | .error error => return ignoreNotFound error
  | .ok latest =>
  if sameWorkspaceReconcileVersion latest expected = false ∨ latest.state.terminal then
    return []
  let at_ ← now
  let (written, operations, operationState) :=
    concludeWorkspace (workspaceCleanupIntended expected) observed fault at_ candidates
  match ← persistWorkspaceObservationLocked key latest written operations operationState with
  | .ok () => return WorkspaceFault.errors fault
  | .error .superseded => return []
  | .error error => return WorkspaceFault.errors fault ++ [error]

/-- `reconcileWorkspace`. -/
def reconcileWorkspace (key : Key) (candidates : List Operation) : Code (List ServiceError) := do
  if ← contextCancelled then
    return [.cancelled]
  match ← locked (reconcileWorkspaceBegin key) with
  | .error errors => return errors
  | .ok expected =>
  let (observed, fault) ← reconcileWorkspaceOutside key expected
  locked (reconcileWorkspaceFinish key expected observed fault candidates)

/-- `ListWorkspacesForReconcile`. -/
def listWorkspacesForReconcile : Code (Except ServiceError (List Workspace)) :=
  look fun choice memory =>
    if choice.readFails then .error .store
    else .ok ((memory.state.workspaces.entries.map (·.2)).filter fun workspace =>
      workspace.state ≠ .ready && !workspace.state.terminal)

/-- The loop of `reconcileWorkspaces`. -/
def reconcileEachWorkspace (operations : List Operation) :
    List Workspace → Code (List ServiceError)
  | [] => return []
  | workspace :: rest => do
      if ← contextCancelled then
        return [.cancelled]
      let errors ← reconcileWorkspace (workspaceKey workspace) (operations.filter fun operation =>
        (operation.projectID, operation.resourceID) = workspaceKey workspace)
      let others ← reconcileEachWorkspace operations rest
      return errors ++ others

/-- `reconcileWorkspaces`. -/
def reconcileWorkspaces (deployment : Deployment) (operations : List Operation) :
    Code (List ServiceError) := do
  if ← contextCancelled then
    return [.cancelled]
  if deployment.capabilities.durableWorkspaces = false then
    return []
  match ← listWorkspacesForReconcile with
  | .error error => return [error]
  | .ok workspaces => reconcileEachWorkspace operations workspaces

end Brezel.Service
