import Brezel.Service.Lifecycle

/-!
# Creating and reading sandboxes

`createSandbox` admits a request, writes the row of a preparing sandbox and fences it, provisions
it at the backend, attaches its node route and writes the result.  `getSandboxState` is the read
path `GetSandbox`, which also observes the backend, marks a missing resource and, for an expired or
half-deleted sandbox, runs a whole cleanup inside the mutex.
-/

namespace Brezel.Service

open Domain Store

/-! ## Admission -/

/-- Split a path at its slashes. -/
def pathSegments : List Char → List (List Char)
  | [] => [[]]
  | '/' :: rest => [] :: pathSegments rest
  | character :: rest =>
    match pathSegments rest with
    | [] => [[character]]
    | segment :: segments => (character :: segment) :: segments

/-- The path is absolute and clean, and not the root. -/
def isCleanPath (path : String) : Bool :=
  match pathSegments path.toList with
  | [] :: segments =>
    !segments.isEmpty && segments.all fun segment =>
      segment ≠ [] && segment ≠ ['.'] && segment ≠ ['.', '.']
  | _ => false

/-- `ValidateWorkspaceMounts`, with the workspaces and paths seen so far. -/
def validateWorkspaceMounts (workspaces paths : List String) :
    List WorkspaceMount → Except String Unit
  | [] => .ok ()
  | mount :: rest =>
    if !isSafeName mount.workspaceID then .error "workspace mount has an invalid workspace id"
    else if 4096 < mount.path.utf8ByteSize || !isCleanPath mount.path ||
        containsAny mount.path ['\x00'] then
      .error "workspace mount path must be a clean absolute path below root"
    else if mount.workspaceID ∈ workspaces then .error "a workspace can be mounted only once"
    else if mount.path ∈ paths then .error "workspace mount paths must be unique"
    else validateWorkspaceMounts (mount.workspaceID :: workspaces) (mount.path :: paths) rest

/-- `Preflight`; a broker counts as the endpoint-bound credential capability. -/
def preflight (deployment : Deployment) (lifecycle : Lifecycle) (network : NetworkPolicy)
    (connectorRevisions : List String) : Except String Unit :=
  let capabilities := deployment.capabilities
  if !capabilities.hostileCodeIsolation then
    .error "backend cannot enforce the hostile-code isolation profile"
  else if !network.allowInternet && !capabilities.denyByDefaultEgress then
    .error "backend cannot enforce deny-by-default egress"
  else if 0 < lifecycle.standbyAfterSeconds ∧ lifecycle.standbyCheckpoint = .filesystem ∧
      capabilities.filesystemStandby = false then
    .error "backend cannot enforce filesystem-only standby"
  else if 0 < lifecycle.standbyAfterSeconds ∧ lifecycle.standbyCheckpoint = .fullState ∧
      capabilities.fullStateStandby = false then
    .error "backend cannot enforce full-state standby"
  else if 0 < lifecycle.standbyAfterSeconds ∧ lifecycle.autoResume = true ∧
      capabilities.autoResume = false then
    .error "backend cannot enforce automatic resume"
  else if connectorRevisions ≠ [] ∧ deployment.gateway = none then
    .error "backend cannot enforce endpoint-bound credential brokering"
  else .ok ()

/-- `DefaultStandbyGraceSeconds`. -/
def defaultStandbyGraceSeconds : Int := 15

/-- The defaults that `CreateSandbox` fills in. -/
def withDefaults (deployment : Deployment) (input : CreateSandboxInput) : CreateSandboxInput :=
  let checkpointed := if input.lifecycle.standbyCheckpoint = .unset then
    { input.lifecycle with standbyCheckpoint := .fullState } else input.lifecycle
  let graced :=
    if 0 < checkpointed.standbyAfterSeconds ∧ checkpointed.standbyGraceSeconds = 0 then
      { checkpointed with standbyGraceSeconds := defaultStandbyGraceSeconds } else checkpointed
  let network := match deployment.gateway with
    | some gateway =>
      let allowed := input.network.allowOut.getD []
      if input.connectorRevisions ≠ [] ∧ gateway.host ∉ allowed then
        { input.network with allowOut := some (allowed ++ [gateway.host]) }
      else input.network
    | none => input.network
  { input with lifecycle := graced, network := network }

/-- The checks of `CreateSandbox` on a request with its defaults. -/
def validateCreate (input : CreateSandboxInput) : Except String Unit :=
  match validateLifecycle input.lifecycle with
  | .error message => .error message
  | .ok () =>
  match validateNetwork input.network with
  | .error message => .error message
  | .ok () =>
  match validateWorkspaceMounts [] [] input.workspaceMounts with
  | .error message => .error message
  | .ok () =>
    if (input.environmentRevision = "") = (input.checkpointID = "") then
      .error "exactly one of environment_revision or checkpoint_id is required"
    else .ok ()

/-- What an admitted request starts from, or the operation of an earlier equal request. -/
inductive Admission
  | replay (operation : Operation)
  | fresh (environment : Environment) (checkpoint : Checkpoint) (mounts : List (String × String))

/-- The mounts of `admitSandboxCreate`: every workspace is ready and not attached. -/
def admitMounts (state : State) (projectID : String) :
    List WorkspaceMount → Except ServiceError (List (String × String))
  | [] => .ok []
  | mount :: rest =>
    match state.workspaces.lookup (projectID, mount.workspaceID) with
    | none => .error .notFound
    | some workspace =>
      if workspace.state ≠ .ready ∨ workspace.backendName = "" then
        .error (.conflict ("workspace " ++ mount.workspaceID ++ " is not ready"))
      else if state.sandboxes.entries.any fun pair =>
          !pair.2.state.terminal && pair.2.projectID = projectID &&
            pair.2.workspaceMounts.any (·.workspaceID = mount.workspaceID) then
        .error (.conflict ("workspace " ++ mount.workspaceID ++ " is already attached"))
      else
        match admitMounts state projectID rest with
        | .error error => .error error
        | .ok mounts => .ok ((workspace.backendName, mount.path) :: mounts)

/-- The checkpoint that a new sandbox starts from. -/
def admitCheckpoint (state : State) (projectID checkpointID : String) :
    Except ServiceError Checkpoint :=
  if checkpointID = "" then .ok Checkpoint.zero
  else
    match state.checkpoints.lookup (projectID, checkpointID) with
    | none => .error .notFound
    | some checkpoint =>
      if checkpoint.kind ≠ .filesystem ∨ checkpoint.backendRef = "" then
        .error (.denied "checkpoint cannot create a new sandbox")
      else .ok checkpoint

/-- `admitSandboxCreate` on a snapshot of the durable state. -/
def admitSandboxCreate (limits : Limits) (state : State) (projectID idempotencyKey digest : String)
    (input : CreateSandboxInput) : Except ServiceError Admission :=
  let index : IdempotencyKey := (projectID, "create_sandbox", idempotencyKey)
  match state.idempotentOperation index with
  | some operation =>
    match requireIdempotencyDigest state index digest with
    | .error error => .error error
    | .ok () => .ok (.replay operation)
  | none =>
    let active := (state.sandboxes.entries.map (·.2)).filter fun sandbox =>
      !sandbox.state.terminal
    if limits.maxActiveSandboxesPerProject ≤
        (active.filter fun sandbox => sandbox.projectID = projectID).length then
      .error .quota
    else if limits.maxActiveSandboxesTotal ≤ active.length then .error .capacity
    else
      match admitCheckpoint state projectID input.checkpointID with
      | .error error => .error error
      | .ok checkpoint =>
        let revision := if input.checkpointID = "" then input.environmentRevision
          else checkpoint.environmentRevision
        match state.environments.lookup (projectID, revision) with
        | none => .error .notFound
        | some environment =>
          if environment.revisionID ≠ revision then .error .notFound
          else if input.connectorRevisions.any fun connector =>
              (state.connectors.lookup (projectID, connector)).isNone then .error .notFound
          else
            match admitMounts state projectID input.workspaceMounts with
            | .error error => .error error
            | .ok mounts => .ok (.fresh environment checkpoint mounts)

/-! ## Creation -/

/-- The row of a sandbox that is about to be provisioned. -/
def preparingSandbox (projectID id : String) (environment : Environment)
    (source : Checkpoint) (input : CreateSandboxInput) (at_ : Time) : Sandbox :=
  markSandboxActive
    { Sandbox.zero with
      id := id, projectID := projectID, environmentRevision := environment.revisionID
      backend := environment.backend, sourceCheckpointID := source.id, state := .preparing
      lifecycle := input.lifecycle, network := input.network
      connectorRevisions := input.connectorRevisions, workspaceMounts := input.workspaceMounts
      createdAt := at_, updatedAt := at_
      expiresAt := at_ + seconds input.lifecycle.expiresAfterSeconds, revision := 1 } at_

/-- The transaction that writes the intent, unless an equal request was admitted meanwhile. -/
def createRows (choice : Choice) (sandbox : Sandbox) (operation : Operation) (digest : String)
    (at_ : Time) (state : State) : Except ServiceError ((Sandbox × Operation) × State) :=
  let index : IdempotencyKey := (sandbox.projectID, "create_sandbox", operation.idempotencyKey)
  match state.idempotentOperation index with
  | some existing =>
    match requireIdempotencyDigest state index digest with
    | .error error => .error error
    | .ok () => .ok (((state.row (sandbox.projectID, existing.resourceID)).getD Sandbox.zero,
        existing), state)
  | none => .ok ((sandbox, operation),
      ((((state.putSandbox sandbox).putOperation operation).putIdempotency
        operation).putIdempotencyDigest operation digest).appendEvent
          (eventFor choice sandbox operation.id "sandbox.preparing" at_ []))

/-- The end of the first section of `CreateSandbox`: draw the identifiers, issue the connector
lease, write the intent.  All of it happens inside the mutex, in one access. -/
def persistCreate (projectID idempotencyKey digest : String) (environment : Environment)
    (source : Checkpoint) (input : CreateSandboxInput) :
    Code (Except Outcome (Sandbox × Operation × String)) :=
  access fun choice memory =>
    let id := "sbx_" ++ choice.identifier
    let sandbox := preparingSandbox projectID id environment source input choice.now
    let operation : Operation := ⟨"op_" ++ choice.identifier, projectID, "create_sandbox", id,
      .running, idempotencyKey, choice.now, choice.now, none⟩
    if sandbox.connectorRevisions ≠ [] ∧ choice.lease = none then
      (.error (Sandbox.zero, Operation.zero, some (.denied "issue connector lease")), memory)
    else
      let (result, state) := transact choice.fault
        (guarding choice.store (createRows choice sandbox operation digest choice.now)) memory.state
      match result with
      | .error error => (.error (sandbox, operation, some (translateStore error)),
          { memory with state := state })
      | .ok (written, recorded) =>
        if recorded.resourceID ≠ id then
          (.error (written, recorded, none), { memory with state := state })
        else (.ok (written, recorded, choice.lease.getD ""), { memory with state := state })

/-- What the first section of `CreateSandbox` hands to the provisioning. -/
structure CreatePlan where
  sandbox : Sandbox
  operation : Operation
  request : CreateRequest

/-- The variables that tell a sandbox of the connector gateway. -/
def connectorEnvironment (deployment : Deployment) (sandbox : Sandbox) (lease : String) :
    List (String × String) :=
  match deployment.gateway with
  | some gateway =>
    if sandbox.connectorRevisions = [] then []
    else [("BREZEL_CONNECTOR_GATEWAY_URL", gateway.url ++ "/proxy"),
      ("BREZEL_CONNECTOR_RENEW_URL", gateway.url ++ "/leases/renew"),
      ("BREZEL_CONNECTOR_LEASE", lease)]
  | none => []

/-- The first section of `CreateSandbox`. -/
def createBegin (deployment : Deployment) (projectID idempotencyKey : String)
    (request : CreateSandboxInput) : Code (Except Outcome CreatePlan) := do
  match requireMutation projectID idempotencyKey with
  | .error error => return .error (Sandbox.zero, Operation.zero, some error)
  | .ok () =>
  let input := withDefaults deployment request
  match validateCreate input with
  | .error message => return .error (Sandbox.zero, Operation.zero, some (.invalid message))
  | .ok () =>
  let digest := deployment.createDigest input
  let admission ← look fun choice memory =>
    if choice.readFails then .error .store
    else admitSandboxCreate deployment.limits memory.state projectID idempotencyKey digest input
  match admission with
  | .error error => return .error (Sandbox.zero, Operation.zero, some error)
  | .ok (.replay existing) =>
    let found ← getSandbox (projectID, existing.resourceID)
    return .error (sandboxOrZero found, existing, failureOf found)
  | .ok (.fresh environment source mounts) =>
  if environment.backend ≠ deployment.backendName then
    return .error (Sandbox.zero, Operation.zero,
      some (.invalid "environment backend does not match configured backend"))
  if source.id ≠ "" ∧ source.backend ≠ environment.backend then
    return .error (Sandbox.zero, Operation.zero,
      some (.invalid "checkpoint backend does not match environment"))
  if input.workspaceMounts ≠ [] ∧ deployment.capabilities.durableWorkspaces = false then
    return .error (Sandbox.zero, Operation.zero,
      some (.denied "backend cannot attach durable workspaces"))
  match preflight deployment input.lifecycle input.network input.connectorRevisions with
  | .error message => return .error (Sandbox.zero, Operation.zero, some (.denied message))
  | .ok () =>
  match ← persistCreate projectID idempotencyKey digest environment source input with
  | .error outcome => return .error outcome
  | .ok (sandbox, operation, lease) =>
  let template := if source.id = "" then environment.backendTemplate else source.backendRef
  setFence (projectID, sandbox.id)
  return .ok ⟨sandbox, operation, ⟨sandbox.id, projectID, template, sandbox.lifecycle,
    sandbox.network, connectorEnvironment deployment sandbox lease, mounts⟩⟩

/-- Write the result of a creation that did not end in a running sandbox. -/
def failCreate (sandbox : Sandbox) (operation : Operation) (state : SandboxState)
    (failure : Failure) (type : String) : Code Outcome := do
  let at_ ← now
  let failed := { sandbox with
    state := state, failure := some failure, updatedAt := at_, revision := sandbox.revision + 1 }
  let ended := { operation with state := .failed, failure := some failure, updatedAt := at_ }
  let result ← updateRows fun choice state => .ok ((),
    ((state.putSandbox failed).putOperation ended).appendEvent
      (eventFor choice failed ended.id type at_ [("code", failure.code)]))
  return (failed, ended, failureOf result)

/-- The second section of `CreateSandbox`: the answer of the backend. -/
def createProvisioned (key : Key) (plan : CreatePlan)
    (reply : Except BackendError RemoteSandbox) : Code (Except Outcome Sandbox) := do
  match reply with
  | .error .capacityUnavailable =>
    clearFence key
    let (failed, ended, error) ← failCreate plan.sandbox plan.operation .failed
      ⟨"backend_capacity_unavailable", "sandbox capacity is temporarily unavailable", true⟩
      "sandbox.failed"
    return .error (failed, ended, some (error.getD .capacity))
  | .error _ =>
    clearFence key
    let (failed, ended, _) ← failCreate plan.sandbox plan.operation .unknown
      ⟨"backend_create_unconfirmed",
        "sandbox backend did not confirm whether the resource was created", true⟩
      "sandbox.unknown"
    return .error (failed, ended, some (.backend "create sandbox"))
  | .ok remote =>
    note (.reported key remote.state)
    let at_ ← now
    return .ok (markSandboxActive { plan.sandbox with
      backendID := remote.id, state := remote.state, updatedAt := at_
      revision := plan.sandbox.revision + 1, failure := none } at_)

/-- The last section of `CreateSandbox`: the result of attaching the route. -/
def createFinish (key : Key) (sandbox : Sandbox) (operation : Operation)
    (failure : Option RouteFailure) : Code Outcome := do
  clearFence key
  match failure with
  | some _ =>
    let (failed, ended, _) ← failCreate sandbox operation .unknown
      ⟨"node_route_attach_unconfirmed", "execution node did not confirm the sandbox route", true⟩
      "sandbox.unknown"
    return (failed, ended, some (.backend "attach sandbox node route"))
  | none =>
    let at_ ← now
    let created := { sandbox with updatedAt := at_ }
    let succeeded := { operation with state := .succeeded, updatedAt := at_ }
    let result ← updateRows fun choice state => .ok ((),
      ((state.putSandbox created).putOperation succeeded).appendEvent
        (eventFor choice created operation.id "sandbox.running" at_ []))
    return (created, succeeded, failureOf result)

/-- `CreateSandbox`. -/
def createSandbox (deployment : Deployment) (projectID idempotencyKey : String)
    (input : CreateSandboxInput) : Code Outcome := do
  match ← locked (createBegin deployment projectID idempotencyKey input) with
  | .error outcome => return outcome
  | .ok plan =>
  let key : Key := (projectID, plan.sandbox.id)
  let reply ← backendCall key (.create plan.request)
  match ← locked (createProvisioned key plan reply) with
  | .error outcome => return outcome
  | .ok sandbox =>
  let (attached, failure) ← attachNodeRoute deployment sandbox
  locked (createFinish key attached plan.operation failure)

/-! ## Reading -/

/-- The observation of `GetSandbox`: compare the row with the backend. -/
def observeLocked (key : Key) (sandbox : Sandbox) : Code (Sandbox × Option ServiceError) := do
  match ← backendCall key (.inspect sandbox.backendID) with
  | .error .notFound => markMissingLocked sandbox
  | .error _ => markUnknownLocked sandbox "backend_inspection_failed"
  | .ok remote =>
    if RemoteSandbox.state remote = sandbox.state then
      return (sandbox, none)
    note (.reported key (RemoteSandbox.state remote))
    let at_ ← now
    let observed := { sandbox with
      state := RemoteSandbox.state remote, updatedAt := at_, revision := sandbox.revision + 1
      failure := none }
    note (.observed observed)
    let _ ← updateRows fun choice state => .ok ((),
      (state.putSandbox observed).appendEvent
        (eventFor choice observed "" "sandbox.observed" at_ []))
    return (observed, none)

/-- The body of `GetSandbox`, inside the mutex. -/
def getSandboxLocked (deployment : Deployment) (key : Key) :
    Code (Sandbox × Option ServiceError) := do
  match ← getSandbox key with
  | .error error => return (Sandbox.zero, some error)
  | .ok sandbox =>
  if ← fenced key then
    return (sandbox, none)
  if sandbox.state.terminal then
    return (sandbox, none)
  if cleanupIntended sandbox then
    reconcileCleanupLocked deployment sandbox
  else if sandbox.expiresAt ≤ (← now) then
    cancelActiveGuestOperationsLocked key
    expireLocked deployment sandbox
  else if sandbox.backendID = "" then
    return (sandbox, none)
  else if ← hasActiveGuestOperationsLocked key then
    return (sandbox, none)
  else
    observeLocked key sandbox

/-- `GetSandbox`. -/
def getSandboxState (deployment : Deployment) (key : Key) :
    Code (Sandbox × Option ServiceError) :=
  locked (getSandboxLocked deployment key)

end Brezel.Service
