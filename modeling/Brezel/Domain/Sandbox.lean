import Brezel.Domain.Text

/-!
# Sandboxes, operations and events

The durable records of the control plane, the checks on declared ones and the lifecycle rules.  A
record field that the source leaves empty holds the zero value of its type: the empty text,
`zeroTime`, or the state `unset`.  `Sandbox.zero` is the record a failed lookup returns.

`canTransition` is the lifecycle table.  A terminal state has no successor in it
(`canTransition_terminal`).
-/

namespace Brezel.Domain

/-- The lifecycle of a sandbox; `unset` is the zero value. -/
inductive SandboxState
  | unset
  | requested
  | preparing
  | running
  | pausing
  | standby
  | resuming
  | deleting
  | deleted
  | expired
  | failed
  | unknown
  deriving DecidableEq, Repr

/-- The text of a state in the store and the API. -/
def SandboxState.text : SandboxState → String
  | .unset => ""
  | .requested => "requested"
  | .preparing => "preparing"
  | .running => "running"
  | .pausing => "pausing"
  | .standby => "standby"
  | .resuming => "resuming"
  | .deleting => "deleting"
  | .deleted => "deleted"
  | .expired => "expired"
  | .failed => "failed"
  | .unknown => "unknown"

/-- The lifecycle of an operation. -/
inductive OperationState
  | unset
  | pending
  | running
  | succeeded
  | failed
  deriving DecidableEq, Repr

/-- `CheckpointKind`. -/
inductive CheckpointKind
  | unset
  | filesystem
  | fullState
  deriving DecidableEq, Repr

/-- The lifecycle policy of a sandbox. -/
structure Lifecycle where
  standbyAfterSeconds : Int
  standbyGraceSeconds : Int
  expiresAfterSeconds : Int
  standbyCheckpoint : CheckpointKind
  autoResume : Bool
  deriving DecidableEq, Repr

/-- `NetworkPolicy`.  A list that was never made is kept apart from an empty one. -/
structure NetworkPolicy where
  allowInternet : Bool
  allowOut : Option (List String)
  denyOut : Option (List String)
  deriving DecidableEq, Repr

/-- `WorkspaceMount`. -/
structure WorkspaceMount where
  workspaceID : String
  path : String
  deriving DecidableEq, Repr

/-- Why a resource or an operation failed. -/
structure Failure where
  code : String
  message : String
  retryable : Bool
  deriving DecidableEq, Repr

/-- The durable record of a sandbox. -/
structure Sandbox where
  id : String
  projectID : String
  environmentRevision : String
  sourceCheckpointID : String
  backend : String
  backendID : String
  nodeID : String
  nodeRouteID : String
  nodeGeneration : Nat
  state : SandboxState
  cleanupTarget : SandboxState
  lifecycle : Lifecycle
  network : NetworkPolicy
  connectorRevisions : List String
  workspaceMounts : List WorkspaceMount
  createdAt : Time
  updatedAt : Time
  lastActiveAt : Time
  standbyEligibleAt : Time
  expiresAt : Time
  revision : Nat
  failure : Option Failure
  deriving DecidableEq, Repr

/-- The record of a lookup that failed. -/
def Sandbox.zero : Sandbox :=
  { id := "", projectID := "", environmentRevision := "", sourceCheckpointID := "", backend := ""
    backendID := "", nodeID := "", nodeRouteID := "", nodeGeneration := 0, state := .unset
    cleanupTarget := .unset, lifecycle := ⟨0, 0, 0, .unset, false⟩, network := ⟨false, none, none⟩
    connectorRevisions := [], workspaceMounts := [], createdAt := zeroTime, updatedAt := zeroTime
    lastActiveAt := zeroTime, standbyEligibleAt := zeroTime, expiresAt := zeroTime, revision := 0
    failure := none }

/-- The durable record of a mutation. -/
structure Operation where
  id : String
  projectID : String
  kind : String
  resourceID : String
  state : OperationState
  idempotencyKey : String
  createdAt : Time
  updatedAt : Time
  failure : Option Failure
  deriving DecidableEq, Repr

/-- The record of an operation that does not exist. -/
def Operation.zero : Operation :=
  ⟨"", "", "", "", .unset, "", zeroTime, zeroTime, none⟩

/-- One entry of the event log. -/
structure Event where
  id : String
  sequence : Nat
  projectID : String
  resourceID : String
  operationID : String
  type : String
  state : SandboxState
  at_ : Time
  details : List (String × String)
  deriving DecidableEq, Repr

/-- The durable record of a checkpoint. -/
structure Checkpoint where
  id : String
  projectID : String
  sourceSandboxID : String
  environmentRevision : String
  backend : String
  backendRef : String
  kind : CheckpointKind
  createdAt : Time
  deriving DecidableEq, Repr

/-- The record of a checkpoint that does not exist. -/
def Checkpoint.zero : Checkpoint := ⟨"", "", "", "", "", "", .unset, zeroTime⟩

/-- The declared environment a sandbox starts from. -/
structure Environment where
  revisionID : String
  projectID : String
  name : String
  backend : String
  backendTemplate : String
  imageDigest : String
  policyRevision : String
  createdAt : Time
  deriving DecidableEq, Repr

/-- The record of an environment that does not exist. -/
def Environment.zero : Environment := ⟨"", "", "", "", "", "", "", zeroTime⟩

/-- The declared connector a sandbox may use. -/
structure Connector where
  revisionID : String
  projectID : String
  name : String
  destination : String
  allowedMethods : List String
  allowedPaths : List String
  credentialRef : String
  allowPrivateNetwork : Bool
  status : String
  createdAt : Time
  deriving DecidableEq, Repr

/-- The record of a connector that does not exist. -/
def Connector.zero : Connector := ⟨"", "", "", "", [], [], "", false, "", zeroTime⟩

/-- The lifecycle of a workspace. -/
inductive WorkspaceState
  | unset
  | preparing
  | ready
  | deleting
  | deleted
  | failed
  | unknown
  deriving DecidableEq, Repr

/-- The durable record of a workspace. -/
structure Workspace where
  id : String
  projectID : String
  name : String
  backendID : String
  backendName : String
  state : WorkspaceState
  cleanupTarget : WorkspaceState
  createdAt : Time
  updatedAt : Time
  failure : Option Failure
  deriving DecidableEq, Repr

/-- The record of a workspace that does not exist. -/
def Workspace.zero : Workspace := ⟨"", "", "", "", "", .unset, .unset, zeroTime, zeroTime, none⟩

/-- `terminalWorkspace`: the workspace will never change again. -/
def WorkspaceState.terminal : WorkspaceState → Bool
  | .deleted => true
  | .failed => true
  | _ => false

/-- `terminal`: the sandbox will never change again. -/
def SandboxState.terminal : SandboxState → Bool
  | .deleted => true
  | .expired => true
  | .failed => true
  | _ => false

/-- `CanTransition`. -/
def canTransition : SandboxState → SandboxState → Bool
  | .requested, .preparing => true
  | .requested, .failed => true
  | .preparing, .running => true
  | .preparing, .failed => true
  | .preparing, .unknown => true
  | .running, .pausing => true
  | .running, .standby => true
  | .running, .deleting => true
  | .running, .expired => true
  | .running, .unknown => true
  | .pausing, .standby => true
  | .pausing, .unknown => true
  | .pausing, .failed => true
  | .standby, .resuming => true
  | .standby, .running => true
  | .standby, .deleting => true
  | .standby, .expired => true
  | .standby, .unknown => true
  | .resuming, .running => true
  | .resuming, .unknown => true
  | .resuming, .failed => true
  | .deleting, .deleted => true
  | .deleting, .expired => true
  | .deleting, .unknown => true
  | .deleting, .failed => true
  | .unknown, .running => true
  | .unknown, .standby => true
  | .unknown, .deleting => true
  | .unknown, .deleted => true
  | .unknown, .expired => true
  | .unknown, .failed => true
  | _, _ => false

theorem canTransition_terminal {before after : SandboxState}
    (allowed : canTransition before after = true) : before.terminal = false := by
  cases before <;> first | rfl | cases allowed

/-- `ValidateLifecycle`. -/
def validateLifecycle (lifecycle : Lifecycle) : Except String Unit :=
  if lifecycle.expiresAfterSeconds < 30 ∨ 30 * 24 * 60 * 60 < lifecycle.expiresAfterSeconds then
    .error "expires_after_seconds must be between 30 and 2592000"
  else if lifecycle.standbyAfterSeconds < 0 then
    .error "standby_after_seconds cannot be negative"
  else if lifecycle.standbyGraceSeconds < 0 ∨ 300 < lifecycle.standbyGraceSeconds then
    .error "standby_grace_seconds must be between 0 and 300"
  else if lifecycle.standbyAfterSeconds = 0 ∧ 0 < lifecycle.standbyGraceSeconds then
    .error "standby_grace_seconds requires standby_after_seconds"
  else if 0 < lifecycle.standbyAfterSeconds ∧
      lifecycle.expiresAfterSeconds ≤ lifecycle.standbyAfterSeconds then
    .error "standby_after_seconds must be less than expires_after_seconds"
  else if 0 < lifecycle.standbyAfterSeconds ∧ lifecycle.expiresAfterSeconds ≤
      lifecycle.standbyAfterSeconds + lifecycle.standbyGraceSeconds then
    .error "standby idle and grace periods must finish before expiration"
  else if 0 < lifecycle.standbyAfterSeconds ∧ lifecycle.standbyCheckpoint = .unset then
    .error "standby_checkpoint_kind must be filesystem or full_state"
  else if 0 < lifecycle.standbyAfterSeconds ∧ lifecycle.autoResume ∧
      lifecycle.standbyCheckpoint = .filesystem then
    .error "auto_resume requires a full_state standby checkpoint"
  else if lifecycle.autoResume ∧ lifecycle.standbyAfterSeconds = 0 then
    .error "auto_resume requires standby_after_seconds"
  else .ok ()

/-- `ValidateNetwork`. -/
def validateNetwork (network : NetworkPolicy) : Except String Unit :=
  if (network.allowOut.getD [] ++ network.denyOut.getD []).any fun destination =>
      isBlank destination || containsAny destination ['\r', '\n'] then
    .error "network destinations cannot be empty or contain newlines"
  else .ok ()

/-- `ValidateProjectID`. -/
def validateProjectID (id : String) : Except String Unit :=
  if isSafeName id then .ok ()
  else .error "project id must contain 1-128 letters, numbers, dots, underscores, or hyphens"

/-- `ValidateEnvironment`. -/
def validateEnvironment (environment : Environment) : Except String Unit :=
  match validateProjectID environment.projectID with
  | .error message => .error message
  | .ok () =>
    if !isSafeName environment.name then .error "environment name is invalid"
    else if environment.backend ≠ "microvm" then
      .error ("backend " ++ environment.backend.quote ++ " is unsupported")
    else if isBlank environment.backendTemplate then .error "template is required"
    else if environment.imageDigest ≠ "" ∧ hasStart environment.imageDigest "sha256:" = false then
      .error "image_digest must be immutable and start with sha256:"
    else .ok ()

/-- `ValidateWorkspaceName`. -/
def validateWorkspaceName (name : String) : Except String Unit :=
  if isSafeName name then .ok () else .error "workspace name is invalid"

/-- The methods of `ValidateConnector`. -/
def validateMethods : List String → Except String Unit
  | [] => .ok ()
  | method :: rest =>
    if upperCase method ∈ ["GET", "POST", "PUT", "PATCH", "DELETE"] then validateMethods rest
    else .error ("method " ++ method.quote ++ " is not allowed")

/-- The paths of `ValidateConnector`. -/
def validatePathPatterns : List String → Except String Unit
  | [] => .ok ()
  | path :: rest =>
    if hasStart path "/" = false ∨ containsAny path ['\r', '\n', '?', '#'] then
      .error ("path " ++ path.quote ++ " must be an absolute clean path pattern")
    else if containsAny path ['*'] ∧
        (hasEnd path "/*" = false ∨ path.toList.count '*' ≠ 1) then
      .error ("path " ++ path.quote ++ " may only use one trailing /* wildcard")
    else validatePathPatterns rest

/-- `ValidateConnector`; `isOrigin` is the check on the parsed destination. -/
def validateConnector (isOrigin : String → Bool) (connector : Connector) : Except String Unit :=
  match validateProjectID connector.projectID with
  | .error message => .error message
  | .ok () =>
    if !isSafeName connector.name then .error "connector name is invalid"
    else if !isOrigin connector.destination then
      .error ("destination must be an https origin or path without credentials, query, or " ++
        "fragment")
    else if connector.allowedMethods = [] ∨ connector.allowedPaths = [] then
      .error "allowed_methods and allowed_paths are required"
    else
      match validateMethods connector.allowedMethods with
      | .error message => .error message
      | .ok () =>
      match validatePathPatterns connector.allowedPaths with
      | .error message => .error message
      | .ok () =>
        if hasStart connector.credentialRef "secret://" = false then
          .error "credential_ref must be an opaque secret:// handle"
        else .ok ()

end Brezel.Domain
