import Brezel.Service.Memory

/-!
# Environments and connectors

Declared environments and connectors are immutable; their revision is a hash of what was declared.
An environment that is declared again converges on the existing revision.  Both operations run
inside the mutex and end with one transaction.
-/

namespace Brezel.Service

open Domain Store

/-- Record the operation of a declaration, its claim and the digest of its input. -/
def recordDeclaration (operation : Operation) (digest : String) (state : State) : State :=
  ((state.putOperation operation).putIdempotency operation).putIdempotencyDigest operation digest

/-! ## Environments -/

/-- What `admitEnvironmentCreate` finds: an earlier equal request, the environment itself, or the
number of environments of the project. -/
inductive EnvironmentAdmission
  | replay (environment : Environment) (operation : Operation)
  | declared (environment : Environment)
  | counted (count : Nat)

/-- `admitEnvironmentCreate` on a snapshot of the durable state. -/
def admitEnvironmentCreate (state : State) (projectID idempotencyKey digest revision : String) :
    Except ServiceError EnvironmentAdmission :=
  let index : IdempotencyKey := (projectID, "create_environment", idempotencyKey)
  match state.idempotentOperation index with
  | some operation =>
    match requireIdempotencyDigest state index digest with
    | .error error => .error error
    | .ok () =>
      match state.environments.lookup (projectID, operation.resourceID) with
      | none => .error .notFound
      | some environment => .ok (.replay environment operation)
  | none =>
    match state.environments.lookup (projectID, revision) with
    | some environment => .ok (.declared environment)
    | none => .ok (.counted
        (state.environments.entries.filter fun pair => pair.2.projectID = projectID).length)

/-- The transaction of `CreateEnvironment`. -/
def environmentRows (environment : Environment) (operation : Operation) (digest : String)
    (state : State) : Except ServiceError ((Environment × Operation) × State) :=
  let index : IdempotencyKey :=
    (operation.projectID, "create_environment", operation.idempotencyKey)
  match state.idempotentOperation index with
  | some existing =>
    match requireIdempotencyDigest state index digest with
    | .error error => .error error
    | .ok () => .ok (((state.environments.lookup
        (operation.projectID, existing.resourceID)).getD Environment.zero, existing), state)
  | none =>
    let key : Key := (operation.projectID, operation.resourceID)
    match state.environments.lookup key with
    | some existing => .ok ((existing, operation), recordDeclaration operation digest state)
    | none => .ok ((environment, operation),
        recordDeclaration operation digest (state.putEnvironment key environment))

/-- The body of `CreateEnvironment`, inside the mutex. -/
def createEnvironmentLocked (deployment : Deployment) (projectID idempotencyKey : String)
    (input : CreateEnvironmentInput) :
    Code (Environment × Operation × Option ServiceError) := do
  match requireMutation projectID idempotencyKey with
  | .error error => return (Environment.zero, Operation.zero, some error)
  | .ok () =>
  let at_ ← now
  let environment : Environment := ⟨"", projectID, input.name, deployment.backendName,
    input.template, input.imageDigest, input.policyRevision, at_⟩
  match validateEnvironment environment with
  | .error message => return (environment, Operation.zero, some (.invalid message))
  | .ok () =>
  let digest := deployment.environmentDigest input
  let revision := deployment.environmentRevision projectID input
  let revised := { environment with revisionID := revision }
  let id ← randomID "op"
  let operation :=
    succeededOperation id projectID "create_environment" revision idempotencyKey at_
  let admission ← look fun choice memory =>
    if choice.readFails then .error .store
    else admitEnvironmentCreate memory.state projectID idempotencyKey digest revision
  match admission with
  | .error error => return (revised, operation, some error)
  | .ok (.replay existing recorded) => return (existing, recorded, none)
  | .ok (.counted count) =>
    if deployment.limits.maxEnvironmentsPerProject ≤ count then
      return (revised, operation, some .quota)
    match ← updateRows fun _ => environmentRows revised operation digest with
    | .error error => return (revised, operation, some error)
    | .ok (written, recorded) => return (written, recorded, none)
  | .ok (.declared existing) =>
    match ← updateRows fun _ => environmentRows existing operation digest with
    | .error error => return (existing, operation, some error)
    | .ok (written, recorded) => return (written, recorded, none)

/-- `CreateEnvironment`. -/
def createEnvironment (deployment : Deployment) (projectID idempotencyKey : String)
    (input : CreateEnvironmentInput) : Code (Environment × Operation × Option ServiceError) :=
  locked (createEnvironmentLocked deployment projectID idempotencyKey input)

/-! ## Connectors -/

/-- The transaction of `CreateConnector`. -/
def connectorRows (limits : Limits) (connector : Connector) (operation : Operation)
    (digest : String) (state : State) :
    Except ServiceError ((Connector × Operation) × State) :=
  let index : IdempotencyKey :=
    (operation.projectID, "create_connector", operation.idempotencyKey)
  match state.idempotentOperation index with
  | some existing =>
    match requireIdempotencyDigest state index digest with
    | .error error => .error error
    | .ok () => .ok (((state.connectors.lookup
        (operation.projectID, existing.resourceID)).getD Connector.zero, existing), state)
  | none =>
    if limits.maxConnectorsPerProject ≤ (state.connectors.entries.filter fun pair =>
        pair.2.projectID = operation.projectID).length then .error .quota
    else .ok ((connector, operation), recordDeclaration operation digest
      (state.putConnector (operation.projectID, operation.resourceID) connector))

/-- The body of `CreateConnector`, inside the mutex. -/
def createConnectorLocked (deployment : Deployment) (projectID idempotencyKey : String)
    (input : CreateConnectorInput) : Code (Connector × Operation × Option ServiceError) := do
  match requireMutation projectID idempotencyKey with
  | .error error => return (Connector.zero, Operation.zero, some error)
  | .ok () =>
  let at_ ← now
  let status := if deployment.gateway.isSome then "broker_configured_unqualified"
    else "registered_unenforced"
  let connector : Connector := ⟨"", projectID, input.name, input.destination,
    input.allowedMethods, input.allowedPaths, input.credentialRef, input.allowPrivateNetwork,
    status, at_⟩
  match validateConnector deployment.isOrigin connector with
  | .error message => return (connector, Operation.zero, some (.invalid message))
  | .ok () =>
  let digest := deployment.connectorDigest input
  let revision := deployment.connectorRevision projectID input
  let revised := { connector with revisionID := revision }
  let id ← randomID "op"
  let operation := succeededOperation id projectID "create_connector" revision idempotencyKey at_
  match ← update fun _ => connectorRows deployment.limits revised operation digest with
  | .error error => return (revised, operation, some error)
  | .ok (written, recorded) => return (written, recorded, none)

/-- `CreateConnector`. -/
def createConnector (deployment : Deployment) (projectID idempotencyKey : String)
    (input : CreateConnectorInput) : Code (Connector × Operation × Option ServiceError) :=
  locked (createConnectorLocked deployment projectID idempotencyKey input)

end Brezel.Service
