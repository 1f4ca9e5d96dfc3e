import Brezel.Library.Monitor.Program
import Brezel.Node.Dataplane
import Brezel.Node.RouteAdmin
import Brezel.Store.State

/-!
# The memory of the control plane

The controller keeps the durable tables and a few maps that live only as long as the process: the
fences of sandboxes and workspaces with a backend mutation in flight, the admitted guest operations
and the latest activity.  One mutex guards them all.

This module fixes the interface of the controller's code: its memory, the choices that one access
may see (the clock, fresh identifiers, a failing store, a cancelled context), the outside calls to
the backend, to the node and to guests, and the notes.  Then it defines the accesses the code is
built from.

`Memory.inFlight` is history: for every sandbox it lists the threads between setting and clearing
its fence.  No code reads it.
-/

namespace Brezel.Service

open Domain Store Node Monitor

/-! ## Errors and configuration -/

/-- The errors of the service; `store` is a failure of the state store. -/
inductive ServiceError
  | invalid (detail : String)
  | notFound
  | conflict (detail : String)
  | denied (detail : String)
  | quota
  | capacity
  | backend (detail : String)
  | superseded
  | cancelled
  | store
  deriving DecidableEq, Repr

/-- What a backend can enforce. -/
structure Capabilities where
  hostileCodeIsolation : Bool
  denyByDefaultEgress : Bool
  filesystemStandby : Bool
  fullStateStandby : Bool
  filesystemCheckpoint : Bool
  fullStateCheckpoint : Bool
  autoResume : Bool
  durableWorkspaces : Bool
  deriving DecidableEq, Repr

/-- `Limits`. -/
structure Limits where
  maxActiveSandboxesPerProject : Nat
  maxActiveSandboxesTotal : Nat
  maxWorkspacesPerProject : Nat
  maxConcurrentGuestOpsPerProject : Nat
  maxEnvironmentsPerProject : Nat
  maxConnectorsPerProject : Nat
  deriving DecidableEq, Repr

/-- `CreateEnvironmentInput`. -/
structure CreateEnvironmentInput where
  name : String
  template : String
  imageDigest : String
  policyRevision : String
  deriving DecidableEq, Repr

/-- `CreateConnectorInput`. -/
structure CreateConnectorInput where
  name : String
  destination : String
  allowedMethods : List String
  allowedPaths : List String
  credentialRef : String
  allowPrivateNetwork : Bool
  deriving DecidableEq, Repr

/-- `CreateWorkspaceInput`. -/
structure CreateWorkspaceInput where
  name : String
  deriving DecidableEq, Repr

/-- `CreateSandboxInput`. -/
structure CreateSandboxInput where
  environmentRevision : String
  checkpointID : String
  lifecycle : Lifecycle
  network : NetworkPolicy
  connectorRevisions : List String
  workspaceMounts : List WorkspaceMount
  deriving DecidableEq, Repr

/-- The gateway of the connector broker. -/
structure Gateway where
  host : String
  url : String
  deriving DecidableEq, Repr

/-- The configuration of a service.  `routeAdmin` tells whether a node route administrator is
configured and `requiresNodeAssignment` whether the data plane needs node routes; `New` refuses the
second without the first.  `gateway` belongs to the connector broker, when there is one.  The
digests and revisions are hashes of the inputs, and `isOrigin` is the check of `ValidateConnector`
on a parsed destination. -/
structure Deployment where
  store : StoreKind
  backendName : String
  capabilities : Capabilities
  routeAdmin : Bool
  requiresNodeAssignment : Bool
  administered : requiresNodeAssignment = true → routeAdmin = true
  gateway : Option Gateway
  limits : Limits
  createDigest : CreateSandboxInput → String
  checkpointDigest : String → CheckpointKind → String
  environmentDigest : CreateEnvironmentInput → String
  connectorDigest : CreateConnectorInput → String
  workspaceDigest : CreateWorkspaceInput → String
  environmentRevision : String → CreateEnvironmentInput → String
  connectorRevision : String → CreateConnectorInput → String
  isOrigin : String → Bool

/-! ## Outside calls -/

/-- The errors of the backend that the service tells apart. -/
inductive BackendError
  | notFound
  | capacityUnavailable
  | failed (detail : String)
  deriving DecidableEq, Repr

/-- `backend.Sandbox`. -/
structure RemoteSandbox where
  id : String
  state : SandboxState
  deriving DecidableEq, Repr

/-- `backend.Checkpoint`. -/
structure RemoteCheckpoint where
  ref : String
  kind : CheckpointKind
  deriving DecidableEq, Repr

/-- `backend.CreateRequest`; `environment` and `workspaceMounts` pair names with values. -/
structure CreateRequest where
  localSandboxID : String
  projectID : String
  templateID : String
  lifecycle : Lifecycle
  network : NetworkPolicy
  environment : List (String × String)
  workspaceMounts : List (String × String)
  deriving DecidableEq, Repr

/-- The calls of the backend. -/
inductive BackendCall
  | create (request : CreateRequest)
  | find (localSandboxID projectID : String)
  | inspect (backendID : String)
  | pause (backendID : String) (kind : CheckpointKind)
  | resume (backendID : String) (kind : CheckpointKind) (remaining : Int)
  | delete (backendID : String)
  | checkpoint (backendID : String) (kind : CheckpointKind) (name : String)
  | deleteCheckpoint (ref : String)
  deriving DecidableEq, Repr

/-- What a call returns. -/
abbrev BackendCall.Answer : BackendCall → Type
  | .create _ => RemoteSandbox
  | .find _ _ => RemoteSandbox
  | .inspect _ => RemoteSandbox
  | .pause _ _ => Unit
  | .resume _ _ _ => RemoteSandbox
  | .delete _ => Unit
  | .checkpoint _ _ _ => RemoteCheckpoint
  | .deleteCheckpoint _ => Unit

/-- `backend.Workspace`. -/
structure RemoteWorkspace where
  id : String
  name : String
  deriving DecidableEq, Repr

/-- `backend.WorkspaceCreateRequest`. -/
structure WorkspaceCreateRequest where
  localWorkspaceID : String
  projectID : String
  name : String
  deriving DecidableEq, Repr

/-- The calls of `backend.WorkspaceRuntime`. -/
inductive WorkspaceCall
  | create (request : WorkspaceCreateRequest)
  | find (name : String)
  | delete (backendID : String)
  deriving DecidableEq, Repr

/-- What a call returns. -/
abbrev WorkspaceCall.Answer : WorkspaceCall → Type
  | .create _ => RemoteWorkspace
  | .find _ => RemoteWorkspace
  | .delete _ => Unit

/-- The outside calls.  A call carries the sandbox or the workspace it is made for.  `guest` is the
engine call of a guest operation.  `diverge` never returns: it stands for a recursion that goes on
for ever. -/
inductive Query
  | backend (key : Key) (call : BackendCall)
  | workspace (key : Key) (call : WorkspaceCall)
  | route (key : Key) (request : RouteRequest)
  | guest (key : Key) (operationID : String)
  | diverge

/-- What an outside call returns. -/
def Query.Reply : Query → Type
  | .backend _ call => Except BackendError call.Answer
  | .workspace _ call => Except BackendError call.Answer
  | .route _ _ => Except RouteAdminError RouteReply
  | .guest _ _ => Bool
  | .diverge => Empty

/-! ## Memory and choices -/

/-- An admitted guest operation: its identifier and the thread it runs in.  The random identifiers
of operations in flight differ, and so do their threads. -/
abbrev GuestEntry := String × Nat

/-- The memory behind the mutex.  Absent entries of the maps read as the empty list, zero and the
zero time.  `bindings` holds the handoffs that have been made and `revoked` the identifiers of the
operations whose handoff is revoked. -/
structure Memory where
  state : State
  activeBackendMutations : List Key
  activeWorkspaceMutations : List Key
  inFlight : Key → List Nat
  activeGuestOps : Key → List GuestEntry
  activeGuestOpsByProject : String → Nat
  recentActivity : Key → Time
  cancelledGuestOps : List (Key × String)
  bindings : List SandboxBinding
  revoked : List String

/-- The memory of a process that starts on a durable state. -/
def Memory.boot (state : State) : Memory :=
  ⟨state, [], [], fun _ => [], fun _ => [], fun _ => 0, fun _ => zeroTime, [], [], []⟩

/-- What one access sees of its surroundings: the thread it runs in, the clock, fresh random
identifiers, the store and the fate of an access to it, the operations that the store's index of
recoverable operations holds, whether the context is cancelled, the lease the broker issues, and
whether SQLite fails the lookup of `checkpointInUseLocked`. -/
structure Choice where
  thread : Nat
  now : Time
  identifier : String
  eventIdentifier : String
  store : StoreKind
  fault : Fault
  indexed : Operation → Bool
  cancelled : Bool
  lease : Option String
  usesFail : Bool

/-- A lookup fails.  The file store answers lookups from its memory. -/
def Choice.readFails (choice : Choice) : Bool :=
  choice.store = .sqlite && choice.fault ≠ .none

/-- The lookup of `checkpointInUseLocked` fails. -/
def Choice.usesUnread (choice : Choice) : Bool := choice.store = .sqlite && choice.usesFail

/-- The places in the code that carry a note. -/
inductive Label
  | reported (key : Key) (state : SandboxState)
  | observed (sandbox : Sandbox)
  | admitting (key : Key)
  | gaveUp (key : Key)
  | cleaningLocked (key : Key)
  | missingLocked (key : Key)
  | missing (key : Key)

/-- The interface of the controller's code. -/
abbrev interface : Interface := ⟨Memory, Choice, Query, Query.Reply, Label⟩

/-- The programs of the controller. -/
abbrev Code (α : Type) := Prog interface α

/-! ## Accesses -/

/-- One atomic access to the memory. -/
def access {α : Type} (body : Choice → Memory → α × Memory) : Code α :=
  .act (fun choice memory => (body choice memory).2) fun choice memory =>
    .ret (body choice memory).1

/-- An access that changes nothing. -/
def look {α : Type} (body : Choice → Memory → α) : Code α :=
  access fun choice memory => (body choice memory, memory)

/-- Take the mutex. -/
def lock : Code Unit := .lock (.ret ())

/-- Give the mutex back. -/
def unlock : Code Unit := .unlock (.ret ())

/-- Pass a label. -/
def note (label : Label) : Code Unit := .note label (.ret ())

/-- A section: the code between taking the mutex and giving it back. -/
def locked {α : Type} (body : Code α) : Code α := do
  lock
  let result ← body
  unlock
  return result

/-- Call the backend for a sandbox. -/
def backendCall (key : Key) (call : BackendCall) : Code (Except BackendError call.Answer) :=
  .call (.backend key call) .ret

/-- Call the backend for a workspace. -/
def workspaceCall (key : Key) (call : WorkspaceCall) : Code (Except BackendError call.Answer) :=
  .call (.workspace key call) .ret

/-- Call the node for the route of a sandbox. -/
def routeCall (key : Key) (request : RouteRequest) : Code (Except RouteAdminError RouteReply) :=
  .call (.route key request) .ret

/-- Run a guest operation on the data plane. -/
def guestCall (key : Key) (operationID : String) : Code Bool :=
  .call (.guest key operationID) .ret

/-- Never return. -/
def diverge {α : Type} : Code α :=
  .call .diverge fun reply => nomatch reply

/-- `s.now()`. -/
def now : Code Time := look fun choice _ => choice.now

/-- `ctx.Err() != nil`. -/
def contextCancelled : Code Bool := look fun choice _ => choice.cancelled

/-- `randomID`. -/
def randomID (kind : String) : Code String := look fun choice _ => kind ++ "_" ++ choice.identifier

/-- `getSandbox`: a lookup, which the store may fail. -/
def getSandbox (key : Key) : Code (Except ServiceError Sandbox) :=
  look fun choice memory =>
    if choice.readFails then .error .store
    else
      match memory.state.row key with
      | none => .error .notFound
      | some sandbox => .ok sandbox

/-- The value of a lookup whose error is ignored. -/
def sandboxOrZero : Except ServiceError Sandbox → Sandbox
  | .ok sandbox => sandbox
  | .error _ => Sandbox.zero

/-- The sandbox is in `activeBackendMutations`. -/
def fenced (key : Key) : Code Bool := look fun _ memory => key ∈ memory.activeBackendMutations

/-- Put the sandbox into `activeBackendMutations`. -/
def setFence (key : Key) : Code Unit :=
  access fun choice memory => ((), { memory with
    activeBackendMutations := key :: memory.activeBackendMutations
    inFlight := Function.update memory.inFlight key (choice.thread :: memory.inFlight key) })

/-- Take the sandbox out of `activeBackendMutations`. -/
def clearFence (key : Key) : Code Unit :=
  access fun choice memory => ((), { memory with
    activeBackendMutations := memory.activeBackendMutations.filter (· ≠ key)
    inFlight := Function.update memory.inFlight key
      ((memory.inFlight key).erase choice.thread) })

/-- `hasActiveGuestOperationsLocked`. -/
def hasActiveGuestOperationsLocked (key : Key) : Code Bool :=
  look fun _ memory => 0 < (memory.activeGuestOps key).length

/-- `cancelActiveGuestOperationsLocked`. -/
def cancelActiveGuestOperationsLocked (key : Key) : Code Unit :=
  access fun _ memory => ((), { memory with
    cancelledGuestOps :=
      (memory.activeGuestOps key).map (fun entry => (key, entry.1)) ++
        memory.cancelledGuestOps })

/-- The service error for a store error. -/
def translateStore : StoreError ServiceError → ServiceError
  | .rejected reason => reason
  | .invalid => .store
  | .failed => .store

/-- A mutation that the store's `UpdateRows` accepts. -/
def guarding {α : Type} (store : StoreKind) (body : State → Except ServiceError (α × State))
    (state : State) : Except ServiceError (α × State) :=
  match body state with
  | .error error => .error error
  | .ok (value, next) => if store.accepts state next then .ok (value, next) else .error .store

theorem guarding_ok {α : Type} {store : StoreKind} {body : State → Except ServiceError (α × State)}
    {state next : State} {value : α} (computed : guarding store body state = .ok (value, next)) :
    body state = .ok (value, next) ∧ store.accepts state next = true := by
  unfold guarding at computed
  split at computed
  · cases computed
  next isOk =>
  split at computed
  · next accepted =>
    cases computed
    exact ⟨isOk, accepted⟩
  · cases computed

/-- `Update`: one transaction of the store. -/
def update {α : Type} (body : Choice → State → Except ServiceError (α × State)) :
    Code (Except ServiceError α) :=
  access fun choice memory =>
    let (result, state) := transact choice.fault (body choice) memory.state
    (result.mapError translateStore, { memory with state := state })

/-- `UpdateRows`: one transaction of the store that is confined to declared rows. -/
def updateRows {α : Type} (body : Choice → State → Except ServiceError (α × State)) :
    Code (Except ServiceError α) :=
  update fun choice => guarding choice.store (body choice)

/-- `eventFor`. -/
def eventFor (choice : Choice) (sandbox : Sandbox) (operationID type : String) (at_ : Time)
    (details : List (String × String)) : Event :=
  ⟨"evt_" ++ choice.eventIdentifier, 0, sandbox.projectID, sandbox.id, operationID, type,
    sandbox.state, at_, details⟩

/-- `succeededOperation`, with the identifier it draws. -/
def succeededOperation (id projectID kind resourceID idempotencyKey : String) (at_ : Time) :
    Operation :=
  ⟨id, projectID, kind, resourceID, .succeeded, idempotencyKey, at_, at_, none⟩

/-- `requireMutation`. -/
def requireMutation (projectID idempotencyKey : String) : Except ServiceError Unit :=
  match validateProjectID projectID with
  | .error message => .error (.invalid message)
  | .ok () =>
    if isSafeIdempotencyKey idempotencyKey then .ok ()
    else .error (.invalid "Idempotency-Key must contain 8-200 safe characters")

/-- `requireIdempotencyDigest`. -/
def requireIdempotencyDigest (state : State) (key : IdempotencyKey) (digest : String) :
    Except ServiceError Unit :=
  match state.idempotencyDigests.lookup key with
  | some stored =>
    if stored ≠ "" ∧ stored ≠ digest then
      .error (.conflict "Idempotency-Key was already used with a different request")
    else .ok ()
  | none => .ok ()

/-- `lookupIdempotency`: a failing store reads as a key that was never used. -/
def lookupIdempotency (projectID kind key : String) : Code (Option Operation) :=
  look fun choice memory =>
    if choice.readFails then none
    else (memory.state.idempotentOperation (projectID, kind, key)).filter (·.id ≠ "")

/-- `lookupIdempotencyInput`. -/
def lookupIdempotencyInput (projectID kind key digest : String) :
    Code (Except ServiceError (Option Operation)) :=
  look fun choice memory =>
    if choice.readFails then .error .store
    else
      match (memory.state.idempotentOperation (projectID, kind, key)).filter (·.id ≠ "") with
      | none => .ok none
      | some operation =>
        match requireIdempotencyDigest memory.state (projectID, kind, key) digest with
        | .error error => .error error
        | .ok () => .ok (some operation)

/-- The callback that records activity. -/
def activityRows (key : Key) (at_ : Time) (state : State) :
    Except ServiceError (Sandbox × State) :=
  match state.row key with
  | none => .error .notFound
  | some current =>
    if current.state ≠ .running ∧ current.state ≠ .standby then .ok (current, state)
    else .ok (advanceSandboxActivity current at_,
      state.putSandbox (advanceSandboxActivity current at_))

/-- `recordActivityLocked`. -/
def recordActivityLocked (key : Key) (at_ : Time) : Code (Except ServiceError Sandbox) :=
  access fun choice memory =>
    match transact choice.fault (activityRows key at_) memory.state with
    | (.ok sandbox, state) => (.ok sandbox, { memory with
        state := state
        recentActivity := Function.update memory.recentActivity key sandbox.lastActiveAt })
    | (.error error, state) => (.error (translateStore error), { memory with state := state })

end Brezel.Service
