import Brezel.Domain.Sandbox

/-!
# The durable state and its transactions

The control plane keeps its records in tables keyed by project and resource.  A transaction
computes a next state, validates all of it, and installs it; a rejected transaction installs
nothing.  `transact` adds the failures of the medium: a write can fail before it takes effect, and
a write can take effect although its success is never reported.

`transact_cases` says what a transaction can do to the state.
-/

namespace Brezel.Store

open Domain

/-- `ScopedKey`: the project and the resource. -/
abbrev Key := String × String

/-- `IdempotencyKey`: the project, the kind of mutation and the request key. -/
abbrev IdempotencyKey := String × String × String

/-- The durable tables. -/
structure State where
  environments : AList (fun _ : Key => Environment)
  connectors : AList (fun _ : Key => Connector)
  workspaces : AList (fun _ : Key => Workspace)
  sandboxes : AList (fun _ : Key => Sandbox)
  operations : AList (fun _ : Key => Operation)
  checkpoints : AList (fun _ : Key => Checkpoint)
  idempotency : AList (fun _ : IdempotencyKey => String)
  idempotencyDigests : AList (fun _ : IdempotencyKey => String)
  events : List Event

/-- The state of a new store. -/
def State.empty : State := ⟨∅, ∅, ∅, ∅, ∅, ∅, ∅, ∅, []⟩

/-- The key of a sandbox. -/
def sandboxKey (sandbox : Sandbox) : Key := (sandbox.projectID, sandbox.id)

/-- The key of a workspace. -/
def workspaceKey (workspace : Workspace) : Key := (workspace.projectID, workspace.id)

/-- The key of an operation. -/
def operationKey (operation : Operation) : Key := (operation.projectID, operation.id)

namespace State

/-- The row of a sandbox. -/
def row (state : State) (key : Key) : Option Sandbox := state.sandboxes.lookup key

/-- Write a sandbox record under its own key. -/
def putSandbox (state : State) (sandbox : Sandbox) : State :=
  { state with sandboxes := state.sandboxes.insert (sandboxKey sandbox) sandbox }

/-- Write an operation record under its own key. -/
def putOperation (state : State) (operation : Operation) : State :=
  { state with operations := state.operations.insert (operationKey operation) operation }

/-- Write a checkpoint record under its own key. -/
def putCheckpoint (state : State) (checkpoint : Checkpoint) : State :=
  { state with
    checkpoints := state.checkpoints.insert (checkpoint.projectID, checkpoint.id) checkpoint }

/-- Remove a checkpoint record. -/
def dropCheckpoint (state : State) (key : Key) : State :=
  { state with checkpoints := state.checkpoints.erase key }

/-- Write an environment record. -/
def putEnvironment (state : State) (key : Key) (environment : Environment) : State :=
  { state with environments := state.environments.insert key environment }

/-- Write a connector record. -/
def putConnector (state : State) (key : Key) (connector : Connector) : State :=
  { state with connectors := state.connectors.insert key connector }

/-- Write a workspace record. -/
def putWorkspace (state : State) (key : Key) (workspace : Workspace) : State :=
  { state with workspaces := state.workspaces.insert key workspace }

/-- Claim the key of an operation. -/
def putIdempotency (state : State) (operation : Operation) : State :=
  { state with
    idempotency := state.idempotency.insert
      (operation.projectID, operation.kind, operation.idempotencyKey) operation.id }

/-- Record the digest of the input of an indexed operation. -/
def putIdempotencyDigest (state : State) (operation : Operation) (digest : String) : State :=
  { state with
    idempotencyDigests := state.idempotencyDigests.insert
      (operation.projectID, operation.kind, operation.idempotencyKey) digest }

/-- The number for a new event: one more than the last of its stream. -/
def nextSequence (events : List Event) (event : Event) : Nat :=
  let sequence := events.foldl (fun sequence existing =>
    if existing.projectID = event.projectID ∧ existing.resourceID = event.resourceID ∧
        sequence ≤ existing.sequence then existing.sequence + 1 else sequence) event.sequence
  if sequence = 0 then 1 else sequence

/-- `appendEvent`. -/
def appendEvent (state : State) (event : Event) : State :=
  { state with
    events := state.events ++ [{ event with sequence := nextSequence state.events event }] }

/-- `idempotentOperation`. -/
def idempotentOperation (state : State) (key : IdempotencyKey) : Option Operation :=
  match state.idempotency.lookup key with
  | none => none
  | some id => state.operations.lookup (key.1, id)

/-! ### Rows after a write -/

theorem row_putSandbox (state : State) (sandbox : Sandbox) (key : Key) :
    (state.putSandbox sandbox).row key =
      if key = sandboxKey sandbox then some sandbox else state.row key := by
  unfold row putSandbox
  split
  · next same =>
    rw [same]
    exact AList.lookup_insert state.sandboxes
  · next different => exact AList.lookup_insert_ne different

@[simp] theorem row_putOperation (state : State) (operation : Operation) :
    (state.putOperation operation).row = state.row := rfl

@[simp] theorem row_putWorkspace (state : State) (key : Key) (workspace : Workspace) :
    (state.putWorkspace key workspace).row = state.row := rfl

@[simp] theorem row_putIdempotency (state : State) (operation : Operation) :
    (state.putIdempotency operation).row = state.row := rfl

@[simp] theorem row_putIdempotencyDigest (state : State) (operation : Operation)
    (digest : String) : (state.putIdempotencyDigest operation digest).row = state.row := rfl

@[simp] theorem row_appendEvent (state : State) (event : Event) :
    (state.appendEvent event).row = state.row := rfl

/-! ## Validation -/

/-- `requireScopedIdentity`. -/
def scopedIdentity (key : Key) (projectID resourceID : String) : Bool :=
  isSafeName projectID && resourceID ≠ "" && !containsAny resourceID ['\x00', '\r', '\n'] &&
    key = (projectID, resourceID)

/-- The checks of `validateState` on a sandbox record: its identity, and a node assignment that is
complete or absent. -/
def validSandbox (key : Key) (sandbox : Sandbox) : Bool :=
  scopedIdentity key sandbox.projectID sandbox.id &&
    ((sandbox.nodeID = "" && sandbox.nodeRouteID = "" && sandbox.nodeGeneration = 0) ||
      (sandbox.nodeID ≠ "" && sandbox.nodeRouteID ≠ "" && sandbox.nodeGeneration ≠ 0)) &&
    !containsAny (sandbox.nodeID ++ sandbox.nodeRouteID) ['\x00', '\r', '\n']

/-- The checks of `validateState` on an entry of the idempotency index.  The source joins the three
parts of a key with null characters and splits it again. -/
def validIndexEntry (state : State) (key : IdempotencyKey) (operationID : String) : Bool :=
  key.1 ≠ "" && key.2.1 ≠ "" && key.2.2 ≠ "" &&
    !containsAny (key.1 ++ key.2.1 ++ key.2.2) ['\x00'] &&
    match state.operations.lookup (key.1, operationID) with
    | none => false
    | some operation =>
      operation.projectID = key.1 && operation.kind = key.2.1 &&
        operation.idempotencyKey = key.2.2

/-- A hexadecimal digest of 32 bytes. -/
def isDigest (digest : String) : Bool :=
  digest.toList.length = 64 && digest.toList.all fun character =>
    ('0' ≤ character && character ≤ '9') || ('a' ≤ character && character ≤ 'f') ||
      ('A' ≤ character && character ≤ 'F')

/-- `validateState`. -/
def valid (state : State) : Bool :=
  (state.environments.entries.all fun pair =>
      scopedIdentity pair.1 pair.2.projectID pair.2.revisionID) &&
    (state.sandboxes.entries.all fun pair => validSandbox pair.1 pair.2) &&
    (state.operations.entries.all fun pair =>
      scopedIdentity pair.1 pair.2.projectID pair.2.id) &&
    (state.checkpoints.entries.all fun pair =>
      scopedIdentity pair.1 pair.2.projectID pair.2.id) &&
    (state.workspaces.entries.all fun pair =>
      scopedIdentity pair.1 pair.2.projectID pair.2.id) &&
    (state.connectors.entries.all fun pair =>
      scopedIdentity pair.1 pair.2.projectID pair.2.revisionID) &&
    (state.idempotency.entries.all fun pair => state.validIndexEntry pair.1 pair.2) &&
    state.idempotencyDigests.entries.all fun pair =>
      (state.idempotency.lookup pair.1).isSome && isDigest pair.2

/-- What the checks of `validateState` say of every record. -/
structure Valid (state : State) : Prop where
  environments : ∀ {key environment}, state.environments.lookup key = some environment →
    scopedIdentity key environment.projectID environment.revisionID = true
  sandboxes : ∀ {key sandbox}, state.sandboxes.lookup key = some sandbox →
    validSandbox key sandbox = true
  operations : ∀ {key operation}, state.operations.lookup key = some operation →
    scopedIdentity key operation.projectID operation.id = true
  checkpoints : ∀ {key checkpoint}, state.checkpoints.lookup key = some checkpoint →
    scopedIdentity key checkpoint.projectID checkpoint.id = true
  workspaces : ∀ {key workspace}, state.workspaces.lookup key = some workspace →
    scopedIdentity key workspace.projectID workspace.id = true
  connectors : ∀ {key connector}, state.connectors.lookup key = some connector →
    scopedIdentity key connector.projectID connector.revisionID = true
  idempotency : ∀ {key operationID}, state.idempotency.lookup key = some operationID →
    state.validIndexEntry key operationID = true
  digests : ∀ {key digest}, state.idempotencyDigests.lookup key = some digest →
    (state.idempotency.lookup key).isSome = true ∧ isDigest digest = true

theorem valid_iff (state : State) : state.valid = true ↔ state.Valid := by
  simp only [valid, Bool.and_eq_true, List.all_eq_true]
  constructor
  · rintro ⟨⟨⟨⟨⟨⟨⟨environments, sandboxes⟩, operations⟩, checkpoints⟩, workspaces⟩, connectors⟩,
      idempotency⟩, digests⟩
    exact ⟨fun {key row} present => environments ⟨key, row⟩ (AList.mem_lookup_iff.mp present),
      fun {key row} present => sandboxes ⟨key, row⟩ (AList.mem_lookup_iff.mp present),
      fun {key row} present => operations ⟨key, row⟩ (AList.mem_lookup_iff.mp present),
      fun {key row} present => checkpoints ⟨key, row⟩ (AList.mem_lookup_iff.mp present),
      fun {key row} present => workspaces ⟨key, row⟩ (AList.mem_lookup_iff.mp present),
      fun {key row} present => connectors ⟨key, row⟩ (AList.mem_lookup_iff.mp present),
      fun {key row} present => idempotency ⟨key, row⟩ (AList.mem_lookup_iff.mp present),
      fun {key row} present => digests ⟨key, row⟩ (AList.mem_lookup_iff.mp present)⟩
  · rintro ⟨environments, sandboxes, operations, checkpoints, workspaces, connectors, idempotency,
      digests⟩
    exact ⟨⟨⟨⟨⟨⟨⟨fun ⟨_, _⟩ member => environments (AList.mem_lookup_iff.mpr member),
      fun ⟨_, _⟩ member => sandboxes (AList.mem_lookup_iff.mpr member)⟩,
      fun ⟨_, _⟩ member => operations (AList.mem_lookup_iff.mpr member)⟩,
      fun ⟨_, _⟩ member => checkpoints (AList.mem_lookup_iff.mpr member)⟩,
      fun ⟨_, _⟩ member => workspaces (AList.mem_lookup_iff.mpr member)⟩,
      fun ⟨_, _⟩ member => connectors (AList.mem_lookup_iff.mpr member)⟩,
      fun ⟨_, _⟩ member => idempotency (AList.mem_lookup_iff.mpr member)⟩,
      fun ⟨_, _⟩ member => digests (AList.mem_lookup_iff.mpr member)⟩

theorem valid_row {state : State} (isValid : state.valid = true) {key : Key} {sandbox : Sandbox}
    (present : state.row key = some sandbox) : validSandbox key sandbox = true :=
  ((valid_iff state).mp isValid).sandboxes present

theorem scopedIdentity_iff {key : Key} {projectID resourceID : String} :
    scopedIdentity key projectID resourceID = true ↔
      isSafeName projectID = true ∧ resourceID ≠ "" ∧
        containsAny resourceID ['\x00', '\r', '\n'] = false ∧ key = (projectID, resourceID) := by
  simp [scopedIdentity, and_assoc]

end State

/-! ## Transactions -/

/-- The failures of the medium during one access. -/
inductive Fault
  | none
  | refused
  | applied
  deriving DecidableEq, Repr

/-- The errors of a transaction: a rejection by its body, by validation, or by the medium. -/
inductive StoreError (Rejection : Type)
  | rejected (reason : Rejection)
  | invalid
  | failed
  deriving DecidableEq, Repr

/-- One transaction.  Under `Fault.applied` a valid next state is installed and an error
reported. -/
def transact {Rejection Result : Type} (fault : Fault)
    (body : State → Except Rejection (Result × State)) (state : State) :
    Except (StoreError Rejection) Result × State :=
  match fault with
  | .refused => (.error .failed, state)
  | fault =>
    match body state with
    | .error reason => (.error (.rejected reason), state)
    | .ok (result, next) =>
      if next.valid then
        if fault = .applied then (.error .failed, next) else (.ok result, next)
      else (.error .invalid, state)

theorem transact_cases {Rejection Result : Type} {fault : Fault}
    {body : State → Except Rejection (Result × State)} {state after : State}
    {outcome : Except (StoreError Rejection) Result} :
    transact fault body state = (outcome, after) →
    ((∃ error, outcome = .error error) ∧ after = state) ∨
    ∃ result, body state = .ok (result, after) ∧ after.valid = true ∧
      (outcome = .ok result ∨ outcome = .error .failed) := by
  fun_cases transact fault body state with
  | case3 result next computed isValid =>
    rintro ⟨⟩
    exact .inr ⟨result, computed, isValid, .inr rfl⟩
  | case4 _ _ result next computed isValid =>
    rintro ⟨⟩
    exact .inr ⟨result, computed, isValid, .inl rfl⟩
  | _ =>
    rintro ⟨⟩
    exact .inl ⟨⟨_, rfl⟩, rfl⟩

/-- Without a fault, a valid result is installed and reported. -/
theorem transact_ok {Rejection Result : Type} {body : State → Except Rejection (Result × State)}
    {state next : State} {result : Result} (computed : body state = .ok (result, next))
    (isValid : next.valid = true) : transact .none body state = (.ok result, next) := by
  simp [transact, computed, isValid]

/-! ## The two stores -/

/-- The two stores. -/
inductive StoreKind
  | file
  | sqlite
  deriving DecidableEq, Repr

/-- The identity of an operation that no mutation of rows may change. -/
def sameIdentity (current next : Operation) : Bool :=
  current.projectID = next.projectID && current.id = next.id && current.kind = next.kind &&
    current.idempotencyKey = next.idempotencyKey && current.createdAt = next.createdAt

/-- Claims and their digests stay. -/
def State.keepsClaims (before after : State) : Bool :=
  before.idempotency.entries.all fun pair => after.idempotency.lookup pair.1 = some pair.2 &&
    after.idempotencyDigests.lookup pair.1 = before.idempotencyDigests.lookup pair.1

/-- Operations stay and keep their identity. -/
def State.keepsOperations (before after : State) : Bool :=
  before.operations.entries.all fun pair =>
    match after.operations.lookup pair.1 with
    | none => false
    | some next => sameIdentity pair.2 next

/-- What a store's `UpdateRows` asks of a mutation beyond a valid state.  The file store asks for
nothing; SQLite keeps claims and the identity of operations. -/
def StoreKind.accepts : StoreKind → State → State → Bool
  | .file, _, _ => true
  | .sqlite, before, after => before.keepsClaims after && before.keepsOperations after

/-! ## Activity -/

/-- `standbyEligibleAt`. -/
def standbyEligibleAt (lifecycle : Lifecycle) (lastActive : Time) : Time :=
  lastActive + seconds (lifecycle.standbyAfterSeconds + lifecycle.standbyGraceSeconds)

/-- `markSandboxActive`. -/
def markSandboxActive (sandbox : Sandbox) (at_ : Time) : Sandbox :=
  { sandbox with
    lastActiveAt := at_
    standbyEligibleAt :=
      if 0 < sandbox.lifecycle.standbyAfterSeconds then standbyEligibleAt sandbox.lifecycle at_
      else zeroTime }

/-- `advanceSandboxActivity`: record activity on a running or standby sandbox, never backwards. -/
def advanceSandboxActivity (current : Sandbox) (at_ : Time) : Sandbox :=
  if current.state ≠ .running ∧ current.state ≠ .standby then current
  else
    let later := if at_ < current.lastActiveAt then current.lastActiveAt else at_
    markSandboxActive { current with updatedAt := later, revision := current.revision + 1 } later

end Brezel.Store
