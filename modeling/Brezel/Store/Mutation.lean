import Brezel.Store.Sqlite

/-!
# Mutations of the embedded ledger

`Database.update` runs a callback on the whole decoded ledger.  `Database.updateRows` runs it on the
rows of a declared scope: the declared resources and claims, the operation and the resources that a
declared claim refers to, which are read-only, and the last event of each declared stream.  Before
it writes it checks that the callback stayed in its scope (`validateScopedChanges`).

The hot paths `Database.recordSandboxActivity` and `Database.appendSandboxEvent` write one row, and
opening the database again rebuilds the counters and the mounts (`Database.reopen`).
-/

namespace Brezel.Store

open Domain Table

/-- Why a mutation is not committed. -/
inductive UpdateError
  | rejected (reason : String)
  | invalid (detail : String)
  | notFound
  | sync (error : SyncError)
  deriving DecidableEq, Repr

/-- The body of a mutation. -/
abbrev Callback := State → Except String State

/-- A check that fails refuses the mutation. -/
def checked {Result : Type} (outcome : Except String Result) : Except UpdateError Result :=
  outcome.mapError .invalid

/-- `loadStateTx`. -/
def loadState (rows : Rows) : Except UpdateError State :=
  if rows.decode.valid then .ok rows.decode else .error (.invalid "validate stored state")

/-- Validate and encode the state that a callback made. -/
def encodeUpdated (next : State) : Except UpdateError Rows :=
  if next.valid then checked (encodeState next) else .error (.invalid "validate updated state")

/-- The part of `Update` before it writes: the encoded ledger before and after the callback. -/
def Database.prepareUpdate (callback : Callback) (database : Database) :
    Except UpdateError (Rows × Rows) := do
  let state ← loadState database.rows
  let before ← checked (encodeState state)
  let next ← (callback state).mapError .rejected
  let after ← encodeUpdated next
  return (before, after)

/-- Write what was prepared. -/
def Database.commit (order : Iteration) (database : Database)
    (prepared : Except UpdateError (Rows × Rows)) : Except UpdateError Database := do
  let (before, after) ← prepared
  (database.sync order before after).mapError .sync

/-- `Update`. -/
def Database.update (order : Iteration) (callback : Callback) (database : Database) :
    Except UpdateError Database :=
  database.commit order (database.prepareUpdate callback)

/-! ## Scopes -/

/-- `MutationScope`; an event stream is a project and a resource. -/
structure MutationScope where
  environments : List Key
  sandboxes : List Key
  operations : List Key
  checkpoints : List Key
  workspaces : List Key
  connectors : List Key
  idempotency : List IdempotencyKey
  eventStreams : List Key

/-- `validateScopedResourceKey`. -/
def validateScopedResourceKey (key : Key) : Except String Unit :=
  if key.1 = "" ∨ key.2 = "" ∨ containsAny (key.1 ++ key.2) ['\x00'] then
    .error "resource key must contain one project and resource identity"
  else if !isSafeName key.1 then .error "resource key has invalid project identity"
  else if containsAny key.2 ['\r', '\n'] then .error "resource key has invalid resource identity"
  else .ok ()

/-- `validateIdempotencyIndexKey`. -/
def validateIdempotencyIndexKey (key : IdempotencyKey) : Except String Unit :=
  if key.1 = "" ∨ key.2.1 = "" ∨ key.2.2 = "" ∨
      containsAny (key.1 ++ key.2.1 ++ key.2.2) ['\x00'] then
    .error "key must contain project, operation kind, and request key"
  else if !isSafeName key.1 then .error "key has invalid project identity"
  else if containsAny (key.2.1 ++ key.2.2) ['\r', '\n'] then
    .error "key has invalid operation identity"
  else .ok ()

/-- The checks on a declared event stream. -/
def validateEventStream (stream : Key) : Except String Unit :=
  if !isSafeName stream.1 then .error "invalid event stream project identity"
  else if stream.2 = "" ∨ containsAny stream.2 ['\x00', '\r', '\n'] then
    .error "invalid event stream resource identity"
  else .ok ()

/-- The checks on the declared keys of one kind. -/
def validateScopedResources (kind : String) (keys : List Key) : Except String Unit :=
  keys.forM fun key => (validateScopedResourceKey key).mapError fun detail =>
    "invalid " ++ kind ++ " mutation scope: " ++ detail

/-- `prepareMutationScope`. -/
def prepareMutationScope (scope : MutationScope) : Except String Unit := do
  validateScopedResources "environment" scope.environments
  validateScopedResources "sandbox" scope.sandboxes
  validateScopedResources "operation" scope.operations
  validateScopedResources "checkpoint" scope.checkpoints
  validateScopedResources "workspace" scope.workspaces
  validateScopedResources "connector" scope.connectors
  scope.idempotency.forM fun key => (validateIdempotencyIndexKey key).mapError fun detail =>
    "invalid idempotency mutation scope: " ++ detail
  scope.eventStreams.forM validateEventStream

/-- The operations that the declared claims are for. -/
def claimedOperations (scope : MutationScope) (rows : Rows) : List Key :=
  scope.idempotency.filterMap fun key =>
    (rows.idempotency.lookup key).map fun row => (key.1, row.operationID)

/-- The resources of those operations. -/
def claimedResources (scope : MutationScope) (rows : Rows) : List Key :=
  (claimedOperations scope rows).filterMap fun key =>
    (rows.operations.lookup key).map fun operation => (key.1, operation.resourceID)

/-- The event is the last one of a declared stream. -/
def isTail (scope : MutationScope) (rows : Rows) (key : EventKey) : Bool :=
  (key.1, key.2.1) ∈ scope.eventStreams && rows.events.keys.all fun other =>
    other.1 ≠ key.1 || other.2.1 ≠ key.2.1 || other.2.2 ≤ key.2.2

/-- The rows that `loadMutationStateTx` loads. -/
def Rows.restrict (scope : MutationScope) (rows : Rows) : Rows :=
  let load {Row : Type} (declared : List Key) (table : AList fun _ : Key => Row) :
      AList fun _ : Key => Row :=
    Table.filter (fun key _ => key ∈ declared || key ∈ claimedResources scope rows) table
  { environments := load scope.environments rows.environments
    sandboxes := load scope.sandboxes rows.sandboxes
    operations := Table.filter (fun key _ =>
      key ∈ scope.operations || key ∈ claimedOperations scope rows) rows.operations
    checkpoints := load scope.checkpoints rows.checkpoints
    workspaces := load scope.workspaces rows.workspaces
    connectors := load scope.connectors rows.connectors
    events := Table.filter (fun key _ => isTail scope rows key) rows.events
    idempotency := Table.filter (fun key _ => key ∈ scope.idempotency) rows.idempotency }

/-- The loaded rows that are not declared. -/
def Rows.readOnly (scope : MutationScope) (loaded : Rows) : Rows :=
  let undeclared {Row : Type} (declared : List Key) (table : AList fun _ : Key => Row) :
      AList fun _ : Key => Row := Table.filter (fun key _ => key ∉ declared) table
  { environments := undeclared scope.environments loaded.environments
    sandboxes := undeclared scope.sandboxes loaded.sandboxes
    operations := undeclared scope.operations loaded.operations
    checkpoints := undeclared scope.checkpoints loaded.checkpoints
    workspaces := undeclared scope.workspaces loaded.workspaces
    connectors := undeclared scope.connectors loaded.connectors
    events := ∅
    idempotency := ∅ }

/-- `loadMutationStateTx`. -/
def loadMutationState (scope : MutationScope) (rows : Rows) : Except UpdateError (State × Rows) :=
  let state := (rows.restrict scope).decode
  if state.valid then
    (checked (encodeState state)).map fun loaded => (state, loaded.readOnly scope)
  else .error (.invalid "validate scoped state")

/-! ## Staying in scope -/

/-- Only declared rows differ. -/
def changesDeclared {Row : Type} [DecidableEq Row] (declared : List Key)
    (before after : AList fun _ : Key => Row) : Bool :=
  (changes before after).all fun change => change.key ∈ declared

/-- Every row of the first table is the same in the second. -/
def unchangedIn {RowKey Row : Type} [DecidableEq RowKey] [DecidableEq Row]
    (rows after : AList fun _ : RowKey => Row) : Bool :=
  rows.entries.all fun entry => after.lookup entry.1 = some entry.2

/-- The number of the last event of a stream. -/
def lastSequence (before : Rows) (stream : Key) : Nat :=
  ((before.events.keys.find? fun key => (key.1, key.2.1) = stream).map (·.2.2)).getD 0

/-- The numbers of the events added to a stream, in order. -/
def addedSequences (before after : Rows) (stream : Key) : List Nat :=
  ((after.events.keys.filter fun key => (before.events.lookup key).isNone &&
    (key.1, key.2.1) = stream).map (·.2.2)).mergeSort

/-- `validateScopedChanges`. -/
def validateScopedChanges (scope : MutationScope) (readOnly before after : Rows) :
    Except String Unit :=
  if !(changesDeclared scope.environments before.environments after.environments &&
      changesDeclared scope.sandboxes before.sandboxes after.sandboxes &&
      changesDeclared scope.operations before.operations after.operations &&
      changesDeclared scope.checkpoints before.checkpoints after.checkpoints &&
      changesDeclared scope.workspaces before.workspaces after.workspaces &&
      changesDeclared scope.connectors before.connectors after.connectors) then
    .error "row-scoped mutation changed an undeclared resource"
  else if before.operations.entries.any fun entry =>
      (after.operations.lookup entry.1).isNone then
    .error "row-scoped mutation cannot delete an existing operation"
  else if before.operations.entries.any fun entry =>
      !(after.operations.lookup entry.1).all (sameIdentity entry.2) then
    .error "row-scoped mutation changed immutable operation identity"
  else if !(unchangedIn readOnly.environments after.environments &&
      unchangedIn readOnly.sandboxes after.sandboxes &&
      unchangedIn readOnly.operations after.operations &&
      unchangedIn readOnly.checkpoints after.checkpoints &&
      unchangedIn readOnly.workspaces after.workspaces &&
      unchangedIn readOnly.connectors after.connectors) then
    .error "row-scoped mutation changed an idempotency replay dependency"
  else if !unchangedIn before.idempotency after.idempotency then
    .error "row-scoped mutation changed an immutable idempotency claim"
  else if !(after.idempotency.entries.all fun entry =>
      before.idempotency.lookup entry.1 = some entry.2 || entry.1 ∈ scope.idempotency) then
    .error "row-scoped mutation changed undeclared idempotency state"
  else if !unchangedIn before.events after.events then
    .error "row-scoped mutation changed existing event history"
  else if !(after.events.keys.all fun key =>
      (before.events.lookup key).isSome || (key.1, key.2.1) ∈ scope.eventStreams) then
    .error "row-scoped mutation appended to an undeclared event stream"
  else if !(scope.eventStreams.all fun stream =>
      addedSequences before after stream =
        List.range' (lastSequence before stream + 1)
          (addedSequences before after stream).length) then
    .error "row-scoped mutation produced a non-contiguous event sequence"
  else .ok ()

/-- The part of `UpdateRows` before it writes: the encoded scope before and after the callback. -/
def Database.prepareRows (scope : MutationScope) (callback : Callback) (database : Database) :
    Except UpdateError (Rows × Rows) := do
  checked (prepareMutationScope scope)
  let (state, readOnly) ← loadMutationState scope database.rows
  let before ← checked (encodeState state)
  let next ← (callback state).mapError .rejected
  let after ← encodeUpdated next
  checked (validateScopedChanges scope readOnly before after)
  return (before, after)

/-- `UpdateRows`. -/
def Database.updateRows (order : Iteration) (scope : MutationScope) (callback : Callback)
    (database : Database) : Except UpdateError Database :=
  database.commit order (database.prepareRows scope callback)

/-! ## Single rows -/

/-- `RecordSandboxActivity`. -/
def Database.recordSandboxActivity (key : Key) (at_ : Time) (database : Database) :
    Except UpdateError Database :=
  match database.rows.sandboxes.lookup key with
  | none => .error .notFound
  | some current =>
    let next := advanceSandboxActivity current at_
    if next.revision = current.revision then .ok database
    else .ok { database with rows := { database.rows with
      sandboxes := database.rows.sandboxes.insert key next } }

/-- The last sequence number of a stream in the database. -/
def maxSequence (rows : Rows) (projectID resourceID : String) : Nat :=
  ((rows.events.keys.filter fun key => key.1 = projectID && key.2.1 = resourceID).map
    (·.2.2)).foldl max 0

/-- `AppendSandboxEvent`. -/
def Database.appendSandboxEvent (event : Event) (database : Database) :
    Except UpdateError Database :=
  match database.rows.sandboxes.lookup (event.projectID, event.resourceID) with
  | none => .error .notFound
  | some sandbox =>
    let stamped := { event with
      state := sandbox.state
      sequence := maxSequence database.rows event.projectID event.resourceID + 1 }
    match validateSandboxEvent stamped with
    | .error detail => .error (.invalid detail)
    | .ok () => .ok { database with rows := { database.rows with
        events := database.rows.events.insert (eventKey stamped) stamped } }

/-! ## Opening -/

/-- Opening an existing database: counters and mounts are rebuilt, and the ledger is validated. -/
def Database.reopen (database : Database) : Except UpdateError Database := do
  let indexes ← (rebuildSandboxAdmissionIndexes database).mapError .sync
  let _ ← loadState database.rows
  return { database with indexes := indexes }

/-- The indexes of a database without rows. -/
def Indexes.empty : Indexes := ⟨∅, ∅, ∅, ∅, ∅⟩

/-- Create a database from an initial state. -/
def Database.create (order : Iteration) (initial : State) : Except UpdateError Database := do
  let rows ← encodeUpdated initial
  let filled ← ((⟨Rows.empty, Indexes.empty⟩ : Database).sync order Rows.empty rows).mapError .sync
  let indexes ← (rebuildSandboxAdmissionIndexes filled).mapError .sync
  let _ ← loadState filled.rows
  return { filled with
    indexes := { indexes with
      lifecycleOperationHeads := rebuildLifecycleOperationHeads filled.rows } }

/-! ## What a mutation prepares -/

/-- A sequence succeeds if both parts do. -/
theorem bind_ok {Error First Second : Type} {first : Except Error First}
    {rest : First → Except Error Second} {result : Second} :
    (first >>= rest) = .ok result ↔ ∃ value, first = .ok value ∧ rest value = .ok result := by
  cases first <;> simp [bind, Except.bind]

theorem map_ok {Error First Second : Type} {first : Except Error First} {rename : First → Second}
    {result : Second} : first.map rename = .ok result ↔ ∃ value, first = .ok value ∧
      rename value = result := by
  cases first <;> simp [Except.map]

theorem mapError_ok {Error Other Result : Type} {rename : Error → Other}
    {outcome : Except Error Result} {result : Result} :
    outcome.mapError rename = .ok result ↔ outcome = .ok result := by
  cases outcome <;> simp [Except.mapError]

theorem encodeUpdated_ok {next : State} {after : Rows} :
    encodeUpdated next = .ok after ↔ next.valid = true ∧ encodeState next = .ok after := by
  unfold encodeUpdated
  split
  · next isValid => rw [checked, mapError_ok, and_iff_right isValid]
  · next invalid =>
    constructor
    · rintro ⟨⟩
    · rintro ⟨isValid, _⟩
      exact absurd isValid invalid

theorem loadState_ok {rows : Rows} {state : State} :
    loadState rows = .ok state ↔ rows.decode.valid = true ∧ rows.decode = state := by
  unfold loadState
  split
  · next isValid =>
    constructor
    · rintro ⟨⟩
      exact ⟨isValid, rfl⟩
    · rintro ⟨_, rfl⟩
      rfl
  · next invalid =>
    constructor
    · rintro ⟨⟩
    · rintro ⟨isValid, _⟩
      exact absurd isValid invalid

/-- What `Update` has prepared. -/
structure PreparedUpdate (callback : Callback) (rows before after : Rows) : Prop where
  stored : rows.decode.valid = true
  isBefore : encodeState rows.decode = .ok before
  called : ∃ next, callback rows.decode = .ok next ∧ next.valid = true ∧
    encodeState next = .ok after

theorem prepareUpdate_ok {database : Database} {callback : Callback} {before after : Rows} :
    database.prepareUpdate callback = .ok (before, after) ↔
      PreparedUpdate callback database.rows before after := by
  simp only [Database.prepareUpdate, bind_ok, loadState_ok, checked, mapError_ok, encodeUpdated_ok]
  constructor
  · rintro ⟨state, ⟨stored, rfl⟩, _, isBefore, next, called, _, ⟨isValid, isAfter⟩, ⟨⟩⟩
    exact ⟨stored, isBefore, next, called, isValid, isAfter⟩
  · rintro ⟨stored, isBefore, next, called, isValid, isAfter⟩
    exact ⟨_, ⟨stored, rfl⟩, _, isBefore, next, called, _, ⟨isValid, isAfter⟩, rfl⟩

/-- What `UpdateRows` has prepared. -/
structure PreparedRows (scope : MutationScope) (callback : Callback) (rows before after : Rows) :
    Prop where
  prepared : prepareMutationScope scope = .ok ()
  stored : (rows.restrict scope).decode.valid = true
  isBefore : encodeState (rows.restrict scope).decode = .ok before
  called : ∃ next, callback (rows.restrict scope).decode = .ok next ∧ next.valid = true ∧
    encodeState next = .ok after
  inScope : validateScopedChanges scope (before.readOnly scope) before after = .ok ()

theorem loadMutationState_ok {scope : MutationScope} {rows readOnly : Rows} {state : State} :
    loadMutationState scope rows = .ok (state, readOnly) ↔
      (rows.restrict scope).decode.valid = true ∧ (rows.restrict scope).decode = state ∧
        ∃ loaded, encodeState state = .ok loaded ∧ loaded.readOnly scope = readOnly := by
  simp only [loadMutationState]
  split
  · next isValid =>
    cases encoded : encodeState (rows.restrict scope).decode with
    | error detail =>
      constructor
      · rintro ⟨⟩
      · rintro ⟨_, rfl, loaded, isLoaded, _⟩
        rw [encoded] at isLoaded
        cases isLoaded
    | ok loaded =>
      constructor
      · rintro ⟨⟩
        exact ⟨isValid, rfl, loaded, encoded, rfl⟩
      · rintro ⟨_, rfl, loaded', isLoaded, rfl⟩
        rw [encoded] at isLoaded
        cases isLoaded
        rfl
  · next invalid =>
    constructor
    · rintro ⟨⟩
    · rintro ⟨isValid, _⟩
      exact absurd isValid invalid

theorem prepareRows_ok {database : Database} {scope : MutationScope} {callback : Callback}
    {before after : Rows} :
    database.prepareRows scope callback = .ok (before, after) ↔
      PreparedRows scope callback database.rows before after := by
  simp only [Database.prepareRows, bind_ok, checked, mapError_ok, encodeUpdated_ok, Prod.exists,
    loadMutationState_ok]
  constructor
  · rintro ⟨_, prepared, state, readOnly, ⟨stored, rfl, loaded, isLoaded, rfl⟩, before', isBefore,
      next, called, after', ⟨isValid, isAfter⟩, _, inScope, ⟨⟩⟩
    rw [isLoaded] at isBefore
    cases isBefore
    exact ⟨prepared, stored, isLoaded, ⟨next, called, isValid, isAfter⟩, inScope⟩
  · rintro ⟨prepared, stored, isBefore, ⟨next, called, isValid, isAfter⟩, inScope⟩
    exact ⟨_, prepared, _, _, ⟨stored, rfl, before, isBefore, rfl⟩, before, isBefore, next, called,
      after, ⟨isValid, isAfter⟩, _, inScope, rfl⟩

/-- A mutation that stayed in its scope.  The checks of the read-only rows add nothing: they are
not declared. -/
structure InScope (scope : MutationScope) (before after : Rows) : Prop where
  environments : ∀ {key}, before.environments.lookup key ≠ after.environments.lookup key →
    key ∈ scope.environments
  sandboxes : ∀ {key}, before.sandboxes.lookup key ≠ after.sandboxes.lookup key →
    key ∈ scope.sandboxes
  operations : ∀ {key}, before.operations.lookup key ≠ after.operations.lookup key →
    key ∈ scope.operations
  checkpoints : ∀ {key}, before.checkpoints.lookup key ≠ after.checkpoints.lookup key →
    key ∈ scope.checkpoints
  workspaces : ∀ {key}, before.workspaces.lookup key ≠ after.workspaces.lookup key →
    key ∈ scope.workspaces
  connectors : ∀ {key}, before.connectors.lookup key ≠ after.connectors.lookup key →
    key ∈ scope.connectors
  operationsKept : ∀ {key current}, before.operations.lookup key = some current →
    ∃ next, after.operations.lookup key = some next ∧ sameIdentity current next = true
  claimsKept : ∀ {key row}, before.idempotency.lookup key = some row →
    after.idempotency.lookup key = some row
  claimsDeclared : ∀ {key row}, after.idempotency.lookup key = some row →
    before.idempotency.lookup key = some row ∨ key ∈ scope.idempotency
  eventsKept : ∀ {key event}, before.events.lookup key = some event →
    after.events.lookup key = some event
  eventsDeclared : ∀ {key event}, after.events.lookup key = some event →
    (before.events.lookup key).isSome = true ∨ (key.1, key.2.1) ∈ scope.eventStreams
  contiguous : ∀ stream ∈ scope.eventStreams, addedSequences before after stream =
    List.range' (lastSequence before stream + 1) (addedSequences before after stream).length

theorem changesDeclared_iff {Row : Type} [DecidableEq Row] {declared : List Key}
    {before after : AList fun _ : Key => Row} :
    changesDeclared declared before after = true ↔
      ∀ {key}, before.lookup key ≠ after.lookup key → key ∈ declared := by
  simp only [changesDeclared, List.all_eq_true, decide_eq_true_eq]
  constructor
  · intro all key different
    exact all ⟨key, before.lookup key, after.lookup key⟩
      (((exact_changes before after).mem_iff _).mpr ⟨rfl, rfl, different⟩)
  · intro all change member
    obtain ⟨isOld, isNew, different⟩ := ((exact_changes before after).mem_iff change).mp member
    refine all ?_
    rw [isOld, isNew]
    exact different

theorem unchangedIn_iff {RowKey Row : Type} [DecidableEq RowKey] [DecidableEq Row]
    {rows after : AList fun _ : RowKey => Row} :
    unchangedIn rows after = true ↔
      ∀ {key row}, rows.lookup key = some row → after.lookup key = some row := by
  simp only [unchangedIn, List.all_eq_true, decide_eq_true_eq]
  constructor
  · intro all key row present
    exact all ⟨key, row⟩ (mem_entries_iff.mpr present)
  · rintro all ⟨key, row⟩ member
    exact all (mem_entries_iff.mp member)

/-- **What the scope check ensures.** -/
theorem inScope_of_validate {scope : MutationScope} {readOnly before after : Rows} :
    validateScopedChanges scope readOnly before after = .ok () →
    InScope scope before after := by
  fun_cases validateScopedChanges scope readOnly before after with
  | case10 declared kept identities _ claimsKept claimsDeclared eventsKept eventsDeclared
    contiguous =>
    intro _
    simp only [Bool.not_eq_true', Bool.not_eq_false, Bool.and_eq_true, changesDeclared_iff]
      at declared
    obtain ⟨⟨⟨⟨⟨environments, sandboxes⟩, operations⟩, checkpoints⟩, workspaces⟩, connectors⟩ :=
      declared
    refine ⟨environments, sandboxes, operations, checkpoints, workspaces, connectors,
      ?_, ?_, ?_, ?_,
      ?_, ?_⟩
    · intro key current present
      have member := mem_entries_iff.mpr present
      simp only [List.any_eq_true, not_exists, not_and] at kept identities
      have isKept := kept ⟨key, current⟩ member
      have isSame := identities ⟨key, current⟩ member
      cases isNext : after.operations.lookup key with
      | none => simp [isNext] at isKept
      | some next => exact ⟨next, rfl, by simpa [isNext] using isSame⟩
    · simpa only [Bool.not_eq_true', Bool.not_eq_false, unchangedIn_iff] using claimsKept
    · intro key row present
      simp only [Bool.not_eq_true', Bool.not_eq_false, List.all_eq_true, Bool.or_eq_true,
        decide_eq_true_eq] at claimsDeclared
      exact claimsDeclared ⟨key, row⟩ (mem_entries_iff.mpr present)
    · simpa only [Bool.not_eq_true', Bool.not_eq_false, unchangedIn_iff] using eventsKept
    · intro key event present
      simp only [Bool.not_eq_true', Bool.not_eq_false, List.all_eq_true, Bool.or_eq_true,
        decide_eq_true_eq] at eventsDeclared
      exact eventsDeclared key (List.mem_keys_of_mem (mem_entries_iff.mpr present))
    · simpa only [Bool.not_eq_true', Bool.not_eq_false, List.all_eq_true, decide_eq_true_eq] using
        contiguous
  | _ => rintro ⟨⟩

/-! ## Calls -/

/-- The calls that write the database. -/
inductive StoreCall
  | update (order : Iteration) (callback : Callback)
  | updateRows (order : Iteration) (scope : MutationScope) (callback : Callback)
  | recordSandboxActivity (key : Key) (at_ : Time)
  | appendSandboxEvent (event : Event)
  | reopen

/-- Carry out a call. -/
def Database.perform (database : Database) : StoreCall → Except UpdateError Database
  | .update order callback => database.update order callback
  | .updateRows order scope callback => database.updateRows order scope callback
  | .recordSandboxActivity key at_ => database.recordSandboxActivity key at_
  | .appendSandboxEvent event => database.appendSandboxEvent event
  | .reopen => database.reopen

/-- The database after a call that may fail. -/
def Database.step (database : Database) (call : StoreCall) : Database :=
  (database.perform call).toOption.getD database

/-- The database after the calls. -/
def Database.run (database : Database) (calls : List StoreCall) : Database :=
  calls.foldl Database.step database

end Brezel.Store
