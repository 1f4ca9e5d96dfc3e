import Brezel.Service.Records.Contract

/-!
# What the writes do to the records

The lemmas by which a transaction is shown to have only the effect that the contract allows.  A
transaction that is installed (`Installing`) found the records as the mutex guards them, and what
the fences exclude enters as `FenceKept`: while a thread has a sandbox fenced the others leave its
row alone, and a row changes only as rows may.

`Holding` and `Underway` are what a thread knows of a sandbox that it has fenced; the other threads
keep it.
-/

namespace Brezel.Service

open Domain Store

/-- What the fences tell of an access. -/
structure FenceKept (thread : Nat) (before after : Memory) : Prop where
  sound : ∀ key, FenceSound (before.inner key)
  absent : ∀ key, before.state.row key = none → before.inFlight key = []
  rows : ∀ key, after.state.row key = before.state.row key ∨
    RowChange (before.state.row key) (after.state.row key)
  foreign : ∀ key other, other ≠ thread → before.inFlight key = [other] →
    after.inFlight key = [other] ∧ after.state.row key = before.state.row key

/-! ## No change -/

section Refl

variable {limits : Limits} {inFlight : Key → List Nat} {before after : State}

theorem RowKept.refl (row : Sandbox) : RowKept row row := ⟨rfl, .inl rfl, fun _ => rfl⟩

theorem OperationKept.refl (operation : Operation) : OperationKept inFlight operation operation :=
  ⟨rfl, fun _ => rfl, id, .inl rfl⟩

theorem RowsKept.of_eq (same : after.sandboxes = before.sandboxes) :
    RowsKept limits before after where
  kept key row present := ⟨row, by rwa [State.row, same], .refl row⟩
  admitted key row absent present := by
    rw [State.row, same] at present
    cases absent.symm.trans present

theorem OperationsKept.of_eq (same : after.operations = before.operations) :
    OperationsKept inFlight before after :=
  fun _ operation stored => ⟨operation, by rwa [same], .refl operation⟩

theorem ClaimsKept.of_eq (claims : after.idempotency = before.idempotency)
    (digests : after.idempotencyDigests = before.idempotencyDigests) :
    ClaimsKept before after where
  bound index id isBound := ⟨by rwa [claims], by rw [digests]⟩
  automatic _ _ _ _ _ isBound := .inl (by rwa [claims] at isBound)

theorem WorkspacesKept.of_eq (same : after.workspaces = before.workspaces) :
    WorkspacesKept before after where
  kept key workspace present := ⟨workspace, by rwa [same], .refl workspace⟩
  new key next absent present := by
    rw [same] at present
    cases absent.symm.trans present
  sound key next present := .inl (by rwa [same] at present)

theorem Written.refl (state : State) : Written limits inFlight state state :=
  ⟨.of_eq rfl, .of_eq rfl, .of_eq rfl rfl, .of_eq rfl⟩

/-- The event log does not matter. -/
theorem Written.erase (written : Written limits inFlight before after) :
    Written limits inFlight { before with events := [] } { after with events := [] } where
  rows := ⟨written.rows.kept, fun key row absent present =>
    let admitted := written.rows.admitted key row absent present
    ⟨admitted.perProject, admitted.total, admitted.mounts, admitted.alone, admitted.workspaces⟩⟩
  operations := written.operations
  claims := ⟨written.claims.bound, written.claims.automatic⟩
  workspaces := ⟨fun key workspace present =>
    let ⟨next, isNext, kept⟩ := written.workspaces.kept key workspace present
    ⟨next, isNext, kept.intended, kept.free, kept.name, kept.identified⟩,
    written.workspaces.new, written.workspaces.sound⟩

end Refl

variable {deployment : Deployment} {thread : Nat} {records : Records} {key : Key}

theorem Effect.refl (records : Records) : Effect deployment.limits thread records records :=
  { Written.refl records.tables with
    foreign := fun _ _ _ isOther => ⟨isOther, rfl⟩
    valid := id }

theorem Written.effect {memory : Memory} {next : State}
    (written : Written deployment.limits memory.inFlight memory.state next)
    (fences : FenceKept thread memory { memory with state := next })
    (isValid : memory.state.valid = true → next.valid = true) :
    Effect deployment.limits thread memory.records
      (Memory.records { memory with state := next }) :=
  { written.erase with
    foreign := fences.foreign
    valid := isValid }

/-! ## Writes -/

section Puts

variable {limits : Limits} {inFlight : Key → List Nat} {before after : State}

theorem RowsKept.put {row next : Sandbox}
    (written : after.sandboxes = before.sandboxes.insert (sandboxKey next) next)
    (present : before.row (sandboxKey next) = some row) (kept : RowKept row next) :
    RowsKept limits before after where
  kept key old isOld := by
    by_cases isKey : key = sandboxKey next
    · subst isKey
      cases isOld.symm.trans present
      exact ⟨next, by rw [State.row, written, AList.lookup_insert], kept⟩
    · exact ⟨old, by rwa [State.row, written, AList.lookup_insert_ne isKey], .refl old⟩
  admitted key new absent isNew := by
    by_cases isKey : key = sandboxKey next
    · subst isKey
      cases absent.symm.trans present
    · rw [State.row, written, AList.lookup_insert_ne isKey] at isNew
      cases absent.symm.trans isNew

theorem RowsKept.admitNew {row : Sandbox}
    (written : after.sandboxes = before.sandboxes.insert (sandboxKey row) row)
    (absent : before.row (sandboxKey row) = none)
    (admitted : Admitted limits before after (sandboxKey row) row) :
    RowsKept limits before after where
  kept key old isOld := by
    have different : key ≠ sandboxKey row := by
      rintro rfl
      cases absent.symm.trans isOld
    exact ⟨old, by rwa [State.row, written, AList.lookup_insert_ne different], .refl old⟩
  admitted key new isAbsent isNew := by
    by_cases isKey : key = sandboxKey row
    · subst isKey
      rw [State.row, written, AList.lookup_insert] at isNew
      cases isNew
      exact admitted
    · rw [State.row, written, AList.lookup_insert_ne isKey] at isNew
      cases isAbsent.symm.trans isNew

theorem OperationsKept.put {next : Operation}
    (written : after.operations = before.operations.insert (operationKey next) next)
    (keeps : ∀ operation, before.operations.lookup (operationKey next) = some operation →
      OperationKept inFlight operation next) : OperationsKept inFlight before after := by
  intro key operation stored
  by_cases isKey : key = operationKey next
  · subst isKey
    exact ⟨next, by rw [written, AList.lookup_insert], keeps operation stored⟩
  · exact ⟨operation, by rwa [written, AList.lookup_insert_ne isKey], .refl operation⟩

/-- A new operation overwrites none. -/
theorem OperationsKept.open {next : Operation}
    (written : after.operations = before.operations.insert (operationKey next) next)
    (absent : before.operations.lookup (operationKey next) = none) :
    OperationsKept inFlight before after := by
  refine .put written fun operation stored => ?_
  cases absent.symm.trans stored

theorem ClaimsKept.claim {index : IdempotencyKey} {id : String}
    (claims : after.idempotency = before.idempotency.insert index id)
    (digests : after.idempotencyDigests = before.idempotencyDigests ∨
      ∃ digest, after.idempotencyDigests = before.idempotencyDigests.insert index digest)
    (free : before.idempotency.lookup index = none)
    (automatic : ∀ projectID name lastActive revision,
      index = (projectID, "auto_pause_sandbox:" ++ name, automaticKey lastActive revision) →
      ∃ row, after.row (projectID, name) = some row ∧ revision < row.revision) :
    ClaimsKept before after where
  bound other bound isBound := by
    have different : other ≠ index := by
      rintro rfl
      cases free.symm.trans isBound
    refine ⟨by rwa [claims, AList.lookup_insert_ne different], ?_⟩
    rcases digests with same | ⟨digest, inserted⟩
    · rw [same]
    · rw [inserted, AList.lookup_insert_ne different]
  automatic projectID name lastActive revision operationID isBound := by
    by_cases isIndex :
        (projectID, "auto_pause_sandbox:" ++ name, automaticKey lastActive revision) = index
    · exact .inr (automatic projectID name lastActive revision isIndex.symm)
    · exact .inl (by rwa [claims, AList.lookup_insert_ne isIndex] at isBound)

theorem WorkspacesKept.put {key : Key} {next : Workspace}
    (written : after.workspaces = before.workspaces.insert key next)
    (keeps : ∀ workspace, before.workspaces.lookup key = some workspace →
      WorkspaceKept before key workspace next)
    (new : before.workspaces.lookup key = none → next.cleanupTarget ≠ .deleted)
    (sound : WorkspaceSound next) : WorkspacesKept before after where
  kept other workspace present := by
    by_cases isKey : other = key
    · subst isKey
      exact ⟨next, by rw [written, AList.lookup_insert], keeps workspace present⟩
    · exact ⟨workspace, by rwa [written, AList.lookup_insert_ne isKey], .refl workspace⟩
  new other added absent present := by
    by_cases isKey : other = key
    · subst isKey
      rw [written, AList.lookup_insert] at present
      cases present
      exact new absent
    · rw [written, AList.lookup_insert_ne isKey] at present
      cases absent.symm.trans present
  sound other found present := by
    by_cases isKey : other = key
    · subst isKey
      rw [written, AList.lookup_insert] at present
      cases present
      exact .inr sound
    · exact .inl (by rwa [written, AList.lookup_insert_ne isKey] at present)

end Puts

/-! ## Transactions -/

theorem Fresh.operation {identifier : String} {state : State} (fresh : Fresh identifier state)
    (projectID : String) : state.operations.lookup (projectID, "op_" ++ identifier) = none := by
  cases stored : state.operations.lookup (projectID, "op_" ++ identifier) with
  | none => rfl
  | some operation =>
    exact ((fresh.operations _ (Table.mem_entries_iff.mpr stored)).1 rfl).elim

/-- What a transaction that is installed may rely on. -/
structure Installing (deployment : Deployment) (thread : Nat) (choice : Choice) (memory : Memory)
    (records : Records) (next : State) : Prop where
  view : memory.records = records
  sound : Sound deployment.limits records
  admissible : Admissible deployment thread choice memory
  fences : FenceKept thread memory { memory with state := next }
  valid : next.valid = true

/-- The records after a state was written. -/
def Records.install (records : Records) (next : State) : Records :=
  ⟨{ next with events := [] }, records.inFlight⟩

theorem idempotentOperation_none {state : State} (isValid : state.valid = true)
    {index : IdempotencyKey}
    (isNone : (state.idempotentOperation index).filter (·.id ≠ "") = none) :
    state.idempotency.lookup index = none := by
  cases isBound : state.idempotency.lookup index with
  | none => rfl
  | some id =>
    have isEntry := ((State.valid_iff state).mp isValid).idempotency isBound
    simp only [State.validIndexEntry, Bool.and_eq_true] at isEntry
    cases isStored : state.operations.lookup (index.1, id) with
    | none => simp [isStored] at isEntry
    | some operation =>
      have isKeyed := ((State.valid_iff state).mp isValid).operations isStored
      have named : operation.id ≠ "" := (State.scopedIdentity_iff.mp isKeyed).2.1
      simp [State.idempotentOperation, isBound, isStored, named] at isNone

namespace Installing

variable {choice : Choice} {memory : Memory} {next : State}
variable (installing : Installing deployment thread choice memory records next)
include installing

theorem row :
    memory.state.row = records.tables.row := by
  rw [← installing.view]
  rfl

theorem operations :
    memory.state.operations = records.tables.operations := by
  rw [← installing.view]
  rfl

theorem workspaces :
    memory.state.workspaces = records.tables.workspaces := by
  rw [← installing.view]
  rfl

theorem idempotency :
    memory.state.idempotency = records.tables.idempotency := by
  rw [← installing.view]
  rfl

theorem flights :
    memory.inFlight = records.inFlight := by
  rw [← installing.view]
  rfl

theorem validBefore :
    memory.state.valid = true := by
  have isValid := installing.sound.valid
  rw [← installing.view] at isValid
  exact isValid

theorem rewrites {row written : Sandbox}
    (isWritten : next.sandboxes = memory.state.sandboxes.insert (sandboxKey written) written)
    (present : records.tables.row (sandboxKey written) = some row)
    (mounts : written.workspaceMounts = row.workspaceMounts)
    (revision : row.revision < written.revision) :
    RowsKept deployment.limits memory.state next := by
  rw [← installing.row] at present
  refine .put isWritten present ⟨mounts, .inr revision, fun isTerminal => ?_⟩
  have isNext : next.row (sandboxKey written) = some written := by
    rw [State.row, isWritten, AList.lookup_insert]
  rcases installing.fences.rows (sandboxKey written) with same | changed
  · exact Option.some.inj (isNext.symm.trans (same.trans present))
  · have changes : RowChange (memory.state.row (sandboxKey written))
        (next.row (sandboxKey written)) := changed
    rw [present, isNext] at changes
    exact absurd changes.alive (by simp [isTerminal])

theorem named {written : Sandbox}
    (isWritten : next.sandboxes = memory.state.sandboxes.insert (sandboxKey written) written) :
    written.projectID ≠ "" := by
  have isNext : next.row (sandboxKey written) = some written := by
    rw [State.row, isWritten, AList.lookup_insert]
  have isSound := State.valid_row installing.valid isNext
  simp only [State.validSandbox, Bool.and_eq_true, State.scopedIdentity_iff] at isSound
  exact isSafeName_ne_empty isSound.1.1.1

theorem free (accepted : deployment.store.accepts memory.state next = true) {index : IdempotencyKey}
    {id : String} (claims : next.idempotency = memory.state.idempotency.insert index id)
    (isNew : records.tables.operations.lookup (index.1, id) = none)
    (unused : deployment.store = .file → records.tables.idempotency.lookup index = none) :
    memory.state.idempotency.lookup index = none := by
  cases isStore : deployment.store with
  | file =>
    rw [installing.idempotency]
    exact unused isStore
  | sqlite =>
    cases isBound : memory.state.idempotency.lookup index with
    | none => rfl
    | some bound =>
      rw [isStore] at accepted
      simp only [StoreKind.accepts, State.keepsClaims, Bool.and_eq_true, List.all_eq_true]
        at accepted
      have kept := (accepted.1 ⟨index, bound⟩ (Table.mem_entries_iff.mpr isBound)).1
      rw [claims, AList.lookup_insert] at kept
      obtain rfl : id = bound := by simpa using kept
      have isEntry := ((State.valid_iff _).mp installing.validBefore).idempotency isBound
      rw [← installing.operations] at isNew
      simp [State.validIndexEntry, isNew] at isEntry

end Installing

/-! ## Fences -/

/-- A change of the fences alone. -/
theorem Effect.fences {memory after : Memory} (fences : FenceKept thread memory after)
    (same : after.state = memory.state) :
    Effect deployment.limits thread memory.records after.records := by
  have erased : after.records.tables = memory.records.tables := by
    simp only [Memory.records, same]
  have written : Written deployment.limits memory.records.inFlight memory.records.tables
      after.records.tables := by
    rw [erased]
    exact .refl _
  refine { written with foreign := fences.foreign, valid := fun isValid => ?_ }
  rwa [erased]

/-- The thread has the sandbox fenced, and knows its row. -/
structure Holding (thread : Nat) (key : Key) (row : Sandbox) (records : Records) : Prop where
  flight : records.inFlight key = [thread]
  row : records.tables.row key = some row

/-- The thread has the sandbox fenced for an operation of its own. -/
structure Underway (thread : Nat) (key : Key) (row : Sandbox) (operation : Operation)
    (records : Records) : Prop extends Holding thread key row records where
  stored : records.tables.operations.lookup (operationKey operation) = some operation
  about : (operation.projectID, operation.resourceID) = key
  running : operation.state = .running
  sandboxed : beyondSandboxes operation.kind = false

section Others

variable {limits : Limits} {other : Nat} {row : Sandbox} {before after : Records}

theorem Holding.kept (distinct : other ≠ thread) (effect : Effect limits other before after)
    (holding : Holding thread key row before) : Holding thread key row after :=
  have ⟨flight, sameRow⟩ := effect.foreign key thread (Ne.symm distinct) holding.flight
  ⟨flight, sameRow.trans holding.row⟩

theorem Underway.kept {operation : Operation} (distinct : other ≠ thread)
    (effect : Effect limits other before after)
    (underway : Underway thread key row operation before) :
    Underway thread key row operation after := by
  obtain ⟨next, stored, keeps⟩ := effect.operations _ operation underway.stored
  refine ⟨underway.toHolding.kept distinct effect, ?_, underway.about, underway.running,
    underway.sandboxed⟩
  rcases keeps.unfenced with rfl | unowned | beyond
  · exact stored
  · rw [underway.about, underway.flight] at unowned
    cases unowned
  · rw [underway.sandboxed] at beyond
    cases beyond

end Others

theorem Holding.cleared {row : Sandbox} (holding : Holding thread key row records) :
    Function.update records.inFlight key ((records.inFlight key).erase thread) key = [] := by
  rw [Function.update_self, holding.flight]
  simp

end Brezel.Service
