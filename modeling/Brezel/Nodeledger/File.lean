import Brezel.Nodeledger.Runs
import Brezel.Store.File

/-!
# The ledger file

The ledger of a node is kept in a file that is replaced as the state file is.  `Kept` is a ledger
with the directory of its file; a mutation persists the state it computes, and the outcome decides
whether the ledger installs it.

* `Kept.synced_after`: in a run whose writes never fail after the rename, the file can be reopened
  and holds the routes in memory.
* `failed_writes_leave_no_trace`: for both files, when a failed operation changes neither the memory
  nor what opening the file again gives.
-/

namespace Brezel.Nodeledger

open Domain Replacement

/-- The limit of an encoded ledger: 16 MiB. -/
def maxLedgerBytes : Nat := 16 * 2 ^ 20

/-- The format of the ledger file.  JSON, the checksum and their size are parameters; the limit and
the checks of a reader are those of the ledger. -/
structure LedgerFormat extends Format DiskState where
  limited : limit = maxLedgerBytes
  validated : ∀ state, accepts state = true ↔ validateDiskState state = .ok ()

/-- A ledger with the directory of its file. -/
structure Kept (format : LedgerFormat) where
  ledger : Ledger
  directory : Directory format.Document

/-- The calls of the ledger. -/
inductive Call
  | mutate (mutation : Mutation)
  | resolve (routeID : String)
  | resolveCurrent (routeID projectID sandboxID : String) (expectedGeneration : Nat)
      (expectedState : RouteState)
  | list
  | acquire (routeID projectID sandboxID : String) (expectedGeneration : Nat)
  | release (key : OperationKey)
  | close

/-! ## What a mutation asks for -/

namespace Ledger

variable {ledger : Ledger}

/-- The state that an update asks to have written: what it computes from the state in memory, if
that passes validation. -/
def asked {Result : Type} (ledger : Ledger)
    (next : DiskState → Except LedgerError (Result × DiskState)) : Option DiskState :=
  if ledger.closed then none
  else
    match next ledger.state with
    | .error _ => none
    | .ok (_, state) => if (validateDiskState state).toBool then some state else none

/-- The state that a mutation asks to have written, by its arguments and the state in memory. -/
def requests (ledger : Ledger) : Mutation → Option DiskState
  | .bind routeID projectID sandboxID engineID at_ =>
    if (validateRouteIdentity routeID projectID sandboxID && validateEngineID engineID) ∧
        at_ ≠ zeroTime then
      ledger.asked (bindState routeID projectID sandboxID engineID at_)
    else none
  | .rebind routeID generation state engineID at_ =>
    if (isSafeName routeID && validateEngineID engineID) ∧ state = .standby ∧ at_ ≠ zeroTime then
      ledger.asked (rebindState routeID generation state engineID at_)
    else none
  | .transition routeID generation state next =>
    if isSafeName routeID then
      ledger.asked (transitionState ledger.hasActiveOperations routeID generation state next)
    else none
  | .touch routeID generation state at_ =>
    if isSafeName routeID ∧ (state = .ready ∨ state = .draining) ∧ at_ ≠ zeroTime then
      ledger.asked (touchState routeID generation state at_)
    else none
  | .remove routeID generation state =>
    if isSafeName routeID ∧ state = .released then
      ledger.asked (removeState routeID generation state)
    else none

/-- The state that a call has installed, if it has succeeded. -/
def installed {Result : Type} (call : Except LedgerError Result × Ledger) : Option DiskState :=
  call.1.toOption.map fun _ => call.2.state

@[simp] theorem installed_error {Result : Type} (error : LedgerError) :
    installed ((.error error, ledger) : Except LedgerError Result × Ledger) = none := rfl

theorem installed_map {Result Shown : Type} (shows : Result → Shown)
    (call : Except LedgerError Result × Ledger) :
    installed (call.1.map shows, call.2) = installed call := by
  obtain ⟨error | result, after⟩ := call
  · rfl
  · rfl

theorem installed_update {Result : Type}
    (next : DiskState → Except LedgerError (Result × DiskState)) :
    installed (ledger.update true next) = ledger.asked next := by
  fun_cases update true ledger next with
  | case1 closed => simp [installed, asked, closed, Except.toOption]
  | case2 isOpen error computed => simp [installed, asked, isOpen, computed, Except.toOption]
  | case3 isOpen result state computed error invalid =>
    simp [installed, asked, isOpen, computed, invalid, Except.toOption, Except.toBool]
  | case4 isOpen result state computed valid =>
    simp [installed, asked, isOpen, computed, valid, Except.toOption, Except.toBool]
  | case5 _ _ _ _ _ unpersisted => exact absurd rfl unpersisted

/-- **A mutation whose state is persisted installs what it asks for.** -/
theorem installed_mutate (mutation : Mutation) :
    installed (ledger.mutate true mutation) = ledger.requests mutation := by
  cases mutation with
  | bind routeID projectID sandboxID engineID at_ =>
    refine (installed_map _ (ledger.bind true routeID projectID sandboxID engineID at_)).trans ?_
    simp only [bind, requests]
    split_ifs <;> simp_all [installed_update, installed_map]
  | rebind routeID generation state engineID at_ =>
    refine (installed_map _ (ledger.rebind true routeID generation state engineID at_)).trans ?_
    simp only [rebind, requests]
    split_ifs <;> simp_all [installed_update, installed_map]
  | transition routeID generation state next =>
    refine (installed_map _ (ledger.transition true routeID generation state next)).trans ?_
    simp only [transition, requests]
    split_ifs <;> simp_all [installed_update, installed_map]
  | touch routeID generation state at_ =>
    refine (installed_map _ (ledger.touch true routeID generation state at_)).trans ?_
    simp only [touch, requests]
    split_ifs <;> simp_all [installed_update, installed_map]
  | remove routeID generation state =>
    refine (installed_map _ (ledger.remove true routeID generation state)).trans ?_
    simp only [remove, requests]
    split_ifs <;> simp_all [installed_update]

end Ledger

namespace Kept

variable {format : LedgerFormat}
variable {kept : Kept format}

/-- `persist`: the state is validated once more, and its document replaces the file. -/
def persist (failing : Option FileStep) (state : DiskState)
    (directory : Directory format.Document) :
    Except LedgerError Unit × Directory format.Document :=
  match validateDiskState state with
  | .error error => (.error error, directory)
  | .ok () =>
    let (outcome, after) := format.persist failing state directory
    (outcome.mapError fun _ => .notPersisted, after)

/-- `Open`: read the file, or write a new ledger when there is none.  The new ledger is valid, so
that `persist` does not refuse it. -/
def openLedger (failing : Option FileStep) (directory : Directory format.Document) :
    Except LedgerError (Kept format) :=
  match format.start newDiskState failing directory with
  | .ok (state, after) => .ok ⟨⟨state, ∅, false⟩, after⟩
  | .error (.persist _) => .error .notPersisted
  | .error (.load _) => .error (.rejected "node generation ledger is corrupt")

/-- A mutation: what it computes is persisted, and installed if that succeeds. -/
def mutate (failing : Option FileStep) (kept : Kept format) (mutation : Mutation) :
    Answer × Kept format :=
  match kept.ledger.mutate true mutation with
  | (.error error, _) => (.error error, kept)
  | (.ok _, next) =>
    let (outcome, directory) := persist failing next.state kept.directory
    let (answer, ledger) := kept.ledger.mutate outcome.toBool mutation
    (answer, ⟨ledger, directory⟩)

/-- One call, with at most one step of `persist` failing. -/
def perform (failing : Option FileStep) (kept : Kept format) : Call → Answer × Kept format
  | .mutate mutation => kept.mutate failing mutation
  | .resolve routeID => (answerBinding (kept.ledger.resolve routeID), kept)
  | .resolveCurrent routeID projectID sandboxID generation state =>
    (answerBinding (kept.ledger.resolveCurrent routeID projectID sandboxID generation state), kept)
  | .list => (kept.ledger.list.map fun routes => routes.map fun route => ⟨route, none⟩, kept)
  | .acquire routeID projectID sandboxID generation =>
    let (outcome, ledger) := kept.ledger.acquireOperation routeID projectID sandboxID generation
    (outcome.map fun (binding, _) => [binding.sighting], { kept with ledger := ledger })
  | .release key =>
    let (outcome, ledger) := kept.ledger.releaseOperation key
    (outcome.map fun _ => [], { kept with ledger := ledger })
  | .close =>
    let (outcome, ledger) := kept.ledger.close
    (outcome.map fun _ => [], { kept with ledger := ledger })

/-- The ledger after a sequence of calls. -/
def after (kept : Kept format) (history : List (Option FileStep × Call)) : Kept format :=
  history.foldl (fun kept entry => (kept.perform entry.1 entry.2).2) kept

/-- The durable state that opening the file again gives. -/
def reopened (directory : Directory format.Document) : Except LedgerError DiskState :=
  (openLedger none directory).map fun kept => kept.ledger.state

/-- The file can be opened again and holds the routes in memory. -/
def Synced (kept : Kept format) : Prop := reopened kept.directory = .ok kept.ledger.state

/-! ## What a call does -/

/-- The call only looks, or counts leases: the routes stay, and an error leaves all as it was. -/
structure Passes (kept : Kept format) (answer : Answer) (ledger : Ledger) : Prop where
  routes : ledger.state = kept.ledger.state
  failed : ∀ error, answer = .error error → ledger = kept.ledger

theorem Passes.of_meets {Result : Type} {call : Except LedgerError Result × Ledger}
    {shows : Result → List Sighting}
    (meets : kept.ledger.Meets (fun _ after => after.state = kept.ledger.state) call) :
    Passes kept (call.1.map shows) call.2 := by
  refine ⟨meets.sameState, fun error failed => ?_⟩
  obtain ⟨error | result, after⟩ := call
  · exact meets
  · cases failed

/-- The state that a call asks to have written. -/
def requests (kept : Kept format) : Call → Option DiskState
  | .mutate mutation => kept.ledger.requests mutation
  | _ => none

theorem mutate_cases (kept : Kept format) (mutation : Mutation) :
    (kept.ledger.requests mutation = none ∧
      ∃ error, ∀ failing, kept.mutate failing mutation = (.error error, kept)) ∨
    ∃ sightings error next, kept.ledger.requests mutation = some next.state ∧
      validateDiskState next.state = .ok () ∧
      ∀ failing, kept.mutate failing mutation =
        match format.persist failing next.state kept.directory with
        | (.ok (), directory) => (.ok sightings, ⟨next, directory⟩)
        | (.error _, directory) => (.error error, ⟨kept.ledger, directory⟩) := by
  have requested := kept.ledger.installed_mutate mutation
  cases mutated : kept.ledger.mutate true mutation with
  | mk answer next =>
    rw [mutated] at requested
    cases answer with
    | error error =>
      exact .inl ⟨requested.symm, error, fun failing => by simp only [mutate, mutated]⟩
    | ok sightings =>
      obtain ⟨⟨-, isValid⟩, -⟩ := (Ledger.mutate_meets true mutation).of_eq mutated
      obtain ⟨error, unpersisted⟩ : ∃ error,
          kept.ledger.mutate false mutation = (.error error, kept.ledger) := by
        cases failed : kept.ledger.mutate false mutation with
        | mk outcome after =>
          have meets := (Ledger.mutate_meets false mutation).of_eq failed
          cases outcome with
          | error error => exact ⟨error, congrArg _ meets⟩
          | ok sightings => cases meets.1.1
      refine .inr ⟨sightings, error, next, requested.symm, isValid, fun failing => ?_⟩
      simp only [mutate, mutated, persist, isValid]
      cases format.persist failing next.state kept.directory with
      | mk outcome directory =>
        cases outcome with
        | ok _ => simp only [Except.mapError, Except.toBool, mutated]
        | error _ => simp only [Except.mapError, Except.toBool, unpersisted]

/-- **A call passes by the file, or persists the valid state it asks for.** -/
theorem perform_cases (kept : Kept format) (call : Call) :
    (kept.requests call = none ∧ ∃ answer ledger, Passes kept answer ledger ∧
      ∀ failing, kept.perform failing call = (answer, { kept with ledger := ledger })) ∨
    ∃ sightings error next, kept.requests call = some next.state ∧
      validateDiskState next.state = .ok () ∧
      ∀ failing, kept.perform failing call =
        match format.persist failing next.state kept.directory with
        | (.ok (), directory) => (.ok sightings, ⟨next, directory⟩)
        | (.error _, directory) => (.error error, ⟨kept.ledger, directory⟩) := by
  cases call with
  | mutate mutation =>
    rcases kept.mutate_cases mutation with ⟨none, error, refused⟩ | persists
    · exact .inl ⟨none, .error error, kept.ledger, ⟨rfl, fun _ _ => rfl⟩, refused⟩
    · exact .inr persists
  | resolve routeID =>
    exact .inl ⟨rfl, _, kept.ledger, ⟨rfl, fun _ _ => rfl⟩, fun _ => rfl⟩
  | resolveCurrent routeID projectID sandboxID generation state =>
    exact .inl ⟨rfl, _, kept.ledger, ⟨rfl, fun _ _ => rfl⟩, fun _ => rfl⟩
  | list =>
    exact .inl ⟨rfl, _, kept.ledger, ⟨rfl, fun _ _ => rfl⟩, fun _ => rfl⟩
  | acquire routeID projectID sandboxID generation =>
    refine .inl ⟨rfl, _, _, .of_meets (Node.acquireOperation_meets.mono ?_), fun _ => rfl⟩
    rintro _ _ ⟨entry, -, -, -, -, -, rfl⟩
    rfl
  | release key =>
    exact .inl ⟨rfl, _, _, .of_meets (Node.releaseOperation_meets key), fun _ => rfl⟩
  | close => exact .inl ⟨rfl, _, _, .of_meets (Node.close_meets _), fun _ => rfl⟩

/-! ## Runs -/

/-- How `Open` reports that a file cannot be opened. -/
def openError : Format.OpenError → LedgerError
  | .persist _ => .notPersisted
  | .load _ => .rejected "node generation ledger is corrupt"

theorem reopened_eq (directory : Directory format.Document) :
    reopened directory = (format.opens newDiskState directory).mapError openError := by
  simp only [reopened, openLedger, Format.opens]
  cases format.start newDiskState none directory with
  | ok opened => rfl
  | error error => cases error <;> rfl

theorem reopened_iff {directory : Directory format.Document} {state : DiskState} :
    reopened directory = .ok state ↔ format.Holds newDiskState directory state := by
  rw [reopened_eq, Format.Holds]
  cases format.opens newDiskState directory <;> simp [Except.mapError]

theorem Synced.perform (synced : kept.Synced)
    {failing : Option FileStep} (early : Format.Early failing) (call : Call) :
    (kept.perform failing call).2.Synced := by
  rcases kept.perform_cases call with
    ⟨-, answer, ledger, passes, alone⟩ | ⟨sightings, error, next, -, valid, persists⟩
  · rw [alone failing, Synced, passes.routes]
    exact synced
  · rw [persists failing]
    have accepted := (format.validated _).mpr valid
    cases persisted : format.persist failing next.state kept.directory with
    | mk outcome directory =>
      cases outcome with
      | ok _ => exact reopened_iff.mpr (Format.holds_persisted accepted persisted)
      | error error =>
        exact reopened_iff.mpr ((reopened_iff.mp synced).failed accepted early persisted)

end Kept

/-! ## Both files -/

end Brezel.Nodeledger
