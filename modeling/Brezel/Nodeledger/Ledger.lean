import Brezel.Domain.Text

/-!
# The node generation ledger

The ledger of a node maps opaque route identifiers to engine assignments.  Every assignment carries
a generation from one counter that only grows, and a lifecycle state.  Data-path operations take a
lease on the assignment that admitted them (`acquireOperation`, `releaseOperation`), and an
assignment with leases cannot leave `draining` for `standby` or `released`.

Every mutation goes through `update`: it computes a next state from the current one, validates it,
persists it, and installs it.  The argument `persists` says whether writing the file succeeds.
A rejected or failed mutation leaves the ledger as it was (`update_meets`).
-/

namespace Brezel.Nodeledger

open Domain

variable {persists : Bool} {routeID : String} {expectedGeneration : Nat} {at_ : Time}

/-- The largest value of an unsigned 64-bit counter. -/
def maxUint64 : Nat := 2 ^ 64 - 1

/-- `maxRoutes`. -/
def maxRoutes : Nat := 65536

/-- `maxEngineIDBytes`. -/
def maxEngineIDBytes : Nat := 1024

/-- The relay-facing lifecycle of one route. -/
inductive RouteState
  | attaching
  | ready
  | draining
  | standby
  | released
  deriving DecidableEq, Repr

variable {expectedState : RouteState}

/-- The errors of the ledger. -/
inductive LedgerError
  | notFound
  | conflict
  | staleGeneration
  | stateConflict
  | illegalTransition
  | activeOperations
  | closed
  | invalid (detail : String)
  | generationsExhausted
  | rejected (reason : String)
  | notPersisted
  deriving DecidableEq, Repr

/-- What callers see of a route. -/
structure Route where
  routeID : String
  projectID : String
  sandboxID : String
  generation : Nat
  state : RouteState
  lastActivity : Time
  deriving DecidableEq, Repr

/-- A route together with its private engine identifier. -/
structure Binding where
  route : Route
  engineID : String
  deriving DecidableEq, Repr

/-- A stored assignment.  A released one has no engine identifier. -/
structure DiskEntry where
  routeID : String
  projectID : String
  sandboxID : String
  engineID : String
  generation : Nat
  state : RouteState
  lastActivity : Time
  deriving DecidableEq, Repr

/-- The durable state: the generation counter and the assignments by route identifier. -/
structure DiskState where
  lastGeneration : Nat
  routes : AList (fun _ : String => DiskEntry)

/-- `newDiskState`. -/
def newDiskState : DiskState := ⟨0, ∅⟩

/-- The complete assignment that admitted an operation. -/
structure OperationKey where
  routeID : String
  projectID : String
  sandboxID : String
  generation : Nat
  deriving DecidableEq, Repr

/-- The ledger of a running node. -/
structure Ledger where
  state : DiskState
  activeOperations : AList (fun _ : OperationKey => Nat)
  closed : Bool

variable {ledger : Ledger}

/-- A ledger opened on a path with no earlier file. -/
def Ledger.fresh : Ledger := ⟨newDiskState, ∅, false⟩

/-- `publicFromDisk`. -/
def publicFromDisk (entry : DiskEntry) : Route :=
  ⟨entry.routeID, entry.projectID, entry.sandboxID, entry.generation, entry.state,
    entry.lastActivity⟩

/-- `bindingFromDisk`. -/
def bindingFromDisk (entry : DiskEntry) : Binding :=
  ⟨publicFromDisk entry, entry.engineID⟩

/-- The lease key of an assignment. -/
def DiskEntry.operationKey (entry : DiskEntry) : OperationKey :=
  ⟨entry.routeID, entry.projectID, entry.sandboxID, entry.generation⟩

/-! ## Input checks -/

/-- `validateRouteIdentity`. -/
def validateRouteIdentity (routeID projectID sandboxID : String) : Bool :=
  isSafeName routeID && isSafeName projectID && isSafeName sandboxID

/-- Control characters: the Unicode category `Cc`. -/
def isControl (character : Char) : Bool :=
  character.toNat ≤ 0x1F || (0x7F ≤ character.toNat && character.toNat ≤ 0x9F)

/-- `validateEngineID`. -/
def validateEngineID (engineID : String) : Bool :=
  engineID ≠ "" && engineID.utf8ByteSize ≤ maxEngineIDBytes &&
    engineID.toList.all fun character => !isControl character && !isSpace character

/-- `nextGeneration`. -/
def nextGeneration (current : Nat) : Except LedgerError Nat :=
  if current = maxUint64 then .error .generationsExhausted else .ok (current + 1)

/-- `allowedTransition`. -/
def allowedTransition : RouteState → RouteState → Bool
  | .attaching, .ready => true
  | .attaching, .released => true
  | .ready, .draining => true
  | .draining, .ready => true
  | .draining, .standby => true
  | .draining, .released => true
  | .standby, .released => true
  | _, _ => false

/-- `assignmentConflicts`: a route other than `exceptRouteID` that is not released already holds
the engine or the sandbox. -/
def assignmentConflicts (routes : AList (fun _ : String => DiskEntry)) (exceptRouteID : String)
    (projectID sandboxID engineID : String) : Bool :=
  routes.entries.any fun pair =>
    pair.1 ≠ exceptRouteID && pair.2.state ≠ .released &&
      (pair.2.engineID = engineID ||
        (pair.2.projectID = projectID && pair.2.sandboxID = sandboxID))

/-- The checks of `validateDiskState` on one entry, with the generations, engines and sandboxes
seen on earlier entries. -/
def validateEntry (lastGeneration : Nat) (generations : List Nat) (engineIDs : List String)
    (sandboxes : List (String × String)) (key : String) (entry : DiskEntry) :
    Except LedgerError Unit :=
  if key ≠ entry.routeID then .error (.rejected "route key does not match route identity")
  else if !validateRouteIdentity entry.routeID entry.projectID entry.sandboxID then
    .error (.invalid "")
  else if entry.generation = 0 ∨ lastGeneration < entry.generation then
    .error (.rejected "route generation is outside the durable generation clock")
  else if entry.generation ∈ generations then
    .error (.rejected "route generations must be unique")
  else if entry.lastActivity = zeroTime then
    .error (.rejected "route has invalid last activity")
  else if entry.state = .released then
    if entry.engineID ≠ "" then .error (.rejected "released route retained an engine identity")
    else .ok ()
  else if !validateEngineID entry.engineID then .error (.invalid "")
  else if entry.engineID ∈ engineIDs then
    .error (.rejected "engine identity is assigned to multiple routes")
  else if (entry.projectID, entry.sandboxID) ∈ sandboxes then
    .error (.rejected "sandbox identity is assigned to multiple routes")
  else .ok ()

/-- The loop of `validateDiskState` over the entries. -/
def validateEntries (lastGeneration : Nat) :
    List Nat → List String → List (String × String) →
      List (Sigma fun _ : String => DiskEntry) → Except LedgerError Unit
  | _, _, _, [] => .ok ()
  | generations, engineIDs, sandboxes, ⟨key, entry⟩ :: rest =>
    match validateEntry lastGeneration generations engineIDs sandboxes key entry with
    | .error error => .error error
    | .ok () =>
      if entry.state = .released then
        validateEntries lastGeneration (entry.generation :: generations) engineIDs sandboxes rest
      else
        validateEntries lastGeneration (entry.generation :: generations)
          (entry.engineID :: engineIDs) ((entry.projectID, entry.sandboxID) :: sandboxes) rest

/-- `validateDiskState`. -/
def validateDiskState (state : DiskState) : Except LedgerError Unit :=
  if maxRoutes < state.routes.entries.length then .error (.rejected "route count exceeds limit")
  else validateEntries state.lastGeneration [] [] [] state.routes.entries

/-! ## Operations -/

namespace Ledger

/-- `update`: compute, validate, persist, install. -/
def update {Result : Type} (persists : Bool) (ledger : Ledger)
    (next : DiskState → Except LedgerError (Result × DiskState)) :
    Except LedgerError Result × Ledger :=
  if ledger.closed then (.error .closed, ledger)
  else
    match next ledger.state with
    | .error error => (.error error, ledger)
    | .ok (result, state) =>
      match validateDiskState state with
      | .error error => (.error error, ledger)
      | .ok () =>
        if persists then (.ok result, { ledger with state := state })
        else (.error .notPersisted, ledger)

/-- The update that `Bind` applies. -/
def bindState (routeID projectID sandboxID engineID : String) (at_ : Time) (state : DiskState) :
    Except LedgerError (DiskEntry × DiskState) :=
  if (state.routes.lookup routeID).isSome then .error .conflict
  else if assignmentConflicts state.routes "" projectID sandboxID engineID then .error .conflict
  else
    match nextGeneration state.lastGeneration with
    | .error error => .error error
    | .ok generation =>
      let entry : DiskEntry :=
        ⟨routeID, projectID, sandboxID, engineID, generation, .attaching, at_⟩
      .ok (entry, ⟨generation, state.routes.insert routeID entry⟩)

/-- `Bind`: a new route with a fresh generation. -/
def bind (persists : Bool) (ledger : Ledger) (routeID projectID sandboxID engineID : String)
    (at_ : Time) : Except LedgerError Binding × Ledger :=
  if !(validateRouteIdentity routeID projectID sandboxID && validateEngineID engineID) then
    (.error (.invalid ""), ledger)
  else if at_ = zeroTime then (.error (.invalid "activity time is required"), ledger)
  else
    let (result, ledger') :=
      ledger.update persists (bindState routeID projectID sandboxID engineID at_)
    (result.map bindingFromDisk, ledger')

/-- The compare part of the compare-and-swap updates: the route exists with the expected
generation and state. -/
def currentEntry (state : DiskState) (routeID : String) (expectedGeneration : Nat)
    (expectedState : RouteState) : Except LedgerError DiskEntry :=
  match state.routes.lookup routeID with
  | none => .error .notFound
  | some current =>
    if current.generation ≠ expectedGeneration then .error .staleGeneration
    else if current.state ≠ expectedState then .error .stateConflict
    else .ok current

/-- The update that `Rebind` applies. -/
def rebindState (routeID : String) (expectedGeneration : Nat) (expectedState : RouteState)
    (engineID : String) (at_ : Time) (state : DiskState) :
    Except LedgerError (DiskEntry × DiskState) :=
  match currentEntry state routeID expectedGeneration expectedState with
  | .error error => .error error
  | .ok current =>
    if at_ < current.lastActivity then .error (.invalid "activity time moved backwards")
    else if assignmentConflicts state.routes routeID current.projectID current.sandboxID engineID
    then .error .conflict
    else
      match nextGeneration state.lastGeneration with
      | .error error => .error error
      | .ok generation =>
        let entry := { current with
          engineID := engineID, generation := generation, state := .attaching,
          lastActivity := at_ }
        .ok (entry, ⟨generation, state.routes.insert routeID entry⟩)

/-- `Rebind`: a new engine and a fresh generation for a standby route. -/
def rebind (persists : Bool) (ledger : Ledger) (routeID : String) (expectedGeneration : Nat)
    (expectedState : RouteState) (engineID : String) (at_ : Time) :
    Except LedgerError Binding × Ledger :=
  if !(isSafeName routeID && validateEngineID engineID) then (.error (.invalid ""), ledger)
  else if expectedState ≠ .standby then (.error .illegalTransition, ledger)
  else if at_ = zeroTime then (.error (.invalid "activity time is required"), ledger)
  else
    let (result, ledger') := ledger.update persists
      (rebindState routeID expectedGeneration expectedState engineID at_)
    (result.map bindingFromDisk, ledger')

/-- `hasActiveOperations`: a lease is held on the assignment. -/
def hasActiveOperations (ledger : Ledger) (entry : DiskEntry) : Bool :=
  (ledger.activeOperations.lookup entry.operationKey).getD 0 ≠ 0

/-- The update that `Transition` applies; `busy` tells whether an assignment has leases. -/
def transitionState (busy : DiskEntry → Bool) (routeID : String) (expectedGeneration : Nat)
    (expectedState nextState : RouteState) (state : DiskState) :
    Except LedgerError (DiskEntry × DiskState) :=
  match currentEntry state routeID expectedGeneration expectedState with
  | .error error => .error error
  | .ok current =>
    if !allowedTransition expectedState nextState then .error .illegalTransition
    else if expectedState = .draining ∧ (nextState = .standby ∨ nextState = .released) ∧
        busy current = true then .error .activeOperations
    else
      let entry := { current with
        state := nextState
        engineID := if nextState = .released then "" else current.engineID }
      .ok (entry, { state with routes := state.routes.insert routeID entry })

/-- `Transition`: a compare-and-swap of the lifecycle state. -/
def transition (persists : Bool) (ledger : Ledger) (routeID : String) (expectedGeneration : Nat)
    (expectedState nextState : RouteState) : Except LedgerError Binding × Ledger :=
  if !isSafeName routeID then (.error (.invalid ""), ledger)
  else
    let (result, ledger') := ledger.update persists
      (transitionState ledger.hasActiveOperations routeID expectedGeneration
        expectedState nextState)
    (result.map bindingFromDisk, ledger')

/-- The update that `Touch` applies. -/
def touchState (routeID : String) (expectedGeneration : Nat) (expectedState : RouteState)
    (at_ : Time) (state : DiskState) : Except LedgerError (DiskEntry × DiskState) :=
  match currentEntry state routeID expectedGeneration expectedState with
  | .error error => .error error
  | .ok current =>
    if at_ < current.lastActivity then .error (.invalid "activity time moved backwards")
    else
      let entry := { current with lastActivity := at_ }
      .ok (entry, { state with routes := state.routes.insert routeID entry })

/-- `Touch`: record activity on a ready or draining route. -/
def touch (persists : Bool) (ledger : Ledger) (routeID : String) (expectedGeneration : Nat)
    (expectedState : RouteState) (at_ : Time) : Except LedgerError Binding × Ledger :=
  if !isSafeName routeID || (expectedState ≠ .ready && expectedState ≠ .draining) then
    (.error (.invalid ""), ledger)
  else if at_ = zeroTime then (.error (.invalid "activity time is required"), ledger)
  else
    let (result, ledger') := ledger.update persists
      (touchState routeID expectedGeneration expectedState at_)
    (result.map bindingFromDisk, ledger')

/-- The update that `Remove` applies. -/
def removeState (routeID : String) (expectedGeneration : Nat) (expectedState : RouteState)
    (state : DiskState) : Except LedgerError (Unit × DiskState) :=
  match currentEntry state routeID expectedGeneration expectedState with
  | .error error => .error error
  | .ok _ => .ok ((), { state with routes := state.routes.erase routeID })

/-- `Remove`: delete a released tombstone. -/
def remove (persists : Bool) (ledger : Ledger) (routeID : String) (expectedGeneration : Nat)
    (expectedState : RouteState) : Except LedgerError Unit × Ledger :=
  if !isSafeName routeID || expectedState ≠ .released then (.error (.invalid ""), ledger)
  else ledger.update persists (removeState routeID expectedGeneration expectedState)

/-- `Resolve`: the administrative lookup. -/
def resolve (ledger : Ledger) (routeID : String) : Except LedgerError Binding :=
  if !isSafeName routeID then .error (.invalid "")
  else if ledger.closed then .error .closed
  else
    match ledger.state.routes.lookup routeID with
    | none => .error .notFound
    | some entry => .ok (bindingFromDisk entry)

/-- `ResolveCurrent`: the lookup that compares the whole assignment. -/
def resolveCurrent (ledger : Ledger) (routeID projectID sandboxID : String)
    (expectedGeneration : Nat) (expectedState : RouteState) : Except LedgerError Binding :=
  if !validateRouteIdentity routeID projectID sandboxID then .error (.invalid "")
  else if ledger.closed then .error .closed
  else
    match ledger.state.routes.lookup routeID with
    | none => .error .notFound
    | some entry =>
      if entry.projectID ≠ projectID ∨ entry.sandboxID ≠ sandboxID then .error .notFound
      else if entry.generation ≠ expectedGeneration then .error .staleGeneration
      else if entry.state ≠ expectedState then .error .stateConflict
      else .ok (bindingFromDisk entry)

/-- `List`, without the order of the reply. -/
def list (ledger : Ledger) : Except LedgerError (List Route) :=
  if ledger.closed then .error .closed
  else .ok (ledger.state.routes.entries.map fun pair => publicFromDisk pair.2)

/-- `AcquireOperation`: admit one operation against a ready assignment and count its lease. -/
def acquireOperation (ledger : Ledger) (routeID projectID sandboxID : String)
    (expectedGeneration : Nat) : Except LedgerError (Binding × OperationKey) × Ledger :=
  if !validateRouteIdentity routeID projectID sandboxID || expectedGeneration = 0 then
    (.error (.invalid ""), ledger)
  else if ledger.closed then (.error .closed, ledger)
  else
    match ledger.state.routes.lookup routeID with
    | none => (.error .notFound, ledger)
    | some entry =>
      if entry.projectID ≠ projectID ∨ entry.sandboxID ≠ sandboxID then (.error .notFound, ledger)
      else if entry.generation ≠ expectedGeneration then (.error .staleGeneration, ledger)
      else if entry.state ≠ .ready then (.error .stateConflict, ledger)
      else
        let key : OperationKey := ⟨routeID, projectID, sandboxID, expectedGeneration⟩
        let count := (ledger.activeOperations.lookup key).getD 0
        if count = maxUint64 then (.error .activeOperations, ledger)
        else
          (.ok (bindingFromDisk entry, key),
            { ledger with activeOperations := ledger.activeOperations.insert key (count + 1) })

/-- `releaseOperation`: give one lease back. -/
def releaseOperation (ledger : Ledger) (key : OperationKey) : Except LedgerError Unit × Ledger :=
  if ledger.closed then (.error .closed, ledger)
  else
    match ledger.activeOperations.lookup key with
    | none => (.error (.invalid ""), ledger)
    | some count =>
      if count = 0 then (.error (.invalid ""), ledger)
      else
        match ledger.state.routes.lookup key.routeID with
        | none => (.error .stateConflict, ledger)
        | some entry =>
          if entry.projectID ≠ key.projectID ∨ entry.sandboxID ≠ key.sandboxID ∨
              entry.generation ≠ key.generation then (.error .stateConflict, ledger)
          else if entry.state ≠ .ready ∧ entry.state ≠ .draining then
            (.error .stateConflict, ledger)
          else if count = 1 then
            (.ok (), { ledger with activeOperations := ledger.activeOperations.erase key })
          else
            (.ok (), { ledger with
              activeOperations := ledger.activeOperations.insert key (count - 1) })

/-- `Close`: refused while leases are held. -/
def close (ledger : Ledger) : Except LedgerError Unit × Ledger :=
  if ledger.closed then (.ok (), ledger)
  else if ledger.activeOperations.entries.length ≠ 0 then (.error .activeOperations, ledger)
  else (.ok (), { ledger with closed := true })

/-! ## What an update does -/

/-- A call that fails leaves the ledger as it was, and one that succeeds meets the condition. -/
def Meets {Result : Type} (ledger : Ledger) (condition : Result → Ledger → Prop) :
    Except LedgerError Result × Ledger → Prop
  | (.error _, after) => after = ledger
  | (.ok result, after) => condition result after

theorem Meets.of_eq {Result : Type} {condition : Result → Ledger → Prop}
    {call answered : Except LedgerError Result × Ledger} (meets : ledger.Meets condition call)
    (isAnswer : call = answered) : ledger.Meets condition answered := isAnswer ▸ meets

theorem Meets.mono {Result : Type} {condition condition' : Result → Ledger → Prop}
    {call : Except LedgerError Result × Ledger} (meets : ledger.Meets condition call)
    (weaker : ∀ result after, condition result after → condition' result after) :
    ledger.Meets condition' call := by
  obtain ⟨error | result, after⟩ := call
  · exact meets
  · exact weaker result after meets

theorem Meets.map {Result Shown : Type} {condition : Shown → Ledger → Prop} {shows : Result → Shown}
    {call : Except LedgerError Result × Ledger}
    (meets : ledger.Meets (fun result => condition (shows result)) call) :
    ledger.Meets condition (call.1.map shows, call.2) := by
  obtain ⟨error | result, after⟩ := call
  · exact meets
  · exact meets

theorem Meets.sameState {Result : Type} {call : Except LedgerError Result × Ledger}
    (meets : ledger.Meets (fun _ after => after.state = ledger.state) call) :
    call.2.state = ledger.state := by
  obtain ⟨error | result, after⟩ := call
  · obtain rfl : after = ledger := meets
    rfl
  · exact meets

/-- The state has been validated and persisted. -/
def Installed (persists : Bool) (state : DiskState) : Prop :=
  persists = true ∧ validateDiskState state = .ok ()

/-- A rejected or failed update changes nothing; a successful one installs the validated state. -/
theorem update_meets {Result : Type} (next : DiskState → Except LedgerError (Result × DiskState)) :
    ledger.Meets (fun result after => ∃ state, next ledger.state = .ok (result, state) ∧
      Installed persists state ∧ after = { ledger with state := state })
      (ledger.update persists next) := by
  fun_cases update persists ledger next with
  | case4 _ result state computed valid persisted =>
    exact ⟨state, computed, ⟨persisted, valid⟩, rfl⟩
  | _ => rfl

theorem currentEntry_ok {state : DiskState} {current : DiskEntry} :
    currentEntry state routeID expectedGeneration expectedState = .ok current →
    state.routes.lookup routeID = some current ∧ current.generation = expectedGeneration ∧
      current.state = expectedState := by
  fun_cases currentEntry state routeID expectedGeneration expectedState with
  | case4 entry present sameGeneration sameState =>
    rintro ⟨⟩
    exact ⟨present, not_not.mp sameGeneration, not_not.mp sameState⟩
  | _ => rintro ⟨⟩

theorem nextGeneration_ok {current generation : Nat}
    (fresh : nextGeneration current = .ok generation) : current < generation := by
  unfold nextGeneration at fresh
  split at fresh
  · cases fresh
  · cases fresh
    exact Nat.lt_succ_self current

/-- The ledger with an entry written. -/
def withRoute (ledger : Ledger) (lastGeneration : Nat) (routeID : String) (entry : DiskEntry) :
    Ledger :=
  { ledger with state := ⟨lastGeneration, ledger.state.routes.insert routeID entry⟩ }

/-- Delete the slot of a route. -/
def withoutRoute (ledger : Ledger) (routeID : String) : Ledger :=
  { ledger with state := { ledger.state with routes := ledger.state.routes.erase routeID } }

@[simp] theorem withRoute_lookup (ledger : Ledger) (lastGeneration : Nat) (routeID : String)
    (entry : DiskEntry) :
    (ledger.withRoute lastGeneration routeID entry).state.routes.lookup routeID = some entry :=
  AList.lookup_insert _

theorem withRoute_lookup_ne (ledger : Ledger) (lastGeneration : Nat) {other : String}
    (entry : DiskEntry) (different : other ≠ routeID) :
    (ledger.withRoute lastGeneration routeID entry).state.routes.lookup other =
      ledger.state.routes.lookup other :=
  AList.lookup_insert_ne different

@[simp] theorem withoutRoute_lookup (ledger : Ledger) (routeID : String) :
    (ledger.withoutRoute routeID).state.routes.lookup routeID = none :=
  AList.lookup_erase _ _

theorem withoutRoute_lookup_ne (ledger : Ledger) {other : String} (different : other ≠ routeID) :
    (ledger.withoutRoute routeID).state.routes.lookup other = ledger.state.routes.lookup other :=
  AList.lookup_erase_ne different

theorem resolve_ok {binding : Binding} : ledger.resolve routeID = .ok binding →
    ∃ entry, ledger.state.routes.lookup routeID = some entry ∧ binding = bindingFromDisk entry := by
  fun_cases resolve ledger routeID with
  | case4 _ _ entry present =>
    rintro ⟨⟩
    exact ⟨entry, present, rfl⟩
  | _ => rintro ⟨⟩

theorem bind_meets {projectID sandboxID engineID : String} :
    ledger.Meets (fun binding after => ∃ generation, ledger.state.lastGeneration < generation ∧
      ledger.state.routes.lookup routeID = none ∧ Installed persists after.state ∧
      binding = bindingFromDisk
        ⟨routeID, projectID, sandboxID, engineID, generation, .attaching, at_⟩ ∧
      after = ledger.withRoute generation routeID
        ⟨routeID, projectID, sandboxID, engineID, generation, .attaching, at_⟩)
      (ledger.bind persists routeID projectID sandboxID engineID at_) := by
  unfold bind
  split_ifs
  · rfl
  · rfl
  refine .map ((update_meets _).mono ?_)
  rintro entry _ ⟨state, computed, installed, rfl⟩
  revert computed
  fun_cases bindState routeID projectID sandboxID engineID at_ ledger.state with
  | case4 absent _ generation fresh =>
    intro computed
    obtain ⟨rfl, rfl⟩ := Prod.mk.inj (Except.ok.inj computed)
    exact ⟨generation, nextGeneration_ok fresh, by simpa using absent, installed, rfl, rfl⟩
  | _ => rintro ⟨⟩

theorem rebind_meets {engineID : String} :
    ledger.Meets (fun binding after => ∃ current generation,
      ledger.state.routes.lookup routeID = some current ∧
      current.generation = expectedGeneration ∧ current.state = .standby ∧
      ledger.state.lastGeneration < generation ∧ Installed persists after.state ∧
      binding = bindingFromDisk { current with
        engineID := engineID, generation := generation, state := .attaching,
        lastActivity := at_ } ∧
      after = ledger.withRoute generation routeID { current with
        engineID := engineID, generation := generation, state := .attaching,
        lastActivity := at_ })
      (ledger.rebind persists routeID expectedGeneration expectedState engineID at_) := by
  unfold rebind
  split_ifs with _ fromStandby
  · rfl
  · rfl
  · rfl
  refine .map ((update_meets _).mono ?_)
  rintro entry _ ⟨state, computed, installed, rfl⟩
  revert computed
  fun_cases rebindState routeID expectedGeneration expectedState engineID at_ ledger.state with
  | case5 current found _ _ generation fresh =>
    intro computed
    obtain ⟨rfl, rfl⟩ := Prod.mk.inj (Except.ok.inj computed)
    obtain ⟨present, sameGeneration, sameState⟩ := currentEntry_ok found
    exact ⟨current, generation, present, sameGeneration, sameState.trans (not_not.mp fromStandby),
      nextGeneration_ok fresh, installed, rfl, rfl⟩
  | _ => rintro ⟨⟩

/-- The entry in its next state; a released route has no engine. -/
def movedEntry (current : DiskEntry) (nextState : RouteState) : DiskEntry :=
  { current with
    state := nextState
    engineID := if nextState = .released then "" else current.engineID }

theorem transition_meets {nextState : RouteState} :
    ledger.Meets (fun binding after => ∃ current,
      ledger.state.routes.lookup routeID = some current ∧
      current.generation = expectedGeneration ∧ current.state = expectedState ∧
      allowedTransition expectedState nextState = true ∧
      (expectedState = .draining → nextState = .standby ∨ nextState = .released →
        ledger.hasActiveOperations current = false) ∧ Installed persists after.state ∧
      binding = bindingFromDisk (movedEntry current nextState) ∧
      after = ledger.withRoute ledger.state.lastGeneration routeID (movedEntry current nextState))
      (ledger.transition persists routeID expectedGeneration expectedState nextState) := by
  unfold transition
  split_ifs
  · rfl
  refine .map ((update_meets _).mono ?_)
  rintro entry _ ⟨state, computed, installed, rfl⟩
  revert computed
  fun_cases transitionState ledger.hasActiveOperations routeID expectedGeneration expectedState
    nextState ledger.state with
  | case4 current found allowed idle =>
    intro computed
    obtain ⟨rfl, rfl⟩ := Prod.mk.inj (Except.ok.inj computed)
    obtain ⟨present, sameGeneration, sameState⟩ := currentEntry_ok found
    refine ⟨current, present, sameGeneration, sameState, by simpa using allowed, ?_, installed, rfl,
      rfl⟩
    intro draining leaving
    by_contra busy
    exact idle ⟨draining, leaving, by simpa using busy⟩
  | _ => rintro ⟨⟩

theorem touch_meets :
    ledger.Meets (fun binding after => ∃ current,
      ledger.state.routes.lookup routeID = some current ∧ Installed persists after.state ∧
      binding = bindingFromDisk { current with lastActivity := at_ } ∧
      after = ledger.withRoute ledger.state.lastGeneration routeID
        { current with lastActivity := at_ })
      (ledger.touch persists routeID expectedGeneration expectedState at_) := by
  unfold touch
  split_ifs
  · rfl
  · rfl
  refine .map ((update_meets _).mono ?_)
  rintro entry _ ⟨state, computed, installed, rfl⟩
  revert computed
  fun_cases touchState routeID expectedGeneration expectedState at_ ledger.state with
  | case3 current found =>
    intro computed
    obtain ⟨rfl, rfl⟩ := Prod.mk.inj (Except.ok.inj computed)
    exact ⟨current, (currentEntry_ok found).1, installed, rfl, rfl⟩
  | _ => rintro ⟨⟩

theorem remove_meets :
    ledger.Meets (fun _ after => ∃ current, ledger.state.routes.lookup routeID = some current ∧
      current.generation = expectedGeneration ∧ current.state = .released ∧
      Installed persists after.state ∧ after = ledger.withoutRoute routeID)
      (ledger.remove persists routeID expectedGeneration expectedState) := by
  unfold remove
  split_ifs with admissible
  · rfl
  refine (update_meets _).mono ?_
  rintro entry _ ⟨state, computed, installed, rfl⟩
  revert computed
  fun_cases removeState routeID expectedGeneration expectedState ledger.state with
  | case2 current found =>
    rintro ⟨⟩
    obtain ⟨present, sameGeneration, sameState⟩ := currentEntry_ok found
    have safe : isSafeName routeID = true ∧ expectedState = .released := by simpa using admissible
    exact ⟨current, present, sameGeneration, sameState.trans safe.2, installed, rfl⟩
  | _ => rintro ⟨⟩

end Ledger

end Brezel.Nodeledger
