import Brezel.Nodeledger.Ledger

/-!
# Runs of a node's ledger

A node keeps its ledger in memory and in a file.  A mutation computes a next state, validates it,
writes it to the file and installs it in memory.  Writing can fail before the file is replaced, and
it can fail after that, when the file already holds the next state: then the memory is behind the
file until the next successful mutation or until the ledger is opened again.

`Node` adds to the ledger the file, the leases that `AcquireOperation` has handed out, and a
history: everything the calls have returned (`seen`) and the generations that `Bind` and `Rebind`
have returned (`issued`).  `Node.after` plays any sequence of calls and reopenings, with any
failures of the file.

* `generations_fence`: generations only grow, and an assignment that was ever returned keeps its
  meaning, across removals, failed writes and restarts.
* `leases_protect`: the counter of an assignment is the number of its live leases, and a live lease
  keeps its assignment in place.
-/

namespace Brezel.Nodeledger

open Domain

variable {entry : DiskEntry} {generation number : Nat} {routeID : String} {key : OperationKey}

/-! ## Leases in the ledger -/

/-- The counter of an assignment. -/
def Ledger.leaseCount (ledger : Ledger) (key : OperationKey) : Nat :=
  (ledger.activeOperations.lookup key).getD 0

variable {ledger : Ledger}

/-- Set the counter of an assignment; a counter at zero is deleted. -/
def Ledger.withCount (ledger : Ledger) (key : OperationKey) (count : Nat) : Ledger :=
  { ledger with
    activeOperations :=
      if count = 0 then ledger.activeOperations.erase key
      else ledger.activeOperations.insert key count }

/-! ## Mutations -/

/-- The calls that write the ledger. -/
inductive Mutation
  | bind (routeID projectID sandboxID engineID : String) (at_ : Time)
  | rebind (routeID : String) (expectedGeneration : Nat) (expectedState : RouteState)
      (engineID : String) (at_ : Time)
  | transition (routeID : String) (expectedGeneration : Nat) (expectedState nextState : RouteState)
  | touch (routeID : String) (expectedGeneration : Nat) (expectedState : RouteState) (at_ : Time)
  | remove (routeID : String) (expectedGeneration : Nat) (expectedState : RouteState)
  deriving DecidableEq, Repr

variable {mutation : Mutation}

/-- A route as a call returns it; a listed route comes without its engine. -/
structure Sighting where
  route : Route
  engineID : Option String
  deriving DecidableEq, Repr

variable {sightings : List Sighting}

/-- What a binding shows. -/
def Binding.sighting (binding : Binding) : Sighting := ⟨binding.route, some binding.engineID⟩

/-- The answer of a call: the routes it returns. -/
abbrev Answer := Except LedgerError (List Sighting)

/-- The answer of a call that returns a binding. -/
def answerBinding (outcome : Except LedgerError Binding) : Answer :=
  outcome.map fun binding => [binding.sighting]

/-- Carry out a mutation. -/
def Ledger.mutate (persists : Bool) (ledger : Ledger) : Mutation → Answer × Ledger
  | .bind routeID projectID sandboxID engineID at_ =>
    let (outcome, after) := ledger.bind persists routeID projectID sandboxID engineID at_
    (answerBinding outcome, after)
  | .rebind routeID generation state engineID at_ =>
    let (outcome, after) := ledger.rebind persists routeID generation state engineID at_
    (answerBinding outcome, after)
  | .transition routeID generation state next =>
    let (outcome, after) := ledger.transition persists routeID generation state next
    (answerBinding outcome, after)
  | .touch routeID generation state at_ =>
    let (outcome, after) := ledger.touch persists routeID generation state at_
    (answerBinding outcome, after)
  | .remove routeID generation state =>
    let (outcome, after) := ledger.remove persists routeID generation state
    (outcome.map fun _ => [], after)

/-- The mutation asks for a new generation. -/
def Mutation.allocates : Mutation → Bool
  | .bind _ _ _ _ _ => true
  | .rebind _ _ _ _ _ => true
  | _ => false

/-! ## The node -/

/-- How writing the file ends: it is written; it fails and the old file stays; it fails with the
new file in place. -/
inductive Persist
  | written
  | refused
  | replaced
  deriving DecidableEq, Repr

/-- An `OperationLease`: the assignment it protects, and the result of its release. -/
structure Lease where
  key : OperationKey
  released : Option (Except LedgerError Unit)

variable {lease : Lease}

/-- The lease has not been given back. -/
def Lease.live (lease : Lease) : Bool := lease.released.isNone

/-- A node with its ledger, the contents of the file, the leases in the order they were acquired,
and the history of what its calls have returned, the latest first. -/
structure Node where
  ledger : Ledger
  disk : DiskState
  leases : List Lease
  seen : List Sighting
  issued : List Nat

variable {node : Node}

/-- A node that has opened its ledger on a path with no earlier file. -/
def Node.fresh : Node := ⟨Ledger.fresh, newDiskState, [], [], []⟩

/-- What can happen to a node. -/
inductive NodeEvent
  | mutate (persist : Persist) (mutation : Mutation)
  | resolve (routeID : String)
  | resolveCurrent (routeID projectID sandboxID : String) (expectedGeneration : Nat)
      (expectedState : RouteState)
  | list
  | acquire (routeID projectID sandboxID : String) (expectedGeneration : Nat)
  | release (lease : Nat)
  | close
  | reopen

namespace Node

/-- The file after an attempt to write it. -/
def written (node : Node) (persist : Persist) (mutation : Mutation) : DiskState :=
  if persist = .refused then node.disk
  else
    match node.ledger.mutate true mutation with
    | (.ok _, after) => after.state
    | (.error _, _) => node.disk

/-- Give a lease back, once. -/
def release (node : Node) (number : Nat) : Answer × Node :=
  match node.leases[number]? with
  | none => (.error (.invalid ""), node)
  | some lease =>
    match lease.released with
    | some outcome => (outcome.map fun _ => [], node)
    | none =>
      let (outcome, after) := node.ledger.releaseOperation lease.key
      (outcome.map fun _ => [], { node with
        ledger := after
        leases := node.leases.set number { lease with released := some outcome } })

/-- The answer to an event, and the node afterwards without its history.  A process that opens the
ledger again has no leases. -/
def perform (node : Node) : NodeEvent → Answer × Node
  | .mutate persist mutation =>
    let (answer, after) := node.ledger.mutate (persist = .written) mutation
    (answer, { node with ledger := after, disk := node.written persist mutation })
  | .resolve routeID => (answerBinding (node.ledger.resolve routeID), node)
  | .resolveCurrent routeID projectID sandboxID generation state =>
    (answerBinding (node.ledger.resolveCurrent routeID projectID sandboxID generation state), node)
  | .list => (node.ledger.list.map fun routes => routes.map fun route => ⟨route, none⟩, node)
  | .acquire routeID projectID sandboxID generation =>
    match node.ledger.acquireOperation routeID projectID sandboxID generation with
    | (.ok (binding, key), after) => (.ok [binding.sighting],
        { node with ledger := after, leases := node.leases ++ [⟨key, none⟩] })
    | (.error error, after) => (.error error, { node with ledger := after })
  | .release number => node.release number
  | .close =>
    let (outcome, after) := node.ledger.close
    (outcome.map fun _ => [], { node with ledger := after })
  | .reopen =>
    match validateDiskState node.disk with
    | .ok () => (.ok [], { node with ledger := ⟨node.disk, ∅, false⟩, leases := [] })
    | .error error => (.error error, node)

/-- The generations that an answer hands out. -/
def allocated : NodeEvent → Answer → List Nat
  | .mutate _ mutation, .ok sightings =>
    if mutation.allocates then sightings.map (·.route.generation) else []
  | _, _ => []

/-- One event, entered into the history. -/
def step (node : Node) (event : NodeEvent) : Node :=
  let (answer, after) := node.perform event
  { after with
    seen := answer.toOption.getD [] ++ node.seen
    issued := allocated event answer ++ node.issued }

/-- The node after the events. -/
def after (events : List NodeEvent) : Node := events.foldl step fresh

end Node

/-! ## What a mutation does -/

/-- The successful mutations, with what they return. -/
inductive Mutated (ledger : Ledger) : Mutation → List Sighting → Ledger → Prop
  | bound {routeID projectID sandboxID engineID : String} {at_ : Time} {generation : Nat}
      (fresh : ledger.state.lastGeneration < generation)
      (absent : ledger.state.routes.lookup routeID = none) :
      Mutated ledger (.bind routeID projectID sandboxID engineID at_)
        [(bindingFromDisk ⟨routeID, projectID, sandboxID, engineID, generation, .attaching,
          at_⟩).sighting]
        (ledger.withRoute generation routeID
          ⟨routeID, projectID, sandboxID, engineID, generation, .attaching, at_⟩)
  | rebound {routeID engineID : String} {expectedState : RouteState} {at_ : Time}
      {current : DiskEntry} {generation : Nat}
      (present : ledger.state.routes.lookup routeID = some current)
      (standby : current.state = .standby) (fresh : ledger.state.lastGeneration < generation) :
      Mutated ledger (.rebind routeID current.generation expectedState engineID at_)
        [(bindingFromDisk { current with
          engineID := engineID, generation := generation, state := .attaching,
          lastActivity := at_ }).sighting]
        (ledger.withRoute generation routeID { current with
          engineID := engineID, generation := generation, state := .attaching,
          lastActivity := at_ })
  | moved {routeID : String} {current : DiskEntry} {nextState : RouteState}
      (present : ledger.state.routes.lookup routeID = some current)
      (allowed : allowedTransition current.state nextState = true)
      (idle : current.state = .draining → nextState = .standby ∨ nextState = .released →
        ledger.hasActiveOperations current = false) :
      Mutated ledger (.transition routeID current.generation current.state nextState)
        [(bindingFromDisk (Ledger.movedEntry current nextState)).sighting]
        (ledger.withRoute ledger.state.lastGeneration routeID
          (Ledger.movedEntry current nextState))
  | touched {routeID : String} {expectedGeneration : Nat} {expectedState : RouteState}
      {at_ : Time} {current : DiskEntry}
      (present : ledger.state.routes.lookup routeID = some current) :
      Mutated ledger (.touch routeID expectedGeneration expectedState at_)
        [(bindingFromDisk { current with lastActivity := at_ }).sighting]
        (ledger.withRoute ledger.state.lastGeneration routeID { current with lastActivity := at_ })
  | removed {routeID : String} {expectedState : RouteState} {current : DiskEntry}
      (present : ledger.state.routes.lookup routeID = some current)
      (released : current.state = .released) :
      Mutated ledger (.remove routeID current.generation expectedState) []
        (ledger.withoutRoute routeID)

/-- A mutation fails and changes nothing, or is one of the successful ones. -/
theorem Ledger.mutate_meets (persists : Bool) (mutation : Mutation) :
    ledger.Meets (fun sightings after => Installed persists after.state ∧
      Mutated ledger mutation sightings after) (ledger.mutate persists mutation) := by
  cases mutation with
  | bind routeID projectID sandboxID engineID at_ =>
    refine Meets.map (bind_meets.mono ?_)
    rintro _ _ ⟨generation, fresh, absent, installed, rfl, rfl⟩
    exact ⟨installed, .bound fresh absent⟩
  | rebind routeID generation state engineID at_ =>
    refine Meets.map (rebind_meets.mono ?_)
    rintro _ _ ⟨current, next, present, rfl, standby, fresh, installed, rfl, rfl⟩
    exact ⟨installed, .rebound present standby fresh⟩
  | transition routeID generation state next =>
    refine Meets.map (transition_meets.mono ?_)
    rintro _ _ ⟨current, present, rfl, rfl, allowed, idle, installed, rfl, rfl⟩
    exact ⟨installed, .moved present allowed idle⟩
  | touch routeID generation state at_ =>
    refine Meets.map (touch_meets.mono ?_)
    rintro _ _ ⟨current, present, installed, rfl, rfl⟩
    exact ⟨installed, .touched present⟩
  | remove routeID generation state =>
    refine Meets.map (remove_meets.mono ?_)
    rintro _ _ ⟨current, present, rfl, released, installed, rfl⟩
    exact ⟨installed, .removed present released⟩

/-! ## Valid states -/

theorem validateEntry_ok {lastGeneration : Nat} {generations : List Nat} {engineIDs : List String}
    {sandboxes : List (String × String)} {key : String}
    (valid : validateEntry lastGeneration generations engineIDs sandboxes key entry = .ok ()) :
    entry.routeID = key ∧ entry.generation ≤ lastGeneration ∧
      (entry.state ≠ .released → entry.engineID ∉ engineIDs ∧
        (entry.projectID, entry.sandboxID) ∉ sandboxes) := by
  unfold validateEntry at valid
  split_ifs at valid with misnamed _ outside _ _ released _ _ sameEngine sameSandbox
  all_goals
    refine ⟨(not_not.mp misnamed).symm, by omega, fun unreleased => ?_⟩
  · exact absurd released unreleased
  · exact ⟨sameEngine, sameSandbox⟩

/-- Two routes in use share neither engine nor sandbox. -/
def Distinct (first second : DiskEntry) : Prop :=
  first.state ≠ .released → second.state ≠ .released →
    first.engineID ≠ second.engineID ∧
      (first.projectID, first.sandboxID) ≠ (second.projectID, second.sandboxID)

/-- What the loop over the entries ensures, by recursion along the loop. -/
theorem validateEntries_ok {lastGeneration : Nat} {generations : List Nat}
    {engineIDs : List String} {sandboxes : List (String × String)}
    {entries : List (Sigma fun _ : String => DiskEntry)}
    (valid : validateEntries lastGeneration generations engineIDs sandboxes entries = .ok ()) :
    (∀ pair ∈ entries, pair.2.routeID = pair.1 ∧ pair.2.generation ≤ lastGeneration ∧
      (pair.2.state ≠ .released → pair.2.engineID ∉ engineIDs ∧
        (pair.2.projectID, pair.2.sandboxID) ∉ sandboxes)) ∧
    entries.Pairwise fun first second => Distinct first.2 second.2 := by
  induction entries generalizing generations engineIDs sandboxes with
  | nil => simp
  | cons pair rest ih =>
    obtain ⟨key, entry⟩ := pair
    simp only [validateEntries] at valid
    split at valid
    · cases valid
    next entryValid =>
    have here := validateEntry_ok entryValid
    split at valid
    · -- A released entry leaves the sets of engines and sandboxes alone.
      next released =>
      obtain ⟨each, distinct⟩ := ih valid
      refine ⟨List.forall_mem_cons.mpr ⟨here, each⟩, List.pairwise_cons.mpr ⟨?_, distinct⟩⟩
      intro other _ unreleased
      exact absurd released unreleased
    · next unreleased =>
      obtain ⟨each, distinct⟩ := ih valid
      refine ⟨List.forall_mem_cons.mpr ⟨here, ?_⟩, List.pairwise_cons.mpr ⟨?_, distinct⟩⟩
      · intro other member
        obtain ⟨named, bounded, apart⟩ := each other member
        refine ⟨named, bounded, fun otherUnreleased => ?_⟩
        obtain ⟨newEngine, newSandbox⟩ := apart otherUnreleased
        exact ⟨fun old => newEngine (List.mem_cons_of_mem _ old),
          fun old => newSandbox (List.mem_cons_of_mem _ old)⟩
      · intro other member _ otherUnreleased
        obtain ⟨newEngine, newSandbox⟩ := (each other member).2.2 otherUnreleased
        exact ⟨fun same => newEngine (same ▸ List.mem_cons_self),
          fun same => newSandbox (same ▸ List.mem_cons_self)⟩

/-- What validation ensures of a state. -/
structure DiskState.Sound (state : DiskState) : Prop where
  named : ∀ {routeID entry}, state.routes.lookup routeID = some entry → entry.routeID = routeID
  bounded : ∀ {routeID entry}, state.routes.lookup routeID = some entry →
    entry.generation ≤ state.lastGeneration
  distinct : ∀ {routeID other entry entry'}, state.routes.lookup routeID = some entry →
    state.routes.lookup other = some entry' → routeID ≠ other → Distinct entry entry'

variable {state : DiskState}

theorem validateDiskState_sound (valid : validateDiskState state = .ok ()) :
    state.Sound := by
  unfold validateDiskState at valid
  split at valid
  · cases valid
  obtain ⟨each, distinct⟩ := validateEntries_ok valid
  have member : ∀ {routeID entry}, state.routes.lookup routeID = some entry →
      (⟨routeID, entry⟩ : Sigma fun _ : String => DiskEntry) ∈ state.routes.entries :=
    fun present => AList.mem_lookup_iff.mp present
  refine ⟨fun present => (each _ (member present)).1, fun present => (each _ (member present)).2.1,
    ?_⟩
  intro routeID other entry entry' present present' different
  have symmetric : Std.Symm fun first second : Sigma fun _ : String => DiskEntry =>
      Distinct first.2 second.2 := by
    constructor
    intro first second apart unreleased unreleased'
    obtain ⟨engine, sandbox⟩ := apart unreleased' unreleased
    exact ⟨engine.symm, sandbox.symm⟩
  refine distinct.forall (member present) (member present') ?_
  intro same
  exact different (congrArg Sigma.fst same)

/-! ## Generations -/

/-- The same route in the same generation. -/
def SameAssignment (first second : Sighting) : Prop :=
  first.route.routeID = second.route.routeID ∧ first.route.generation = second.route.generation

/-- The sightings show one sandbox, and one engine while in use. -/
def Agree (first second : Sighting) : Prop :=
  (first.route.projectID, first.route.sandboxID) =
    (second.route.projectID, second.route.sandboxID) ∧
  (first.route.state ≠ .released → second.route.state ≠ .released →
    ∀ engineID engineID', first.engineID = some engineID → second.engineID = some engineID' →
      engineID = engineID')

/-- The state has the route that was seen. -/
def Shows (state : DiskState) (sighting : Sighting) : Prop :=
  ∃ routeID entry, state.routes.lookup routeID = some entry ∧
    sighting.route = publicFromDisk entry ∧
    ∀ engineID, sighting.engineID = some engineID → engineID = entry.engineID

/-- The entry goes on as the same assignment: a released one stays released. -/
structure Continues (before after : DiskEntry) : Prop where
  routeID : after.routeID = before.routeID
  project : after.projectID = before.projectID
  sandbox : after.sandboxID = before.sandboxID
  generation : after.generation = before.generation
  engine : after.state ≠ .released → before.state ≠ .released ∧ after.engineID = before.engineID

/-- The later state continues the assignments of the earlier one or has newer generations. -/
structure Follows (before after : DiskState) : Prop where
  clock : before.lastGeneration ≤ after.lastGeneration
  entries : ∀ routeID entry, after.routes.lookup routeID = some entry →
    before.lastGeneration < entry.generation ∨
      ∃ earlier, before.routes.lookup routeID = some earlier ∧ Continues earlier entry

theorem Follows.refl (state : DiskState) : Follows state state where
  clock := le_refl _
  entries _ entry present := .inr ⟨entry, present, rfl, rfl, rfl, rfl, fun known => ⟨known, rfl⟩⟩

theorem Follows.of_slot (clock : ledger.state.lastGeneration ≤ generation)
    (slot : ledger.state.lastGeneration < entry.generation ∨
      ∃ earlier, ledger.state.routes.lookup routeID = some earlier ∧ Continues earlier entry) :
    Follows ledger.state (ledger.withRoute generation routeID entry).state where
  clock := clock
  entries other found present := by
    by_cases same : other = routeID
    · subst same
      rw [Ledger.withRoute_lookup] at present
      cases present
      exact slot
    · rw [Ledger.withRoute_lookup_ne _ _ _ same] at present
      exact (Follows.refl ledger.state).entries other found present

/-- A released entry is never moved. -/
theorem allowedTransition_unreleased {before after : RouteState}
    (allowed : allowedTransition before after = true) : before ≠ .released := by
  rintro rfl
  cases allowed

theorem Mutated.follows {after : Ledger} (mutated : Mutated ledger mutation sightings after) :
    Follows ledger.state after.state := by
  cases mutated with
  | bound fresh absent => exact .of_slot (Nat.le_of_lt fresh) (.inl fresh)
  | rebound present standby fresh => exact .of_slot (Nat.le_of_lt fresh) (.inl fresh)
  | @moved routeID current nextState present allowed idle =>
    refine .of_slot (le_refl _) (.inr ⟨current, present, rfl, rfl, rfl, rfl, ?_⟩)
    intro unreleased
    exact ⟨allowedTransition_unreleased allowed, if_neg unreleased⟩
  | @touched routeID generation state at_ current present =>
    refine .of_slot (le_refl _) (.inr ⟨current, present, rfl, rfl, rfl, rfl, ?_⟩)
    exact fun unreleased => ⟨unreleased, rfl⟩
  | @removed routeID state current present released =>
    refine ⟨le_refl _, fun other entry present' => ?_⟩
    by_cases same : other = routeID
    · subst same
      rw [Ledger.withoutRoute_lookup] at present'
      cases present'
    · rw [Ledger.withoutRoute_lookup_ne _ same] at present'
      exact (Follows.refl ledger.state).entries other entry present'

theorem shows_of_lookup (present : state.routes.lookup routeID = some entry) :
    Shows state (bindingFromDisk entry).sighting :=
  ⟨routeID, entry, present, rfl, fun _ isEngine => (Option.some.inj isEngine).symm⟩

/-- A successful mutation returns what it has installed. -/
theorem Mutated.shows {after : Ledger} (mutated : Mutated ledger mutation sightings after) :
    ∀ sighting ∈ sightings, Shows after.state sighting := by
  intro sighting member
  cases mutated with
  | removed present released => cases member
  | _ =>
    rw [List.mem_singleton] at member
    subst member
    exact shows_of_lookup (Ledger.withRoute_lookup _ _ _ _)

/-- An allocating mutation returns the new value of the generation clock. -/
theorem Mutated.allocates {after : Ledger} (mutated : Mutated ledger mutation sightings after)
    (allocates : mutation.allocates = true) :
    ledger.state.lastGeneration < after.state.lastGeneration ∧
      sightings.map (·.route.generation) = [after.state.lastGeneration] := by
  cases mutated with
  | bound fresh absent => exact ⟨fresh, rfl⟩
  | rebound present standby fresh => exact ⟨fresh, rfl⟩
  | moved => cases allocates
  | touched => cases allocates
  | removed => cases allocates

/-- What the state shows agrees with what was seen. -/
def Recalls (state : DiskState) (seen : List Sighting) : Prop :=
  ∀ shown, Shows state shown → ∀ sighting ∈ seen, SameAssignment sighting shown →
    Agree sighting shown

theorem Recalls.follow {before after : DiskState} {seen : List Sighting}
    (recalls : Recalls before seen) (follows : Follows before after)
    (bounded : ∀ sighting ∈ seen, sighting.route.generation ≤ before.lastGeneration) :
    Recalls after seen := by
  rintro shown ⟨routeID, entry, present, isRoute, isEngine⟩ sighting member sameAssignment
  rcases follows.entries routeID entry present with newer | ⟨earlier, present', continues⟩
  · -- The generation of a newer entry has not been seen.
    have old := bounded sighting member
    have sameGeneration := sameAssignment.2
    simp only [isRoute, publicFromDisk] at sameGeneration
    omega
  · have sameEarlier : SameAssignment sighting (bindingFromDisk earlier).sighting := by
      refine ⟨sameAssignment.1.trans ?_, sameAssignment.2.trans ?_⟩
      · rw [isRoute]
        exact continues.routeID
      · rw [isRoute]
        exact continues.generation
    obtain ⟨sandbox, engine⟩ := recalls _ (shows_of_lookup present') sighting member sameEarlier
    refine ⟨sandbox.trans ?_, ?_⟩
    · rw [isRoute]
      exact Prod.ext continues.project.symm continues.sandbox.symm
    · intro unreleased unreleased' engineID engineID' isSeen isShown
      have stillUnreleased : entry.state ≠ .released := by
        rw [isRoute] at unreleased'
        exact unreleased'
      obtain ⟨earlierUnreleased, sameEngine⟩ := continues.engine stillUnreleased
      have fromEarlier := engine unreleased earlierUnreleased engineID _ isSeen rfl
      rw [fromEarlier, isEngine engineID' isShown]
      exact sameEngine.symm

theorem shows_agree (sound : state.Sound) {first second : Sighting} (shows : Shows state first)
    (shows' : Shows state second) (sameAssignment : SameAssignment first second) :
    Agree first second := by
  obtain ⟨routeID, entry, present, isRoute, isEngine⟩ := shows
  obtain ⟨routeID', entry', present', isRoute', isEngine'⟩ := shows'
  have sameRoute : routeID = routeID' := by
    have named := sameAssignment.1
    rw [isRoute, isRoute'] at named
    exact (sound.named present).symm.trans (named.trans (sound.named present'))
  subst sameRoute
  obtain rfl : entry = entry' := Option.some.inj (present.symm.trans present')
  refine ⟨by rw [isRoute, isRoute'], ?_⟩
  intro _ _ engineID engineID' isFirst isSecond
  rw [isEngine engineID isFirst, isEngine' engineID' isSecond]

namespace Node

/-- The memory and the file are valid, the file follows the memory, both recall what was seen, and
the issued generations grow up to the clock. -/
structure Fenced (node : Node) : Prop where
  memory : validateDiskState node.ledger.state = .ok ()
  file : validateDiskState node.disk = .ok ()
  follows : Follows node.ledger.state node.disk
  bounded : ∀ sighting ∈ node.seen, sighting.route.generation ≤ node.ledger.state.lastGeneration
  recalls : Recalls node.ledger.state node.seen
  fixed : ∀ first ∈ node.seen, ∀ second ∈ node.seen, SameAssignment first second →
    Agree first second
  clock : ∀ generation ∈ node.issued, generation ≤ node.ledger.state.lastGeneration
  increasing : node.issued.Pairwise (· > ·)

theorem Fenced.see (fenced : node.Fenced)
    (shown : ∀ sighting ∈ sightings, Shows node.ledger.state sighting) :
    ({ node with seen := sightings ++ node.seen } : Node).Fenced := by
  have sound := validateDiskState_sound fenced.memory
  refine { fenced with bounded := ?_, recalls := ?_, fixed := ?_ }
  · intro sighting member
    rcases List.mem_append.mp member with new | old
    · obtain ⟨routeID, entry, present, isRoute, _⟩ := shown sighting new
      rw [isRoute]
      exact sound.bounded present
    · exact fenced.bounded sighting old
  · intro other shows sighting member sameAssignment
    rcases List.mem_append.mp member with new | old
    · exact shows_agree sound (shown sighting new) shows sameAssignment
    · exact fenced.recalls other shows sighting old sameAssignment
  · intro first member second member' sameAssignment
    rcases List.mem_append.mp member with new | old
    · rcases List.mem_append.mp member' with new' | old'
      · exact shows_agree sound (shown first new) (shown second new') sameAssignment
      · obtain ⟨sandbox, engine⟩ := fenced.recalls first (shown first new) second old'
          ⟨sameAssignment.1.symm, sameAssignment.2.symm⟩
        exact ⟨sandbox.symm, fun unreleased unreleased' engineID engineID' isFirst isSecond =>
          (engine unreleased' unreleased engineID' engineID isSecond isFirst).symm⟩
    · rcases List.mem_append.mp member' with new' | old'
      · exact fenced.recalls second (shown second new') first old sameAssignment
      · exact fenced.fixed first old second old' sameAssignment

theorem Fenced.advance (fenced : node.Fenced) {disk : DiskState}
    (memory : validateDiskState ledger.state = .ok ()) (file : validateDiskState disk = .ok ())
    (moved : Follows node.ledger.state ledger.state) (follows : Follows ledger.state disk) :
    ({ node with ledger := ledger, disk := disk } : Node).Fenced where
  memory := memory
  file := file
  follows := follows
  bounded sighting member := Nat.le_trans (fenced.bounded sighting member) moved.clock
  recalls := fenced.recalls.follow moved fenced.bounded
  fixed := fenced.fixed
  clock generation member := Nat.le_trans (fenced.clock generation member) moved.clock
  increasing := fenced.increasing

theorem Fenced.issue (fenced : node.Fenced) (newer : ∀ earlier ∈ node.issued, earlier < generation)
    (reached : generation ≤ node.ledger.state.lastGeneration) :
    ({ node with issued := generation :: node.issued } : Node).Fenced :=
  { fenced with
    clock := List.forall_mem_cons.mpr ⟨reached, fenced.clock⟩
    increasing := List.pairwise_cons.mpr ⟨newer, fenced.increasing⟩ }

theorem Fenced.written (fenced : node.Fenced) (persist : Persist) (mutation : Mutation) :
    validateDiskState (node.written persist mutation) = .ok () ∧
      Follows node.ledger.state (node.written persist mutation) := by
  unfold Node.written
  split
  · exact ⟨fenced.file, fenced.follows⟩
  split
  · next sightings after mutated =>
    obtain ⟨⟨-, valid⟩, isMutated⟩ := (Ledger.mutate_meets true mutation).of_eq mutated
    exact ⟨valid, isMutated.follows⟩
  · exact ⟨fenced.file, fenced.follows⟩

/-- The two ways a mutation ends for a node: it fails and the memory stays, or it succeeds, and the
file and the memory are one. -/
theorem perform_mutate (node : Node) (persist : Persist) (mutation : Mutation) :
    (∃ error, node.perform (.mutate persist mutation) =
      (.error error, { node with disk := node.written persist mutation })) ∨
    ∃ sightings after, Mutated node.ledger mutation sightings after ∧
      validateDiskState after.state = .ok () ∧
      node.perform (.mutate persist mutation) =
        (.ok sightings, { node with ledger := after, disk := after.state }) := by
  cases mutated : node.ledger.mutate (persist = .written) mutation with
  | mk answer after =>
    have meets := (Ledger.mutate_meets _ mutation).of_eq mutated
    simp only [perform, mutated]
    cases answer with
    | error error =>
      obtain rfl : after = node.ledger := meets
      exact .inl ⟨error, rfl⟩
    | ok sightings =>
      obtain ⟨⟨persisted, valid⟩, isMutated⟩ := meets
      obtain rfl : persist = .written := of_decide_eq_true persisted
      refine .inr ⟨sightings, after, isMutated, valid, ?_⟩
      simp only [decide_true] at mutated
      simp [Node.written, mutated]

/-- A call that only reads shows entries of the memory. -/
theorem answerBinding_shows {outcome : Except LedgerError Binding}
    (answered : answerBinding outcome = .ok sightings)
    (found : ∀ binding, outcome = .ok binding → ∃ entry,
      state.routes.lookup routeID = some entry ∧ binding = bindingFromDisk entry) :
    ∀ sighting ∈ sightings, Shows state sighting := by
  cases outcome with
  | error error => cases answered
  | ok binding =>
    cases answered
    obtain ⟨entry, present, rfl⟩ := found binding rfl
    exact List.forall_mem_singleton.mpr (shows_of_lookup present)

theorem resolveCurrent_ok {projectID sandboxID : String} {state : RouteState} {binding : Binding} :
    ledger.resolveCurrent routeID projectID sandboxID generation state = .ok binding →
    ∃ entry, ledger.state.routes.lookup routeID = some entry ∧ binding = bindingFromDisk entry := by
  fun_cases Ledger.resolveCurrent ledger routeID projectID sandboxID generation state with
  | case7 _ _ entry present =>
    rintro ⟨⟩
    exact ⟨entry, present, rfl⟩
  | _ => rintro ⟨⟩

theorem list_shows {routes : List Route} (listed : ledger.list = .ok routes) :
    ∀ route ∈ routes, Shows ledger.state ⟨route, none⟩ := by
  unfold Ledger.list at listed
  split at listed
  · cases listed
  cases listed
  intro route member
  obtain ⟨⟨routeID, entry⟩, inTable, rfl⟩ := List.mem_map.mp member
  exact ⟨routeID, entry, AList.mem_lookup_iff.mpr inTable, rfl, nofun⟩

theorem acquireOperation_meets {projectID sandboxID : String} :
    ledger.Meets (fun result after => ∃ entry, ledger.closed = false ∧
      ledger.state.routes.lookup routeID = some entry ∧
      (entry.projectID = projectID ∧ entry.sandboxID = sandboxID ∧
        entry.generation = generation) ∧ entry.state = .ready ∧
      result = (bindingFromDisk entry, ⟨routeID, projectID, sandboxID, generation⟩) ∧
      after = ledger.withCount ⟨routeID, projectID, sandboxID, generation⟩
        (ledger.leaseCount ⟨routeID, projectID, sandboxID, generation⟩ + 1))
      (ledger.acquireOperation routeID projectID sandboxID generation) := by
  fun_cases Ledger.acquireOperation ledger routeID projectID sandboxID generation with
  | case8 _ isOpen entry present identity sameGeneration isReady =>
    push Not at identity
    exact ⟨entry, by simpa using isOpen, present,
      ⟨identity.1, identity.2, not_not.mp sameGeneration⟩, not_not.mp isReady, rfl, rfl⟩
  | _ => rfl

/-- The node after one more lease. -/
def lend (node : Node) (key : OperationKey) : Node :=
  { node with
    ledger := node.ledger.withCount key (node.ledger.leaseCount key + 1)
    leases := node.leases ++ [⟨key, none⟩] }

/-- An operation is refused, or it gets a lease on an assignment that is ready. -/
theorem perform_acquire (node : Node) (routeID projectID sandboxID : String) (generation : Nat) :
    (∃ error, node.perform (.acquire routeID projectID sandboxID generation) =
      (.error error, node)) ∨
    ∃ entry, node.ledger.closed = false ∧ node.ledger.state.routes.lookup routeID = some entry ∧
      (entry.projectID = projectID ∧ entry.sandboxID = sandboxID ∧
        entry.generation = generation) ∧ entry.state = .ready ∧
      node.perform (.acquire routeID projectID sandboxID generation) =
        (.ok [(bindingFromDisk entry).sighting],
          node.lend ⟨routeID, projectID, sandboxID, generation⟩) := by
  cases acquired : node.ledger.acquireOperation routeID projectID sandboxID generation with
  | mk outcome after =>
    have meets := acquireOperation_meets.of_eq acquired
    simp only [perform, acquired]
    cases outcome with
    | error error =>
      obtain rfl : after = node.ledger := meets
      exact .inl ⟨error, rfl⟩
    | ok result =>
      obtain ⟨entry, isOpen, present, identity, ready, rfl, rfl⟩ := meets
      exact .inr ⟨entry, isOpen, present, identity, ready, rfl⟩

theorem releaseOperation_meets (key : OperationKey) :
    ledger.Meets (fun _ after => after.state = ledger.state) (ledger.releaseOperation key) := by
  fun_cases Ledger.releaseOperation ledger key <;> rfl

theorem close_meets (ledger : Ledger) :
    ledger.Meets (fun _ after => after.state = ledger.state) ledger.close := by
  fun_cases Ledger.close ledger <;> rfl

/-- A call without a result shows nothing. -/
theorem nothing_shown {outcome : Except LedgerError Unit}
    (answered : (outcome.map fun _ => []) = .ok sightings) : sightings = [] := by
  cases outcome with
  | error error => cases answered
  | ok value =>
    cases answered
    rfl

theorem release_keeps (node : Node) (number : Nat) :
    (node.release number).2.ledger.state = node.ledger.state ∧
      (node.release number).2.disk = node.disk ∧
      ∀ sightings, (node.release number).1 = .ok sightings → sightings = [] := by
  unfold Node.release
  split
  · exact ⟨rfl, rfl, nofun⟩
  split
  · exact ⟨rfl, rfl, fun _ => nothing_shown⟩
  · exact ⟨(releaseOperation_meets _).sameState, rfl, fun _ => nothing_shown⟩

theorem Fenced.congr {other : Node} (fenced : node.Fenced)
    (memory : other.ledger.state = node.ledger.state) (file : other.disk = node.disk)
    (seen : other.seen = node.seen) (issued : other.issued = node.issued) : other.Fenced := by
  obtain ⟨⟨_, activeOperations, closed⟩, _, leases, _, _⟩ := other
  dsimp only at memory file seen issued
  subst memory file seen issued
  exact { fenced with }

theorem step_eq {after : Node} {event : NodeEvent} {answer : Answer}
    (performed : node.perform event = (answer, after)) :
    node.step event = { after with
      seen := answer.toOption.getD [] ++ node.seen
      issued := allocated event answer ++ node.issued } := by
  simp only [step, performed]

theorem Fenced.look {after : Node} {event : NodeEvent} {answer : Answer} (fenced : node.Fenced)
    (performed : node.perform event = (answer, after))
    (allocatesNothing : allocated event answer = [])
    (memory : after.ledger.state = node.ledger.state) (file : after.disk = node.disk)
    (shown : ∀ sightings, answer = .ok sightings →
      ∀ sighting ∈ sightings, Shows node.ledger.state sighting) : (node.step event).Fenced := by
  have shownNow : ∀ sighting ∈ answer.toOption.getD [], Shows node.ledger.state sighting := by
    cases answer with
    | error error => simp [Except.toOption]
    | ok sightings => exact shown sightings rfl
  rw [step_eq performed, allocatesNothing]
  exact (fenced.see shownNow).congr memory file rfl rfl

/-- **Every event keeps a node fenced.** -/
theorem Fenced.step (fenced : node.Fenced) (event : NodeEvent) :
    (node.step event).Fenced := by
  cases event with
  | mutate persist mutation =>
    rcases perform_mutate node persist mutation with
      ⟨error, performed⟩ | ⟨sightings, after, mutated, valid, performed⟩
    · -- The memory stays; only the file may have changed.
      obtain ⟨file, follows⟩ := fenced.written persist mutation
      rw [step_eq performed]
      exact fenced.advance fenced.memory file (.refl _) follows
    · have seen := (fenced.advance valid valid mutated.follows (.refl _)).see mutated.shows
      rw [step_eq performed]
      by_cases allocates : mutation.allocates = true
      · obtain ⟨newer, isIssued⟩ := mutated.allocates allocates
        simp only [allocated, allocates, if_true, isIssued]
        exact seen.issue
          (fun earlier issued => Nat.lt_of_le_of_lt (fenced.clock earlier issued) newer) (le_refl _)
      · simp only [allocated, allocates]
        exact seen
  | resolve routeID =>
    exact fenced.look rfl rfl rfl rfl fun _ answered =>
      answerBinding_shows answered fun _ => Ledger.resolve_ok
  | resolveCurrent routeID projectID sandboxID generation state =>
    exact fenced.look rfl rfl rfl rfl fun _ answered =>
      answerBinding_shows answered fun _ => resolveCurrent_ok
  | list =>
    refine fenced.look rfl rfl rfl rfl fun sightings answered => ?_
    cases listed : node.ledger.list with
    | error error =>
      rw [listed] at answered
      cases answered
    | ok routes =>
      rw [listed] at answered
      cases answered
      intro sighting member
      obtain ⟨route, isListed, rfl⟩ := List.mem_map.mp member
      exact list_shows listed route isListed
  | acquire routeID projectID sandboxID generation =>
    rcases perform_acquire node routeID projectID sandboxID generation with
      ⟨error, performed⟩ | ⟨entry, _, present, _, _, performed⟩
    · refine fenced.look performed rfl rfl rfl ?_
      rintro sightings ⟨⟩
    · refine fenced.look performed rfl rfl rfl ?_
      rintro sightings ⟨⟩
      exact List.forall_mem_singleton.mpr (shows_of_lookup present)
  | release number =>
    obtain ⟨memory, file, nothing⟩ := release_keeps node number
    refine fenced.look rfl rfl memory file fun sightings answered => ?_
    rw [nothing sightings answered]
    simp
  | close =>
    refine fenced.look rfl rfl (close_meets node.ledger).sameState rfl fun sightings answered => ?_
    rw [nothing_shown answered]
    simp
  | reopen =>
    have reopened : ({ node with ledger := ⟨node.disk, ∅, false⟩ } : Node).Fenced :=
      fenced.advance fenced.file fenced.file fenced.follows (.refl _)
    have performed : node.perform .reopen =
        (.ok [], { node with ledger := ⟨node.disk, ∅, false⟩, leases := [] }) := by
      simp only [perform, fenced.file]
    rw [step_eq performed]
    exact reopened.congr rfl rfl rfl rfl

theorem fenced_fresh : fresh.Fenced where
  memory := rfl
  file := rfl
  follows := .refl _
  bounded := nofun
  recalls := nofun
  fixed := nofun
  clock := nofun
  increasing := .nil

theorem fenced_after (events : List NodeEvent) : (after events).Fenced :=
  List.foldlRecOn events step fenced_fresh fun _ fenced event _ => fenced.step event

end Node

/-- **Generations fence assignments.**  Take any sequence of calls and reopenings, with the file
failing at any point of any write.  The generations that `Bind` and `Rebind` return grow strictly.
Whatever calls have returned for one route and one generation, they agree on its sandbox and, while
it was not released, on its engine.  No two unreleased routes share an engine or a sandbox, and the
state in memory is valid. -/
theorem generations_fence (events : List NodeEvent) :
    (Node.after events).issued.Pairwise (· > ·) ∧
    (∀ first ∈ (Node.after events).seen, ∀ second ∈ (Node.after events).seen,
      SameAssignment first second → Agree first second) ∧
    (∀ routeID other entry entry',
      (Node.after events).ledger.state.routes.lookup routeID = some entry →
      (Node.after events).ledger.state.routes.lookup other = some entry' →
      entry.state ≠ .released → entry'.state ≠ .released →
      entry.engineID = entry'.engineID ∨
        (entry.projectID, entry.sandboxID) = (entry'.projectID, entry'.sandboxID) →
      routeID = other) ∧
    validateDiskState (Node.after events).ledger.state = .ok () := by
  have fenced := Node.fenced_after events
  refine ⟨fenced.increasing, fenced.fixed, ?_, fenced.memory⟩
  intro routeID other entry entry' present present' unreleased unreleased' shared
  by_contra different
  obtain ⟨engine, sandbox⟩ := (validateDiskState_sound fenced.memory).distinct present present'
    different unreleased unreleased'
  exact shared.elim engine sandbox

/-! ## Leases -/

theorem Ledger.leaseCount_withCount (ledger : Ledger) (key other : OperationKey) (count : Nat) :
    (ledger.withCount key count).leaseCount other =
      if other = key then count else ledger.leaseCount other := by
  unfold Ledger.leaseCount Ledger.withCount
  split
  · next isZero =>
    split
    · next same =>
      subst same
      simp [isZero]
    · next different => simp [AList.lookup_erase_ne different]
  · split
    · next same =>
      subst same
      simp
    · next different => simp [AList.lookup_insert_ne different]

/-- The route of the operations is ready or draining. -/
def InPlace (state : DiskState) (key : OperationKey) : Prop :=
  ∃ entry, state.routes.lookup key.routeID = some entry ∧ entry.operationKey = key ∧
    (entry.state = .ready ∨ entry.state = .draining)

theorem InPlace.serves {current : DiskEntry} (inPlace : InPlace state key)
    (present : state.routes.lookup key.routeID = some current) :
    current.operationKey = key ∧ (current.state = .ready ∨ current.state = .draining) := by
  obtain ⟨entry, present', serves⟩ := inPlace
  cases present.symm.trans present'
  exact serves

/-- The first release of a lease whose assignment is in place succeeds. -/
theorem releaseOperation_inPlace (isOpen : ledger.closed = false)
    (counted : ledger.leaseCount key ≠ 0) (inPlace : InPlace ledger.state key) :
    ledger.releaseOperation key = (.ok (), ledger.withCount key (ledger.leaseCount key - 1)) := by
  obtain ⟨entry, present, identity, serving⟩ := inPlace
  obtain ⟨count, isCount⟩ : ∃ count, ledger.activeOperations.lookup key = some count := by
    cases found : ledger.activeOperations.lookup key with
    | none => simp [Ledger.leaseCount, found] at counted
    | some count => exact ⟨count, rfl⟩
  have isCount' : ledger.leaseCount key = count := by simp [Ledger.leaseCount, isCount]
  have sameProject : entry.projectID = key.projectID := congrArg OperationKey.projectID identity
  have sameSandbox : entry.sandboxID = key.sandboxID := congrArg OperationKey.sandboxID identity
  have sameGeneration : entry.generation = key.generation :=
    congrArg OperationKey.generation identity
  have stays : ¬(entry.state ≠ .ready ∧ entry.state ≠ .draining) := by
    rintro ⟨notReady, notDraining⟩
    exact serving.elim notReady notDraining
  rw [isCount'] at counted
  simp only [Ledger.releaseOperation, isOpen, isCount, counted, present, sameProject, sameSandbox,
    sameGeneration, stays, isCount', Ledger.withCount, ne_eq, not_true_eq_false, or_self, if_false,
    Bool.false_eq_true]
  by_cases isLast : count = 1
  · simp [isLast]
  · have more : count - 1 ≠ 0 := by omega
    simp [isLast, more]

theorem Mutated.keeps_inPlace {after : Ledger} (mutated : Mutated ledger mutation sightings after)
    (counted : ledger.leaseCount key ≠ 0) (inPlace : InPlace ledger.state key) :
    InPlace after.state key := by
  have ⟨entry, present, identity, serving⟩ := inPlace
  -- A slot that is not the one of the mutation is as it was.
  have elsewhere : ∀ {routeID : String} {generation : Nat} {changed : DiskEntry},
      key.routeID ≠ routeID →
      InPlace (ledger.withRoute generation routeID changed).state key := by
    intro routeID generation changed different
    exact ⟨entry, by rw [Ledger.withRoute_lookup_ne _ _ _ different, present], identity, serving⟩
  cases mutated with
  | @bound routeID projectID sandboxID engineID at_ generation fresh absent =>
    refine elsewhere ?_
    rintro rfl
    rw [present] at absent
    cases absent
  | @rebound routeID engineID state at_ current generation present' standby fresh =>
    refine elsewhere ?_
    rintro rfl
    simpa [standby] using (inPlace.serves present').2
  | @moved routeID current nextState present' allowed idle =>
    by_cases sameSlot : key.routeID = routeID
    · subst sameSlot
      obtain ⟨identity, serving⟩ := inPlace.serves present'
      refine ⟨_, Ledger.withRoute_lookup _ _ _ _, identity, ?_⟩
      have busy : ledger.hasActiveOperations current = true := by
        rw [Ledger.hasActiveOperations, identity]
        simpa [Ledger.leaseCount] using counted
      rcases serving with isReady | isDraining
      · rw [isReady] at allowed
        cases nextState <;> simp_all [allowedTransition, Ledger.movedEntry]
      · rw [isDraining] at allowed
        have kept := idle isDraining
        rw [busy] at kept
        cases nextState <;> simp_all [allowedTransition, Ledger.movedEntry]
    · exact elsewhere sameSlot
  | @touched routeID generation state at_ current present' =>
    by_cases sameSlot : key.routeID = routeID
    · subst sameSlot
      have stillServes := inPlace.serves present'
      exact ⟨_, Ledger.withRoute_lookup _ _ _ _, stillServes⟩
    · exact elsewhere sameSlot
  | @removed routeID state current present' released =>
    have different : key.routeID ≠ routeID := by
      rintro rfl
      simpa [released] using (inPlace.serves present').2
    exact ⟨entry, by rw [Ledger.withoutRoute_lookup_ne _ different, present], identity, serving⟩

namespace Node

/-- The live leases of a kind of operation. -/
def liveCount (node : Node) (key : OperationKey) : Nat :=
  node.leases.countP fun lease => lease.live && lease.key = key

/-- The counts are those of the live leases, and their routes are in place. -/
structure Leased (node : Node) : Prop where
  counts : ∀ key, node.ledger.leaseCount key = node.liveCount key
  inPlace : ∀ key, node.ledger.leaseCount key ≠ 0 → InPlace node.ledger.state key
  closed : node.ledger.closed = true → ∀ key, node.ledger.leaseCount key = 0

theorem Leased.congr {other : Node} (leased : node.Leased) (ledger : other.ledger = node.ledger)
    (leases : other.leases = node.leases) :
    other.Leased := by
  have sameCount : ∀ key, other.liveCount key = node.liveCount key := by
    intro key
    rw [liveCount, leases, liveCount]
  constructor
  · intro key
    rw [ledger, sameCount, leased.counts]
  · rw [ledger]
    exact leased.inPlace
  · rw [ledger]
    exact leased.closed

theorem Leased.counted (leased : node.Leased) (held : node.leases[number]? = some lease)
    (live : lease.live = true) :
    node.ledger.leaseCount lease.key ≠ 0 := by
  rw [leased.counts]
  refine Nat.pos_iff_ne_zero.mp (List.countP_pos_iff.mpr ⟨lease, List.mem_of_getElem? held, ?_⟩)
  simp [live]

theorem Leased.isOpen (leased : node.Leased) (counted : node.ledger.leaseCount key ≠ 0) :
    node.ledger.closed = false := by
  by_contra isClosed
  exact counted (leased.closed (by simpa using isClosed) key)

/-- The node after a lease was given back. -/
def returned (node : Node) (number : Nat) (lease : Lease) : Node :=
  { node with
    ledger := node.ledger.withCount lease.key (node.ledger.leaseCount lease.key - 1)
    leases := node.leases.set number { lease with released := some (.ok ()) } }

/-- The first release of a lease succeeds, and takes one from the counter. -/
theorem Leased.release_live (leased : node.Leased) (held : node.leases[number]? = some lease)
    (live : lease.live = true) :
    node.release number = (.ok [], node.returned number lease) := by
  have counted := leased.counted held live
  have released := releaseOperation_inPlace (leased.isOpen counted) counted
    (leased.inPlace _ counted)
  have unreleased : lease.released = none := by simpa [Lease.live] using live
  simp only [release, held, unreleased, released]
  rfl

theorem release_again (done : ∀ lease, node.leases[number]? = some lease → lease.live = false) :
    (node.release number).2 = node := by
  unfold release
  split
  · rfl
  next lease held =>
  split
  · rfl
  · next unreleased =>
    have isDone := done lease held
    rw [Lease.live, unreleased] at isDone
    cases isDone

theorem liveCount_lend (node : Node) (key other : OperationKey) :
    (node.lend key).liveCount other =
      node.liveCount other + if key = other then 1 else 0 := by
  by_cases same : key = other <;> simp [liveCount, lend, Lease.live, same]

theorem liveCount_returned (held : node.leases[number]? = some lease) (live : lease.live = true)
    (other : OperationKey) :
    (node.returned number lease).liveCount other =
      node.liveCount other - if lease.key = other then 1 else 0 := by
  obtain ⟨inside, isLease⟩ := List.getElem?_eq_some_iff.mp held
  have unreleased : lease.released = none := by simpa [Lease.live] using live
  by_cases same : lease.key = other <;>
    simp [liveCount, returned, List.countP_set, inside, isLease, Lease.live, same, unreleased]

theorem Leased.recount {after : Node} (leased : node.Leased) {count : Nat}
    (ledger : after.ledger = node.ledger.withCount key count)
    (counts : ∀ other, after.liveCount other = if other = key then count else node.liveCount other)
    (isOpen : node.ledger.closed = false) (inPlace : count ≠ 0 → InPlace node.ledger.state key) :
    after.Leased := by
  have sameState : after.ledger.state = node.ledger.state := by rw [ledger]; rfl
  have counter : ∀ other, after.ledger.leaseCount other =
      if other = key then count else node.ledger.leaseCount other := by
    intro other
    rw [ledger, Ledger.leaseCount_withCount]
  constructor
  · intro other
    rw [counter, counts, leased.counts]
  · intro other counted
    rw [sameState]
    rw [counter] at counted
    split at counted
    · next same => exact same ▸ inPlace counted
    · exact leased.inPlace other counted
  · intro isClosed
    have stillOpen : after.ledger.closed = node.ledger.closed := by rw [ledger]; rfl
    rw [stillOpen, isOpen] at isClosed
    cases isClosed

/-- Without a counter in the table no assignment has leases. -/
theorem leaseCount_of_empty (empty : ledger.activeOperations.entries.length = 0)
    (key : OperationKey) : ledger.leaseCount key = 0 := by
  have isEmpty : ledger.activeOperations = ∅ :=
    AList.ext (List.eq_nil_of_length_eq_zero empty)
  simp [Ledger.leaseCount, isEmpty]

/-- Mutations leave counters and leases alone. -/
theorem Leased.mutated (leased : node.Leased) {after : Ledger} (disk : DiskState)
    (mutated : Mutated node.ledger mutation sightings after) :
    ({ node with ledger := after, disk := disk } : Node).Leased := by
  have sameCounts : after.activeOperations = node.ledger.activeOperations ∧
      after.closed = node.ledger.closed := by
    cases mutated <;> exact ⟨rfl, rfl⟩
  have sameCount : ∀ key, after.leaseCount key = node.ledger.leaseCount key := by
    intro key
    rw [Ledger.leaseCount, sameCounts.1, Ledger.leaseCount]
  constructor
  · intro key
    exact (sameCount key).trans (leased.counts key)
  · intro key counted
    rw [sameCount key] at counted
    exact mutated.keeps_inPlace counted (leased.inPlace key counted)
  · intro isClosed key
    rw [sameCount key]
    exact leased.closed (sameCounts.2 ▸ isClosed) key

/-- **Every event keeps the leases and their counters in step.** -/
theorem Leased.step (leased : node.Leased) (fenced : node.Fenced) (event : NodeEvent) :
    (node.step event).Leased := by
  suffices performed : (node.perform event).2.Leased from performed.congr rfl rfl
  cases event with
  | mutate persist mutation =>
    rcases perform_mutate _ persist mutation with
      ⟨error, performed⟩ | ⟨sightings, after, mutated, _, performed⟩
    · rw [performed]
      exact leased.congr rfl rfl
    · rw [performed]
      exact leased.mutated _ mutated
  | resolve routeID => exact leased
  | resolveCurrent routeID projectID sandboxID generation state => exact leased
  | list => exact leased
  | acquire routeID projectID sandboxID generation =>
    rcases perform_acquire node routeID projectID sandboxID generation with
      ⟨error, performed⟩ | ⟨entry, isOpen, present, ⟨rfl, rfl, rfl⟩, isReady, performed⟩
    · rw [performed]
      exact leased
    · rw [performed]
      obtain rfl := (validateDiskState_sound fenced.memory).named present
      refine leased.recount rfl (fun other => ?_) isOpen
        fun _ => ⟨entry, present, rfl, .inl isReady⟩
      rw [liveCount_lend, leased.counts]
      by_cases same : entry.operationKey = other
      · subst same
        simp [DiskEntry.operationKey]
      · have different : ¬ other = entry.operationKey := fun isKey => same isKey.symm
        simp only [DiskEntry.operationKey] at same different
        simp [same, different]
  | release number =>
    by_cases held : ∃ lease, node.leases[number]? = some lease ∧ lease.live = true
    · obtain ⟨lease, held, live⟩ := held
      have counted := leased.counted held live
      simp only [perform, leased.release_live held live]
      refine leased.recount rfl (fun other => ?_) (leased.isOpen counted)
        fun _ => leased.inPlace _ counted
      rw [liveCount_returned held live, leased.counts]
      by_cases same : lease.key = other
      · subst same
        simp
      · have different : ¬ other = lease.key := fun isKey => same isKey.symm
        simp [same, different]
    · have done : ∀ lease, node.leases[number]? = some lease → lease.live = false := by
        intro lease isLease
        by_contra live
        exact held ⟨lease, isLease, by simpa using live⟩
      simp only [perform, release_again done]
      exact leased
  | close =>
    simp only [perform, Ledger.close]
    split
    · exact leased
    split
    · exact leased
    · next none_held =>
      exact ⟨leased.counts, leased.inPlace,
        fun _ key => leaseCount_of_empty (not_not.mp none_held) key⟩
  | reopen =>
    simp only [perform, fenced.file]
    refine ⟨fun key => ?_, fun key counted => ?_, nofun⟩
    · simp [liveCount, Ledger.leaseCount]
    · simp [Ledger.leaseCount] at counted

theorem leased_fresh : fresh.Leased where
  counts := fun key => by simp [liveCount, Ledger.leaseCount, fresh, Ledger.fresh]
  inPlace := fun key counted => by simp [Ledger.leaseCount, fresh, Ledger.fresh] at counted
  closed := nofun

theorem leased_after (events : List NodeEvent) : (after events).Leased :=
  (List.foldlRecOn (motive := fun node => node.Fenced ∧ node.Leased) events step
    ⟨fenced_fresh, leased_fresh⟩ fun _ ⟨fenced, leased⟩ event _ =>
      ⟨fenced.step event, leased.step fenced event⟩).2

/-- While a lease is live, a mutation of its route that succeeds is a touch, or a transition that
leaves the route ready or draining. -/
theorem Leased.mutated_route (leased : node.Leased) (held : node.leases[number]? = some lease)
    (live : lease.live = true) {after : Ledger}
    (mutated : Mutated node.ledger mutation sightings after) :
    (∀ generation state next, mutation = .transition lease.key.routeID generation state next →
      next ≠ .standby ∧ next ≠ .released) ∧
    (∀ generation state engineID at_,
      mutation ≠ .rebind lease.key.routeID generation state engineID at_) ∧
    ∀ generation state, mutation ≠ .remove lease.key.routeID generation state := by
  have counted := leased.counted held live
  have kept := mutated.keeps_inPlace counted (leased.inPlace _ counted)
  cases mutated with
  | bound fresh absent => exact ⟨nofun, nofun, nofun⟩
  | rebound present standby fresh =>
    refine ⟨nofun, ?_, nofun⟩
    rintro generation' state' engineID' at_' ⟨⟩
    simpa using (kept.serves (Ledger.withRoute_lookup _ _ _ _)).2
  | moved present allowed idle =>
    refine ⟨?_, nofun, nofun⟩
    rintro generation state next ⟨⟩
    have serving := (kept.serves (Ledger.withRoute_lookup _ _ _ _)).2
    rcases serving with isReady | isDraining <;> simp_all [Ledger.movedEntry]
  | touched present => exact ⟨nofun, nofun, nofun⟩
  | removed present released =>
    refine ⟨nofun, nofun, ?_⟩
    rintro generation state' ⟨⟩
    obtain ⟨entry, present', -⟩ := kept
    simp at present'

end Node

/-- **Leases protect their assignment.**  After any sequence of calls and reopenings, with leases
released any number of times, the counter of an assignment is the number of its live leases, and an
assignment with a nonzero counter exists as it was, ready or draining.  The first release of a live
lease succeeds, and until then its route cannot be moved to standby or released, rebound or
removed, and the ledger cannot be closed. -/
theorem leases_protect (events : List NodeEvent) :
    (∀ key, (Node.after events).ledger.leaseCount key = (Node.after events).liveCount key) ∧
    (∀ key, (Node.after events).ledger.leaseCount key ≠ 0 →
      InPlace (Node.after events).ledger.state key) ∧
    ∀ number lease, (Node.after events).leases[number]? = some lease → lease.live = true →
      ((Node.after events).perform (.release number)).1 = .ok [] ∧
      (∀ persist generation state next sightings,
        ((Node.after events).perform (.mutate persist
          (.transition lease.key.routeID generation state next))).1 = .ok sightings →
        next ≠ .standby ∧ next ≠ .released) ∧
      (∀ persist generation state engineID at_, ∃ error,
        ((Node.after events).perform (.mutate persist
          (.rebind lease.key.routeID generation state engineID at_))).1 = .error error) ∧
      (∀ persist generation state, ∃ error,
        ((Node.after events).perform (.mutate persist
          (.remove lease.key.routeID generation state))).1 = .error error) ∧
      ∃ error, ((Node.after events).perform .close).1 = .error error := by
  have leased := Node.leased_after events
  have fenced := Node.fenced_after events
  refine ⟨leased.counts, leased.inPlace, fun number lease held live => ⟨?_, ?_, ?_, ?_, ?_⟩⟩
  · exact congrArg Prod.fst (leased.release_live held live)
  · intro persist generation state next sightings answered
    rcases Node.perform_mutate _ persist _ with
      ⟨error, performed⟩ | ⟨shown, after, mutated, _, _⟩
    · rw [performed] at answered
      cases answered
    · exact (leased.mutated_route held live mutated).1 _ _ _ rfl
  · intro persist generation state engineID at_
    rcases Node.perform_mutate _ persist _ with
      ⟨error, performed⟩ | ⟨shown, after, mutated, _, _⟩
    · exact ⟨error, congrArg Prod.fst performed⟩
    · exact absurd rfl ((leased.mutated_route held live mutated).2.1 _ _ _ _)
  · intro persist generation state
    rcases Node.perform_mutate _ persist _ with
      ⟨error, performed⟩ | ⟨shown, after, mutated, _, _⟩
    · exact ⟨error, congrArg Prod.fst performed⟩
    · exact absurd rfl ((leased.mutated_route held live mutated).2.2 _ _)
  · have counted := leased.counted held live
    refine ⟨.activeOperations, ?_⟩
    have someHeld : (Node.after events).ledger.activeOperations.entries.length ≠ 0 :=
      fun empty => counted (Node.leaseCount_of_empty empty _)
    simp only [Node.perform, Ledger.close, leased.isOpen counted, Bool.false_eq_true, if_false,
      if_pos someHeld]
    rfl

end Brezel.Nodeledger
