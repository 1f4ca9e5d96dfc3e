import Brezel.Service.Schedule
import Brezel.Warm.Capacity

/-!
# The controller over the pool

`pooled` is a backend for the controller that is the pool: each backend call runs the pool's
operation to its end, on the ledger and the engine.  Between the calls the pool does what it does by
itself, or in calls that a crash cuts short (`BetweenCalls`).

`capacity_recovered_iff` says for every reachable pair of ledgers when a maintenance pass restores
the target: when no slot is held.  `capacity_lost` is a pair in which every sandbox is terminal and
a slot is held: the machine of a sandbox disappeared, the controller recorded the sandbox as failed,
and never called `Delete`.
-/

namespace Brezel.Warm

open Domain Service Monitor

/-! ## The pool as a backend -/

/-- The pool and its engine. -/
abbrev PoolState := Memory × Engine

/-- What the service learns of an error. -/
def PoolError.toBackend : PoolError → BackendError
  | .backend error => error
  | .warmUnavailable => .capacityUnavailable
  | .failed => .failed "warm pool"

/-- What the service learns of a deletion. -/
def deleteReply : Option PoolError → Except BackendError Unit
  | none => .ok ()
  | some error => .error error.toBackend

/-- The answers of the pool to the lifecycle's calls.  Create and Find come with the claims that the
service makes.  The calls that the pool passes on unchanged and that change no slot may be answered
in any way. -/
def poolRespond (config : Config) (before : PoolState) :
    (call : BackendCall) → Except BackendError call.Answer → PoolState → Prop
  | .create request, reply, after => Issued (claimOf request) ∧ ∃ thread result,
      (create config request).outcome ((system config).setting thread) false before.1
        before.2 result
        false after.1 after.2 ∧ reply = result.mapError PoolError.toBackend
  | .find localID projectID, reply, after => Issued ⟨projectID, localID⟩ ∧ ∃ thread result,
      (find config ⟨projectID, localID⟩).outcome ((system config).setting thread) false before.1
        before.2 result false after.1 after.2 ∧ reply = result.mapError PoolError.toBackend
  | .delete backendID, reply, after => ∃ thread result,
      (delete config backendID).outcome ((system config).setting thread) false before.1 before.2
        result false after.1 after.2 ∧ reply = deleteReply result
  | .inspect backendID, reply, after => after.1 = before.1 ∧
      Warm.respond before.2 (.inspect backendID) reply after.2
  | _, _, after => after = before

/-- What the pool does between the service's calls: anything that a run of the pool does, up to a
restart. -/
def BetweenCalls (config : Config) (before after : PoolState) : Prop :=
  ∃ world, Transition.Run (Step (system config)) (fun _ _ => True)
    (World.idle before.1 before.2) world ∧
    after = ((system config).restart world.memory, world.outside)

/-- The pool around the controller. -/
def pooled (config : Config) : Surroundings PoolState where
  respond before query reply after :=
    match query with
    | .backend _ call => poolRespond config before call reply after
    | .diverge => False
    | _ => after = before
  drift := BetweenCalls config
  route _ _ := none
  ambient _ := True
  lawful := False
  nodeID := ""
  drift_route _ := ⟨fun _ => rfl, id⟩
  backend_keeps _ := ⟨fun _ => rfl, id⟩
  workspace_keeps _ := ⟨fun _ => rfl, id⟩
  guest_keeps _ := ⟨fun _ => rfl, id⟩
  resolve_keeps _ := ⟨fun _ => rfl, id⟩
  route_frame impossible := impossible.elim
  unlawful_frame _ _ := ⟨id, fun _ => rfl⟩
  answered impossible := impossible.elim
  removed impossible := impossible.elim
  absent impossible := impossible.elim

/-- A pool without slots. -/
def emptyPool : PoolState := (⟨.empty, [], [], [], [], []⟩, .empty)

/-! ## Reachable pairs -/

variable {config : Config}

/-- What a program of the pool keeps when it runs alone. -/
theorem sound_of_outcome {α : Type} {code : Code α} {post : α → Memory → Engine → Prop}
    {thread : Nat} {before after : PoolState} {result : α}
    (spec : Spec config False thread Nothing code post) (sound : Sound config before.1 before.2)
    (ended : code.outcome ((system config).setting thread) false before.1 before.2 result false
      after.1 after.2) : Sound config after.1 after.2 := by
  have inv : Inv config False before.1 before.2 := ⟨sound, False.elim⟩
  have upheld : Contract.Upheld (system config) (contract config False) := upheld
  have kept := upheld.outcome (fun _ _ _ _ => trivial) (fun _ _ _ _ isCareful => isCareful.elim)
    (spec before.1 before.2 trivial) inv ended
  exact kept.1.1

theorem sound_of_poolRespond {before after : PoolState} {call : BackendCall}
    {reply : Except BackendError call.Answer} (sound : Sound config before.1 before.2)
    (answered : poolRespond config before call reply after) : Sound config after.1 after.2 := by
  cases call with
  | create request =>
    obtain ⟨issued, thread, result, ended, -⟩ := answered
    exact sound_of_outcome
      ((createSandbox_spec issued).bind fun result => handOut_spec _ result) sound ended
  | find localID projectID =>
    obtain ⟨issued, thread, result, ended, -⟩ := answered
    exact sound_of_outcome
      ((findSandbox_spec issued).bind fun result => handOut_spec _ result) sound ended
  | delete backendID =>
    obtain ⟨thread, result, ended, -⟩ := answered
    exact sound_of_outcome (delete_program_spec backendID) sound ended
  | inspect backendID =>
    obtain ⟨sameMemory, sameEngine, -⟩ := answered
    rw [sameMemory, sameEngine]
    exact sound
  | pause backendID kind =>
    have same : after = before := answered
    rwa [same]
  | resume backendID kind remaining =>
    have same : after = before := answered
    rwa [same]
  | checkpoint backendID kind name =>
    have same : after = before := answered
    rwa [same]
  | deleteCheckpoint ref =>
    have same : after = before := answered
    rwa [same]

theorem sound_of_betweenCalls {before after : PoolState} (sound : Sound config before.1 before.2)
    (moved : BetweenCalls config before after) : Sound config after.1 after.2 := by
  obtain ⟨world, reached, rfl⟩ := moved
  have inv : Inv config False before.1 before.2 := ⟨sound, False.elim⟩
  have holds : (contract config False).Holds (system config) world := by
    refine reached.invariant (Contract.Holds.idle inv) fun _ _ _ holds _ taken => ?_
    exact upheld.holds_step holds taken (fun _ _ _ _ _ _ => trivial)
      fun _ _ _ _ isCareful => isCareful.elim
  exact (Inv.restart holds.inv).1

/-- **The pool is sound in every reachable pair.** -/
theorem sound_of_pair {deployment : Deployment}
    {world : World Service.interface PoolState}
    (reached : Transition.Run (Step (Service.system deployment (pooled config))) (fun _ _ => True)
      (Service.fresh emptyPool) world) : Sound config world.outside.1 world.outside.2 := by
  induction reached with
  | start =>
    have initially : Inv config False emptyPool.1 emptyPool.2 := inv_fresh
    exact initially.1
  | @next before after action _ _ taken sound =>
    cases taken with
    | @call thread query next reply outside code answered =>
      cases query with
      | backend key call => exact sound_of_poolRespond sound answered
      | workspace key call =>
        have same : outside = before.outside := answered
        rwa [same]
      | route key request =>
        have same : outside = before.outside := answered
        rwa [same]
      | guest key operationID =>
        have same : outside = before.outside := answered
        rwa [same]
      | diverge => exact answered.elim
    | drift drifted => exact sound_of_betweenCalls sound drifted
    | spawn _ _ => exact sound
    | act _ _ => exact sound
    | lock _ _ => exact sound
    | unlock _ _ => exact sound
    | note _ => exact sound
    | crash => exact sound

/-- **A pass restores the target exactly when no slot is held.**  In every reachable pair, five
minutes after the last reservation, with an engine that answers. -/
theorem capacity_recovered_iff (deployment : Deployment) (config : Config) (thread : Nat)
    (start : Time) {world : World Service.interface PoolState}
    (reached : Transition.Run (Step (Service.system deployment (pooled config))) (fun _ _ => True)
      (Service.fresh emptyPool) world)
    (aged : ∀ row ∈ world.outside.1.ledger.rows, row.state = .creating →
      row.createdAt + seconds (5 * 60) ≤ start) :
    Alone (attended config thread start) (maintain config) (fun done memory' _ =>
      done = true ∧ (availableCount memory' = config.target ↔
        ∀ row ∈ world.outside.1.ledger.rows, ¬ row.Held)) world.outside.1 world.outside.2 := by
  refine (maintain_alone (sound_of_pair reached) aged).mono ?_
  rintro done memory' engine' ⟨isDone, -, counted⟩
  refine ⟨isDone, ?_⟩
  have none : heldCount world.outside.1 = 0 ↔ ∀ row ∈ world.outside.1.ledger.rows, ¬ row.Held := by
    simp [heldCount, List.countP_eq_zero]
  rw [← none]
  omega

/-! ## Played pairs -/

instance (config : Config) (thread : Nat) (choice : interface.Choice) (memory : interface.Memory) :
    Decidable (((system config).setting thread).admits choice memory) :=
  inferInstanceAs (Decidable (Admissible config thread choice memory))

instance (claim : Claim) : Decidable (Issued claim) :=
  decidable_of_iff (validateProjectID claim.projectID = .ok () ∧
      hasStart claim.sandboxID "sbx_" = true)
    ⟨fun ⟨project, sandbox⟩ => ⟨project, sandbox⟩, fun issued => ⟨issued.project, issued.sandbox⟩⟩

/-- The choices of a pool that runs alone. -/
def settle (now : Time) (memory : Memory) : Choice :=
  calm 0 ("p" ++ toString memory.reserved.length ++ "_") now

/-- Run an operation of the pool alone, to its end. -/
def execPool {α : Type} (config : Config) (now : Time) (code : Code α) (state : PoolState) :
    Option (α × PoolState) :=
  match code.exec ((system config).setting 0) (settle now) (answer true) false state.1
      state.2 with
  | some (result, false, memory, engine) => some (result, memory, engine)
  | _ => none

theorem outcome_of_execPool {α : Type} {now : Time} {code : Code α} {before after : PoolState}
    {result : α} (executed : execPool config now code before = some (result, after)) :
    code.outcome ((system config).setting 0) false before.1 before.2 result false after.1
      after.2 := by
  unfold execPool at executed
  split at executed
  · next result' memory engine isExec =>
    cases executed
    exact Prog.outcome_of_exec (fun _ _ _ _ answered => respond_of_answer answered) isExec
  · cases executed

/-- The answer of a pool that runs alone. -/
def poolAnswer (config : Config) (now : Time) (state : PoolState) :
    (call : BackendCall) → Option (Except BackendError call.Answer × PoolState)
  | .create request =>
    if Issued (claimOf request) then
      (execPool config now (create config request) state).map fun ended =>
        (ended.1.mapError PoolError.toBackend, ended.2)
    else none
  | .inspect backendID =>
    (answer true state.2 (.inspect backendID)).map fun answered =>
      (answered.1, (state.1, answered.2))
  | .delete backendID =>
    (execPool config now (delete config backendID) state).map fun ended =>
      (deleteReply ended.1, ended.2)
  | _ => none

/-- The pool answers the backend calls. -/
def pairResponder (deployment : Deployment) (config : Config) (now : Time) :
    Responder (Service.system deployment (pooled config)) where
  answer state query :=
    match query with
    | .backend _ call => poolAnswer config now state call
    | _ => none
  sound before query reply after answered := by
    cases query with
    | backend key call =>
      cases call with
      | create request =>
        simp only [poolAnswer] at answered
        split at answered
        · next issued =>
          obtain ⟨ended, executed, same⟩ := Option.map_eq_some_iff.mp answered
          cases same
          exact ⟨issued, 0, ended.1, outcome_of_execPool executed, rfl⟩
        · cases answered
      | inspect backendID =>
        obtain ⟨reply', isAnswer, same⟩ := Option.map_eq_some_iff.mp answered
        cases same
        exact ⟨rfl, respond_of_answer isAnswer⟩
      | delete backendID =>
        obtain ⟨ended, executed, same⟩ := Option.map_eq_some_iff.mp answered
        cases same
        exact ⟨0, ended.1, outcome_of_execPool executed, rfl⟩
      | find localID projectID => cases answered
      | pause backendID kind => cases answered
      | resume backendID kind remaining => cases answered
      | checkpoint backendID kind name => cases answered
      | deleteCheckpoint ref => cases answered
    | workspace key call => cases answered
    | route key request => cases answered
    | guest key operationID => cases answered
    | diverge => cases answered

/-- The pool does something between the calls. -/
def meanwhile (deployment : Deployment) (config : Config) (moves : List (Move (system config))) :
    Move (Service.system deployment (pooled config)) :=
  .drift
    (fun state => ((World.idle state.1 state.2).play (fun _ _ => True) moves).map fun world =>
      ((system config).restart world.memory, world.outside))
    (fun before after played => by
      obtain ⟨world, isPlayed, rfl⟩ := Option.map_eq_some_iff.mp played
      exact ⟨world, World.run_of_play isPlayed, rfl⟩)

/-- A strict pool of one slot for the sample environment. -/
def sandboxConfig : Config :=
  ⟨1, "template", seconds 3600, seconds 600, ⟨true, none, none⟩, true⟩

/-- The engine loses all machines. -/
def losing (config : Config) : Move (system config) :=
  .drift (fun engine => some { engine with machines := [] })
    (fun before after isLost => by
      cases isLost
      exact .lost [] (List.nil_sublist _))

/-- A sandbox gets a machine from the pool, the machine disappears, and a lookup of the sandbox
records the failure. -/
def disappearing : List (Move (Service.system (sampleDeployment false) (pooled sandboxConfig))) :=
  [meanwhile (sampleDeployment false) sandboxConfig
    (starting sandboxConfig 1 0 .maintain 13 true)] ++
  creating 0 false 12 (pairResponder (sampleDeployment false) sandboxConfig 5) ++
  [meanwhile (sampleDeployment false) sandboxConfig [losing sandboxConfig]] ++
  Service.starting 3 "4" 9 (.get sampleKey) 10
    (pairResponder (sampleDeployment false) sandboxConfig 9)

/-- A sandbox gets the machine of the pool and is deleted, and the engine loses the machine that
replaced it.  A pass restores the target. -/
theorem capacity_recovered_deleted : ∃ world : World Service.interface PoolState,
    Transition.Run (Step (Service.system (sampleDeployment false) (pooled sandboxConfig)))
      (fun _ _ => True) (Service.fresh emptyPool) world ∧
    (world.memory.state.row sampleKey).any (·.state = .deleted) = true ∧
    world.outside.2.machines = [] ∧
    Alone (attended sandboxConfig 0 9) (maintain sandboxConfig)
      (fun done memory' _ => done = true ∧ availableCount memory' = sandboxConfig.target)
      world.outside.1 world.outside.2 := by
  obtain ⟨world, reached, evaluated⟩ := exists_reached (fun _ _ => True) (Service.fresh emptyPool)
    ([meanwhile (sampleDeployment false) sandboxConfig
      (starting sandboxConfig 1 0 .maintain 13 true)] ++
      deleting 12 18 (pairResponder (sampleDeployment false) sandboxConfig 5) ++
      [meanwhile (sampleDeployment false) sandboxConfig [losing sandboxConfig]])
    (fun world => (world.memory.state.row sampleKey).any (·.state = .deleted) &&
      world.outside.2.machines.isEmpty &&
      world.outside.1.ledger.rows.all fun row => row.state = .available) (by decide +kernel)
  simp only [Bool.and_eq_true, List.isEmpty_iff, List.all_eq_true, decide_eq_true_eq] at evaluated
  obtain ⟨⟨isDeleted, noMachine⟩, available⟩ := evaluated
  have restored := capacity_recovered_iff (sampleDeployment false) sandboxConfig 0 9 reached
    fun row isRow isCreating => by simp [available row isRow] at isCreating
  refine ⟨world, reached, isDeleted, noMachine, restored.mono ?_⟩
  rintro done memory' _ ⟨isDone, isTarget⟩
  exact ⟨isDone, isTarget.mpr fun row isRow => by simp [Slot.Held, available row isRow]⟩

/-- **Capacity that is never recovered.**  No request is in flight, every sandbox is terminal, no
slot is being created, and no pass restores the target. -/
theorem capacity_lost : ∃ world : World Service.interface PoolState,
    Transition.Run (Step (Service.system (sampleDeployment false) (pooled sandboxConfig)))
      (fun _ _ => True) (Service.fresh emptyPool) world ∧
    (∀ thread, world.thread thread = .ret ()) ∧
    (∀ entry ∈ world.memory.state.sandboxes.entries, entry.2.state.terminal = true) ∧
    (∀ row ∈ world.outside.1.ledger.rows, row.state ≠ .creating) ∧
    ∀ start, ¬ Alone (attended sandboxConfig 0 start) (maintain sandboxConfig)
      (fun _ memory' _ => availableCount memory' = sandboxConfig.target) world.outside.1
      world.outside.2 := by
  obtain ⟨world, reached, evaluated⟩ := exists_reached (fun _ _ => True) (Service.fresh emptyPool)
    disappearing
    (fun world => world.memory.state.sandboxes.entries.all (fun entry => entry.2.state.terminal) &&
      world.outside.1.ledger.rows.all (fun row => row.state ≠ .creating) &&
      decide (0 < heldCount world.outside.1)) (by decide +kernel)
  simp only [Bool.and_eq_true, List.all_eq_true, decide_eq_true_eq] at evaluated
  obtain ⟨⟨terminal, notCreating⟩, held⟩ := evaluated
  have restarted : Transition.Run
      (Step (Service.system (sampleDeployment false) (pooled sandboxConfig))) (fun _ _ => True)
      (Service.fresh emptyPool) (World.idle (Service.Memory.boot world.memory.state)
        world.outside) :=
    .next reached trivial .crash
  refine ⟨_, restarted, fun _ => rfl, terminal, notCreating, fun start restores => ?_⟩
  have counted : Alone (attended sandboxConfig 0 start) _ _ _ _ :=
    maintain_alone (sound_of_pair restarted) fun row isRow isCreating =>
      absurd isCreating (notCreating row isRow)
  obtain ⟨_, memory', _, isRestored, -, -, isCounted⟩ := restores.exists_both counted
  rw [isRestored] at isCounted
  have none : heldCount world.outside.1 = 0 := Nat.add_eq_left.mp isCounted
  omega

end Brezel.Warm
