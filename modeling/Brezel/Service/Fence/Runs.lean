import Brezel.Service.Fence.Guest
import Brezel.Service.Fence.Reconcile
import Brezel.Service.Fence.Sandboxes
import Brezel.Service.Schedule

/-!
# Runs of the controller

Every entry point is verified (`Setting.verified`), so the discipline holds along every run of the
controller from an empty store (`bare_invariant`).  Two results need no assumption about the
backend or the node.

* `fence_exclusive`: a sandbox has at most one fenced mutation in flight, none while a guest
  operation is admitted, and its row is the fence holder's from the section that sets the fence to
  the section that clears it.
* `cleanup_intent_kept`: a terminal row is final, and a durable intent to clean up decides where
  the sandbox ends, whatever the outside answers, whichever writes fail and wherever the process
  crashes.  `terminal_row_reverted` shows the exception: a state file that was replaced by a write
  that failed.
-/

namespace Brezel.Service

open Domain Store Monitor

variable {thread : Nat} {key : Key} {deployment : Deployment} {before : Sandbox}

namespace Setting

variable {Outside : Type} (setting : Setting Outside)

theorem run_frees {α : Type} {setting : Setting Outside} {code : Code α}
    (verified : setting.Verifies thread code .free fun _ token => token = .free) :
    setting.Frees thread (run code) :=
  verifies_bind verified fun _ _ isFree => isFree

/-- **The controller respects the discipline.** -/
theorem verified : Verified setting.system setting.discipline := by
  refine setting.verified_of_entries fun program thread entry => ?_
  cases entry with
  | createEnvironment projectID idempotencyKey input => exact run_frees createEnvironment_frees
  | createConnector projectID idempotencyKey input => exact run_frees createConnector_frees
  | createWorkspace projectID idempotencyKey input => exact run_frees createWorkspace_frees
  | deleteWorkspace key idempotencyKey => exact run_frees deleteWorkspace_frees
  | create projectID idempotencyKey input => exact run_frees createSandbox_frees
  | get key => exact run_frees getSandboxState_frees
  | pause key idempotencyKey => exact run_frees pause_frees
  | resume fuel key idempotencyKey => exact run_frees (resume_frees fuel)
  | delete key idempotencyKey => exact run_frees delete_frees
  | checkpoint key idempotencyKey name kind => exact run_frees checkpoint_frees
  | deleteCheckpoint key idempotencyKey => exact run_frees deleteCheckpoint_frees
  | guest kind key => exact run_frees guestOperation_frees
  | reconcile fuel => exact run_frees (reconcile_frees fuel)

section Runs

variable {setting : Setting Outside}

theorem initially {outside : Outside} (ambient : setting.surroundings.ambient outside)
    (unrouted : ∀ key, setting.surroundings.route outside key = none) :
    ∃ tokens, Invariant setting.system setting.discipline (fresh outside) tokens := by
  refine ⟨_, .idle ⟨fun key => ⟨.inl ⟨rfl, by simp [discipline, Memory.boot, Memory.inner]⟩,
    fun _ => ⟨rfl, rfl, fun _ => unrouted key⟩, ?_⟩, ambient⟩ (fun _ => rfl) ?_⟩
  · intro sandbox isRow
    cases isRow
  · intro key sandbox isRow
    cases isRow

theorem row_step {world after : World interface Outside} {action : Action interface}
    (holds : ∃ tokens, Invariant setting.system setting.discipline world tokens)
    (taken : Step setting.system world action after) (key : Key) :
    after.memory.state.row key = world.memory.state.row key ∨
      RowChange (world.memory.state.row key) (after.memory.state.row key) := by
  by_cases crashed : action = .crash
  · subst crashed
    cases taken
    exact .inl rfl
  · rcases Invariant.inner_step holds taken crashed key with
      same | ⟨_, _, _, _, _, _, guaranteed⟩
    · exact .inl (congrArg Inner.row same)
    · exact guaranteed.row.imp_right fun changed => changed.2.2

/-- While a thread has fenced a sandbox nobody writes its row, and only the thread itself, inside
the mutex, ends the mutation. -/
theorem inFlight_step {world after : World interface Outside} {action : Action interface}
    (holds : ∃ tokens, Invariant setting.system setting.discipline world tokens)
    (taken : Step setting.system world action after) (running : action ≠ .crash)
    (inFlight : thread ∈ world.memory.inFlight key) :
    after.memory.state.row key = world.memory.state.row key ∧
      (thread ∈ after.memory.inFlight key ∨
        world.holder = some thread ∧ ∃ choice, action = .act thread choice) := by
  rcases Invariant.inner_step holds taken running key with
    same | ⟨actor, choice, isAct, isHolder, mine, _, guaranteed⟩
  · have sameFlight : after.memory.inFlight key = world.memory.inFlight key :=
      congrArg Inner.inFlight same
    exact ⟨congrArg Inner.row same, .inl (sameFlight ▸ inFlight)⟩
  · have isOwner : world.memory.inFlight key = [thread] := by
      rcases ((Invariant.healthy holds).1 key).fence with ⟨unowned, _⟩ | ⟨owner, owned, _, _⟩
      · have isEmpty : world.memory.inFlight key = [] := unowned
        rw [isEmpty] at inFlight
        cases inFlight
      · have isSingle : world.memory.inFlight key = [owner] := owned
        rw [isSingle, List.mem_singleton] at inFlight
        rw [isSingle, inFlight]
    have isActor : actor = thread := by
      rcases mine with unowned | owned
      · simp [discipline, Memory.inner, isOwner] at unowned
      · simpa [discipline, Memory.inner, isOwner, eq_comm] using owned
    subst isActor
    refine ⟨?_, .inr ⟨isHolder, choice, isAct⟩⟩
    rcases guaranteed.row with same | ⟨unowned, _⟩
    · exact same
    · have isEmpty : world.memory.inFlight key = [] := unowned
      rw [isOwner] at isEmpty
      cases isEmpty

/-- Where nothing is asked of the surroundings, every step is allowed. -/
theorem allows_unasked (noisy : ¬ setting.quiet) (undrained : ¬ setting.drained)
    (unready : ¬ setting.ready) (world : World interface Outside) (action : Action interface) :
    Allowed setting.system setting.discipline world action := by
  cases action with
  | note thread label =>
    cases label with
    | cleaningLocked key =>
      exact ⟨fun asked => absurd asked noisy, fun asked => absurd asked undrained⟩
    | observed sandbox => exact fun asked => absurd asked unready
    | admitting key => exact fun asked => absurd asked unready
    | gaveUp key => exact fun asked => absurd asked unready
    | reported key state => exact fun asked => absurd asked undrained
    | missingLocked key => exact fun asked => absurd asked undrained
    | missing key => exact fun asked => absurd asked undrained
  | crash => exact fun _ _ _ asked => absurd asked unready
  | _ => trivial

end Runs

end Setting
variable {world : World interface Unit} {action : Action interface}

/-! ## Nothing is asked of the surroundings -/

/-- Nothing is asked beyond the fence itself. -/
def bare (deployment : Deployment) : Setting Unit where
  deployment := deployment
  surroundings := anything
  quiet := False
  drained := False
  ready := False
  drained_tracked := False.elim
  ready_tracked := False.elim

theorem bare_invariant {allowed : World interface Unit → Action interface → Prop}
    (reached : Transition.Run (Step (system deployment anything)) allowed (fresh ()) world) :
    ∃ tokens, Invariant (bare deployment).system (bare deployment).discipline world tokens :=
  (bare deployment).verified.invariant (Setting.initially trivial fun _ => rfl)
    (fun world action _ _ => Setting.allows_unasked id id id world action) reached

/-! ## Exclusion -/

/-- At most one fenced mutation of a sandbox is in flight, the fence is set exactly then, and no
guest operation is admitted then. -/
structure Exclusive (memory : Memory) (key : Key) : Prop where
  single : (memory.inFlight key).length ≤ 1
  fenced : key ∈ memory.activeBackendMutations ↔ memory.inFlight key ≠ []
  unguested : memory.inFlight key ≠ [] → memory.activeGuestOps key = []

theorem FenceSound.exclusive {memory : Memory} (sound : FenceSound (memory.inner key)) :
    Exclusive memory key := by
  rcases sound with ⟨unowned, unfenced⟩ | ⟨thread, owned, fenced, unguested⟩
  · have isEmpty : memory.inFlight key = [] := unowned
    have isClear : key ∉ memory.activeBackendMutations := of_decide_eq_false unfenced
    exact ⟨by simp [isEmpty], by simp [isEmpty, isClear], fun some => absurd isEmpty some⟩
  · have isSingle : memory.inFlight key = [thread] := owned
    have isSet : key ∈ memory.activeBackendMutations := of_decide_eq_true fenced
    exact ⟨by simp [isSingle], by simp [isSingle, isSet], fun _ => unguested⟩

/-- The thread has fenced the sandbox or is inside the mutex. -/
def InTenure (thread : Nat) (key : Key) (world : World interface Unit) : Prop :=
  thread ∈ world.memory.inFlight key ∨ world.holder = some thread

/-- A step in which the thread does not write the row. -/
def StepWithoutWrite (deployment : Deployment) (thread : Nat) (key : Key)
    (before : World interface Unit) (action : Action interface) (after : World interface Unit) :
    Prop :=
  Step (system deployment anything) before action after ∧
    ∀ choice, action = .act thread choice →
      after.memory.state.row key = before.memory.state.row key

/-- While a thread is inside the mutex nobody else writes a row. -/
theorem holder_step {after : World interface Unit} (holds : ∃ tokens,
      Invariant (bare deployment).system (bare deployment).discipline world tokens)
    (taken : Step (system deployment anything) world action after) (running : action ≠ .crash)
    (isHolder : world.holder = some thread) :
    after.memory.state.row key = world.memory.state.row key ∨
      ∃ choice, action = .act thread choice := by
  rcases Invariant.inner_step holds taken running key with
    same | ⟨actor, choice, isAct, isActor, _, _, _⟩
  · exact .inl (congrArg Inner.row same)
  · obtain rfl : actor = thread := Option.some.inj (isActor.symm.trans isHolder)
    exact .inr ⟨choice, isAct⟩

theorem row_kept_in_tenure {last : World interface Unit}
    (reached : Transition.Run (Step (system deployment anything)) (fun _ action => action ≠ .crash)
      (fresh ()) world) (tenure : Transition.Run (StepWithoutWrite deployment thread key)
      (fun before action => action ≠ .crash ∧ InTenure thread key before) world last) :
    last.memory.state.row key = world.memory.state.row key := by
  suffices kept : Transition.Run (Step (system deployment anything))
      (fun _ action => action ≠ .crash) (fresh ()) last ∧
      last.memory.state.row key = world.memory.state.row key from kept.2
  induction tenure with
  | start => exact ⟨reached, rfl⟩
  | @next before after action _ permitted taken ih =>
    obtain ⟨reachedBefore, same⟩ := ih
    obtain ⟨running, inTenure⟩ := permitted
    refine ⟨.next reachedBefore running taken.1, Eq.trans ?_ same⟩
    rcases inTenure with inFlight | isHolder
    · exact (Setting.inFlight_step (bare_invariant reachedBefore) taken.1 running inFlight).1
    · rcases holder_step (bare_invariant reachedBefore) taken.1 running isHolder with
        kept | ⟨choice, isAct⟩
      · exact kept
      · exact taken.2 choice isAct

/-- **The fence excludes.**  In every state reached without a restart, a sandbox has at most one
fenced mutation in flight, and none while a guest operation is admitted.  While a mutation is in
flight no step changes the row, and only the mutation's own thread ends it.  From the section that
sets the fence to the section that clears it, the row changes only by a write of that thread, so
the write that completes the mutation replaces the row the thread last wrote or read. -/
theorem fence_exclusive {deployment : Deployment} {world : World interface Unit}
    (reached : Transition.Run (Step (system deployment anything)) (fun _ action => action ≠ .crash)
      (fresh ()) world) (key : Key) :
    Exclusive world.memory key ∧
    (∀ thread ∈ world.memory.inFlight key, ∀ action after,
      Step (system deployment anything) world action after →
        after.memory.state.row key = world.memory.state.row key ∧
          (action = .crash ∨ thread ∈ after.memory.inFlight key ∨
            world.holder = some thread ∧ ∃ choice, action = .act thread choice)) ∧
    ∀ thread last, Transition.Run (StepWithoutWrite deployment thread key)
      (fun before action => action ≠ .crash ∧ InTenure thread key before) world last →
        last.memory.state.row key = world.memory.state.row key := by
  have holds := bare_invariant reached
  refine ⟨((Invariant.healthy holds).1 key).fence.exclusive, ?_, ?_⟩
  · intro thread inFlight action after taken
    by_cases crashed : action = .crash
    · subst crashed
      cases taken
      exact ⟨rfl, .inl rfl⟩
    · obtain ⟨same, ends⟩ := Setting.inFlight_step holds taken crashed inFlight
      exact ⟨same, .inr ends⟩
  · intro thread last tenure
    exact row_kept_in_tenure reached tenure

/-- A deletion waits for the backend, with the fence set. -/
theorem fence_exclusive_deletion :
    ∃ world : World interface Unit, world.memory.inFlight sampleKey = [2] ∧
      Exclusive world.memory sampleKey ∧
      ∀ action after, Step (system (sampleDeployment false) anything) world action after →
        after.memory.state.row sampleKey = world.memory.state.row sampleKey := by
  obtain ⟨world, reached, isFenced⟩ := exists_reached (fun _ action => action ≠ .crash) (fresh ())
    (deleting 12 11 (backendResponder (sampleDeployment false) healthyBackend))
    (fun world => world.memory.inFlight sampleKey = [2]) (by decide +kernel)
  have inFlight : world.memory.inFlight sampleKey = [2] := of_decide_eq_true isFenced
  obtain ⟨exclusive, kept, _⟩ := fence_exclusive reached sampleKey
  refine ⟨world, inFlight, exclusive, fun action after taken => ?_⟩
  exact (kept 2 (by simp [inFlight]) action after taken).1

/-! ## Intents to clean up -/

/-- What becomes of a row.  A terminal row stays.  A row with the intent to clean up is being
deleted, is unknown, or has reached its intent, which stays and never turns from deletion into
expiration. -/
structure IntentKept (before after : Sandbox) : Prop where
  final : before.state.terminal = true → after = before
  confined : before.cleanupTarget ≠ .unset →
    (after.cleanupTarget = .deleted ∨ after.cleanupTarget = .expired) ∧
      (after.state = .deleting ∨ after.state = .unknown ∨ after.state = after.cleanupTarget)
  deletion : before.cleanupTarget = .deleted → after.cleanupTarget = .deleted

theorem IntentKept.refl {sandbox : Sandbox} (sound : TargetSound sandbox) :
    IntentKept sandbox sandbox where
  final _ := rfl
  confined isSet := sound.resolve_left isSet
  deletion := id

theorem IntentKept.step {first after : Sandbox} (kept : IntentKept first before)
    (step : RowStep before after) (sound : TargetSound after) : IntentKept first after where
  final isTerminal := by
    have alive := step.alive
    rw [kept.final isTerminal, isTerminal] at alive
    cases alive
  confined isSet := by
    refine sound.resolve_left ?_
    rcases step.target with same | ⟨_, deleted | ⟨expired, _⟩⟩
    · rw [same]
      rcases (kept.confined isSet).1 with deleted | expired
      · simp [deleted]
      · simp [expired]
    · simp [deleted]
    · simp [expired]
  deletion isDeleted := by
    have stillDeleted := kept.deletion isDeleted
    rcases step.target with same | ⟨_, deleted | ⟨_, unlikely⟩⟩
    · exact same.trans stillDeleted
    · exact deleted
    · exact absurd stillDeleted unlikely

theorem RowStep.reaches {after : Sandbox} (step : RowStep before after) (sound : TargetSound after)
    (isSet : before.cleanupTarget ≠ .unset) (ends : after.state.terminal = true) :
    after.state = before.cleanupTarget := by
  rcases step.target with same | ⟨isDeleting, _⟩
  · rcases sound with isUnset | ⟨_, isDeleting | isUnknown | reached⟩
    · exact absurd (same.symm.trans isUnset) isSet
    · rw [isDeleting] at ends
      cases ends
    · rw [isUnknown] at ends
      cases ends
    · exact reached.trans same
  · rw [isDeleting] at ends
    cases ends

theorem intent_step {after : World interface Unit} (holds : ∃ tokens,
      Invariant (bare deployment).system (bare deployment).discipline world tokens)
    (taken : Step (system deployment anything) world action after)
    (isRow : world.memory.state.row key = some before) :
    ∃ sandbox, after.memory.state.row key = some sandbox ∧
      (sandbox = before ∨ RowStep before sandbox) := by
  rcases Setting.row_step holds taken key with same | changed
  · exact ⟨before, same.trans isRow, .inl rfl⟩
  · rw [isRow] at changed
    cases isAfter : after.memory.state.row key with
    | none =>
      rw [isAfter] at changed
      cases changed
    | some sandbox =>
      rw [isAfter] at changed
      exact ⟨sandbox, rfl, .inr changed⟩

theorem bare_targetSound {sandbox : Sandbox} (holds : ∃ tokens,
      Invariant (bare deployment).system (bare deployment).discipline world tokens)
    (isRow : world.memory.state.row key = some sandbox) : TargetSound sandbox :=
  (((Invariant.healthy holds).1 key).present sandbox isRow).1.target

/-- **An intent to clean up is kept.**  Take any run, with any answers from outside, failing writes
and crashes.  However the run continues, a row it has reached stays in the table, a terminal row
stays as it is, and an intent to clean up confines the row and is never given up.  The step that
makes a row with an intent terminal gives it the state that the intent names. -/
theorem cleanup_intent_kept {deployment : Deployment} {world final : World interface Unit}
    (reached : Transition.Run (Step (system deployment anything)) (fun _ _ => True) (fresh ())
      world)
    (continued : Transition.Run (Step (system deployment anything)) (fun _ _ => True) world final)
    {key : Key} {before : Sandbox} (isRow : world.memory.state.row key = some before) :
    ∃ sandbox, final.memory.state.row key = some sandbox ∧ IntentKept before sandbox ∧
      ∀ action after, Step (system deployment anything) final action after →
        ∃ next, after.memory.state.row key = some next ∧
          (sandbox.cleanupTarget ≠ .unset → sandbox.state.terminal = false →
            next.state.terminal = true → next.state = sandbox.cleanupTarget) := by
  have kept : ∃ sandbox, final.memory.state.row key = some sandbox ∧
      IntentKept before sandbox := by
    induction continued with
    | start => exact ⟨before, isRow, .refl (bare_targetSound (bare_invariant reached) isRow)⟩
    | @next middle final action earlier _ taken ih =>
      obtain ⟨sandbox, isSandbox, kept⟩ := ih
      have holds := bare_invariant (reached.trans earlier)
      have holds' := bare_invariant ((reached.trans earlier).next trivial taken)
      obtain ⟨next, isNext, rfl | changed⟩ := intent_step holds taken isSandbox
      · exact ⟨next, isNext, kept⟩
      · exact ⟨next, isNext, kept.step changed (bare_targetSound holds' isNext)⟩
  obtain ⟨sandbox, isSandbox, kept⟩ := kept
  refine ⟨sandbox, isSandbox, kept, ?_⟩
  intro action after taken
  have toFinal := reached.trans continued
  obtain ⟨next, isNext, rfl | changed⟩ := intent_step (bare_invariant toFinal) taken isSandbox
  · refine ⟨next, isNext, fun _ alive ends => ?_⟩
    rw [alive] at ends
    cases ends
  · have sound := bare_targetSound (bare_invariant (toFinal.next trivial taken)) isNext
    exact ⟨next, isNext, fun isSet _ ends => changed.reaches sound isSet ends⟩

/-- A deletion is intended, and then completed. -/
theorem cleanup_intent_kept_deletion :
    ∃ (world final : World interface Unit) (before sandbox : Sandbox),
      world.memory.state.row sampleKey = some before ∧ before.cleanupTarget = .deleted ∧
      final.memory.state.row sampleKey = some sandbox ∧ sandbox.state = .deleted ∧
      IntentKept before sandbox := by
  let responder := backendResponder (sampleDeployment false) healthyBackend
  obtain ⟨world, reached, evaluated⟩ := exists_reached (fun _ _ => True) (fresh ())
    (deleting 12 11 responder)
    (fun world =>
      (world.memory.state.row sampleKey).any (·.cleanupTarget = .deleted) &&
        (world.play (fun _ _ => True) (Move.times 6 (.go 2 (calm 2 "3" 2) responder))).any
          fun final => (final.memory.state.row sampleKey).any (·.state = .deleted))
    (by decide +kernel)
  obtain ⟨isIntended, continues⟩ := Bool.and_eq_true_iff.mp evaluated
  obtain ⟨final, continued, isDeleted⟩ := exists_reached _ _ _ _ continues
  obtain ⟨before, isRow, target⟩ := (Option.any_eq_true _ _).mp isIntended
  obtain ⟨sandbox, isFinalRow, ended⟩ := (Option.any_eq_true _ _).mp isDeleted
  obtain ⟨found, isFound, kept, _⟩ := cleanup_intent_kept reached continued isRow
  obtain rfl : sandbox = found := Option.some.inj (isFinalRow.symm.trans isFound)
  exact ⟨world, final, before, sandbox, isRow, of_decide_eq_true target, isFinalRow,
    of_decide_eq_true ended, kept⟩

/-! ## A state file that is ahead of the memory -/

/-- A step on the file store, with what the state file holds.  A write replaces the file; one that
is refused may have replaced it before it failed, by the state that the access would have written;
and a process that starts reads the file. -/
inductive FiledStep (deployment : Deployment) :
    World interface Unit × State → Action interface → World interface Unit × State → Prop
  | kept {world after : World interface Unit} {action : Action interface} {file : State}
      (taken : Step (system deployment anything) world action after)
      (same : after.memory.state = world.memory.state) (running : action ≠ .crash) :
      FiledStep deployment (world, file) action (after, file)
  | written {world after : World interface Unit} {action : Action interface} {file : State}
      (taken : Step (system deployment anything) world action after)
      (differs : after.memory.state ≠ world.memory.state) :
      FiledStep deployment (world, file) action (after, after.memory.state)
  | replaced {world after : World interface Unit} {file : State} {thread : Nat} {choice : Choice}
      {update : Choice → Memory → Memory} {next : Choice → Memory → Code Unit}
      (code : world.thread thread = .act update next) (refused : choice.fault = .refused)
      (taken : Step (system deployment anything) world (.act thread choice) after) :
      FiledStep deployment (world, file) (.act thread choice)
        (after, (update { choice with fault := .none } world.memory).state)
  | crash {world : World interface Unit} {file : State} :
      FiledStep deployment (world, file) .crash (World.idle (Memory.boot file) world.outside, file)

/-- Every run without restarts is a run on the file store in which no write fails late; then the
file holds what the memory holds. -/
theorem filed_of_run {world after : World interface Unit}
    (taken : Transition.Run (Step (system deployment anything)) (fun _ action => action ≠ .crash)
      world after) (file : State) :
    ∃ later, Transition.Run (FiledStep deployment) (fun _ _ => True) (world, file) (after, later) ∧
      (file = world.memory.state → later = after.memory.state) := by
  classical
  induction taken with
  | start => exact ⟨file, .start, id⟩
  | @next middle after action _ running taken ih =>
    obtain ⟨later, reached, follows⟩ := ih
    by_cases same : after.memory.state = middle.memory.state
    · exact ⟨later, .next reached trivial (.kept taken same running), fun synced =>
        (follows synced).trans same.symm⟩
    · exact ⟨after.memory.state, .next reached trivial (.written taken same), fun _ => rfl⟩

/-- What an access, taken as the next step of a thread, would write if it did not fail. -/
def attempted (world : World interface Unit) (thread : Nat) (choice : Choice) : Option State :=
  match world.thread thread with
  | .act update _ => some (update { choice with fault := .none } world.memory).state
  | _ => none

theorem replaced_of_go {world after : World interface Unit} {file state : State} {choice : Choice}
    {responder : Responder (system deployment anything)} (refused : choice.fault = .refused)
    (moved : world.go thread choice responder = some (action, after))
    (isAttempt : attempted world thread choice = some state) :
    FiledStep deployment (world, file) action (after, state) := by
  have taken := World.go_step moved
  unfold attempted at isAttempt
  split at isAttempt
  · next code =>
    cases isAttempt
    simp only [World.go, code] at moved
    split at moved
    · cases moved
      exact .replaced code refused taken
    · cases moved
  · cases isAttempt

/-- **A state file can lose a terminal row.**  The write that completes a deletion fails after it
has replaced the file, so that the file says deleted; the next write, of an environment, puts the
row back into deletion. -/
theorem terminal_row_reverted : ∃ (world later : World interface Unit × State) (row back : Sandbox),
    Transition.Run (FiledStep (sampleDeployment false)) (fun _ _ => True)
      (fresh (), State.empty) world ∧
    Transition.Run (FiledStep (sampleDeployment false)) (fun _ _ => True) world later ∧
    world.2.row sampleKey = some row ∧ row.state = .deleted ∧
    later.2.row sampleKey = some back ∧ back.state = .deleting := by
  let responder := backendResponder (sampleDeployment false) healthyBackend
  let late := { calm 2 "5" 2 with fault := .refused }
  obtain ⟨world, reached, evaluated⟩ := exists_reached (fun _ action => action ≠ .crash) (fresh ())
    (deleting 12 16 responder)
    (fun world => (attempted world 2 late).any fun file =>
      (file.row sampleKey).any (·.state = .deleted) &&
        (world.go 2 late responder).any fun step =>
          (step.2.play (fun _ action => action ≠ .crash) (.go 2 (calm 2 "6" 2) responder ::
            starting 3 "4" 3 (.createEnvironment "project" "declaration2" sampleEnvironment) 4
              responder)).any fun middle =>
            (middle.go 3 (calm 3 "7" 3) responder).any fun last =>
              decide (middle.memory.state.operations.entries.length ≠
                last.2.memory.state.operations.entries.length) &&
              (last.2.memory.state.row sampleKey).any (·.state = .deleting)) (by decide +kernel)
  simp only [Option.any_eq_true, Bool.and_eq_true, decide_eq_true_eq] at evaluated
  obtain ⟨file, isAttempt, ⟨row, isRow, isDeleted⟩, ⟨action, failed⟩, moved, middle, played,
    ⟨_, last⟩, lastMoved, differs, back, isBack, isDeleting⟩ := evaluated
  obtain ⟨_, before, _⟩ := filed_of_run reached State.empty
  have replaced := before.next trivial (replaced_of_go rfl moved isAttempt)
  obtain ⟨_, continued, _⟩ := filed_of_run (World.run_of_play played) file
  have changed : last.memory.state ≠ middle.memory.state := fun same =>
    differs (by rw [same])
  exact ⟨(failed, file), (last, last.memory.state), row, back, replaced,
    continued.next trivial (.written (World.go_step lastMoved) changed), isRow, isDeleted, isBack,
    isDeleting⟩

end Brezel.Service
