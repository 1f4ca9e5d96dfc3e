import Brezel.Service.Records.Reconcile

/-!
# Runs and the records

Every entry point keeps the contract of the records (`upheld`), and what the contract assumes of an
access is what the fences exclude (`fenceKept`).  So the contract holds along every run of the
controller from an empty store (`holds_of_run`).

* `quotas_and_single_writers`: the limits are respected, at most one live sandbox mounts a
  workspace, and a workspace that is to be deleted is free and stays free.
* `revisions_version_rows`, `fences_have_owners`: what every run keeps of the rows and the fences.
* `checkpoint_in_use_survives`: when the store answers the lookup of `checkpointInUseLocked`, a
  checkpoint is deleted at the backend only while it is not in use.  `checkpoint_in_use_deleted` is
  a run in which that lookup fails and it is.
-/

namespace Brezel.Service

open Domain Store Monitor

/-! ## The fences along a run -/

/-- Nothing is asked beyond the fence itself, and the calls are on record. -/
def recording (deployment : Deployment) : Setting (List Query) where
  deployment := deployment
  surroundings := recorder
  quiet := False
  drained := False
  ready := False
  drained_tracked := False.elim
  ready_tracked := False.elim

/-- The fences are in order. -/
abbrev Fences (deployment : Deployment) (world : World interface (List Query)) : Prop :=
  ∃ tokens, Invariant (recording deployment).system (recording deployment).discipline world tokens

theorem fenceKept {deployment : Deployment} {world : World interface (List Query)} {thread : Nat}
    {update : Choice → Memory → Memory} {next : Choice → Memory → Code Unit} {choice : Choice}
    (fences : Fences deployment world) (code : world.thread thread = .act update next)
    (admissible : Admissible deployment thread choice world.memory) :
    FenceKept thread world.memory (update choice world.memory) := by
  have taken : Step (recording deployment).system world (.act thread choice)
      { world.setThread thread (next choice world.memory) with
        memory := update choice world.memory } := .act code admissible
  refine ⟨fun key => ((Invariant.healthy fences).1 key).fence, ?_,
    fun key => Setting.row_step fences taken key, ?_⟩
  · intro key isAbsent
    exact (((Invariant.healthy fences).1 key).absent isAbsent).1
  · intro key other isOther isOwned
    have isIn : other ∈ world.memory.inFlight key := by simp [isOwned]
    obtain ⟨sameRow, -⟩ := Setting.inFlight_step fences taken nofun isIn
    refine ⟨?_, sameRow⟩
    rcases Invariant.inner_step fences taken nofun key with same | ⟨actor, _, isAct, _, mine, _⟩
    · exact (congrArg Inner.inFlight same).trans isOwned
    · -- only the owner may touch the fence
      cases isAct
      rcases mine with unowned | owned
      · simp [recording, Setting.discipline, Memory.inner, isOwned] at unowned
      · have isThread : other = thread := by
          simpa [recording, Setting.discipline, Memory.inner, isOwned, eq_comm] using owned
        exact absurd isThread isOther

theorem fences_step {deployment : Deployment} {world after : World interface (List Query)}
    {action : Action interface} (fences : Fences deployment world)
    (taken : Step (system deployment recorder) world action after) : Fences deployment after := by
  have allowed : Allowed (recording deployment).system (recording deployment).discipline world
      action := Setting.allows_unasked id id id world action
  exact (recording deployment).verified.step fences allowed taken

/-! ## The contract along a run -/

/-- What holds of the tables does not depend on the mutations in flight. -/
theorem Sound.restart {limits : Limits} {memory : Memory} (sound : Sound limits memory.records) :
    Sound limits (Memory.boot memory.state).records :=
  ⟨sound.valid, sound.perProject, sound.total, sound.single, sound.free, sound.workspaces,
    sound.automatic⟩

section Upheld

variable [Lookups] {deployment : Deployment}

theorem run_bridges {α : Type} {thread : Nat} {code : Code α}
    (bridges : Bridges deployment thread (fun _ => True) code fun _ _ => True) :
    Bridges deployment thread (fun _ => True) (run code) fun _ _ => True :=
  bridges_bind bridges fun _ => bridges_done

/-- **The controller keeps the contract of the records.** -/
theorem upheld (deployment : Deployment) :
    (contract deployment).Upheld (system deployment recorder) where
  access := by
    intro thread before after log inv effect _
    exact ⟨inv.1.access effect, inv.2.access effect⟩
  call := by
    intro thread query reply records before after inv permitted _ answered _
    cases answered
    exact ⟨inv.1, inv.2.call permitted⟩
  drift := by
    intro _ _ _ _ drifted _
    exact drifted.elim
  restart := by
    intro memory log inv
    exact ⟨inv.1.restart, inv.2.once, inv.2.claimed⟩
  entries := by
    intro program thread records log entry inv
    have bridged : Bridges deployment thread (fun _ => True) program fun _ _ => True := by
      cases entry with
      | createEnvironment projectID requestKey input =>
        exact run_bridges createEnvironment_bridges
      | createConnector projectID requestKey input => exact run_bridges createConnector_bridges
      | createWorkspace projectID requestKey input => exact run_bridges createWorkspace_bridges
      | deleteWorkspace key requestKey => exact run_bridges deleteWorkspace_bridges
      | create projectID requestKey input => exact run_bridges createSandbox_bridges
      | get key => exact run_bridges getSandboxState_bridges
      | pause key requestKey => exact run_bridges pause_bridges
      | resume fuel key requestKey => exact run_bridges resume_bridges
      | delete key requestKey => exact run_bridges delete_bridges
      | checkpoint key requestKey name kind => exact run_bridges checkpoint_bridges
      | deleteCheckpoint key requestKey => exact run_bridges deleteCheckpoint_bridges
      | guest kind key => exact run_bridges guestOperation_bridges
      | reconcile fuel => exact run_bridges reconcile_bridges
    exact Prog.secures_mono (bridged records log trivial) fun _ _ _ _ ends => ends.1

end Upheld

/-- The lookup of `checkpointInUseLocked` does not fail in the thread. -/
def LookupAnswered (thread : Nat) (action : Action interface) : Prop :=
  ∀ choice, action = .act thread choice → choice.usesUnread = false

/-- The fences and the records are in order. -/
structure Orderly [Lookups] (deployment : Deployment) (world : World interface (List Query)) :
    Prop where
  fences : Fences deployment world
  holds : (contract deployment).Holds (system deployment recorder) world

namespace Orderly

variable [Lookups] {deployment : Deployment} {world after : World interface (List Query)}
  {action : Action interface}

theorem initially : Orderly deployment (fresh []) where
  fences := Setting.initially trivial fun _ => rfl
  holds := by
    refine .idle ⟨⟨rfl, fun _ => Nat.zero_le _, Nat.zero_le _, ?_, ?_, ?_, ?_⟩, List.nodup_nil, ?_⟩
    · rintro _ _ _ ⟨_, isRow, _⟩
      cases isRow
    · intro _ _ isStored
      cases isStored
    · intro _ _ isStored
      cases isStored
    · intro _ _ _ _ _ isBound
      cases isBound
    · intro _ isCreated
      cases isCreated

/-- What the contract assumes of an access. -/
theorem given (orderly : Orderly deployment world)
    (taken : Step (system deployment recorder) world action after)
    (answered : ∀ thread, Lookups.answered thread → LookupAnswered thread action) :
    ∀ thread choice update next, action = .act thread choice →
      world.thread thread = .act update next →
      Accessing thread update choice world.memory := by
  rintro thread choice update next rfl isCode
  cases taken with
  | act code admissible =>
    cases code.symm.trans isCode
    refine ⟨fenceKept orderly.fences isCode admissible, fun isAnswered => ?_⟩
    exact answered thread isAnswered choice rfl

theorem step (orderly : Orderly deployment world)
    (taken : Step (system deployment recorder) world action after)
    (answered : ∀ thread, Lookups.answered thread → LookupAnswered thread action)
    (trusted : ∀ thread query reply, action = .call thread query reply → Trusted query reply) :
    Orderly deployment after where
  fences := fences_step orderly.fences taken
  holds := (upheld deployment).holds_step orderly.holds taken (orderly.given taken answered) trusted

/-- **The contract holds along every run from an empty store.** -/
theorem of_run {allowed : World interface (List Query) → Action interface → Prop}
    (answered : ∀ world action, allowed world action → ∀ thread, Lookups.answered thread →
      LookupAnswered thread action)
    (trusted : ∀ world action, allowed world action → ∀ thread query reply,
      action = .call thread query reply → Trusted query reply)
    (reached : Transition.Run (Step (system deployment recorder)) allowed (fresh []) world) :
    Orderly deployment world :=
  reached.invariant initially fun _ _ _ orderly permitted taken =>
    orderly.step taken (answered _ _ permitted) (trusted _ _ permitted)

end Orderly

/-- Lookups of workspaces at the backend respect a relation. -/
@[reducible] def findsUnder (found : String → String → Prop) : Lookups := ⟨fun _ => False, found⟩

/-- Nothing is taken for granted. -/
@[reducible] def anyLookups : Lookups := findsUnder fun _ _ => True

/-- A lookup of a workspace at the backend answers with what a relation holds of. -/
def Finds (found : String → String → Prop) (action : Action interface) : Prop :=
  ∀ thread key name remote, action = .call thread (.workspace key (.find name)) (.ok remote) →
    found name remote.id

theorem trusted_of_finds [Lookups] {action : Action interface}
    (finds : Finds Lookups.found action) :
    ∀ thread query reply, action = .call thread query reply → Trusted query reply := by
  rintro thread query reply rfl
  cases query with
  | workspace key call =>
    cases call with
    | find name =>
      obtain error | remote : Except BackendError RemoteWorkspace := reply
      · trivial
      · exact finds thread key name remote rfl
    | _ => trivial
  | _ => trivial

theorem orderly_of_finds {deployment : Deployment} {world : World interface (List Query)}
    {found : String → String → Prop}
    (reached : Transition.Run (Step (system deployment recorder))
      (fun _ action => Finds found action)
      (fresh []) world) : @Orderly (findsUnder found) deployment world :=
  @Orderly.of_run (findsUnder found) _ _ _ (fun _ _ _ _ impossible => impossible.elim)
    (fun _ _ finds => @trusted_of_finds (findsUnder found) _ finds) reached

theorem orderly_of_run {deployment : Deployment} {world : World interface (List Query)}
    {allowed : World interface (List Query) → Action interface → Prop}
    (reached : Transition.Run (Step (system deployment recorder)) allowed (fresh []) world) :
    @Orderly anyLookups deployment world :=
  orderly_of_finds (reached.mono fun _ _ _ _ _ _ _ _ => trivial)

theorem sound_of_run {deployment : Deployment} {world : World interface (List Query)}
    {allowed : World interface (List Query) → Action interface → Prop}
    (reached : Transition.Run (Step (system deployment recorder)) allowed (fresh []) world) :
    Sound deployment.limits world.memory.records ∧ Logged world.memory.records world.outside := by
  let _ := anyLookups
  exact (orderly_of_run reached).holds.inv

/-! ## Limits and mounts -/

/-- **The limits hold, and a workspace has one writer.**  In every reachable durable state the live
sandboxes of each project and of all projects are within the limits, a workspace is mounted by at
most one live sandbox, and by none when its deletion is intended.  The backend is asked to delete a
workspace only while no live sandbox mounts it, and by its own identifier or by one that a lookup of
its name has found; `found` is any relation that holds of the names and the identifiers of the
lookups in the run. -/
theorem quotas_and_single_writers {deployment : Deployment} {found : String → String → Prop}
    {world : World interface (List Query)}
    (reached : Transition.Run (Step (system deployment recorder))
      (fun _ action => Finds found action)
      (fresh []) world) :
    (∀ projectID, (activeIn world.memory.state projectID).length ≤
      deployment.limits.maxActiveSandboxesPerProject) ∧
    (active world.memory.state).length ≤ deployment.limits.maxActiveSandboxesTotal ∧
    (∀ first second workspace, Mounts world.memory.state first workspace →
      Mounts world.memory.state second workspace → first = second) ∧
    (∀ key workspace, world.memory.state.workspaces.lookup key = some workspace →
      workspace.cleanupTarget = .deleted → Unattached world.memory.state key) ∧
    ∀ thread key backendID reply after,
      Step (system deployment recorder) world
        (.call thread (.workspace key (.delete backendID)) reply) after →
      Unattached world.memory.state key ∧
        ∃ workspace, world.memory.state.workspaces.lookup key = some workspace ∧
          (workspace.backendID = backendID ∨ found workspace.backendName backendID) := by
  have sound := (sound_of_run reached).1
  refine ⟨sound.perProject, sound.total, sound.single, sound.free, ?_⟩
  intro thread key backendID reply after taken
  let _ := findsUnder found
  obtain ⟨workspace, isStored, isIntended, isVolume⟩ :=
    (orderly_of_finds reached).holds.permitted taken
  exact ⟨sound.free key workspace isStored isIntended, workspace, isStored, isVolume⟩

/-! ## Schedules with the calls on record -/

/-- Answers of a healthy outside; the calls are recorded. -/
def recordingResponder (deployment : Deployment) (backend : BackendAnswers) :
    Responder (system deployment recorder) where
  answer log query :=
    match query with
    | .backend key call => some (backend call, .backend key call :: log)
    | .workspace key call => some (healthyWorkspaces call, .workspace key call :: log)
    | .route _ _ => none
    | .guest key operationID => some (true, .guest key operationID :: log)
    | .diverge => none
  sound before query reply after answered := by
    cases query with
    | backend key call =>
      cases answered
      rfl
    | workspace key call =>
      cases answered
      rfl
    | route key request => cases answered
    | guest key operationID =>
      cases answered
      rfl
    | diverge => cases answered

/-- The workspace of the sample runs. -/
def sampleWorkspaceKey : Key := ("project", "wrk_52")

/-- A workspace and two sandboxes are created; the first one mounts the workspace. -/
def mounting : List (Move (system (sampleDeployment false) recorder)) :=
  let responder := recordingResponder (sampleDeployment false) healthyBackend
  starting 0 "0" 1 (.createEnvironment "project" "declaration" sampleEnvironment) 6 responder ++
  starting 5 "5" 1 (.createWorkspace "project" "workspace" ⟨"data"⟩) 7 responder ++
  starting 1 "1" 1 (.create "project" "creation" { sampleInput 0 false with
    workspaceMounts := [⟨sampleWorkspaceKey.2, "/data"⟩] }) 15 responder ++
  starting 2 "2" 1 (.create "project" "creation2" (sampleInput 0 false)) 15 responder

/-- The step looks no workspace up at the backend. -/
def looksNothingUp : Action interface → Bool
  | .call _ (.workspace _ (.find _)) _ => false
  | _ => true

/-- The fourth thread asks for the deletion of the workspace. -/
def deletesWorkspace : Action interface → Bool
  | .call 4 (.workspace key (.delete _)) _ => decide (key = sampleWorkspaceKey)
  | _ => false

theorem finds_of_looksNothingUp {action : Action interface}
    (isSilent : looksNothingUp action = true) :
    Finds (fun _ _ => False) action := by
  rintro thread key name remote rfl
  cases isSilent

/-- Of two live sandboxes one mounts the workspace.  When it is gone, the workspace is deleted under
its own identifier. -/
theorem quotas_and_single_writers_mounted :
    (∃ world : World interface (List Query), (active world.memory.state).length = 2 ∧
      (active world.memory.state).length ≤
        (sampleDeployment false).limits.maxActiveSandboxesTotal ∧
      Mounts world.memory.state sampleKey sampleWorkspaceKey ∧
      ∀ other, Mounts world.memory.state other sampleWorkspaceKey → other = sampleKey) ∧
    ∃ (world after : World interface (List Query)) (backendID : String)
      (reply : Query.Reply (.workspace sampleWorkspaceKey (.delete backendID))),
      Step (system (sampleDeployment false) recorder) world
        (.call 4 (.workspace sampleWorkspaceKey (.delete backendID)) reply) after ∧
      Unattached world.memory.state sampleWorkspaceKey ∧
      ∃ workspace, world.memory.state.workspaces.lookup sampleWorkspaceKey = some workspace ∧
        workspace.backendID = backendID := by
  constructor
  · obtain ⟨world, reached, evaluated⟩ := exists_reached
      (fun _ action => looksNothingUp action = true) (fresh []) mounting
      (fun world => decide ((active world.memory.state).length = 2) &&
        (world.memory.state.row sampleKey).any fun row => !row.state.terminal &&
          row.workspaceMounts.any (·.workspaceID = sampleWorkspaceKey.2)) (by decide +kernel)
    simp only [Bool.and_eq_true, decide_eq_true_eq, Option.any_eq_true, List.any_eq_true,
      Bool.not_eq_true'] at evaluated
    obtain ⟨isCounted, row, present, isLive, mount, isMount, isWorkspace⟩ := evaluated
    have mounts : Mounts world.memory.state sampleKey sampleWorkspaceKey :=
      ⟨row, present, isLive, rfl, mount, isMount, isWorkspace⟩
    obtain ⟨-, total, single, -⟩ := quotas_and_single_writers
      (reached.mono fun _ _ => finds_of_looksNothingUp)
    exact ⟨world, isCounted, total, mounts, fun other others => single _ _ _ others mounts⟩
  · obtain ⟨world, action, after, reached, taken, isCall⟩ := exists_taken
      (fun _ action => looksNothingUp action = true) (fresh [])
      (mounting ++ starting 3 "3" 2 (.delete sampleKey "deletion") 18
        (recordingResponder (sampleDeployment false) healthyBackend) ++
        starting 4 "4" 3 (.deleteWorkspace sampleWorkspaceKey "deletion") 8
          (recordingResponder (sampleDeployment false) healthyBackend))
      (.go 4 (calm 4 "6" 3) (recordingResponder (sampleDeployment false) healthyBackend))
      (fun _ action _ => deletesWorkspace action) (by decide +kernel)
    unfold deletesWorkspace at isCall
    split at isCall
    · next key backendID reply =>
      cases of_decide_eq_true isCall
      obtain ⟨-, -, -, -, deletes⟩ := quotas_and_single_writers
        (reached.mono fun _ _ => finds_of_looksNothingUp)
      obtain ⟨free, workspace, isStored, isVolume⟩ := deletes _ _ _ _ _ taken
      exact ⟨world, after, backendID, reply, taken, free, workspace, isStored,
        isVolume.resolve_right id⟩
    · cases isCall

/-! ## Rows and fences along a run -/

theorem RowKept.trans {first second third : Sandbox} (kept : RowKept first second)
    (keptNext : RowKept second third) : RowKept first third where
  mounts := keptNext.mounts.trans kept.mounts
  revision := by
    rcases kept.revision with rfl | newer
    · exact keptNext.revision
    · exact .inr (newer.trans_le keptNext.revision_le)
  final isTerminal := by
    obtain rfl := kept.final isTerminal
    exact keptNext.final isTerminal

section

variable {deployment : Deployment} {world later : World interface (List Query)} {key : Key}
variable (reached : Transition.Run (Step (system deployment recorder)) (fun _ _ => True) (fresh [])
  world)
include reached

/-- **Revisions version the sandbox rows.**  In every state after a reachable one a row is still
there, with the same mounts, unchanged or with a greater revision, and unchanged if it was terminal.
So a pass that finds the version it has read before finds the same row. -/
theorem revisions_version_rows {row : Sandbox}
    (continued : Transition.Run (Step (system deployment recorder)) (fun _ _ => True) world later)
    (present : world.memory.state.row key = some row) :
    ∃ next, later.memory.state.row key = some next ∧ RowKept row next ∧
      (sameSandboxReconcileVersion next row = true → next = row) := by
  let _ := anyLookups
  have stays : ∃ next, later.memory.records.tables.row key = some next ∧ RowKept row next := by
    induction continued with
    | start => exact ⟨row, present, rfl, .inl rfl, fun _ => rfl⟩
    | next run _ taken ih =>
      obtain ⟨middle, isMiddle, kept⟩ := ih
      have orderly := orderly_of_run (reached.trans run)
      have given := orderly.given taken fun _ impossible => impossible.elim
      rcases orderly.holds.change_of_step taken given with same | ⟨_, effect⟩ | restarted
      · exact ⟨middle, (congrArg (·.tables.row key) same).trans isMiddle, kept⟩
      · obtain ⟨next, isNext, keptNext⟩ := effect.rows.kept key middle isMiddle
        exact ⟨next, isNext, kept.trans keptNext⟩
      · rw [restarted]
        exact ⟨middle, isMiddle, kept⟩
  obtain ⟨next, isNext, kept⟩ := stays
  refine ⟨next, isNext, kept, fun same => kept.revision.resolve_right fun newer => ?_⟩
  exact newer.ne' (revision_of_sameVersion same)

/-- **Fences have owners.**  In every reachable world a fenced sandbox has exactly one owner, whose
call has not returned: no way out of a call leaves a fence behind. -/
theorem fences_have_owners (isFenced : key ∈ world.memory.activeBackendMutations) :
    ∃ thread, world.memory.inFlight key = [thread] ∧ world.thread thread ≠ .ret () := by
  let _ := anyLookups
  obtain ⟨tokens, invariant⟩ := (orderly_of_run reached).fences
  rcases (invariant.agreement.healthy.1 key).fence with ⟨-, unfenced⟩ | ⟨thread, owned, -⟩
  · exact absurd isFenced (of_decide_eq_false unfenced)
  refine ⟨thread, owned, fun returned => ?_⟩
  -- A call that has returned has a free token, and with it nothing.
  have isFree := invariant.code thread
  rw [returned] at isFree
  obtain ⟨_, _, isFocus⟩ :=
    (invariant.agreement.fits thread).claimed key (congrArg List.head? owned)
  rw [show tokens thread = .free from isFree] at isFocus
  cases isFocus

end

/-- A deletion raises the revision when it writes its intent. -/
theorem revisions_version_rows_deletion : ∃ row next : Sandbox,
    RowKept row next ∧ row.revision < next.revision := by
  obtain ⟨world, _, after, reached, taken, evaluated⟩ := exists_taken (fun _ _ => True) (fresh [])
    (deleting 12 7 (recordingResponder (sampleDeployment false) healthyBackend))
    (.go 2 (calm 2 "37" 2) (recordingResponder (sampleDeployment false) healthyBackend))
    (fun world _ after => (world.memory.state.row sampleKey).any fun row =>
      (after.memory.state.row sampleKey).any (row.revision < ·.revision)) (by decide +kernel)
  obtain ⟨row, present, rises⟩ := (Option.any_eq_true _ _).mp evaluated
  obtain ⟨next, isNext, kept, -⟩ :=
    revisions_version_rows reached (.next .start trivial taken) present
  rw [isNext] at rises
  exact ⟨row, next, kept, of_decide_eq_true rises⟩

/-- The deletion has fenced the sandbox. -/
theorem fences_have_owners_deletion : ∃ (world : World interface (List Query)) (thread : Nat),
    world.memory.inFlight sampleKey = [thread] ∧ world.thread thread ≠ .ret () := by
  obtain ⟨world, reached, isFenced⟩ := exists_reached (fun _ _ => True) (fresh [])
    (deleting 12 10 (recordingResponder (sampleDeployment false) healthyBackend))
    (fun world => sampleKey ∈ world.memory.activeBackendMutations) (by decide +kernel)
  exact ⟨world, fences_have_owners reached (of_decide_eq_true isFenced)⟩

/-! ## Checkpoints in use -/

/-- **A checkpoint in use survives, if the store answers.**  A thread whose lookups of the sandboxes
that use a checkpoint are answered asks the backend only for the deletion of a stored checkpoint
that is the source of no live sandbox and whose source sandbox is not live.  Its other lookups may
fail. -/
theorem checkpoint_in_use_survives {deployment : Deployment}
    {world after : World interface (List Query)} {thread : Nat} {source : Key} {ref : String}
    {reply : Query.Reply (.backend source (.deleteCheckpoint ref))}
    (reached : Transition.Run (Step (system deployment recorder))
      (fun _ action => LookupAnswered thread action) (fresh []) world)
    (taken : Step (system deployment recorder) world
      (.call thread (.backend source (.deleteCheckpoint ref)) reply) after) :
    ∃ key checkpoint, world.memory.state.checkpoints.lookup key = some checkpoint ∧
      checkpoint.backendRef = ref ∧ source = (key.1, checkpoint.sourceSandboxID) ∧
      ¬ InUse world.memory.state key checkpoint := by
  let _ : Lookups := ⟨fun other => other = thread, fun _ _ => True⟩
  have orderly : Orderly deployment world := by
    refine .of_run ?_ (fun _ _ _ => trusted_of_finds fun _ _ _ _ _ => trivial) reached
    intro _ _ permitted other isThread
    cases isThread
    exact permitted
  obtain ⟨key, checkpoint, isStored, isRef, isSource, free⟩ := orderly.holds.permitted taken
  exact ⟨key, checkpoint, isStored, isRef, isSource, free rfl⟩

/-- The sample deployment on SQLite. -/
def sqliteDeployment : Deployment := { sampleDeployment false with store := .sqlite }

/-- What an access sees on SQLite when nothing fails. -/
def calmSqlite (thread : Nat) (identifier : String) (now : Time) : Choice :=
  { calm thread identifier now with store := .sqlite }

/-- A thread takes a number of steps in which nothing fails. -/
def steadily (thread : Nat) (identifier : String) (now : Time) (steps : Nat) :
    List (Move (system sqliteDeployment recorder)) :=
  (List.range steps).map fun index =>
    .go thread (calmSqlite thread (identifier ++ toString index) now)
      (recordingResponder sqliteDeployment healthyBackend)

/-- A sandbox is created and a checkpoint of it is taken. -/
def checkpointing : List (Move (system sqliteDeployment recorder)) :=
  .spawn 0 _ (.createEnvironment "project" "declaration" sampleEnvironment) ::
    steadily 0 "0" 1 6 ++
  .spawn 1 _ (.create "project" "creation" (sampleInput 0 false)) :: steadily 1 "1" 1 15 ++
  .spawn 2 _ (.checkpoint sampleKey "checkpoint" "named" .filesystem) :: steadily 2 "2" 2 18

/-- The checkpoint of the sample runs. -/
def sampleCheckpointKey : Key := ("project", "chk_213")

/-- The lookup of `checkpointInUseLocked` does not fail in the step. -/
def unfailing : Action interface → Bool
  | .act _ choice => !choice.usesUnread
  | _ => true

/-- The third thread asks for the deletion of a checkpoint. -/
def deletesCheckpoint : Action interface → Bool
  | .call 3 (.backend _ (.deleteCheckpoint _)) _ => true
  | _ => false

/-- The checkpoint is deleted after its source sandbox. -/
theorem checkpoint_in_use_survives_deletion :
    ∃ (world after : World interface (List Query)) (source : Key) (ref : String)
      (reply : Query.Reply (.backend source (.deleteCheckpoint ref))),
      Step (system sqliteDeployment recorder) world
        (.call 3 (.backend source (.deleteCheckpoint ref)) reply) after ∧
      ∃ key checkpoint, world.memory.state.checkpoints.lookup key = some checkpoint ∧
        checkpoint.backendRef = ref ∧ ¬ InUse world.memory.state key checkpoint := by
  obtain ⟨world, action, after, reached, taken, isCall⟩ := exists_taken
    (fun _ action => unfailing action = true) (fresh [])
    (checkpointing ++
      .spawn 4 _ (.delete sampleKey "deletion") :: steadily 4 "4" 3 18 ++
      .spawn 3 _ (.deleteCheckpoint sampleCheckpointKey "cleaning") :: steadily 3 "3" 4 7)
    (.go 3 (calmSqlite 3 "5" 4) (recordingResponder sqliteDeployment healthyBackend))
    (fun _ action _ => deletesCheckpoint action) (by decide +kernel)
  unfold deletesCheckpoint at isCall
  split at isCall
  · next source ref reply =>
    have answered : Transition.Run (Step (system sqliteDeployment recorder))
        (fun _ action => LookupAnswered 3 action) (fresh []) world := by
      refine reached.mono ?_
      rintro _ _ permitted choice rfl
      simpa [unfailing] using permitted
    obtain ⟨key, checkpoint, isStored, isRef, _, free⟩ :=
      checkpoint_in_use_survives answered taken
    exact ⟨world, after, source, ref, reply, taken, key, checkpoint, isStored, isRef, free⟩
  · cases isCall

/-- **A failed lookup reads as a checkpoint that is not in use.**  The source sandbox of the only
checkpoint is running, the lookup of `checkpointInUseLocked` fails, and the backend is asked to
delete the checkpoint. -/
theorem checkpoint_in_use_deleted :
    ∃ (world after : World interface (List Query)) (source : Key) (ref : String)
      (reply : Query.Reply (.backend source (.deleteCheckpoint ref))),
      Transition.Run (Step (system sqliteDeployment recorder)) (fun _ _ => True) (fresh []) world ∧
      Step (system sqliteDeployment recorder) world
        (.call 3 (.backend source (.deleteCheckpoint ref)) reply) after ∧
      ∀ key checkpoint, world.memory.state.checkpoints.lookup key = some checkpoint →
        InUse world.memory.state key checkpoint := by
  obtain ⟨world, action, after, reached, taken, evaluated⟩ := exists_taken (fun _ _ => True)
    (fresh [])
    (checkpointing ++
      .spawn 3 _ (.deleteCheckpoint sampleCheckpointKey "cleaning") :: steadily 3 "3" 4 3 ++
      .go 3 { calmSqlite 3 "5" 4 with usesFail := true }
        (recordingResponder sqliteDeployment healthyBackend) :: steadily 3 "6" 4 3)
    (.go 3 (calmSqlite 3 "7" 4) (recordingResponder sqliteDeployment healthyBackend))
    (fun world action _ => deletesCheckpoint action &&
      (world.memory.state.row sampleKey).any (·.state = .running) &&
      world.memory.state.checkpoints.entries.all fun pair =>
        pair.1.1 = sampleKey.1 && pair.2.sourceSandboxID = sampleKey.2) (by decide +kernel)
  simp only [Bool.and_eq_true] at evaluated
  obtain ⟨⟨isCall, isRunning⟩, isSource⟩ := evaluated
  unfold deletesCheckpoint at isCall
  split at isCall
  · next source ref reply =>
    refine ⟨world, after, source, ref, reply, reached, taken, fun key checkpoint isStored => ?_⟩
    obtain ⟨row, isRow, isState⟩ := (Option.any_eq_true _ _).mp isRunning
    have isOurs := List.all_eq_true.mp isSource _ (Table.mem_entries_iff.mpr isStored)
    simp only [Bool.and_eq_true, decide_eq_true_eq] at isState isOurs
    refine ⟨sampleKey.2, row, by rw [isOurs.1]; exact isRow, by rw [isState]; rfl, .inr ?_⟩
    exact isOurs.2.symm
  · cases isCall

end Brezel.Service
