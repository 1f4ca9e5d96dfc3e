import Brezel.Library.Monitor.Sections
import Brezel.Library.Table
import Brezel.Service.Fence.Runs

/-!
# What an access may do to the records

The mutex guards the tables and the mutations in flight (`Records`); only the event log is also
written outside of it.  `Effect` says, once for all code, what one access may do to them.

* A sandbox row keeps its mounts and is never removed, and every change of it raises its revision.
  A new row is admitted: the limits leave room for it and its workspaces are ready and free.
* An operation keeps its kind, is never removed and stays succeeded.  While a mutation of its
  sandbox is in flight it does not change.
* A claim of an idempotency key stays bound to its operation, with its digest.
* A workspace keeps the intent to delete it, and the intent is raised only when no live sandbox
  mounts the workspace.

`Permitted` says which outside calls may be made.  A sandbox is created at most once, by the thread
that has it fenced, for a bound claim; a workspace is deleted only when that is intended, under its
own identifier or one that was found under its name; and where the store answers a thread that asks
whether a checkpoint is in use (`Lookups`), it deletes only checkpoints that are not.

`Sound` and `Logged` are what then always holds (`Sound.access`, `Logged.access`).
-/

namespace Brezel.Service

open Domain Store

/-! ## Records -/

/-- The tables, without the event log, and the mutations in flight. -/
structure Records where
  tables : State
  inFlight : Key → List Nat

/-- What the mutex guards of a memory. -/
def Memory.records (memory : Memory) : Records :=
  ⟨{ memory.state with events := [] }, memory.inFlight⟩

/-- The sandboxes that count against the limits. -/
def active (state : State) : List Sandbox :=
  (state.sandboxes.entries.map (·.2)).filter fun sandbox => !sandbox.state.terminal

/-- The sandboxes of a project that count against its limit. -/
def activeIn (state : State) (projectID : String) : List Sandbox :=
  (active state).filter fun sandbox => sandbox.projectID = projectID

/-- A live sandbox mounts the workspace. -/
def Mounts (state : State) (key workspace : Key) : Prop :=
  ∃ sandbox, state.row key = some sandbox ∧ sandbox.state.terminal = false ∧
    key.1 = workspace.1 ∧ ∃ mount ∈ sandbox.workspaceMounts, mount.workspaceID = workspace.2

/-- No live sandbox mounts the workspace. -/
def Unattached (state : State) (workspace : Key) : Prop :=
  ∀ key, ¬ Mounts state key workspace

/-- The key that an automatic standby claims. -/
def automaticKey (lastActive : Time) (revision : Nat) : String :=
  "automatic-standby:" ++ toString lastActive ++ ":" ++ toString revision

/-- The operation is about a workspace or a checkpoint that exists by itself. -/
def beyondSandboxes (kind : String) : Bool :=
  hasStart kind "create_workspace" || hasStart kind "delete_workspace:" ||
    hasStart kind "delete_checkpoint:"

/-! ## Effects -/

/-- What every later row keeps of a row. -/
structure RowKept (before after : Sandbox) : Prop where
  mounts : after.workspaceMounts = before.workspaceMounts
  revision : after = before ∨ before.revision < after.revision
  final : before.state.terminal = true → after = before

/-- A new row finds room, and its workspaces ready and free. -/
structure Admitted (limits : Limits) (before after : State) (key : Key) (row : Sandbox) :
    Prop where
  perProject : (activeIn before key.1).length < limits.maxActiveSandboxesPerProject
  total : (active before).length < limits.maxActiveSandboxesTotal
  mounts : ∀ mount ∈ row.workspaceMounts, Unattached before (key.1, mount.workspaceID) ∧
    ∃ workspace, before.workspaces.lookup (key.1, mount.workspaceID) = some workspace ∧
      workspace.state = .ready
  alone : ∀ other, other ≠ key → after.row other = before.row other
  workspaces : after.workspaces = before.workspaces

/-- What becomes of the sandbox rows. -/
structure RowsKept (limits : Limits) (before after : State) : Prop where
  kept : ∀ key row, before.row key = some row →
    ∃ next, after.row key = some next ∧ RowKept row next
  admitted : ∀ key row, before.row key = none → after.row key = some row →
    Admitted limits before after key row

/-- What stays of an operation. -/
structure OperationKept (inFlight : Key → List Nat) (before after : Operation) : Prop where
  kind : after.kind = before.kind
  resource : before.kind = "create_sandbox" → after.resourceID = before.resourceID
  succeeded : before.state = .succeeded → after.state = .succeeded
  unfenced : after = before ∨ inFlight (before.projectID, before.resourceID) = [] ∨
    beyondSandboxes before.kind = true

/-- Operations stay, each as `OperationKept` allows. -/
def OperationsKept (inFlight : Key → List Nat) (before after : State) : Prop :=
  ∀ key operation, before.operations.lookup key = some operation →
    ∃ next, after.operations.lookup key = some next ∧ OperationKept inFlight operation next

/-- What becomes of the claims.  A new claim of an automatic pause is of a revision that its row
has left behind. -/
structure ClaimsKept (before after : State) : Prop where
  bound : ∀ index id, before.idempotency.lookup index = some id →
    after.idempotency.lookup index = some id ∧
      after.idempotencyDigests.lookup index = before.idempotencyDigests.lookup index
  automatic : ∀ projectID id lastActive revision operationID,
    after.idempotency.lookup
        (projectID, "auto_pause_sandbox:" ++ id, automaticKey lastActive revision) =
      some operationID →
    before.idempotency.lookup
        (projectID, "auto_pause_sandbox:" ++ id, automaticKey lastActive revision) =
      some operationID ∨
    ∃ row, after.row (projectID, id) = some row ∧ revision < row.revision

/-- The state of a workspace fits the intent to delete it. -/
structure WorkspaceSound (workspace : Workspace) : Prop where
  ready : workspace.state = .ready → workspace.cleanupTarget ≠ .deleted
  deleting : workspace.state = .deleting → workspace.cleanupTarget = .deleted

/-- What stays of a workspace.  Once it is to be deleted, a backend identifier stays as well. -/
structure WorkspaceKept (before : State) (key : Key) (workspace next : Workspace) : Prop where
  intended : workspace.cleanupTarget = .deleted → next.cleanupTarget = .deleted
  free : next.cleanupTarget = .deleted →
    workspace.cleanupTarget = .deleted ∨ Unattached before key
  name : next.backendName = workspace.backendName
  identified : workspace.cleanupTarget = .deleted → workspace.backendID ≠ "" →
    next.backendID = workspace.backendID

theorem WorkspaceKept.refl {before : State} {key : Key} (workspace : Workspace) :
    WorkspaceKept before key workspace workspace :=
  ⟨id, .inl, rfl, fun _ _ => rfl⟩

/-- What becomes of the workspaces. -/
structure WorkspacesKept (before after : State) : Prop where
  kept : ∀ key workspace, before.workspaces.lookup key = some workspace →
    ∃ next, after.workspaces.lookup key = some next ∧ WorkspaceKept before key workspace next
  new : ∀ key next, before.workspaces.lookup key = none →
    after.workspaces.lookup key = some next → next.cleanupTarget ≠ .deleted
  sound : ∀ key next, after.workspaces.lookup key = some next →
    before.workspaces.lookup key = some next ∨ WorkspaceSound next

/-- What becomes of the tables. -/
structure Written (limits : Limits) (inFlight : Key → List Nat) (before after : State) : Prop where
  rows : RowsKept limits before after
  operations : OperationsKept inFlight before after
  claims : ClaimsKept before after
  workspaces : WorkspacesKept before after

/-- What one access of a thread may do. -/
structure Effect (limits : Limits) (thread : Nat) (before after : Records) : Prop
    extends Written limits before.inFlight before.tables after.tables where
  foreign : ∀ key other, other ≠ thread → before.inFlight key = [other] →
    after.inFlight key = [other] ∧ after.tables.row key = before.tables.row key
  valid : before.tables.valid = true → after.tables.valid = true

/-! ## Calls -/

/-- The sandboxes whose creation the backend has been asked for. -/
def created (log : List Query) : List Key :=
  log.filterMap fun query =>
    match query with
    | .backend key (.create _) => some key
    | _ => none

/-- The creation of the sandbox is claimed. -/
def CreationClaimed (state : State) (key : Key) : Prop :=
  state.row key ≠ none ∧ ∃ requestKey id operation,
    state.idempotency.lookup (key.1, "create_sandbox", requestKey) = some id ∧
      state.operations.lookup (key.1, id) = some operation ∧
      operation.kind = "create_sandbox" ∧ operation.resourceID = key.2

/-- A live sandbox was restored from the checkpoint or is its source. -/
def InUse (state : State) (key : Key) (checkpoint : Checkpoint) : Prop :=
  ∃ id sandbox, state.row (key.1, id) = some sandbox ∧ sandbox.state.terminal = false ∧
    (sandbox.sourceCheckpointID = key.2 ∨ id = checkpoint.sourceSandboxID)

/-- What is taken for granted: the threads whose lookups of `checkpointInUseLocked` are answered,
and a relation between the names and the identifiers of workspaces that the lookups at the backend
respect. -/
class Lookups where
  answered : Nat → Prop
  found : String → String → Prop

/-- A successful lookup of a workspace at the backend finds what is taken for granted. -/
def Trusted [Lookups] : (query : Query) → query.Reply → Prop
  | .workspace _ (.find name), .ok remote => Lookups.found name (RemoteWorkspace.id remote)
  | _, _ => True

/-- The calls that may be made. -/
def Permitted [Lookups] (thread : Nat) : Query → Records → List Query → Prop
  | .backend key (.create _), records, log =>
    records.inFlight key = [thread] ∧ key ∉ created log ∧ CreationClaimed records.tables key
  | .backend source (.deleteCheckpoint ref), records, _ =>
    ∃ key checkpoint, records.tables.checkpoints.lookup key = some checkpoint ∧
      checkpoint.backendRef = ref ∧ source = (key.1, checkpoint.sourceSandboxID) ∧
      (Lookups.answered thread → ¬ InUse records.tables key checkpoint)
  | .workspace key (.delete backendID), records, _ =>
    ∃ workspace, records.tables.workspaces.lookup key = some workspace ∧
      workspace.cleanupTarget = .deleted ∧
      (workspace.backendID = backendID ∨ Lookups.found workspace.backendName backendID)
  | _, _, _ => True

/-- The calls that may always be made. -/
def harmless : Query → Prop
  | .backend _ (.create _) => False
  | .backend _ (.deleteCheckpoint _) => False
  | .workspace _ (.delete _) => False
  | _ => True

theorem permitted_of_harmless [Lookups] {thread : Nat} {query : Query} (isHarmless : harmless query)
    (records : Records) (log : List Query) : Permitted thread query records log := by
  cases query with
  | backend key call =>
    cases call with
    | create request => exact isHarmless.elim
    | deleteCheckpoint ref => exact isHarmless.elim
    | _ => trivial
  | workspace key call =>
    cases call with
    | delete backendID => exact isHarmless.elim
    | _ => trivial
  | _ => trivial

/-! ## What always holds -/

/-- What always holds of the records. -/
structure Sound (limits : Limits) (records : Records) : Prop where
  valid : records.tables.valid = true
  perProject : ∀ projectID,
    (activeIn records.tables projectID).length ≤ limits.maxActiveSandboxesPerProject
  total : (active records.tables).length ≤ limits.maxActiveSandboxesTotal
  single : ∀ first second workspace, Mounts records.tables first workspace →
    Mounts records.tables second workspace → first = second
  free : ∀ key workspace, records.tables.workspaces.lookup key = some workspace →
    workspace.cleanupTarget = .deleted → Unattached records.tables key
  workspaces : ∀ key workspace, records.tables.workspaces.lookup key = some workspace →
    WorkspaceSound workspace
  automatic : ∀ projectID id lastActive revision operationID,
    records.tables.idempotency.lookup
        (projectID, "auto_pause_sandbox:" ++ id, automaticKey lastActive revision) =
      some operationID →
    ∃ row, records.tables.row (projectID, id) = some row ∧ revision < row.revision

/-- What always holds of the calls that were made. -/
structure Logged (records : Records) (log : List Query) : Prop where
  once : (created log).Nodup
  claimed : ∀ key ∈ created log, CreationClaimed records.tables key

/-! ## Counting the live sandboxes -/

theorem active_length (state : State) :
    (active state).length = Table.count (fun _ sandbox => !sandbox.state.terminal)
      state.sandboxes := by
  simp [active, Table.count, List.countP_eq_length_filter, List.filter_map, Function.comp_def]

theorem row_keyed {state : State} (isValid : state.valid = true) {key : Key} {row : Sandbox}
    (present : state.row key = some row) : sandboxKey row = key := by
  have isSound := State.valid_row isValid present
  simp only [State.validSandbox, Bool.and_eq_true, State.scopedIdentity_iff] at isSound
  exact isSound.1.1.2.2.2.symm

theorem activeIn_length {state : State} (isValid : state.valid = true) (projectID : String) :
    (activeIn state projectID).length =
      Table.count (fun key sandbox => key.1 = projectID && !sandbox.state.terminal)
        state.sandboxes := by
  simp only [activeIn, active, Table.count, List.countP_eq_length_filter, List.filter_map,
    List.length_map, List.filter_filter, Function.comp_def]
  refine congrArg List.length (List.filter_congr fun entry member => ?_)
  rw [← congrArg Prod.fst (row_keyed isValid (Table.mem_entries_iff.mp member))]
  rfl

/-! ## The invariant is kept -/

variable {limits : Limits} {before after : State}

theorem RowKept.revision_le {row next : Sandbox} (kept : RowKept row next) :
    row.revision ≤ next.revision := by
  rcases kept.revision with rfl | newer
  · exact le_rfl
  · exact Nat.le_of_lt newer

theorem RowsKept.live (rows : RowsKept limits before after) {key : Key} {row : Sandbox}
    (present : after.row key = some row) (isLive : row.state.terminal = false) :
    Admitted limits before after key row ∨
      ∃ old, before.row key = some old ∧ old.state.terminal = false ∧
        row.workspaceMounts = old.workspaceMounts := by
  cases isOld : before.row key with
  | none => exact .inl (rows.admitted key row isOld present)
  | some old =>
    obtain ⟨next, isNext, kept⟩ := rows.kept key old isOld
    cases isNext.symm.trans present
    refine .inr ⟨old, rfl, ?_, kept.mounts⟩
    cases wasTerminal : old.state.terminal with
    | false => rfl
    | true => rw [kept.final wasTerminal, wasTerminal] at isLive; cases isLive

theorem RowsKept.count_le (rows : RowsKept limits before after) (among : Key → Bool) {limit : Nat}
    (bounded : Table.count (fun key sandbox => among key && !sandbox.state.terminal)
      before.sandboxes ≤ limit)
    (room : ∀ key row, Admitted limits before after key row → among key = true →
      Table.count (fun key sandbox => among key && !sandbox.state.terminal)
        before.sandboxes < limit) :
    Table.count (fun key sandbox => among key && !sandbox.state.terminal) after.sandboxes ≤
      limit := by
  by_cases isAdmission : ∃ key row, Admitted limits before after key row ∧ among key = true
  · obtain ⟨key, row, admitted, isAmong⟩ := isAdmission
    have grown := Table.count_le (fun key sandbox => among key && !sandbox.state.terminal)
      before.sandboxes after.sandboxes [key] ?_
    · have roomy := room key row admitted isAmong
      simp only [List.length_singleton] at grown
      omega
    · intro other next present isCounted
      by_cases isKey : other = key
      · exact .inl (by simp [isKey])
      · exact .inr ⟨next, (admitted.alone other isKey).symm.trans present, isCounted⟩
  · have kept := Table.count_le (fun key sandbox => among key && !sandbox.state.terminal)
      before.sandboxes after.sandboxes [] ?_
    · exact Nat.le_trans kept bounded
    · intro key row present isCounted
      simp only [Bool.and_eq_true, Bool.not_eq_true'] at isCounted
      rcases rows.live present isCounted.2 with admitted | ⟨old, isOld, isLive, -⟩
      · exact absurd ⟨key, row, admitted, isCounted.1⟩ isAdmission
      · exact .inr ⟨old, isOld, by simp [isCounted.1, isLive]⟩

theorem RowsKept.mounts (rows : RowsKept limits before after) {key workspace : Key}
    (mounts : Mounts after key workspace) :
    Mounts before key workspace ∨ before.row key = none ∧ Unattached before workspace ∧
      (∀ other, other ≠ key → after.row other = before.row other) ∧
      after.workspaces = before.workspaces ∧
      ∃ found, before.workspaces.lookup workspace = some found ∧ found.state = .ready := by
  obtain ⟨row, present, isLive, isProject, mount, isMount, isWorkspace⟩ := mounts
  obtain ⟨projectID, workspaceID⟩ := workspace
  cases isProject
  cases isWorkspace
  cases isOld : before.row key with
  | none =>
    have admitted := rows.admitted key row isOld present
    obtain ⟨free, isReady⟩ := admitted.mounts mount isMount
    exact .inr ⟨rfl, free, admitted.alone, admitted.workspaces, isReady⟩
  | some old =>
    obtain ⟨next, isNext, kept⟩ := rows.kept key old isOld
    cases isNext.symm.trans present
    refine .inl ⟨old, isOld, ?_, rfl, mount, kept.mounts ▸ isMount, rfl⟩
    cases wasTerminal : old.state.terminal with
    | false => rfl
    | true => rw [kept.final wasTerminal, wasTerminal] at isLive; cases isLive

namespace Sound

variable {records next : Records} {thread : Nat}

theorem single_access (sound : Sound limits records) (effect : Effect limits thread records next)
    {first second workspace : Key} (left : Mounts next.tables first workspace)
    (right : Mounts next.tables second workspace) : first = second := by
  rcases effect.rows.mounts left with wasLeft | ⟨leftNew, free, alone, -, -⟩
  · rcases effect.rows.mounts right with wasRight | ⟨-, free, -, -, -⟩
    · exact sound.single first second workspace wasLeft wasRight
    · exact (free first wasLeft).elim
  · by_contra different
    obtain ⟨row, present, isLive, isProject, isMount⟩ := right
    rw [alone second (Ne.symm different)] at present
    exact free second ⟨row, present, isLive, isProject, isMount⟩

theorem free_access (sound : Sound limits records) (effect : Effect limits thread records next)
    {key : Key} {workspace : Workspace}
    (present : next.tables.workspaces.lookup key = some workspace)
    (intended : workspace.cleanupTarget = .deleted) : Unattached next.tables key := by
  intro holder mounts
  cases isOld : records.tables.workspaces.lookup key with
  | none => exact effect.workspaces.new key workspace isOld present intended
  | some old =>
    obtain ⟨kept, isKept, keeps⟩ := effect.workspaces.kept key old isOld
    cases isKept.symm.trans present
    rcases effect.rows.mounts mounts with wasMounted | ⟨-, -, -, same, found, isFound, isReady⟩
    · rcases keeps.free intended with wasIntended | free
      · exact sound.free key old isOld wasIntended holder wasMounted
      · exact free holder wasMounted
    · -- an admission leaves the workspaces alone, and this one was ready
      rw [same, isFound] at present
      cases present
      exact (sound.workspaces key workspace isFound).ready isReady intended

/-- **Every access keeps the records sound.** -/
theorem access (sound : Sound limits records) (effect : Effect limits thread records next) :
    Sound limits next where
  valid := effect.valid sound.valid
  perProject projectID := by
    rw [activeIn_length (effect.valid sound.valid)]
    refine effect.rows.count_le (fun key => key.1 = projectID) ?_ ?_
    · rw [← activeIn_length sound.valid]
      exact sound.perProject projectID
    · intro key row admitted isProject
      rw [← activeIn_length sound.valid, ← of_decide_eq_true isProject]
      exact admitted.perProject
  total := by
    have same : ∀ state : State, (active state).length =
        Table.count (fun _ sandbox => true && !sandbox.state.terminal) state.sandboxes :=
      active_length
    rw [same]
    refine effect.rows.count_le (fun _ => true) ?_ ?_
    · rw [← same]
      exact sound.total
    · intro key row admitted _
      rw [← same]
      exact admitted.total
  single _ _ _ left right := sound.single_access effect left right
  free _ _ present intended := sound.free_access effect present intended
  workspaces key workspace present := by
    rcases effect.workspaces.sound key workspace present with isOld | isSound
    · exact sound.workspaces key workspace isOld
    · exact isSound
  automatic projectID id lastActive revision operationID isBound := by
    rcases effect.claims.automatic projectID id lastActive revision operationID isBound with
      wasBound | left
    · obtain ⟨row, isRow, isBehind⟩ :=
        sound.automatic projectID id lastActive revision operationID wasBound
      obtain ⟨kept, isKept, keeps⟩ := effect.rows.kept _ row isRow
      exact ⟨kept, isKept, Nat.lt_of_lt_of_le isBehind keeps.revision_le⟩
    · exact left

end Sound

theorem CreationClaimed.kept {records next : Records} {thread : Nat} {key : Key}
    (claimed : CreationClaimed records.tables key) (effect : Effect limits thread records next) :
    CreationClaimed next.tables key := by
  obtain ⟨isPresent, requestKey, id, operation, isBound, isStored, isKind, isResource⟩ := claimed
  obtain ⟨row, isRow⟩ := Option.ne_none_iff_exists'.mp isPresent
  obtain ⟨_, isKept, -⟩ := effect.rows.kept key row isRow
  obtain ⟨kept, isStored', keeps⟩ := effect.operations _ operation isStored
  exact ⟨by simp [isKept], requestKey, id, kept, (effect.claims.bound _ id isBound).1, isStored',
    keeps.kind.trans isKind, (keeps.resource isKind).trans isResource⟩

theorem Logged.access {records next : Records} {thread : Nat} {log : List Query}
    (logged : Logged records log) (effect : Effect limits thread records next) :
    Logged next log :=
  ⟨logged.once, fun key isCreated => (logged.claimed key isCreated).kept effect⟩

theorem Logged.call [Lookups] {records : Records} {thread : Nat} {query : Query} {log : List Query}
    (logged : Logged records log) (permitted : Permitted thread query records log) :
    Logged records (query :: log) := by
  cases query with
  | backend key call =>
    cases call with
    | create request =>
      obtain ⟨-, isNew, claimed⟩ := permitted
      refine ⟨List.nodup_cons.mpr ⟨isNew, logged.once⟩, ?_⟩
      intro other isCreated
      rcases List.mem_cons.mp isCreated with rfl | wasCreated
      · exact claimed
      · exact logged.claimed other wasCreated
    | _ => exact ⟨logged.once, logged.claimed⟩
  | _ => exact ⟨logged.once, logged.claimed⟩

end Brezel.Service
