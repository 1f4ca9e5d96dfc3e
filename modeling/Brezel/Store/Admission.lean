import Brezel.Store.Mutation

/-!
# The admission indexes do not drift

A mutation of the ledger maintains the counters of sandboxes, workspaces and environments and the
table of active mounts: it takes every changed row out as it was, and then puts it in as it is.

`Indexes.Tracks rows` says that the indexes are what the rows call for: every counter is the number
of rows it counts, and the mount table lists the mounts of the active sandboxes.  The passes of a
mutation are described by what they do to the reading of every counter (`Counter`), so that the
order of the changes drops out.

* `sync_ok`: a mutation between ledgers with exclusive mounts succeeds, in every order.
* `sync_indexed`: a mutation that succeeds leaves indexes that track the rows.
* `admission_indexes_exact`: so they do after any sequence of calls.
-/

namespace Brezel.Store

open Domain Table

variable {detail projectID : String} {sandbox : Sandbox} {key : Key}
  {row : Option Workspace} {order : Iteration}

/-! ## Readings -/

/-- A counter, and the project it is for. -/
inductive Counter
  | sandbox (projectID : String)
  | resource (kind : ResourceKind) (projectID : String)
  deriving DecidableEq

variable {amount amount' : Counter → Nat}

/-- What a counter reads; an absent one reads zero. -/
def Indexes.reading (indexes : Indexes) : Counter → Nat
  | .sandbox projectID => readCapacity indexes.sandboxCapacity projectID
  | .resource kind projectID => readCapacity (indexes.named kind) projectID

variable {after before indexes : Indexes}

/-- The sandbox adds to the counter. -/
def countsSandbox (counter : Counter) (_ : Key) (sandbox : Sandbox) : Bool :=
  match counter with
  | .sandbox projectID => sandboxCountsTowardCapacity sandbox.state &&
      (projectID = totalSandboxCapacityKey || projectID = sandbox.projectID)
  | _ => false

/-- The workspace adds to the counter. -/
def countsWorkspace (counter : Counter) (_ : Key) (workspace : Workspace) : Bool :=
  workspaceCountsTowardCapacity workspace.state &&
    counter = .resource .workspace workspace.projectID

/-- The environment adds to the counter. -/
def countsEnvironment (counter : Counter) (_ : Key) (environment : Environment) : Bool :=
  counter = .resource .environment environment.projectID

theorem readCapacity_insert (capacity : Capacity) (projectID other : String) (count : Nat) :
    readCapacity (capacity.insert projectID count) other =
      if other = projectID then count else readCapacity capacity other := by
  unfold readCapacity
  split
  · next same => rw [same, AList.lookup_insert, Option.getD_some]
  · next different => rw [AList.lookup_insert_ne different]

/-- A counter changes unless it would become negative. -/
theorem changeCapacity_ok {capacity after : Capacity} {delta : Int} :
    changeCapacity detail capacity projectID delta = .ok after ↔
      0 ≤ (readCapacity capacity projectID : Int) + delta ∧
        after = capacity.insert projectID (readCapacity capacity projectID + delta).toNat := by
  simp only [changeCapacity]
  split
  · next negative => simp [Int.not_le.mpr negative]
  · next nonnegative => simp [Int.not_lt.mp nonnegative, eq_comm]

/-! ## Passes -/

/-- What a pass over the indexes does: it moves every counter by that many times the given amount
and edits the mounts.  It succeeds unless a counter would become negative or the edit fails. -/
structure Passes (delta : Int) (amount : Counter → Nat)
    (edit : AList (fun _ : Key => Key) → Option (AList fun _ : Key => Key))
    (pass : Indexes → Except SyncError Indexes) : Prop where
  succeeds : ∀ before,
    (∀ counter, 0 ≤ (before.reading counter : Int) + delta * amount counter) →
    edit before.activeWorkspaceMounts ≠ none → ∃ after, pass before = .ok after
  reading : ∀ {before after}, pass before = .ok after → ∀ counter,
    (after.reading counter : Int) = before.reading counter + delta * amount counter
  mounts : ∀ {before after}, pass before = .ok after →
    edit before.activeWorkspaceMounts = some after.activeWorkspaceMounts
  heads : ∀ {before after}, pass before = .ok after →
    after.lifecycleOperationHeads = before.lifecycleOperationHeads

section Passes

variable {delta : Int}

/-- What is not counted moves nothing. -/
theorem Passes.zero (isZero : ∀ counter, amount counter = 0) : Passes delta amount some .ok := by
  refine ⟨fun before _ _ => ⟨before, rfl⟩, ?_, ?_, ?_⟩
  · rintro before _ ⟨⟩ counter
    simp [isZero]
  · rintro before _ ⟨⟩
    rfl
  · rintro before _ ⟨⟩
    rfl

/-- Counting, and then editing the mounts. -/
theorem Passes.edit {change : AList (fun _ : Key => Key) → Option (AList fun _ : Key => Key)}
    {counting pass : Indexes → Except SyncError Indexes}
    (counts : Passes delta amount some counting) (isPass : ∀ {before after},
      pass before = .ok after ↔ ∃ counted, counting before = .ok counted ∧
        ∃ mounts, change counted.activeWorkspaceMounts = some mounts ∧
          { counted with activeWorkspaceMounts := mounts } = after) :
    Passes delta amount change pass := by
  refine ⟨fun before covered editable => ?_, ?_, ?_, ?_⟩
  · obtain ⟨counted, isCounted⟩ := counts.succeeds before covered (Option.some_ne_none _)
    obtain ⟨mounts, edited⟩ := Option.ne_none_iff_exists'.mp editable
    rw [Option.some.inj (counts.mounts isCounted)] at edited
    exact ⟨_, isPass.mpr ⟨counted, isCounted, mounts, edited, rfl⟩⟩
  all_goals
    intro before after passed
    obtain ⟨counted, isCounted, mounts, edited, rfl⟩ := isPass.mp passed
  · intro counter
    have read := counts.reading isCounted counter
    rcases counter with projectID | ⟨_ | _, projectID⟩
    all_goals exact read
  · rwa [Option.some.inj (counts.mounts isCounted)]
  · exact (counts.heads isCounted :)

/-- **The rule for a loop**: the amounts add up, and the edits follow one another. -/
theorem Passes.foldlM {Item : Type} {pass : Indexes → Item → Except SyncError Indexes}
    {amount : Item → Counter → Nat}
    (edits : List Item → AList (fun _ : Key => Key) → Option (AList fun _ : Key => Key))
    (none_ : ∀ mounts, edits [] mounts = some mounts)
    (append : ∀ item rest mounts, edits (item :: rest) mounts =
      (edits [item] mounts).bind (edits rest)) {items : List Item}
    (passes : ∀ item ∈ items, Passes delta (amount item) (edits [item]) (pass · item)) :
    Passes delta (fun counter => (items.map (amount · counter)).sum) (edits items)
      (items.foldlM pass ·) := by
  induction items with
  | nil =>
    rw [show edits [] = some from funext none_]
    exact .zero fun _ => rfl
  | cons item rest ih =>
    obtain ⟨first, later⟩ := List.forall_mem_cons.mp passes
    have rest_ := ih later
    simp only [List.foldlM_cons, List.map_cons, List.sum_cons]
    refine ⟨fun before covered editable => ?_, ?_, ?_, ?_⟩
    · rw [append] at editable
      obtain ⟨mounts, edited⟩ := Option.ne_none_iff_exists'.mp editable
      obtain ⟨middle, isMiddle, edited⟩ := Option.bind_eq_some_iff.mp edited
      push_cast [mul_add] at covered
      have partly : ∀ counter,
          0 ≤ (before.reading counter : Int) + delta * amount item counter := by
        intro counter
        have total := covered counter
        rcases le_total 0 delta with up | down
        · have given := mul_nonneg up (Int.natCast_nonneg (amount item counter))
          omega
        · have taken := mul_nonpos_of_nonpos_of_nonneg down
            (Int.natCast_nonneg (rest.map (amount · counter)).sum)
          push_cast at taken
          omega
      obtain ⟨between, passed⟩ := first.succeeds before partly (by simp [isMiddle])
      cases isMiddle.symm.trans (first.mounts passed)
      obtain ⟨after, passed'⟩ := rest_.succeeds between (fun counter => by
        push_cast [first.reading passed counter]
        linarith [covered counter]) (by simp [edited])
      exact ⟨after, bind_ok.mpr ⟨between, passed, passed'⟩⟩
    all_goals
      intro before after passed
      obtain ⟨middle, passed, passed'⟩ := bind_ok.mp passed
    · intro counter
      rw [rest_.reading passed', first.reading passed]
      push_cast
      ring
    · rw [append, first.mounts passed, Option.bind_some, rest_.mounts passed']
    · rw [rest_.heads passed', first.heads passed]

end Passes

/-! ## Counting by a difference -/

theorem weight_active (active : sandboxCountsTowardCapacity sandbox.state = true) (key : Key)
    (projectID : String) :
    weight (countsSandbox (.sandbox projectID)) key (some sandbox) =
      if projectID = totalSandboxCapacityKey ∨ projectID = sandbox.projectID then 1 else 0 := by
  simp [weight, countsSandbox, active]

theorem countSandbox_passes (named : sandbox.projectID ≠ totalSandboxCapacityKey) (key : Key)
    (delta : Int) : Passes delta (fun counter => weight (countsSandbox counter) key (some sandbox))
      some (countSandbox delta · sandbox) := by
  by_cases active : sandboxCountsTowardCapacity sandbox.state = true
  case neg =>
    simp only [countSandbox, active, if_false, Bool.false_eq_true]
    exact .zero fun counter => by cases counter <;> simp [weight, countsSandbox, active]
  have isBind (before : Indexes) : countSandbox delta before sandbox =
      (changeSandboxCapacity before.sandboxCapacity totalSandboxCapacityKey delta >>=
        fun capacity =>
        (changeSandboxCapacity capacity sandbox.projectID delta).map
          fun capacity => { before with sandboxCapacity := capacity }) := by
    rw [countSandbox, if_pos active]
    cases changeSandboxCapacity before.sandboxCapacity totalSandboxCapacityKey delta <;> rfl
  simp only [isBind, changeSandboxCapacity]
  constructor
  · intro before covered _
    have total := covered (.sandbox totalSandboxCapacityKey)
    have project := covered (.sandbox sandbox.projectID)
    simp only [weight_active active, Indexes.reading, true_or, or_true, if_true, Nat.cast_one,
      mul_one] at total project
    refine ⟨_, bind_ok.mpr ⟨_, changeCapacity_ok.mpr ⟨total, rfl⟩,
      map_ok.mpr ⟨_, changeCapacity_ok.mpr ⟨?_, rfl⟩, rfl⟩⟩⟩
    rwa [readCapacity_insert, if_neg named]
  all_goals
    intro before after passed
    obtain ⟨_, changedTotal, passed⟩ := bind_ok.mp passed
    obtain ⟨_, changedProject, rfl⟩ := map_ok.mp passed
  · obtain ⟨total, rfl⟩ := changeCapacity_ok.mp changedTotal
    obtain ⟨project, rfl⟩ := changeCapacity_ok.mp changedProject
    rintro (projectID | ⟨kind, projectID⟩)
    · simp only [Indexes.reading, readCapacity_insert, weight_active active] at project ⊢
      grind
    · cases kind <;> simp [Indexes.reading, Indexes.named, weight, countsSandbox]
  · rfl
  · rfl

theorem changeNamedCapacity_passes (kind : ResourceKind) (projectID : String) (delta : Int) :
    Passes delta (fun counter => if counter = .resource kind projectID then 1 else 0) some
      (changeNamedCapacity · kind projectID delta) := by
  simp only [changeNamedCapacity]
  constructor
  · intro before covered _
    have own := covered (.resource kind projectID)
    simp only [if_true, Nat.cast_one, mul_one, Indexes.reading] at own
    exact ⟨_, map_ok.mpr ⟨_, changeCapacity_ok.mpr ⟨own, rfl⟩, rfl⟩⟩
  all_goals
    intro before after passed
    obtain ⟨_, changed, rfl⟩ := map_ok.mp passed
    obtain ⟨own, rfl⟩ := changeCapacity_ok.mp changed
  · rintro (other | ⟨otherKind, other⟩)
    · cases kind <;> simp [Indexes.reading, Indexes.withNamed]
    · cases kind <;> cases otherKind <;>
        simp only [Indexes.reading, Indexes.named, Indexes.withNamed, readCapacity_insert] at own ⊢
      all_goals grind
  · cases kind <;> rfl
  · cases kind <;> rfl

/-! ## Counted resources -/

/-- The row is under its own key. -/
def RowNamed {Row : Type} (identity : Row → Key) (key : Key) (row : Option Row) : Prop :=
  ∀ present, row = some present → key = identity present

/-- The key of an environment. -/
def environmentKey (environment : Environment) : Key :=
  (environment.projectID, environment.revisionID)

theorem RowNamed.absent {Row : Type} (identity : Row → Key) (key : Key) :
    RowNamed identity key none := by
  rintro row ⟨⟩

namespace ResourceChange

/-- The rows of the change are under their own keys. -/
def Named : ResourceChange → Prop
  | .workspace change =>
    RowNamed workspaceKey change.key change.before ∧ RowNamed workspaceKey change.key change.after
  | .environment change => RowNamed environmentKey change.key change.before ∧
      RowNamed environmentKey change.key change.after

/-- What a counter loses when the old row is taken out. -/
def taken (counter : Counter) : ResourceChange → Nat
  | .workspace change => weight (countsWorkspace counter) change.key change.before
  | .environment change => weight (countsEnvironment counter) change.key change.before

/-- What a counter gains when the new row is put in. -/
def given (counter : Counter) : ResourceChange → Nat
  | .workspace change => weight (countsWorkspace counter) change.key change.after
  | .environment change => weight (countsEnvironment counter) change.key change.after

end ResourceChange

theorem weight_workspace (workspace : Workspace) (key : Key) (counter : Counter) :
    weight (countsWorkspace counter) key (some workspace) =
      if workspaceCountsTowardCapacity workspace.state then
        if counter = .resource .workspace workspace.projectID then 1 else 0
      else 0 := by
  by_cases counts : workspaceCountsTowardCapacity workspace.state = true <;>
    simp [weight, countsWorkspace, counts]

theorem weight_environment (environment : Environment) (key : Key) (counter : Counter) :
    weight (countsEnvironment counter) key (some environment) =
      if counter = .resource .environment environment.projectID then 1 else 0 := by
  simp [weight, countsEnvironment]

theorem countWorkspace_passes (named : RowNamed workspaceKey key row) (detail : String)
    (delta : Int) : Passes delta (fun counter => weight (countsWorkspace counter) key row) some
      (countWorkspace detail delta · key row) := by
  cases row with
  | none => exact .zero fun _ => rfl
  | some workspace =>
    have isKey : key = (workspace.projectID, workspace.id) := named workspace rfl
    simp only [countWorkspace, isKey, ne_eq, not_true_eq_false, if_false, weight_workspace]
    by_cases counts : workspaceCountsTowardCapacity workspace.state = true
    · simp only [counts, if_true]
      exact changeNamedCapacity_passes .workspace workspace.projectID delta
    · simp only [counts, if_false, Bool.false_eq_true]
      exact .zero fun _ => rfl

theorem countEnvironment_passes {row : Option Environment} (named : RowNamed environmentKey key row)
    (detail : String) (delta : Int) :
    Passes delta (fun counter => weight (countsEnvironment counter) key row) some
      (countEnvironment detail delta · key row) := by
  cases row with
  | none => exact .zero fun _ => rfl
  | some environment =>
    have isKey : key = (environment.projectID, environment.revisionID) := named environment rfl
    simp only [countEnvironment, isKey, ne_eq, not_true_eq_false, if_false, weight_environment]
    exact changeNamedCapacity_passes .environment environment.projectID delta

section Resources

variable {resources : List ResourceChange} (named : ∀ change ∈ resources, change.Named)
include named

theorem removeResources_pass :
    Passes (-1) (fun counter => (resources.map (·.taken counter)).sum) some
      (resources.foldlM removeResourceAdmissionIndex ·) := by
  refine Passes.foldlM (fun _ => some) (fun _ => rfl) (fun _ _ _ => rfl) ?_
  rintro (change | change) member
  · exact countWorkspace_passes (named _ member).1 _ _
  · exact countEnvironment_passes (named _ member).1 _ _

theorem addResources_pass :
    Passes 1 (fun counter => (resources.map (·.given counter)).sum) some
      (resources.foldlM addResourceAdmissionIndex ·) := by
  refine Passes.foldlM (fun _ => some) (fun _ => rfl) (fun _ _ _ => rfl) ?_
  rintro (change | change) member
  · exact countWorkspace_passes (named _ member).2 _ _
  · exact countEnvironment_passes (named _ member).2 _ _

end Resources

/-! ## Sandboxes -/

/-- The row is under its own key, and its project is not the key of the total. -/
def SandboxNamed (key : Key) (row : Option Sandbox) : Prop :=
  ∀ sandbox, row = some sandbox →
    key = sandboxKey sandbox ∧ sandbox.projectID ≠ totalSandboxCapacityKey

theorem SandboxNamed.absent (key : Key) : SandboxNamed key none := by
  rintro sandbox ⟨⟩

/-- Both rows of the change are under their own keys. -/
def SandboxChangeNamed (change : Change Key Sandbox) : Prop :=
  SandboxNamed change.key change.before ∧ SandboxNamed change.key change.after

/-- The mounts of a row that may be absent. -/
def mountRowsOf (key : Key) : Option Sandbox → List (Key × Key)
  | none => []
  | some sandbox => mountRows key sandbox

/-- What the change takes from the counter. -/
def sandboxTaken (counter : Counter) (change : Change Key Sandbox) : Nat :=
  weight (countsSandbox counter) change.key change.before

/-- What the change adds to the counter. -/
def sandboxGiven (counter : Counter) (change : Change Key Sandbox) : Nat :=
  weight (countsSandbox counter) change.key change.after

/-- The mounts after the changes. -/
def newMounts (sandboxes : List (Change Key Sandbox)) : List (Key × Key) :=
  sandboxes.flatMap fun change => mountRowsOf change.key change.after

section SandboxPasses

variable {sandboxes : List (Change Key Sandbox)}
variable (named : ∀ change ∈ sandboxes, SandboxChangeNamed change)
include named

/-- Taking out sandboxes forgets their mounts. -/
theorem removeSandboxes_pass :
    Passes (-1) (fun counter => (sandboxes.map (sandboxTaken counter)).sum)
      (fun mounts => some (Table.filter (fun _ owner => owner ∉ sandboxes.map Change.key) mounts))
      (sandboxes.foldlM removeSandboxAdmissionIndexes ·) := by
  refine Passes.foldlM (fun sandboxes mounts => some
    (Table.filter (fun _ owner => owner ∉ sandboxes.map Change.key) mounts)) ?_ ?_ ?_
  · intro mounts
    simp [Table.filter, Table.filterMap, Option.map]
  · intro change rest mounts
    simp only [Table.filter, Table.filterMap, List.filterMap_filterMap, Option.bind_some]
    refine congrArg some (AList.ext (List.filterMap_congr fun entry _ => ?_))
    by_cases own : entry.2 = change.key <;> simp [own]
  intro change member
  have isNamed := (named change member).1
  simp only [removeSandboxAdmissionIndexes, sandboxTaken]
  cases row : change.before with
  | none =>
    refine Passes.edit (.zero fun _ => rfl) ?_
    simp [map_ok]
  | some sandbox =>
    obtain ⟨isKey, hasProject⟩ := isNamed sandbox row
    refine Passes.edit (countSandbox_passes hasProject change.key (-1)) ?_
    simp [map_ok, isKey]

theorem addSandboxes_pass :
    Passes 1 (fun counter => (sandboxes.map (sandboxGiven counter)).sum)
      (insertFresh · (newMounts sandboxes)) (sandboxes.foldlM addSandboxAdmissionIndexes ·) := by
  refine Passes.foldlM (fun sandboxes mounts => insertFresh mounts (newMounts sandboxes))
    (fun _ => rfl) ?_ ?_
  · intro change rest mounts
    simp [newMounts, insertFresh_append]
  intro change member
  have isNamed := (named change member).2
  simp only [addSandboxAdmissionIndexes, sandboxGiven, newMounts, List.flatMap_cons,
    List.flatMap_nil, List.append_nil]
  cases row : change.after with
  | none => exact .zero fun _ => rfl
  | some sandbox =>
    obtain ⟨isKey, hasProject⟩ := isNamed sandbox row
    refine Passes.edit (countSandbox_passes hasProject change.key 1) ?_
    intro before after
    simp only [isKey, ne_eq, not_true_eq_false, if_false, mountRowsOf]
    grind

end SandboxPasses

/-! ## All passes -/

/-- What the changes ask of the indexes: the rows to be taken out are counted, and the mounts to be
added are distinct and not those of a sandbox that stays as it is. -/
structure Covers (resources : List ResourceChange) (sandboxes : List (Change Key Sandbox))
    (before : Indexes) : Prop where
  resourcesCounted : ∀ counter, (resources.map (·.taken counter)).sum ≤ before.reading counter
  sandboxesCounted : ∀ counter, (resources.map (·.taken counter)).sum +
    (sandboxes.map (sandboxTaken counter)).sum ≤
      before.reading counter + (resources.map (·.given counter)).sum
  distinct : ((newMounts sandboxes).map Prod.fst).Nodup
  absent : ∀ pair ∈ newMounts sandboxes, ∀ owner,
    before.activeWorkspaceMounts.lookup pair.1 = some owner → owner ∈ sandboxes.map Change.key

/-- The indexes after the passes of a mutation. -/
structure Synced (resources : List ResourceChange) (sandboxes : List (Change Key Sandbox))
    (before after : Indexes) : Prop where
  reading : ∀ counter, after.reading counter + (resources.map (·.taken counter)).sum +
      (sandboxes.map (sandboxTaken counter)).sum =
    before.reading counter + (resources.map (·.given counter)).sum +
      (sandboxes.map (sandboxGiven counter)).sum
  mounts : ∀ mount owner, after.activeWorkspaceMounts.lookup mount = some owner ↔
    (before.activeWorkspaceMounts.lookup mount = some owner ∧ owner ∉ sandboxes.map Change.key) ∨
      (mount, owner) ∈ newMounts sandboxes
  heads : after.lifecycleOperationHeads = before.lifecycleOperationHeads

section Sync

variable {resources : List ResourceChange} {sandboxes : List (Change Key Sandbox)}
variable {before after : Indexes} (resourcesNamed : ∀ change ∈ resources, change.Named)
variable (sandboxesNamed : ∀ change ∈ sandboxes, SandboxChangeNamed change)
include resourcesNamed sandboxesNamed

/-- **The passes succeed only on indexes that cover the changes**, and then they do what the changes
say. -/
theorem sync_effect (synced : before.sync resources sandboxes = .ok after) :
    Covers resources sandboxes before ∧ Synced resources sandboxes before after := by
  simp only [Indexes.sync, bind_ok] at synced
  obtain ⟨first, removedResources, second, addedResources, third, removedSandboxes,
    addedSandboxes⟩ := synced
  have takeResources := removeResources_pass resourcesNamed
  have putResources := addResources_pass resourcesNamed
  have takeSandboxes := removeSandboxes_pass sandboxesNamed
  have putSandboxes := addSandboxes_pass sandboxesNamed
  have leftMounts : ∀ mount owner, third.activeWorkspaceMounts.lookup mount = some owner ↔
      before.activeWorkspaceMounts.lookup mount = some owner ∧
        owner ∉ sandboxes.map Change.key := by
    intro mount owner
    rw [← Option.some.inj (takeSandboxes.mounts removedSandboxes),
      ← Option.some.inj (putResources.mounts addedResources),
      ← Option.some.inj (takeResources.mounts removedResources), lookup_filter,
      Option.filter_eq_some_iff, decide_eq_true_eq]
  have added := inserted_of_insertFresh (putSandboxes.mounts addedSandboxes)
  have taken := takeResources.reading removedResources
  have given := putResources.reading addedResources
  have taken' := takeSandboxes.reading removedSandboxes
  have given' := putSandboxes.reading addedSandboxes
  refine ⟨⟨fun counter => ?_, fun counter => ?_, added.distinct, fun pair member owner held => ?_⟩,
    ⟨fun counter => ?_, fun mount owner => ?_, ?_⟩⟩
  · have read := taken counter
    omega
  · have read := taken counter
    have read' := given counter
    have read'' := taken' counter
    omega
  · by_contra notChanged
    have isAbsent := added.absent pair member
    rw [(leftMounts pair.1 owner).mpr ⟨held, notChanged⟩] at isAbsent
    cases isAbsent
  · have read := taken counter
    have read' := given counter
    have read'' := taken' counter
    have last := given' counter
    omega
  · rw [added.lookup_iff, leftMounts]
  · rw [putSandboxes.heads addedSandboxes, takeSandboxes.heads removedSandboxes,
      putResources.heads addedResources, takeResources.heads removedResources]

/-- **The passes succeed on indexes that cover the changes.** -/
theorem sync_ok (covers : Covers resources sandboxes before) :
    ∃ after, before.sync resources sandboxes = .ok after := by
  have takeResources := removeResources_pass resourcesNamed
  have putResources := addResources_pass resourcesNamed
  have takeSandboxes := removeSandboxes_pass sandboxesNamed
  obtain ⟨first, removedResources⟩ := takeResources.succeeds before
    (fun counter => by have counted := covers.resourcesCounted counter; omega)
    (Option.some_ne_none _)
  obtain ⟨second, addedResources⟩ := putResources.succeeds first (fun counter => by omega)
    (Option.some_ne_none _)
  obtain ⟨third, removedSandboxes⟩ := takeSandboxes.succeeds second (fun counter => by
    have taken := takeResources.reading removedResources counter
    have given := putResources.reading addedResources counter
    have counted := covers.sandboxesCounted counter
    omega) (Option.some_ne_none _)
  -- A mount that is still there belongs to a sandbox that stays as it is.
  have absent : ∀ pair ∈ newMounts sandboxes, third.activeWorkspaceMounts.lookup pair.1 = none := by
    intro pair member
    by_contra held
    obtain ⟨owner, held⟩ := Option.ne_none_iff_exists'.mp held
    rw [← Option.some.inj (takeSandboxes.mounts removedSandboxes),
      ← Option.some.inj (putResources.mounts addedResources),
      ← Option.some.inj (takeResources.mounts removedResources), lookup_filter,
      Option.filter_eq_some_iff, decide_eq_true_eq] at held
    exact held.2 (covers.absent pair member owner held.1)
  obtain ⟨added, isAdded⟩ := insertFresh_ok covers.distinct absent
  obtain ⟨after, addedSandboxes⟩ := (addSandboxes_pass sandboxesNamed).succeeds third
    (fun counter => by omega) (by simp [isAdded])
  refine ⟨after, ?_⟩
  simp only [Indexes.sync, bind_ok]
  exact ⟨first, removedResources, second, addedResources, third, removedSandboxes, addedSandboxes⟩

end Sync

/-! ## Indexes that track the rows -/

/-- How many rows a counter should count. -/
def expected (rows : Rows) (counter : Counter) : Nat :=
  count (countsSandbox counter) rows.sandboxes + count (countsWorkspace counter) rows.workspaces +
    count (countsEnvironment counter) rows.environments

/-- The indexes are those of the rows. -/
structure Indexes.Tracks (indexes : Indexes) (rows : Rows) : Prop where
  counters : ∀ counter, indexes.reading counter = expected rows counter
  mounts : ∀ mount owner, indexes.activeWorkspaceMounts.lookup mount = some owner ↔
    (mount, owner) ∈ mountRowsOf owner (rows.sandboxes.lookup owner)

/-- No workspace is mounted twice by active sandboxes. -/
structure MountExclusive (sandboxes : AList fun _ : Key => Sandbox) : Prop where
  own : ∀ key, ((mountRowsOf key (sandboxes.lookup key)).map Prod.fst).Nodup
  others : ∀ mount key key', (mount, key) ∈ mountRowsOf key (sandboxes.lookup key) →
    (mount, key') ∈ mountRowsOf key' (sandboxes.lookup key') → key = key'

/-- All rows are under their own keys. -/
structure Rows.Named (rows : Rows) : Prop where
  sandboxes : ∀ key, SandboxNamed key (rows.sandboxes.lookup key)
  workspaces : ∀ key, RowNamed workspaceKey key (rows.workspaces.lookup key)
  environments : ∀ key, RowNamed environmentKey key (rows.environments.lookup key)

variable {rows : Rows}

/-- The rows agree with the first of two encoded states where a counted row changes. -/
structure Rows.Agrees (rows before after : Rows) : Prop where
  sandboxes : Table.Agrees rows.sandboxes before.sandboxes after.sandboxes
  workspaces : Table.Agrees rows.workspaces before.workspaces after.workspaces
  environments : Table.Agrees rows.environments before.environments after.environments

theorem mountRowsOf_owner {owner mount : Key} {row : Option Sandbox}
    (member : (mount, owner) ∈ mountRowsOf key row) : owner = key := by
  cases row with
  | none => cases member
  | some sandbox =>
    simp only [mountRowsOf, mountRows] at member
    split at member
    · obtain ⟨_, _, same⟩ := List.mem_map.mp member
      exact (congrArg Prod.snd same).symm
    · cases member

theorem newMounts_distinct {sandboxes : AList fun _ : Key => Sandbox}
    {list : List (Change Key Sandbox)} (exclusive : MountExclusive sandboxes)
    (distinct : list.Pairwise fun first second => first.key ≠ second.key)
    (isAfter : ∀ change ∈ list, sandboxes.lookup change.key = change.after) :
    ((newMounts list).map Prod.fst).Nodup := by
  rw [newMounts, List.map_flatMap, List.nodup_flatMap]
  constructor
  · intro change member
    rw [← isAfter change member]
    exact exclusive.own change.key
  · refine distinct.imp_of_mem fun {change other} member member' different => ?_
    rw [Function.onFun, List.disjoint_left]
    rintro mount isMount isMount'
    obtain ⟨⟨_, owner⟩, inChange, rfl⟩ := List.mem_map.mp isMount
    obtain ⟨⟨_, owner'⟩, inOther, same⟩ := List.mem_map.mp isMount'
    obtain rfl := mountRowsOf_owner inChange
    obtain rfl := mountRowsOf_owner inOther
    simp only at same
    subst same
    rw [← isAfter change member] at inChange
    rw [← isAfter other member'] at inOther
    exact different (exclusive.others _ _ _ inChange inOther)

section Tracking

variable {rows before after : Rows} (agrees : rows.Agrees before after)
include agrees

theorem expected_write (counter : Counter) :
    expected (rows.write before after) counter +
        ((resourceChanges before after).map (·.taken counter)).sum +
        ((changes before.sandboxes after.sandboxes).map (sandboxTaken counter)).sum =
      expected rows counter + ((resourceChanges before after).map (·.given counter)).sum +
        ((changes before.sandboxes after.sandboxes).map (sandboxGiven counter)).sum := by
  have sandboxes : count (countsSandbox counter) (rows.write before after).sandboxes +
        ((changes before.sandboxes after.sandboxes).map (sandboxTaken counter)).sum =
      count (countsSandbox counter) rows.sandboxes +
        ((changes before.sandboxes after.sandboxes).map (sandboxGiven counter)).sum :=
    count_apply _ (exact_changes _ _).distinct fun _ => (exact_changes _ _).old agrees.sandboxes
  have workspaces := count_apply (countsWorkspace counter)
    (exact_changes before.workspaces after.workspaces).distinct
    fun _ => (exact_changes _ _).old agrees.workspaces
  have environments := count_apply (countsEnvironment counter)
    (exact_changes before.environments after.environments).distinct
    fun _ => (exact_changes _ _).old agrees.environments
  simp only [expected, resourceChanges, List.map_append, List.map_map, List.sum_append,
    Function.comp_def, ResourceChange.taken, ResourceChange.given]
  simp only [Rows.write] at sandboxes ⊢
  omega

theorem taken_le (counter : Counter) :
    ((resourceChanges before after).map (·.taken counter)).sum ≤
        count (countsWorkspace counter) rows.workspaces +
          count (countsEnvironment counter) rows.environments ∧
      ((changes before.sandboxes after.sandboxes).map (sandboxTaken counter)).sum ≤
        count (countsSandbox counter) rows.sandboxes := by
  have sandboxes := sum_weight_le_count (countsSandbox counter)
    (exact_changes before.sandboxes after.sandboxes).distinct
    fun _ => (exact_changes _ _).old agrees.sandboxes
  have workspaces := sum_weight_le_count (countsWorkspace counter)
    (exact_changes before.workspaces after.workspaces).distinct
    fun _ => (exact_changes _ _).old agrees.workspaces
  have environments := sum_weight_le_count (countsEnvironment counter)
    (exact_changes before.environments after.environments).distinct
    fun _ => (exact_changes _ _).old agrees.environments
  simp only [resourceChanges, List.map_append, List.map_map, List.sum_append, Function.comp_def,
    ResourceChange.taken]
  exact ⟨by omega, sandboxes⟩

end Tracking

section Arranging

variable {resources resources' : List ResourceChange}
  {sandboxes sandboxes' : List (Change Key Sandbox)}
variable {before after : Indexes}

theorem newMounts_perm (arranged : sandboxes.Perm sandboxes') :
    (newMounts sandboxes).Perm (newMounts sandboxes') :=
  arranged.flatMap_right _

/-- What changes ask of the indexes does not depend on their order. -/
theorem Covers.perm (covers : Covers resources sandboxes before)
    (arrangedResources : resources.Perm resources')
    (arrangedSandboxes : sandboxes.Perm sandboxes') :
    Covers resources' sandboxes' before := by
  have mounts := newMounts_perm arrangedSandboxes
  refine ⟨fun counter => ?_, fun counter => ?_, ?_, fun pair member owner held => ?_⟩
  · rw [← (arrangedResources.map _).sum_nat]
    exact covers.resourcesCounted counter
  · rw [← (arrangedResources.map _).sum_nat, ← (arrangedResources.map _).sum_nat,
      ← (arrangedSandboxes.map _).sum_nat]
    exact covers.sandboxesCounted counter
  · exact (mounts.map _).nodup_iff.mp covers.distinct
  · exact (arrangedSandboxes.map _).mem_iff.mp
      (covers.absent pair (mounts.mem_iff.mpr member) owner held)

/-- What changes do to the indexes does not depend on their order. -/
theorem Synced.perm (synced : Synced resources sandboxes before after)
    (arrangedResources : resources.Perm resources')
    (arrangedSandboxes : sandboxes.Perm sandboxes') :
    Synced resources' sandboxes' before after := by
  refine ⟨fun counter => ?_, fun mount owner => ?_, synced.heads⟩
  · rw [← (arrangedResources.map _).sum_nat, ← (arrangedResources.map _).sum_nat,
      ← (arrangedSandboxes.map _).sum_nat, ← (arrangedSandboxes.map _).sum_nat]
    exact synced.reading counter
  · rw [synced.mounts, (arrangedSandboxes.map _).mem_iff,
      (newMounts_perm arrangedSandboxes).mem_iff]

end Arranging

section Holds

variable {Row : Type} {Holds : Key → Option Row → Prop}
  {table before after : AList fun _ : Key => Row}

/-- What holds of every row before and after a mutation holds of its changes. -/
theorem changed_of [DecidableEq Row] (agrees : Table.Agrees table before after)
    (old : ∀ key, Holds key (table.lookup key))
    (new : ∀ key, Holds key ((apply table (changes before after)).lookup key)) :
    ∀ change ∈ changes before after,
      Holds change.key change.before ∧ Holds change.key change.after := fun change member =>
  ⟨(exact_changes _ _).old agrees member ▸ old change.key,
    (exact_changes before after).new member ▸ new change.key⟩

theorem inserted_of (absent : ∀ key, Holds key none)
    (present : ∀ key, Holds key (table.lookup key)) :
    ∀ change ∈ inserts table, Holds change.key change.before ∧ Holds change.key change.after := by
  intro change member
  obtain ⟨isAfter, isBefore⟩ := mem_inserts member
  exact ⟨isBefore ▸ absent change.key, isAfter ▸ present change.key⟩

end Holds

section Tracking

variable {rows before after : Rows} (agrees : rows.Agrees before after)

theorem written_sandbox (rows : Rows) {change : Change Key Sandbox}
    (member : change ∈ changes before.sandboxes after.sandboxes) :
    (rows.write before after).sandboxes.lookup change.key = change.after :=
  (exact_changes _ _).new member

theorem unwritten_sandbox (rows : Rows)
    (unchanged : key ∉ (changes before.sandboxes after.sandboxes).map Change.key) :
    (rows.write before after).sandboxes.lookup key = rows.sandboxes.lookup key :=
  lookup_apply_of_not_mem unchanged

include agrees

theorem resourceChanges_named (named : rows.Named) (namedAfter : (rows.write before after).Named) :
    ∀ change ∈ resourceChanges before after, change.Named := by
  intro change member
  rcases List.mem_append.mp member with isWorkspace | isEnvironment
  · obtain ⟨change, inWorkspaces, rfl⟩ := List.mem_map.mp isWorkspace
    exact changed_of agrees.workspaces named.workspaces namedAfter.workspaces change inWorkspaces
  · obtain ⟨change, inEnvironments, rfl⟩ := List.mem_map.mp isEnvironment
    exact changed_of agrees.environments named.environments namedAfter.environments change
      inEnvironments

theorem sandboxChanges_named (named : rows.Named) (namedAfter : (rows.write before after).Named) :
    ∀ change ∈ changes before.sandboxes after.sandboxes, SandboxChangeNamed change :=
  changed_of agrees.sandboxes named.sandboxes namedAfter.sandboxes

variable {indexes : Indexes} (tracks : indexes.Tracks rows)
include tracks

theorem covers_of_tracks (exclusive : MountExclusive (rows.write before after).sandboxes) :
    Covers (resourceChanges before after) (changes before.sandboxes after.sandboxes) indexes := by
  refine ⟨fun counter => ?_, fun counter => ?_, ?_, fun pair member owner held => ?_⟩
  · have taken := taken_le agrees counter
    rw [tracks.counters, expected]
    omega
  · have taken := taken_le agrees counter
    rw [tracks.counters, expected]
    omega
  · exact newMounts_distinct exclusive (List.pairwise_map.mp (exact_changes _ _).distinct)
      fun change member => written_sandbox rows member
  · by_contra unchanged
    obtain ⟨change, isChange, inChange⟩ := List.mem_flatMap.mp member
    obtain ⟨mount, owner'⟩ := pair
    obtain rfl := mountRowsOf_owner inChange
    rw [← written_sandbox rows isChange] at inChange
    have mounted := (tracks.mounts mount owner).mp held
    rw [← unwritten_sandbox rows unchanged] at mounted
    rw [exclusive.others _ _ _ mounted inChange] at unchanged
    exact unchanged (List.mem_map.mpr ⟨change, isChange, rfl⟩)

/-- **Indexes still track the rows** after the changes. -/
theorem tracks_of_synced {indexes' : Indexes}
    (synced : Synced (resourceChanges before after) (changes before.sandboxes after.sandboxes)
      indexes indexes') : indexes'.Tracks (rows.write before after) := by
  refine ⟨fun counter => ?_, fun mount owner => ?_⟩
  · have reading := synced.reading counter
    have should := expected_write agrees counter
    rw [tracks.counters] at reading
    omega
  · rw [synced.mounts, tracks.mounts]
    constructor
    · rintro (⟨mounted, unchanged⟩ | isNew)
      · rw [unwritten_sandbox rows unchanged]
        exact mounted
      · obtain ⟨change, isChange, inChange⟩ := List.mem_flatMap.mp isNew
        obtain rfl := mountRowsOf_owner inChange
        rw [written_sandbox rows isChange]
        exact inChange
    · intro mounted
      by_cases changed : owner ∈ (changes before.sandboxes after.sandboxes).map Change.key
      · obtain ⟨change, isChange, rfl⟩ := List.mem_map.mp changed
        rw [written_sandbox rows isChange] at mounted
        exact .inr (List.mem_flatMap.mpr ⟨change, isChange, mounted⟩)
      · rw [unwritten_sandbox rows changed] at mounted
        exact .inl ⟨mounted, changed⟩

end Tracking

/-- A mount table lists a workspace once, so tracked rows have no two owners of it. -/
theorem Indexes.Tracks.others (tracks : indexes.Tracks rows) (mount key key' : Key)
    (mounted : (mount, key) ∈ mountRowsOf key (rows.sandboxes.lookup key))
    (mounted' : (mount, key') ∈ mountRowsOf key' (rows.sandboxes.lookup key')) : key = key' := by
  rw [← tracks.mounts] at mounted mounted'
  exact Option.some.inj (mounted.symm.trans mounted')

theorem exclusive_of_covers {before after : Rows} {indexes' : Indexes}
    (exclusive : MountExclusive rows.sandboxes)
    (covers : Covers (resourceChanges before after) (changes before.sandboxes after.sandboxes)
      indexes) (tracks : indexes'.Tracks (rows.write before after)) :
    MountExclusive (rows.write before after).sandboxes := by
  refine ⟨fun key => ?_, tracks.others⟩
  by_cases changed : key ∈ (changes before.sandboxes after.sandboxes).map Change.key
  · obtain ⟨change, isChange, rfl⟩ := List.mem_map.mp changed
    rw [written_sandbox rows isChange]
    have distinct := covers.distinct
    rw [newMounts, List.map_flatMap, List.nodup_flatMap] at distinct
    exact distinct.1 change isChange
  · rw [unwritten_sandbox rows changed]
    exact exclusive.own key

/-! ## Rebuilding -/

theorem mem_newMounts_inserts {sandboxes : AList fun _ : Key => Sandbox} {mount owner : Key} :
    (mount, owner) ∈ newMounts (inserts sandboxes) ↔
      (mount, owner) ∈ mountRowsOf owner (sandboxes.lookup owner) := by
  constructor
  · intro member
    obtain ⟨change, inserted, inChange⟩ := List.mem_flatMap.mp member
    obtain rfl := mountRowsOf_owner inChange
    rw [(mem_inserts inserted).1]
    exact inChange
  · intro member
    cases present : sandboxes.lookup owner with
    | none =>
      rw [present] at member
      cases member
    | some sandbox =>
      rw [present] at member
      refine List.mem_flatMap.mpr ⟨⟨owner, none, some sandbox⟩, ?_, member⟩
      exact List.mem_map.mpr ⟨⟨owner, sandbox⟩, mem_entries_iff.mpr present, rfl⟩

theorem mountExclusive_iff {sandboxes : AList fun _ : Key => Sandbox} :
    MountExclusive sandboxes ↔ ((newMounts (inserts sandboxes)).map Prod.fst).Nodup := by
  have distinct : (inserts sandboxes).Pairwise fun first second => first.key ≠ second.key := by
    rw [inserts, List.pairwise_map]
    exact List.pairwise_map.mp sandboxes.nodupKeys
  constructor
  · intro exclusive
    exact newMounts_distinct exclusive distinct fun change inserted => (mem_inserts inserted).1
  · intro nodup
    rw [newMounts, List.map_flatMap, List.nodup_flatMap] at nodup
    obtain ⟨own, disjoint⟩ := nodup
    constructor
    · intro key
      cases present : sandboxes.lookup key with
      | none => exact List.nodup_nil
      | some sandbox =>
        exact own ⟨key, none, some sandbox⟩
          (List.mem_map.mpr ⟨⟨key, sandbox⟩, mem_entries_iff.mpr present, rfl⟩)
    · intro mount key key' mounted mounted'
      by_contra different
      obtain ⟨change, inserted, inChange⟩ := List.mem_flatMap.mp (mem_newMounts_inserts.mpr mounted)
      obtain ⟨change', inserted', inChange'⟩ :=
        List.mem_flatMap.mp (mem_newMounts_inserts.mpr mounted')
      obtain rfl := mountRowsOf_owner inChange
      obtain rfl := mountRowsOf_owner inChange'
      have : Std.Symm (Function.onFun List.Disjoint fun change : Change Key Sandbox =>
          (mountRowsOf change.key change.after).map Prod.fst) :=
        ⟨fun _ _ apart _ member member' => apart member' member⟩
      have apart := disjoint.forall inserted inserted' fun same => different (congrArg _ same)
      exact List.disjoint_left.mp apart (List.mem_map.mpr ⟨_, inChange, rfl⟩)
        (List.mem_map.mpr ⟨_, inChange', rfl⟩)

section Rebuilding

variable {database : Database} (named : database.rows.Named)
include named

theorem sandboxInserts_named :
    ∀ change ∈ inserts database.rows.sandboxes, SandboxChangeNamed change :=
  inserted_of SandboxNamed.absent named.sandboxes

theorem workspaceInserts_named : ∀ change ∈ (inserts database.rows.workspaces).map
    ResourceChange.workspace, change.Named :=
  List.forall_mem_map.mpr (inserted_of (RowNamed.absent _) named.workspaces)

theorem environmentInserts_named : ∀ change ∈ (inserts database.rows.environments).map
    ResourceChange.environment, change.Named :=
  List.forall_mem_map.mpr (inserted_of (RowNamed.absent _) named.environments)

omit named in
/-- Counters that rebuilding starts from. -/
theorem cleared_reading (heads : Heads) (counter : Counter) :
    (⟨(∅ : Capacity).insert totalSandboxCapacityKey 0, ∅, ∅, ∅, heads⟩ : Indexes).reading counter =
      0 := by
  rcases counter with projectID | ⟨kind, projectID⟩
  · rw [Indexes.reading, readCapacity_insert]
    split <;> rfl
  · cases kind <;> rfl

/-- **Rebuilding gives indexes that track the rows**, whose mounts are then exclusive. -/
theorem rebuild_tracks {rebuilt : Indexes}
    (isRebuilt : rebuildSandboxAdmissionIndexes database = .ok rebuilt) :
    rebuilt.Tracks database.rows ∧ MountExclusive database.rows.sandboxes ∧
      rebuilt.lifecycleOperationHeads = database.indexes.lifecycleOperationHeads := by
  have putSandboxes := addSandboxes_pass (sandboxInserts_named named)
  have putWorkspaces := addResources_pass (workspaceInserts_named named)
  have putEnvironments := addResources_pass (environmentInserts_named named)
  simp only [rebuildSandboxAdmissionIndexes, bind_ok] at isRebuilt
  obtain ⟨first, addedSandboxes, second, addedWorkspaces, addedEnvironments⟩ := isRebuilt
  have added := inserted_of_insertFresh (putSandboxes.mounts addedSandboxes)
  refine ⟨⟨fun counter => ?_, fun mount owner => ?_⟩, mountExclusive_iff.mpr added.distinct, ?_⟩
  · have sandboxes : ((inserts database.rows.sandboxes).map (sandboxGiven counter)).sum = _ :=
      sum_weight_inserts (countsSandbox counter) database.rows.sandboxes
    have workspaces := sum_weight_inserts (countsWorkspace counter) database.rows.workspaces
    have environments := sum_weight_inserts (countsEnvironment counter) database.rows.environments
    have read := putSandboxes.reading addedSandboxes counter
    have read' := putWorkspaces.reading addedWorkspaces counter
    have read'' := putEnvironments.reading addedEnvironments counter
    rw [cleared_reading] at read
    simp only [List.map_map, Function.comp_def, ResourceChange.given] at read' read''
    rw [expected]
    omega
  · rw [← Option.some.inj (putEnvironments.mounts addedEnvironments),
      ← Option.some.inj (putWorkspaces.mounts addedWorkspaces), added.lookup_iff]
    exact (or_iff_right (by simp)).trans mem_newMounts_inserts
  · rw [putEnvironments.heads addedEnvironments, putWorkspaces.heads addedWorkspaces,
      putSandboxes.heads addedSandboxes]

/-- **Rebuilding succeeds** on rows with exclusive mounts. -/
theorem rebuild_ok (exclusive : MountExclusive database.rows.sandboxes) :
    ∃ rebuilt, rebuildSandboxAdmissionIndexes database = .ok rebuilt := by
  obtain ⟨added, isAdded⟩ := insertFresh_ok (mountExclusive_iff.mp exclusive)
    fun _ _ => AList.lookup_empty _
  simp only [rebuildSandboxAdmissionIndexes, bind_ok]
  obtain ⟨first, addedSandboxes⟩ := (addSandboxes_pass (sandboxInserts_named named)).succeeds
    { database.indexes with
      sandboxCapacity := (∅ : Capacity).insert totalSandboxCapacityKey 0
      workspaceCapacity := ∅
      environmentCapacity := ∅
      activeWorkspaceMounts := ∅ } (fun counter => by omega) (by simp [isAdded])
  obtain ⟨second, addedWorkspaces⟩ := (addResources_pass (workspaceInserts_named named)).succeeds
    first (fun counter => by omega) (Option.some_ne_none _)
  obtain ⟨rebuilt, addedEnvironments⟩ :=
    (addResources_pass (environmentInserts_named named)).succeeds second
      (fun counter => by omega) (Option.some_ne_none _)
  exact ⟨rebuilt, first, addedSandboxes, second, addedWorkspaces, addedEnvironments⟩

end Rebuilding
/-! ## The database -/

/-- The database's counters and mounts are what its rows call for. -/
structure Database.Indexed (database : Database) : Prop where
  tracks : database.indexes.Tracks database.rows
  named : database.rows.Named
  exclusive : MountExclusive database.rows.sandboxes

variable {database next : Database}

theorem reading_withHeads (indexes : Indexes) (heads : Heads) (counter : Counter) :
    (indexes.withHeads heads).reading counter = indexes.reading counter := by
  rcases counter with projectID | ⟨kind, projectID⟩
  · rfl
  · cases kind <;> rfl

theorem Indexes.Tracks.withHeads (tracks : indexes.Tracks rows) (heads : Heads) :
    (indexes.withHeads heads).Tracks rows :=
  ⟨fun counter => (reading_withHeads indexes heads counter).trans (tracks.counters counter),
    tracks.mounts⟩

/-- The encoded states of a mutation fit the database: they agree with it on what changes, and the
rows they lead to are named. -/
structure Fits (rows before after : Rows) : Prop where
  agrees : rows.Agrees before after
  named : (rows.write before after).Named

/-- What a mutation that succeeds writes. -/
theorem sync_cases {before after : Rows} (synced : database.sync order before after = .ok next) :
    (database.indexes.withHeads (database.syncHeads order before after)).sync
        (order.resources (resourceChanges before after))
        (order.sandboxes (changes before.sandboxes after.sandboxes)) = .ok next.indexes ∧
      next.rows = database.rows.write before after := by
  rw [Database.sync] at synced
  cases passed : (database.indexes.withHeads (database.syncHeads order before after)).sync
      (order.resources (resourceChanges before after))
      (order.sandboxes (changes before.sandboxes after.sandboxes)) with
  | error error =>
    rw [passed] at synced
    cases synced
  | ok indexes =>
    rw [passed] at synced
    cases synced
    exact ⟨rfl, rfl⟩

section Database

variable {database : Database} {before after : Rows} (fits : Fits database.rows before after)
variable (named : database.rows.Named) (order : Iteration)
include fits named

theorem arrangedResources_named :
    ∀ change ∈ order.resources (resourceChanges before after), change.Named := by
  intro change member
  exact resourceChanges_named fits.agrees named fits.named change
    ((order.resources_perm _).mem_iff.mp member)

theorem arrangedSandboxes_named :
    ∀ change ∈ order.sandboxes (changes before.sandboxes after.sandboxes),
      SandboxChangeNamed change := by
  intro change member
  exact sandboxChanges_named fits.agrees named fits.named change
    ((order.sandboxes_perm _).mem_iff.mp member)

omit named in
/-- **A mutation that succeeds keeps the indexes exact.** -/
theorem sync_indexed (indexed : database.Indexed)
    (synced : database.sync order before after = .ok next) : next.Indexed := by
  obtain ⟨passed, isWritten⟩ := sync_cases synced
  obtain ⟨covers, effect⟩ := sync_effect (arrangedResources_named fits indexed.named order)
    (arrangedSandboxes_named fits indexed.named order) passed
  have tracks := tracks_of_synced fits.agrees (indexed.tracks.withHeads _)
    (effect.perm (order.resources_perm _) (order.sandboxes_perm _))
  have exclusive := exclusive_of_covers indexed.exclusive
    (covers.perm (order.resources_perm _) (order.sandboxes_perm _)) tracks
  rw [← isWritten] at tracks exclusive
  exact ⟨tracks, isWritten ▸ fits.named, exclusive⟩

omit named in
/-- **A mutation to rows with exclusive mounts succeeds**, whatever the order of its changes. -/
theorem sync_succeeds (indexed : database.Indexed)
    (exclusive : MountExclusive (database.rows.write before after).sandboxes) :
    ∃ next, database.sync order before after = .ok next := by
  have covers := covers_of_tracks fits.agrees
    (indexed.tracks.withHeads (database.syncHeads order before after)) exclusive
  obtain ⟨indexes, passed⟩ := sync_ok (arrangedResources_named fits indexed.named order)
    (arrangedSandboxes_named fits indexed.named order)
    (covers.perm (order.resources_perm _).symm (order.sandboxes_perm _).symm)
  exact ⟨⟨_, indexes⟩, by rw [Database.sync, passed]; rfl⟩

end Database

/-! ## Prepared mutations fit -/

/-- Encoding keeps the tables of resources. -/
theorem encodeState_ok {state : State} (encoded : encodeState state = .ok rows) :
    rows.environments = state.environments ∧ rows.sandboxes = state.sandboxes ∧
      rows.operations = state.operations ∧ rows.checkpoints = state.checkpoints ∧
      rows.workspaces = state.workspaces ∧ rows.connectors = state.connectors := by
  unfold encodeState at encoded
  split at encoded
  · cases encoded
  · cases encoded
    exact ⟨rfl, rfl, rfl, rfl, rfl, rfl⟩

theorem named_of_valid {state : State} (isValid : state.valid = true)
    (encoded : encodeState state = .ok rows) : rows.Named := by
  obtain ⟨environments, sandboxes, _, _, workspaces, _⟩ := encodeState_ok encoded
  have valid := (State.valid_iff state).mp isValid
  constructor
  · intro key sandbox present
    rw [sandboxes] at present
    have checked := valid.sandboxes present
    simp only [State.validSandbox, Bool.and_eq_true, State.scopedIdentity_iff] at checked
    exact ⟨checked.1.1.2.2.2, isSafeName_ne_empty checked.1.1.1⟩
  · intro key workspace present
    rw [workspaces] at present
    exact (State.scopedIdentity_iff.mp (valid.workspaces present)).2.2.2
  · intro key environment present
    rw [environments] at present
    exact (State.scopedIdentity_iff.mp (valid.environments present)).2.2.2

theorem written_of {Row : Type} [DecidableEq Row] {Holds : Key → Option Row → Prop}
    {table before after : AList fun _ : Key => Row} (old : ∀ key, Holds key (table.lookup key))
    (new : ∀ key, Holds key (after.lookup key)) (key : Key) :
    Holds key ((apply table (changes before after)).lookup key) := by
  by_cases same : before.lookup key = after.lookup key
  · rw [(exact_changes _ _).lookup_apply_of_eq same]
    exact old key
  · rw [(exact_changes _ _).lookup_apply_of_ne same]
    exact new key

/-- Rows stay named where a mutation leaves them, and are named where it changes them. -/
theorem named_write {before after : Rows} (named : rows.Named) (namedAfter : after.Named) :
    (rows.write before after).Named :=
  ⟨written_of named.sandboxes namedAfter.sandboxes,
    written_of named.workspaces namedAfter.workspaces,
    written_of named.environments namedAfter.environments⟩

/-- A mutation of the whole ledger fits. -/
theorem PreparedUpdate.fits {callback : Callback} {before after : Rows}
    (prepared : PreparedUpdate callback rows before after) (named : rows.Named) :
    Fits rows before after := by
  obtain ⟨environments, sandboxes, _, _, workspaces, _⟩ := encodeState_ok prepared.isBefore
  obtain ⟨next, _, isValid, isAfter⟩ := prepared.called
  refine ⟨⟨?_, ?_, ?_⟩, named_write named (named_of_valid isValid isAfter)⟩
  · exact .of_same (fun key => by rw [sandboxes]; rfl) _
  · exact .of_same (fun key => by rw [workspaces]; rfl) _
  · exact .of_same (fun key => by rw [environments]; rfl) _

/-- Loading a scope loads every declared row. -/
theorem lookup_declared {Row : Type} {declared claimed : List Key} (isDeclared : key ∈ declared)
    (table : AList fun _ : Key => Row) :
    (Table.filter (fun key _ => key ∈ declared || key ∈ claimed) table).lookup key =
      table.lookup key := by
  rw [lookup_filter]
  cases table.lookup key <;> simp [isDeclared]

theorem PreparedRows.fits {scope : MutationScope} {callback : Callback} {before after : Rows}
    (prepared : PreparedRows scope callback rows before after) (named : rows.Named) :
    Fits rows before after := by
  obtain ⟨environments, sandboxes, _, _, workspaces, _⟩ := encodeState_ok prepared.isBefore
  obtain ⟨next, _, isValid, isAfter⟩ := prepared.called
  have inScope := inScope_of_validate prepared.inScope
  refine ⟨⟨?_, ?_, ?_⟩, named_write named (named_of_valid isValid isAfter)⟩
  · intro key different
    rw [sandboxes]
    exact (lookup_declared (inScope.sandboxes different) rows.sandboxes).symm
  · intro key different
    rw [workspaces]
    exact (lookup_declared (inScope.workspaces different) rows.workspaces).symm
  · intro key different
    rw [environments]
    exact (lookup_declared (inScope.environments different) rows.environments).symm

/-! ## Every call -/

theorem commit_ok {prepared : Except UpdateError (Rows × Rows)}
    (committed : database.commit order prepared = .ok next) :
    ∃ before after, prepared = .ok (before, after) ∧
      database.sync order before after = .ok next := by
  rw [Database.commit, bind_ok] at committed
  obtain ⟨⟨before, after⟩, isPrepared, synced⟩ := committed
  exact ⟨before, after, isPrepared, mapError_ok.mp synced⟩

/-- A prepared mutation that can be written is committed. -/
theorem commit_of_sync {before after : Rows} {prepared : Except UpdateError (Rows × Rows)}
    (isPrepared : prepared = .ok (before, after))
    (synced : database.sync order before after = .ok next) :
    database.commit order prepared = .ok next := by
  subst isPrepared
  exact mapError_ok.mpr synced

/-- Recorded activity changes neither what is counted nor what is mounted. -/
theorem advanceSandboxActivity_counted (sandbox : Sandbox) (at_ : Time) :
    (advanceSandboxActivity sandbox at_).state = sandbox.state ∧
      sandboxKey (advanceSandboxActivity sandbox at_) = sandboxKey sandbox ∧
      (advanceSandboxActivity sandbox at_).workspaceMounts = sandbox.workspaceMounts := by
  unfold advanceSandboxActivity
  split
  · exact ⟨rfl, rfl, rfl⟩
  · exact ⟨rfl, rfl, rfl⟩

theorem Database.Indexed.recordSandboxActivity (indexed : database.Indexed) {at_ : Time}
    (recorded : database.recordSandboxActivity key at_ = .ok next) : next.Indexed := by
  unfold Database.recordSandboxActivity at recorded
  split at recorded
  · cases recorded
  next current present =>
  simp only at recorded
  split at recorded
  · cases recorded
    exact indexed
  cases recorded
  obtain ⟨sameState, sameKey, sameMounts⟩ := advanceSandboxActivity_counted current at_
  have sameProject : (advanceSandboxActivity current at_).projectID = current.projectID :=
    congrArg Prod.fst sameKey
  obtain ⟨isKey, hasProject⟩ := indexed.named.sandboxes key current present
  have lookups : ∀ other, (database.rows.sandboxes.insert key
      (advanceSandboxActivity current at_)).lookup other =
        if other = key then some (advanceSandboxActivity current at_)
        else database.rows.sandboxes.lookup other :=
    fun other => lookup_write database.rows.sandboxes key other (some _)
  have mounts : ∀ other, mountRowsOf other ((database.rows.sandboxes.insert key
      (advanceSandboxActivity current at_)).lookup other) =
        mountRowsOf other (database.rows.sandboxes.lookup other) := by
    intro other
    rw [lookups]
    split
    · next same =>
      rw [same, present]
      simp only [mountRowsOf, mountRows, sameState, sameMounts, sameProject]
    · rfl
  refine ⟨⟨fun counter => ?_, fun mount owner => ?_⟩, ⟨fun other sandbox isPresent => ?_, ?_, ?_⟩,
    ⟨fun other => ?_, fun mount first second mounted mounted' => ?_⟩⟩
  · have counted := count_write (countsSandbox counter) database.rows.sandboxes key
      (some (advanceSandboxActivity current at_))
    have sameWeight : weight (countsSandbox counter) key
        (some (advanceSandboxActivity current at_)) =
          weight (countsSandbox counter) key (some current) := by
      cases counter <;> simp [weight, countsSandbox, sameState, sameProject]
    rw [present, sameWeight] at counted
    have reading := indexed.tracks.counters counter
    rw [expected] at reading ⊢
    rw [reading, ← Nat.add_right_cancel counted]
    rfl
  · rw [mounts]
    exact indexed.tracks.mounts mount owner
  · rw [lookups] at isPresent
    split at isPresent
    · next same =>
      cases isPresent
      rw [same, sameKey, sameProject]
      exact ⟨isKey, hasProject⟩
    · exact indexed.named.sandboxes other sandbox isPresent
  · exact indexed.named.workspaces
  · exact indexed.named.environments
  · rw [mounts]
    exact indexed.exclusive.own other
  · rw [mounts] at mounted mounted'
    exact indexed.exclusive.others mount first second mounted mounted'

theorem Database.Indexed.appendSandboxEvent (indexed : database.Indexed) {event : Event}
    (appended : database.appendSandboxEvent event = .ok next) : next.Indexed := by
  unfold Database.appendSandboxEvent at appended
  split at appended
  · cases appended
  simp only at appended
  split at appended
  · cases appended
  · cases appended
    exact ⟨⟨indexed.tracks.counters, indexed.tracks.mounts⟩,
      ⟨indexed.named.sandboxes, indexed.named.workspaces, indexed.named.environments⟩,
      ⟨indexed.exclusive.own, indexed.exclusive.others⟩⟩

theorem indexed_of_rebuild (named : database.rows.Named) {rebuilt : Indexes}
    (isRebuilt : rebuildSandboxAdmissionIndexes database = .ok rebuilt) (heads : Heads) :
    Database.Indexed ⟨database.rows, rebuilt.withHeads heads⟩ := by
  obtain ⟨tracks, exclusive, _⟩ := rebuild_tracks named isRebuilt
  exact ⟨tracks.withHeads heads, named, exclusive⟩

/-- **Every call keeps the indexes exact.** -/
theorem Database.Indexed.perform (indexed : database.Indexed) {call : StoreCall}
    (performed : database.perform call = .ok next) : next.Indexed := by
  cases call with
  | update order callback =>
    obtain ⟨before, after, prepared, synced⟩ := commit_ok performed
    exact sync_indexed ((prepareUpdate_ok.mp prepared).fits indexed.named) order indexed synced
  | updateRows order scope callback =>
    obtain ⟨before, after, prepared, synced⟩ := commit_ok performed
    exact sync_indexed ((prepareRows_ok.mp prepared).fits indexed.named) order indexed synced
  | recordSandboxActivity key at_ => exact indexed.recordSandboxActivity performed
  | appendSandboxEvent event => exact indexed.appendSandboxEvent performed
  | reopen =>
    simp only [Database.perform, Database.reopen, bind_ok, mapError_ok] at performed
    obtain ⟨rebuilt, isRebuilt, _, _, ⟨⟩⟩ := performed
    exact indexed_of_rebuild indexed.named isRebuilt rebuilt.lifecycleOperationHeads

theorem Database.Indexed.run (indexed : database.Indexed) (calls : List StoreCall) :
    (database.run calls).Indexed := by
  induction calls generalizing database with
  | nil => exact indexed
  | cons call rest ih =>
    refine ih ?_
    unfold Database.step
    cases performed : database.perform call with
    | error error => exact indexed
    | ok next => exact indexed.perform performed

theorem indexed_of_create {initial : State}
    (created : Database.create order initial = .ok database) : database.Indexed := by
  simp only [Database.create, bind_ok, mapError_ok, encodeUpdated_ok] at created
  obtain ⟨rows, ⟨isValid, encoded⟩, filled, synced, rebuilt, isRebuilt, _, _, ⟨⟩⟩ := created
  obtain ⟨_, isWritten⟩ := sync_cases synced
  have empty : Rows.empty.Named := by
    constructor
    · exact fun key => .absent key
    · exact fun key => .absent _ key
    · exact fun key => .absent _ key
  have named : filled.rows.Named := by
    rw [isWritten]
    exact named_write empty (named_of_valid isValid encoded)
  exact indexed_of_rebuild named isRebuilt _

/-- **The admission indexes never drift.**  After any sequence of calls on a new database, with the
changes of every mutation in any order, rebuilding the counters and the mounts from the rows would
succeed and change no counter and no mount.  And a prepared mutation, of the whole ledger or of
declared rows, is committed if the mounts it leads to are exclusive. -/
theorem admission_indexes_exact {creation : Iteration} {initial : State} {database : Database}
    (created : Database.create creation initial = .ok database) (calls : List StoreCall) :
    (∃ rebuilt, rebuildSandboxAdmissionIndexes (database.run calls) = .ok rebuilt ∧
      (∀ counter, (database.run calls).indexes.reading counter = rebuilt.reading counter) ∧
      ∀ mount, (database.run calls).indexes.activeWorkspaceMounts.lookup mount =
        rebuilt.activeWorkspaceMounts.lookup mount) ∧
    (∀ order callback before after,
      (database.run calls).prepareUpdate callback = .ok (before, after) →
      MountExclusive ((database.run calls).rows.write before after).sandboxes →
      ∃ next, (database.run calls).update order callback = .ok next) ∧
    ∀ order scope callback before after,
      (database.run calls).prepareRows scope callback = .ok (before, after) →
      MountExclusive ((database.run calls).rows.write before after).sandboxes →
      ∃ next, (database.run calls).updateRows order scope callback = .ok next := by
  have indexed := (indexed_of_create created).run calls
  refine ⟨?_, ?_, ?_⟩
  · obtain ⟨rebuilt, isRebuilt⟩ := rebuild_ok indexed.named indexed.exclusive
    obtain ⟨tracks, _, _⟩ := rebuild_tracks indexed.named isRebuilt
    refine ⟨rebuilt, isRebuilt, fun counter => ?_, fun mount => ?_⟩
    · rw [indexed.tracks.counters, tracks.counters]
    · ext owner
      rw [indexed.tracks.mounts, tracks.mounts]
  · intro order callback before after prepared exclusive
    obtain ⟨next, synced⟩ :=
      sync_succeeds ((prepareUpdate_ok.mp prepared).fits indexed.named) order indexed exclusive
    exact ⟨next, commit_of_sync prepared synced⟩
  · intro order scope callback before after prepared exclusive
    obtain ⟨next, synced⟩ :=
      sync_succeeds ((prepareRows_ok.mp prepared).fits indexed.named) order indexed exclusive
    exact ⟨next, commit_of_sync prepared synced⟩

/-- The database of an empty ledger. -/
def newDatabase : Database :=
  ⟨Rows.empty, ⟨(∅ : Capacity).insert totalSandboxCapacityKey 0, ∅, ∅, ∅,
    rebuildLifecycleOperationHeads Rows.empty⟩⟩

theorem newDatabase_created : Database.create .listed State.empty = .ok newDatabase := rfl

/-- A sandbox of the sample runs, which may mount the sample workspace. -/
def sampleSandbox (id : String) (state : SandboxState) (mounts : Bool) : Sandbox :=
  { Sandbox.zero with
    id := id, projectID := "project", state := state
    workspaceMounts := if mounts then [⟨"workspace", "/data"⟩] else [] }

/-- A workspace and two sandboxes are created, and the first sandbox mounts the workspace.  Then one
mutation of declared rows deletes the first sandbox and hands the workspace to the second one. -/
def handOver : List StoreCall :=
  [.update .listed fun state => .ok (((state.putWorkspace ("project", "workspace")
      { Workspace.zero with id := "workspace", projectID := "project", state := .ready }).putSandbox
      (sampleSandbox "first" .running true)).putSandbox (sampleSandbox "second" .running false)),
    .updateRows .listed ⟨[], [("project", "first"), ("project", "second")], [], [], [], [], [], []⟩
      fun state => .ok ((state.putSandbox (sampleSandbox "first" .deleted true)).putSandbox
        (sampleSandbox "second" .running true)),
    .reopen]

theorem admission_indexes_exact_handed_over :
    Database.create .listed State.empty = .ok newDatabase ∧
      ∃ rebuilt, rebuildSandboxAdmissionIndexes (newDatabase.run handOver) = .ok rebuilt ∧
        rebuilt.reading (.sandbox "project") = 1 ∧
        rebuilt.reading (.resource .workspace "project") = 1 ∧
        rebuilt.activeWorkspaceMounts.lookup ("project", "workspace") =
          some ("project", "second") := by
  obtain ⟨rebuilt, isRebuilt, counters, mounts⟩ :=
    (admission_indexes_exact newDatabase_created handOver).1
  refine ⟨newDatabase_created, rebuilt, isRebuilt, ?_, ?_, ?_⟩
  · rw [← counters]
    decide +kernel
  · rw [← counters]
    decide +kernel
  · rw [← mounts]
    decide +kernel

end Brezel.Store
