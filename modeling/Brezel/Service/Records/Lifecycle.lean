import Brezel.Service.Records.Outside

/-!
# Transitions and cleanup keep the records

A transition opens an operation under a key that is free, together with the transitional row, and
fences the sandbox.  When it comes back from the outside, the row and the operation are still the
ones it wrote (`Underway`), so its last write follows on them.

A record that follows on a row (`Follows`) may be written over it.  A lookup that failed leaves a
record without a project, which no transaction installs.
-/

namespace Brezel.Service

open Domain Store

variable {deployment : Deployment} {thread : Nat} {records : Records} {key : Key}
variable {row sandbox written : Sandbox} {operation : Operation} {kind name requestKey : String}
  {event : Choice → Event} {target : SandboxState}

/-! ## Records that follow on a row -/

/-- The record has the identity of the row, and its revision is that far ahead; or it has no project
and is never installed. -/
def Follows (ahead : Nat) (key : Key) (row sandbox : Sandbox) : Prop :=
  sandbox.projectID = "" ∨ sandboxKey sandbox = key ∧
    sandbox.workspaceMounts = row.workspaceMounts ∧ row.revision + ahead ≤ sandbox.revision

namespace Follows

variable {ahead : Nat} {row sandbox written : Sandbox}

theorem self (keyed : sandboxKey row = key) : Follows 0 key row row := .inr ⟨keyed, rfl, le_rfl⟩

theorem raise (follows : Follows ahead key row sandbox) (raised : Nat)
    (project : written.projectID = sandbox.projectID) (id : written.id = sandbox.id)
    (mounts : written.workspaceMounts = sandbox.workspaceMounts)
    (revision : written.revision = sandbox.revision + raised) :
    Follows (ahead + raised) key row written := by
  rcases follows with stray | ⟨keyed, sameMounts, behind⟩
  · exact .inl (project.trans stray)
  · refine .inr ⟨?_, mounts.trans sameMounts, by omega⟩
    rw [← keyed, sandboxKey, sandboxKey, project, id]

theorem next (follows : Follows 0 key row sandbox) (project : written.projectID = sandbox.projectID)
    (id : written.id = sandbox.id) (mounts : written.workspaceMounts = sandbox.workspaceMounts)
    (revision : written.revision = sandbox.revision + 1) : Follows 1 key row written :=
  follows.raise 1 project id mounts revision

theorem carry (follows : Follows ahead key row sandbox)
    (project : written.projectID = sandbox.projectID) (id : written.id = sandbox.id)
    (mounts : written.workspaceMounts = sandbox.workspaceMounts)
    (revision : written.revision = row.revision + 1) : Follows 1 key row written := by
  rcases follows with stray | ⟨keyed, sameMounts, -⟩
  · exact .inl (project.trans stray)
  · refine .inr ⟨?_, mounts.trans sameMounts, Nat.le_of_eq revision.symm⟩
    rw [← keyed, sandboxKey, sandboxKey, project, id]

theorem weaken {less : Nat} (follows : Follows ahead key row sandbox) (isLess : less ≤ ahead) :
    Follows less key row sandbox :=
  follows.imp_right fun ⟨keyed, sameMounts, behind⟩ =>
    ⟨keyed, sameMounts, Nat.le_trans (Nat.add_le_add_left isLess _) behind⟩

theorem edited (follows : Follows ahead key row sandbox) (edited : Edited sandbox written) :
    Follows ahead key row written := by
  obtain ⟨_, _, _, _, rfl⟩ := edited
  exact follows.raise 0 rfl rfl rfl rfl

end Follows

theorem Installing.follows {choice : Choice} {memory : Memory} {next : State}
    (installing : Installing deployment thread choice memory records next)
    (isWritten : next.sandboxes = memory.state.sandboxes.insert (sandboxKey written) written)
    (present : records.tables.row key = some row) (follows : Follows 1 key row written) :
    RowsKept deployment.limits memory.state next := by
  rcases follows with stray | ⟨rfl, mounts, revision⟩
  · exact absurd stray (installing.named isWritten)
  · exact installing.rewrites isWritten present mounts revision

theorem Follows.looked {result : Except ServiceError Sandbox}
    (present : records.tables.row key = some row) (found : ∀ sandbox, result = .ok sandbox →
      records.tables.row key = some sandbox ∧ sandboxKey sandbox = key) :
    Follows 0 key row (sandboxOrZero result) := by
  cases result with
  | error error => exact .inl rfl
  | ok sandbox =>
    obtain ⟨isRow, keyed⟩ := found sandbox rfl
    cases present.symm.trans isRow
    exact .self keyed

/-! ## Operations and their keys -/

theorem OperationKept.settle {inFlight : Key → List Nat} {settled : Operation}
    (kind : settled.kind = operation.kind)
    (resource : operation.kind = "create_sandbox" → settled.resourceID = operation.resourceID)
    (open_ : operation.state ≠ .succeeded)
    (unfenced : inFlight (operation.projectID, operation.resourceID) = []) :
    OperationKept inFlight operation settled :=
  ⟨kind, resource, fun done => absurd done open_, .inr (.inl unfenced)⟩

theorem completeLatestOperation_cases (state : State) (projectID resourceID kindStart : String)
    (at_ : Time) :
    completeLatestOperation state projectID resourceID kindStart at_ = state ∨
    ∃ key operation, state.operations.lookup key = some operation ∧
      operation.projectID = projectID ∧ operation.resourceID = resourceID ∧
      completeLatestOperation state projectID resourceID kindStart at_ = state.putOperation
        { operation with state := .succeeded, updatedAt := at_, failure := none } := by
  unfold completeLatestOperation
  dsimp only
  split
  · exact .inl rfl
  next operation isSelected =>
  -- what the fold has selected so far is stored and of the given resource
  have selects := List.foldlRecOn (motive := fun selected => ∀ found, selected = some found →
    found.projectID = projectID ∧ found.resourceID = resourceID ∧
      ∃ key, state.operations.lookup key = some found) state.operations.entries
    _ (by simp) ?_ operation isSelected
  · obtain ⟨isProject, isResource, key, isStored⟩ := selects
    exact .inr ⟨key, operation, isStored, isProject, isResource, rfl⟩
  · intro selected isSound entry member found isFound
    split at isFound
    · exact isSound found isFound
    next fits =>
    simp only [not_or, not_not] at fits
    have isEntry : entry.2.projectID = projectID ∧ entry.2.resourceID = resourceID ∧
        ∃ key, state.operations.lookup key = some entry.2 :=
      ⟨fits.1, fits.2.1, entry.1, Table.mem_entries_iff.mp member⟩
    split at isFound
    · cases isFound
      exact isEntry
    · split at isFound
      · cases isFound
        exact isEntry
      · exact isSound found isFound

theorem Installing.cleans {choice : Choice} {memory : Memory} {next : State} {kindStart : String}
    {at_ : Time} {event : Event}
    (installing : Installing deployment thread choice memory records next) (finished : Sandbox)
    (settles : Prop) [Decidable settles]
    (isNext : next = (if settles then completeLatestOperation (memory.state.putSandbox finished)
      finished.projectID finished.id kindStart at_
      else memory.state.putSandbox finished).appendEvent event)
    (present : records.tables.row key = some row) (follows : Follows 1 key row finished)
    (free : records.inFlight key = []) :
    Written deployment.limits memory.inFlight memory.state next := by
  have rowOnly (after : State)
      (isRow : after.sandboxes = (memory.state.putSandbox finished).sandboxes)
      (installed : next.sandboxes = after.sandboxes) :
      RowsKept deployment.limits memory.state next :=
    installing.follows (installed.trans isRow) present follows
  by_cases isSettling : settles
  case neg =>
    rw [if_neg isSettling] at isNext
    subst isNext
    exact ⟨rowOnly _ rfl rfl, .of_eq rfl, .of_eq rfl rfl, .of_eq rfl⟩
  case pos =>
    rw [if_pos isSettling] at isNext
    rcases completeLatestOperation_cases (memory.state.putSandbox finished) finished.projectID
      finished.id kindStart at_ with same | ⟨stored, operation, isStored, isProject, isResource,
        settled⟩
    · rw [same] at isNext
      subst isNext
      exact ⟨rowOnly _ rfl rfl, .of_eq rfl, .of_eq rfl rfl, .of_eq rfl⟩
    · rw [settled] at isNext
      have isWritten : next.sandboxes =
          memory.state.sandboxes.insert (sandboxKey finished) finished := by
        rw [isNext]
        rfl
      have keyed : sandboxKey finished = key := by
        rcases follows with stray | ⟨keyed, -, -⟩
        · exact absurd stray (installing.named isWritten)
        · exact keyed
      have rows : RowsKept deployment.limits memory.state next :=
        installing.follows isWritten present follows
      have isSelf : stored = operationKey operation :=
        (State.scopedIdentity_iff.mp (((State.valid_iff _).mp installing.validBefore).operations
          isStored)).2.2.2
      subst isNext
      refine ⟨rows, .put rfl ?_, .of_eq rfl rfl, .of_eq rfl⟩
      intro found isFound
      have isOperation : memory.state.operations.lookup (operationKey operation) =
          some operation := isSelf ▸ isStored
      cases isOperation.symm.trans isFound
      refine ⟨rfl, fun _ => rfl, fun _ => rfl, .inr (.inl ?_)⟩
      have isKey : (operation.projectID, operation.resourceID) = key := by
        rw [isProject, isResource]
        exact keyed
      rw [isKey, installing.flights]
      exact free

theorem not_automatic {projectID : String} {index : IdempotencyKey} (isIndex : index.2.1 = kind)
    (different : hasStart kind "auto_pause_sandbox:" = false) :
    index ≠ (projectID, "auto_pause_sandbox:" ++ name, requestKey) := by
  rintro rfl
  have isKind : "auto_pause_sandbox:" ++ name = kind := isIndex
  rw [← isKind, hasStart, String.toList_append, List.isPrefixOf_iff_prefix.mpr
    (List.prefix_append _ _)] at different
  cases different

theorem repr_no_colon (number : Nat) : ':' ∉ (toString number).toList := by
  intro member
  rw [Nat.toString_eq_repr, Nat.toList_repr] at member
  have isDigit := Nat.isDigit_of_mem_toDigits (by decide) (by decide) member
  revert isDigit
  decide

/-- What follows the last colon of a text is determined. -/
theorem append_colon_inj {first second left right : List Char} (leftFree : ':' ∉ left)
    (rightFree : ':' ∉ right) (same : first ++ ':' :: left = second ++ ':' :: right) :
    left = right := by
  rcases List.append_eq_append_iff.mp same with ⟨rest, -, isRest⟩ | ⟨rest, -, isRest⟩
  · cases rest with
    | nil => exact (List.cons.inj isRest).2
    | cons _ rest =>
      refine absurd ?_ leftFree
      rw [(List.cons.inj isRest).2]
      simp
  · cases rest with
    | nil => exact (List.cons.inj isRest).2.symm
    | cons _ rest =>
      refine absurd ?_ rightFree
      rw [(List.cons.inj isRest).2]
      simp

theorem automaticKey_revision {lastActive otherActive : Time} {revision other : Nat}
    (same : automaticKey lastActive revision = automaticKey otherActive other) :
    revision = other := by
  have split (start digits : String) :
      (start ++ ":" ++ digits).toList = start.toList ++ ':' :: digits.toList := by
    simp
  have texts : (automaticKey lastActive revision).toList =
      (automaticKey otherActive other).toList := by
    rw [same]
  unfold automaticKey at texts
  rw [split, split] at texts
  have suffix := append_colon_inj (repr_no_colon revision) (repr_no_colon other) texts
  simp only [Nat.toString_eq_repr, Nat.toList_repr] at suffix
  have numbers := congrArg (Nat.ofDigitChars 10 · 0) suffix
  simpa only [Nat.ofDigitChars_ten_toDigits] using numbers

variable [Lookups]

/-! ## Opening an operation -/

theorem row_guards (present : records.tables.row key = some row)
    (follows : Follows 1 key row written) :
    Guards deployment thread (updateRows fun choice state => .ok ((),
      (state.putSandbox written).appendEvent (event choice)))
      (fun result after => result = .ok () →
        after.tables.row (sandboxKey written) = some written ∧
          after.inFlight = records.inFlight) records := by
  refine updateRows_guards (by simp) fun choice memory value next installing computed _ => ?_
  cases computed
  refine ⟨⟨installing.follows rfl present follows, .of_eq rfl, .of_eq rfl rfl, .of_eq rfl⟩,
    fun _ => ⟨?_, rfl⟩, by simp⟩
  exact AList.lookup_insert memory.state.sandboxes

/-- What a transition needs to know of the key it is about to claim. -/
structure Claimable (deployment : Deployment) (key : Key) (row : Sandbox) (kind requestKey : String)
    (records : Records) : Prop where
  unused : deployment.store = .file →
    records.tables.idempotency.lookup (key.1, kind, requestKey) = none
  sandboxed : beyondSandboxes kind = false
  automatic : hasStart kind "auto_pause_sandbox:" = false ∨
    kind = "auto_pause_sandbox:" ++ key.2 ∧
      ∃ lastActive, requestKey = automaticKey lastActive row.revision

/-- An operation has been opened for a sandbox that nobody has fenced. -/
structure Opened (key : Key) (operation : Operation) (records : Records) : Prop where
  free : records.inFlight key = []
  row : records.tables.row key ≠ none
  stored : records.tables.operations.lookup (operationKey operation) = some operation
  about : (operation.projectID, operation.resourceID) = key
  running : operation.state = .running
  sandboxed : beyondSandboxes operation.kind = false

theorem opening_guards {begun : Sandbox} (present : records.tables.row key = some row)
    (keyed : sandboxKey begun = key) (mounts : begun.workspaceMounts = row.workspaceMounts)
    (revision : begun.revision = row.revision + 1) (free : records.inFlight key = [])
    (isNew : records.tables.operations.lookup (operationKey operation) = none)
    (about : (operation.projectID, operation.resourceID) = key)
    (running : operation.state = .running) (claimable :
      Claimable deployment key row operation.kind operation.idempotencyKey records) :
    Guards deployment thread (updateRows fun choice state => .ok ((),
      (((state.putSandbox begun).putOperation operation).putIdempotency operation).appendEvent
        (event choice))) (fun result after => result = .ok () → Opened key operation after)
      records := by
  subst keyed
  refine updateRows_guards (by simp) ?_
  intro choice memory value next installing computed accepted
  cases computed
  have absent : memory.state.operations.lookup (operationKey operation) = none := by
    rw [installing.operations]
    exact isNew
  have isProject : operation.projectID = (sandboxKey begun).1 := congrArg Prod.fst about
  have unused : deployment.store = .file → records.tables.idempotency.lookup
      (operation.projectID, operation.kind, operation.idempotencyKey) = none := by
    rw [isProject]
    exact claimable.unused
  refine ⟨⟨?_, .open rfl absent, ?_, .of_eq rfl⟩, fun _ => ⟨free, ?_, ?_, about, running,
    claimable.sandboxed⟩, by simp⟩
  · exact installing.follows rfl present (.inr ⟨rfl, mounts, Nat.le_of_eq revision.symm⟩)
  · refine .claim rfl (.inl rfl) (installing.free accepted rfl isNew unused) ?_
    intro projectID name lastActive number isIndex
    rcases claimable.automatic with different | ⟨isKind, otherActive, isKey⟩
    · exact absurd isIndex (not_automatic rfl different)
    · -- the row this transaction writes has left the revision in the key behind
      simp only [Prod.mk.injEq] at isIndex
      obtain ⟨sameProject, isName, isNumber⟩ := isIndex
      rw [isKind, String.append_right_inj] at isName
      have sameKey : (projectID, name) = sandboxKey begun := by
        rw [← sameProject, ← isName, isProject]
      have sameNumber := automaticKey_revision (isKey.symm.trans isNumber)
      refine ⟨begun, sameKey ▸ AList.lookup_insert memory.state.sandboxes, ?_⟩
      omega
  · intro isNone
    have written : (memory.state.putSandbox begun).row (sandboxKey begun) = none := isNone
    rw [State.row_putSandbox, if_pos rfl] at written
    cases written
  · exact AList.lookup_insert memory.state.operations

theorem beginTransitionLocked_guards (present : records.tables.row key = some row)
    (keyed : sandboxKey sandbox = key) (mounts : sandbox.workspaceMounts = row.workspaceMounts)
    (revision : sandbox.revision = row.revision) (free : records.inFlight key = [])
    (claimable : Claimable deployment key row kind requestKey records) :
    Guards deployment thread (beginTransitionLocked sandbox requestKey kind target)
      (fun outcome after => outcome.2 = none → Opened key outcome.1 after) records := by
  unfold beginTransitionLocked
  split
  · exact guards_ret (by simp)
  refine guards_look fun at_ => ?_
  refine guards_bind randomID_guards ?_
  rintro id _ ⟨rfl, isNew⟩
  refine guards_bind (opening_guards present keyed mounts (congrArg (· + 1) revision) free
    (isNew _) keyed rfl claimable) ?_
  rintro result after opened
  refine guards_ret fun succeeded => opened ?_
  cases result with
  | ok value => rfl
  | error error => cases succeeded

/-! ## Transitions -/

/-- What the first section of a transition hands over: the fence, and the row it read back, unless
the lookup failed. -/
def Handed {ε : Type} (thread : Nat) (key : Key) :
    Except ε (Sandbox × Operation) → Records → Prop
  | .error _, _ => True
  | .ok (begun, operation), records =>
    ∃ row, Underway thread key row operation records ∧ Follows 0 key row begun

theorem Handed.kept {ε : Type} (result : Except ε (Sandbox × Operation)) :
    Kept deployment thread (Handed thread key result) := by
  refine kept_of_effect fun other before after distinct effect handed => ?_
  cases result with
  | error outcome => trivial
  | ok pair =>
    obtain ⟨row, underway, follows⟩ := handed
    exact ⟨row, underway.kept distinct effect, follows⟩

theorem setFence_underway (opened : Opened key operation records)
    (present : records.tables.row key = some row) :
    Guards deployment thread (setFence key)
      (fun _ after => Underway thread key row operation after) records := by
  refine guards_mono setFence_guards ?_
  rintro _ _ rfl
  refine ⟨⟨?_, present⟩, opened.stored, opened.about, opened.running, opened.sandboxed⟩
  simp only [Function.update_self, opened.free]

theorem lifecycleActionBegin_guards {source transitional : SandboxState}
    (sandboxed : beyondSandboxes (kind ++ ":" ++ key.2) = false)
    (manual : hasStart (kind ++ ":" ++ key.2) "auto_pause_sandbox:" = false) :
    Guards deployment thread (lifecycleActionBegin key requestKey kind source transitional)
      (Handed thread key) records := by
  unfold lifecycleActionBegin
  split
  · exact guards_ret trivial
  refine guards_getSandbox (fun _ => guards_ret trivial) fun sandbox present keyed => ?_
  refine guards_bind lookupIdempotency_guards ?_
  rintro existing _ ⟨rfl, unused⟩
  cases existing with
  | some existing => exact guards_ret trivial
  | none =>
  refine guards_unlessFenced (guards_ret trivial) fun free => ?_
  split
  · exact guards_ret trivial
  refine guards_unless (guards_ret trivial) ?_
  refine guards_bind (beginTransitionLocked_guards present keyed rfl rfl
    free ⟨unused rfl, sandboxed, .inl manual⟩) ?_
  rintro ⟨operation, error⟩ after opened
  cases error with
  | some error => exact guards_ret trivial
  | none =>
  obtain ⟨row, isRow⟩ := Option.ne_none_iff_exists'.mp (opened rfl).row
  refine guards_bind getSandbox_guards ?_
  rintro looked _ ⟨rfl, read⟩
  refine guards_bind (setFence_underway (opened rfl) isRow) ?_
  rintro _ last underway
  exact guards_ret ⟨row, underway, .looked isRow read⟩

/-- The write that ends a transition: the row and the operation, once the fence is down. -/
theorem settling_guards {settled : Operation} (free : records.inFlight key = [])
    (present : records.tables.row key = some row) (follows : Follows 1 key row written)
    (stored : records.tables.operations.lookup (operationKey operation) = some operation)
    (about : (operation.projectID, operation.resourceID) = key)
    (running : operation.state = .running) (sameKey : operationKey settled = operationKey operation)
    (kind : settled.kind = operation.kind) (resource : settled.resourceID = operation.resourceID) :
    Guards deployment thread (updateRows fun choice state => .ok ((),
      ((state.putSandbox written).putOperation settled).appendEvent (event choice)))
      (fun _ _ => True) records := by
  refine updateRows_any fun choice memory value next installing computed => ?_
  cases computed
  refine ⟨installing.follows rfl present follows, .put rfl ?_, .of_eq rfl rfl, .of_eq rfl⟩
  intro found isFound
  rw [sameKey] at isFound
  have isStored : memory.state.operations.lookup (operationKey operation) = some operation := by
    rw [installing.operations]
    exact stored
  cases isStored.symm.trans isFound
  refine .settle kind (fun _ => resource) (by simp [running]) ?_
  rw [installing.flights, about]
  exact free

theorem finishTransition_guards {failureCode : Option String}
    (underway : Underway thread key row operation records) (follows : Follows 0 key row sandbox) :
    Guards deployment thread (finishTransition key sandbox operation target failureCode)
      (fun _ _ => True) records := by
  unfold finishTransition
  refine guards_bind clearFence_guards ?_
  rintro _ _ rfl
  cases failureCode with
  | some code =>
    unfold failTransitionLocked
    refine guards_look fun at_ => ?_
    refine guards_bind (settling_guards underway.cleared underway.row
      (follows.next rfl rfl rfl rfl) underway.stored underway.about
      underway.running rfl rfl rfl) ?_
    rintro result after _
    exact guards_ret trivial
  | none =>
    unfold completeTransitionLocked
    dsimp only
    split
    · exact guards_ret trivial
    refine guards_look fun at_ => ?_
    refine guards_bind (access_spared ?_) ?_
    · intro choice memory
      dsimp only
      split <;> rfl
    rintro _ _ rfl
    have completed : Follows 1 key row (completedSandbox sandbox target at_) := by
      unfold completedSandbox
      dsimp only
      split
      · exact follows.next rfl rfl rfl rfl
      · exact follows.next rfl rfl rfl rfl
    refine guards_bind (settling_guards underway.cleared underway.row completed underway.stored
      underway.about underway.running rfl rfl rfl) ?_
    rintro result after _
    exact guards_ret trivial

/-- The middle and the end of a transition. -/
theorem settled_bridges {α : Type} {begun : Sandbox} {call : Code (Sandbox × α)}
    (code : α → Option String) (spares : Spares deployment call (Returns begun)) :
    Bridges deployment thread
      (fun records => ∃ row, Underway thread key row operation records ∧ Follows 0 key row begun)
      (call >>= fun outcome =>
        locked (finishTransition key outcome.1 operation target (code outcome.2)))
      (fun _ _ => True) := by
  have kept : Kept deployment thread (fun records =>
      ∃ row, Underway thread key row operation records ∧ Follows 0 key row begun) :=
    Handed.kept (.ok (begun, operation) : Except Unit (Sandbox × Operation))
  refine bridges_bind (bridges_spares kept spares) ?_
  rintro ⟨sandbox, result⟩
  refine bridges_locked (fun _ => kept_true) ?_
  rintro records ⟨⟨row, underway, follows⟩, returned⟩
  exact finishTransition_guards underway (follows.edited returned)

theorem lifecycleAction_bridges {source transitional : SandboxState}
    {call : Sandbox → Code (Sandbox × Bool)}
    (sandboxed : beyondSandboxes (kind ++ ":" ++ key.2) = false)
    (manual : hasStart (kind ++ ":" ++ key.2) "auto_pause_sandbox:" = false)
    (spares : ∀ sandbox, Spares deployment (call sandbox) (Returns sandbox)) :
    Conforms deployment thread
      (lifecycleAction key requestKey kind source transitional target call) := by
  unfold lifecycleAction
  refine bridges_bind (bridges_locked Handed.kept fun _ _ =>
    lifecycleActionBegin_guards sandboxed manual) ?_
  rintro (outcome | ⟨begun, operation⟩)
  · exact bridges_done
  · exact settled_bridges
      (fun succeeded => if succeeded = true then none else some ("backend_" ++ kind ++ "_failed"))
      (spares begun)

theorem pause_bridges :
    Conforms deployment thread (pause deployment key requestKey) :=
  lifecycleAction_bridges (by simp [beyondSandboxes, hasStart, List.isPrefixOf])
    (by simp [hasStart, List.isPrefixOf]) fun _ => pauseOutside_spares

theorem resume_bridges {fuel : Nat} :
    Conforms deployment thread (resume deployment fuel key requestKey) :=
  lifecycleAction_bridges (by simp [beyondSandboxes, hasStart, List.isPrefixOf])
    (by simp [hasStart, List.isPrefixOf]) fun _ => resumeOutside_spares fuel

theorem deleteBegin_guards :
    Guards deployment thread (deleteBegin key requestKey) (Handed thread key) records := by
  unfold deleteBegin
  split
  · exact guards_ret trivial
  refine guards_getSandbox (fun _ => guards_ret trivial) fun sandbox present keyed => ?_
  refine guards_bind lookupIdempotency_guards ?_
  rintro existing _ ⟨rfl, unused⟩
  cases existing with
  | some existing => exact guards_ret trivial
  | none =>
  refine guards_unlessFenced (guards_ret trivial) fun free => ?_
  split
  · exact guards_ret trivial
  refine guards_unless (guards_ret trivial) ?_
  have claimable : Claimable deployment key sandbox ("delete_sandbox:" ++ key.2) requestKey
      records :=
    ⟨unused rfl, by simp [beyondSandboxes, hasStart, List.isPrefixOf],
      .inl (by simp [hasStart, List.isPrefixOf])⟩
  refine guards_bind (beginTransitionLocked_guards present keyed rfl rfl
    free claimable) ?_
  rintro ⟨operation, error⟩ after opened
  cases error with
  | some error => exact guards_ret trivial
  | none =>
  obtain ⟨row, isRow⟩ := Option.ne_none_iff_exists'.mp (opened rfl).row
  refine guards_bind getSandbox_guards ?_
  rintro looked _ ⟨rfl, read⟩
  refine guards_bind (setFence_underway (opened rfl) isRow) ?_
  rintro _ last underway
  exact guards_ret ⟨row, underway, .looked isRow read⟩

theorem delete_bridges :
    Conforms deployment thread (delete deployment key requestKey) := by
  unfold delete
  refine bridges_bind (bridges_locked Handed.kept fun _ _ => deleteBegin_guards) ?_
  rintro (outcome | ⟨begun, operation⟩)
  · exact bridges_done
  · exact settled_bridges deleteFailureCode cleanupSandboxOutsideLock_spares

/-! ## Checkpoints -/

/-- The body of a transaction that opens an operation and leaves the sandboxes alone. -/
structure Opens (operation : Operation) (body : State → State) : Prop where
  rows : ∀ state, (body state).sandboxes = state.sandboxes
  operations : ∀ state,
    (body state).operations = state.operations.insert (operationKey operation) operation
  claims : ∀ state, (body state).idempotency = state.idempotency.insert
    (operation.projectID, operation.kind, operation.idempotencyKey) operation.id
  digests : ∀ state, (body state).idempotencyDigests = state.idempotencyDigests ∨
    ∃ digest, (body state).idempotencyDigests = state.idempotencyDigests.insert
      (operation.projectID, operation.kind, operation.idempotencyKey) digest

theorem claiming_guards {body : State → State} (opens : Opens operation body)
    (workspaces : ∀ choice memory,
      Installing deployment thread choice memory records (body memory.state) →
      WorkspacesKept memory.state (body memory.state))
    (isNew : records.tables.operations.lookup (operationKey operation) = none)
    (unused : deployment.store = .file → records.tables.idempotency.lookup
      (operation.projectID, operation.kind, operation.idempotencyKey) = none)
    (manual : hasStart operation.kind "auto_pause_sandbox:" = false) :
    Guards deployment thread (updateRows fun _ state => .ok ((), body state))
      (fun result after => result = .ok () → ∃ state : State,
        records.tables = { state with events := [] } ∧
        after = ⟨{ body state with events := [] }, records.inFlight⟩) records := by
  refine updateRows_guards (by simp) ?_
  intro choice memory value next installing computed accepted
  cases computed
  have absent : memory.state.operations.lookup (operationKey operation) = none := by
    rw [installing.operations]
    exact isNew
  refine ⟨⟨.of_eq (opens.rows _), .open (opens.operations _) absent, ?_,
    workspaces choice memory installing⟩,
    fun _ => ⟨memory.state, congrArg Records.tables installing.view.symm, rfl⟩, by simp⟩
  refine .claim (opens.claims _) (opens.digests _)
    (installing.free accepted (opens.claims _) isNew unused) ?_
  intro projectID name lastActive revision isIndex
  exact absurd isIndex (not_automatic rfl manual)

theorem checkpointBegin_guards {kind : CheckpointKind} :
    Guards deployment thread (checkpointBegin deployment key requestKey name kind)
      (fun result after => Handed thread key result after ∧
        ∀ sandbox operation, result = .ok (sandbox, operation) →
          operation.kind ≠ "create_sandbox") records := by
  have refused : ∀ outcome, Guards deployment thread
      (pure (.error outcome) : Code (Except (Checkpoint × Operation × Option ServiceError)
        (Sandbox × Operation))) (fun result after => Handed thread key result after ∧
          ∀ sandbox operation, result = .ok (sandbox, operation) →
            operation.kind ≠ "create_sandbox") records :=
    fun _ => guards_ret ⟨trivial, by simp⟩
  unfold checkpointBegin
  split
  · exact refused _
  split
  · exact refused _
  refine guards_getSandbox (fun _ => refused _) fun sandbox present keyed => ?_
  dsimp only
  split
  · exact refused _
  refine guards_unless (refused _) ?_
  split
  · exact refused _
  refine guards_bind lookupIdempotencyInput_guards ?_
  rintro existing _ ⟨rfl, unused⟩
  cases existing with
  | error error => exact refused _
  | ok existing =>
  cases existing with
  | some existing =>
    refine guards_look fun checkpoint => ?_
    exact refused _
  | none =>
  refine guards_unlessFenced (refused _) fun free => ?_
  refine guards_bind randomID_guards ?_
  rintro id _ ⟨rfl, isNew⟩
  refine guards_look fun at_ => ?_
  refine guards_bind (claiming_guards
    ⟨fun _ => rfl, fun _ => rfl, fun _ => rfl, fun _ => .inr ⟨_, rfl⟩⟩ (fun _ _ _ => .of_eq rfl)
    (isNew _) (fun _ => unused rfl) (by simp [hasStart, List.isPrefixOf])) ?_
  rintro (error | ⟨⟩) after opened
  · exact guards_ret ⟨trivial, by simp⟩
  · obtain ⟨state, isTables, rfl⟩ := opened rfl
    have isPresent : state.row key = some sandbox := by
      rw [isTables] at present
      exact present
    refine guards_bind (setFence_underway ⟨free,
      fun isNone => absurd (isPresent.symm.trans isNone) (by simp),
      AList.lookup_insert state.operations, rfl, rfl,
      by simp [beyondSandboxes, hasStart, List.isPrefixOf]⟩ isPresent) ?_
    rintro _ last underway
    refine guards_ret ⟨⟨sandbox, underway, .self keyed⟩, ?_⟩
    rintro _ _ ⟨⟩ isCreation
    simpa using congrArg String.toList isCreation

/-- The body of a transaction that settles an operation and leaves the sandboxes and the workspaces
alone. -/
structure Settles (settled : Operation) (body : Choice → State → State) : Prop where
  rows : ∀ choice state, (body choice state).sandboxes = state.sandboxes
  workspaces : ∀ choice state, (body choice state).workspaces = state.workspaces
  operations : ∀ choice state,
    (body choice state).operations = state.operations.insert (operationKey settled) settled
  claims : ∀ choice state, (body choice state).idempotency = state.idempotency
  digests : ∀ choice state, (body choice state).idempotencyDigests = state.idempotencyDigests

theorem settle_guards (operation settled : Operation) {body : Choice → State → State}
    (settles : Settles settled body)
    (stored : records.tables.operations.lookup (operationKey operation) = some operation)
    (sameKey : operationKey settled = operationKey operation)
    (kept : OperationKept records.inFlight operation settled) :
    Guards deployment thread (updateRows fun choice state => .ok ((), body choice state))
      (fun _ _ => True) records := by
  refine updateRows_any fun choice memory value next installing computed => ?_
  cases computed
  refine ⟨.of_eq (settles.rows _ _), .put (settles.operations _ _) ?_,
    .of_eq (settles.claims _ _) (settles.digests _ _), .of_eq (settles.workspaces _ _)⟩
  intro found isFound
  rw [sameKey, installing.operations, stored] at isFound
  cases isFound
  rw [installing.flights]
  exact kept

theorem checkpointFinish_guards {kind : CheckpointKind}
    {reply : Except BackendError RemoteCheckpoint}
    (underway : Underway thread key row operation records)
    (isCheckpoint : operation.kind ≠ "create_sandbox") :
    Guards deployment thread (checkpointFinish key kind sandbox operation reply)
      (fun _ _ => True) records := by
  unfold checkpointFinish
  refine guards_bind clearFence_guards ?_
  rintro _ _ rfl
  have free : Function.update records.inFlight key ((records.inFlight key).erase thread)
      (operation.projectID, operation.resourceID) = [] := by
    rw [underway.about]
    exact underway.cleared
  cases reply with
  | error error =>
    refine guards_look fun at_ => ?_
    exact guards_last (settle_guards operation { operation with
      state := .failed, updatedAt := at_
      failure := some ⟨"backend_checkpoint_failed",
        "sandbox backend could not create the checkpoint", true⟩ }
      ⟨fun _ _ => rfl, fun _ _ => rfl, fun _ _ => rfl, fun _ _ => rfl, fun _ _ => rfl⟩
      underway.stored rfl (.settle rfl (fun _ => rfl) (by simp [underway.running]) free))
  | ok remote =>
    refine guards_look fun id => ?_
    refine guards_look fun createdAt => ?_
    refine guards_look fun at_ => ?_
    exact guards_last (settle_guards operation
      { operation with resourceID := id, state := .succeeded, updatedAt := at_ }
      ⟨fun _ _ => rfl, fun _ _ => rfl, fun _ _ => rfl, fun _ _ => rfl, fun _ _ => rfl⟩
      underway.stored rfl (.settle rfl (fun isCreation => absurd isCreation isCheckpoint)
        (by simp [underway.running]) free))

theorem checkpoint_bridges {kind : CheckpointKind} :
    Conforms deployment thread (checkpoint deployment key requestKey name kind) := by
  unfold checkpoint
  have kept (result : Except (Checkpoint × Operation × Option ServiceError) (Sandbox × Operation)) :
      Kept deployment thread fun after => Handed thread key result after ∧
        ∀ sandbox operation, result = .ok (sandbox, operation) →
          operation.kind ≠ "create_sandbox" :=
    fun _ _ interferes holds => ⟨Handed.kept result interferes holds.1, holds.2⟩
  refine bridges_bind (bridges_locked kept fun _ _ => checkpointBegin_guards) ?_
  rintro (outcome | ⟨sandbox, operation⟩)
  · exact bridges_done
  · refine bridges_bind (bridges_spares (kept _) (backendCall_spares trivial)) fun reply => ?_
    refine bridges_locked (fun _ => kept_true) ?_
    rintro records ⟨⟨⟨row, underway, -⟩, isCheckpoint⟩, -⟩
    exact checkpointFinish_guards underway (isCheckpoint _ _ rfl)

theorem deleteCheckpointFinish_guards {source : Key} {failure : Option BackendError}
    (stored : records.tables.operations.lookup (operationKey operation) = some operation)
    (running : operation.state = .running) (beyond : beyondSandboxes operation.kind = true) :
    Guards deployment thread (deleteCheckpointFinish key source operation failure)
      (fun _ _ => True) records := by
  unfold deleteCheckpointFinish
  cases failure with
  | some error =>
    refine guards_look fun at_ => ?_
    exact guards_last (settle_guards operation { operation with
      state := .failed, updatedAt := at_
      failure := some ⟨"backend_checkpoint_delete_unconfirmed",
        "sandbox engine did not confirm checkpoint cleanup", true⟩ }
      ⟨fun _ _ => rfl, fun _ _ => rfl, fun _ _ => rfl, fun _ _ => rfl, fun _ _ => rfl⟩ stored rfl
      ⟨rfl, fun _ => rfl, by simp [running], .inr (.inr beyond)⟩)
  | none =>
    refine guards_look fun at_ => ?_
    refine guards_bind (settle_guards operation
      { operation with state := .succeeded, updatedAt := at_ } ⟨?_, ?_, ?_, ?_, ?_⟩ stored rfl
      ⟨rfl, fun _ => rfl, fun _ => rfl, .inr (.inr beyond)⟩) ?_
    · intro choice state
      split <;> rfl
    · intro choice state
      split <;> rfl
    · intro choice state
      split <;> rfl
    · intro choice state
      split <;> rfl
    · intro choice state
      split <;> rfl
    rintro _ _ _
    exact guards_ret trivial

theorem getCheckpoint_guards :
    Guards deployment thread (getCheckpoint key) (fun result after => records = after ∧
      ∀ checkpoint, result = .ok checkpoint →
        records.tables.checkpoints.lookup key = some checkpoint) records := by
  refine look_guards fun choice memory reading checkpoint found => ?_
  rw [← reading.view]
  split at found
  · cases found
  split at found
  · cases found
  · next present =>
    cases found
    exact present

theorem checkpointInUseLocked_guards {checkpoint : Checkpoint} :
    Guards deployment thread (checkpointInUseLocked key checkpoint.sourceSandboxID)
      (fun inUse after => records = after ∧ (inUse = false → Lookups.answered thread →
        ¬ InUse records.tables key checkpoint)) records := by
  refine look_guards fun choice memory reading isFree isAnswered => ?_
  have sound := reading.sound.valid
  rw [reading.answered isAnswered, Bool.not_false, Bool.true_and, List.any_eq_false] at isFree
  rw [← reading.view] at sound ⊢
  rintro ⟨id, sandbox, present, isLive, isUser⟩
  have keyed := row_keyed sound present
  refine isFree ⟨(key.1, id), sandbox⟩ (Table.mem_entries_iff.mpr present) ?_
  have isProject : sandbox.projectID = key.1 := congrArg Prod.fst keyed
  have isID : sandbox.id = id := congrArg Prod.snd keyed
  simp only [isProject, isID, isLive]
  rcases isUser with restored | isSource
  · simp [restored]
  · simp [isSource]

theorem deleteCheckpoint_bridges :
    Conforms deployment thread (deleteCheckpoint key requestKey) := by
  refine bridges_locked (fun _ => kept_true) fun records _ => ?_
  unfold deleteCheckpointLocked
  split
  · exact guards_ret trivial
  refine guards_bind lookupIdempotency_guards ?_
  rintro existing _ ⟨rfl, unused⟩
  cases existing with
  | some existing => exact guards_ret trivial
  | none =>
  refine guards_bind getCheckpoint_guards ?_
  rintro result _ ⟨rfl, found⟩
  cases result with
  | error error => exact guards_ret trivial
  | ok checkpoint =>
  have present := found checkpoint rfl
  refine guards_bind checkpointInUseLocked_guards ?_
  rintro inUse _ ⟨rfl, unused_⟩
  dsimp only
  split
  · exact guards_ret trivial
  next isFree =>
  have isUnused := unused_ (by simpa using isFree)
  refine guards_look fun at_ => ?_
  refine guards_bind randomID_guards ?_
  rintro id _ ⟨rfl, isNew⟩
  refine guards_bind (claiming_guards
    ⟨fun _ => rfl, fun _ => rfl, fun _ => rfl, fun _ => .inl rfl⟩ (fun _ _ _ => .of_eq rfl)
    (isNew _) (unused rfl) (by simp [hasStart, List.isPrefixOf])) ?_
  rintro (error | ⟨⟩) after opened
  · exact guards_ret trivial
  obtain ⟨state, isTables, rfl⟩ := opened rfl
  rw [isTables] at present isUnused
  refine guards_bind (guards_call fun _ => ⟨key, checkpoint, present, rfl, rfl, isUnused⟩) ?_
  rintro reply _ rfl
  have beyond : beyondSandboxes ("delete_checkpoint:" ++ key.2) = true := by
    simp [beyondSandboxes, hasStart, List.isPrefixOf]
  split
  · exact deleteCheckpointFinish_guards (AList.lookup_insert state.operations) rfl beyond
  · exact deleteCheckpointFinish_guards (AList.lookup_insert state.operations) rfl beyond
  · exact deleteCheckpointFinish_guards (AList.lookup_insert state.operations) rfl beyond

/-! ## Cleanup -/

theorem markUnknownLocked_guards {code : String} (present : records.tables.row key = some row)
    (follows : Follows 0 key row sandbox) :
    Guards deployment thread (markUnknownLocked sandbox code) (fun _ _ => True) records := by
  unfold markUnknownLocked
  refine guards_look fun at_ => ?_
  exact guards_last (row_guards present (follows.next rfl rfl rfl rfl))

theorem markMissingLocked_guards (present : records.tables.row key = some row)
    (follows : Follows 0 key row sandbox) :
    Guards deployment thread (markMissingLocked sandbox) (fun _ _ => True) records := by
  unfold markMissingLocked
  refine guards_note ?_
  refine guards_look fun at_ => ?_
  exact guards_last (row_guards present (follows.next rfl rfl rfl rfl))

theorem finishCleanupLocked_guards (present : records.tables.row key = some row)
    (follows : Follows 0 key row sandbox) (free : records.inFlight key = []) :
    Guards deployment thread (finishCleanupLocked sandbox target) (fun _ _ => True) records := by
  unfold finishCleanupLocked
  refine guards_look fun at_ => ?_
  refine guards_bind (updateRows_any ?_) ?_
  · intro choice memory value next installing computed
    have isNext := congrArg Prod.snd (Except.ok.inj computed)
    exact installing.cleans { sandbox with
      state := target, updatedAt := at_, revision := sandbox.revision + 1, failure := none }
      (target = .deleted) isNext.symm present (follows.next rfl rfl rfl rfl) free
  · rintro _ _ _
    exact guards_ret trivial

theorem findLocked_spares :
    Spares deployment (findLocked sandbox) fun result =>
      ∀ found, result = some found → Edited sandbox found := by
  unfold findLocked
  split
  · rintro _ ⟨⟩
    exact .refl sandbox
  refine spares_bind (backendCall_spares trivial) fun reply _ => ?_
  split
  · rintro _ ⟨⟩
    exact .identify sandbox _
  · rintro _ ⟨⟩
    exact .refl sandbox
  · rintro _ ⟨⟩

theorem reconcileCleanupLocked_guards (present : records.tables.row key = some row)
    (keyed : sandboxKey row = key) (free : records.inFlight key = []) :
    Guards deployment thread (reconcileCleanupLocked deployment row) (fun _ _ => True)
      records := by
  have follows := Follows.self keyed
  unfold reconcileCleanupLocked
  split
  · exact guards_ret trivial
  refine guards_note ?_
  refine guards_bind (guards_spares findLocked_spares) ?_
  rintro result _ ⟨rfl, found⟩
  cases result with
  | none => exact markUnknownLocked_guards present follows
  | some sandbox =>
  have following := follows.edited (found sandbox rfl)
  refine guards_bind (guards_spares deleteBackend_spares) ?_
  rintro error _ ⟨rfl, -⟩
  cases error with
  | some error => exact markUnknownLocked_guards present following
  | none =>
  refine guards_bind (guards_spares removeNodeRoute_spares) ?_
  rintro ⟨removed, failure⟩ _ ⟨rfl, returned⟩
  cases failure with
  | some failure => exact markUnknownLocked_guards present (following.edited returned)
  | none => exact finishCleanupLocked_guards present (following.edited returned) free

theorem beginExpirationLocked_guards (present : records.tables.row key = some row)
    (keyed : sandboxKey row = key) :
    Guards deployment thread (beginExpirationLocked row) (fun outcome after =>
      outcome.2 = none → after.tables.row key = some outcome.1 ∧ sandboxKey outcome.1 = key ∧
        after.inFlight = records.inFlight) records := by
  unfold beginExpirationLocked
  split
  · exact guards_ret (by simp)
  split
  · exact guards_ret fun _ => ⟨present, keyed, rfl⟩
  split
  · exact guards_ret (by simp)
  refine guards_look fun at_ => ?_
  refine guards_bind (row_guards present ((Follows.self keyed).next rfl rfl rfl rfl)) ?_
  rintro result after written
  refine guards_ret fun succeeded => ?_
  cases result with
  | error error => cases succeeded
  | ok value =>
    obtain ⟨isRow, sameFlights⟩ := written rfl
    subst keyed
    exact ⟨isRow, rfl, sameFlights⟩

theorem expireLocked_guards (present : records.tables.row key = some row)
    (keyed : sandboxKey row = key) (free : records.inFlight key = []) :
    Guards deployment thread (expireLocked deployment row) (fun _ _ => True) records := by
  unfold expireLocked
  refine guards_bind (beginExpirationLocked_guards present keyed) ?_
  rintro ⟨expiring, error⟩ after begun
  cases error with
  | some error => exact guards_ret trivial
  | none =>
    obtain ⟨isRow, isKeyed, sameFlights⟩ := begun rfl
    exact reconcileCleanupLocked_guards isRow isKeyed ((congrFun sameFlights key).trans free)

end Brezel.Service
