import Brezel.Service.Records.Sandboxes

/-!
# Declarations and workspaces keep the records

A declaration opens and closes its operation in one transaction, under a key that the same
transaction finds free.

A workspace is created and deleted inside the mutex.  The intent to delete it is written only when
no live sandbox mounts it, and it stays; so wherever the backend is asked to delete a workspace, in
`DeleteWorkspace` or later in a reconciliation pass without the mutex, the intent is there.
-/

namespace Brezel.Service

open Domain Store

variable {deployment : Deployment} {thread : Nat} {records : Records} {key : Key}
variable {limits : Limits} {inFlight : Key → List Nat} {after before next state : State}
  {operation : Operation} {digest projectID requestKey : String}

/-! ## Declarations -/

theorem Written.declare {base : State} (rows : base.sandboxes = before.sandboxes)
    (workspaces : base.workspaces = before.workspaces)
    (operations : base.operations = before.operations)
    (claims : base.idempotency = before.idempotency)
    (digests : base.idempotencyDigests = before.idempotencyDigests)
    (isNew : before.operations.lookup (operationKey operation) = none)
    (free : before.idempotency.lookup
      (operation.projectID, operation.kind, operation.idempotencyKey) = none)
    (manual : hasStart operation.kind "auto_pause_sandbox:" = false) :
    Written limits inFlight before (recordDeclaration operation digest base) where
  rows := .of_eq rows
  operations := by
    apply OperationsKept.open _ isNew
    rw [← operations]
    rfl
  claims := by
    have claimed : (recordDeclaration operation digest base).idempotency =
        before.idempotency.insert
          (operation.projectID, operation.kind, operation.idempotencyKey) operation.id := by
      rw [← claims]
      rfl
    have described : (recordDeclaration operation digest base).idempotencyDigests =
        before.idempotencyDigests.insert
          (operation.projectID, operation.kind, operation.idempotencyKey) digest := by
      rw [← digests]
      rfl
    apply ClaimsKept.claim claimed (.inr ⟨digest, described⟩) free
    intro projectID name lastActive revision isIndex
    exact absurd isIndex (not_automatic rfl manual)
  workspaces := .of_eq workspaces

theorem unclaimed (isValid : state.valid = true) {index : IdempotencyKey}
    (isNone : state.idempotentOperation index = none) : state.idempotency.lookup index = none := by
  apply idempotentOperation_none isValid
  rw [isNone]
  rfl

theorem environmentRows_written {environment : Environment} {value : Environment × Operation}
    (isValid : state.valid = true) (isNew : state.operations.lookup (operationKey operation) = none)
    (isKind : operation.kind = "create_environment")
    (computed : environmentRows environment operation digest state = .ok (value, next)) :
    Written limits inFlight state next := by
  have manual : hasStart operation.kind "auto_pause_sandbox:" = false := by
    rw [isKind]
    decide
  simp only [environmentRows] at computed
  split at computed
  · split at computed
    · cases computed
    · cases computed
      exact .refl _
  next isFree =>
  have free := unclaimed isValid isFree
  rw [← isKind] at free
  split at computed
  · cases computed
    exact .declare rfl rfl rfl rfl rfl isNew free manual
  · cases computed
    exact .declare rfl rfl rfl rfl rfl isNew free manual

theorem connectorRows_written {connector : Connector} {value : Connector × Operation}
    (isValid : state.valid = true) (isNew : state.operations.lookup (operationKey operation) = none)
    (isKind : operation.kind = "create_connector")
    (computed : connectorRows limits connector operation digest state = .ok (value, next)) :
    Written limits inFlight state next := by
  have manual : hasStart operation.kind "auto_pause_sandbox:" = false := by
    rw [isKind]
    decide
  simp only [connectorRows] at computed
  split at computed
  · split at computed
    · cases computed
    · cases computed
      exact .refl _
  next isFree =>
  have free := unclaimed isValid isFree
  rw [← isKind] at free
  split at computed
  · cases computed
  · cases computed
    exact .declare rfl rfl rfl rfl rfl isNew free manual

/-! ## Settled operations -/

theorem OperationKept.trans {first second third : Operation}
    (left : OperationKept inFlight first second) (right : OperationKept inFlight second third) :
    OperationKept inFlight first third where
  kind := right.kind.trans left.kind
  resource isCreation :=
    (right.resource (left.kind.trans isCreation)).trans (left.resource isCreation)
  succeeded done := right.succeeded (left.succeeded done)
  unfenced := by
    rcases left.unfenced with rfl | unowned
    · exact right.unfenced
    · exact .inr unowned

/-- What settling the selected operations does: it touches the operations only. -/
structure SettledFrom (inFlight : Key → List Nat) (before after : State) : Prop where
  operations : OperationsKept inFlight before after
  rows : after.sandboxes = before.sandboxes
  workspaces : after.workspaces = before.workspaces
  claims : after.idempotency = before.idempotency
  digests : after.idempotencyDigests = before.idempotencyDigests

theorem settleOperations_settled {settle : Operation → Operation} {operations : List Operation}
    (keyed : ∀ operation, operationKey (settle operation) = operationKey operation)
    (keeps : ∀ operation ∈ operations, ∀ persisted, sameOperationVersion persisted operation →
      OperationKept inFlight persisted (settle operation))
    (isSettled : settleOperations settle operations before = .ok after) :
    SettledFrom inFlight before after := by
  induction operations generalizing before with
  | nil =>
    cases isSettled
    exact ⟨.of_eq rfl, rfl, rfl, rfl, rfl⟩
  | cons operation rest ih =>
    simp only [settleOperations] at isSettled
    split at isSettled
    · cases isSettled
    next persisted isStored =>
    split at isSettled
    · next sameVersion =>
      have kept := keeps operation List.mem_cons_self persisted sameVersion
      have later := ih
        (fun other member => keeps other (List.mem_cons_of_mem _ member)) isSettled
      have first : OperationsKept inFlight before (before.putOperation (settle operation)) := by
        apply OperationsKept.put rfl
        intro found isFound
        rw [keyed, isStored] at isFound
        cases isFound
        exact kept
      refine ⟨?_, later.rows, later.workspaces, later.claims, later.digests⟩
      intro key found stored
      obtain ⟨middle, isMiddle, left⟩ := first key found stored
      obtain ⟨last, isLast, right⟩ := later.operations key middle isMiddle
      exact ⟨last, isLast, left.trans right⟩
    · cases isSettled

/-- What is selected for settling is a listed operation of one of the families, not yet done. -/
theorem mem_latestIncompleteOperations {candidates : List Operation} {kindStarts : List String}
    (member : operation ∈ latestIncompleteOperations candidates kindStarts) :
    operation ∈ candidates ∧ operation.state ≠ .succeeded ∧
      ∃ kindStart ∈ kindStarts, hasStart operation.kind kindStart = true := by
  obtain ⟨kindStart, isStart, isSelected⟩ := List.mem_filterMap.mp member
  obtain ⟨isLatest, isOpen⟩ := Option.filter_eq_some_iff.mp isSelected
  have selects := List.foldlRecOn (motive := fun selected => ∀ found, selected = some found →
    found ∈ candidates ∧ hasStart found.kind kindStart = true) candidates
    _ (by simp) ?_ operation isLatest
  · simp only [Bool.and_eq_true, decide_eq_true_eq] at isOpen
    exact ⟨selects.1, isOpen.2, kindStart, isStart, selects.2⟩
  · intro selected isSound candidate isCandidate found isFound
    split at isFound
    · exact isSound found isFound
    next fits =>
    have isCandidate' : candidate ∈ candidates ∧ hasStart candidate.kind kindStart = true :=
      ⟨isCandidate, by simpa using fits⟩
    split at isFound
    · cases isFound
      exact isCandidate'
    · split at isFound
      · cases isFound
        exact isCandidate'
      · exact isSound found isFound

/-! ## Workspaces -/

/-- A record with the same intent and name, and with the same backend identifier once the workspace
is to be deleted. -/
structure SameVolume (current written : Workspace) : Prop where
  target : written.cleanupTarget = current.cleanupTarget
  name : written.backendName = current.backendName
  identified : current.cleanupTarget = .deleted → current.backendID ≠ "" →
    written.backendID = current.backendID

theorem WorkspacesKept.rewrite {current written : Workspace}
    (isAfter : after.workspaces = before.workspaces.insert key written)
    (present : before.workspaces.lookup key = some current)
    (same : SameVolume current written) (sound : WorkspaceSound written) :
    WorkspacesKept before after := by
  apply WorkspacesKept.put isAfter _ _ sound
  · intro found isFound
    cases present.symm.trans isFound
    exact ⟨fun intended => same.target.trans intended,
      fun intended => .inl (same.target.symm.trans intended), same.name, same.identified⟩
  · intro absent
    cases absent.symm.trans present

theorem workspace_keyed (isValid : state.valid = true) {workspace : Workspace}
    (present : state.workspaces.lookup key = some workspace) : workspaceKey workspace = key :=
  (State.scopedIdentity_iff.mp (((State.valid_iff _).mp isValid).workspaces present)).2.2.2.symm

/-- The transaction of a creation finds an earlier operation, or writes the new workspace. -/
theorem workspaceRows_cases {workspace : Workspace} {pair : Workspace × Operation}
    (computed : workspaceRows workspace operation digest state = .ok (pair, next)) :
    (next = state ∧ ∃ entry ∈ state.operations.entries, entry.2 = pair.2) ∨
      state.idempotentOperation
        (operation.projectID, "create_workspace", operation.idempotencyKey) = none ∧
      pair = (workspace, operation) ∧
      next = (((state.putWorkspace (workspaceKey workspace) workspace).putOperation
        operation).putIdempotency operation).putIdempotencyDigest operation digest := by
  simp only [workspaceRows] at computed
  split at computed
  · next existing isExisting =>
    split at computed
    · cases computed
    · cases computed
      refine .inl ⟨rfl, ?_⟩
      unfold State.idempotentOperation at isExisting
      split at isExisting
      · cases isExisting
      · exact ⟨_, AList.mem_lookup_iff.mp isExisting, rfl⟩
  · next isFree =>
    cases computed
    exact .inr ⟨isFree, rfl, rfl⟩

theorem Fresh.workspace {identifier : String} (fresh : Fresh identifier state)
    (projectID : String) : state.workspaces.lookup (projectID, "wrk_" ++ identifier) = none := by
  cases present : state.workspaces.lookup (projectID, "wrk_" ++ identifier) with
  | none => rfl
  | some workspace => exact (fresh.workspaces _ (Table.mem_entries_iff.mpr present) rfl).elim

theorem Written.createWorkspace {workspace : Workspace}
    (absent : before.workspaces.lookup (workspaceKey workspace) = none)
    (isNew : before.operations.lookup (operationKey operation) = none)
    (isKind : operation.kind = "create_workspace") (free : before.idempotency.lookup
      (operation.projectID, operation.kind, operation.idempotencyKey) = none)
    (unintended : workspace.cleanupTarget = .unset) (isPreparing : workspace.state = .preparing)
    (isAfter : after = (((before.putWorkspace (workspaceKey workspace) workspace).putOperation
      operation).putIdempotency operation).putIdempotencyDigest operation digest) :
    Written limits inFlight before after := by
  subst isAfter
  refine ⟨.of_eq rfl, .open rfl isNew, .claim rfl (.inr ⟨digest, rfl⟩) free ?_, .put rfl ?_ ?_ ?_⟩
  · intro projectID name lastActive revision isIndex
    exact absurd isIndex (not_automatic isKind (by decide))
  · intro found isFound
    cases absent.symm.trans isFound
  · intro _
    rw [unintended]
    nofun
  · constructor
    · rw [isPreparing]
      nofun
    · rw [isPreparing]
      nofun

/-- The workspace and the operation of a mutation that is under way inside the mutex. -/
structure Tending (key : Key) (workspace : Workspace) (operation : Operation) (records : Records) :
    Prop where
  keyed : workspaceKey workspace = key
  present : records.tables.workspaces.lookup key = some workspace
  stored : records.tables.operations.lookup (operationKey operation) = some operation
  running : operation.state = .running
  beyond : beyondSandboxes operation.kind = true

variable [Lookups]

theorem createEnvironment_bridges {input : CreateEnvironmentInput} :
    Conforms deployment thread (createEnvironment deployment projectID requestKey input) := by
  refine bridges_locked (fun _ => kept_true) fun records _ => ?_
  unfold createEnvironmentLocked
  split
  · exact guards_ret trivial
  refine guards_look fun at_ => ?_
  dsimp only
  split
  · exact guards_ret trivial
  refine guards_bind randomID_guards ?_
  rintro id _ ⟨rfl, isNew⟩
  refine guards_look fun admission => ?_
  have declared (environment : Environment) : Guards deployment thread
      (updateRows fun _ => environmentRows environment
        (succeededOperation id projectID "create_environment"
          (deployment.environmentRevision projectID input) requestKey at_)
        (deployment.environmentDigest input)) (fun _ _ => True) records := by
    apply updateRows_any
    intro choice memory value next installing computed
    apply environmentRows_written installing.validBefore _ rfl computed
    rw [installing.operations]
    exact isNew projectID
  split
  · exact guards_ret trivial
  · exact guards_ret trivial
  · split
    · exact guards_ret trivial
    refine guards_bind (declared _) ?_
    rintro (error | ⟨written, recorded⟩) _ _
    · exact guards_ret trivial
    · exact guards_ret trivial
  · refine guards_bind (declared _) ?_
    rintro (error | ⟨written, recorded⟩) _ _
    · exact guards_ret trivial
    · exact guards_ret trivial

theorem createConnector_bridges {input : CreateConnectorInput} :
    Conforms deployment thread (createConnector deployment projectID requestKey input) := by
  refine bridges_locked (fun _ => kept_true) fun records _ => ?_
  unfold createConnectorLocked
  split
  · exact guards_ret trivial
  refine guards_look fun at_ => ?_
  dsimp only
  split
  · exact guards_ret trivial
  refine guards_bind randomID_guards ?_
  rintro id _ ⟨rfl, isNew⟩
  have declared (connector : Connector) : Guards deployment thread
      (update fun _ => connectorRows deployment.limits connector
        (succeededOperation id projectID "create_connector"
          (deployment.connectorRevision projectID input) requestKey at_)
        (deployment.connectorDigest input)) (fun _ _ => True) records := by
    apply update_any
    intro choice memory value next installing computed
    apply connectorRows_written installing.validBefore _ rfl computed
    rw [installing.operations]
    exact isNew projectID
  refine guards_bind (declared _) ?_
  rintro (error | ⟨written, recorded⟩) _ _
  · exact guards_ret trivial
  · exact guards_ret trivial

/-! ## Creating and deleting workspaces -/

/-- The record of a workspace after its backend identifier was looked up, if it had none. -/
structure Refound (workspace found : Workspace) : Prop extends SameVolume workspace found where
  identifier : workspace.backendID = found.backendID ∨
    Lookups.found workspace.backendName found.backendID

theorem Refound.refl (workspace : Workspace) : Refound workspace workspace :=
  ⟨⟨rfl, rfl, fun _ _ => rfl⟩, .inl rfl⟩

theorem Refound.under {workspace : Workspace} {id : String}
    (unidentified : workspace.backendID = "")
    (named : Lookups.found workspace.backendName id) :
    Refound workspace { workspace with backendID := id } :=
  ⟨⟨rfl, rfl, fun _ identified => absurd unidentified identified⟩, .inr named⟩

theorem getWorkspace_guards :
    Guards deployment thread (getWorkspace key) (fun result after => records = after ∧
      ∀ workspace, result = .ok workspace →
        records.tables.workspaces.lookup key = some workspace ∧ workspaceKey workspace = key ∧
          WorkspaceSound workspace) records := by
  apply look_guards
  intro choice memory reading workspace found
  have sound := reading.sound
  rw [← reading.view] at sound ⊢
  split at found
  · cases found
  split at found
  · cases found
  · next present =>
    cases found
    exact ⟨present, workspace_keyed sound.valid present, sound.workspaces key workspace present⟩

theorem writeWorkspace_guards {current written : Workspace} {settled : Operation}
    (tending : Tending key current operation records) (keyed : workspaceKey written = key)
    (same : SameVolume current written) (sound : WorkspaceSound written)
    (sameKey : operationKey settled = operationKey operation) (kind : settled.kind = operation.kind)
    (resource : settled.resourceID = operation.resourceID) :
    Guards deployment thread (writeWorkspace written settled) (fun _ _ => True) records := by
  apply updateRows_any
  intro choice memory value next installing computed
  cases computed
  have present : memory.state.workspaces.lookup key = some current := by
    rw [installing.workspaces]
    exact tending.present
  refine ⟨.of_eq rfl, .put rfl ?_, .of_eq rfl rfl, .rewrite (by rw [← keyed]; rfl) present
    same sound⟩
  intro found isFound
  rw [sameKey, installing.operations, tending.stored] at isFound
  cases isFound
  exact ⟨kind, fun _ => resource, by simp [tending.running], .inr (.inr tending.beyond)⟩

theorem persistWorkspace_guards {input : CreateWorkspaceInput} :
    Guards deployment thread (persistWorkspace projectID requestKey digest input)
      (fun result after => ∀ workspace operation, result = .ok (workspace, operation) →
        workspace.cleanupTarget = .unset ∧
          Tending (projectID, workspace.id) workspace operation after) records := by
  apply access_guards
  intro choice memory isView sound admissible fences
  subst isView
  dsimp only at fences ⊢
  generalize done : transact choice.fault _ memory.state = outcome at fences ⊢
  obtain ⟨result, next⟩ := outcome
  rcases transact_cases done with ⟨⟨error, rfl⟩, rfl⟩ | ⟨pair, computed, isValid, reported⟩
  · exact ⟨.refl _, by simp⟩
  rcases workspaceRows_cases (guarding_ok computed).1 with
    ⟨rfl, entry, member, isEntry⟩ | ⟨isFree, rfl, isNext⟩
  · rcases reported with rfl | rfl
    · have other : pair.2.resourceID ≠ "wrk_" ++ choice.identifier :=
        isEntry ▸ (admissible.fresh.operations entry member).2.2
      dsimp only
      rw [if_pos other]
      exact ⟨.refl _, by simp⟩
    · exact ⟨.refl _, by simp⟩
  have written : Written deployment.limits memory.inFlight memory.state next := by
    refine .createWorkspace ?_ ?_ rfl ?_ rfl rfl isNext
    · exact admissible.fresh.workspace projectID
    · exact admissible.fresh.operation projectID
    · exact unclaimed sound.valid isFree
  rcases reported with rfl | rfl
  · dsimp only at fences ⊢
    rw [if_neg (fun different => different rfl)] at fences ⊢
    refine ⟨written.effect fences fun _ => isValid, ?_⟩
    rintro workspace operation ⟨⟩
    refine ⟨rfl, rfl, ?_, ?_, rfl, show beyondSandboxes "create_workspace" = true by decide⟩
    · rw [isNext]
      exact AList.lookup_insert memory.state.workspaces
    · rw [isNext]
      exact AList.lookup_insert memory.state.operations
  · exact ⟨written.effect fences fun _ => isValid, by simp⟩

theorem createWorkspaceFinish_guards {workspace : Workspace}
    {reply : Except BackendError RemoteWorkspace} (unintended : workspace.cleanupTarget = .unset)
    (tending : Tending key workspace operation records) :
    Guards deployment thread (createWorkspaceFinish workspace operation reply) (fun _ _ => True)
      records := by
  have failing (failure : Failure) : Guards deployment thread
      (failWorkspaceCreate workspace operation failure) (fun _ _ => True) records := by
    unfold failWorkspaceCreate
    refine guards_look fun at_ => ?_
    exact guards_last (writeWorkspace_guards tending tending.keyed ⟨rfl, rfl, fun _ _ => rfl⟩
      ⟨nofun, nofun⟩ rfl rfl rfl)
  unfold createWorkspaceFinish
  split
  · exact failing _
  split
  · exact failing _
  refine guards_look fun at_ => ?_
  refine guards_bind (writeWorkspace_guards tending tending.keyed ⟨rfl, rfl, ?_⟩ ⟨?_, nofun⟩ rfl rfl
    rfl) ?_
  · intro intended
    cases unintended.symm.trans intended
  · intro _ intended
    cases unintended.symm.trans intended
  rintro _ _ _
  exact guards_ret trivial

theorem createWorkspace_bridges {input : CreateWorkspaceInput} :
    Conforms deployment thread (createWorkspace deployment projectID requestKey input) := by
  refine bridges_locked (fun _ => kept_true) fun records _ => ?_
  unfold createWorkspaceLocked
  split
  · exact guards_ret trivial
  split
  · exact guards_ret trivial
  split
  · exact guards_ret trivial
  refine guards_look fun admission => ?_
  split
  · exact guards_ret trivial
  · refine guards_bind look_any ?_
    rintro (error | workspace) _ rfl
    · exact guards_ret trivial
    · exact guards_ret trivial
  split
  · exact guards_ret trivial
  refine guards_bind persistWorkspace_guards ?_
  rintro (outcome | ⟨workspace, operation⟩) after persisted
  · exact guards_ret trivial
  obtain ⟨unintended, tending⟩ := persisted workspace operation rfl
  refine guards_bind (guards_call fun _ => trivial) ?_
  rintro reply _ rfl
  exact createWorkspaceFinish_guards unintended tending

/-- An answered lookup of the attachment finds the sandboxes that mount the workspace. -/
theorem workspaceAttachedLocked_guards :
    Guards deployment thread (workspaceAttachedLocked key) (fun result after => records = after ∧
      (result = .ok false → Unattached records.tables key)) records := by
  apply look_guards
  intro choice memory reading isFree
  have sound := reading.sound.valid
  rw [← reading.view] at sound ⊢
  split at isFree
  · cases isFree
  · exact unattached_of_any sound (Except.ok.inj isFree)

theorem reconcileWorkspaceCleanupLocked_guards {workspace : Workspace}
    (tending : Tending key workspace operation records)
    (intended : workspace.cleanupTarget = .deleted) :
    Guards deployment thread (reconcileWorkspaceCleanupLocked key workspace operation)
      (fun _ _ => True) records := by
  have failing (found : Workspace) (code : String) (keyed : workspaceKey found = key)
      (same : SameVolume workspace found) : Guards deployment thread
      (failWorkspaceCleanupLocked found operation code) (fun _ _ => True) records := by
    unfold failWorkspaceCleanupLocked
    refine guards_look fun at_ => ?_
    exact guards_last (writeWorkspace_guards tending keyed ⟨same.target, same.name, same.identified⟩
      ⟨nofun, nofun⟩ rfl rfl rfl)
  have finding : Guards deployment thread (findWorkspaceLocked key workspace)
      (fun result after => records = after ∧ ∀ found, result = some found →
        workspaceKey found = key ∧ Refound workspace found) records := by
    unfold findWorkspaceLocked
    split
    · refine guards_ret ⟨rfl, ?_⟩
      rintro _ ⟨⟩
      exact ⟨tending.keyed, .refl workspace⟩
    next unidentified =>
    refine guards_bind guards_findWorkspace ?_
    rintro reply _ ⟨rfl, named⟩
    split
    · refine guards_ret ⟨rfl, ?_⟩
      rintro _ ⟨⟩
      exact ⟨tending.keyed, .under (not_not.mp unidentified) (named _ rfl)⟩
    · refine guards_ret ⟨rfl, ?_⟩
      rintro _ ⟨⟩
      exact ⟨tending.keyed, .refl workspace⟩
    · exact guards_ret ⟨rfl, by simp⟩
  have deleting (found : Workspace) (refound : Refound workspace found) :
      Guards deployment thread (deleteWorkspaceBackend key found)
      (fun _ after => records = after) records := by
    unfold deleteWorkspaceBackend
    split
    · exact guards_ret rfl
    refine guards_bind (guards_call fun _ =>
      ⟨workspace, tending.present, intended, refound.identifier⟩) ?_
    rintro reply _ rfl
    split <;> exact guards_ret rfl
  unfold reconcileWorkspaceCleanupLocked
  refine guards_bind finding ?_
  rintro (_ | found) _ ⟨rfl, isFound⟩
  · exact failing workspace _ tending.keyed ⟨rfl, rfl, fun _ _ => rfl⟩
  obtain ⟨keyed, refound⟩ := isFound found rfl
  refine guards_bind (deleting found refound) ?_
  rintro (_ | error) _ rfl
  · unfold finishWorkspaceCleanupLocked
    refine guards_look fun at_ => ?_
    exact guards_last (writeWorkspace_guards tending keyed
      ⟨refound.target, refound.name, refound.identified⟩ ⟨nofun, nofun⟩ rfl rfl rfl)
  · exact failing found _ keyed refound.toSameVolume

theorem deleteWorkspace_bridges :
    Conforms deployment thread (deleteWorkspace deployment key requestKey) := by
  refine bridges_locked (fun _ => kept_true) fun records _ => ?_
  unfold deleteWorkspaceLocked
  split
  · exact guards_ret trivial
  split
  · exact guards_ret trivial
  refine guards_bind getWorkspace_guards ?_
  rintro (error | workspace) _ ⟨rfl, found⟩
  · exact guards_ret trivial
  obtain ⟨present, keyed, -⟩ := found workspace rfl
  refine guards_bind lookupIdempotency_guards ?_
  rintro (_ | existing) _ ⟨rfl, unused⟩
  case some => exact guards_ret trivial
  refine guards_unless (guards_ret trivial) ?_
  split
  · exact guards_ret trivial
  refine guards_bind workspaceAttachedLocked_guards ?_
  rintro (error | attached) _ ⟨rfl, isFree⟩
  · exact guards_ret trivial
  dsimp only
  split
  · exact guards_ret trivial
  next isUnattached =>
  have unattached := isFree (by simpa using isUnattached)
  refine guards_look fun at_ => ?_
  refine guards_bind randomID_guards ?_
  rintro id _ ⟨rfl, isNew⟩
  have kept (choice : Choice) (memory : Memory) (next : State)
      (installing : Installing deployment thread choice memory records next)
      (isNext : next.workspaces = memory.state.workspaces.insert key { workspace with
        state := .deleting, cleanupTarget := .deleted, updatedAt := at_, failure := none }) :
      WorkspacesKept memory.state next := by
    have isPresent : memory.state.workspaces.lookup key = some workspace := by
      rw [installing.workspaces]
      exact present
    have isUnattached : Unattached memory.state key := by
      rw [← installing.view] at unattached
      exact unattached
    apply WorkspacesKept.put isNext
    · intro current isCurrent
      cases isPresent.symm.trans isCurrent
      exact ⟨fun _ => rfl, fun _ => .inr isUnattached, rfl, fun _ _ => rfl⟩
    · intro absent
      cases absent.symm.trans isPresent
    · exact ⟨nofun, fun _ => rfl⟩
  refine guards_bind (claiming_guards
    ⟨fun _ => rfl, fun _ => rfl, fun _ => rfl, fun _ => .inl rfl⟩
    (fun choice memory installing => kept choice memory _ installing rfl)
    (isNew _) (unused rfl) (by simp [hasStart, List.isPrefixOf])) ?_
  rintro (error | ⟨⟩) after opened
  · exact guards_ret trivial
  obtain ⟨state, -, rfl⟩ := opened rfl
  exact reconcileWorkspaceCleanupLocked_guards ⟨keyed, AList.lookup_insert state.workspaces,
    AList.lookup_insert state.operations, rfl,
    by simp [beyondSandboxes, hasStart, List.isPrefixOf]⟩ rfl

end Brezel.Service
