import Brezel.Service.Records.Aside
import Brezel.Service.Records.Guest

/-!
# Reconciliation keeps the records

A pass makes its observations without the mutex.  What it writes is derived from a record it has
read before, so it needs to know what of that record still holds when it is back inside: the mounts
of a row never change, and the revision is compared.  Where the pass has the resource fenced, the
row is still the one it read.

The operations that a pass settles belong to the resource it looks at, which nobody has fenced by
then.
-/

namespace Brezel.Service

open Domain Store Monitor

variable {deployment : Deployment} {thread : Nat} {records : Records} {key : Key}
variable {candidates operations : List Operation} {current expected routed row : Sandbox}
  {failure : Option RouteFailure} {remoteState : SandboxState} {fuel : Nat}

/-! ## Operations -/

theorem OperationKept.version {inFlight : Key → List Nat} {persisted operation settled : Operation}
    (same : sameOperationVersion persisted operation = true)
    (kind : settled.kind = operation.kind) (resource : settled.resourceID = operation.resourceID)
    (isOpen : operation.state ≠ .succeeded)
    (unfenced : inFlight (operation.projectID, operation.resourceID) = [] ∨
      beyondSandboxes operation.kind = true) : OperationKept inFlight persisted settled := by
  simp only [sameOperationVersion, Bool.and_eq_true, decide_eq_true_eq] at same
  obtain ⟨⟨⟨⟨⟨-, sameProject⟩, sameResource⟩, sameKind⟩, sameState⟩, -⟩ := same
  refine ⟨kind.trans sameKind.symm, fun _ => resource.trans sameResource.symm, ?_, ?_⟩
  · intro done
    exact absurd (sameState.symm.trans done) isOpen
  · rw [sameProject, sameResource, sameKind]
    exact .inr unfenced

theorem SettledFrom.written {limits : Limits} {inFlight : Key → List Nat}
    {before base after : State} (settled : SettledFrom inFlight base after)
    (rows : RowsKept limits before after) (operations : base.operations = before.operations)
    (workspaces : WorkspacesKept before after) (claims : base.idempotency = before.idempotency)
    (digests : base.idempotencyDigests = before.idempotencyDigests) :
    Written limits inFlight before after where
  rows := rows
  operations key operation stored := settled.operations key operation (by rwa [operations])
  claims := .of_eq (settled.claims.trans claims) (settled.digests.trans digests)
  workspaces := workspaces

/-- The candidates are operations of the sandbox. -/
def Own (key : Key) (candidates : List Operation) : Prop :=
  ∀ operation ∈ candidates, (operation.projectID, operation.resourceID) = key

theorem Installing.settledFrom {choice : Choice} {memory : Memory} {next base settled : State}
    {settle : Operation → Operation} {kindStarts : List String}
    (installing : Installing deployment thread choice memory records next)
    (isSettled : settleOperations settle (latestIncompleteOperations candidates kindStarts)
      base = .ok settled)
    (sameKey : ∀ operation, operationKey (settle operation) = operationKey operation)
    (kind : ∀ operation, (settle operation).kind = operation.kind)
    (resource : ∀ operation, (settle operation).resourceID = operation.resourceID)
    (own : Own key candidates) (free : records.inFlight key = []) :
    SettledFrom memory.inFlight base settled := by
  refine settleOperations_settled sameKey ?_ isSettled
  intro operation member persisted sameVersion
  obtain ⟨isCandidate, isOpen, -⟩ := mem_latestIncompleteOperations member
  apply OperationKept.version sameVersion (kind operation) (resource operation) isOpen
  rw [own operation isCandidate, installing.flights]
  exact .inl free

/-- The families an observation may settle. -/
theorem latestReconcileOperations_families (candidates : List Operation) (state : SandboxState) :
    ∃ kindStarts, latestReconcileOperations candidates state =
      latestIncompleteOperations candidates kindStarts := by
  unfold latestReconcileOperations
  split
  · exact ⟨_, rfl⟩
  · exact ⟨_, rfl⟩
  · exact ⟨[], rfl⟩

theorem Installing.observes {choice : Choice} {memory : Memory} {next settled : State}
    {settle : Operation → Operation} {kindStarts : List String} {event : Event} {written : Sandbox}
    (installing : Installing deployment thread choice memory records next)
    (isSettled : settleOperations settle (latestIncompleteOperations candidates kindStarts)
      (memory.state.putSandbox written) = .ok settled) (isNext : next = settled.appendEvent event)
    (sameKey : ∀ operation, operationKey (settle operation) = operationKey operation)
    (kind : ∀ operation, (settle operation).kind = operation.kind)
    (resource : ∀ operation, (settle operation).resourceID = operation.resourceID)
    (own : Own key candidates) (free : records.inFlight key = [])
    (present : records.tables.row key = some row) (follows : Follows 1 key row written) :
    Written deployment.limits memory.inFlight memory.state next := by
  have settledFrom := installing.settledFrom isSettled sameKey kind resource own free
  subst isNext
  have rows := installing.follows settledFrom.rows present follows
  exact SettledFrom.written
    ⟨settledFrom.operations, settledFrom.rows, settledFrom.workspaces, settledFrom.claims,
      settledFrom.digests⟩ rows rfl (.of_eq settledFrom.workspaces) rfl rfl

/-! ## Workspaces -/

theorem concludeWorkspace_sound {cleanup : Bool} {observed written : Workspace}
    {fault : Option WorkspaceFault} {at_ : Time} {operationState : OperationState}
    (concluded : concludeWorkspace cleanup observed fault at_ candidates =
      (written, operations, operationState))
    (unintended : cleanup = false → observed.cleanupTarget ≠ .deleted) :
    (written.cleanupTarget = observed.cleanupTarget ∧
      written.backendName = observed.backendName ∧ written.backendID = observed.backendID) ∧
      WorkspaceSound written ∧ ∀ operation ∈ operations, operation.state ≠ .succeeded ∧
        beyondSandboxes operation.kind = true := by
  have beyond {kindStart : String}
      (isStart : kindStart = "create_workspace" ∨ kindStart = "delete_workspace:") :
      ∀ operation ∈ latestIncompleteOperations candidates [kindStart],
        operation.state ≠ .succeeded ∧ beyondSandboxes operation.kind = true := by
    intro operation member
    obtain ⟨-, isOpen, start, isMember, opens⟩ := mem_latestIncompleteOperations member
    obtain rfl := List.mem_singleton.mp isMember
    refine ⟨isOpen, ?_⟩
    rcases isStart with rfl | rfl <;> simp [beyondSandboxes, opens]
  unfold concludeWorkspace at concluded
  split at concluded
  · cases concluded
    exact ⟨⟨rfl, rfl, rfl⟩, ⟨by rintro ⟨⟩, by rintro ⟨⟩⟩, beyond (.inr rfl)⟩
  · cases concluded
    exact ⟨⟨rfl, rfl, rfl⟩, ⟨by rintro ⟨⟩, by rintro ⟨⟩⟩, beyond (.inr rfl)⟩
  · cases concluded
    exact ⟨⟨rfl, rfl, rfl⟩, ⟨by rintro ⟨⟩, by rintro ⟨⟩⟩, beyond (.inl rfl)⟩
  · cases concluded
    exact ⟨⟨rfl, rfl, rfl⟩, ⟨by rintro ⟨⟩, by rintro ⟨⟩⟩, by simp⟩
  · cases concluded
    exact ⟨⟨rfl, rfl, rfl⟩, ⟨fun _ => unintended rfl, by rintro ⟨⟩⟩, beyond (.inl rfl)⟩

/-- Where a pass sets out to delete a workspace, the intent is in the records, with the name and the
backend identifier that the pass has read. -/
def Intends (key : Key) (expected : Workspace) (records : Records) : Prop :=
  workspaceCleanupIntended expected = true →
    ∃ workspace, records.tables.workspaces.lookup key = some workspace ∧
      workspace.cleanupTarget = .deleted ∧ workspace.backendName = expected.backendName ∧
      (expected.backendID ≠ "" → workspace.backendID = expected.backendID)

/-! ## Rows that were read -/

/-- What a pass still knows of a row it has read: its identity and its mounts. -/
structure Seen (key : Key) (expected : Sandbox) (records : Records) : Prop where
  keyed : sandboxKey expected = key
  mounts : ∃ row, records.tables.row key = some row ∧
    row.workspaceMounts = expected.workspaceMounts

theorem Seen.follows (seen : Seen key expected records)
    (present : records.tables.row key = some current) (edited : Edited expected routed)
    (sameRevision : current.revision = expected.revision) : Follows 0 key current routed := by
  obtain ⟨row, isRow, mounts⟩ := seen.mounts
  cases isRow.symm.trans present
  obtain ⟨_, _, _, _, rfl⟩ := edited
  exact .inr ⟨seen.keyed, mounts.symm, Nat.le_of_eq sameRevision⟩

theorem revision_of_sameVersion (same : sameSandboxReconcileVersion current expected = true) :
    current.revision = expected.revision := by
  simp only [sameSandboxReconcileVersion, Bool.and_eq_true, decide_eq_true_eq] at same
  exact same.1.1.1.1

theorem revision_of_current (isCurrent : ¬ supersededBy current expected = true) :
    current.revision = expected.revision := by
  simp only [supersededBy, Bool.not_eq_true, Bool.or_eq_false_iff, Bool.not_eq_false'] at isCurrent
  exact revision_of_sameVersion isCurrent.1.1

variable [Lookups]

theorem Intends.kept {expected : Workspace} : Kept deployment thread (Intends key expected) := by
  apply kept_of_effect
  intro other before after _ effect intends isIntended
  obtain ⟨workspace, present, intended, name, identified⟩ := intends isIntended
  obtain ⟨next, isNext, kept⟩ := effect.workspaces.kept key workspace present
  refine ⟨next, isNext, kept.intended intended, kept.name.trans name, fun isIdentified => ?_⟩
  have same := identified isIdentified
  exact (kept.identified intended (same ▸ isIdentified)).trans same

theorem reconcileWorkspaceBegin_guards :
    Guards deployment thread (reconcileWorkspaceBegin key) (fun result after =>
      ∀ expected, result = .ok expected → Intends key expected after) records := by
  unfold reconcileWorkspaceBegin
  refine guards_bind getWorkspace_guards ?_
  rintro (error | current) _ ⟨rfl, found⟩
  · exact guards_ret (by simp)
  obtain ⟨present, -, sound⟩ := found current rfl
  dsimp only
  split
  · exact guards_ret (by simp)
  refine guards_unless (guards_ret (by simp)) ?_
  refine guards_bind (access_spared fun _ _ => rfl) ?_
  rintro _ _ rfl
  refine guards_ret ?_
  rintro expected ⟨⟩
  refine fun intended => ⟨current, present, ?_, rfl, fun _ => rfl⟩
  simp only [workspaceCleanupIntended, Bool.or_eq_true, decide_eq_true_eq] at intended
  exact intended.elim id sound.deleting

/-- A lookup of a workspace at the backend, without the mutex. -/
theorem bridges_findWorkspace {fact : Records → Prop} {name : String}
    (kept : Kept deployment thread fact) :
    Bridges deployment thread fact (workspaceCall key (.find name)) fun reply after => fact after ∧
      ∀ remote, reply = .ok remote → Lookups.found name (RemoteWorkspace.id remote) := by
  refine Contract.Between.call (fun reply before after step known => ⟨kept step known.1, known.2⟩)
    (fun _ _ _ _ => trivial) fun records _ reply _ known _ trusted _ => ⟨known, ?_⟩
  rintro remote rfl
  exact trusted

theorem findWorkspaceForCleanup_bridges {expected : Workspace} :
    Bridges deployment thread (Intends key expected) (findWorkspaceForCleanup key expected)
      fun result after => Intends key expected after ∧
        ∀ found, result = .ok found → Refound expected found := by
  unfold findWorkspaceForCleanup
  split
  · refine bridges_ret fun _ known => ⟨known, ?_⟩
    rintro _ ⟨⟩
    exact .refl expected
  next unidentified =>
  refine bridges_bind (bridges_findWorkspace Intends.kept) fun reply => ?_
  apply bridges_given
  intro named
  split
  · split
    · refine bridges_ret fun _ known => ⟨known, ?_⟩
      rintro _ ⟨⟩
      exact .under (not_not.mp unidentified) (named _ rfl)
    · exact bridges_ret fun _ known => ⟨known, by simp⟩
  · refine bridges_ret fun _ known => ⟨known, ?_⟩
    rintro _ ⟨⟩
    exact .refl expected
  · exact bridges_ret fun _ known => ⟨known, by simp⟩

theorem observeWorkspaceOutsideLock_spares {workspace : Workspace}
    (unintended : workspace.cleanupTarget ≠ .deleted) :
    Spares deployment (observeWorkspaceOutsideLock key workspace) fun outcome =>
      SameVolume workspace outcome.1 := by
  unfold observeWorkspaceOutsideLock
  refine spares_bind ⟨trivial, fun _ => trivial⟩ fun reply _ => ?_
  split
  · split
    · next isValid =>
      simp only [validWorkspaceIdentity, Bool.and_eq_true, decide_eq_true_eq] at isValid
      exact spares_ret ⟨rfl, isValid.2, fun intended => absurd intended unintended⟩
    · exact spares_ret ⟨rfl, rfl, fun _ _ => rfl⟩
  · exact spares_ret ⟨rfl, rfl, fun _ _ => rfl⟩
  · exact spares_ret ⟨rfl, rfl, fun _ _ => rfl⟩

theorem reconcileWorkspaceOutside_bridges {expected : Workspace} :
    Bridges deployment thread (Intends key expected) (reconcileWorkspaceOutside key expected)
      fun outcome _ => SameVolume expected outcome.1 := by
  unfold reconcileWorkspaceOutside
  split
  · next isIntended =>
    unfold cleanupWorkspaceOutsideLock
    refine bridges_bind findWorkspaceForCleanup_bridges ?_
    rintro (fault | found)
    · exact bridges_ret fun _ _ => ⟨rfl, rfl, fun _ _ => rfl⟩
    apply bridges_given
    intro isFound
    have refound := isFound found rfl
    have deleted : Bridges deployment thread (Intends key expected)
        (deleteWorkspaceBackend key found) fun _ _ => True := by
      unfold deleteWorkspaceBackend
      split
      · exact bridges_done
      next isIdentified =>
      refine bridges_bind (bridges_call Intends.kept fun _ _ intends => ?_) ?_
      · obtain ⟨workspace, present, intended, name, identified⟩ := intends isIntended
        refine ⟨workspace, present, intended, ?_⟩
        rw [name]
        refine refound.identifier.imp_left fun same => (identified ?_).trans same
        rwa [same]
      intro reply
      split <;> exact bridges_done
    refine bridges_bind deleted ?_
    rintro (_ | error)
    · exact bridges_ret fun _ _ => refound.toSameVolume
    · exact bridges_ret fun _ _ => refound.toSameVolume
  · next unintended =>
    have free : expected.cleanupTarget ≠ .deleted := by
      intro intended
      simp [workspaceCleanupIntended, intended] at unintended
    exact Contract.Between.mono
      (bridges_spares Intends.kept (observeWorkspaceOutsideLock_spares free))
      (fun _ _ known => known) fun _ _ _ both => both.2

theorem persistWorkspaceObservationLocked_guards {current written : Workspace}
    {operationState : OperationState}
    (present : records.tables.workspaces.lookup key = some current)
    (same : SameVolume current written) (sound : WorkspaceSound written)
    (settles : ∀ operation ∈ operations, operation.state ≠ .succeeded ∧
      beyondSandboxes operation.kind = true) :
    Guards deployment thread
      (persistWorkspaceObservationLocked key current written operations operationState)
      (fun _ _ => True) records := by
  apply updateRows_any
  intro choice memory value next installing computed
  have isPresent : memory.state.workspaces.lookup key = some current := by
    rw [installing.workspaces]
    exact present
  simp only [isPresent] at computed
  split at computed
  · cases computed
  split at computed
  · cases computed
  next settled isSettled =>
  cases computed
  have settledFrom : SettledFrom memory.inFlight (memory.state.putWorkspace key written) next := by
    refine settleOperations_settled ?_ ?_ isSettled
    · intro operation
      rfl
    · intro operation member persisted sameVersion
      obtain ⟨isOpen, beyond⟩ := settles operation member
      exact .version sameVersion rfl rfl isOpen (.inr beyond)
  exact settledFrom.written (.of_eq settledFrom.rows) rfl
    (.rewrite settledFrom.workspaces isPresent same sound) rfl rfl

theorem reconcileWorkspaceFinish_guards {expected observed : Workspace}
    {fault : Option WorkspaceFault} (same : SameVolume expected observed) :
    Guards deployment thread (reconcileWorkspaceFinish key expected observed fault candidates)
      (fun _ _ => True) records := by
  unfold reconcileWorkspaceFinish
  refine guards_bind (access_spared fun _ _ => rfl) ?_
  rintro _ _ rfl
  refine guards_unless (guards_ret trivial) ?_
  refine guards_bind getWorkspace_guards ?_
  rintro (error | latest) _ ⟨rfl, found⟩
  · exact guards_ret trivial
  obtain ⟨present, -, -⟩ := found latest rfl
  dsimp only
  split
  · exact guards_ret trivial
  next isCurrent =>
  refine guards_look fun at_ => ?_
  cases concluded : concludeWorkspace (workspaceCleanupIntended expected) observed fault at_
    candidates with
  | mk written rest =>
  obtain ⟨operations, operationState⟩ := rest
  have unintended : workspaceCleanupIntended expected = false →
      observed.cleanupTarget ≠ .deleted := by
    intro isFree intended
    simp [workspaceCleanupIntended, ← same.target, intended] at isFree
  obtain ⟨⟨target, name, identifier⟩, isSound, settles⟩ :=
    concludeWorkspace_sound concluded unintended
  have sameVersion : SameVolume latest written := by
    simp only [not_or, Bool.not_eq_false, sameWorkspaceReconcileVersion, Bool.and_eq_true,
      decide_eq_true_eq] at isCurrent
    obtain ⟨⟨⟨⟨⟨⟨-, isID⟩, isName⟩, -⟩, isTarget⟩, -⟩, -⟩ := isCurrent.1
    refine ⟨?_, ?_, ?_⟩
    · rw [target, same.target, isTarget]
    · rw [name, same.name, isName]
    · rw [identifier, isTarget, isID]
      exact same.identified
  refine guards_bind (persistWorkspaceObservationLocked_guards present sameVersion isSound
    settles) ?_
  rintro result _ _
  split <;> exact guards_ret trivial

theorem reconcileWorkspace_bridges :
    Conforms deployment thread (reconcileWorkspace key candidates) := by
  unfold reconcileWorkspace
  refine conforms_unlessCancelled ?_
  have kept (result : Except (List ServiceError) Workspace) : Kept deployment thread fun records =>
      ∀ expected, result = .ok expected → Intends key expected records :=
    fun _ _ step known expected isOk => Intends.kept step (known expected isOk)
  refine bridges_bind (bridges_locked kept fun _ _ => reconcileWorkspaceBegin_guards) ?_
  rintro (errors | expected)
  · exact bridges_done
  apply Contract.Between.pre _ fun _ _ known => known expected rfl
  refine bridges_bind reconcileWorkspaceOutside_bridges ?_
  rintro ⟨observed, fault⟩
  refine bridges_locked (fun _ => kept_true) fun records same => ?_
  exact reconcileWorkspaceFinish_guards same

theorem reconcileWorkspaces_bridges :
    Conforms deployment thread (reconcileWorkspaces deployment operations) := by
  have each (workspaces : List Workspace) : Conforms deployment thread
      (reconcileEachWorkspace operations workspaces) := by
    induction workspaces with
    | nil => exact bridges_done
    | cons workspace rest ih =>
      refine conforms_unlessCancelled ?_
      refine bridges_bind reconcileWorkspace_bridges fun errors => ?_
      exact bridges_bind ih fun others => bridges_done
  unfold reconcileWorkspaces
  refine conforms_unlessCancelled ?_
  split
  · exact bridges_done
  refine bridges_bind (aside_bridges look_spares) ?_
  rintro (error | workspaces)
  · exact bridges_done
  · exact each workspaces

/-! ## Cleanup and absence -/

theorem markUnknownObservationLocked_guards {observed : Sandbox} {code : String}
    (present : records.tables.row key = some current) (follows : Follows 0 key current observed) :
    Guards deployment thread (markUnknownObservationLocked current observed code)
      (fun _ _ => True) records := by
  unfold markUnknownObservationLocked
  dsimp only
  split
  · exact guards_ret trivial
  exact guards_last (markUnknownLocked_guards present (follows.raise 0 rfl rfl rfl rfl))

/-- What a section that fences a sandbox for a pass hands over. -/
def Fenced (thread : Nat) (key : Key) (result : Except (List ServiceError) Sandbox)
    (records : Records) : Prop :=
  ∀ current, result = .ok current →
    Holding thread key current records ∧ sandboxKey current = key

theorem Fenced.kept (result : Except (List ServiceError) Sandbox) :
    Kept deployment thread (Fenced thread key result) := by
  apply kept_of_effect
  intro other before after distinct effect isFenced current isOk
  obtain ⟨holding, keyed⟩ := isFenced current isOk
  exact ⟨holding.kept distinct effect, keyed⟩

theorem setFence_holding (free : records.inFlight key = [])
    (present : records.tables.row key = some row) :
    Guards deployment thread (setFence key) (fun _ after => Holding thread key row after)
      records := by
  refine guards_mono setFence_guards ?_
  rintro _ _ rfl
  refine ⟨?_, present⟩
  simp only [Function.update_self, free]

theorem reconcileCleanupBegin_guards :
    Guards deployment thread (reconcileCleanupBegin key) (Fenced thread key) records := by
  unfold reconcileCleanupBegin
  refine guards_getSandbox (fun _ => guards_ret (by simp [Fenced])) fun current present keyed => ?_
  dsimp only
  split
  · exact guards_ret (by simp [Fenced])
  refine guards_unlessFenced (guards_ret (by simp [Fenced])) fun free => ?_
  refine guards_unless (guards_ret (by simp [Fenced])) ?_
  refine guards_bind (setFence_holding free present) ?_
  rintro _ after holding
  refine guards_ret ?_
  rintro _ ⟨⟩
  exact ⟨holding, keyed⟩

theorem completeReconciledCleanupLocked_guards (own : Own key candidates)
    (free : records.inFlight key = []) (present : records.tables.row key = some current)
    (follows : Follows 0 key current routed) :
    Guards deployment thread (completeReconciledCleanupLocked current routed candidates)
      (fun _ _ => True) records := by
  unfold completeReconciledCleanupLocked
  refine guards_look fun at_ => ?_
  refine guards_bind (updateRows_any ?_) ?_
  · intro choice memory value next installing computed
    split at computed
    · cases computed
    split at computed
    · cases computed
    split at computed
    · cases computed
    next settled isSettled =>
    have isNext := congrArg Prod.snd (Except.ok.inj computed)
    -- only a deletion has an operation to settle
    have selected : ∃ kindStarts, (if current.cleanupTarget = .deleted then
        latestIncompleteOperations candidates ["delete_sandbox:"] else []) =
        latestIncompleteOperations candidates kindStarts := by
      split
      · exact ⟨_, rfl⟩
      · exact ⟨[], rfl⟩
    obtain ⟨kindStarts, isSelected⟩ := selected
    rw [isSelected] at isSettled
    exact installing.observes isSettled isNext.symm (fun _ => rfl) (fun _ => rfl) (fun _ => rfl)
      own free present (follows.carry rfl rfl rfl rfl)
  · rintro _ _ _
    exact guards_ret trivial

theorem reconcileCleanupFinish_guards {failure : Option (String × CleanupError)}
    (own : Own key candidates) (holding : Holding thread key expected records)
    (follows : Follows 0 key expected routed) :
    Guards deployment thread (reconcileCleanupFinish key expected routed failure candidates)
      (fun _ _ => True) records := by
  unfold reconcileCleanupFinish
  refine guards_bind clearFence_guards ?_
  rintro _ _ rfl
  refine guards_unless (guards_ret trivial) ?_
  refine guards_getSandbox (fun _ => guards_ret trivial) fun current present _ => ?_
  cases holding.row.symm.trans present
  dsimp only
  split
  · exact guards_ret trivial
  cases failure with
  | some failure =>
    exact guards_last (markUnknownObservationLocked_guards present follows)
  | none => exact completeReconciledCleanupLocked_guards own holding.cleared present follows

theorem reconcileSandboxCleanup_bridges (own : Own key candidates) :
    Conforms deployment thread (reconcileSandboxCleanup deployment key candidates) := by
  unfold reconcileSandboxCleanup
  refine bridges_bind (bridges_locked Fenced.kept fun _ _ => reconcileCleanupBegin_guards) ?_
  rintro (errors | current)
  · exact bridges_done
  refine bridges_bind (bridges_spares (Fenced.kept _) cleanupSandboxOutsideLock_spares) ?_
  rintro ⟨routed, failure⟩
  refine bridges_locked (fun _ => kept_true) ?_
  rintro records ⟨isFenced, edited⟩
  obtain ⟨holding, keyed⟩ := isFenced current rfl
  exact reconcileCleanupFinish_guards own holding ((Follows.self keyed).edited edited)

theorem reconcileMissingBegin_guards :
    Guards deployment thread (reconcileMissingBegin key expected) (Fenced thread key) records := by
  unfold reconcileMissingBegin
  refine guards_getSandbox (fun _ => guards_ret (by simp [Fenced])) fun current present keyed => ?_
  dsimp only
  split
  · exact guards_ret (by simp [Fenced])
  refine guards_unless (guards_ret (by simp [Fenced])) ?_
  refine guards_unlessFenced (guards_ret (by simp [Fenced])) fun free => ?_
  refine guards_bind (setFence_holding free present) ?_
  rintro _ after holding
  refine guards_note ?_
  refine guards_ret ?_
  rintro _ ⟨⟩
  exact ⟨holding, keyed⟩

theorem noteGivingUp_guards {result : Except ServiceError Unit} :
    Guards deployment thread (noteGivingUp key result) (fun _ after => records = after)
      records := by
  cases result with
  | ok value => exact guards_ret rfl
  | error error => exact Contract.Inside.note (guards_ret rfl)

theorem markReconciledMissingLocked_guards (own : Own key candidates)
    (free : records.inFlight key = []) (present : records.tables.row key = some current)
    (follows : Follows 0 key current routed) :
    Guards deployment thread (markReconciledMissingLocked current routed candidates)
      (fun _ _ => True) records := by
  unfold markReconciledMissingLocked
  refine guards_look fun at_ => ?_
  refine guards_bind (updateRows_any ?_) ?_
  · intro choice memory value next installing computed
    split at computed
    · cases computed
    split at computed
    · cases computed
    split at computed
    · cases computed
    next settled isSettled =>
    have isNext := congrArg Prod.snd (Except.ok.inj computed)
    exact installing.observes isSettled isNext.symm (fun _ => rfl) (fun _ => rfl) (fun _ => rfl)
      own free present (follows.carry rfl rfl rfl rfl)
  · rintro _ _ _
    refine guards_bind noteGivingUp_guards ?_
    rintro _ _ rfl
    exact guards_ret trivial

theorem reconcileMissingFinish_guards (own : Own key candidates)
    (holding : Holding thread key current records) (follows : Follows 0 key current routed) :
    Guards deployment thread (reconcileMissingFinish key current routed failure candidates)
      (fun _ _ => True) records := by
  unfold reconcileMissingFinish
  refine guards_bind clearFence_guards ?_
  rintro _ _ rfl
  refine guards_unless (guards_note (guards_ret trivial)) ?_
  refine guards_getSandbox (fun _ => guards_note (guards_ret trivial))
    fun latest present _ => ?_
  cases holding.row.symm.trans present
  dsimp only
  split
  · exact guards_ret trivial
  cases failure with
  | some failure =>
    refine guards_bind (markUnknownObservationLocked_guards present follows) ?_
    rintro error _ _
    split
    · exact guards_note (guards_ret trivial)
    · exact guards_ret trivial
  | none => exact markReconciledMissingLocked_guards own holding.cleared present follows

theorem reconcileMissingSandbox_bridges (own : Own key candidates) :
    Conforms deployment thread (reconcileMissingSandbox deployment key expected candidates) := by
  unfold reconcileMissingSandbox
  refine bridges_bind (bridges_locked Fenced.kept fun _ _ => reconcileMissingBegin_guards) ?_
  rintro (errors | current)
  · exact bridges_done
  refine bridges_bind (bridges_spares (Fenced.kept _) removeNodeRoute_spares) ?_
  rintro ⟨routed, failure⟩
  refine bridges_locked (fun _ => kept_true) ?_
  rintro records ⟨isFenced, edited⟩
  obtain ⟨holding, keyed⟩ := isFenced current rfl
  exact reconcileMissingFinish_guards own holding ((Follows.self keyed).edited edited)

/-! ## Observations -/

theorem Seen.kept : Kept deployment thread (Seen key expected) := by
  apply kept_of_effect
  intro other before after _ effect seen
  obtain ⟨row, present, mounts⟩ := seen.mounts
  obtain ⟨next, isNext, kept⟩ := effect.rows.kept key row present
  exact ⟨seen.keyed, next, isNext, kept.mounts.trans mounts⟩

theorem expireInPass_guards {α : Type} {sandbox : Sandbox} {post : Verdict α → Records → Prop}
    (present : records.tables.row key = some sandbox) (keyed : sandboxKey sandbox = key)
    (done : ∀ errors after, post (.done errors) after) (cleanup : ∀ after, post .cleanup after) :
    Guards deployment thread (expireInPass key sandbox) post records := by
  unfold expireInPass
  refine guards_bind (access_spared fun _ _ => rfl) ?_
  rintro _ _ rfl
  refine guards_bind (beginExpirationLocked_guards present keyed) ?_
  rintro ⟨expiring, _ | error⟩ after _
  · exact guards_ret (cleanup after)
  · exact guards_ret (done _ after)

theorem reconcileInspectBegin_guards :
    Guards deployment thread (reconcileInspectBegin key) (fun _ _ => True) records := by
  unfold reconcileInspectBegin
  refine guards_getSandbox (fun _ => guards_ret trivial) fun sandbox present keyed => ?_
  dsimp only
  split
  · exact guards_ret trivial
  refine guards_unless (guards_ret trivial) ?_
  split
  · exact guards_ret trivial
  refine guards_look fun at_ => ?_
  split
  · exact expireInPass_guards present keyed (fun _ _ => trivial) fun _ => trivial
  refine guards_look fun hasGuests => ?_
  split <;> exact guards_ret trivial

/-- What the second section of an observation hands over. -/
def Inspected (key : Key) (verdict : Verdict Finding) (records : Records) : Prop :=
  ∀ current remote, verdict = .proceed (.present current remote) → Seen key current records

theorem Inspected.kept (verdict : Verdict Finding) :
    Kept deployment thread (Inspected key verdict) :=
  fun _ _ step inspected current remote isPresent =>
    Seen.kept step (inspected current remote isPresent)

theorem reconcileInspected_guards {reply : Except BackendError RemoteSandbox} :
    Guards deployment thread (reconcileInspected key expected reply) (Inspected key) records := by
  unfold reconcileInspected
  refine guards_getSandbox (fun _ => guards_ret (by simp [Inspected]))
    fun current present keyed => ?_
  have unknown (code : String) (errors : Option ServiceError → List ServiceError) :
      Guards deployment thread (do
        let error ← markUnknownObservationLocked current current code
        return (.done (errors error) : Verdict Finding)) (Inspected key) records := by
    refine guards_bind (markUnknownObservationLocked_guards present (.self keyed)) ?_
    rintro _ _ _
    exact guards_ret (by simp [Inspected])
  dsimp only
  split
  · exact guards_ret (by simp [Inspected])
  refine guards_unless (guards_ret (by simp [Inspected])) ?_
  refine guards_unless (guards_ret (by simp [Inspected])) ?_
  split
  · exact guards_ret (by simp [Inspected])
  refine guards_look fun at_ => ?_
  split
  · exact expireInPass_guards present keyed (by simp [Inspected]) (by simp [Inspected])
  split
  · exact guards_ret (by simp [Inspected])
  · exact unknown _ _
  split
  · exact unknown _ _
  refine guards_ret ?_
  rintro _ _ ⟨⟩
  exact ⟨keyed, current, present, rfl⟩

theorem commitObservation_guards (own : Own key candidates) (free : records.inFlight key = [])
    (present : records.tables.row key = some current) (follows : Follows 0 key current routed) :
    Guards deployment thread (commitObservation key current routed remoteState candidates)
      (fun _ _ => True) records := by
  unfold commitObservation
  refine guards_note ?_
  dsimp only
  split
  · exact guards_ret trivial
  refine guards_look fun at_ => ?_
  refine guards_bind (updateRows_any ?_) ?_
  · intro choice memory value next installing computed
    obtain ⟨kindStarts, isSelected⟩ := latestReconcileOperations_families candidates remoteState
    simp only [isSelected] at computed
    cases isSame : sameReconcileObservation current
      { routed with state := remoteState, failure := none } with
    | true =>
      simp only [isSame, Bool.not_true, Bool.false_eq_true, if_false] at computed
      split at computed
      · cases computed
      next settled isSettled =>
      cases computed
      have settledFrom := installing.settledFrom isSettled (fun _ => rfl) (fun _ => rfl)
        (fun _ => rfl) own free
      exact settledFrom.written (.of_eq settledFrom.rows) rfl (.of_eq settledFrom.workspaces) rfl
        rfl
    | false =>
      simp only [isSame, Bool.not_false, if_true] at computed
      split at computed
      · cases computed
      next replaced isReplaced =>
      split at isReplaced
      · cases isReplaced
      split at isReplaced
      · cases isReplaced
        split at computed
        · cases computed
        next settled isSettled =>
        have isNext := congrArg Prod.snd (Except.ok.inj computed)
        exact installing.observes isSettled isNext.symm (fun _ => rfl) (fun _ => rfl)
          (fun _ => rfl) own free present (follows.carry rfl rfl rfl rfl)
      · cases isReplaced
  · rintro _ _ _
    split
    · refine guards_bind noteGivingUp_guards ?_
      rintro _ _ rfl
      exact guards_ret trivial
    · exact guards_ret trivial

/-- What the third section of an observation hands over: a fence for a route repair. -/
def Repairing (thread : Nat) (key : Key) (routed : Sandbox) (verdict : Verdict Unit)
    (records : Records) : Prop :=
  verdict = .proceed () → ∃ row, Holding thread key row records ∧ Follows 0 key row routed

theorem Repairing.kept (verdict : Verdict Unit) :
    Kept deployment thread (Repairing thread key routed verdict) := by
  apply kept_of_effect
  intro other before after distinct effect repairing proceeds
  obtain ⟨row, holding, follows⟩ := repairing proceeds
  exact ⟨row, holding.kept distinct effect, follows⟩

theorem reconcileObserved_guards {repair : Bool} (own : Own key candidates)
    (seen : Seen key expected records) (edited : Edited expected routed) :
    Guards deployment thread
      (reconcileObserved key expected routed repair failure remoteState candidates)
      (Repairing thread key routed) records := by
  unfold reconcileObserved
  refine guards_getSandbox (fun _ => guards_ret (by simp [Repairing])) fun current present _ => ?_
  dsimp only
  split
  · exact guards_ret (by simp [Repairing])
  next isCurrent =>
  have follows := seen.follows present edited (revision_of_current isCurrent)
  refine guards_unlessFenced (guards_ret (by simp [Repairing])) fun free => ?_
  refine guards_unless (guards_ret (by simp [Repairing])) ?_
  cases failure with
  | some failure =>
    refine guards_bind (markUnknownObservationLocked_guards present follows) ?_
    rintro _ _ _
    exact guards_ret (by simp [Repairing])
  | none =>
    dsimp only
    split
    · refine guards_bind (setFence_holding free present) ?_
      rintro _ after holding
      exact guards_ret fun _ => ⟨current, holding, follows⟩
    · refine guards_note ?_
      refine guards_bind (commitObservation_guards own free present follows) ?_
      rintro _ _ _
      exact guards_ret (by simp [Repairing])

theorem reconcileRepaired_guards (own : Own key candidates)
    (holding : Holding thread key row records) (follows : Follows 0 key row routed) :
    Guards deployment thread
      (reconcileRepaired key expected routed failure remoteState candidates) (fun _ _ => True)
      records := by
  unfold reconcileRepaired
  refine guards_bind clearFence_guards ?_
  rintro _ _ rfl
  refine guards_unless (guards_note (guards_ret trivial)) ?_
  refine guards_getSandbox (fun _ => guards_note (guards_ret trivial))
    fun current present _ => ?_
  cases holding.row.symm.trans present
  dsimp only
  split
  · exact guards_ret trivial
  refine guards_unless (guards_ret trivial) ?_
  cases failure with
  | some failure =>
    refine guards_bind (markUnknownObservationLocked_guards present follows) ?_
    rintro error _ _
    split
    · exact guards_note (guards_ret trivial)
    · exact guards_ret trivial
  | none => exact commitObservation_guards own holding.cleared present follows

theorem reconcilePresent_bridges {remote : RemoteSandbox} (own : Own key candidates) :
    Bridges deployment thread (Seen key current)
      (reconcilePresent deployment fuel key current remote candidates) (fun _ _ => True) := by
  unfold reconcilePresent
  refine bridges_bind (bridges_spares Seen.kept observeNodeRoute_spares) ?_
  rintro ⟨routed, repair, failure⟩
  apply bridges_given
  intro returned
  have edited : Edited current routed := (Edited.identify current remote.id).trans returned
  refine bridges_bind (bridges_spares Seen.kept look_spares) fun isCancelled => ?_
  split
  · exact bridges_done
  refine bridges_bind (bridges_locked Repairing.kept fun _ known =>
    reconcileObserved_guards own known.1 edited) ?_
  rintro (errors | _ | ⟨⟨⟩⟩)
  · exact bridges_done
  · exact bridges_done
  refine bridges_bind (bridges_spares (Repairing.kept _) (reconcileNodeRoute_spares fuel)) ?_
  rintro ⟨repaired, failure⟩
  refine bridges_locked (fun _ => kept_true) ?_
  rintro records ⟨repairing, isRepaired⟩
  obtain ⟨row, holding, follows⟩ := repairing rfl
  exact reconcileRepaired_guards own holding (follows.edited isRepaired)

theorem inspectBackend_spares {sandbox : Sandbox} :
    Spares deployment (inspectBackend key sandbox) fun _ => True := by
  unfold inspectBackend
  split <;> exact backendCall_spares trivial

theorem reconcileSandboxBackendState_bridges (own : Own key candidates) :
    Conforms deployment thread (reconcileSandboxBackendState deployment fuel key candidates) := by
  unfold reconcileSandboxBackendState
  refine conforms_unlessCancelled ?_
  refine bridges_bind (section_bridges fun _ => reconcileInspectBegin_guards) ?_
  rintro (errors | _ | expected)
  · exact bridges_done
  · exact reconcileSandboxCleanup_bridges own
  refine bridges_bind (aside_bridges inspectBackend_spares) fun reply => ?_
  refine conforms_unlessCancelled ?_
  refine bridges_bind (bridges_locked Inspected.kept fun _ _ => reconcileInspected_guards) ?_
  rintro (errors | _ | ⟨current⟩ | ⟨current, remote⟩)
  · exact bridges_done
  · exact Contract.Between.pre (reconcileSandboxCleanup_bridges own) fun _ _ _ => trivial
  · exact Contract.Between.pre (reconcileMissingSandbox_bridges own) fun _ _ _ => trivial
  · exact Contract.Between.pre (reconcilePresent_bridges own) fun _ _ inspected =>
      inspected current remote rfl

/-! ## Automatic standby -/

theorem pauseIfIdleBegin_guards :
    Guards deployment thread (pauseIfIdleBegin key) (Handed thread key) records := by
  unfold pauseIfIdleBegin
  refine guards_getSandbox (fun _ => guards_ret trivial) fun sandbox present keyed => ?_
  dsimp only
  split
  · exact guards_ret trivial
  refine guards_unlessFenced (guards_ret trivial) fun free => ?_
  refine guards_unless (guards_ret trivial) ?_
  have sound : Guards deployment thread (look fun _ memory => memory.recentActivity key)
      (fun _ after => records = after ∧ Sound deployment.limits records) records :=
    look_guards fun _ _ reading => reading.sound
  refine guards_bind sound ?_
  rintro recent _ ⟨rfl, isSound⟩
  generalize (if sandbox.lastActiveAt < recent then recent else sandbox.lastActiveAt) = lastActive
  split
  · refine guards_look fun at_ => ?_
    refine guards_bind recordActivityLocked_guards ?_
    rintro _ _ _
    exact guards_ret trivial
  refine guards_look fun at_ => ?_
  split
  · exact guards_ret trivial
  -- The key names the current revision, which no claim of an automatic pause has left behind.
  have claimable : Claimable deployment key sandbox
      ("auto_pause_sandbox:" ++ key.2) (automaticKey lastActive sandbox.revision) records := by
    refine ⟨fun _ => ?_, by simp [beyondSandboxes, hasStart, List.isPrefixOf],
      .inr ⟨rfl, lastActive, rfl⟩⟩
    cases isBound : records.tables.idempotency.lookup
        (key.1, "auto_pause_sandbox:" ++ key.2, automaticKey lastActive sandbox.revision) with
    | none => rfl
    | some id =>
      obtain ⟨row, isRow, isBehind⟩ := isSound.automatic _ _ _ _ _ isBound
      cases present.symm.trans isRow
      exact absurd isBehind (Nat.lt_irrefl _)
  refine guards_bind (beginTransitionLocked_guards present keyed rfl rfl free claimable) ?_
  rintro ⟨operation, _ | error⟩ after opened
  case some => exact guards_ret trivial
  obtain ⟨row, isRow⟩ := Option.ne_none_iff_exists'.mp (opened rfl).row
  refine guards_bind getSandbox_guards ?_
  rintro (error | begun) _ ⟨rfl, read⟩
  · exact guards_ret trivial
  refine guards_bind (setFence_underway (opened rfl) isRow) ?_
  rintro _ last underway
  obtain ⟨isBegun, isKeyed⟩ := read begun rfl
  cases isRow.symm.trans isBegun
  exact guards_ret ⟨row, underway, .self isKeyed⟩

theorem pauseIfIdle_bridges :
    Conforms deployment thread (pauseIfIdle deployment key) := by
  unfold pauseIfIdle
  refine bridges_bind (bridges_locked Handed.kept fun _ _ => pauseIfIdleBegin_guards) ?_
  rintro (errors | ⟨begun, operation⟩)
  · exact bridges_done
  refine bridges_bind (bridges_spares (Handed.kept _) pauseOutside_spares) ?_
  rintro ⟨sandbox, succeeded⟩
  have finished : Bridges deployment thread
      (fun records => Handed thread key (.ok (begun, operation) :
        Except (List ServiceError) (Sandbox × Operation)) records ∧ Edited begun sandbox)
      (locked (finishTransition key sandbox operation .standby
        (if succeeded then none else some "backend_auto_pause_sandbox_failed")))
      (fun _ _ => True) := by
    refine bridges_locked (fun _ => kept_true) ?_
    rintro records ⟨⟨row, underway, follows⟩, edited⟩
    exact finishTransition_guards underway (follows.edited edited)
  refine bridges_bind finished ?_
  rintro ⟨_, _, error⟩
  exact bridges_done

/-! ## The whole pass -/

theorem reconcileSandboxes_bridges (sandboxes : List Sandbox) :
    Conforms deployment thread (reconcileSandboxes deployment fuel operations sandboxes) := by
  induction sandboxes with
  | nil => exact bridges_done
  | cons sandbox rest ih =>
    have own : Own (sandboxKey sandbox) (operations.filter fun operation =>
        (operation.projectID, operation.resourceID) = sandboxKey sandbox) := by
      intro operation member
      simpa using (List.mem_filter.mp member).2
    refine conforms_unlessCancelled ?_
    refine bridges_bind (reconcileSandboxBackendState_bridges own) fun errors => ?_
    exact bridges_bind ih fun others => bridges_done

theorem pauseIdleSandboxes_bridges (sandboxes : List Sandbox) :
    Conforms deployment thread (pauseIdleSandboxes deployment sandboxes) := by
  induction sandboxes with
  | nil => exact bridges_done
  | cons sandbox rest ih =>
    refine bridges_bind pauseIfIdle_bridges fun errors => ?_
    exact bridges_bind ih fun others => bridges_done

theorem reconcile_bridges :
    Conforms deployment thread (reconcile deployment fuel) := by
  have backendState : Conforms deployment thread (reconcileBackendState deployment fuel) := by
    unfold reconcileBackendState
    refine conforms_unlessCancelled ?_
    refine bridges_bind (aside_bridges look_spares) ?_
    rintro (error | operations)
    · exact bridges_done
    refine bridges_bind reconcileWorkspaces_bridges fun workspaceErrors => ?_
    refine bridges_bind (aside_bridges look_spares) ?_
    rintro (error | sandboxes)
    · exact bridges_done
    refine bridges_bind (reconcileSandboxes_bridges sandboxes) fun errors => ?_
    exact bridges_done
  have autoStandby : Conforms deployment thread (reconcileAutoStandby deployment) := by
    unfold reconcileAutoStandby
    refine bridges_bind (aside_bridges look_spares) ?_
    rintro (error | sandboxes)
    · exact bridges_done
    · exact pauseIdleSandboxes_bridges _
  unfold reconcile
  refine bridges_bind backendState fun backendErrors => ?_
  refine conforms_unlessCancelled ?_
  exact bridges_bind autoStandby fun standbyErrors => bridges_done

end Brezel.Service
