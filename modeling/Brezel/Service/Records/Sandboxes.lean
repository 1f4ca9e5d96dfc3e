import Brezel.Service.Records.Lifecycle

/-!
# Creating and reading sandboxes keeps the records

A creation is admitted on the records that its transaction then finds, for both happen inside the
mutex.  Its row is new, so the backend has not been asked for it yet; it stays so until the thread
that has the sandbox fenced makes the call (`Prepared`).
-/

namespace Brezel.Service

open Domain Store Monitor

variable {deployment : Deployment} {thread : Nat} {records : Records} {key : Key}
variable {state : State} {digest projectID requestKey : String} {input : CreateSandboxInput}
  {sandbox : Sandbox} {operation : Operation}

/-! ## Admission -/

/-- What the admission of a creation has found. -/
structure CreateAdmitted (limits : Limits) (state : State) (projectID requestKey : String)
    (mounts : List WorkspaceMount) : Prop where
  unused : state.idempotency.lookup (projectID, "create_sandbox", requestKey) = none
  perProject : (activeIn state projectID).length < limits.maxActiveSandboxesPerProject
  total : (active state).length < limits.maxActiveSandboxesTotal
  mounts : ∀ mount ∈ mounts, Unattached state (projectID, mount.workspaceID) ∧
    ∃ workspace, state.workspaces.lookup (projectID, mount.workspaceID) = some workspace ∧
      workspace.state = .ready

theorem unattached_of_any (isValid : state.valid = true) {key : Key}
    (none_ : state.sandboxes.entries.any (fun pair =>
      !pair.2.state.terminal && pair.2.projectID = key.1 &&
        pair.2.workspaceMounts.any (·.workspaceID = key.2)) = false) : Unattached state key := by
  rintro holder ⟨sandbox, present, isLive, isProject, mount, isMount, isWorkspace⟩
  have keyed := congrArg Prod.fst (row_keyed isValid present)
  refine (List.any_eq_false.mp none_) ⟨holder, sandbox⟩ (Table.mem_entries_iff.mpr present) ?_
  have isProject' : sandbox.projectID = key.1 := keyed.trans isProject
  simp only [isLive, isProject', Bool.not_false, decide_true, Bool.true_and, List.any_eq_true]
  exact ⟨mount, isMount, decide_eq_true isWorkspace⟩

theorem admitMounts_free (isValid : state.valid = true) {mounts : List WorkspaceMount}
    {admitted : List (String × String)}
    (isAdmitted : admitMounts state projectID mounts = .ok admitted) :
    ∀ mount ∈ mounts, Unattached state (projectID, mount.workspaceID) ∧
      ∃ workspace, state.workspaces.lookup (projectID, mount.workspaceID) = some workspace ∧
        workspace.state = .ready := by
  induction mounts generalizing admitted with
  | nil => simp
  | cons mount rest ih =>
    simp only [admitMounts] at isAdmitted
    split at isAdmitted
    · cases isAdmitted
    next workspace isWorkspace =>
    split at isAdmitted
    · cases isAdmitted
    next isReady =>
    split at isAdmitted
    · cases isAdmitted
    next isFree =>
    split at isAdmitted
    · cases isAdmitted
    next isRest =>
    intro other member
    rcases List.mem_cons.mp member with rfl | member
    · simp only [not_or, not_not] at isReady
      exact ⟨unattached_of_any isValid (Bool.eq_false_iff.mpr isFree), workspace,
        isWorkspace, isReady.1⟩
    · exact ih isRest other member

theorem admitSandboxCreate_fresh {limits : Limits} (isValid : state.valid = true)
    {environment : Environment} {source : Checkpoint} {mounts : List (String × String)}
    (isAdmitted : admitSandboxCreate limits state projectID requestKey digest input =
      .ok (.fresh environment source mounts)) :
    CreateAdmitted limits state projectID requestKey input.workspaceMounts := by
  simp only [admitSandboxCreate] at isAdmitted
  split at isAdmitted
  · split at isAdmitted <;> cases isAdmitted
  next isUnused =>
  split at isAdmitted
  · cases isAdmitted
  next perProject =>
  split at isAdmitted
  · cases isAdmitted
  next total =>
  split at isAdmitted
  · cases isAdmitted
  next checkpoint _ =>
  generalize (if input.checkpointID = "" then input.environmentRevision
    else checkpoint.environmentRevision) = revision at isAdmitted
  split at isAdmitted
  · cases isAdmitted
  split at isAdmitted
  · cases isAdmitted
  split at isAdmitted
  · cases isAdmitted
  split at isAdmitted
  · cases isAdmitted
  next isMounts =>
  refine ⟨idempotentOperation_none isValid ?_, Nat.lt_of_not_le perProject,
    Nat.lt_of_not_le total, admitMounts_free isValid isMounts⟩
  rw [isUnused]
  rfl

/-! ## Creation -/

/-- The row and the operation of a creation are written, and the backend has not been asked. -/
structure Announced (key : Key) (sandbox : Sandbox) (operation : Operation) (records : Records)
    (log : List Query) : Prop extends Opened key operation records where
  isRow : records.tables.row key = some sandbox
  claimed : CreationClaimed records.tables key
  pristine : key ∉ created log

/-- The same, once the sandbox is fenced. -/
structure Provisioning (thread : Nat) (key : Key) (sandbox : Sandbox) (operation : Operation)
    (records : Records) (log : List Query) : Prop
    extends Underway thread key sandbox operation records where
  claimed : CreationClaimed records.tables key
  pristine : key ∉ created log

theorem Written.create {limits : Limits} {inFlight : Key → List Nat} {before after : State}
    {event : Event}
    (admitted : CreateAdmitted limits before sandbox.projectID requestKey sandbox.workspaceMounts)
    (absent : before.row (sandboxKey sandbox) = none)
    (isNew : before.operations.lookup (operationKey operation) = none)
    (isIndex : (operation.projectID, operation.kind, operation.idempotencyKey) =
      (sandbox.projectID, "create_sandbox", requestKey))
    (isAfter : after = ((((before.putSandbox sandbox).putOperation operation).putIdempotency
      operation).putIdempotencyDigest operation digest).appendEvent event) :
    Written limits inFlight before after := by
  have sameElsewhere (other : Key) (different : other ≠ sandboxKey sandbox) :
      after.row other = before.row other := by
    rw [isAfter]
    exact AList.lookup_insert_ne different
  refine ⟨.admitNew (by rw [isAfter]; rfl) absent ⟨admitted.perProject, admitted.total,
    admitted.mounts, sameElsewhere, by rw [isAfter]; rfl⟩, .open (by rw [isAfter]; rfl) isNew,
    .claim (by rw [isAfter]; rfl) (.inr ⟨digest, by rw [isAfter]; rfl⟩) ?_ ?_,
    .of_eq (by rw [isAfter]; rfl)⟩
  · rw [isIndex]
    exact admitted.unused
  · intro projectID name lastActive revision isAutomatic
    refine absurd isAutomatic (not_automatic (congrArg (·.2.1) isIndex) ?_)
    simp [hasStart, List.isPrefixOf]

section Log

variable [Lookups] {other : Nat} {query : Query} {log : List Query}

/-- Another thread does not ask for a sandbox that it has not fenced. -/
theorem pristine_call (permitted : Permitted other query records log)
    (pristine : key ∉ created log) (unowned : records.inFlight key ≠ [other]) :
    key ∉ created (query :: log) := by
  cases query with
  | backend target call =>
    cases call with
    | create request =>
      intro isCreated
      rcases List.mem_cons.mp isCreated with rfl | wasCreated
      · exact unowned permitted.1
      · exact pristine wasCreated
    | _ => exact pristine
  | _ => exact pristine

theorem Announced.kept :
    Contract.Stable (system deployment recorder) (contract deployment) thread true
      (Announced key sandbox operation) := by
  intro before after step announced
  cases step with
  | call _ _ permitted _ answered =>
    cases answered
    refine { announced with pristine := pristine_call permitted announced.pristine ?_ }
    rw [announced.free]
    nofun
  | drift _ drifted => exact drifted.elim

theorem Provisioning.kept :
    Contract.Stable (system deployment recorder) (contract deployment) thread false
      (Provisioning thread key sandbox operation) := by
  intro before after step provisioning
  cases step with
  | access _ distinct effect =>
    exact ⟨provisioning.toUnderway.kept distinct effect, provisioning.claimed.kept effect,
      provisioning.pristine⟩
  | call _ distinct permitted _ answered =>
    cases answered
    refine { provisioning with pristine := pristine_call permitted provisioning.pristine ?_ }
    rw [provisioning.flight]
    exact fun same => distinct (List.cons.inj same).1.symm
  | drift _ drifted => exact drifted.elim

end Log

variable [Lookups]

theorem persistCreate_at {environment : Environment} {source : Checkpoint} {log : List Query}
    (admitted : CreateAdmitted deployment.limits records.tables projectID requestKey
      input.workspaceMounts) :
    Contract.At (system deployment recorder) (contract deployment) thread
      (persistCreate projectID requestKey digest environment source input)
      (fun result after log => ∀ sandbox operation lease,
        result = .ok (sandbox, operation, lease) → sandboxKey sandbox = (projectID, sandbox.id) ∧
          Announced (projectID, sandbox.id) sandbox operation after log) records log := by
  refine Contract.At.act (fun result => ?_) ?_
  · intro before after step announced sandbox operation lease isResult
    obtain ⟨keyed, isAnnounced⟩ := announced sandbox operation lease isResult
    exact ⟨keyed, Announced.kept step isAnnounced⟩
  intro choice memory isView ⟨sound, logged⟩ admissible given
  have isRecords : memory.records = records := isView
  subst isRecords
  have fences := given.fences
  have absent : memory.state.row (projectID, "sbx_" ++ choice.identifier) = none :=
    admissible.fresh.row
  have unfenced := fences.absent _ absent
  have pristine : (projectID, "sbx_" ++ choice.identifier) ∉ created log :=
    fun isCreated => (logged.claimed _ isCreated).1 absent
  dsimp only at fences ⊢
  split
  · exact ⟨.refl _, by simp⟩
  next isLeased =>
  rw [if_neg isLeased] at fences
  generalize done : transact choice.fault _ memory.state = outcome at fences ⊢
  obtain ⟨result, next⟩ := outcome
  rcases transact_cases done with ⟨⟨error, rfl⟩, rfl⟩ | ⟨pair, computed, isValid, reported⟩
  · exact ⟨.refl _, by simp⟩
  rcases createRows_cases (guarding_ok computed).1 with
    ⟨rfl, entry, member, isEntry⟩ | ⟨-, rfl, isNext⟩
  · rcases reported with rfl | rfl
    · have other : pair.2.resourceID ≠ "sbx_" ++ choice.identifier :=
        isEntry ▸ (admissible.fresh.operations entry member).2.1
      dsimp only
      rw [if_pos other]
      exact ⟨.refl _, by simp⟩
    · exact ⟨.refl _, by simp⟩
  have isAdmitted : CreateAdmitted deployment.limits memory.state projectID requestKey
      input.workspaceMounts :=
    ⟨admitted.unused, admitted.perProject, admitted.total, admitted.mounts⟩
  have written : Written deployment.limits memory.inFlight memory.state next := by
    refine .create ?_ ?_ ?_ rfl isNext
    · exact isAdmitted
    · exact absent
    · exact admissible.fresh.operation projectID
  rcases reported with rfl | rfl
  · dsimp only at fences ⊢
    rw [if_neg (fun different => different rfl)] at fences ⊢
    refine ⟨written.effect fences fun _ => isValid, ?_⟩
    rintro sandbox operation lease ⟨⟩
    have isRow : next.row (projectID, "sbx_" ++ choice.identifier) =
        some (preparingSandbox projectID ("sbx_" ++ choice.identifier) environment source input
          choice.now) := by
      rw [isNext]
      exact AList.lookup_insert memory.state.sandboxes
    have isPresent : next.row (projectID, "sbx_" ++ choice.identifier) ≠ none := by
      rw [isRow]
      nofun
    have isStored : next.operations.lookup (projectID, "op_" ++ choice.identifier) =
        some ⟨"op_" ++ choice.identifier, projectID, "create_sandbox", "sbx_" ++ choice.identifier,
          .running, requestKey, choice.now, choice.now, none⟩ := by
      rw [isNext]
      exact AList.lookup_insert memory.state.operations
    have isBound : next.idempotency.lookup (projectID, "create_sandbox", requestKey) =
        some ("op_" ++ choice.identifier) := by
      rw [isNext]
      exact AList.lookup_insert memory.state.idempotency
    exact ⟨rfl, ⟨unfenced, isPresent, isStored, rfl, rfl,
      by simp [beyondSandboxes, hasStart, List.isPrefixOf]⟩, isRow,
      ⟨isPresent, requestKey, _, _, isBound, isStored, rfl, rfl⟩, pristine⟩
  · exact ⟨written.effect fences fun _ => isValid, by simp⟩

theorem setFence_at {log : List Query} (announced : Announced key sandbox operation records log) :
    Contract.At (system deployment recorder) (contract deployment) thread (setFence key)
      (fun _ => Provisioning thread key sandbox operation) records log := by
  refine Contract.At.act (fun _ => Provisioning.kept.held) ?_
  intro choice memory isView _ admissible given
  have isRecords : memory.records = records := isView
  subst isRecords
  have free : memory.inFlight key = [] := announced.free
  have flight : Function.update memory.inFlight key (choice.thread :: memory.inFlight key) key =
      [thread] := by
    rw [Function.update_self, free, admissible.thread]
  exact ⟨.fences given.fences rfl, ⟨⟨flight, announced.isRow⟩, announced.stored, announced.about,
    announced.running, announced.sandboxed⟩, announced.claimed, announced.pristine⟩

/-- What the first section of a creation hands over. -/
def Planned (thread : Nat) (projectID : String) (result : Except Outcome CreatePlan)
    (records : Records) (log : List Query) : Prop :=
  ∀ plan, result = .ok plan → sandboxKey plan.sandbox = (projectID, plan.sandbox.id) ∧
    Provisioning thread (projectID, plan.sandbox.id) plan.sandbox plan.operation records log

theorem Planned.kept (result : Except Outcome CreatePlan) :
    Contract.Stable (system deployment recorder) (contract deployment) thread false
      (Planned thread projectID result) := by
  intro before after step planned plan isPlan
  obtain ⟨keyed, provisioning⟩ := planned plan isPlan
  exact ⟨keyed, Provisioning.kept step provisioning⟩

theorem admission_guards :
    Guards deployment thread (look fun choice memory =>
      if choice.readFails then .error .store
      else admitSandboxCreate deployment.limits memory.state projectID requestKey digest input)
      (fun admission after => records = after ∧ ∀ environment source mounts,
        admission = .ok (.fresh environment source mounts) →
        CreateAdmitted deployment.limits records.tables projectID requestKey
          input.workspaceMounts) records := by
  refine look_guards fun choice memory reading environment source mounts isFresh => ?_
  have sound := reading.sound.valid
  rw [← reading.view] at sound ⊢
  have isValid : memory.state.valid = true := sound
  split at isFresh
  · cases isFresh
  · have admitted := admitSandboxCreate_fresh isValid isFresh
    exact ⟨admitted.unused, admitted.perProject, admitted.total, admitted.mounts⟩

theorem createBegin_plans {request : CreateSandboxInput} :
    Contract.Inside (system deployment recorder) (contract deployment) thread
      (createBegin deployment projectID requestKey request) (Planned thread projectID) records := by
  have refused {records : Records} (outcome : Outcome) :
      Contract.Inside (system deployment recorder) (contract deployment) thread
        (pure (.error outcome) : Code (Except Outcome CreatePlan)) (Planned thread projectID)
        records :=
    Contract.Inside.ret fun _ => by rintro plan ⟨⟩
  unfold createBegin
  split
  · exact refused _
  dsimp only
  split
  · exact refused _
  refine Contract.Inside.bind admission_guards ?_
  rintro admission _ _ ⟨rfl, isFresh⟩
  split
  · exact refused _
  · refine Contract.Inside.bind look_any ?_
    rintro found _ _ rfl
    exact refused _
  next environment source mounts =>
  have admitted := isFresh environment source mounts rfl
  split
  · exact refused _
  split
  · exact refused _
  split
  · exact refused _
  split
  · exact refused _
  refine fun log => Contract.At.bind (persistCreate_at admitted) ?_
  rintro (outcome | ⟨sandbox, operation, lease⟩) after log announced
  · exact refused outcome log
  · obtain ⟨keyed, isAnnounced⟩ := announced sandbox operation lease rfl
    refine Contract.At.bind (setFence_at isAnnounced) ?_
    rintro _ last lastLog provisioning
    refine ⟨rfl, ?_⟩
    rintro plan ⟨⟩
    exact ⟨keyed, provisioning⟩

theorem failCreate_guards {row : Sandbox} {state : SandboxState} {failure : Failure} {type : String}
    (free : records.inFlight key = []) (present : records.tables.row key = some row)
    (follows : Follows 0 key row sandbox)
    (stored : records.tables.operations.lookup (operationKey operation) = some operation)
    (about : (operation.projectID, operation.resourceID) = key)
    (running : operation.state = .running) :
    Guards deployment thread (failCreate sandbox operation state failure type) (fun _ _ => True)
      records := by
  unfold failCreate
  refine guards_look fun at_ => ?_
  exact guards_last (settling_guards free present (follows.next rfl rfl rfl rfl) stored about
    running rfl rfl rfl)

/-- What the second section of a creation hands over: a record that is ahead of the row. -/
def Confirmed (thread : Nat) (key : Key) (plan : CreatePlan) (result : Except Outcome Sandbox)
    (records : Records) : Prop :=
  ∀ sandbox, result = .ok sandbox → Follows 1 key plan.sandbox sandbox ∧
    Underway thread key plan.sandbox plan.operation records

theorem createProvisioned_guards {plan : CreatePlan} {reply : Except BackendError RemoteSandbox}
    (keyed : sandboxKey plan.sandbox = key)
    (underway : Underway thread key plan.sandbox plan.operation records) :
    Guards deployment thread (createProvisioned key plan reply) (Confirmed thread key plan)
      records := by
  have failing (state : SandboxState) (failure : Failure) (type : String) :
      Guards deployment thread (failCreate plan.sandbox plan.operation state failure type)
        (fun _ _ => True) ⟨records.tables, Function.update records.inFlight key
          ((records.inFlight key).erase thread)⟩ :=
    failCreate_guards underway.cleared underway.row (.self keyed) underway.stored underway.about
      underway.running
  unfold createProvisioned
  split
  · refine guards_bind clearFence_guards ?_
    rintro _ _ rfl
    refine guards_bind (failing _ _ _) ?_
    rintro _ _ _
    refine guards_ret ?_
    rintro sandbox ⟨⟩
  · refine guards_bind clearFence_guards ?_
    rintro _ _ rfl
    refine guards_bind (failing _ _ _) ?_
    rintro _ _ _
    refine guards_ret ?_
    rintro sandbox ⟨⟩
  · refine guards_note ?_
    refine guards_look fun at_ => ?_
    refine guards_ret ?_
    rintro sandbox ⟨⟩
    exact ⟨(Follows.self keyed).next rfl rfl rfl rfl, underway⟩

theorem createFinish_guards {row : Sandbox} {failure : Option RouteFailure}
    (underway : Underway thread key row operation records) (follows : Follows 1 key row sandbox) :
    Guards deployment thread (createFinish key sandbox operation failure) (fun _ _ => True)
      records := by
  unfold createFinish
  refine guards_bind clearFence_guards ?_
  rintro _ _ rfl
  cases failure with
  | some failure =>
    exact guards_last (failCreate_guards underway.cleared underway.row (follows.weaken
      (Nat.zero_le 1)) underway.stored underway.about underway.running)
  | none =>
    refine guards_look fun at_ => ?_
    exact guards_last (settling_guards underway.cleared underway.row
      (follows.raise 0 rfl rfl rfl rfl) underway.stored underway.about underway.running rfl rfl
      rfl)

theorem createSandbox_bridges :
    Conforms deployment thread (createSandbox deployment projectID requestKey input) := by
  unfold createSandbox
  refine Contract.Between.bind (Contract.Between.locked Planned.kept
    fun _ _ _ => createBegin_plans) ?_
  rintro (outcome | plan)
  · exact Contract.Between.ret fun _ _ _ => trivial
  -- The call is permitted, and after it the thread still has its own row and operation.
  have asked : Contract.Between (system deployment recorder) (contract deployment) thread
      (Planned thread projectID (.ok plan))
      (backendCall (projectID, plan.sandbox.id) (.create plan.request)) fun _ records _ =>
        sandboxKey plan.sandbox = (projectID, plan.sandbox.id) ∧
          Underway thread (projectID, plan.sandbox.id) plan.sandbox plan.operation records := by
    refine Contract.Between.call (fun _ => ?_) ?_ ?_
    · exact kept_of_effect fun _ _ _ distinct effect known =>
        ⟨known.1, known.2.kept distinct effect⟩
    · intro records log planned _
      obtain ⟨-, provisioning⟩ := planned plan rfl
      exact ⟨provisioning.flight, provisioning.pristine, provisioning.claimed⟩
    · intro records log reply after planned _ _ _
      obtain ⟨keyed, provisioning⟩ := planned plan rfl
      exact ⟨keyed, provisioning.toUnderway⟩
  refine Contract.Between.bind asked fun reply => ?_
  have kept (result : Except Outcome Sandbox) : Kept deployment thread
      (Confirmed thread (projectID, plan.sandbox.id) plan result) :=
    kept_of_effect fun _ _ _ distinct effect confirmed sandbox isOk =>
      ⟨(confirmed sandbox isOk).1, (confirmed sandbox isOk).2.kept distinct effect⟩
  refine bridges_bind (bridges_locked kept fun _ known =>
    createProvisioned_guards known.1 known.2) ?_
  rintro (outcome | sandbox)
  · exact bridges_done
  refine bridges_bind (bridges_spares (kept _) attachNodeRoute_spares) ?_
  rintro ⟨attached, failure⟩
  refine bridges_locked (fun _ => kept_true) ?_
  rintro records ⟨confirmed, edited⟩
  obtain ⟨follows, underway⟩ := confirmed sandbox rfl
  exact createFinish_guards underway (follows.edited edited)

/-! ## Reading -/

theorem observeLocked_guards (present : records.tables.row key = some sandbox)
    (keyed : sandboxKey sandbox = key) :
    Guards deployment thread (observeLocked key sandbox) (fun _ _ => True) records := by
  have follows := Follows.self keyed
  unfold observeLocked
  refine guards_bind (guards_spares (backendCall_spares trivial)) ?_
  rintro reply _ ⟨rfl, -⟩
  split
  · exact markMissingLocked_guards present follows
  · exact markUnknownLocked_guards present follows
  split
  · exact guards_ret trivial
  refine guards_note ?_
  refine guards_look fun at_ => ?_
  refine guards_note ?_
  exact guards_last (row_guards present (follows.next rfl rfl rfl rfl))

theorem cancelGuests_guards :
    Guards deployment thread (cancelActiveGuestOperationsLocked key)
      (fun _ after => records = after) records :=
  access_spared fun _ _ => rfl

theorem getSandboxState_bridges :
    Conforms deployment thread (getSandboxState deployment key) := by
  refine bridges_locked (fun _ => kept_true) fun records _ => ?_
  unfold getSandboxLocked
  refine guards_getSandbox (fun _ => guards_ret trivial) fun sandbox present keyed => ?_
  refine guards_unlessFenced (guards_ret trivial) fun free => ?_
  split
  · exact guards_ret trivial
  split
  · exact reconcileCleanupLocked_guards present keyed free
  refine guards_look fun at_ => ?_
  split
  · refine guards_bind cancelGuests_guards ?_
    rintro _ _ rfl
    exact expireLocked_guards present keyed free
  split
  · exact guards_ret trivial
  refine guards_unless (guards_ret trivial) ?_
  · exact observeLocked_guards present keyed

end Brezel.Service
