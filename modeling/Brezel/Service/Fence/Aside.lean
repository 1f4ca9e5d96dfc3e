import Brezel.Service.Fence.Rules

/-!
# Code beside the sandboxes

The operations on environments, connectors, workspaces and recorded checkpoints leave every sandbox
as it is: its row, its fence and its guests.  `Aside` says so of a piece of code, whatever its
thread knows, and is closed under sequencing.
-/

namespace Brezel.Service

open Domain Store Monitor

variable {key : Key} {operation : Operation} {digest idempotencyKey projectID : String}
  {next state : State} {workspace : Workspace} {operations : List Operation}

namespace Setting

variable {Outside : Type} {setting : Setting Outside} {thread : Nat} {α β : Type}

/-- The code leaves every sandbox as it is, and its thread with what it knew. -/
def Aside (setting : Setting Outside) (thread : Nat) (code : Code α) : Prop :=
  ∀ token, setting.Verifies thread code token fun _ token' => token' = token

theorem Aside.ret (value : α) : setting.Aside thread (pure value : Code α) := fun _ => rfl

theorem Aside.bind {code : Code α} {continuation : α → Code β} (first : setting.Aside thread code)
    (second : ∀ value, setting.Aside thread (continuation value)) :
    setting.Aside thread (code >>= continuation) := by
  intro token
  refine verifies_bind (first token) ?_
  rintro value _ rfl
  exact second value _

theorem Aside.look {body : Choice → Memory → α} : setting.Aside thread (look body) :=
  fun _ => look_keeps

theorem Aside.access {body : Choice → Memory → α × Memory}
    (same : ∀ choice memory key, (body choice memory).2.inner key = memory.inner key) :
    setting.Aside thread (access body) :=
  fun _ => Prog.wp_mono (access_keeps same) fun _ _ seen => seen.1

theorem Aside.updateRows {body : Choice → State → Except ServiceError (α × State)}
    (keeps : ∀ choice state value next, body choice state = .ok (value, next) →
      next.row = state.row) : setting.Aside thread (updateRows body) :=
  fun _ => updateRows_keeps keeps

theorem Aside.workspaceCall {call : WorkspaceCall} :
    setting.Aside thread (workspaceCall key call) := by
  intro token
  refine ⟨fun _ _ _ _ => trivial, ?_⟩
  intro memory outside reply outside' agrees healthy answered
  exact ⟨token, callMove_same (setting.surroundings.workspace_keeps answered) agrees healthy, rfl⟩

/-- A section beside the sandboxes. -/
theorem Aside.locked {body : Code α} (aside : setting.Aside thread body) :
    setting.Frees thread (locked body) := by
  refine locked_free ("", "") fun inner known looking => ?_
  refine Prog.wp_mono (aside _) ?_
  rintro _ _ rfl
  exact ⟨.free, looking.left, rfl⟩

/-! ## Environments and connectors -/

theorem environmentRows_keeps {environment : Environment} {value : Environment × Operation}
    (computed : environmentRows environment operation digest state = .ok (value, next)) :
    next.row = state.row := by
  unfold environmentRows at computed
  dsimp only at computed
  split at computed
  · split at computed <;> cases computed
    rfl
  · split at computed <;> cases computed <;> rfl

theorem createEnvironment_frees {input : CreateEnvironmentInput} :
    setting.Frees thread (createEnvironment setting.deployment projectID idempotencyKey input) := by
  have writes : ∀ (environment : Environment) (operation : Operation) (digest : String),
      setting.Aside thread (Service.updateRows fun _ =>
        environmentRows environment operation digest) :=
    fun _ _ _ => .updateRows fun _ _ _ _ => environmentRows_keeps
  refine Aside.locked ?_
  unfold createEnvironmentLocked
  split
  · exact .ret _
  refine .bind .look fun at_ => ?_
  dsimp only
  split
  · exact .ret _
  refine .bind .look fun id => .bind .look fun admission => ?_
  split
  · exact .ret _
  · exact .ret _
  · split
    · exact .ret _
    · refine .bind (writes _ _ _) fun result => ?_
      split <;> exact .ret _
  · refine .bind (writes _ _ _) fun result => ?_
    split <;> exact .ret _

theorem connectorRows_keeps {limits : Limits} {connector : Connector}
    {value : Connector × Operation}
    (computed : connectorRows limits connector operation digest state = .ok (value, next)) :
    next.row = state.row := by
  unfold connectorRows at computed
  dsimp only at computed
  split at computed
  · split at computed <;> cases computed
    rfl
  · split at computed <;> cases computed
    rfl

theorem createConnector_frees {input : CreateConnectorInput} :
    setting.Frees thread (createConnector setting.deployment projectID idempotencyKey input) := by
  refine Aside.locked ?_
  unfold createConnectorLocked
  split
  · exact .ret _
  refine .bind .look fun at_ => ?_
  dsimp only
  split
  · exact .ret _
  refine .bind .look fun id =>
    .bind (fun _ => update_keeps fun _ _ _ _ => connectorRows_keeps) fun result => ?_
  split <;> exact .ret _

/-! ## Workspaces -/

theorem writeWorkspace_aside :
    setting.Aside thread (writeWorkspace workspace operation) := by
  refine .updateRows ?_
  rintro choice state value next ⟨⟩
  rfl

theorem workspaceRows_keeps {value : Workspace × Operation}
    (computed : workspaceRows workspace operation digest state = .ok (value, next)) :
    next.row = state.row := by
  unfold workspaceRows at computed
  dsimp only at computed
  split at computed
  · split at computed <;> cases computed
    rfl
  · cases computed
    rfl

theorem persistWorkspace_aside {input : CreateWorkspaceInput} :
    setting.Aside thread (persistWorkspace projectID idempotencyKey digest input) := by
  refine .access fun choice memory key => ?_
  dsimp only
  generalize done : transact choice.fault _ memory.state = outcome
  obtain ⟨result, after⟩ := outcome
  have same : after.row = memory.state.row := by
    rcases transact_cases done with ⟨-, rfl⟩ | ⟨value, computed, -, -⟩
    · rfl
    · exact workspaceRows_keeps (guarding_ok computed).1
  have kept : ({ memory with state := after } : Memory).inner key = memory.inner key := by
    unfold Memory.inner
    rw [same]
  cases result with
  | error error => exact kept
  | ok pair =>
    dsimp only
    split <;> exact kept

theorem failWorkspaceCreate_aside {failure : Failure} :
    setting.Aside thread (failWorkspaceCreate workspace operation failure) :=
  .bind .look fun _ => .bind writeWorkspace_aside fun _ => .ret _

theorem createWorkspaceFinish_aside {reply : Except BackendError RemoteWorkspace} :
    setting.Aside thread (createWorkspaceFinish workspace operation reply) := by
  unfold createWorkspaceFinish
  split
  · exact failWorkspaceCreate_aside
  split
  · exact failWorkspaceCreate_aside
  · exact .bind .look fun _ => .bind writeWorkspace_aside fun _ => .ret _

theorem createWorkspace_frees {input : CreateWorkspaceInput} :
    setting.Frees thread (createWorkspace setting.deployment projectID idempotencyKey input) := by
  refine Aside.locked ?_
  unfold createWorkspaceLocked
  split
  · exact .ret _
  split
  · exact .ret _
  split
  · exact .ret _
  refine .bind .look fun admission => ?_
  split
  · exact .ret _
  · refine .bind .look fun found => ?_
    split <;> exact .ret _
  split
  · exact .ret _
  refine .bind persistWorkspace_aside fun outcome => ?_
  split
  · exact .ret _
  · exact .bind .workspaceCall fun _ => createWorkspaceFinish_aside

theorem deleteWorkspaceBackend_aside :
    setting.Aside thread (deleteWorkspaceBackend key workspace) := by
  unfold deleteWorkspaceBackend
  split
  · exact .ret _
  refine .bind .workspaceCall fun reply => ?_
  split <;> exact .ret _

theorem reconcileWorkspaceCleanupLocked_aside :
    setting.Aside thread (reconcileWorkspaceCleanupLocked key workspace operation) := by
  have fails : ∀ (workspace : Workspace) (code : String),
      setting.Aside thread (failWorkspaceCleanupLocked workspace operation code) :=
    fun _ _ => .bind .look fun _ => .bind writeWorkspace_aside fun _ => .ret _
  have finds : setting.Aside thread (findWorkspaceLocked key workspace) := by
    unfold findWorkspaceLocked
    split
    · exact .ret _
    refine .bind .workspaceCall fun reply => ?_
    split <;> exact .ret _
  unfold reconcileWorkspaceCleanupLocked
  refine .bind finds fun found => ?_
  split
  · exact fails _ _
  refine .bind deleteWorkspaceBackend_aside fun failure => ?_
  split
  · exact fails _ _
  · exact .bind .look fun _ => .bind writeWorkspace_aside fun _ => .ret _

theorem deleteWorkspace_frees :
    setting.Frees thread (deleteWorkspace setting.deployment key idempotencyKey) := by
  refine Aside.locked ?_
  unfold deleteWorkspaceLocked
  split
  · exact .ret _
  split
  · exact .ret _
  refine .bind .look fun found => ?_
  split
  · exact .ret _
  refine .bind .look fun existing => ?_
  split
  · exact .ret _
  refine .bind .look fun isFenced => ?_
  split
  · exact .ret _
  split
  · exact .ret _
  refine .bind .look fun attachment => ?_
  split
  · exact .ret _
  split
  · exact .ret _
  refine .bind .look fun at_ => .bind .look fun id => .bind (.updateRows ?_) fun result => ?_
  · rintro choice state value next ⟨⟩
    rfl
  · split
    · exact .ret _
    · exact reconcileWorkspaceCleanupLocked_aside

theorem reconcileWorkspaceBegin_aside :
    setting.Aside thread (reconcileWorkspaceBegin key) := by
  unfold reconcileWorkspaceBegin
  refine .bind .look fun found => ?_
  split
  · exact .ret _
  split
  · exact .ret _
  refine .bind .look fun isFenced => ?_
  split
  · exact .ret _
  · exact .bind (.access fun _ _ _ => rfl) fun _ => .ret _

theorem settleOperations_row {settle : Operation → Operation} {before after : State}
    (settled : settleOperations settle operations before = .ok after) :
    after.row = before.row := by
  induction operations generalizing before with
  | nil =>
    cases settled
    rfl
  | cons operation rest ih =>
    unfold settleOperations at settled
    split at settled
    · cases settled
    split at settled
    · rw [ih settled, State.row_putOperation]
    · cases settled

theorem persistWorkspaceObservationLocked_aside {current observed : Workspace}
    {operationState : OperationState} :
    setting.Aside thread
      (persistWorkspaceObservationLocked key current observed operations operationState) := by
  refine .updateRows ?_
  intro choice state value next computed
  split at computed
  · cases computed
  split at computed
  · cases computed
  split at computed
  · cases computed
  · next isSettled =>
    cases computed
    rw [settleOperations_row isSettled, State.row_putWorkspace]

theorem reconcileWorkspaceFinish_aside {expected observed : Workspace}
    {fault : Option WorkspaceFault} {candidates : List Operation} :
    setting.Aside thread (reconcileWorkspaceFinish key expected observed fault candidates) := by
  unfold reconcileWorkspaceFinish
  refine .bind (.access fun _ _ _ => rfl) fun _ => .bind .look fun isCancelled => ?_
  split
  · exact .ret _
  refine .bind .look fun found => ?_
  split
  · exact .ret _
  split
  · exact .ret _
  refine .bind .look fun at_ => .bind persistWorkspaceObservationLocked_aside fun result => ?_
  split <;> exact .ret _

theorem reconcileWorkspaceOutside_aside :
    setting.Aside thread (reconcileWorkspaceOutside key workspace) := by
  unfold reconcileWorkspaceOutside
  split
  · unfold cleanupWorkspaceOutsideLock findWorkspaceForCleanup
    refine .bind ?_ fun found => ?_
    · split
      · exact .ret _
      refine .bind .workspaceCall fun reply => ?_
      split
      · split <;> exact .ret _
      · exact .ret _
      · exact .ret _
    · split
      · exact .ret _
      refine .bind deleteWorkspaceBackend_aside fun failure => ?_
      split <;> exact .ret _
  · unfold observeWorkspaceOutsideLock
    refine .bind .workspaceCall fun reply => ?_
    split
    · split <;> exact .ret _
    · exact .ret _
    · exact .ret _

theorem reconcileWorkspace_frees {candidates : List Operation} :
    setting.Frees thread (reconcileWorkspace key candidates) := by
  unfold reconcileWorkspace
  refine verifies_look fun isCancelled => ?_
  split
  · rfl
  refine verifies_bind (Aside.locked reconcileWorkspaceBegin_aside) ?_
  rintro outcome _ rfl
  cases outcome with
  | error errors => rfl
  | ok expected =>
    refine verifies_bind (reconcileWorkspaceOutside_aside .free) ?_
    rintro ⟨observed, fault⟩ _ rfl
    exact Aside.locked reconcileWorkspaceFinish_aside

theorem reconcileEachWorkspace_frees (operations : List Operation) (workspaces : List Workspace) :
    setting.Frees thread (reconcileEachWorkspace operations workspaces) := by
  induction workspaces with
  | nil => rfl
  | cons workspace rest ih =>
    unfold reconcileEachWorkspace
    refine verifies_look fun isCancelled => ?_
    split
    · rfl
    refine verifies_bind reconcileWorkspace_frees ?_
    rintro errors _ rfl
    exact verifies_bind ih fun _ _ isFree => isFree

theorem reconcileWorkspaces_frees :
    setting.Frees thread (reconcileWorkspaces setting.deployment operations) := by
  unfold reconcileWorkspaces
  refine verifies_look fun isCancelled => ?_
  split
  · rfl
  split
  · rfl
  refine verifies_look fun workspaces => ?_
  split
  · rfl
  · exact reconcileEachWorkspace_frees _ _

/-! ## Recorded checkpoints -/

theorem deleteCheckpointFinish_aside {source : Key} {failure : Option BackendError} :
    setting.Aside thread (deleteCheckpointFinish key source operation failure) := by
  unfold deleteCheckpointFinish
  split
  · refine .bind .look fun at_ => .bind (.updateRows ?_) fun _ => .ret _
    rintro choice state value next ⟨⟩
    rfl
  · refine .bind .look fun at_ => .bind (.updateRows ?_) fun _ => .ret _
    rintro choice state value next ⟨⟩
    split <;> rfl

theorem deleteCheckpoint_frees :
    setting.Frees thread (deleteCheckpoint key idempotencyKey) := by
  refine Aside.locked ?_
  unfold deleteCheckpointLocked
  split
  · exact .ret _
  refine .bind .look fun existing => ?_
  split
  · exact .ret _
  refine .bind .look fun found => ?_
  split
  · exact .ret _
  refine .bind .look fun inUse => ?_
  split
  · exact .ret _
  refine .bind .look fun at_ => .bind .look fun id => .bind (.updateRows ?_) fun result => ?_
  · rintro choice state value next ⟨⟩
    rfl
  split
  · exact .ret _
  refine .bind (fun _ => backendCall_harmless fun _ _ => trivial) fun reply => ?_
  split <;> exact deleteCheckpointFinish_aside

end Setting

end Brezel.Service
