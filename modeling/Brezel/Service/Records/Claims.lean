import Brezel.Library.Monitor.Request
import Brezel.Service.Records.Runs

/-!
# Claims of idempotency keys

A claim binds an idempotency key of a project, for one kind of request, to an operation and to a
digest of the request's input.  Along every run a claim stays bound as it is, and the backend is
asked to create the sandbox of a claim at most once.

A request that reuses a claimed key with another input is refused (`Digested.refuses`): it finds the
digest of the claim inside the mutex, before it calls the backend and before it writes, and returns
an error.  That holds whatever the other threads do in the meantime, because none of them can change
the claim.  `claims_exclusive_and_permanent` puts the three together.
-/

namespace Brezel.Service

open Domain Store Monitor

/-! ## Requests with a digest -/

/-- The requests whose claim carries a digest of their input. -/
inductive Digested (deployment : Deployment) : {α : Type} → IdempotencyKey → String →
    Code (α × Operation × Option ServiceError) → Prop
  | environment (projectID requestKey : String) (input : CreateEnvironmentInput) :
      Digested deployment (projectID, "create_environment", requestKey)
        (deployment.environmentDigest input)
        (createEnvironment deployment projectID requestKey input)
  | connector (projectID requestKey : String) (input : CreateConnectorInput) :
      Digested deployment (projectID, "create_connector", requestKey)
        (deployment.connectorDigest input)
        (createConnector deployment projectID requestKey input)
  | workspace (projectID requestKey : String) (input : CreateWorkspaceInput) :
      Digested deployment (projectID, "create_workspace", requestKey)
        (deployment.workspaceDigest input)
        (createWorkspace deployment projectID requestKey input)
  | sandbox (projectID requestKey : String) (input : CreateSandboxInput) :
      Digested deployment (projectID, "create_sandbox", requestKey)
        (deployment.createDigest (withDefaults deployment input))
        (createSandbox deployment projectID requestKey input)
  | checkpoint (key : Key) (requestKey name : String) (kind : CheckpointKind) :
      Digested deployment (key.1, "checkpoint_sandbox:" ++ key.2, requestKey)
        (deployment.checkpointDigest name kind) (checkpoint deployment key requestKey name kind)

theorem Digested.entry {deployment : Deployment} {α : Type} {index : IdempotencyKey}
    {digest : String} {code : Code (α × Operation × Option ServiceError)}
    (digested : Digested deployment index digest code) : Entry deployment (run code) := by
  cases digested with
  | environment projectID requestKey input => exact .createEnvironment projectID requestKey input
  | connector projectID requestKey input => exact .createConnector projectID requestKey input
  | workspace projectID requestKey input => exact .createWorkspace projectID requestKey input
  | sandbox projectID requestKey input => exact .create projectID requestKey input
  | checkpoint key requestKey name kind => exact .checkpoint key requestKey name kind

/-- The key is claimed for an input with another digest. -/
structure ClaimedOtherwise (state : State) (index : IdempotencyKey) (digest : String) : Prop where
  bound : ∃ id, state.idempotency.lookup index = some id
  other : ∃ stored, state.idempotencyDigests.lookup index = some stored ∧ stored ≠ digest

/-! ## Refusal -/

section Refusal

variable {α β : Type} {index : IdempotencyKey} {digest : String}
variable {code : Code (α × Operation × Option ServiceError)} {post : β → Prop}

/-- Where the key is claimed for other content, the code writes nothing. -/
abbrev Abstains (index : IdempotencyKey) (digest : String) (code : Code α) (post : α → Prop) :
    Prop :=
  Prog.abstains (I := interface)
    (fun _ memory => memory.state.valid = true ∧ ClaimedOtherwise memory.state index digest)
    (fun before after => after.state = before.state) post code

/-- The request returns an error. -/
def failing (result : α × Operation × Option ServiceError) : Prop := result.2.2 ≠ none

theorem abstains_bind {code : Code α} {continuation : α → Code β} {middle : α → Prop}
    (first : Abstains index digest code middle)
    (rest : ∀ value, middle value → Abstains index digest (continuation value) post) :
    Abstains index digest (code >>= continuation) post :=
  Prog.abstains_bind first rest

theorem abstains_look {body : Choice → Memory → α} {post : α → Prop}
    (sees : ∀ choice memory, memory.state.valid = true →
      ClaimedOtherwise memory.state index digest → post (body choice memory)) :
    Abstains index digest (look body) post :=
  fun choice memory isKnown => ⟨rfl, sees choice memory isKnown.1 isKnown.2⟩

/-- A read whose result does not matter. -/
theorem abstains_any {body : Choice → Memory → α} :
    Abstains index digest (look body) fun _ => True :=
  abstains_look fun _ _ _ _ => trivial

theorem abstains_locked {body : Code α} {post : α → Prop}
    (inside : Abstains index digest body post) : Abstains index digest (locked body) post := by
  have rest : Abstains index digest (body >>= fun result => unlock >>= fun _ => pure result)
      post := abstains_bind inside fun _ holds => holds
  exact rest

theorem ClaimedOtherwise.found {state : State} (isValid : state.valid = true)
    (claimed : ClaimedOtherwise state index digest) :
    (∃ operation, state.idempotentOperation index = some operation ∧ operation.id ≠ "") ∧
      ∃ error, requireIdempotencyDigest state index digest = .error error := by
  obtain ⟨⟨id, isBound⟩, stored, isStored, isOther⟩ := claimed
  have named : stored ≠ "" := by
    rintro rfl
    exact absurd (((State.valid_iff state).mp isValid).digests isStored).2 (by decide)
  refine ⟨?_, .conflict "Idempotency-Key was already used with a different request",
    by simp [requireIdempotencyDigest, isStored, named, isOther]⟩
  cases isFound : (state.idempotentOperation index).filter (·.id ≠ "") with
  | none =>
    have unbound := idempotentOperation_none isValid isFound
    cases unbound.symm.trans isBound
  | some operation =>
    obtain ⟨isOperation, isNamed⟩ := Option.filter_eq_some_iff.mp isFound
    exact ⟨operation, isOperation, of_decide_eq_true isNamed⟩

/-- A lookup that ends in an error decides the rest. -/
theorem abstains_refused {γ : Type} {body : Choice → Memory → Except ServiceError γ}
    {continuation : Except ServiceError γ → Code β}
    (refuses : ∀ choice memory, memory.state.valid = true →
      ClaimedOtherwise memory.state index digest → ∃ error, body choice memory = .error error)
    (rest : ∀ error, Abstains index digest (continuation (.error error)) post) :
    Abstains index digest (look body >>= continuation) post := by
  have looked : Abstains index digest (look body) fun result => ∃ error, result = .error error :=
    abstains_look refuses
  refine abstains_bind looked ?_
  rintro _ ⟨error, rfl⟩
  exact rest error

/-- A transaction whose body ends in an error writes nothing. -/
theorem abstains_update_refused {γ : Type} {body : Choice → State → Except ServiceError (γ × State)}
    {continuation : Except ServiceError γ → Code β}
    (refuses : ∀ choice state, state.valid = true → ClaimedOtherwise state index digest →
      ∃ error, body choice state = .error error)
    (rest : ∀ error, Abstains index digest (continuation (.error error)) post) :
    Abstains index digest (update body >>= continuation) post := by
  intro choice memory ⟨isValid, claimed⟩
  obtain ⟨error, isError⟩ := refuses choice memory.state isValid claimed
  cases isDone : transact choice.fault (body choice) memory.state with
  | mk outcome state =>
    rcases transact_cases isDone with ⟨⟨failure, rfl⟩, rfl⟩ | ⟨_, computed, _⟩
    · refine ⟨by simp [isDone], ?_⟩
      simp only [isDone]
      exact rest (translateStore failure)
    · cases isError.symm.trans computed

variable {deployment : Deployment} {projectID requestKey : String}

theorem createEnvironment_abstains {input : CreateEnvironmentInput} :
    Abstains (projectID, "create_environment", requestKey) (deployment.environmentDigest input)
      (createEnvironment deployment projectID requestKey input) failing := by
  refine abstains_locked ?_
  unfold createEnvironmentLocked
  split
  · exact Option.some_ne_none _
  refine abstains_bind abstains_any fun at_ _ => ?_
  dsimp only
  split
  · exact Option.some_ne_none _
  refine abstains_bind abstains_any fun id _ => ?_
  refine abstains_refused (fun choice memory isValid claimed => ?_) fun error => ?_
  · obtain ⟨⟨operation, isFound, -⟩, error, isOther⟩ := claimed.found isValid
    split
    · exact ⟨_, rfl⟩
    · exact ⟨error, by simp [admitEnvironmentCreate, isFound, isOther]⟩
  · exact Option.some_ne_none _

theorem createConnector_abstains {input : CreateConnectorInput} :
    Abstains (projectID, "create_connector", requestKey) (deployment.connectorDigest input)
      (createConnector deployment projectID requestKey input) failing := by
  refine abstains_locked ?_
  unfold createConnectorLocked
  split
  · exact Option.some_ne_none _
  refine abstains_bind abstains_any fun at_ _ => ?_
  dsimp only
  split
  · exact Option.some_ne_none _
  refine abstains_bind abstains_any fun id _ => ?_
  refine abstains_update_refused (fun choice state isValid claimed => ?_) fun error => ?_
  · obtain ⟨⟨operation, isFound, -⟩, error, isOther⟩ := claimed.found isValid
    exact ⟨error, by simp [connectorRows, succeededOperation, isFound, isOther]⟩
  · exact Option.some_ne_none _

theorem createWorkspace_abstains {input : CreateWorkspaceInput} :
    Abstains (projectID, "create_workspace", requestKey) (deployment.workspaceDigest input)
      (createWorkspace deployment projectID requestKey input) failing := by
  refine abstains_locked ?_
  unfold createWorkspaceLocked
  split
  · exact Option.some_ne_none _
  split
  · exact Option.some_ne_none _
  split
  · exact Option.some_ne_none _
  refine abstains_refused (fun choice memory isValid claimed => ?_) fun error => ?_
  · obtain ⟨⟨operation, isFound, -⟩, error, isOther⟩ := claimed.found isValid
    split
    · exact ⟨_, rfl⟩
    · exact ⟨error, by simp [admitWorkspaceCreate, isFound, isOther]⟩
  · exact Option.some_ne_none _

/-- The first section of `CreateSandbox` ends the request. -/
theorem createBegin_abstains {input : CreateSandboxInput} :
    Abstains (projectID, "create_sandbox", requestKey)
      (deployment.createDigest (withDefaults deployment input))
      (createBegin deployment projectID requestKey input)
      fun result => ∃ outcome, result = .error outcome ∧ failing outcome := by
  unfold createBegin
  split
  · exact ⟨_, rfl, Option.some_ne_none _⟩
  dsimp only
  split
  · exact ⟨_, rfl, Option.some_ne_none _⟩
  refine abstains_refused (fun choice memory isValid claimed => ?_) fun error => ?_
  · obtain ⟨⟨operation, isFound, -⟩, error, isOther⟩ := claimed.found isValid
    split
    · exact ⟨_, rfl⟩
    · exact ⟨error, by simp [admitSandboxCreate, isFound, isOther]⟩
  · exact ⟨_, rfl, Option.some_ne_none _⟩

theorem createSandbox_abstains {input : CreateSandboxInput} :
    Abstains (projectID, "create_sandbox", requestKey)
      (deployment.createDigest (withDefaults deployment input))
      (createSandbox deployment projectID requestKey input) failing := by
  refine abstains_bind (abstains_locked createBegin_abstains) ?_
  rintro _ ⟨outcome, rfl, isFailing⟩
  exact isFailing

/-- The first section of `Checkpoint` ends the request. -/
theorem checkpointBegin_abstains {key : Key} {name : String} {kind : CheckpointKind} :
    Abstains (key.1, "checkpoint_sandbox:" ++ key.2, requestKey)
      (deployment.checkpointDigest name kind)
      (checkpointBegin deployment key requestKey name kind)
      fun result => ∃ outcome, result = .error outcome ∧ failing outcome := by
  unfold checkpointBegin
  split
  · exact ⟨_, rfl, Option.some_ne_none _⟩
  split
  · exact ⟨_, rfl, Option.some_ne_none _⟩
  refine abstains_bind abstains_any fun found _ => ?_
  split
  · exact ⟨_, rfl, Option.some_ne_none _⟩
  split
  · exact ⟨_, rfl, Option.some_ne_none _⟩
  refine abstains_bind abstains_any fun busy _ => ?_
  split
  · exact ⟨_, rfl, Option.some_ne_none _⟩
  split
  · exact ⟨_, rfl, Option.some_ne_none _⟩
  refine abstains_refused (fun choice memory isValid claimed => ?_) fun error => ?_
  · obtain ⟨⟨operation, isFound, isNamed⟩, error, isOther⟩ := claimed.found isValid
    split
    · exact ⟨_, rfl⟩
    · exact ⟨error, by simp [isFound, isOther, Option.filter, isNamed]⟩
  · exact ⟨_, rfl, Option.some_ne_none _⟩

theorem checkpoint_abstains {key : Key} {name : String} {kind : CheckpointKind} :
    Abstains (key.1, "checkpoint_sandbox:" ++ key.2, requestKey)
      (deployment.checkpointDigest name kind)
      (checkpoint deployment key requestKey name kind) failing := by
  refine abstains_bind (abstains_locked checkpointBegin_abstains) ?_
  rintro _ ⟨outcome, rfl, isFailing⟩
  exact isFailing

/-- **A request that reuses a claimed key with another input is refused.** -/
theorem Digested.refuses
    (digested : Digested deployment index digest code) : Abstains index digest code failing := by
  cases digested with
  | environment projectID requestKey input => exact createEnvironment_abstains
  | connector projectID requestKey input => exact createConnector_abstains
  | workspace projectID requestKey input => exact createWorkspace_abstains
  | sandbox projectID requestKey input => exact createSandbox_abstains
  | checkpoint key requestKey name kind => exact checkpoint_abstains

end Refusal

/-! ## Claims along a run -/

section Runs

variable {deployment : Deployment} {world later : World interface (List Query)}

theorem claims_step {action : Action interface}
    (reached : Transition.Run (Step (system deployment recorder)) (fun _ _ => True) (fresh [])
      world)
    (taken : Step (system deployment recorder) world action later) {index : IdempotencyKey}
    {id : String} (isBound : world.memory.state.idempotency.lookup index = some id) :
    later.memory.state.idempotency.lookup index = some id ∧
      later.memory.state.idempotencyDigests.lookup index =
        world.memory.state.idempotencyDigests.lookup index := by
  let _ := anyLookups
  have orderly := orderly_of_run reached
  have given := orderly.given taken fun _ impossible => impossible.elim
  rcases orderly.holds.change_of_step taken given with same | ⟨thread, effect⟩ | restarted
  · have sameClaims : later.memory.state.idempotency = world.memory.state.idempotency :=
      congrArg (fun records : Records => records.tables.idempotency) same
    have sameDigests :
        later.memory.state.idempotencyDigests = world.memory.state.idempotencyDigests :=
      congrArg (fun records : Records => records.tables.idempotencyDigests) same
    rw [sameClaims, sameDigests]
    exact ⟨isBound, rfl⟩
  · exact effect.claims.bound index id isBound
  · rw [restarted]
    exact ⟨isBound, rfl⟩

theorem claims_run
    (reached : Transition.Run (Step (system deployment recorder)) (fun _ _ => True) (fresh [])
      world)
    (continued : Transition.Run (Step (system deployment recorder)) (fun _ _ => True) world later)
    {index : IdempotencyKey} {id : String}
    (isBound : world.memory.state.idempotency.lookup index = some id) :
    later.memory.state.idempotency.lookup index = some id ∧
      later.memory.state.idempotencyDigests.lookup index =
        world.memory.state.idempotencyDigests.lookup index := by
  induction continued with
  | start => exact ⟨isBound, rfl⟩
  | @next before after action run _ taken ih =>
    obtain ⟨stillBound, sameDigest⟩ := ih
    obtain ⟨isBoundAfter, sameAfter⟩ := claims_step (reached.trans run) taken stillBound
    exact ⟨isBoundAfter, sameAfter.trans sameDigest⟩

theorem ClaimedOtherwise.served {α : Type} {thread : Nat} {index : IdempotencyKey}
    {digest : String} {code : Code (α × Operation × Option ServiceError)}
    {served : World interface (List Query) × Code (α × Operation × Option ServiceError)}
    (reached : Transition.Run (Step (system deployment recorder)) (fun _ _ => True) (fresh [])
      world)
    (digested : Digested deployment index digest code) (idle : world.thread thread = .ret ())
    (claimed : ClaimedOtherwise world.memory.state index digest)
    (serving : Transition.Run (Serve (system deployment recorder) thread) (fun _ _ => True)
      (world, code) served) :
    served.1.memory.state.valid = true ∧ ClaimedOtherwise served.1.memory.state index digest := by
  have spawned : Transition.Run (Step (system deployment recorder)) (fun _ _ => True) world
      (world.serving thread code) := .next .start trivial (.spawn idle digested.entry)
  have continued := spawned.trans (Serve.run serving)
  obtain ⟨⟨id, isBound⟩, stored, isStored, differs⟩ := claimed
  obtain ⟨stillBound, sameDigest⟩ := claims_run reached continued isBound
  have sound := (sound_of_run (reached.trans continued)).1
  exact ⟨sound.valid, ⟨id, stillBound⟩, stored, sameDigest.trans isStored, differs⟩

/-- **Claims are exclusive and permanent.**  In every reachable state, whatever reads and writes
failed before:

* a claim stays bound to its operation, with its digest, in every later state;
* the backend was asked at most once to create the sandbox of a claim, and every creation it was
  asked for is that of a claim;
* a request that reuses a claimed key with another input digest makes no outside call and leaves the
  durable state as it is in each of its steps, whatever the others do in between, and when it
  returns it returns an error. -/
theorem claims_exclusive_and_permanent
    (reached : Transition.Run (Step (system deployment recorder)) (fun _ _ => True) (fresh [])
      world) :
    (∀ later, Transition.Run (Step (system deployment recorder)) (fun _ _ => True) world later →
      ∀ index id, world.memory.state.idempotency.lookup index = some id →
        later.memory.state.idempotency.lookup index = some id ∧
          later.memory.state.idempotencyDigests.lookup index =
            world.memory.state.idempotencyDigests.lookup index) ∧
    (∀ projectID requestKey id operation,
      world.memory.state.idempotency.lookup (projectID, "create_sandbox", requestKey) = some id →
      world.memory.state.operations.lookup (projectID, id) = some operation →
      (created world.outside).count (projectID, operation.resourceID) ≤ 1) ∧
    (∀ key ∈ created world.outside, CreationClaimed world.memory.state key) ∧
    ∀ (α : Type) (thread : Nat) (index : IdempotencyKey) (digest : String)
      (code : Code (α × Operation × Option ServiceError)),
      Digested deployment index digest code → world.thread thread = .ret () →
      ClaimedOtherwise world.memory.state index digest →
      ∀ served, Transition.Run (Serve (system deployment recorder) thread) (fun _ _ => True)
        (world, code) served →
        (∀ action after, Serve (system deployment recorder) thread served action after →
          Abstained thread (fun before after : Memory => after.state = before.state) served.1 action
            after.1) ∧
        ∀ result, served.2 = .ret result → result.2.2 ≠ none := by
  have logged := (sound_of_run reached).2
  refine ⟨fun later continued index id => claims_run reached continued, ?_, logged.claimed, ?_⟩
  · intro projectID requestKey id operation _ _
    exact List.nodup_iff_count_le_one.mp logged.once _
  intro α thread index digest code digested idle claimed served serving
  have knows : ∀ reachedNow, Transition.Run (Serve (system deployment recorder) thread)
      (fun _ _ => True) (world, code) reachedNow → ∀ choice,
      (system deployment recorder).admissible thread choice reachedNow.1.memory →
      reachedNow.1.memory.state.valid = true ∧
        ClaimedOtherwise reachedNow.1.memory.state index digest :=
    fun _ serving _ _ => claimed.served reached digested idle serving
  have abstains : Abstains index digest served.2 failing := by
    refine Serve.abstains_run serving ?_ knows digested.refuses
    exact fun _ => rfl
  refine ⟨fun action after taken => ?_, fun result isResult => ?_⟩
  · refine (taken.abstains_step ?_ (knows served serving) abstains).2
    exact fun _ => rfl
  · rw [isResult] at abstains
    exact abstains

/-- A deployment that tells the sample environment from others. -/
def digestingDeployment : Deployment :=
  { sampleDeployment false with
    environmentDigest := fun input =>
      if input = sampleEnvironment then sampleDigest else String.ofList (List.replicate 64 '1') }

/-- Another environment. -/
def otherEnvironment : CreateEnvironmentInput := { sampleEnvironment with template := "another" }

/-- The thread has returned. -/
def isIdle : Code Unit → Bool
  | .ret _ => true
  | _ => false

/-- An environment is declared, and then another one under the same key. -/
theorem claims_exclusive_and_permanent_refusal :
    ∃ world : World interface (List Query),
      ClaimedOtherwise world.memory.state ("project", "create_environment", "declaration")
        (digestingDeployment.environmentDigest otherEnvironment) ∧
      ∀ served, Transition.Run (Serve (system digestingDeployment recorder) 1) (fun _ _ => True)
        (world, createEnvironment digestingDeployment "project" "declaration" otherEnvironment)
          served →
        ∀ result, served.2 = .ret result → result.2.2 ≠ none := by
  obtain ⟨world, reached, evaluated⟩ := exists_reached (fun _ _ => True) (fresh [])
    (starting 0 "0" 1 (.createEnvironment "project" "declaration" sampleEnvironment) 6
      (recordingResponder digestingDeployment healthyBackend))
    (fun world =>
      (world.memory.state.idempotency.lookup
        ("project", "create_environment", "declaration")).isSome &&
      (world.memory.state.idempotencyDigests.lookup
        ("project", "create_environment", "declaration") = some sampleDigest) &&
      isIdle (world.thread 1)) (by decide +kernel)
  simp only [Bool.and_eq_true, decide_eq_true_eq] at evaluated
  obtain ⟨⟨isBound, isStored⟩, returned⟩ := evaluated
  have idle : world.thread 1 = .ret () := by
    unfold isIdle at returned
    split at returned
    · assumption
    · cases returned
  have claimed : ClaimedOtherwise world.memory.state
      ("project", "create_environment", "declaration")
      (digestingDeployment.environmentDigest otherEnvironment) :=
    ⟨Option.isSome_iff_exists.mp isBound, sampleDigest, isStored, by decide⟩
  refine ⟨world, claimed, fun served serving => ?_⟩
  have digested : Digested digestingDeployment _ _ _ :=
    .environment "project" "declaration" otherEnvironment
  exact ((claims_exclusive_and_permanent reached).2.2.2 _ 1 _ _ _ digested idle claimed served
    serving).2

end Runs

end Brezel.Service
