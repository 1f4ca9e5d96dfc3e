import Brezel.Library.Monitor.Reader
import Brezel.Service.Schedule

/-!
# Receipts

`Receipt` signs a statement about a sandbox: its revision, state and digest, and a digest of its
events.  It reads the row, the environment, the row again and the events one after the other,
without the mutex of the service.  A commit between the first read and the last makes the statement
describe a moment that never was.

A receipt is a reader beside the controller.  If the row of the sandbox does not change while it
reads, or its events do not, then the statement describes one moment
(`receipt_describes_one_moment`); otherwise it may not (`receipt_of_no_moment`).
-/

namespace Brezel.Service

open Domain Store Monitor

/-! ## Statements -/

/-- The digests of `receipt.DigestJSON` for the values that are digested, and of
`receipt.DigestString`, without the name of the hash. -/
structure Digests where
  sandbox : Sandbox → String
  events : List Event → String
  network : NetworkPolicy → String
  workspaceMounts : List WorkspaceMount → String
  text : String → String

/-- A digest with the name of its hash. -/
def sha256 (digest : String) : String := "sha256:" ++ digest

/-- `receipt.Predicate`. -/
structure Predicate where
  projectID : String
  sandboxID : String
  sandboxRevision : Nat
  state : SandboxState
  environmentRevision : String
  sourceCheckpointID : String
  imageDigest : String
  policyRevision : String
  backend : String
  backendIDDigest : String
  lifecycle : Lifecycle
  networkPolicyDigest : String
  workspaceMountsDigest : String
  eventLogDigest : String
  inputIdentity : String
  outputIdentity : String
  cleanupIdentity : String
  assurance : String
  deriving DecidableEq, Repr

/-- `receipt.Statement`; its only subject has a name and a digest. -/
structure Statement where
  type : String
  subjectName : String
  subjectDigest : String
  predicateType : String
  predicate : Predicate
  deriving DecidableEq, Repr

/-- `receipt.Envelope`, with the statement in the place of its encoding. -/
structure Envelope where
  payloadType : String
  payload : Statement
  keyID : String
  signature : String
  deriving DecidableEq, Repr

/-- `receipt.Signer`. -/
structure Signer where
  keyID : String
  sign : Statement → String

/-- `Sign`. -/
def Signer.envelope (signer : Signer) (statement : Statement) : Envelope :=
  ⟨"application/vnd.in-toto+json", statement, signer.keyID, signer.sign statement⟩

/-- The statement that `Receipt` makes of what it has read. -/
def statement (digests : Digests) (projectID : String) (sandbox : Sandbox)
    (environment : Environment) (events : List Event) : Statement where
  type := "https://in-toto.io/Statement/v1"
  subjectName := "sandbox:" ++ sandbox.id
  subjectDigest := digests.sandbox sandbox
  predicateType := "https://runtime.dev/attestations/sandbox-lifecycle/v1"
  predicate :=
    { projectID := projectID
      sandboxID := sandbox.id
      sandboxRevision := sandbox.revision
      state := sandbox.state
      environmentRevision := environment.revisionID
      sourceCheckpointID := sandbox.sourceCheckpointID
      imageDigest := environment.imageDigest
      policyRevision := environment.policyRevision
      backend := sandbox.backend
      backendIDDigest :=
        if sandbox.backendID ≠ "" then sha256 (digests.text sandbox.backendID) else ""
      lifecycle := sandbox.lifecycle
      networkPolicyDigest := sha256 (digests.network sandbox.network)
      workspaceMountsDigest :=
        if 0 < sandbox.workspaceMounts.length then
          sha256 (digests.workspaceMounts sandbox.workspaceMounts)
        else ""
      eventLogDigest := sha256 (digests.events events)
      inputIdentity := "none:lifecycle-receipt"
      outputIdentity := "none:lifecycle-receipt"
      cleanupIdentity := "state:" ++ sandbox.state.text ++ "@revision:" ++ toString sandbox.revision
      assurance := "signed control-plane claim; not hardware attestation" }

/-! ## Reads -/

/-- `GetEnvironment`. -/
def getEnvironment (projectID revision : String) : Code (Except ServiceError Environment) :=
  match validateProjectID projectID with
  | .error _ => return .error (.invalid "")
  | .ok () => look fun choice memory =>
    if choice.readFails then .error .store
    else
      match memory.state.environments.lookup (projectID, revision) with
      | none => .error .notFound
      | some environment => .ok environment

/-- The event stream of a sandbox. -/
def eventsOf (state : State) (key : Key) : List Event :=
  state.events.filter fun event => event.projectID = key.1 ∧ event.resourceID = key.2

/-- `Events`. -/
def events (key : Key) : Code (Except ServiceError (List Event)) := do
  match ← getSandbox key with
  | .error error => return .error error
  | .ok _ => look fun choice memory =>
    if choice.readFails then .error .store else .ok (eventsOf memory.state key)

/-- `Receipt`. -/
def receipt (digests : Digests) (signer : Option Signer) (key : Key) :
    Code (Except ServiceError Envelope) := do
  match signer with
  | none => return .error (.denied "receipt signer is not configured")
  | some signer =>
  match ← getSandbox key with
  | .error error => return .error error
  | .ok sandbox =>
  match ← getEnvironment key.1 sandbox.environmentRevision with
  | .error error => return .error error
  | .ok environment =>
  match ← events key with
  | .error error => return .error error
  | .ok events => return .ok (signer.envelope (statement digests key.1 sandbox environment events))

/-! ## One moment -/

section Moments

variable {Outside : Type}

/-- The envelope describes a moment of the history: there the sandbox had the row and the events
that the statement is about. -/
def DescribesMoment (digests : Digests) (key : Key) (envelope : Envelope)
    (history : History interface Outside) : Prop :=
  ∃ world ∈ history.worlds, ∃ sandbox environment,
    world.memory.state.row key = some sandbox ∧
    envelope.payload =
      statement digests key.1 sandbox environment (eventsOf world.memory.state key)

/-- The history goes on, and the aspect is the same at its end. -/
structure Keeping {β : Type} (aspect : World interface Outside → β)
    (before after : History interface Outside) : Prop where
  grows : ∀ world ∈ before.worlds, world ∈ after.worlds
  same : aspect after.now = aspect before.now

theorem Keeping.refl {β : Type} {aspect : World interface Outside → β}
    (history : History interface Outside) : Keeping aspect history history :=
  ⟨fun _ member => member, rfl⟩

theorem Keeping.trans {β : Type} {aspect : World interface Outside → β}
    {first second third : History interface Outside} (earlier : Keeping aspect first second)
    (later : Keeping aspect second third) : Keeping aspect first third :=
  ⟨fun world member => later.grows world (earlier.grows world member),
    later.same.trans earlier.same⟩

theorem Keeping.push {β : Type} {aspect : World interface Outside → β}
    {history : History interface Outside} {world : World interface Outside}
    (same : aspect world = aspect history.now) : Keeping aspect history (history.push world) :=
  ⟨fun _ member => History.mem_push member, same⟩

variable (Outside) in
/-- An aspect that ties the row of a sandbox to its events: as long as it is kept, an earlier row
and the present events were there at the same time. -/
def Ties {β : Type} (key : Key) (aspect : World interface Outside → β) : Prop :=
  ∀ before after : History interface Outside, Keeping aspect before after →
    ∃ world ∈ after.worlds,
      world.memory.state.row key = before.now.memory.state.row key ∧
      eventsOf world.memory.state key = eventsOf after.now.memory.state key

theorem ties_row (key : Key) :
    Ties Outside key fun world => world.memory.state.row key :=
  fun _ after kept => ⟨after.now, after.now_mem, kept.same, rfl⟩

theorem ties_events (key : Key) :
    Ties Outside key fun world => eventsOf world.memory.state key :=
  fun before _ kept => ⟨before.now, kept.grows _ before.now_mem, rfl, kept.same.symm⟩

variable {β : Type} {aspect : World interface Outside → β} {key : Key}

theorem observes_look {α γ : Type} {progress : History interface Outside →
    History interface Outside → Prop} {post : γ → History interface Outside → Prop}
    {body : Choice → Memory → α} {continuation : α → Code γ}
    {history : History interface Outside}
    (rest : ∀ later, progress history later → ∀ choice,
      (continuation (body choice later.now.memory)).observes progress post
        (later.push later.now)) :
    (look body >>= continuation).observes progress post history :=
  rest

theorem receipt_observes (tied : Ties Outside key aspect) (digests : Digests)
    (signer : Option Signer) (history : History interface Outside) :
    (receipt digests signer key).observes (Keeping aspect)
      (fun result later => ∀ envelope, result = .ok envelope →
        DescribesMoment digests key envelope later) history := by
  have failing : ∀ (error : ServiceError) (now : History interface Outside),
      (pure (.error error) : Code (Except ServiceError Envelope)).observes (Keeping aspect)
        (fun result later => ∀ envelope, result = .ok envelope →
          DescribesMoment digests key envelope later) now := by
    intro error now later _ envelope isOk
    cases isOk
  have still : ∀ now : History interface Outside, Keeping aspect now (now.push now.now) :=
    fun _ => .push rfl
  cases signer with
  | none => exact failing _ _
  | some signer =>
  unfold receipt
  refine observes_look fun first _ choice => ?_
  split
  · exact failing _ _
  next sandbox isSandbox =>
  have present : first.now.memory.state.row key = some sandbox := by
    split at isSandbox
    · cases isSandbox
    · split at isSandbox
      · cases isSandbox
      · next isRow =>
        cases isSandbox
        exact isRow
  unfold getEnvironment
  split
  · exact failing _ _
  refine observes_look fun second keptSecond choice => ?_
  split
  · exact failing _ _
  next environment _ =>
  rw [events, Prog.bind_eq, Prog.bind_eq, Prog.bind_bind]
  refine observes_look fun third keptThird choice => ?_
  split
  · exact failing _ _
  refine observes_look fun fourth keptFourth choice => ?_
  split
  · exact failing _ _
  next read isRead =>
  have isEvents : read = eventsOf fourth.now.memory.state key := by
    split at isRead
    · cases isRead
    · cases isRead
      rfl
  intro last keptLast envelope isOk
  cases isOk
  have kept : Keeping aspect first fourth := (still first).trans
    (keptSecond.trans ((still second).trans (keptThird.trans ((still third).trans keptFourth))))
  obtain ⟨world, isWorld, sameRow, sameEvents⟩ := tied first fourth kept
  refine ⟨world, keptLast.grows _ (History.mem_push isWorld), sandbox, environment,
    sameRow.trans present, ?_⟩
  rw [sameEvents, isEvents]
  rfl

/-- Steps of others leave the aspect as it is. -/
def Unchanged (deployment : Deployment) (surroundings : Surroundings Outside)
    (aspect : World interface Outside → β) :
    History interface Outside × Code (Except ServiceError Envelope) → Glance interface → Prop
  | (history, _), .work action => ∀ after,
      Step (system deployment surroundings) history.now action after →
        aspect after = aspect history.now
  | _, .look _ => True

end Moments

/-- **A receipt describes one moment, if the sandbox keeps still.**  Beside every run of the
controller in which no step changes the row of the sandbox, or none changes its events, a receipt
is about the row and the events of one world of the run. -/
theorem receipt_describes_one_moment {Outside : Type} (deployment : Deployment)
    (surroundings : Surroundings Outside) (digests : Digests) (signer : Option Signer) (key : Key)
    (thread : Nat) (start finish : History interface Outside) (envelope : Envelope)
    (run :
      Transition.Run (Watch (system deployment surroundings) thread)
        (Unchanged deployment surroundings fun world => world.memory.state.row key)
        (start, receipt digests signer key) (finish, .ret (.ok envelope)) ∨
      Transition.Run (Watch (system deployment surroundings) thread)
        (Unchanged deployment surroundings fun world => eventsOf world.memory.state key)
        (start, receipt digests signer key) (finish, .ret (.ok envelope))) :
    DescribesMoment digests key envelope finish := by
  rcases run with run | run
  · exact Prog.observes_of_run .refl .trans
      (fun permitted step => .push (permitted _ step)) run
      (receipt_observes (ties_row key) digests signer start) envelope rfl
  · exact Prog.observes_of_run .refl .trans
      (fun permitted step => .push (permitted _ step)) run
      (receipt_observes (ties_events key) digests signer start) envelope rfl

/-! ### Played receipts -/

/-- Digests that tell streams of different lengths apart. -/
def sampleDigests : Digests :=
  ⟨fun _ => "", fun events => toString events.length, fun _ => "", fun _ => "", fun text => text⟩

/-- A signer for the samples. -/
def sampleSigner : Signer := ⟨"key", fun _ => ""⟩

/-- Accesses of a receipt that no failure meets. -/
def reading (count : Nat) : List (Watching (system (sampleDeployment false) anything)) :=
  List.replicate count (.look (calm 9 "9" 2))

/-- The receipt has been made and is as wanted. -/
def Returned (wanted : Envelope → Bool) : Code (Except ServiceError Envelope) → Bool
  | .ret (.ok envelope) => wanted envelope
  | _ => false

theorem Returned.elim {wanted : Envelope → Bool} {code : Code (Except ServiceError Envelope)}
    (returned : Returned wanted code = true) :
    ∃ envelope, code = .ret (.ok envelope) ∧ wanted envelope = true := by
  unfold Returned at returned
  split at returned
  · next envelope => exact ⟨envelope, rfl, returned⟩
  · cases returned

/-- While a receipt of the running sandbox is made, another thread writes the row of a second
sandbox. -/
theorem receipt_describes_running : ∃ (finish : History interface Unit) (envelope : Envelope),
    envelope.payload.predicate.state = .running ∧
      finish.now.memory.state.sandboxes.entries.length = 2 ∧
      DescribesMoment sampleDigests sampleKey envelope finish := by
  let responder := backendResponder (sampleDeployment false) healthyBackend
  have evaluated : ((fresh ()).play (fun _ _ => True) (creating 0 false 12 responder)).any
      (fun world => ((History.mk world []).play (fun before after : World interface Unit =>
          after.memory.state.row sampleKey = before.memory.state.row sampleKey) 9
          (receipt sampleDigests (some sampleSigner) sampleKey) (reading 2 ++
            (starting 2 "3" 2 (.create "project" "creation-2" (sampleInput 0 false)) 3
              responder).map .work ++ reading 2)).any fun ended =>
            ended.1.now.memory.state.sandboxes.entries.length = 2 &&
            Returned (fun envelope => decide (envelope.payload.predicate.state = .running))
              ended.2) = true := by
    decide +kernel
  obtain ⟨world, -, continues⟩ := (Option.any_eq_true _ _).mp evaluated
  obtain ⟨⟨finish, code⟩, played, ended⟩ := (Option.any_eq_true _ _).mp continues
  obtain ⟨isSecond, returned⟩ := Bool.and_eq_true_iff.mp ended
  obtain ⟨envelope, rfl, isRunning⟩ := Returned.elim returned
  have run : Transition.Run (Watch (system (sampleDeployment false) anything) 9)
      (Unchanged (sampleDeployment false) anything fun world => world.memory.state.row sampleKey)
      (⟨world, []⟩, receipt sampleDigests (some sampleSigner) sampleKey)
      (finish, .ret (.ok envelope)) := by
    refine History.run_of_play (fun _ _ => trivial) ?_ played
    intro state action after step isWork other again
    have same : other.memory = after.memory := step.memory_eq again
    have kept := of_decide_eq_true isWork
    rwa [← same] at kept
  exact ⟨finish, envelope, of_decide_eq_true isRunning, of_decide_eq_true isSecond,
    receipt_describes_one_moment (sampleDeployment false) anything sampleDigests
      (some sampleSigner) sampleKey 9 _ finish envelope (.inl run)⟩

/-- A receipt reads the row of a running sandbox, another thread begins to pause the sandbox, and
the receipt reads the events. -/
def interrupted : List (Watching (system (sampleDeployment false) anything)) :=
  let responder := backendResponder (sampleDeployment false) healthyBackend
  (creating 0 false 12 responder).map .work ++ reading 2 ++
    (starting 2 "3" 2 (.pause sampleKey "pause-now") 8 responder).map .work ++ reading 2

/-- **A receipt may describe a moment that never was.**  The statement has the revision of the
running sandbox and the events up to its pause; no world of the run has both. -/
theorem receipt_of_no_moment : ∃ (finish : History interface Unit) (envelope : Envelope),
    Transition.Run (Watch (system (sampleDeployment false) anything) 9) (fun _ _ => True)
      (⟨fresh (), []⟩, receipt sampleDigests (some sampleSigner) sampleKey)
      (finish, .ret (.ok envelope)) ∧
    ¬ DescribesMoment sampleDigests sampleKey envelope finish := by
  have evaluated : ((History.mk (fresh ()) []).play (fun _ _ => true) 9
      (receipt sampleDigests (some sampleSigner) sampleKey) interrupted).any (fun ended =>
        Returned (fun envelope => ended.1.worlds.all fun world => decide
          ((world.memory.state.row sampleKey).map (·.revision) ≠
              some envelope.payload.predicate.sandboxRevision ∨
            sha256 (sampleDigests.events (eventsOf world.memory.state sampleKey)) ≠
              envelope.payload.predicate.eventLogDigest)) ended.2) = true := by
    decide +kernel
  obtain ⟨⟨finish, code⟩, played, returned⟩ := (Option.any_eq_true _ _).mp evaluated
  obtain ⟨envelope, rfl, differs⟩ := Returned.elim returned
  refine ⟨finish, envelope, History.run_of_play (fun _ _ => trivial) (fun _ _ _ _ _ => trivial)
    played, ?_⟩
  rintro ⟨world, isWorld, sandbox, environment, isRow, isStatement⟩
  rcases of_decide_eq_true (List.all_eq_true.mp differs world isWorld) with otherRow | otherEvents
  · apply otherRow
    rw [isRow, isStatement]
    rfl
  · apply otherEvents
    rw [isStatement]
    rfl

end Brezel.Service
