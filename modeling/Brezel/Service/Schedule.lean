import Brezel.Library.Monitor.Execution
import Brezel.Service.System

/-!
# Schedules of the controller

What is needed to play runs of the controller: the world of a process that starts on an empty
store, responders that answer its outside calls, and a sample deployment with an environment to
create sandboxes from.

`ledgerResponder` delivers the requests for the node to its ledger.
-/

namespace Brezel.Service

open Domain Store Node Monitor

instance {Outside : Type} (deployment : Deployment) (surroundings : Surroundings Outside)
    (thread : Nat) (choice : Choice) (memory : Memory) :
    Decidable ((system deployment surroundings).admissible thread choice memory) :=
  inferInstanceAs (Decidable (Admissible deployment thread choice memory))

/-- A process that starts on an empty store. -/
def fresh {Outside : Type} (outside : Outside) : World interface Outside :=
  World.idle (Memory.boot State.empty) outside

/-! ## Responders -/

/-- An answer for every backend call. -/
abbrev BackendAnswers := (call : BackendCall) → Except BackendError call.Answer

/-- A backend with one resource, which is running and on which every call succeeds. -/
def healthyBackend : BackendAnswers
  | .create _ => .ok ⟨"vm", .running⟩
  | .find _ _ => .ok ⟨"vm", .running⟩
  | .inspect _ => .ok ⟨"vm", .running⟩
  | .pause _ _ => .ok ()
  | .resume _ _ _ => .ok ⟨"vm", .running⟩
  | .delete _ => .ok ()
  | .checkpoint _ kind _ => .ok ⟨"snapshot", kind⟩
  | .deleteCheckpoint _ => .ok ()

/-- Workspace calls that succeed. -/
def healthyWorkspaces : (call : WorkspaceCall) → Except BackendError call.Answer
  | .create request => .ok ⟨"volume", request.localWorkspaceID⟩
  | .find name => .ok ⟨"volume", name⟩
  | .delete _ => .ok ()

/-- A backend without a node. -/
def backendResponder (deployment : Deployment) (backend : BackendAnswers) :
    Responder (system deployment anything) where
  answer _ query :=
    match query with
    | .backend _ call => some (backend call, ())
    | .workspace _ call => some (healthyWorkspaces call, ())
    | .route _ _ => none
    | .guest _ _ => some (true, ())
    | .diverge => none
  sound _ _ _ _ _ := trivial

/-- A digest for the samples. -/
def sampleDigest : String := "0000000000000000000000000000000000000000000000000000000000000000"

/-- The deployment of the samples. -/
def sampleDeployment (routed : Bool) : Deployment where
  store := .file
  backendName := "microvm"
  capabilities := ⟨true, true, true, true, true, true, true, true⟩
  routeAdmin := routed
  requiresNodeAssignment := routed
  administered := id
  gateway := none
  limits := ⟨4, 4, 4, 4, 4, 4⟩
  createDigest _ := sampleDigest
  checkpointDigest _ _ := sampleDigest
  environmentDigest _ := sampleDigest
  connectorDigest _ := sampleDigest
  workspaceDigest _ := sampleDigest
  environmentRevision _ _ := "env1"
  connectorRevision _ _ := "con1"
  isOrigin _ := true

/-- The environment of the samples. -/
def sampleEnvironment : CreateEnvironmentInput := ⟨"base", "template", "", ""⟩

/-- A request for a sandbox that lives for a minute, under a standby policy. -/
def sampleInput (standbyAfterSeconds : Int) (autoResume : Bool) : CreateSandboxInput :=
  ⟨"env1", "", ⟨standbyAfterSeconds, 0, 60, .fullState, autoResume⟩, ⟨true, none, none⟩, [], []⟩

/-- The sandbox of the sample runs. -/
def sampleKey : Key := ("project", "sbx_12")

/-- What an access sees when nothing fails. -/
def calm (thread : Nat) (identifier : String) (now : Time) : Choice :=
  ⟨thread, now, identifier, identifier, .file, .none, fun _ => true, false, none, false⟩

section

variable {Outside : Type} {deployment : Deployment} {surroundings : Surroundings Outside}

/-- A thread starts an entry point and takes a number of steps in which nothing fails.  Each step
draws its own identifier. -/
def starting (thread : Nat) (identifier : String) (now : Time) {program : Code Unit}
    (entry : Entry deployment program) (steps : Nat)
    (responder : Responder (system deployment surroundings)) :
    List (Move (system deployment surroundings)) :=
  .spawn thread program entry :: (List.range steps).map fun index =>
    .go thread (calm thread (identifier ++ toString index) now) responder

end

variable {Outside : Type} {routed : Bool} {surroundings : Surroundings Outside}

/-- Thread 0 registers the sample environment.  Thread 1 asks for the sample sandbox, writes its
row, and goes on for the given number of steps. -/
def creating (standbyAfterSeconds : Int) (autoResume : Bool) (steps : Nat)
    (responder : Responder (system (sampleDeployment routed) surroundings)) :
    List (Move (system (sampleDeployment routed) surroundings)) :=
  starting 0 "0" 1 (.createEnvironment "project" "declaration" sampleEnvironment) 6 responder ++
  starting 1 "1" 1 (.create "project" "creation" (sampleInput standbyAfterSeconds autoResume)) 3
    responder ++
  Move.times steps (.go 1 (calm 1 "2" 1) responder)

/-- The sample sandbox is created, and thread 2 deletes it. -/
def deleting (creationSteps steps : Nat)
    (responder : Responder (system (sampleDeployment routed) surroundings)) :
    List (Move (system (sampleDeployment routed) surroundings)) :=
  creating 0 false creationSteps responder ++
    starting 2 "3" 2 (.delete sampleKey "deletion") steps responder

end Brezel.Service
