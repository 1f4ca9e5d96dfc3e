import Brezel.Library.Monitor.Execution
import Brezel.Warm.System

/-!
# Schedules of the pool

What is needed to play runs of the pool: an engine that creates machines promptly or late, and a
sample configuration with one slot.
-/

namespace Brezel.Warm

open Domain Service Monitor

instance (config : Config) (thread : Nat) (choice : Choice) (memory : Memory) :
    Decidable ((system config).admissible thread choice memory) :=
  inferInstanceAs (Decidable (Admissible config thread choice memory))

/-- An engine that creates machines when it is asked to, or else reports a failure and creates them
later.  Its other answers are prompt. -/
def answer (prompt : Bool) (engine : Engine) :
    (query : Query) → Option (Except BackendError query.Answer × Engine)
  | .create request =>
    let id := "vm" ++ toString engine.born.length
    let identity := identityOf request
    if prompt then
      if engine.Unused id then
        some (.ok ⟨id, .running⟩, (engine.ask identity).add ⟨id, identity⟩)
      else none
    else
      some (.error (.failed "deadline exceeded"),
        { engine.ask identity with pending := identity :: engine.pending })
  | .find localID projectID =>
    match engine.machines.find? (·.identity = (localID, projectID)) with
    | some machine => some (.ok ⟨machine.id, .running⟩, engine)
    | none => some (.error .notFound, engine)
  | .inspect id =>
    if engine.machines.any (·.id = id) then some (.ok ⟨id, .running⟩, engine)
    else some (.error .notFound, engine)
  | .delete id => some (.ok (), engine.destroy id)
  | .setTimeout _ _ => some (.ok (), engine)

theorem respond_of_answer {prompt : Bool} {before after : Engine}
    {query : Query} {reply : Except BackendError query.Answer}
    (answered : answer prompt before query = some (reply, after)) :
    respond before query reply after := by
  cases query with
  | create request =>
    simp only [answer] at answered
    split at answered
    · split at answered
      · next unused =>
        cases answered
        exact .created _ unused .running
      · cases answered
    · cases answered
      exact .late _
  | find localID projectID =>
    simp only [answer] at answered
    split at answered
    · next machine found =>
      cases answered
      have isIdentity := List.find?_some found
      exact ⟨rfl, .found machine (List.mem_of_find?_eq_some found)
        (of_decide_eq_true isIdentity) .running⟩
    · next none =>
      cases answered
      exact ⟨rfl, .absent fun machine isMachine =>
        of_decide_eq_false (by simpa using List.find?_eq_none.mp none machine isMachine)⟩
  | inspect id =>
    simp only [answer] at answered
    split at answered
    · cases answered
      refine ⟨rfl, ?_⟩
      rintro _ ⟨⟩
      rfl
    · cases answered
      exact ⟨rfl, fun _ isOk => by cases isOk⟩
  | delete id =>
    cases answered
    exact .deleted
  | setTimeout id ttlSeconds =>
    cases answered
    rfl

/-- The engine as a responder. -/
def responder (config : Config) (prompt : Bool) : Responder (system config) :=
  ⟨answer prompt, fun _ _ _ _ => respond_of_answer⟩

/-- A strict pool of one slot. -/
def sampleConfig : Config :=
  ⟨1, "base", seconds 3600, seconds 600, ⟨false, none, none⟩, true⟩

/-- A request for a sandbox. -/
def sampleRequest (sandboxID : String) : CreateRequest :=
  ⟨sandboxID, "project", "base", ⟨0, 0, 60, .fullState, false⟩, ⟨false, none, none⟩, [], []⟩

/-- What an access sees when nothing fails.  The tag makes its identifiers new. -/
def calm (thread : Nat) (tag : String) (now : Time) : Choice :=
  ⟨thread, now, now, fun index => tag ++ toString index, .none, fun _ => 0, false, false⟩

/-- An entry point is started and takes some steps. -/
def starting (config : Config) (thread : Nat) (now : Time) {program : Code Unit}
    (entry : Entry config program) (steps : Nat) (prompt : Bool) :
    List (Move (system config)) :=
  .spawn thread program entry :: (List.range steps).map fun index =>
    .go thread (calm thread (toString thread ++ "_" ++ toString index ++ "_") now)
      (responder config prompt)

end Brezel.Warm
