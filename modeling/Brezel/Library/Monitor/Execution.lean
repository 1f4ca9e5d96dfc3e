import Brezel.Library.Monitor.Program

/-!
# Played schedules

A schedule is a list of moves: start an entry point in an idle thread, let a thread take its next
step, let the outside drift, or crash.  `World.play` executes a schedule, and `World.run_of_play`
turns what was executed into a run of the interleaving.  A move fixes everything the surroundings
choose: the choice of an access and, with a `Responder`, the answer of an outside call.  Each move
carries the proof that the system allows it, so only decidable conditions are left to the execution.

`exists_reached` and `exists_taken` close goals about the existence of a run by evaluation.
-/

namespace Monitor

variable {I : Interface} {Outside : Type}

/-- A way of answering outside calls that the system allows. -/
structure Responder (system : System I Outside) where
  answer : Outside → (query : I.Query) → Option (I.Reply query × Outside)
  sound : ∀ before query reply after, answer before query = some (reply, after) →
    system.respond before query reply after

/-- One move of a schedule. -/
inductive Move (system : System I Outside)
  | spawn (thread : Nat) (program : Prog I Unit) (entry : system.entry program)
  | go (thread : Nat) (choice : I.Choice) (responder : Responder system)
  | drift (next : Outside → Option Outside)
      (sound : ∀ before after, next before = some after → system.drift before after)
  | crash

/-- The schedule that repeats a move. -/
def Move.times {system : System I Outside} (count : Nat) (move : Move system) :
    List (Move system) :=
  List.replicate count move

instance (action : Action I) : Decidable (action = .crash) :=
  match action with
  | .crash => isTrue rfl
  | .spawn _ _ => isFalse nofun
  | .act _ _ => isFalse nofun
  | .call _ _ _ => isFalse nofun
  | .lock _ => isFalse nofun
  | .unlock _ => isFalse nofun
  | .note _ _ => isFalse nofun
  | .drift => isFalse nofun

section Play

variable {system : System I Outside}
  [∀ thread choice memory, Decidable (system.admissible thread choice memory)]

/-- The next step of a thread, when it is possible. -/
def World.go (world : World I Outside) (thread : Nat) (choice : I.Choice)
    (responder : Responder system) : Option (Action I × World I Outside) :=
  match world.thread thread with
  | .ret _ => none
  | .act update next =>
    if system.admissible thread choice world.memory then
      some (.act thread choice, { world.setThread thread (next choice world.memory) with
        memory := update choice world.memory })
    else none
  | .call query next =>
    match responder.answer world.outside query with
    | none => none
    | some (reply, outside) =>
      some (.call thread query reply,
        { world.setThread thread (next reply) with outside := outside })
  | .lock next =>
    match world.holder with
    | none => some (.lock thread, { world.setThread thread next with holder := some thread })
    | some _ => none
  | .unlock next =>
    if world.holder = some thread then
      some (.unlock thread, { world.setThread thread next with holder := none })
    else none
  | .note label next => some (.note thread label, world.setThread thread next)

/-- The step of a move, when it is possible. -/
def World.move (world : World I Outside) : Move system → Option (Action I × World I Outside)
  | .spawn thread program _ =>
    match world.thread thread with
    | .ret () => some (.spawn thread program, world.setThread thread program)
    | _ => none
  | .go thread choice responder => world.go thread choice responder
  | .drift next _ =>
    (next world.outside).map fun outside => (.drift, { world with outside := outside })
  | .crash => some (.crash, World.idle (system.restart world.memory) world.outside)

/-- Play a schedule whose steps all meet a condition. -/
def World.play (allowed : World I Outside → Action I → Prop)
    [∀ world action, Decidable (allowed world action)] (world : World I Outside) :
    List (Move system) → Option (World I Outside)
  | [] => some world
  | move :: moves =>
    match world.move move with
    | none => none
    | some (action, after) =>
      if allowed world action then World.play allowed after moves else none

theorem World.go_step {world after : World I Outside} {thread : Nat} {choice : I.Choice}
    {responder : Responder system} {action : Action I}
    (moved : world.go thread choice responder = some (action, after)) :
    Step system world action after := by
  unfold World.go at moved
  split at moved
  · cases moved
  · next code =>
    split at moved
    · next admissible =>
      cases moved
      exact .act code admissible
    · cases moved
  · next query next code =>
    split at moved
    · cases moved
    · next answered =>
      cases moved
      exact .call code (responder.sound _ _ _ _ answered)
  · next code =>
    split at moved
    · next free =>
      cases moved
      exact .lock code free
    · cases moved
  · next code =>
    split at moved
    · next holds =>
      cases moved
      exact .unlock code holds
    · cases moved
  · next code =>
    cases moved
    exact .note code

theorem World.move_step {world after : World I Outside} {move : Move system} {action : Action I}
    (moved : world.move move = some (action, after)) : Step system world action after := by
  cases move with
  | spawn thread program entry =>
    simp only [World.move] at moved
    split at moved
    · next idle =>
      cases moved
      exact .spawn idle entry
    · cases moved
  | go thread choice responder => exact World.go_step moved
  | drift next sound =>
    obtain ⟨outside, isNext, same⟩ := Option.map_eq_some_iff.mp moved
    cases same
    exact .drift (sound _ _ isNext)
  | crash =>
    cases moved
    exact .crash

variable {allowed : World I Outside → Action I → Prop}
  [∀ world action, Decidable (allowed world action)]

/-- **A played schedule is a run.** -/
theorem World.run_of_play {start world : World I Outside} {moves : List (Move system)}
    (played : start.play allowed moves = some world) :
    Transition.Run (Step system) allowed start world := by
  induction moves generalizing start with
  | nil =>
    cases played
    exact .start
  | cons move moves ih =>
    simp only [World.play] at played
    split at played
    · cases played
    · next action after moved =>
      split at played
      · next permitted =>
        exact (Transition.Run.next .start permitted (World.move_step moved)).trans
          (ih played)
      · cases played

variable (allowed) (start : World I Outside)

/-- A schedule that ends in a wanted state reaches it. -/
theorem exists_reached (moves : List (Move system))
    (wanted : World I Outside → Bool) (evaluated : (start.play allowed moves).any wanted = true) :
    ∃ world, Transition.Run (Step system) allowed start world ∧ wanted world = true := by
  obtain ⟨world, played, isWanted⟩ := (Option.any_eq_true _ _).mp evaluated
  exact ⟨world, World.run_of_play played, isWanted⟩

theorem exists_taken (moves : List (Move system)) (last : Move system)
    (wanted : World I Outside → Action I → World I Outside → Bool)
    (evaluated : ((start.play allowed moves).any fun world =>
      (world.move last).any fun step => wanted world step.1 step.2) = true) :
    ∃ world action after, Transition.Run (Step system) allowed start world ∧
      Step system world action after ∧ wanted world action after = true := by
  obtain ⟨world, reached, continues⟩ := exists_reached allowed start moves _ evaluated
  obtain ⟨⟨action, after⟩, moved, isWanted⟩ := (Option.any_eq_true _ _).mp continues
  exact ⟨world, action, after, reached, World.move_step moved, isWanted⟩

end Play

end Monitor
