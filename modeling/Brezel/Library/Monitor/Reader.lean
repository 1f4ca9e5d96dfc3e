import Brezel.Library.Monitor.Execution

/-!
# A reader beside a system

A reader is a program that runs beside a system without taking its mutex.  Its accesses fall
between the steps of the system.  A `History` keeps the worlds that have been passed, so that one
can say when the values that a reader returns were there.

`Prog.observes` is what a reader promises as long as the system only makes certain progress
between its accesses, and `Prog.observes_of_run` says that it keeps the promise.
-/

namespace Monitor

variable {I : Interface} {Outside : Type} {α : Type}

/-! ## Histories -/

/-- The world that has been reached, and the worlds before it, the latest first. -/
structure History (I : Interface) (Outside : Type) where
  now : World I Outside
  past : List (World I Outside)

namespace History

/-- All worlds so far, the present one first. -/
def worlds (history : History I Outside) : List (World I Outside) :=
  history.now :: history.past

/-- The history with one more world. -/
def push (history : History I Outside) (world : World I Outside) : History I Outside :=
  ⟨world, history.worlds⟩

theorem now_mem (history : History I Outside) : history.now ∈ history.worlds :=
  List.mem_cons_self

theorem mem_push {history : History I Outside} {world other : World I Outside}
    (member : other ∈ history.worlds) : other ∈ (history.push world).worlds :=
  List.mem_cons_of_mem _ member

end History

/-! ## Readers -/

/-- The steps of a system with a reader beside it. -/
inductive Glance (I : Interface)
  | work (action : Action I)
  | look (choice : I.Choice)

/-- A step of the system, or an access of the reader. -/
inductive Watch (system : System I Outside) (thread : Nat) :
    History I Outside × Prog I α → Glance I → History I Outside × Prog I α → Prop
  | work {history : History I Outside} {reader : Prog I α} {action : Action I}
      {after : World I Outside} (step : Step system history.now action after) :
      Watch system thread (history, reader) (.work action) (history.push after, reader)
  | look {history : History I Outside} {update : I.Choice → I.Memory → I.Memory}
      {next : I.Choice → I.Memory → Prog I α} {choice : I.Choice}
      (admissible : system.admissible thread choice history.now.memory) :
      Watch system thread (history, .act update next) (.look choice)
        (history.push { history.now with memory := update choice history.now.memory },
          next choice history.now.memory)

/-- The reader returns what is promised, if the history progresses as assumed between its
accesses. -/
def Prog.observes (progress : History I Outside → History I Outside → Prop)
    (post : α → History I Outside → Prop) : Prog I α → History I Outside → Prop
  | .ret value, history => ∀ later, progress history later → post value later
  | .act update next, history => ∀ later, progress history later → ∀ choice,
      (next choice later.now.memory).observes progress post
        (later.push { later.now with memory := update choice later.now.memory })
  | _, _ => True

section Runs

variable {system : System I Outside} {thread : Nat}
  {progress : History I Outside → History I Outside → Prop}
  {post : α → History I Outside → Prop}
  {allowed : History I Outside × Prog I α → Glance I → Prop}

theorem Prog.observes.later {reader : Prog I α} {history later : History I Outside}
    (observed : reader.observes progress post history) (progressed : progress history later)
    (trans : ∀ {first second third}, progress first second → progress second third →
      progress first third) : reader.observes progress post later := by
  cases reader with
  | ret value => exact fun next further => observed next (trans progressed further)
  | act update next => exact fun end_ further => observed end_ (trans progressed further)
  | call query next => trivial
  | lock next => trivial
  | unlock next => trivial
  | note label next => trivial

/-- **A reader keeps its promise beside every run whose steps make the assumed progress.** -/
theorem Prog.observes_of_run (refl : ∀ history, progress history history)
    (trans : ∀ {first second third}, progress first second → progress second third →
      progress first third)
    (works : ∀ {history : History I Outside} {reader : Prog I α} {action : Action I}
      {after : World I Outside}, allowed (history, reader) (.work action) →
      Step system history.now action after → progress history (history.push after))
    {reader : Prog I α} {start finish : History I Outside} {value : α}
    (run : Transition.Run (Watch system thread) allowed (start, reader) (finish, .ret value))
    (observed : reader.observes progress post start) : post value finish := by
  have kept : ∀ reached, Transition.Run (Watch system thread) allowed (start, reader) reached →
      reached.2.observes progress post reached.1 := by
    intro reached reaching
    induction reaching with
    | start => exact observed
    | next _ permitted taken ih =>
      cases taken with
      | @work history code _ _ step =>
        have before : code.observes progress post history := ih
        exact before.later (works permitted step) trans
      | look admissible => exact ih _ (refl _) _
  exact kept _ run finish (refl finish)

end Runs

/-! ## Played readers -/

/-- An action leads to one memory. -/
theorem Step.memory_eq {system : System I Outside}
    {world first second : World I Outside} {action : Action I}
    (taken : Step system world action first) (again : Step system world action second) :
    second.memory = first.memory := by
  cases taken with
  | act code _ =>
    cases again with
    | act code' _ =>
      cases code.symm.trans code'
      rfl
  | _ =>
    cases again
    rfl

/-- One move of a schedule with a reader. -/
inductive Watching (system : System I Outside)
  | work (move : Move system)
  | look (choice : I.Choice)

section Play

variable {system : System I Outside}
  [∀ thread choice memory, Decidable (system.admissible thread choice memory)]

/-- Play a schedule in which every step of the others meets a condition. -/
def History.play (works : World I Outside → World I Outside → Bool) (thread : Nat)
    (history : History I Outside) (reader : Prog I α) :
    List (Watching system) → Option (History I Outside × Prog I α)
  | [] => some (history, reader)
  | .work move :: moves =>
    match history.now.move move with
    | none => none
    | some (_, after) =>
      if works history.now after then (history.push after).play works thread reader moves else none
  | .look choice :: moves =>
    match reader with
    | .act update next =>
      if system.admissible thread choice history.now.memory then
        (history.push { history.now with memory := update choice history.now.memory }).play works
          thread (next choice history.now.memory) moves
      else none
    | _ => none

theorem History.run_of_play {works : World I Outside → World I Outside → Bool} {thread : Nat}
    {start finish : History I Outside} {reader rest : Prog I α} {moves : List (Watching system)}
    {allowed : History I Outside × Prog I α → Glance I → Prop}
    (looks : ∀ state choice, allowed state (.look choice))
    (worked : ∀ state action after, Step system state.1.now action after →
      works state.1.now after = true → allowed state (.work action))
    (played : start.play works thread reader moves = some (finish, rest)) :
    Transition.Run (Watch system thread) allowed (start, reader) (finish, rest) := by
  induction moves generalizing start reader with
  | nil =>
    cases played
    exact .start
  | cons move moves ih =>
    cases move with
    | work move =>
      simp only [History.play] at played
      split at played
      · cases played
      · next action after moved =>
        have step := World.move_step moved
        split at played
        · next isWork =>
          have permitted := worked (start, reader) action after step isWork
          exact (Transition.Run.next .start permitted (.work step)).trans (ih played)
        · cases played
    | look choice =>
      simp only [History.play] at played
      split at played
      · split at played
        · next admissible =>
          exact (Transition.Run.next .start (looks _ _) (.look admissible)).trans (ih played)
        · cases played
      · cases played

end Play

end Monitor
