import Brezel.Library.Monitor.Program

/-!
# One request among the threads

A thread runs its code for its effects; what a request returns is lost when the thread ends.
`Serve` singles out one request and keeps the rest of its code together with the type of its result,
beside the world in which the other threads go on.  A step of it is a step of the system in which
the request is one more thread (`Serve.step`), so whatever holds along the runs of the system holds
beside a request (`Serve.run`).

`Prog.abstains` is what a request promises that has nothing to do: in memories of which something is
known it makes no outside call, its accesses leave the memory as it was in some respect, and it
returns only certain values.  `Serve.abstains_run` says that it keeps the promise, whatever the
others do.
-/

namespace Monitor

variable {I : Interface} {Outside : Type} {α β : Type}

/-- The thread that acts. -/
def Action.actor : Action I → Option Nat
  | .spawn thread _ => some thread
  | .act thread _ => some thread
  | .call thread _ _ => some thread
  | .lock thread => some thread
  | .unlock thread => some thread
  | .note thread _ => some thread
  | .drift => none
  | .crash => none

/-- One step of a system with a request in a thread: another thread takes it, or the request. -/
inductive Serve (system : System I Outside) (thread : Nat) :
    World I Outside × Prog I α → Action I → World I Outside × Prog I α → Prop
  | others {world after : World I Outside} {code : Prog I α} {action : Action I}
      (step : Step system world action after) (elsewhere : action.actor ≠ some thread)
      (running : action ≠ .crash) : Serve system thread (world, code) action (after, code)
  | act {world : World I Outside} {update : I.Choice → I.Memory → I.Memory}
      {next : I.Choice → I.Memory → Prog I α} {choice : I.Choice}
      (admissible : system.admissible thread choice world.memory) :
      Serve system thread (world, .act update next) (.act thread choice)
        ({ world with memory := update choice world.memory }, next choice world.memory)
  | call {world : World I Outside} {query : I.Query} {next : I.Reply query → Prog I α}
      {reply : I.Reply query} {outside : Outside}
      (answered : system.respond world.outside query reply outside) :
      Serve system thread (world, .call query next) (.call thread query reply)
        ({ world with outside := outside }, next reply)
  | lock {world : World I Outside} {next : Prog I α} (free : world.holder = none) :
      Serve system thread (world, .lock next) (.lock thread)
        ({ world with holder := some thread }, next)
  | unlock {world : World I Outside} {next : Prog I α} (holds : world.holder = some thread) :
      Serve system thread (world, .unlock next) (.unlock thread)
        ({ world with holder := none }, next)
  | note {world : World I Outside} {label : I.Label} {next : Prog I α} :
      Serve system thread (world, .note label next) (.note thread label) (world, next)

/-- The world in which a thread is about to run the code and then return. -/
def World.serving (world : World I Outside) (thread : Nat) (code : Prog I α) : World I Outside :=
  world.setThread thread (code.bind fun _ => .ret ())

/-! ## A request is one of the threads -/

theorem World.setThread_comm {world : World I Outside} {thread other : Nat}
    {code program : Prog I Unit} (distinct : other ≠ thread) :
    (world.setThread thread code).setThread other program =
      (world.setThread other program).setThread thread code := by
  simp only [World.setThread]
  rw [Function.update_comm distinct]

theorem World.setThread_setThread {world : World I Outside} {thread : Nat}
    {code program : Prog I Unit} :
    (world.setThread thread code).setThread thread program = world.setThread thread program := by
  simp only [World.setThread, Function.update_idem]

theorem Step.setThread {system : System I Outside} {world after : World I Outside}
    {action : Action I} {thread : Nat} {code : Prog I Unit} (taken : Step system world action after)
    (elsewhere : action.actor ≠ some thread) (running : action ≠ .crash) :
    Step system (world.setThread thread code) action (after.setThread thread code) := by
  have untouched (other : Nat) (distinct : other ≠ thread) :
      (world.setThread thread code).thread other = world.thread other :=
    Function.update_of_ne distinct _ _
  have apart (other : Nat) (isActor : action.actor = some other) : other ≠ thread := by
    intro same
    exact elsewhere (same ▸ isActor)
  cases taken with
  | @spawn other program idle entry =>
    have distinct := apart other rfl
    rw [← World.setThread_comm distinct]
    exact .spawn ((untouched other distinct).trans idle) entry
  | @act other update next choice isCode admissible =>
    have distinct := apart other rfl
    have step : Step system (world.setThread thread code) (.act other choice) _ :=
      .act ((untouched other distinct).trans isCode) admissible
    rw [World.setThread_comm distinct] at step
    exact step
  | @call other query next reply outside isCode answered =>
    have distinct := apart other rfl
    have step : Step system (world.setThread thread code) (.call other query reply) _ :=
      .call ((untouched other distinct).trans isCode) answered
    rw [World.setThread_comm distinct] at step
    exact step
  | @lock other next isCode free =>
    have distinct := apart other rfl
    have step : Step system (world.setThread thread code) (.lock other) _ :=
      .lock ((untouched other distinct).trans isCode) free
    rw [World.setThread_comm distinct] at step
    exact step
  | @unlock other next isCode holds =>
    have distinct := apart other rfl
    have step : Step system (world.setThread thread code) (.unlock other) _ :=
      .unlock ((untouched other distinct).trans isCode) holds
    rw [World.setThread_comm distinct] at step
    exact step
  | @note other label next isCode =>
    have distinct := apart other rfl
    rw [← World.setThread_comm distinct]
    exact .note ((untouched other distinct).trans isCode)
  | drift drifted => exact .drift drifted
  | crash => exact absurd rfl running

section Serving

variable {system : System I Outside} {thread : Nat}
  {before after : World I Outside × Prog I α} {action : Action I}

theorem Serve.step (taken : Serve system thread before action after) :
    Step system (before.1.serving thread before.2) action (after.1.serving thread after.2) := by
  cases taken with
  | others step elsewhere running => exact step.setThread elsewhere running
  | @act world update next choice admissible =>
    have step : Step system (world.serving thread (.act update next)) (.act thread choice) _ :=
      .act (Function.update_self _ _ _) admissible
    rw [World.serving, World.setThread_setThread] at step
    exact step
  | @call world query next reply outside answered =>
    have step : Step system (world.serving thread (.call query next)) (.call thread query reply)
        _ := .call (Function.update_self _ _ _) answered
    rw [World.serving, World.setThread_setThread] at step
    exact step
  | @lock world next free =>
    have step : Step system (world.serving thread (.lock next)) (.lock thread) _ :=
      .lock (Function.update_self _ _ _) free
    rw [World.serving, World.setThread_setThread] at step
    exact step
  | @unlock world next holds =>
    have step : Step system (world.serving thread (.unlock next)) (.unlock thread) _ :=
      .unlock (Function.update_self _ _ _) holds
    rw [World.serving, World.setThread_setThread] at step
    exact step
  | @note world label next =>
    have step : Step system (world.serving thread (.note label next)) (.note thread label) _ :=
      .note (Function.update_self _ _ _)
    rw [World.serving, World.setThread_setThread] at step
    exact step

/-- What is reached beside a request is reached by the system. -/
theorem Serve.run {start finish : World I Outside × Prog I α}
    (served : Transition.Run (Serve system thread) (fun _ _ => True) start finish) :
    Transition.Run (Step system) (fun _ _ => True) (start.1.serving thread start.2)
      (finish.1.serving thread finish.2) := by
  induction served with
  | start => exact .start
  | next _ _ taken ih => exact .next ih trivial taken.step

end Serving

/-! ## Requests that do nothing -/

/-- The program makes no outside call, leaves alone what is spared, and returns only what is
promised, as long as what is known holds. -/
def Prog.abstains (known : I.Choice → I.Memory → Prop) (spared : I.Memory → I.Memory → Prop)
    (post : α → Prop) : Prog I α → Prop
  | .ret value => post value
  | .act update next => ∀ choice memory, known choice memory →
      spared memory (update choice memory) ∧ (next choice memory).abstains known spared post
  | .call _ _ => False
  | .lock next => next.abstains known spared post
  | .unlock next => next.abstains known spared post
  | .note _ next => next.abstains known spared post

section Abstaining

variable {known : I.Choice → I.Memory → Prop} {spared : I.Memory → I.Memory → Prop}
  {middle : α → Prop} {post : β → Prop}

theorem Prog.abstains_bind {code : Prog I α} {continuation : α → Prog I β}
    (first : code.abstains known spared middle)
    (rest : ∀ value, middle value → (continuation value).abstains known spared post) :
    (code.bind continuation).abstains known spared post := by
  induction code with
  | ret value => exact rest value first
  | act update next ih =>
    intro choice memory isKnown
    obtain ⟨kept, later⟩ := first choice memory isKnown
    exact ⟨kept, ih choice memory later⟩
  | call query next => exact first.elim
  | lock next ih => exact ih first
  | unlock next ih => exact ih first
  | note label next ih => exact ih first

variable {system : System I Outside} {thread : Nat}

/-- The step is not a call of the thread, and if the thread takes it, it leaves alone what is
spared. -/
def Abstained (thread : Nat) (spared : I.Memory → I.Memory → Prop) (before : World I Outside)
    (action : Action I) (after : World I Outside) : Prop :=
  action.actor = some thread →
    (∀ query reply, action ≠ .call thread query reply) ∧ spared before.memory after.memory

theorem Serve.abstains_step {before after : World I Outside × Prog I α} {action : Action I}
    (taken : Serve system thread before action after)
    (spares : ∀ memory, spared memory memory)
    (knows : ∀ choice, system.admissible thread choice before.1.memory →
      known choice before.1.memory)
    (abstains : before.2.abstains known spared middle) :
    after.2.abstains known spared middle ∧ Abstained thread spared before.1 action after.1 := by
  cases taken with
  | others _ elsewhere _ => exact ⟨abstains, fun isOwn => absurd isOwn elsewhere⟩
  | @act world update next choice admissible =>
    obtain ⟨kept, later⟩ := abstains choice world.memory (knows choice admissible)
    exact ⟨later, fun _ => ⟨nofun, kept⟩⟩
  | call answered => exact abstains.elim
  | lock free => exact ⟨abstains, fun _ => ⟨nofun, spares _⟩⟩
  | unlock holds => exact ⟨abstains, fun _ => ⟨nofun, spares _⟩⟩
  | note => exact ⟨abstains, fun _ => ⟨nofun, spares _⟩⟩

/-- **A request that promises to do nothing does nothing, whatever the others do.** -/
theorem Serve.abstains_run {start finish : World I Outside × Prog I α}
    (served : Transition.Run (Serve system thread) (fun _ _ => True) start finish)
    (spares : ∀ memory, spared memory memory)
    (knows : ∀ reached, Transition.Run (Serve system thread) (fun _ _ => True) start reached →
      ∀ choice, system.admissible thread choice reached.1.memory → known choice reached.1.memory)
    (abstains : start.2.abstains known spared middle) : finish.2.abstains known spared middle := by
  induction served with
  | start => exact abstains
  | @next before after action reached _ taken ih =>
    exact (taken.abstains_step spares (knows before reached) ih).1

end Abstaining

end Monitor
