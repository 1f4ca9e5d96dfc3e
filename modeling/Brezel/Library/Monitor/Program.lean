import Brezel.Library.Transition

/-!
# Monitor programs

A monitor program is the code of one thread of a process that shares a memory behind one mutex and
calls outside services.  Its instructions are the smallest steps the surroundings can interleave:
an access to the shared memory, an outside call, taking the mutex and giving it back.  An access
may depend on a choice that the surroundings make, such as a clock reading, a fresh identifier or
the failure of a write.  A `note` does nothing; it names a place in the code.

`Prog` is a monad, so the code of a thread is written as a `do` block with the mutex operations in
the places where the source has them.

A `World` holds the memory, the outside state, the holder of the mutex and the threads.  The
relation `Step` interleaves the threads, lets the outside state drift, and may crash the process:
a crash keeps what `restart` keeps of the memory, frees the mutex and ends every thread.
-/

namespace Monitor

/-- What a program can touch: the shared memory, the choices of an access, the outside calls with
their replies, and the labels of its notes. -/
structure Interface where
  Memory : Type
  Choice : Type
  Query : Type
  Reply : Query → Type
  Label : Type

/-- The rest of one thread's code, with result type `α`. -/
inductive Prog (I : Interface) (α : Type) : Type
  | ret (value : α)
  | act (update : I.Choice → I.Memory → I.Memory) (next : I.Choice → I.Memory → Prog I α)
  | call (query : I.Query) (next : I.Reply query → Prog I α)
  | lock (next : Prog I α)
  | unlock (next : Prog I α)
  | note (label : I.Label) (next : Prog I α)

namespace Prog

variable {I : Interface} {α β : Type}

/-- Run a program and continue with its result. -/
def bind : Prog I α → (α → Prog I β) → Prog I β
  | .ret value, continuation => continuation value
  | .act update next, continuation =>
    .act update fun choice memory => (next choice memory).bind continuation
  | .call query next, continuation => .call query fun reply => (next reply).bind continuation
  | .lock next, continuation => .lock (next.bind continuation)
  | .unlock next, continuation => .unlock (next.bind continuation)
  | .note label next, continuation => .note label (next.bind continuation)

instance : Monad (Prog I) where
  pure := .ret
  bind := .bind

@[simp] theorem pure_eq (value : α) : (pure value : Prog I α) = .ret value := rfl

@[simp] theorem bind_eq (program : Prog I α) (continuation : α → Prog I β) :
    program >>= continuation = program.bind continuation := rfl

@[simp] theorem ret_bind (value : α) (continuation : α → Prog I β) :
    (Prog.ret value).bind continuation = continuation value := rfl

@[simp] theorem bind_ret (program : Prog I α) : program.bind .ret = program := by
  induction program with
  | ret value => rfl
  | act update next ih =>
    simp only [bind]
    congr
    funext choice memory
    exact ih choice memory
  | call query next ih =>
    simp only [bind]
    congr
    funext reply
    exact ih reply
  | lock next ih => simp only [bind, ih]
  | unlock next ih => simp only [bind, ih]
  | note label next ih => simp only [bind, ih]

theorem bind_bind {γ : Type} (program : Prog I α) (first : α → Prog I β)
    (second : β → Prog I γ) :
    (program.bind first).bind second = program.bind fun value => (first value).bind second := by
  induction program with
  | ret value => rfl
  | act update next ih =>
    simp only [bind]
    congr
    funext choice memory
    exact ih choice memory
  | call query next ih =>
    simp only [bind]
    congr
    funext reply
    exact ih reply
  | lock next ih => simp only [bind, ih]
  | unlock next ih => simp only [bind, ih]
  | note label next ih => simp only [bind, ih]

end Prog

/-! ## Interleaving -/

/-- The surroundings of a program: its entry points, the choices an access may see in a thread,
how outside calls answer and change the outside state, how that state drifts by itself, and what a
restart keeps of the memory. -/
structure System (I : Interface) (Outside : Type) where
  entry : Prog I Unit → Prop
  admissible : Nat → I.Choice → I.Memory → Prop
  respond : Outside → (query : I.Query) → I.Reply query → Outside → Prop
  drift : Outside → Outside → Prop
  restart : I.Memory → I.Memory

/-- The memory, the outside state, the holder of the mutex, and the rest of each thread's code.  A
thread that has returned is idle. -/
structure World (I : Interface) (Outside : Type) where
  memory : I.Memory
  outside : Outside
  holder : Option Nat
  thread : Nat → Prog I Unit

/-- A world in which every thread is idle. -/
def World.idle {I : Interface} {Outside : Type} (memory : I.Memory) (outside : Outside) :
    World I Outside :=
  ⟨memory, outside, none, fun _ => .ret ()⟩

/-- The steps of a world. -/
inductive Action (I : Interface)
  | spawn (thread : Nat) (program : Prog I Unit)
  | act (thread : Nat) (choice : I.Choice)
  | call (thread : Nat) (query : I.Query) (reply : I.Reply query)
  | lock (thread : Nat)
  | unlock (thread : Nat)
  | note (thread : Nat) (label : I.Label)
  | drift
  | crash

variable {I : Interface} {Outside : Type}

/-- Replace the rest of one thread's code. -/
def World.setThread (world : World I Outside) (thread : Nat) (program : Prog I Unit) :
    World I Outside :=
  { world with thread := Function.update world.thread thread program }

/-- One step of the interleaving. -/
inductive Step (system : System I Outside) :
    World I Outside → Action I → World I Outside → Prop
  | spawn {world : World I Outside} {thread : Nat} {program : Prog I Unit}
      (idle : world.thread thread = .ret ()) (entry : system.entry program) :
      Step system world (.spawn thread program) (world.setThread thread program)
  | act {world : World I Outside} {thread : Nat} {update : I.Choice → I.Memory → I.Memory}
      {next : I.Choice → I.Memory → Prog I Unit} {choice : I.Choice}
      (code : world.thread thread = .act update next)
      (admissible : system.admissible thread choice world.memory) :
      Step system world (.act thread choice)
        { world.setThread thread (next choice world.memory) with
          memory := update choice world.memory }
  | call {world : World I Outside} {thread : Nat} {query : I.Query}
      {next : I.Reply query → Prog I Unit} {reply : I.Reply query} {outside : Outside}
      (code : world.thread thread = .call query next)
      (answered : system.respond world.outside query reply outside) :
      Step system world (.call thread query reply)
        { world.setThread thread (next reply) with outside := outside }
  | lock {world : World I Outside} {thread : Nat} {next : Prog I Unit}
      (code : world.thread thread = .lock next) (free : world.holder = none) :
      Step system world (.lock thread) { world.setThread thread next with holder := some thread }
  | unlock {world : World I Outside} {thread : Nat} {next : Prog I Unit}
      (code : world.thread thread = .unlock next) (holds : world.holder = some thread) :
      Step system world (.unlock thread) { world.setThread thread next with holder := none }
  | note {world : World I Outside} {thread : Nat} {label : I.Label} {next : Prog I Unit}
      (code : world.thread thread = .note label next) :
      Step system world (.note thread label) (world.setThread thread next)
  | drift {world : World I Outside} {outside : Outside}
      (drifted : system.drift world.outside outside) :
      Step system world .drift { world with outside := outside }
  | crash {world : World I Outside} :
      Step system world .crash (World.idle (system.restart world.memory) world.outside)

/-! ## Views of the outside -/

variable {Outside' : Type}

/-- A world with another account of its outside. -/
def World.view (account : Outside → Outside') (world : World I Outside) : World I Outside' :=
  ⟨world.memory, account world.outside, world.holder, world.thread⟩

/-- Two systems that run the same programs, where the answers to calls in the one are answers in the
account that the other gives of the outside. -/
structure Accounts (system : System I Outside) (other : System I Outside')
    (account : Outside → Outside') : Prop where
  entry : ∀ program, system.entry program → other.entry program
  admissible : ∀ thread choice memory, system.admissible thread choice memory →
    other.admissible thread choice memory
  respond : ∀ {before query reply after}, system.respond before query reply after →
    other.respond (account before) query reply (account after)
  restart : other.restart = system.restart

/-- A step whose drift is one in the account is a step of the other system. -/
theorem Accounts.step {system : System I Outside} {other : System I Outside'}
    {account : Outside → Outside'} (accounts : Accounts system other account)
    {world after : World I Outside} {action : Action I} (taken : Step system world action after)
    (drifted : action = .drift → other.drift (account world.outside) (account after.outside)) :
    Step other (world.view account) action (after.view account) := by
  cases taken with
  | spawn idle entry => exact .spawn idle (accounts.entry _ entry)
  | act code admissible => exact .act code (accounts.admissible _ _ _ admissible)
  | call code answered => exact .call code (accounts.respond answered)
  | lock code free => exact .lock code free
  | unlock code holds => exact .unlock code holds
  | note code => exact .note code
  | drift _ => exact .drift (drifted rfl)
  | crash =>
    have restarted : Step other (world.view account) .crash
        (World.idle (other.restart world.memory) (account world.outside)) := .crash
    rwa [accounts.restart] at restarted

end Monitor
