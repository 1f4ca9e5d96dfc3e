import Brezel.Library.Monitor.Program

/-!
# Fences as ownership

A monitor gives exclusive access to the shared memory while a section runs, but a long operation
releases the mutex around its outside calls.  A common remedy is a fence: a section marks an object
as being worked on, and every other section leaves a marked object alone.  The thread that set the
mark then owns the object across sections.

A `Discipline` describes this for a family of objects.  Each object has an inner part, read off the
memory, and an outer part, read off the outside state; `owner` reads the fence off the inner part,
and `guest` the threads that were let in to use the object.  The discipline states what always holds
of an object (`Sound`), what holds of it whenever nobody works on it (`Settled`), which changes of
the inner part are allowed (`Guarantee`), which outside calls are allowed (`mayCall`), and what is
assumed where the code has a note (`assume`).

`Prog.wp` is a weakest precondition for one thread.  A thread's `Token` says what it knows: nothing,
the object it owns, the object it is a guest of, or the object it looks at inside the mutex.
Threads are verified one by one, and the module on soundness concludes for every interleaving.
-/

namespace Monitor

/-- The sharing discipline of a family of objects. -/
structure Discipline (I : Interface) (Outside Key Inner Outer : Type) where
  inner : I.Memory → Key → Inner
  outer : Outside → Key → Outer
  owner : Inner → Option Nat
  guest : Inner → Nat → Prop
  Sound : Key → Inner → Outer → Prop
  Settled : Key → Inner → Outer → Prop
  Guarantee : Key → Inner → Outer → Inner → Prop
  Ambient : Outside → Prop
  subject : I.Query → Key
  mayCall : I.Query → Inner → Outer → Prop
  place : I.Label → Key
  assume : I.Label → Inner → Outer → Prop

/-- What a thread knows.  Inside the mutex the outer part is known only when no other thread owns
the object. -/
inductive Token (Key Inner Outer : Type)
  | free
  | own (key : Key) (inner : Inner) (outer : Outer)
  | shared (key : Key)
  | locked (key : Key) (inner : Inner) (outer : Option Outer)

namespace Token

variable {Key Inner Outer : Type}

/-- The object a thread looks at. -/
def key : Token Key Inner Outer → Option Key
  | .free => none
  | .own key _ _ => some key
  | .shared key => some key
  | .locked key _ _ => some key

/-- The object a thread knows completely. -/
def focus : Token Key Inner Outer → Option (Key × Inner × Outer)
  | .free => none
  | .own key inner outer => some (key, inner, outer)
  | .shared _ => none
  | .locked key inner outer => outer.map fun outer => (key, inner, outer)

/-- The token with another outer part of its object. -/
def refocus (outer : Outer) : Token Key Inner Outer → Token Key Inner Outer
  | .free => .free
  | .own key inner _ => .own key inner outer
  | .shared key => .shared key
  | .locked key inner known => .locked key inner (known.map fun _ => outer)

/-- A thread knows completely what it owns, or what it looks at inside the mutex. -/
theorem eq_of_focus {token : Token Key Inner Outer} {key : Key} {inner : Inner} {outer : Outer}
    (isFocus : token.focus = some (key, inner, outer)) :
    token = .own key inner outer ∨ token = .locked key inner (some outer) := by
  cases token with
  | free => cases isFocus
  | own key' inner' outer' =>
    cases isFocus
    exact .inl rfl
  | shared key' => cases isFocus
  | locked key' inner' known =>
    cases known with
    | none => cases isFocus
    | some outer' =>
      cases isFocus
      exact .inr rfl

end Token

variable {I : Interface} {Outside Key Inner Outer : Type}

namespace Discipline

variable (D : Discipline I Outside Key Inner Outer)

/-- Every object is sound, and so are the surroundings. -/
def Healthy (memory : I.Memory) (outside : Outside) : Prop :=
  (∀ key, D.Sound key (D.inner memory key) (D.outer outside key)) ∧ D.Ambient outside

/-- Nobody owns the object, or this thread does. -/
def Mine (thread : Nat) (inner : Inner) : Prop :=
  D.owner inner = none ∨ D.owner inner = some thread

/-- What the token knows is so. -/
def Agrees (thread : Nat) (memory : I.Memory) (outside : Outside) : Token Key Inner Outer → Prop
  | .free => True
  | .own key inner outer => D.inner memory key = inner ∧ D.outer outside key = outer
  | .shared key => D.guest (D.inner memory key) thread
  | .locked key inner outer =>
    D.inner memory key = inner ∧ ∀ known, outer = some known → D.outer outside key = known

/-- The token of a thread that turns to an object inside the mutex. -/
def view (memory : I.Memory) (outside : Outside) (key : Key) : Token Key Inner Outer :=
  .locked key (D.inner memory key)
    (if D.owner (D.inner memory key) = none then some (D.outer outside key) else none)

/-- What the holder of the mutex knows of the objects it does not look at: none of them is its own,
and those nobody works on are settled. -/
def Elsewhere (thread : Nat) (memory : I.Memory) (outside : Outside) :
    Token Key Inner Outer → Prop
  | .locked key _ _ => ∀ other, other ≠ key → D.owner (D.inner memory other) ≠ some thread ∧
      (D.owner (D.inner memory other) = none →
        D.Settled other (D.inner memory other) (D.outer outside other))
  | _ => True

/-- Inside the mutex a thread may turn to another object when it leaves a settled one. -/
def Turn (thread : Nat) (memory : I.Memory) (outside : Outside)
    (token token' : Token Key Inner Outer) : Prop :=
  token' = token ∨ ∃ key inner outer other, token = .locked key inner outer ∧ other ≠ key ∧
    D.owner inner ≠ some thread ∧
    (D.owner inner = none → ∃ known, outer = some known ∧ D.Settled key inner known) ∧
    token' = D.view memory outside other

/-- What an access may do: nothing outside the mutex, and inside it an allowed change of the object
in view that sends no other guest away. -/
def ActMove (thread : Nat) (before after : I.Memory) :
    Token Key Inner Outer → Token Key Inner Outer → Prop
  | .free, token => token = .free ∧ ∀ key, D.inner after key = D.inner before key
  | .own key inner outer, token =>
    token = .own key inner outer ∧ ∀ other, D.inner after other = D.inner before other
  | .shared key, token =>
    token = .shared key ∧ ∀ other, D.inner after other = D.inner before other
  | .locked key inner outer, token =>
    token = .locked key (D.inner after key) outer ∧
    (∀ other, other ≠ key → D.inner after other = D.inner before other) ∧
    (D.inner after key = inner ∨
      ∃ known, outer = some known ∧ D.Mine thread (D.inner after key) ∧
        D.Guarantee key inner known (D.inner after key) ∧
        (∀ other, other ≠ thread → D.guest inner other → D.guest (D.inner after key) other) ∧
        D.Sound key (D.inner after key) known)

/-- What an outside call may do: change the outer part of the object the thread has to itself. -/
def CallMove (before after : Outside) (token token' : Token Key Inner Outer) : Prop :=
  match token.focus with
  | none => token' = token ∧ ∀ key, D.outer after key = D.outer before key
  | some (key, inner, _) =>
    token' = token.refocus (D.outer after key) ∧
    (∀ other, other ≠ key → D.outer after other = D.outer before other) ∧
    D.Sound key inner (D.outer after key)

end Discipline

/-! ## Weakest preconditions -/

section Wp

variable (system : System I Outside) (D : Discipline I Outside Key Inner Outer) (thread : Nat)

/-- The weakest precondition of a thread's code: it respects the discipline, and ends with a result
and a token that satisfy `post`. -/
def Prog.wp {α : Type} : Prog I α → Token Key Inner Outer →
    (α → Token Key Inner Outer → Prop) → Prop
  | .ret value, token, post => post value token
  | .act update next, token, post =>
    ∀ choice memory outside, D.Agrees thread memory outside token → D.Healthy memory outside →
      D.Elsewhere thread memory outside token → system.admissible thread choice memory →
      ∃ turned token', D.Turn thread memory outside token turned ∧
        D.ActMove thread memory (update choice memory) turned token' ∧
        (next choice memory).wp token' post
  | .call query next, token, post =>
    (∀ memory outside, D.Agrees thread memory outside token → D.Healthy memory outside →
      D.mayCall query (D.inner memory (D.subject query)) (D.outer outside (D.subject query))) ∧
    ∀ memory outside reply outside', D.Agrees thread memory outside token →
      D.Healthy memory outside → system.respond outside query reply outside' →
      ∃ token', D.CallMove outside outside' token token' ∧ (next reply).wp token' post
  | .lock next, .free, post =>
    ∃ key, ∀ inner outer, D.Sound key inner outer → D.owner inner ≠ some thread →
      (D.owner inner = none → D.Settled key inner outer) →
      next.wp (.locked key inner (if D.owner inner = none then some outer else none)) post
  | .lock next, .own key inner outer, post => next.wp (.locked key inner (some outer)) post
  | .lock next, .shared key, post =>
    ∀ inner outer, D.Sound key inner outer → D.guest inner thread →
      D.owner inner ≠ some thread → (D.owner inner = none → D.Settled key inner outer) →
      next.wp (.locked key inner (if D.owner inner = none then some outer else none)) post
  | .lock _, .locked _ _ _, _ => False
  | .unlock next, .locked key inner outer, post =>
    if D.owner inner = some thread then
      ∃ known, outer = some known ∧ next.wp (.own key inner known) post
    else
      (D.owner inner = none → ∃ known, outer = some known ∧ D.Settled key inner known) ∧
        (next.wp .free post ∨ (D.guest inner thread ∧ next.wp (.shared key) post))
  | .unlock _, .free, _ => False
  | .unlock _, .own _ _ _, _ => False
  | .unlock _, .shared _, _ => False
  | .note label next, token, post =>
    (∀ key inner outer, token.focus = some (key, inner, outer) → D.place label = key →
      D.assume label inner outer) → next.wp token post

variable {system D thread}

/-- **The rule of sequencing.**  A specification of the first part carries over to the whole when
the continuation is verified from every result the specification allows. -/
theorem Prog.wp_seq {α β : Type} {program : Prog I α} {continuation : α → Prog I β}
    {token : Token Key Inner Outer} {post : α → Token Key Inner Outer → Prop}
    {post' : β → Token Key Inner Outer → Prop}
    (verified : program.wp system D thread token post)
    (continues : ∀ value token, post value token →
      (continuation value).wp system D thread token post') :
    (program.bind continuation).wp system D thread token post' := by
  induction program generalizing token with
  | ret value => exact continues value token verified
  | act update next ih =>
    intro choice memory outside agrees healthy elsewhere admissible
    obtain ⟨turned, token', turn, moved, rest⟩ :=
      verified choice memory outside agrees healthy elsewhere admissible
    exact ⟨turned, token', turn, moved, ih choice memory rest⟩
  | call query next ih =>
    refine ⟨verified.1, ?_⟩
    intro memory outside reply outside' agrees healthy answered
    obtain ⟨token', moved, rest⟩ := verified.2 memory outside reply outside' agrees healthy answered
    exact ⟨token', moved, ih reply rest⟩
  | lock next ih =>
    cases token with
    | free =>
      obtain ⟨key, rest⟩ := verified
      exact ⟨key, fun inner outer sound foreign settled =>
        ih (rest inner outer sound foreign settled)⟩
    | own key inner outer => exact ih verified
    | shared key =>
      exact fun inner outer sound isGuest foreign settled =>
        ih (verified inner outer sound isGuest foreign settled)
    | locked key inner outer => exact verified.elim
  | unlock next ih =>
    cases token with
    | free => exact verified.elim
    | own key inner outer => exact verified.elim
    | shared key => exact verified.elim
    | locked key inner outer =>
      simp only [Prog.bind, Prog.wp] at verified ⊢
      split
      · next owned =>
        rw [if_pos owned] at verified
        obtain ⟨known, shape, rest⟩ := verified
        exact ⟨known, shape, ih rest⟩
      · next unowned =>
        rw [if_neg unowned] at verified
        refine ⟨verified.1, ?_⟩
        rcases verified.2 with rest | ⟨isGuest, rest⟩
        · exact .inl (ih rest)
        · exact .inr ⟨isGuest, ih rest⟩
  | note label next ih =>
    intro assumed
    exact ih (verified assumed)

theorem Prog.wp_mono {α : Type} {program : Prog I α} {token : Token Key Inner Outer}
    {post post' : α → Token Key Inner Outer → Prop}
    (verified : program.wp system D thread token post)
    (weaker : ∀ value token, post value token → post' value token) :
    program.wp system D thread token post' := by
  rw [← Prog.bind_ret program]
  exact Prog.wp_seq verified weaker

end Wp

end Monitor
