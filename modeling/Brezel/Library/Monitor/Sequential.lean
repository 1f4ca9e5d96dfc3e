import Brezel.Library.Monitor.Sections

/-!
# Programs that run alone

A program that nobody interferes with meets only the choices of its accesses and the answers to its
calls, which a `Setting` describes.  `Prog.ensures` is total correctness: the program never gets
stuck, and it ends as promised whatever it meets.  `Prog.outcome` is the big-step relation, and
`Prog.exec` computes one outcome.

`Contract.Upheld.outcome` connects the two worlds: what a program promises under a contract, it
also delivers when it runs alone.
-/

namespace Monitor

variable {I : Interface} {Outside : Type}
variable {inside inside' : Bool} {memory memory' : I.Memory} {outside outside' : Outside}

/-- What a program meets when it runs alone. -/
structure Setting (I : Interface) (Outside : Type) where
  admits : I.Choice → I.Memory → Prop
  answers : Outside → (query : I.Query) → I.Reply query → Outside → Prop

/-- The setting of one thread of a system. -/
def System.setting (system : System I Outside) (thread : Nat) : Setting I Outside where
  admits := system.admissible thread
  answers := system.respond

section Programs

variable (setting : Setting I Outside) {α β : Type}

/-- The program runs to its end, inside the mutex or not, and ends as promised. -/
def Prog.ensures : Prog I α → Bool → (α → Bool → I.Memory → Outside → Prop) →
    I.Memory → Outside → Prop
  | .ret value, inside, post, memory, outside => post value inside memory outside
  | .act update next, inside, post, memory, outside =>
    (∃ choice, setting.admits choice memory) ∧ ∀ choice, setting.admits choice memory →
      (next choice memory).ensures inside post (update choice memory) outside
  | .call query next, inside, post, memory, outside =>
    (∃ reply after, setting.answers outside query reply after) ∧
      ∀ reply after, setting.answers outside query reply after →
        (next reply).ensures inside post memory after
  | .lock next, false, post, memory, outside => next.ensures true post memory outside
  | .lock _, true, _, _, _ => False
  | .unlock next, true, post, memory, outside => next.ensures false post memory outside
  | .unlock _, false, _, _, _ => False
  | .note _ next, inside, post, memory, outside => next.ensures inside post memory outside

/-- The program may end like this. -/
def Prog.outcome : Prog I α → Bool → I.Memory → Outside → α → Bool → I.Memory → Outside → Prop
  | .ret value, inside, memory, outside, result, inside', memory', outside' =>
    result = value ∧ inside' = inside ∧ memory' = memory ∧ outside' = outside
  | .act update next, inside, memory, outside, result, inside', memory', outside' =>
    ∃ choice, setting.admits choice memory ∧
      (next choice memory).outcome inside (update choice memory) outside result inside' memory'
        outside'
  | .call query next, inside, memory, outside, result, inside', memory', outside' =>
    ∃ reply after, setting.answers outside query reply after ∧
      (next reply).outcome inside memory after result inside' memory' outside'
  | .lock next, false, memory, outside, result, inside', memory', outside' =>
    next.outcome true memory outside result inside' memory' outside'
  | .lock _, true, _, _, _, _, _, _ => False
  | .unlock next, true, memory, outside, result, inside', memory', outside' =>
    next.outcome false memory outside result inside' memory' outside'
  | .unlock _, false, _, _, _, _, _, _ => False
  | .note _ next, inside, memory, outside, result, inside', memory', outside' =>
    next.outcome inside memory outside result inside' memory' outside'

variable {setting}
variable {program : Prog I α} {continuation : α → Prog I β}
  {post : α → Bool → I.Memory → Outside → Prop}

/-- A sequence ends as promised if its first part promises what the rest needs. -/
theorem Prog.ensures_bind {post : β → Bool → I.Memory → Outside → Prop} :
    (program.bind continuation).ensures setting inside post memory outside ↔
      program.ensures setting inside (fun value inside memory outside =>
        (continuation value).ensures setting inside post memory outside) memory outside := by
  induction program generalizing inside memory outside with
  | ret value => exact Iff.rfl
  | act update next ih =>
    exact and_congr_right fun _ => forall₂_congr fun choice _ =>
      ih choice memory
  | call query next ih =>
    exact and_congr_right fun _ => forall₃_congr fun reply _ _ => ih reply
  | lock next ih =>
    cases inside with
    | false => exact ih
    | true => exact Iff.rfl
  | unlock next ih =>
    cases inside with
    | false => exact Iff.rfl
    | true => exact ih
  | note label next ih => exact ih

theorem Prog.ensures_mono {weaker : α → Bool → I.Memory → Outside → Prop}
    (ensured : program.ensures setting inside post memory outside)
    (implied : ∀ value inside memory outside, post value inside memory outside →
      weaker value inside memory outside) :
    program.ensures setting inside weaker memory outside := by
  induction program generalizing inside memory outside with
  | ret value => exact implied value inside memory outside ensured
  | act update next ih =>
    exact ⟨ensured.1, fun choice admitted =>
      ih choice memory (ensured.2 choice admitted)⟩
  | call query next ih =>
    exact ⟨ensured.1, fun reply after answered =>
      ih reply (ensured.2 reply after answered)⟩
  | lock next ih =>
    cases inside with
    | false => exact ih ensured
    | true => exact ensured.elim
  | unlock next ih =>
    cases inside with
    | false => exact ensured.elim
    | true => exact ih ensured
  | note label next ih => exact ih ensured

theorem Prog.ensures_seq
    {middle : α → Bool → I.Memory → Outside → Prop} {post : β → Bool → I.Memory → Outside → Prop}
    (first : program.ensures setting inside middle memory outside)
    (rest : ∀ value inside memory outside, middle value inside memory outside →
      (continuation value).ensures setting inside post memory outside) :
    (program.bind continuation).ensures setting inside post memory outside :=
  Prog.ensures_bind.mpr (Prog.ensures_mono first rest)

/-- A program that runs to its end has an outcome. -/
theorem Prog.exists_of_ensures (ensured : program.ensures setting inside post memory outside) :
    ∃ result inside' memory' outside', post result inside' memory' outside' := by
  induction program generalizing inside memory outside with
  | ret value => exact ⟨value, inside, memory, outside, ensured⟩
  | act update next ih =>
    obtain ⟨choice, admitted⟩ := ensured.1
    exact ih choice memory (ensured.2 choice admitted)
  | call query next ih =>
    obtain ⟨reply, after, answered⟩ := ensured.1
    exact ih reply (ensured.2 reply after answered)
  | lock next ih =>
    cases inside with
    | false => exact ih ensured
    | true => exact ensured.elim
  | unlock next ih =>
    cases inside with
    | false => exact ensured.elim
    | true => exact ih ensured
  | note label next ih => exact ih ensured

theorem Prog.ensures_and {other : α → Bool → I.Memory → Outside → Prop}
    (first : program.ensures setting inside post memory outside)
    (second : program.ensures setting inside other memory outside) :
    program.ensures setting inside (fun value inside memory outside =>
      post value inside memory outside ∧ other value inside memory outside) memory outside := by
  induction program generalizing inside memory outside with
  | ret value => exact ⟨first, second⟩
  | act update next ih =>
    exact ⟨first.1, fun choice admitted => ih choice memory
      (first.2 choice admitted) (second.2 choice admitted)⟩
  | call query next ih =>
    exact ⟨first.1, fun reply after answered => ih reply
      (first.2 reply after answered) (second.2 reply after answered)⟩
  | lock next ih =>
    cases inside with
    | false => exact ih first second
    | true => exact first.elim
  | unlock next ih =>
    cases inside with
    | false => exact first.elim
    | true => exact ih first second
  | note label next ih => exact ih first second

theorem Prog.outcome_seq {result : β}
    (ended : (program.bind continuation).outcome setting inside memory outside result inside'
      memory' outside') :
    ∃ value between midway elsewhere,
      program.outcome setting inside memory outside value between midway elsewhere ∧
      (continuation value).outcome setting between midway elsewhere result inside' memory'
        outside' := by
  induction program generalizing inside memory outside with
  | ret value => exact ⟨value, inside, memory, outside, ⟨rfl, rfl, rfl, rfl⟩, ended⟩
  | act update next ih =>
    obtain ⟨choice, admitted, rest⟩ := ended
    obtain ⟨value, between, midway, elsewhere, first, second⟩ :=
      ih choice memory rest
    exact ⟨value, between, midway, elsewhere, ⟨choice, admitted, first⟩, second⟩
  | call query next ih =>
    obtain ⟨reply, after, answered, rest⟩ := ended
    obtain ⟨value, between, midway, elsewhere, first, second⟩ := ih reply rest
    exact ⟨value, between, midway, elsewhere, ⟨reply, after, answered, first⟩, second⟩
  | lock next ih =>
    cases inside with
    | false => exact ih ended
    | true => exact ended.elim
  | unlock next ih =>
    cases inside with
    | false => exact ended.elim
    | true => exact ih ended
  | note label next ih => exact ih ended

/-- Run the program with a way of choosing and a way of answering. -/
def Prog.exec (setting : Setting I Outside)
    [∀ choice memory, Decidable (setting.admits choice memory)] (choose : I.Memory → I.Choice)
    (answer : Outside → (query : I.Query) → Option (I.Reply query × Outside)) :
    Prog I α → Bool → I.Memory → Outside → Option (α × Bool × I.Memory × Outside)
  | .ret value, inside, memory, outside => some (value, inside, memory, outside)
  | .act update next, inside, memory, outside =>
    if setting.admits (choose memory) memory then
      (next (choose memory) memory).exec setting choose answer inside
        (update (choose memory) memory) outside
    else none
  | .call query next, inside, memory, outside =>
    match answer outside query with
    | none => none
    | some (reply, after) => (next reply).exec setting choose answer inside memory after
  | .lock next, false, memory, outside => next.exec setting choose answer true memory outside
  | .lock _, true, _, _ => none
  | .unlock next, true, memory, outside => next.exec setting choose answer false memory outside
  | .unlock _, false, _, _ => none
  | .note _ next, inside, memory, outside => next.exec setting choose answer inside memory outside

theorem Prog.outcome_of_exec [∀ choice memory, Decidable (setting.admits choice memory)]
    {choose : I.Memory → I.Choice}
    {answer : Outside → (query : I.Query) → Option (I.Reply query × Outside)}
    (sound : ∀ before query reply after, answer before query = some (reply, after) →
      setting.answers before query reply after) {result : α}
    (executed : program.exec setting choose answer inside memory outside =
      some (result, inside', memory', outside')) :
    program.outcome setting inside memory outside result inside' memory' outside' := by
  induction program generalizing inside memory outside with
  | ret value =>
    cases executed
    exact ⟨rfl, rfl, rfl, rfl⟩
  | act update next ih =>
    simp only [Prog.exec] at executed
    split at executed
    · next admitted => exact ⟨_, admitted, ih _ _ executed⟩
    · cases executed
  | call query next ih =>
    simp only [Prog.exec] at executed
    split at executed
    · cases executed
    · next reply after answered =>
      exact ⟨reply, after, sound _ _ _ _ answered, ih _ executed⟩
  | lock next ih =>
    cases inside with
    | false => exact ih executed
    | true => cases executed
  | unlock next ih =>
    cases inside with
    | false => cases executed
    | true => exact ih executed
  | note label next ih => exact ih executed

end Programs

/-! ## Rules -/

/-- From outside the mutex, the code runs to its end, outside again, and ends as promised. -/
def Alone (setting : Setting I Outside) {α : Type} (code : Prog I α)
    (post : α → I.Memory → Outside → Prop) (memory : I.Memory) (outside : Outside) : Prop :=
  code.ensures setting false
    (fun value inside memory outside => inside = false ∧ post value memory outside) memory outside

namespace Alone

variable {setting : Setting I Outside} {α β : Type} {post : α → I.Memory → Outside → Prop}
  {memory : I.Memory} {outside : Outside}
variable {code : Prog I α}

theorem ret {value : α} (holds : post value memory outside) :
    Alone setting (.ret value) post memory outside :=
  ⟨rfl, holds⟩

theorem bind {continuation : α → Prog I β}
    {final : β → I.Memory → Outside → Prop} (first : Alone setting code post memory outside)
    (rest : ∀ value memory outside, post value memory outside →
      Alone setting (continuation value) final memory outside) :
    Alone setting (code.bind continuation) final memory outside := by
  refine Prog.ensures_seq first ?_
  rintro value _ memory' outside' ⟨rfl, holds⟩
  exact rest value memory' outside' holds

theorem mono {weaker : α → I.Memory → Outside → Prop}
    (first : Alone setting code post memory outside)
    (implied : ∀ value memory outside, post value memory outside → weaker value memory outside) :
    Alone setting code weaker memory outside := by
  rw [← code.bind_ret]
  exact first.bind fun value memory' outside' holds => ret (implied value memory' outside' holds)

theorem map {result : α → β} {final : β → I.Memory → Outside → Prop}
    (first : Alone setting code (fun value => final (result value)) memory outside) :
    Alone setting (code.bind fun value => .ret (result value)) final memory outside :=
  first.bind fun _ _ _ => ret

/-- A section of one access. -/
theorem atomic {update : I.Choice → I.Memory → I.Memory} {result : I.Choice → I.Memory → α}
    (choosable : ∃ choice, setting.admits choice memory)
    (step : ∀ choice, setting.admits choice memory →
      post (result choice memory) (update choice memory) outside) :
    Alone setting
      (.lock (.act update fun choice memory => .unlock (.ret (result choice memory)))) post memory
      outside :=
  ⟨choosable, fun choice admitted => ⟨rfl, step choice admitted⟩⟩

/-- A look beside the mutex. -/
theorem look {result : I.Choice → I.Memory → α} (choosable : ∃ choice, setting.admits choice memory)
    (step : ∀ choice, setting.admits choice memory → post (result choice memory) memory outside) :
    Alone setting (.act (fun _ memory => memory) fun choice memory => .ret (result choice memory))
      post memory outside :=
  ⟨choosable, fun choice admitted => ⟨rfl, step choice admitted⟩⟩

theorem call {query : I.Query} {next : I.Reply query → Prog I α}
    (answerable : ∃ reply after, setting.answers outside query reply after)
    (step : ∀ reply after, setting.answers outside query reply after →
      Alone setting (next reply) post memory after) :
    Alone setting (.call query next) post memory outside :=
  ⟨answerable, step⟩

/-- Two promises are kept together, at some end. -/
theorem exists_both {other : α → I.Memory → Outside → Prop}
    (first : Alone setting code post memory outside)
    (second : Alone setting code other memory outside) :
    ∃ result memory' outside', post result memory' outside' ∧ other result memory' outside' := by
  obtain ⟨result, _, memory', outside', both⟩ :=
    Prog.exists_of_ensures (Prog.ensures_and first second)
  exact ⟨result, memory', outside', both.1.2, both.2.2⟩

end Alone

/-! ## Contracts -/

namespace Contract

variable {View : Type} {system : System I Outside} {C : Contract I Outside View} {thread : Nat}
  {α : Type}

/-- **A program that secures a contract keeps it when it runs alone.** -/
theorem Upheld.outcome (upheld : Upheld system C) {program : Prog I α}
    {post : α → Bool → View → Outside → Prop} {result : α}
    (given : ∀ thread update choice memory, C.Given thread update choice memory)
    (trust : ∀ query reply view outside, C.Trust query reply view outside)
    (secured : program.secures system C thread inside post (C.view memory) outside)
    (inv : C.Inv (C.view memory) outside)
    (ended : program.outcome (system.setting thread) inside memory outside result inside' memory'
      outside') :
    C.Inv (C.view memory') outside' ∧ post result inside' (C.view memory') outside' := by
  induction program generalizing inside memory outside with
  | ret value =>
    obtain ⟨rfl, rfl, rfl, rfl⟩ := ended
    exact ⟨inv, secured⟩
  | act update next ih =>
    obtain ⟨choice, admitted, rest⟩ := ended
    obtain ⟨changed, later⟩ := secured choice memory rfl inv admitted (given _ _ _ _)
    refine ih choice memory later.now ?_ rest
    cases inside with
    | true => exact upheld.access inv changed inv
    | false =>
      have same : C.view (update choice memory) = C.view memory := changed
      rw [same]
      exact inv
  | call query next ih =>
    obtain ⟨reply, after, answered, rest⟩ := ended
    obtain ⟨permitted, later⟩ := secured inv
    have trusted := trust query reply (C.view memory) outside
    exact ih reply (later reply after trusted answered).now
      (upheld.call inv permitted trusted answered inv) rest
  | lock next ih =>
    cases inside with
    | false => exact ih (Lasting.now secured) inv ended
    | true => exact secured.elim
  | unlock next ih =>
    cases inside with
    | false => exact secured.elim
    | true => exact ih (Lasting.now secured) inv ended
  | note label next ih =>
    exact ih (Lasting.now secured) inv ended

end Contract

end Monitor
