import Brezel.Library.Monitor.Program

/-!
# Contracts on what the mutex guards

Only the holder of the mutex changes what the mutex guards.  A thread inside it therefore knows
the guarded part exactly, and between its sections it knows what the other threads keep.

A `Contract` says what one access may do to the guarded part of the memory (`Change`), which
outside calls a thread may make (`Permit`), and what holds of the guarded part and the outside state
in every world (`Inv`).  `Prog.secures` is the weakest precondition of a program under the
contract: it follows the guarded part through the program, and wherever others can interfere it
holds for everything they may have done (`Contract.Lasting`).

`Contract.Upheld.holds_step` is soundness: when every entry point secures the contract, each step
of the interleaving keeps it.  What is known of an access from elsewhere, of what it does and of
what it sees, enters as `Given`, and what is assumed of the answers as `Trust`.
-/

namespace Monitor

variable {I : Interface} {Outside View : Type}
variable {view : View} {outside : Outside} {update : I.Choice → I.Memory → I.Memory}
  {query : I.Query} {known : View → Outside → Prop} {thread : Nat}

/-- What threads promise about the guarded part of the memory and about the outside. -/
structure Contract (I : Interface) (Outside View : Type) where
  view : I.Memory → View
  Inv : View → Outside → Prop
  Change : Nat → View → View → Outside → Prop
  Permit : Nat → I.Query → View → Outside → Prop
  Given : Nat → (I.Choice → I.Memory → I.Memory) → I.Choice → I.Memory → Prop
  Trust : (query : I.Query) → I.Reply query → View → Outside → Prop

namespace Contract

variable (system : System I Outside) (C : Contract I Outside View) (thread : Nat)

/-- One step of the others, while the thread is inside the mutex or not. -/
inductive Interferes : Bool → View × Outside → View × Outside → Prop
  | access {other : Nat} {before after : View} {outside : Outside} (inv : C.Inv before outside)
      (distinct : other ≠ thread) (changed : C.Change other before after outside) :
      Interferes false (before, outside) (after, outside)
  | call {inside : Bool} {other : Nat} {view : View} {before after : Outside} {query : I.Query}
      {reply : I.Reply query} (inv : C.Inv view before) (distinct : other ≠ thread)
      (permitted : C.Permit other query view before) (trusted : C.Trust query reply view before)
      (answered : system.respond before query reply after) :
      Interferes inside (view, before) (view, after)
  | drift {inside : Bool} {view : View} {before after : Outside} (inv : C.Inv view before)
      (drifted : system.drift before after) : Interferes inside (view, before) (view, after)

/-- The fact holds now and after anything the others do. -/
def Lasting (inside : Bool) (fact : View → Outside → Prop) (view : View) (outside : Outside) :
    Prop :=
  ∀ view' outside', Relation.ReflTransGen (Interferes system C thread inside) (view, outside)
    (view', outside') → fact view' outside'

variable {system C thread} {inside : Bool} {fact other : View → Outside → Prop} {view : View}
  {outside : Outside}

theorem Lasting.now (lasting : Lasting system C thread inside fact view outside) :
    fact view outside :=
  lasting view outside .refl

theorem Lasting.after (lasting : Lasting system C thread inside fact view outside) {view' : View}
    {outside' : Outside}
    (step : Interferes system C thread inside (view, outside) (view', outside')) :
    Lasting system C thread inside fact view' outside' :=
  fun last lastOutside steps => lasting last lastOutside (.head step steps)

theorem Lasting.mono (lasting : Lasting system C thread inside fact view outside)
    (weaker : ∀ view outside, fact view outside → other view outside) :
    Lasting system C thread inside other view outside :=
  fun view' outside' steps => weaker view' outside' (lasting view' outside' steps)

/-- A fact that no step of the others destroys. -/
def Stable (system : System I Outside) (C : Contract I Outside View) (thread : Nat)
    (inside : Bool) (fact : View → Outside → Prop) : Prop :=
  ∀ ⦃before after⦄, Interferes system C thread inside before after → fact before.1 before.2 →
    fact after.1 after.2

theorem Stable.lasting (stable : Stable system C thread inside fact)
    (holds : fact view outside) : Lasting system C thread inside fact view outside := by
  intro view' outside' steps
  have kept : ∀ last, Relation.ReflTransGen (Interferes system C thread inside) (view, outside)
      last → fact last.1 last.2 := by
    intro last steps
    induction steps with
    | refl => exact holds
    | tail _ step ih => exact stable step ih
  exact kept _ steps

/-- Inside the mutex the others can do less. -/
theorem Stable.held (stable : Stable system C thread false fact) :
    Stable system C thread true fact := by
  intro before after step holds
  cases step with
  | call inv distinct permitted trusted answered =>
    exact stable (.call inv distinct permitted trusted answered) holds
  | drift inv drifted => exact stable (.drift inv drifted) holds

/-- Inside the mutex nobody else changes what it guards. -/
theorem Stable.ofView (fact : View → Prop) :
    Stable system C thread true fun view _ => fact view := by
  intro before after step holds
  cases step with
  | call _ _ _ _ _ => exact holds
  | drift _ _ => exact holds

end Contract

section Secures

variable (system : System I Outside) (C : Contract I Outside View) (thread : Nat)

/-- The code keeps the contract at every access and call, and ends as promised. -/
def Prog.secures {α : Type} : Prog I α → Bool → (α → Bool → View → Outside → Prop) →
    View → Outside → Prop
  | .ret value, inside, post, view, outside => post value inside view outside
  | .act update next, inside, post, view, outside =>
    ∀ choice memory, C.view memory = view → C.Inv view outside →
      system.admissible thread choice memory → C.Given thread update choice memory →
      (if inside then C.Change thread view (C.view (update choice memory)) outside
        else C.view (update choice memory) = view) ∧
      Contract.Lasting system C thread inside ((next choice memory).secures inside post)
        (C.view (update choice memory)) outside
  | .call query next, inside, post, view, outside =>
    C.Inv view outside → C.Permit thread query view outside ∧
      ∀ reply outside', C.Trust query reply view outside →
        system.respond outside query reply outside' →
        Contract.Lasting system C thread inside ((next reply).secures inside post) view outside'
  | .lock next, false, post, view, outside =>
    Contract.Lasting system C thread true (next.secures true post) view outside
  | .lock _, true, _, _, _ => False
  | .unlock next, true, post, view, outside =>
    Contract.Lasting system C thread false (next.secures false post) view outside
  | .unlock _, false, _, _, _ => False
  | .note _ next, inside, post, view, outside =>
    Contract.Lasting system C thread inside (next.secures inside post) view outside

variable {system C thread} {α β : Type}
variable {program : Prog I α} {continuation : α → Prog I β} {inside : Bool}

/-- **A program secures what its continuation needs.** -/
theorem Prog.secures_seq
    {middle : α → Bool → View → Outside → Prop} {post : β → Bool → View → Outside → Prop}
    (first : program.secures system C thread inside middle view outside)
    (rest : ∀ value inside view outside, middle value inside view outside →
      (continuation value).secures system C thread inside post view outside) :
    (program.bind continuation).secures system C thread inside post view outside := by
  induction program generalizing inside view outside with
  | ret value => exact rest value inside view outside first
  | act update next ih =>
    intro choice memory isView inv admissible given
    obtain ⟨changed, later⟩ := first choice memory isView inv admissible given
    exact ⟨changed, later.mono fun _ _ => ih choice memory⟩
  | call query next ih =>
    intro inv
    obtain ⟨permitted, later⟩ := first inv
    refine ⟨permitted, fun reply outside' trusted answered => ?_⟩
    exact (later reply outside' trusted answered).mono fun _ _ => ih reply
  | lock next ih =>
    cases inside with
    | false => exact Contract.Lasting.mono first fun _ _ => ih
    | true => exact first.elim
  | unlock next ih =>
    cases inside with
    | false => exact first.elim
    | true => exact Contract.Lasting.mono first fun _ _ => ih
  | note label next ih =>
    exact Contract.Lasting.mono first fun _ _ => ih

theorem Prog.secures_mono {post weaker : α → Bool → View → Outside → Prop}
    (secured : program.secures system C thread inside post view outside)
    (implied : ∀ value inside view outside, post value inside view outside →
      weaker value inside view outside) :
    program.secures system C thread inside weaker view outside := by
  rw [← program.bind_ret]
  exact Prog.secures_seq secured implied

end Secures

/-! ## Sections and the code between them -/

namespace Contract

variable (system : System I Outside) (C : Contract I Outside View) (thread : Nat) {α β : Type}

/-- Inside the mutex, from a guarded part that is known: the code keeps the contract and stays
inside. -/
def Inside (code : Prog I α) (post : α → View → Outside → Prop) (view : View) : Prop :=
  ∀ outside, code.secures system C thread true
    (fun value inside view outside => inside = true ∧ post value view outside) view outside

/-- Code that runs outside the mutex, from known facts to a promise. -/
def Between (known : View → Outside → Prop) (code : Prog I α)
    (post : α → View → Outside → Prop) : Prop :=
  ∀ view outside, known view outside → code.secures system C thread false
    (fun value inside view outside => inside = false ∧ post value view outside) view outside

/-- The code leaves the guarded part alone and makes only harmless calls. -/
def Beside (harmless : I.Query → Prop) : Prog I α → (α → Prop) → Prop
  | .ret value, post => post value
  | .act update next, post => ∀ choice memory,
      C.view (update choice memory) = C.view memory ∧ Beside harmless (next choice memory) post
  | .call query next, post => harmless query ∧ ∀ reply, Beside harmless (next reply) post
  | .lock _, _ => False
  | .unlock _, _ => False
  | .note _ next, post => Beside harmless next post

variable {system C thread}
variable {code : Prog I α} {continuation : α → Prog I β} {final : β → View → Outside → Prop}
  {result : I.Choice → I.Memory → α}

namespace Inside

variable {post : α → View → Outside → Prop} {view : View}

theorem ret {value : α} (holds : ∀ outside, post value view outside) :
    Inside system C thread (.ret value) post view :=
  fun outside => ⟨rfl, holds outside⟩

/-- Nobody else changes what the code starts from. -/
theorem lasting (rest : Inside system C thread code post view) :
    Lasting system C thread true (code.secures system C thread true
      fun value inside view outside => inside = true ∧ post value view outside) view outside :=
  ((Stable.ofView _).lasting rest).mono fun _ outside' rest => rest outside'

theorem act {next : I.Choice → I.Memory → Prog I α}
    (step : ∀ choice memory outside, C.view memory = view → C.Inv view outside →
      system.admissible thread choice memory → C.Given thread update choice memory →
      C.Change thread view (C.view (update choice memory)) outside ∧
        Inside system C thread (next choice memory) post (C.view (update choice memory))) :
    Inside system C thread (.act update next) post view := by
  intro outside choice memory isView inv admissible given
  obtain ⟨changed, rest⟩ := step choice memory outside isView inv admissible given
  exact ⟨changed, rest.lasting⟩

theorem call {next : I.Reply query → Prog I α}
    (permitted : ∀ outside, C.Inv view outside → C.Permit thread query view outside)
    (rest : ∀ reply outside, C.Trust query reply view outside →
      Inside system C thread (next reply) post view) :
    Inside system C thread (.call query next) post view := by
  exact fun outside inv => ⟨permitted outside inv, fun reply _ trusted _ =>
    (rest reply outside trusted).lasting⟩

theorem note {label : I.Label} {next : Prog I α} (rest : Inside system C thread next post view) :
    Inside system C thread (.note label next) post view :=
  fun _ => rest.lasting

theorem bind (first : Inside system C thread code post view)
    (rest : ∀ value view outside, post value view outside →
      Inside system C thread (continuation value) final view) :
    Inside system C thread (code.bind continuation) final view := by
  refine fun outside => Prog.secures_seq (first outside) ?_
  rintro value _ view' outside' ⟨rfl, holds⟩
  exact rest value view' outside' holds outside'

theorem beside {harmless : I.Query → Prop} {value : α → Prop}
    (idle : ∀ view outside, C.Change thread view view outside)
    (permitted : ∀ query view outside, harmless query → C.Permit thread query view outside)
    (aside : Beside C harmless code value) :
    Inside system C thread code (fun result after _ => view = after ∧ value result) view := by
  induction code with
  | ret result => exact .ret fun _ => ⟨rfl, aside⟩
  | act update next ih =>
    refine .act fun choice memory outside isView _ _ _ => ?_
    obtain ⟨same, rest⟩ := aside choice memory
    rw [same, isView]
    exact ⟨idle view outside, ih choice memory rest⟩
  | call query next ih =>
    exact .call (fun outside _ => permitted query view outside aside.1)
      fun reply _ _ => ih reply (aside.2 reply)
  | lock next => exact aside.elim
  | unlock next => exact aside.elim
  | note label next ih => exact .note (ih aside)

end Inside

/-- Inside the mutex, from a guarded part and an outside state that are known. -/
abbrev At (system : System I Outside) (C : Contract I Outside View) (thread : Nat) (code : Prog I α)
    (post : α → View → Outside → Prop) (view : View) (outside : Outside) : Prop :=
  code.secures system C thread true
    (fun value inside view outside => inside = true ∧ post value view outside) view outside

namespace At

variable {post : α → View → Outside → Prop} {view : View} {outside : Outside}

theorem bind (first : At system C thread code post view outside)
    (rest : ∀ value view outside, post value view outside →
      At system C thread (continuation value) final view outside) :
    At system C thread (code.bind continuation) final view outside := by
  refine Prog.secures_seq first ?_
  rintro value _ view' outside' ⟨rfl, holds⟩
  exact rest value view' outside' holds

/-- One access, when what it leaves behind lasts while the mutex is held. -/
theorem act (stable : ∀ value, Stable system C thread true (post value))
    (step : ∀ choice memory, C.view memory = view → C.Inv view outside →
      system.admissible thread choice memory → C.Given thread update choice memory →
      C.Change thread view (C.view (update choice memory)) outside ∧
        post (result choice memory) (C.view (update choice memory)) outside) :
    At system C thread (.act update fun choice memory => .ret (result choice memory)) post view
      outside := by
  intro choice memory isView inv admissible given
  obtain ⟨changed, holds⟩ := step choice memory isView inv admissible given
  exact ⟨changed, ((stable _).lasting holds).mono fun _ _ holds => ⟨rfl, holds⟩⟩

end At

namespace Between

variable {known : View → Outside → Prop} {post : α → View → Outside → Prop}

theorem ret {value : α} (holds : ∀ view outside, known view outside → post value view outside) :
    Between system C thread known (.ret value) post :=
  fun view outside isKnown => ⟨rfl, holds view outside isKnown⟩

theorem bind (first : Between system C thread known code post)
    (rest : ∀ value, Between system C thread (post value) (continuation value) final) :
    Between system C thread known (code.bind continuation) final := by
  refine fun view outside isKnown => Prog.secures_seq (first view outside isKnown) ?_
  rintro value _ view' outside' ⟨rfl, holds⟩
  exact rest value view' outside' holds

/-- A section: what it ends with must last. -/
theorem locked {body : Prog I α} (stable : ∀ value, Stable system C thread false (post value))
    (inside : ∀ view outside, known view outside → Inside system C thread body post view) :
    Between system C thread known (.lock (body.bind fun value => .unlock (.ret value))) post := by
  refine fun view outside isKnown => (inside view outside isKnown).lasting.mono ?_
  refine fun view' outside' secured => Prog.secures_seq secured ?_
  rintro value _ last lastOutside ⟨rfl, holds⟩
  exact ((stable value).lasting holds).mono fun _ _ holds => ⟨rfl, holds⟩

/-- A section of one access. -/
theorem atomic (stable : Stable system C thread false known)
    (lasts : ∀ value, Stable system C thread false (post value))
    (step : ∀ choice memory outside, known (C.view memory) outside →
      C.Inv (C.view memory) outside → system.admissible thread choice memory →
      C.Given thread update choice memory →
      C.Change thread (C.view memory) (C.view (update choice memory)) outside ∧
        post (result choice memory) (C.view (update choice memory)) outside) :
    Between system C thread known
      (.lock (.act update fun choice memory => .unlock (.ret (result choice memory)))) post := by
  intro view outside isKnown
  refine (Stable.lasting (Stable.held stable) isKnown).mono ?_
  rintro _ outside isKnown choice memory rfl inv admissible given
  obtain ⟨changed, holds⟩ := step choice memory outside isKnown inv admissible given
  refine ⟨changed, (Stable.lasting (Stable.held (lasts _)) holds).mono fun view outside holds => ?_⟩
  exact ((lasts _).lasting holds).mono fun _ _ holds => ⟨rfl, holds⟩

/-- A look beside the mutex. -/
theorem look (stable : Stable system C thread false known) :
    Between system C thread known
      (.act (fun _ memory => memory) fun choice memory => .ret (result choice memory))
      fun _ => known := by
  intro view outside isKnown choice memory isView _ _ _
  rw [isView]
  exact ⟨rfl, (stable.lasting isKnown).mono fun _ _ isKnown => ⟨rfl, isKnown⟩⟩

theorem call {post : I.Reply query → View → Outside → Prop}
    (lasts : ∀ reply, Stable system C thread false (post reply))
    (permitted : ∀ view outside, known view outside → C.Inv view outside →
      C.Permit thread query view outside)
    (answered : ∀ view outside reply outside', known view outside → C.Inv view outside →
      C.Trust query reply view outside → system.respond outside query reply outside' →
      post reply view outside') :
    Between system C thread known (.call query .ret) post := by
  intro view outside isKnown inv
  refine ⟨permitted view outside isKnown inv, fun reply outside' trusted isAnswer => ?_⟩
  have holds := answered view outside reply outside' isKnown inv trusted isAnswer
  exact ((lasts reply).lasting holds).mono fun _ _ holds => ⟨rfl, holds⟩

/-- Code beside the guarded part keeps what the others keep. -/
theorem beside {fact : View → Prop} {harmless : I.Query → Prop} {value : α → Prop}
    (stable : Stable system C thread false fun view _ => fact view)
    (permitted : ∀ query view outside, harmless query → C.Permit thread query view outside)
    (aside : Beside C harmless code value) :
    Between system C thread (fun view _ => fact view) code
      (fun result view _ => fact view ∧ value result) := by
  intro view outside isKnown
  induction code generalizing view outside with
  | ret result => exact ⟨rfl, isKnown, aside⟩
  | act update next ih =>
    intro choice memory isView _ _ _
    obtain ⟨same, rest⟩ := aside choice memory
    have unchanged : C.view (update choice memory) = view := same.trans isView
    refine ⟨unchanged, ?_⟩
    rw [unchanged]
    exact (stable.lasting isKnown).mono
      fun view outside isKnown => ih choice memory rest view outside isKnown
  | call query next ih =>
    refine fun _ => ⟨permitted query view outside aside.1, fun reply outside' _ _ => ?_⟩
    have lasting : Lasting system C thread false (fun view _ => fact view) view outside' :=
      stable.lasting isKnown
    exact lasting.mono
      fun view outside isKnown => ih reply (aside.2 reply) view outside isKnown
  | lock next => exact aside.elim
  | unlock next => exact aside.elim
  | note label next ih =>
    exact (stable.lasting isKnown).mono
      fun view outside isKnown => ih aside view outside isKnown

end Between

/-! ## Facts that last for good -/

/-- A fact that no step destroys, of whichever thread. -/
structure Persistent (system : System I Outside) (C : Contract I Outside View)
    (fact : View → Outside → Prop) : Prop where
  access : ∀ ⦃thread before after outside⦄, C.Inv before outside →
    C.Change thread before after outside → fact before outside → fact after outside
  call : ∀ ⦃thread query reply view before after⦄, C.Inv view before →
    C.Permit thread query view before → C.Trust query reply view before →
    system.respond before query reply after → fact view before → fact view after
  drift : ∀ ⦃view before after⦄, C.Inv view before → system.drift before after →
    fact view before → fact view after

namespace Persistent

variable {fact other : View → Outside → Prop}

theorem stable (persistent : Persistent system C fact) (inside : Bool) :
    Stable system C thread inside fact := by
  intro before after step holds
  cases step with
  | access inv _ changed => exact persistent.access inv changed holds
  | call inv _ permitted trusted answered =>
    exact persistent.call inv permitted trusted answered holds
  | drift inv drifted => exact persistent.drift inv drifted holds

theorem const (holds : Prop) : Persistent system C fun _ _ => holds :=
  ⟨fun _ _ _ _ _ _ holds => holds, fun _ _ _ _ _ _ _ _ _ _ holds => holds,
    fun _ _ _ _ _ holds => holds⟩

theorem and (first : Persistent system C fact) (second : Persistent system C other) :
    Persistent system C fun view outside => fact view outside ∧ other view outside where
  access _ _ _ _ inv changed holds :=
    ⟨first.access inv changed holds.1, second.access inv changed holds.2⟩
  call _ _ _ _ _ _ inv permitted trusted answered holds :=
    ⟨first.call inv permitted trusted answered holds.1,
      second.call inv permitted trusted answered holds.2⟩
  drift _ _ _ inv drifted holds :=
    ⟨first.drift inv drifted holds.1, second.drift inv drifted holds.2⟩

theorem all {ι : Type} {facts : ι → View → Outside → Prop}
    (persistent : ∀ index, Persistent system C (facts index)) :
    Persistent system C fun view outside => ∀ index, facts index view outside where
  access _ _ _ _ inv changed holds index := (persistent index).access inv changed (holds index)
  call _ _ _ _ _ _ inv permitted trusted answered holds index :=
    (persistent index).call inv permitted trusted answered (holds index)
  drift _ _ _ inv drifted holds index := (persistent index).drift inv drifted (holds index)

theorem imp {condition : Prop} (persistent : condition → Persistent system C fact) :
    Persistent system C fun view outside => condition → fact view outside where
  access _ _ _ _ inv changed holds isCase :=
    (persistent isCase).access inv changed (holds isCase)
  call _ _ _ _ _ _ inv permitted trusted answered holds isCase :=
    (persistent isCase).call inv permitted trusted answered (holds isCase)
  drift _ _ _ inv drifted holds isCase := (persistent isCase).drift inv drifted (holds isCase)

end Persistent
variable {post : α → View → Outside → Prop}

/-- **A program does not lose what lasts for good.** -/
theorem Persistent.secures {program : Prog I α} {inside : Bool}
    {post : α → Bool → View → Outside → Prop} {fact : View → Outside → Prop}
    (persistent : Persistent system C fact)
    (secured : program.secures system C thread inside post view outside)
    (holds : fact view outside) :
    program.secures system C thread inside
      (fun value inside view outside => post value inside view outside ∧ fact view outside)
      view outside := by
  -- What lasts and the fact last together.
  have joined : ∀ {flag : Bool} {need : View → Outside → Prop} {view : View} {outside : Outside},
      Lasting system C thread flag need view outside → fact view outside →
      Lasting system C thread flag (fun view outside => need view outside ∧ fact view outside)
        view outside := by
    intro flag need view outside lasting holds view' outside' steps
    exact ⟨lasting view' outside' steps, (persistent.stable flag).lasting holds view'
      outside' steps⟩
  induction program generalizing inside view outside with
  | ret value => exact ⟨secured, holds⟩
  | act update next ih =>
    intro choice memory isView inv admissible given
    obtain ⟨changed, later⟩ := secured choice memory isView inv admissible given
    refine ⟨changed, (joined later ?_).mono fun _ _ both =>
      ih choice memory both.1 both.2⟩
    cases inside with
    | true => exact persistent.access inv changed holds
    | false =>
      have same : C.view (update choice memory) = view := changed
      rw [same]
      exact holds
  | call query next ih =>
    intro inv
    obtain ⟨permitted, later⟩ := secured inv
    refine ⟨permitted, fun reply outside' trusted answered => ?_⟩
    have kept := persistent.call inv permitted trusted answered holds
    exact (joined (later reply outside' trusted answered) kept).mono
      fun _ _ both => ih reply both.1 both.2
  | lock next ih =>
    cases inside with
    | false =>
      exact (joined secured holds).mono fun _ _ both => ih both.1 both.2
    | true => exact secured.elim
  | unlock next ih =>
    cases inside with
    | false => exact secured.elim
    | true =>
      exact (joined secured holds).mono fun _ _ both => ih both.1 both.2
  | note label next ih =>
    exact (joined secured holds).mono fun _ _ both => ih both.1 both.2

theorem Between.frame {fact : View → Outside → Prop} (persistent : Persistent system C fact)
    (first : Between system C thread known code post) :
    Between system C thread (fun view outside => known view outside ∧ fact view outside) code
      fun value view outside => post value view outside ∧ fact view outside := by
  intro view outside both
  have framed := persistent.secures (first view outside both.1) both.2
  exact Prog.secures_mono framed fun _ _ _ _ holds => ⟨holds.1.1, holds.1.2, holds.2⟩

/-- What lasts for good is known after each step of the code. -/
theorem Between.chain
    (persistent : Persistent system C known) (first : Between system C thread known code post)
    (rest : ∀ value, Between system C thread
      (fun view outside => post value view outside ∧ known view outside) (continuation value)
      final) :
    Between system C thread known (code.bind continuation) final := by
  have framed : Between system C thread known code
      fun value view outside => post value view outside ∧ known view outside := by
    intro view outside isKnown
    exact Between.frame persistent first view outside ⟨isKnown, isKnown⟩
  exact framed.bind rest

theorem Between.mono {stronger : View → Outside → Prop}
    {weaker : α → View → Outside → Prop} (first : Between system C thread known code post)
    (before : ∀ view outside, stronger view outside → known view outside)
    (after : ∀ value view outside, post value view outside → weaker value view outside) :
    Between system C thread stronger code weaker := by
  intro view outside isStronger
  have secured := first view outside (before view outside isStronger)
  exact Prog.secures_mono secured fun _ _ _ _ holds => ⟨holds.1, after _ _ _ holds.2⟩

theorem Between.pre {stronger : View → Outside → Prop}
    (first : Between system C thread known code post)
    (before : ∀ view outside, stronger view outside → known view outside) :
    Between system C thread stronger code post :=
  fun view outside isStronger => first view outside (before view outside isStronger)

namespace Beside

variable {harmless : I.Query → Prop} {post : α → Prop}

theorem bind {final : β → Prop} (first : Beside C harmless code post)
    (rest : ∀ value, post value → Beside C harmless (continuation value) final) :
    Beside C harmless (code.bind continuation) final := by
  induction code with
  | ret value => exact rest value first
  | act update next ih =>
    exact fun choice memory =>
      ⟨(first choice memory).1, ih choice memory (first choice memory).2⟩
  | call query next ih =>
    exact ⟨first.1, fun reply => ih reply (first.2 reply)⟩
  | lock next => exact first
  | unlock next => exact first
  | note label next ih => exact ih first

end Beside

end Contract

/-! ## Soundness -/

namespace Contract

variable {system : System I Outside} {C : Contract I Outside View}

/-- What makes a contract hold along every run. -/
structure Upheld (system : System I Outside) (C : Contract I Outside View) : Prop
    extends Persistent system C C.Inv where
  restart : ∀ ⦃memory outside⦄, C.Inv (C.view memory) outside →
    C.Inv (C.view (system.restart memory)) outside
  entries : ∀ ⦃program thread view outside⦄, system.entry program → C.Inv view outside →
    program.secures system C thread false (fun _ inside _ _ => inside = false) view outside

/-- The thread holds the mutex. -/
def inside (world : World I Outside) (thread : Nat) : Bool := decide (world.holder = some thread)

/-- The rest of a thread's code keeps the contract, and will in what others make of the view. -/
def Secured (system : System I Outside) (C : Contract I Outside View) (thread : Nat)
    (inside : Bool) (code : Prog I Unit) (view : View) (outside : Outside) : Prop :=
  Lasting system C thread inside
    (code.secures system C thread inside fun _ inside _ _ => inside = false) view outside

/-- The contract holds in a world: the invariant does, and every thread is secured. -/
structure Holds (system : System I Outside) (C : Contract I Outside View)
    (world : World I Outside) : Prop where
  inv : C.Inv (C.view world.memory) world.outside
  threads : ∀ thread, Secured system C thread (inside world thread) (world.thread thread)
    (C.view world.memory) world.outside

theorem Holds.idle {memory : I.Memory} (inv : C.Inv (C.view memory) outside) :
    C.Holds system (World.idle memory outside) :=
  ⟨inv, fun _ _ _ _ => rfl⟩

variable {world : World I Outside}
variable {after : World I Outside}

theorem Holds.advance (holds : C.Holds system world) {memory : I.Memory} {holder : Option Nat}
    {code : Prog I Unit} (inv : C.Inv (C.view memory) outside)
    (own : Secured system C thread (decide (holder = some thread)) code (C.view memory) outside)
    (turn : ∀ other, other ≠ thread → decide (holder = some other) = inside world other)
    (seen : ∀ other, other ≠ thread →
      C.view memory = C.view world.memory ∧ outside = world.outside ∨
        Interferes system C other (inside world other) (C.view world.memory, world.outside)
          (C.view memory, outside)) :
    C.Holds system ⟨memory, outside, holder, Function.update world.thread thread code⟩ := by
  refine ⟨inv, fun other => ?_⟩
  by_cases isThread : other = thread
  · subst isThread
    simp only [inside, Function.update_self]
    exact own
  · have before := holds.threads other
    simp only [inside, turn other isThread, Function.update_of_ne isThread]
    rcases seen other isThread with ⟨sameView, sameOutside⟩ | step
    · rw [sameView, sameOutside]
      exact before
    · exact before.after step

theorem Holds.outside_of_idle (holds : C.Holds system world)
    (idle : world.thread thread = .ret ()) : inside world thread = false := by
  have isDone := (holds.threads thread).now
  rw [idle] at isDone
  exact isDone

/-- **Every step keeps the contract.** -/
theorem Upheld.holds_step (upheld : Upheld system C) (holds : C.Holds system world)
    {action : Action I} (taken : Step system world action after)
    (given : ∀ thread choice update next, action = .act thread choice →
      world.thread thread = .act update next → C.Given thread update choice world.memory)
    (trust : ∀ thread query reply, action = .call thread query reply →
      C.Trust query reply (C.view world.memory) world.outside) : C.Holds system after := by
  cases taken with
  | @spawn thread program idle entry =>
    refine holds.advance holds.inv ?_ (fun _ _ => rfl) (fun _ _ => .inl ⟨rfl, rfl⟩)
    have isOutside := holds.outside_of_idle idle
    simp only [inside] at isOutside
    rw [isOutside]
    exact ((upheld.stable false).lasting holds.inv).mono
      fun _ _ inv => upheld.entries entry inv
  | @act thread update next choice code admissible =>
    have secured := (holds.threads thread).now
    rw [code] at secured
    obtain ⟨changed, rest⟩ :=
      secured choice world.memory rfl holds.inv admissible
        (given thread choice update next rfl code)
    cases isInside : inside world thread with
    | true =>
      rw [isInside] at changed
      refine holds.advance (upheld.access holds.inv changed holds.inv) rest (fun _ _ => rfl) ?_
      intro other isOther
      have isHolder : world.holder = some thread := of_decide_eq_true isInside
      have isOutside : inside world other = false := by
        simp [inside, isHolder, Ne.symm isOther]
      rw [isOutside]
      exact .inr (.access holds.inv (Ne.symm isOther) changed)
    | false =>
      rw [isInside] at changed
      have same : C.view (update choice world.memory) = C.view world.memory := changed
      exact holds.advance (same ▸ holds.inv) rest (fun _ _ => rfl)
        (fun _ _ => .inl ⟨same, rfl⟩)
  | @call thread query next reply outside code answered =>
    have secured := (holds.threads thread).now
    rw [code] at secured
    obtain ⟨permitted, later⟩ := secured holds.inv
    have trusted := trust thread query reply rfl
    refine holds.advance (upheld.call holds.inv permitted trusted answered holds.inv)
      (later reply outside trusted answered) (fun _ _ => rfl) (fun other isOther => ?_)
    exact .inr (.call holds.inv (Ne.symm isOther) permitted trusted answered)
  | @lock thread next code free =>
    have secured := (holds.threads thread).now
    have isOutside : inside world thread = false := by simp [inside, free]
    rw [code, isOutside] at secured
    refine holds.advance holds.inv ?_ (fun other isOther => ?_) (fun _ _ => .inl ⟨rfl, rfl⟩)
    · rw [decide_eq_true rfl]
      exact secured
    · simp [inside, free, Ne.symm isOther]
  | @unlock thread next code isHolder =>
    have secured := (holds.threads thread).now
    have isInside : inside world thread = true := by simp [inside, isHolder]
    rw [code, isInside] at secured
    refine holds.advance holds.inv ?_ (fun other isOther => ?_) (fun _ _ => .inl ⟨rfl, rfl⟩)
    · rw [decide_eq_false nofun]
      exact secured
    · simp [inside, isHolder, Ne.symm isOther]
  | @note thread label next code =>
    have secured := (holds.threads thread).now
    rw [code] at secured
    exact holds.advance holds.inv secured (fun _ _ => rfl) (fun _ _ => .inl ⟨rfl, rfl⟩)
  | drift drifted =>
    exact ⟨upheld.drift holds.inv drifted holds.inv, fun thread =>
      (holds.threads thread).after (.drift holds.inv drifted)⟩
  | crash => exact .idle (upheld.restart holds.inv)

theorem Holds.permitted (holds : C.Holds system world) {reply : I.Reply query}
    (taken : Step system world (.call thread query reply) after) :
    C.Permit thread query (C.view world.memory) world.outside := by
  cases taken with
  | call code answered =>
    have secured := (holds.threads thread).now
    rw [code] at secured
    exact (secured holds.inv).1

/-- What one step does to the guarded part: nothing, what the contract allows, or a restart. -/
theorem Holds.change_of_step (holds : C.Holds system world) {action : Action I}
    (taken : Step system world action after)
    (given : ∀ thread choice update next, action = .act thread choice →
      world.thread thread = .act update next → C.Given thread update choice world.memory) :
    C.view after.memory = C.view world.memory ∨
      (∃ thread, C.Change thread (C.view world.memory) (C.view after.memory) world.outside) ∨
      after.memory = system.restart world.memory := by
  cases taken with
  | @act thread update next choice code admissible =>
    have secured := (holds.threads thread).now
    rw [code] at secured
    have changed := (secured choice world.memory rfl holds.inv admissible
      (given thread choice update next rfl code)).1
    cases isInside : inside world thread with
    | true =>
      rw [isInside] at changed
      exact .inr (.inl ⟨thread, changed⟩)
    | false =>
      rw [isInside] at changed
      exact .inl changed
  | spawn idle entry => exact .inl rfl
  | call code answered => exact .inl rfl
  | lock code free => exact .inl rfl
  | unlock code holds => exact .inl rfl
  | note code => exact .inl rfl
  | drift drifted => exact .inl rfl
  | crash => exact .inr (.inr rfl)

end Contract

end Monitor
