import Brezel.Service.Fence.Discipline

/-!
# Rules for the accesses of the controller

A rule for each access and each outside call that the code is built from, and for whole sections.
The verification of the code uses these rules only; it does not look into the memory.

A section starts with a sandbox in view: it is fenced by another thread, or nobody works on it
(`Looking`).  It ends when what it leaves behind is in order (`Leaves`): the thread then has
nothing, or owns the sandbox, or is its guest.
-/

namespace Brezel.Service

open Domain Store Node Monitor

variable {inner : Inner} {known : Option (Option RouteView)} {route : Option RouteView}
  {after before row : Sandbox} {guests : List GuestEntry} {operationID : String}
  {call : BackendCall}

/-- What a thread of the controller knows. -/
abbrev View := Token Key Inner (Option RouteView)

variable {at_ : Option RouteView → View}

namespace Setting

variable {Outside : Type} (setting : Setting Outside) (thread : Nat)

/-- The code respects the discipline and ends as the postcondition says. -/
abbrev Verifies {α : Type} (code : Code α) (token : View) (post : α → View → Prop) : Prop :=
  code.wp setting.system setting.discipline thread token post

variable {setting thread} {α β : Type} {token : View} {key : Key}
variable {post : α → View → Prop}

/-- The rule of sequencing, for `do` blocks. -/
theorem verifies_bind {code : Code α} {continuation : α → Code β} {middle : α → View → Prop}
    {post : β → View → Prop} (first : setting.Verifies thread code token middle)
    (second : ∀ value token, middle value token →
      setting.Verifies thread (continuation value) token post) :
    setting.Verifies thread (code >>= continuation) token post :=
  Prog.wp_seq first second

/-! ## Accesses that change no sandbox -/

/-- The state in which an access of the thread can happen. -/
def Seen (setting : Setting Outside) (thread : Nat) (token : View) (choice : Choice)
    (memory : Memory) : Prop :=
  ∃ outside, setting.discipline.Agrees thread memory outside token ∧
    setting.discipline.Healthy memory outside ∧ Admissible setting.deployment thread choice memory

theorem access_keeps {body : Choice → Memory → α × Memory}
    (same : ∀ choice memory key, (body choice memory).2.inner key = memory.inner key) :
    setting.Verifies thread (access body) token fun value token' => token' = token ∧
      ∃ choice memory, setting.Seen thread token choice memory ∧
        value = (body choice memory).1 := by
  intro choice memory outside agrees healthy _ admissible
  refine ⟨token, token, .inl rfl, ?_,
    rfl, choice, memory, ⟨outside, agrees, healthy, admissible⟩, rfl⟩
  cases token with
  | free => exact ⟨rfl, fun key => same choice memory key⟩
  | own key inner outer => exact ⟨rfl, fun key => same choice memory key⟩
  | shared key => exact ⟨rfl, fun key => same choice memory key⟩
  | locked key inner outer =>
    have unchanged : (body choice memory).2.inner key = inner :=
      (same choice memory key).trans agrees.1
    refine ⟨?_, fun other _ => same choice memory other, .inl unchanged⟩
    rw [← unchanged]
    rfl

theorem look_sees {body : Choice → Memory → α} :
    setting.Verifies thread (look body) token fun value token' => token' = token ∧
      ∃ choice memory, setting.Seen thread token choice memory ∧ value = body choice memory :=
  access_keeps fun _ _ _ => rfl

/-- A read whose result does not matter. -/
theorem look_keeps {body : Choice → Memory → α} :
    setting.Verifies thread (look body) token fun _ token' => token' = token :=
  Prog.wp_mono look_sees fun _ _ seen => seen.1

theorem verifies_look {body : Choice → Memory → α} {continuation : α → Code β}
    {post : β → View → Prop}
    (rest : ∀ value, setting.Verifies thread (continuation value) token post) :
    setting.Verifies thread (look body >>= continuation) token post := by
  refine verifies_bind look_keeps ?_
  rintro value _ rfl
  exact rest value

/-- A transaction that leaves the rows alone. -/
theorem update_keeps {body : Choice → State → Except ServiceError (α × State)}
    (keeps : ∀ choice state value next, body choice state = .ok (value, next) →
      next.row = state.row) :
    setting.Verifies thread (update body) token fun _ token' => token' = token := by
  refine Prog.wp_mono (access_keeps fun choice memory key => ?_) fun _ _ seen => seen.1
  generalize done : transact choice.fault (body choice) memory.state = outcome
  obtain ⟨result, after⟩ := outcome
  rcases transact_cases done with ⟨-, rfl⟩ | ⟨value, computed, -, -⟩
  · rfl
  · unfold Memory.inner
    rw [keeps choice memory.state value after computed]

theorem updateRows_keeps {body : Choice → State → Except ServiceError (α × State)}
    (keeps : ∀ choice state value next, body choice state = .ok (value, next) →
      next.row = state.row) :
    setting.Verifies thread (updateRows body) token fun _ token' => token' = token :=
  update_keeps fun choice state value next computed =>
    keeps choice state value next (guarding_ok computed).1

/-! ## Reading a sandbox -/

/-- A section that reads the row of its sandbox. -/
theorem verifies_getSandbox {continuation : Except ServiceError Sandbox → Code β}
    {post : β → View → Prop} (absent : ∀ error,
      setting.Verifies thread (continuation (.error error)) (.locked key inner known) post)
    (present : ∀ sandbox, inner.row = some sandbox →
      setting.Verifies thread (continuation (.ok sandbox)) (.locked key inner known) post) :
    setting.Verifies thread (getSandbox key >>= continuation) (.locked key inner known) post := by
  refine verifies_bind look_sees ?_
  rintro result _ ⟨rfl, choice, memory, ⟨outside, agrees, -⟩, rfl⟩
  obtain rfl : memory.inner key = inner := agrees.1
  split
  · exact absent _
  split
  · exact absent _
  · next found => exact present _ found

/-- A section that stops if guests are at work. -/
theorem verifies_unlessGuests {stop next : Code β} {post : β → View → Prop}
    (busy : inner.guests ≠ [] → setting.Verifies thread stop (.locked key inner known) post)
    (idle : inner.guests = [] → setting.Verifies thread next (.locked key inner known) post) :
    setting.Verifies thread
      (hasActiveGuestOperationsLocked key >>= fun isBusy => if isBusy = true then stop else next)
      (.locked key inner known) post := by
  refine verifies_bind look_sees ?_
  rintro _ _ ⟨rfl, choice, memory, ⟨outside, agrees, -⟩, rfl⟩
  obtain rfl : memory.inner key = inner := agrees.1
  split
  · next isBusy => exact busy (List.length_pos_iff.mp (of_decide_eq_true isBusy))
  · next isIdle => exact idle (by simpa [Memory.inner] using isIdle)

/-! ## Changing a sandbox -/

/-- A change of the fence, or a release of guest operations. -/
theorem Guarantee.same {before after : Inner} (row : after.row = before.row)
    (guests : ∀ entry ∈ after.guests, entry ∈ before.guests) :
    setting.Guarantee before route after where
  row := .inl row
  admission entry member isNew := (isNew (guests entry member)).elim

/-- A change that an access may make to the sandbox in view. -/
structure Change (setting : Setting Outside) (thread : Nat) (key : Key) (before : Inner)
    (route : Option RouteView) (after : Inner) : Prop where
  owner : after.inFlight = [] ∨ after.inFlight = [thread]
  guarantee : setting.Guarantee before route after
  loyal : ∀ entry ∈ before.guests, entry.2 ≠ thread → entry ∈ after.guests
  sound : setting.Sound key after route

theorem access_changes {body : Choice → Memory → α × Memory}
    (changes : ∀ choice memory, memory.inner key = inner → setting.Sound key inner route →
      Admissible setting.deployment thread choice memory →
      ∃ after, (body choice memory).2.inner key = after ∧
        (∀ other, other ≠ key → (body choice memory).2.inner other = memory.inner other) ∧
        (after = inner ∨ setting.Change thread key inner route after) ∧
        post (body choice memory).1 (.locked key after (some route))) :
    setting.Verifies thread (access body) (.locked key inner (some route)) post := by
  intro choice memory outside agrees healthy _ admissible
  have isInner : memory.inner key = inner := agrees.1
  have isOuter : setting.surroundings.route outside key = route := agrees.2 route rfl
  have sound : setting.Sound key (memory.inner key) (setting.surroundings.route outside key) :=
    healthy.1 key
  rw [isInner, isOuter] at sound
  obtain ⟨after, rfl, frame, change, holds⟩ := changes choice memory isInner sound admissible
  refine ⟨_, _, .inl rfl, ⟨rfl, frame, ?_⟩, holds⟩
  rcases change with same | ⟨owner, guaranteed, loyal, sound'⟩
  · exact .inl same
  · refine .inr ⟨route, rfl, owner.imp (congrArg List.head?) (congrArg List.head?), guaranteed,
      ?_, sound'⟩
    rintro other different ⟨entry, member, isOther⟩
    exact ⟨entry, loyal entry member (isOther ▸ different), isOther⟩

theorem setFence_takes :
    setting.Verifies thread (setFence key) (.locked key (.unfenced row []) (some route))
      fun _ token' => token' = .locked key (.fencedBy thread row) (some route) := by
  refine access_changes fun choice memory isInner sound admissible =>
    ⟨.fencedBy thread row, ?_, fun other different => ?_, .inr ⟨.inr rfl, ?_, ?_, ?_⟩, rfl⟩
  · have isRow := congrArg Inner.row isInner
    have isFlight := congrArg Inner.inFlight isInner
    have isGuests := congrArg Inner.guests isInner
    simp only [Memory.inner, Inner.unfenced] at isRow isFlight isGuests
    simp [Memory.inner, Inner.fencedBy, isRow, isFlight, isGuests, admissible.1]
  · simp [Memory.inner, different]
  · exact .same rfl fun _ member => member
  · exact fun _ member _ => member
  · exact ⟨.inr ⟨thread, rfl, rfl, rfl⟩, (by rintro ⟨⟩), sound.present⟩

theorem clearFence_drops :
    setting.Verifies thread (clearFence key) (.locked key (.fencedBy thread row) (some route))
      fun _ token' => token' = .locked key (.unfenced row []) (some route) := by
  refine access_changes fun choice memory isInner sound admissible =>
    ⟨.unfenced row [], ?_, fun other different => ?_, .inr ⟨.inl rfl, ?_, ?_, ?_⟩, rfl⟩
  · have isRow := congrArg Inner.row isInner
    have isFlight := congrArg Inner.inFlight isInner
    have isGuests := congrArg Inner.guests isInner
    simp only [Memory.inner, Inner.fencedBy] at isRow isFlight isGuests
    simp [Memory.inner, Inner.unfenced, isRow, isFlight, isGuests, admissible.1]
  · simp [Memory.inner, different]
  · exact .same rfl fun _ member => member
  · exact fun _ member _ => member
  · exact ⟨.inl ⟨rfl, rfl⟩, (by rintro ⟨⟩), sound.present⟩

/-! ## Writing rows -/

/-- The row may be written in place of the one before. -/
structure MayWrite (setting : Setting Outside) (key : Key) (before : Sandbox)
    (route : Option RouteView) (after : Sandbox) : Prop where
  step : RowStep before after
  keyed : sandboxKey after = key
  target : TargetSound after
  assigned : setting.Tracked → setting.Assigned after ∨ Unassigned after
  drained : setting.Drained after route

/-- The outcome of a write: it fails and changes nothing, or the row is replaced. -/
def Written (setting : Setting Outside) (key : Key) (before : Sandbox) (guests : List GuestEntry)
    (route : Option RouteView) (after : Sandbox) (failed : Prop) (token : View) : Prop :=
  failed ∧ token = .locked key (.unfenced before guests) (some route) ∨
    setting.MayWrite key before route after ∧ setting.RowSound key after ∧
      token = .locked key (.unfenced after guests) (some route)

theorem safe_of_valid {state : State} {sandbox : Sandbox} (isValid : state.valid = true)
    (present : state.row (sandboxKey sandbox) = some sandbox) :
    isSafeName sandbox.projectID = true := by
  have accepted := State.valid_row isValid present
  simp only [State.validSandbox, State.scopedIdentity, Bool.and_eq_true] at accepted
  exact accepted.1.1.1.1.1

theorem not_safe_blank : isSafeName "" = false := by decide

theorem updateRows_writes {body : Choice → State → Except ServiceError (α × State)}
    (writes : ∀ choice state value next, body choice state = .ok (value, next) →
      next.row = (state.putSandbox after).row)
    (may : after.projectID = "" ∨ setting.MayWrite key before route after) :
    setting.Verifies thread (updateRows body) (.locked key (.unfenced before guests) (some route))
      fun result token' => setting.Written key before guests route after
        (∃ error, result = .error error) token' := by
  refine access_changes fun choice memory isInner sound admissible => ?_
  dsimp only
  generalize done : transact choice.fault (guarding choice.store (body choice)) memory.state =
    outcome
  obtain ⟨result, next⟩ := outcome
  rcases transact_cases done with ⟨⟨error, rfl⟩, rfl⟩ | ⟨value, computed, isValid, -⟩
  · exact ⟨_, isInner, fun other _ => rfl, .inl rfl, .inl ⟨⟨_, rfl⟩, rfl⟩⟩
  have rows := writes choice memory.state value next (guarding_ok computed).1
  have present : next.row (sandboxKey after) = some after := by
    rw [rows, State.row_putSandbox, if_pos rfl]
  have safe := safe_of_valid isValid present
  have may' : setting.MayWrite key before route after := by
    rcases may with blank | may
    · rw [blank, not_safe_blank] at safe
      cases safe
    · exact may
  have rowSound : setting.RowSound key after := ⟨may'.keyed, safe, may'.target, may'.assigned⟩
  rw [may'.keyed] at present
  refine ⟨.unfenced after guests, ?_, fun other different => ?_, .inr ⟨.inl rfl, ?_, ?_, ?_⟩,
    .inr ⟨may', rowSound, rfl⟩⟩
  · have isFenced := congrArg Inner.fenced isInner
    have isFlight := congrArg Inner.inFlight isInner
    have isGuests := congrArg Inner.guests isInner
    simp only [Memory.inner, Inner.unfenced] at isFenced isFlight isGuests ⊢
    rw [present, isFenced, isFlight, isGuests]
  · unfold Memory.inner
    rw [rows, State.row_putSandbox, if_neg (may'.keyed ▸ different)]
  · exact ⟨.inr ⟨rfl, rfl, may'.step⟩, fun entry member isNew => (isNew member).elim⟩
  · exact fun _ member _ => member
  · refine ⟨.inl ⟨rfl, rfl⟩, (by rintro ⟨⟩), ?_⟩
    rintro sandbox ⟨⟩
    exact ⟨rowSound, may'.drained⟩

/-- What is known of a row that nobody works on. -/
structure Good (setting : Setting Outside) (key : Key) (sandbox : Sandbox)
    (route : Option RouteView) : Prop extends setting.RowSound key sandbox where
  drained : setting.Drained sandbox route
  serving : setting.Serving sandbox route

/-- The records differ at most in what activity changes. -/
def Retouched (before after : Sandbox) : Prop :=
  ∃ updatedAt revision lastActiveAt standbyEligibleAt, after = { before with
    updatedAt := updatedAt, revision := revision, lastActiveAt := lastActiveAt
    standbyEligibleAt := standbyEligibleAt }

theorem Retouched.refl (sandbox : Sandbox) : Retouched sandbox sandbox := ⟨_, _, _, _, rfl⟩

theorem Retouched.advance (sandbox : Sandbox) (at_ : Time) :
    Retouched sandbox (advanceSandboxActivity sandbox at_) := by
  unfold advanceSandboxActivity
  split
  · exact .refl sandbox
  · exact ⟨_, _, _, _, rfl⟩

theorem Good.retouched (good : setting.Good key before route) (retouched : Retouched before after) :
    setting.Good key after route := by
  obtain ⟨_, _, _, _, rfl⟩ := retouched
  exact
    { keyed := good.keyed
      safe := good.safe
      target := good.target
      assigned := good.assigned
      drained := good.drained
      serving := fun ready isRunning =>
        ⟨(good.serving ready isRunning).assigned, (good.serving ready isRunning).route⟩ }

theorem activityRows_writes {state next : State} {value : Sandbox} {at_ : Time}
    (isRow : state.row key = some row) (computed : activityRows key at_ state = .ok (value, next)) :
    Retouched row value ∧ (next = state ∧ value = row ∨
      row.state.terminal = false ∧ next = state.putSandbox value) := by
  unfold activityRows at computed
  simp only [isRow] at computed
  split at computed
  · cases computed
    exact ⟨.refl _, .inl ⟨rfl, rfl⟩⟩
  · next active =>
    cases computed
    refine ⟨.advance row at_, .inr ⟨?_, rfl⟩⟩
    cases isState : row.state with
    | running | standby => rfl
    | _ => exact (active ⟨by rw [isState]; nofun, by rw [isState]; nofun⟩).elim

theorem Good.change (good : setting.Good key before route) (alive : before.state.terminal = false)
    (retouched : Retouched before after) :
    setting.Change thread key (.unfenced before guests) route (.unfenced after guests) where
  owner := .inl rfl
  guarantee := by
    refine ⟨.inr ⟨rfl, rfl, alive, .inl ?_⟩, fun entry member isNew => (isNew member).elim⟩
    obtain ⟨_, _, _, _, rfl⟩ := retouched
    rfl
  loyal _ member _ := member
  sound := by
    refine ⟨.inl ⟨rfl, rfl⟩, nofun, ?_⟩
    rintro sandbox ⟨⟩
    have good' := good.retouched retouched
    exact ⟨good'.toRowSound, good'.drained⟩

theorem recordActivityLocked_retouches {at_ : Time} (good : setting.Good key row route) :
    setting.Verifies thread (recordActivityLocked key at_)
      (.locked key (.unfenced row guests) (some route)) fun result token' =>
        ∃ row', token' = .locked key (.unfenced row' guests) (some route) ∧
          Retouched row row' ∧ ∀ sandbox, result = .ok sandbox → sandbox = row' := by
  refine access_changes fun choice memory isInner sound admissible => ?_
  have isRow : memory.state.row key = some row := congrArg Inner.row isInner
  generalize done : transact choice.fault (activityRows key at_) memory.state = outcome
  obtain ⟨result, next⟩ := outcome
  rcases transact_cases done with ⟨⟨error, rfl⟩, rfl⟩ | ⟨value, computed, isValid, reported⟩
  · refine ⟨_, isInner, fun other _ => rfl, .inl rfl, row, rfl, .refl row, ?_⟩
    rintro sandbox ⟨⟩
  obtain ⟨retouched, written⟩ := activityRows_writes isRow computed
  have keyed := (good.retouched retouched).keyed
  have rows : ∀ other, next.row other =
      if other = key then some value else memory.state.row other := by
    intro other
    rcases written with ⟨rfl, rfl⟩ | ⟨-, rfl⟩
    · split
      · next same => rw [same, isRow]
      · rfl
    · rw [State.row_putSandbox, keyed]
  have inners : ∀ other, ({ memory.inner other with row := next.row other } : Inner) =
      if other = key then .unfenced value guests else memory.inner other := by
    intro other
    rw [rows other]
    split
    · next same =>
      rw [same, isInner]
      rfl
    · rfl
  have change : Inner.unfenced value guests = .unfenced row guests ∨
      setting.Change thread key (.unfenced row guests) route (.unfenced value guests) := by
    rcases written with ⟨-, rfl⟩ | ⟨alive, -⟩
    · exact .inl rfl
    · exact .inr (good.change alive retouched)
  rcases reported with rfl | rfl
  · refine ⟨.unfenced value guests, (inners key).trans (if_pos rfl),
      fun other different => (inners other).trans (if_neg different), change, value, rfl,
      retouched, ?_⟩
    rintro sandbox ⟨⟩
    rfl
  · refine ⟨.unfenced value guests, (inners key).trans (if_pos rfl),
      fun other different => (inners other).trans (if_neg different), change, value, rfl,
      retouched, ?_⟩
    rintro sandbox ⟨⟩

/-! ## Guests -/

theorem enterGuest_admits (admits : admitsGuests row = true)
    (isReady : setting.ready → setting.Held row route .ready) :
    setting.Verifies thread (enterGuest key operationID)
      (.locked key (.unfenced row guests) (some route)) fun _ token' =>
        token' = .locked key (.unfenced row ((operationID, thread) :: guests)) (some route) := by
  refine access_changes fun choice memory isInner sound admissible =>
    ⟨.unfenced row ((operationID, thread) :: guests), ?_, fun other different => ?_,
      .inr ⟨.inl rfl, ?_, ?_, ?_⟩, rfl⟩
  · have isRow := congrArg Inner.row isInner
    have isFenced := congrArg Inner.fenced isInner
    have isFlight := congrArg Inner.inFlight isInner
    have isGuests := congrArg Inner.guests isInner
    simp only [Memory.inner, Inner.unfenced] at isRow isFenced isFlight isGuests
    simp only [Memory.inner, Inner.unfenced, Function.update_self]
    rw [isRow, isFenced, isFlight, isGuests, admissible.1]
  · simp [Memory.inner, different]
  · exact ⟨.inl rfl, fun entry _ _ => ⟨row, rfl, admits, isReady⟩⟩
  · exact fun entry member _ => List.mem_cons_of_mem _ member
  · exact ⟨.inl ⟨rfl, rfl⟩, (by rintro ⟨⟩), sound.present⟩

theorem leaveGuest_releases :
    setting.Verifies thread (leaveGuest key operationID)
      (.locked key (.unfenced row guests) (some route)) fun _ token' =>
        token' = .locked key (.unfenced row (guests.erase (operationID, thread))) (some route) := by
  refine access_changes fun choice memory isInner sound admissible =>
    ⟨.unfenced row (guests.erase (operationID, thread)), ?_, fun other different => ?_,
      .inr ⟨.inl rfl, ?_, ?_, ?_⟩, rfl⟩
  · have isRow := congrArg Inner.row isInner
    have isFenced := congrArg Inner.fenced isInner
    have isFlight := congrArg Inner.inFlight isInner
    have isGuests := congrArg Inner.guests isInner
    simp only [Memory.inner, Inner.unfenced] at isRow isFenced isFlight isGuests
    simp only [Memory.inner, Inner.unfenced, Function.update_self]
    rw [isRow, isFenced, isFlight, isGuests, admissible.1]
  · simp [Memory.inner, different]
  · exact .same rfl fun _ member => List.mem_of_mem_erase member
  · intro entry member foreign
    refine (List.mem_erase_of_ne ?_).mpr member
    rintro rfl
    exact foreign rfl
  · exact ⟨.inl ⟨rfl, rfl⟩, (by rintro ⟨⟩), sound.present⟩

/-! ## Outside calls -/

/-- The places where a thread knows a sandbox completely, as functions of its route. -/
inductive Site (key : Key) (inner : Inner) : (Option RouteView → View) → Prop
  | own : Site key inner (.own key inner)
  | locked : Site key inner fun route => .locked key inner (some route)

theorem callMove_same {memory : Memory} {outside outside' : Outside}
    (undisturbed : Undisturbed setting.surroundings.route setting.surroundings.ambient outside
      outside')
    (agrees : setting.discipline.Agrees thread memory outside token)
    (healthy : setting.discipline.Healthy memory outside) :
    setting.discipline.CallMove outside outside' token token := by
  have same : ∀ key, setting.discipline.outer outside' key = setting.discipline.outer outside key :=
    undisturbed.routes
  unfold Discipline.CallMove
  split
  · exact ⟨rfl, same⟩
  · next key inner route isFocus =>
    have sound := healthy.1 key
    rcases Token.eq_of_focus isFocus with rfl | rfl
    · rw [agrees.1] at sound
      rw [same key]
      exact ⟨congrArg (Token.own key inner) agrees.2.symm, fun other _ => same other, sound⟩
    · rw [agrees.1] at sound
      rw [same key]
      exact ⟨congrArg (Token.locked key inner <| some ·) (agrees.2 route rfl).symm,
        fun other _ => same other, sound⟩

theorem backendCall_keeps
    (allowed : ∀ memory outside, setting.discipline.Agrees thread memory outside token →
      setting.discipline.Healthy memory outside → setting.MayCall (.backend key call)
        (memory.inner key) (setting.surroundings.route outside key)) :
    setting.Verifies thread (backendCall key call) token fun _ token' => token' = token := by
  refine ⟨allowed, ?_⟩
  intro memory outside reply outside' agrees healthy answered
  exact ⟨token, callMove_same (setting.surroundings.backend_keeps answered) agrees healthy, rfl⟩

theorem backendCall_harmless
    (harmless : ∀ inner route, setting.MayCall (.backend key call) inner route) :
    setting.Verifies thread (backendCall key call) token fun _ token' => token' = token :=
  backendCall_keeps fun _ _ _ _ => harmless _ _

theorem backendCall_quiet (site : Site key inner at_) (quiet : setting.Quiet inner route)
    (asks : ∀ inner route, setting.Quiet inner route →
      setting.MayCall (.backend key call) inner route) :
    setting.Verifies thread (backendCall key call) (at_ route) fun _ token' =>
      token' = at_ route := by
  refine backendCall_keeps fun memory outside agrees _ => asks _ _ ?_
  have isInner : memory.inner key = inner := by cases site <;> exact agrees.1
  have isRoute : setting.surroundings.route outside key = route := by
    cases site with
    | own => exact agrees.2
    | locked => exact agrees.2 route rfl
  rw [isInner, isRoute]
  exact quiet

/-- Nothing is known under a key without a project, so a call for it finds nothing to disturb. -/
theorem backendCall_stray {id : String} (asks : ∀ inner route, setting.Quiet inner route →
      setting.MayCall (.backend ("", id) call) inner route) :
    setting.Verifies thread (backendCall ("", id) call) token fun _ token' => token' = token := by
  refine backendCall_keeps fun memory outside _ healthy => asks _ _ fun _ => ?_
  have sound : setting.Sound ("", id) (memory.inner ("", id))
      (setting.surroundings.route outside ("", id)) := healthy.1 ("", id)
  cases isRow : (memory.inner ("", id)).row with
  | none =>
    obtain ⟨-, noGuests, noRoute⟩ := sound.absent isRow
    refine ⟨noGuests, fun tracked view isView => ?_⟩
    rw [noRoute tracked] at isView
    cases isView
  | some sandbox =>
    have rowSound := (sound.present sandbox isRow).1
    have blank : sandbox.projectID = "" := congrArg Prod.fst rowSound.keyed
    have safe := rowSound.safe
    rw [blank, not_safe_blank] at safe
    cases safe

/-- What the answer to a route call says of the route. -/
structure Answers (setting : Setting Outside) (key : Key) (request : RouteRequest)
    (before : Option RouteView) (reply : Except RouteAdminError RouteReply)
    (after : Option RouteView) : Prop where
  said : setting.Tracked → ∀ result, reply = .ok (.route result) →
    checkReply setting.surroundings.nodeID request (.route result) = true ∧
      (result.route.projectID = key.1 → result.route.sandboxID = key.2 →
        after = some (viewOf result.route))
  removed : setting.Tracked → ∀ result, reply = .ok (.removed result) → after = none
  resolved : ∀ routeID, request = .resolve routeID → after = before
  absent : setting.Tracked → ∀ routeID error, request = .resolve routeID →
    reply = .error error → error.isNotFound = true → before = none

/-- The sandbox has a row that is not terminal, so its route is free to change. -/
def Live (inner : Inner) : Prop :=
  ∃ row, inner.row = some row ∧ row.state.terminal = false

theorem Sound.reroute {route' : Option RouteView} (sound : setting.Sound key inner route)
    (live : Live inner) :
    setting.Sound key inner route' where
  fence := sound.fence
  absent isNone := by
    obtain ⟨row, isRow, -⟩ := live
    rw [isRow] at isNone
    cases isNone
  present sandbox isSandbox := by
    obtain ⟨row, isRow, alive⟩ := live
    cases isRow.symm.trans isSandbox
    refine ⟨(sound.present sandbox isRow).1, fun _ isTerminal => ?_⟩
    rw [alive] at isTerminal
    cases isTerminal

theorem routeCall_answers {request : RouteRequest} (site : Site key inner at_) (live : Live inner)
    (about : setting.surroundings.lawful → About key request) :
    setting.Verifies thread (routeCall key request) (at_ route) fun reply token' =>
      ∃ route', token' = at_ route' ∧ setting.Answers key request route reply route' := by
  refine ⟨fun _ _ _ _ => about, ?_⟩
  intro memory outside reply outside' agrees healthy answered
  have isInner : memory.inner key = inner := by cases site <;> exact agrees.1
  have isRoute : setting.surroundings.route outside key = route := by
    cases site with
    | own => exact agrees.2
    | locked => exact agrees.2 route rfl
  have sound : setting.Sound key inner route := by
    have soundHere : setting.Sound key (memory.inner key)
      (setting.surroundings.route outside key) := healthy.1 key
    rwa [isInner, isRoute] at soundHere
  have frame : ∀ other, other ≠ key →
      setting.surroundings.route outside' other = setting.surroundings.route outside other := by
    by_cases lawful : setting.surroundings.lawful
    · exact (setting.surroundings.route_frame lawful healthy.2 (about lawful) answered).2
    · exact fun other _ => (setting.surroundings.unlawful_frame lawful answered).2 other
  have moved : setting.discipline.CallMove outside outside' (at_ route)
      (at_ (setting.surroundings.route outside' key)) := by
    cases site <;> exact ⟨rfl, frame, sound.reroute live⟩
  refine ⟨_, moved, _, rfl, ⟨?_, ?_, ?_, ?_⟩⟩
  · rintro tracked result rfl
    exact setting.surroundings.answered tracked.1 (about tracked.1) answered
  · rintro tracked result rfl
    exact setting.surroundings.removed tracked.1 (about tracked.1) answered
  · rintro routeID rfl
    rw [(setting.surroundings.resolve_keeps answered).routes]
    exact isRoute
  · rintro tracked routeID error rfl rfl notFound
    rw [← isRoute]
    exact setting.surroundings.absent tracked.1 (about tracked.1) answered notFound

/-- A lookup changes nothing, whatever the thread knows. -/
theorem routeCall_resolves {routeID : String}
    (about : setting.surroundings.lawful → About key (.resolve routeID)) :
    setting.Verifies thread (routeCall key (.resolve routeID)) token fun reply token' =>
      token' = token ∧ (setting.Tracked → ∀ result, reply = .ok (.route result) →
        checkReply setting.surroundings.nodeID (.resolve routeID) (.route result) = true) := by
  refine ⟨fun _ _ _ _ => about, ?_⟩
  intro memory outside reply outside' agrees healthy answered
  refine ⟨token, callMove_same (setting.surroundings.resolve_keeps answered) agrees healthy, rfl,
    ?_⟩
  rintro tracked result rfl
  exact (setting.surroundings.answered tracked.1 (about tracked.1) answered).1

theorem guestCall_keeps :
    setting.Verifies thread (guestCall key operationID) token fun _ token' => token' = token := by
  refine ⟨fun _ _ _ _ => trivial, ?_⟩
  intro memory outside reply outside' agrees healthy answered
  exact ⟨token, callMove_same (setting.surroundings.guest_keeps answered) agrees healthy, rfl⟩

theorem diverge_never : setting.Verifies thread diverge token post :=
  ⟨fun _ _ _ _ => trivial, fun _ _ reply => nomatch reply⟩

/-! ## Notes and sections -/

theorem note_assumes {label : Label} (site : Site key inner at_) (here : place label = key) :
    setting.Verifies thread (note label) (at_ route) fun _ token' =>
      token' = at_ route ∧ setting.Assume label inner route := by
  intro assumed
  refine ⟨rfl, assumed key inner route ?_ here⟩
  cases site <;> rfl

/-- What a thread sees when it enters a section: a sandbox that another thread has fenced, or one
that nobody works on. -/
inductive Looking (setting : Setting Outside) (thread : Nat) (key : Key) (inner : Inner) :
    Option (Option RouteView) → Prop
  | foreign {other : Nat} (different : other ≠ thread) (inFlight : inner.inFlight = [other])
      (fenced : inner.fenced = true) (noGuests : inner.guests = []) :
      Looking setting thread key inner none
  | idle {route : Option RouteView} (inFlight : inner.inFlight = []) (fenced : inner.fenced = false)
      (sound : setting.Sound key inner route)
      (settled : ∀ sandbox, inner.row = some sandbox → setting.Serving sandbox route) :
      Looking setting thread key inner (some route)

/-- What a thread may leave behind at the end of a section, and what it has afterwards. -/
inductive Left (setting : Setting Outside) (thread : Nat) : View → View → Prop
  | foreign {key : Key} {inner : Inner} {other : Nat} (different : other ≠ thread)
      (inFlight : inner.inFlight = [other]) :
      Left setting thread (.locked key inner none) .free
  | idle {key : Key} {inner : Inner} {route : Option RouteView} (inFlight : inner.inFlight = [])
      (settled : ∀ sandbox, inner.row = some sandbox → setting.Serving sandbox route) :
      Left setting thread (.locked key inner (some route)) .free
  | guest {key : Key} {inner : Inner} {route : Option RouteView} (inFlight : inner.inFlight = [])
      (settled : ∀ sandbox, inner.row = some sandbox → setting.Serving sandbox route)
      (admitted : ∃ entry ∈ inner.guests, entry.2 = thread) :
      Left setting thread (.locked key inner (some route)) (.shared key)
  | kept {key : Key} {inner : Inner} {route : Option RouteView}
      (inFlight : inner.inFlight = [thread]) :
      Left setting thread (.locked key inner (some route)) (.own key inner route)

/-- The code is run by a thread that knows nothing before and after. -/
abbrev Frees (setting : Setting Outside) (thread : Nat) (code : Code α) : Prop :=
  setting.Verifies thread code .free fun _ token => token = .free

/-- The section can end after the code. -/
abbrev Closes (setting : Setting Outside) (thread : Nat) (code : Code α) (token : View) : Prop :=
  setting.Verifies thread code token fun _ token' => setting.Left thread token' .free

/-- The section can end here, and the postcondition holds afterwards. -/
def Leaves (setting : Setting Outside) (thread : Nat) (post : α → View → Prop) (value : α)
    (token : View) : Prop :=
  ∃ token', setting.Left thread token token' ∧ post value token'

theorem Looking.left (looking : setting.Looking thread key inner known) :
    setting.Left thread (.locked key inner known) .free := by
  cases looking with
  | foreign different inFlight => exact .foreign different inFlight
  | idle inFlight _ _ settled => exact .idle inFlight settled

/-- A section that finds the row and no fence knows the sandbox completely. -/
theorem Looking.unfenced (looking : setting.Looking thread key inner known)
    (isRow : inner.row = some row) (clear : inner.fenced = false) :
    ∃ route guests, inner = .unfenced row guests ∧ known = some route ∧
      setting.Good key row route := by
  cases looking with
  | foreign _ _ fenced =>
    rw [clear] at fenced
    cases fenced
  | @idle route inFlight _ sound settled =>
    refine ⟨route, inner.guests, ?_, rfl, ?_⟩
    · cases inner
      simp_all [Inner.unfenced]
    · obtain ⟨rowSound, drained⟩ := sound.present row isRow
      exact { toRowSound := rowSound, drained := drained, serving := settled row isRow }

/-- A section that stops at a fence, with the row it has read. -/
theorem Looking.unlessFenced {stop next : Code β} {post : β → View → Prop}
    (looking : setting.Looking thread key inner known) (isRow : inner.row = some row)
    (busy : setting.Verifies thread stop (.locked key inner known) post)
    (clear : ∀ route guests, inner = .unfenced row guests → known = some route →
      setting.Good key row route →
      setting.Verifies thread next (.locked key inner known) post) :
    setting.Verifies thread (fenced key >>= fun isFenced => if isFenced = true then stop else next)
      (.locked key inner known) post := by
  refine verifies_bind look_sees ?_
  rintro _ _ ⟨rfl, choice, memory, ⟨outside, agrees, -⟩, rfl⟩
  obtain rfl : memory.inner key = inner := agrees.1
  split
  · exact busy
  · next notFenced =>
    obtain ⟨route, guests, isInner, isKnown, good⟩ :=
      looking.unfenced isRow (Bool.eq_false_of_not_eq_true notFenced)
    exact clear route guests isInner isKnown good

/-- An access that turns to another sandbox, which nobody works on. -/
theorem access_turns {body : Choice → Memory → α × Memory}
    (target : Choice → Key) (looking : setting.Looking thread key inner known)
    (away : ∀ choice, target choice ≠ key)
    (changes : ∀ choice memory route, Admissible setting.deployment thread choice memory →
      setting.Sound (target choice) (memory.inner (target choice)) route →
      (memory.inner (target choice)).inFlight = [] ∧
      ∃ after, (body choice memory).2.inner (target choice) = after ∧
        (∀ other, other ≠ target choice → (body choice memory).2.inner other = memory.inner other) ∧
        (after = memory.inner (target choice) ∨
          setting.Change thread (target choice) (memory.inner (target choice)) route after) ∧
        post (body choice memory).1 (.locked (target choice) after (some route))) :
    setting.Verifies thread (access body) (.locked key inner known) post := by
  intro choice memory outside agrees healthy _ admissible
  have sound : setting.Sound (target choice) (memory.inner (target choice))
      (setting.surroundings.route outside (target choice)) := healthy.1 (target choice)
  obtain ⟨unowned, after, rfl, frame, change, holds⟩ := changes choice memory _ admissible sound
  have isView : setting.discipline.view memory outside (target choice) =
      .locked (target choice) (memory.inner (target choice))
        (some (setting.surroundings.route outside (target choice))) := by
    have noOwner : setting.discipline.owner (setting.discipline.inner memory (target choice)) =
        none := congrArg List.head? unowned
    unfold Discipline.view
    rw [if_pos noOwner]
    rfl
  refine ⟨_, _, .inr ⟨key, inner, known, target choice, rfl, away choice, ?_, ?_, rfl⟩, ?_, holds⟩
  · cases looking with
    | foreign different inFlight =>
      intro isMine
      have isOther : inner.inFlight.head? = some thread := isMine
      rw [inFlight] at isOther
      exact different (Option.some.inj isOther)
    | idle noFlight =>
      intro isMine
      have isOther : inner.inFlight.head? = some thread := isMine
      rw [noFlight] at isOther
      cases isOther
  · cases looking with
    | foreign _ inFlight =>
      intro isNone
      have isEmpty : inner.inFlight.head? = none := isNone
      rw [inFlight] at isEmpty
      cases isEmpty
    | idle _ _ _ settled => exact fun _ => ⟨_, rfl, settled⟩
  · rw [isView]
    refine ⟨rfl, frame, ?_⟩
    rcases change with same | ⟨owner, guaranteed, loyal, sound'⟩
    · exact .inl same
    · refine .inr ⟨_, rfl, owner.imp (congrArg List.head?) (congrArg List.head?), guaranteed,
        ?_, sound'⟩
      rintro other different ⟨entry, member, isOther⟩
      exact ⟨entry, loyal entry member (isOther ▸ different), isOther⟩

theorem unlock_leaves {token' : View} (left : setting.Left thread token token') :
    setting.Verifies thread unlock token fun _ after => after = token' := by
  cases left with
  | @foreign key inner other different inFlight =>
    have isOwner : setting.discipline.owner inner = some other := by
      show inner.inFlight.head? = some other
      rw [inFlight]
      rfl
    have notMine : setting.discipline.owner inner ≠ some thread := by
      rw [isOwner]
      exact fun same => different (Option.some.inj same)
    simp only [Setting.Verifies, unlock, Prog.wp, if_neg notMine]
    refine ⟨fun unowned => ?_, .inl trivial⟩
    rw [isOwner] at unowned
    cases unowned
  | @idle key inner route inFlight settled =>
    have unowned : setting.discipline.owner inner = none := by
      show inner.inFlight.head? = none
      rw [inFlight]
      rfl
    have notMine : setting.discipline.owner inner ≠ some thread := by
      simp [unowned]
    simp only [Setting.Verifies, unlock, Prog.wp, if_neg notMine]
    exact ⟨fun _ => ⟨route, rfl, settled⟩, .inl trivial⟩
  | @guest key inner route inFlight settled admitted =>
    have unowned : setting.discipline.owner inner = none := by
      show inner.inFlight.head? = none
      rw [inFlight]
      rfl
    have notMine : setting.discipline.owner inner ≠ some thread := by
      simp [unowned]
    simp only [Setting.Verifies, unlock, Prog.wp, if_neg notMine]
    exact ⟨fun _ => ⟨route, rfl, settled⟩, .inr ⟨admitted, trivial⟩⟩
  | @kept key inner route inFlight =>
    have mine : setting.discipline.owner inner = some thread := by
      show inner.inFlight.head? = some thread
      rw [inFlight]
      rfl
    simp only [Setting.Verifies, unlock, Prog.wp, if_pos mine]
    exact ⟨route, rfl, rfl⟩

/-- What the holder of the mutex sees of a sandbox it does not own. -/
theorem looking_of_locked (sound : setting.Sound key inner route)
    (foreign : setting.discipline.owner inner ≠ some thread)
    (settled : setting.discipline.owner inner = none →
      setting.discipline.Settled key inner route) :
    setting.Looking thread key inner
      (if setting.discipline.owner inner = none then some route else none) := by
  rcases sound.fence with ⟨noFlight, clear⟩ | ⟨other, inFlight, isFenced, noGuests⟩
  · have unowned : setting.discipline.owner inner = none := by
      show inner.inFlight.head? = none
      rw [noFlight]
      rfl
    rw [if_pos unowned]
    exact .idle noFlight clear sound (settled unowned)
  · have isOwner : setting.discipline.owner inner = some other := by
      show inner.inFlight.head? = some other
      rw [inFlight]
      rfl
    rw [isOwner, if_neg nofun]
    refine .foreign ?_ inFlight isFenced noGuests
    rintro rfl
    exact foreign isOwner

/-- The end of a section. -/
theorem body_unlocks {body : Code α}
    (verified : setting.Verifies thread body token (setting.Leaves thread post)) :
    setting.Verifies thread (do
      let result ← body
      unlock
      return result) token post := by
  refine verifies_bind verified ?_
  rintro value token ⟨token', left, holds⟩
  refine verifies_bind (unlock_leaves left) ?_
  rintro _ _ rfl
  exact holds

/-- A section of a thread that has nothing; it turns to a sandbox of its choice. -/
theorem locked_free {body : Code α} (key : Key)
    (verified : ∀ inner known, setting.Looking thread key inner known →
      setting.Verifies thread body (.locked key inner known) (setting.Leaves thread post)) :
    setting.Verifies thread (locked body) .free post :=
  ⟨key, fun inner _ sound foreign settled =>
    body_unlocks (verified inner _ (looking_of_locked sound foreign settled))⟩

theorem locked_own {body : Code α}
    (verified : setting.Verifies thread body (.locked key inner (some route))
      (setting.Leaves thread post)) :
    setting.Verifies thread (locked body) (.own key inner route) post :=
  body_unlocks verified

theorem locked_shared {body : Code α}
    (verified : ∀ inner known, setting.Looking thread key inner known →
      (∃ entry ∈ inner.guests, entry.2 = thread) →
      setting.Verifies thread body (.locked key inner known) (setting.Leaves thread post)) :
    setting.Verifies thread (locked body) (.shared key) post :=
  fun inner _ sound admitted foreign settled =>
    body_unlocks (verified inner _ (looking_of_locked sound foreign settled) admitted)

end Setting

end Brezel.Service
