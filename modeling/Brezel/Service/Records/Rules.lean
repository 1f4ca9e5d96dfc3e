import Brezel.Service.Records.Writes

/-!
# Rules for the records

The contract of the records and, for each access of the controller, what a thread learns from it
inside the mutex.  What the fences exclude, and where lookups are taken to be answered also that,
is known of every access (`Accessing`).

`updateRows_guards` reduces a transaction to what it does to the tables (`Written`).
-/

namespace Brezel.Service

open Domain Store Monitor

/-! ## The contract -/

/-- What is known of an access from elsewhere. -/
structure Accessing [Lookups] (thread : Nat) (update : Choice → Memory → Memory) (choice : Choice)
    (memory : Memory) : Prop where
  fences : FenceKept thread memory (update choice memory)
  answered : Lookups.answered thread → choice.usesUnread = false

variable [Lookups]

/-- The contract of the records. -/
def contract (deployment : Deployment) : Contract interface (List Query) Records where
  view := Memory.records
  Inv records log := Sound deployment.limits records ∧ Logged records log
  Change thread before after _ := Effect deployment.limits thread before after
  Permit := Permitted
  Given := Accessing
  Trust query reply _ _ := Trusted query reply

/-- Code that keeps the contract inside the mutex. -/
abbrev Guards {α : Type} (deployment : Deployment) (thread : Nat) (code : Code α)
    (post : α → Records → Prop) (records : Records) : Prop :=
  Contract.Inside (system deployment recorder) (contract deployment) thread code
    (fun value after _ => post value after) records

/-- Outside the mutex, from known facts. -/
abbrev Bridges {α : Type} (deployment : Deployment) (thread : Nat) (known : Records → Prop)
    (code : Code α) (post : α → Records → Prop) : Prop :=
  Contract.Between (system deployment recorder) (contract deployment) thread
    (fun records _ => known records) code fun value after _ => post value after

/-- Code that may be run at any time. -/
abbrev Conforms {α : Type} (deployment : Deployment) (thread : Nat) (code : Code α) : Prop :=
  Bridges deployment thread (fun _ => True) code fun _ _ => True

/-- Code that leaves the records alone and makes only harmless calls. -/
abbrev Spares {α : Type} (deployment : Deployment) (code : Code α) (post : α → Prop) : Prop :=
  Contract.Beside (contract deployment) harmless code post

/-- A fact that the others keep while the thread is outside the mutex. -/
abbrev Kept (deployment : Deployment) (thread : Nat) (fact : Records → Prop) : Prop :=
  Contract.Stable (system deployment recorder) (contract deployment) thread false
    fun records _ => fact records

variable {deployment : Deployment} {thread : Nat} {records : Records} {key : Key}

/-! ## Sequencing -/

section Sequence

variable {α β : Type} {middle : α → Records → Prop} {post : β → Records → Prop}
  {known : Records → Prop}
variable {code : Code α} {continuation : α → Code β}

theorem guards_ret {value : β} (holds : post value records) :
    Guards deployment thread (pure value) post records :=
  Contract.Inside.ret fun _ => holds

theorem guards_bind (first : Guards deployment thread code middle records)
    (rest : ∀ value after, middle value after →
      Guards deployment thread (continuation value) post after) :
    Guards deployment thread (code >>= continuation) post records :=
  Contract.Inside.bind first fun value after _ => rest value after

/-- A step after which only a value is returned. -/
theorem guards_last {value : α → β} (first : Guards deployment thread code middle records) :
    Guards deployment thread (code >>= fun result => pure (value result)) (fun _ _ => True)
      records :=
  guards_bind first fun _ _ _ => guards_ret trivial

theorem guards_note {label : Label} {continuation : Unit → Code β}
    (rest : Guards deployment thread (continuation ()) post records) :
    Guards deployment thread (note label >>= continuation) post records :=
  Contract.Inside.note rest

theorem guards_mono {weaker : α → Records → Prop}
    (first : Guards deployment thread code middle records)
    (implied : ∀ value after, middle value after → weaker value after) :
    Guards deployment thread code weaker records :=
  fun log => Prog.secures_mono (first log) fun _ _ _ _ holds => ⟨holds.1, implied _ _ holds.2⟩

theorem bridges_ret {value : β} (holds : ∀ records, known records → post value records) :
    Bridges deployment thread known (pure value) post :=
  Contract.Between.ret fun records _ => holds records

theorem bridges_done {value : β} :
    Bridges deployment thread known (pure value) fun _ _ => True :=
  bridges_ret fun _ _ => trivial

theorem bridges_bind (first : Bridges deployment thread known code middle)
    (rest : ∀ value, Bridges deployment thread (middle value) (continuation value) post) :
    Bridges deployment thread known (code >>= continuation) post :=
  Contract.Between.bind first rest

/-- What is known of a value needs no keeping. -/
theorem bridges_given {fact : Prop} {code : Code β}
    (rest : fact → Bridges deployment thread known code post) :
    Bridges deployment thread (fun records => known records ∧ fact) code post :=
  fun records log isKnown => rest isKnown.2 records log isKnown.1

/-- A section. -/
theorem bridges_locked {body : Code α} (kept : ∀ value, Kept deployment thread (middle value))
    (inside : ∀ records, known records → Guards deployment thread body middle records) :
    Bridges deployment thread known (locked body) middle :=
  Contract.Between.locked kept fun records _ => inside records

theorem bridges_spares {value : α → Prop}
    (kept : Kept deployment thread known) (spares : Spares deployment code value) :
    Bridges deployment thread known code fun result after => known after ∧ value result :=
  Contract.Between.beside kept (fun _ records log isHarmless =>
    permitted_of_harmless isHarmless records log) spares

theorem guards_spares {value : α → Prop} (spares : Spares deployment code value) :
    Guards deployment thread code (fun result after => records = after ∧ value result) records :=
  Contract.Inside.beside (fun records _ => Effect.refl records) (fun _ records log isHarmless =>
    permitted_of_harmless isHarmless records log) spares

theorem guards_call {query : Query} (permitted : ∀ log, Permitted thread query records log) :
    Guards deployment thread (.call query .ret) (fun _ after => records = after) records :=
  Contract.Inside.call (fun log _ => permitted log) fun _ _ _ => Contract.Inside.ret fun _ => rfl

/-- A lookup of a workspace at the backend. -/
theorem guards_findWorkspace {name : String} :
    Guards deployment thread (workspaceCall key (.find name)) (fun reply after =>
      records = after ∧ ∀ remote, reply = .ok remote →
        Lookups.found name (RemoteWorkspace.id remote))
      records :=
  Contract.Inside.call (fun _ _ => trivial) fun reply _ trusted => Contract.Inside.ret fun _ =>
    ⟨rfl, fun remote isOk => by subst isOk; exact trusted⟩

theorem bridges_call {query : Query} (kept : Kept deployment thread known)
    (permitted : ∀ records log, known records → Permitted thread query records log) :
    Bridges deployment thread known (.call query .ret) fun _ => known :=
  Contract.Between.call (fun _ => kept) (fun records log isKnown _ => permitted records log isKnown)
    fun _ _ _ _ isKnown _ _ _ => isKnown

theorem kept_true : Kept deployment thread fun _ => True := fun _ _ _ _ => trivial

theorem kept_of_effect {fact : Records → Prop}
    (keeps : ∀ other before after, other ≠ thread → Effect deployment.limits other before after →
      fact before → fact after) : Kept deployment thread fact := by
  intro before after step holds
  cases step with
  | access _ distinct changed => exact keeps _ _ _ distinct changed holds
  | call _ _ _ _ _ => exact holds
  | drift _ _ => exact holds

end Sequence

/-! ## Reading -/

section Reading

variable {α β : Type} {post : β → Records → Prop} {stop next : Code β}

/-- What a read may rely on. -/
structure Reading (deployment : Deployment) (thread : Nat) (choice : Choice) (memory : Memory)
    (records : Records) : Prop where
  view : memory.records = records
  sound : Sound deployment.limits records
  fences : FenceKept thread memory memory
  admissible : Admissible deployment thread choice memory
  answered : Lookups.answered thread → choice.usesUnread = false

theorem look_guards {body : Choice → Memory → α} {seen : α → Prop}
    (sees : ∀ choice memory, Reading deployment thread choice memory records →
      seen (body choice memory)) :
    Guards deployment thread (look body) (fun value after => records = after ∧ seen value)
      records := by
  refine Contract.Inside.act fun choice memory _ isView ⟨sound, _⟩ admissible given => ?_
  have same : (contract deployment).view memory = records := isView
  exact ⟨same ▸ Effect.refl _, Contract.Inside.ret fun _ =>
    ⟨same.symm, sees choice memory ⟨isView, sound, given.fences, admissible, given.answered⟩⟩⟩

/-- A read whose result does not matter. -/
theorem look_any {body : Choice → Memory → α} :
    Guards deployment thread (look body) (fun _ after => records = after) records := by
  have seen : Guards deployment thread (look body) (fun _ after => records = after ∧ True)
      records := look_guards fun _ _ _ => trivial
  exact guards_mono seen fun _ _ seen => seen.1

theorem guards_look {body : Choice → Memory → α} {continuation : α → Code β}
    (rest : ∀ value, Guards deployment thread (continuation value) post records) :
    Guards deployment thread (look body >>= continuation) post records := by
  refine guards_bind look_any ?_
  rintro value _ rfl
  exact rest value

theorem getSandbox_guards :
    Guards deployment thread (getSandbox key) (fun result after => records = after ∧
      ∀ row, result = .ok row → records.tables.row key = some row ∧ sandboxKey row = key)
      records := by
  refine look_guards fun choice memory reading row found => ?_
  split at found
  · cases found
  split at found
  · cases found
  · next present =>
    cases found
    have sound := reading.sound.valid
    rw [← reading.view] at sound ⊢
    exact ⟨present, row_keyed sound present⟩

theorem guards_getSandbox {continuation : Except ServiceError Sandbox → Code β}
    (absent : ∀ error, Guards deployment thread (continuation (.error error)) post records)
    (present : ∀ row, records.tables.row key = some row → sandboxKey row = key →
      Guards deployment thread (continuation (.ok row)) post records) :
    Guards deployment thread (getSandbox key >>= continuation) post records := by
  refine guards_bind getSandbox_guards ?_
  rintro (error | row) _ ⟨rfl, found⟩
  · exact absent error
  · exact present row (found row rfl).1 (found row rfl).2

/-- A section that stops at what it reads. -/
theorem guards_unless {body : Choice → Memory → Bool}
    (stops : Guards deployment thread stop post records)
    (goes : Guards deployment thread next post records) :
    Guards deployment thread (look body >>= fun stopped => if stopped = true then stop else next)
      post records := by
  refine guards_look fun stopped => ?_
  split
  · exact stops
  · exact goes

/-- A section that stops at a fence. -/
theorem guards_unlessFenced (busy : Guards deployment thread stop post records)
    (clear : records.inFlight key = [] → Guards deployment thread next post records) :
    Guards deployment thread (fenced key >>= fun isFenced => if isFenced = true then stop else next)
      post records := by
  have fences : Guards deployment thread (fenced key) (fun value after => records = after ∧
      (value = false → records.inFlight key = [])) records := by
    refine look_guards fun choice memory reading isFree => ?_
    rw [← reading.view]
    rcases reading.fences.sound key with ⟨unowned, _⟩ | ⟨_, _, isFenced, _⟩
    · exact unowned
    · have isIn : decide (key ∈ memory.activeBackendMutations) = true := isFenced
      rw [isIn] at isFree
      cases isFree
  refine guards_bind fences ?_
  rintro isFenced _ ⟨rfl, unfenced⟩
  split
  · exact busy
  · next isClear => exact clear (unfenced (Bool.eq_false_of_not_eq_true isClear))

theorem randomID_guards :
    Guards deployment thread (randomID "op") (fun id after => records = after ∧
      ∀ projectID, records.tables.operations.lookup (projectID, id) = none) records := by
  refine look_guards fun choice memory reading projectID => ?_
  rw [← reading.view]
  exact reading.admissible.fresh.operation projectID

theorem lookupIdempotency_guards {projectID kind requestKey : String} :
    Guards deployment thread (lookupIdempotency projectID kind requestKey)
      (fun found after => records = after ∧ (found = none → deployment.store = .file →
        records.tables.idempotency.lookup (projectID, kind, requestKey) = none)) records := by
  refine look_guards fun choice memory reading isNone isFile => ?_
  have reads : choice.readFails = false := by
    simp [Choice.readFails, reading.admissible.store, isFile]
  rw [reads] at isNone
  have sound := reading.sound.valid
  rw [← reading.view] at sound ⊢
  exact idempotentOperation_none sound isNone

theorem lookupIdempotencyInput_guards {projectID kind requestKey digest : String} :
    Guards deployment thread (lookupIdempotencyInput projectID kind requestKey digest)
      (fun found after => records = after ∧ (found = .ok none →
        records.tables.idempotency.lookup (projectID, kind, requestKey) = none)) records := by
  refine look_guards fun choice memory reading isNone => ?_
  have sound := reading.sound.valid
  rw [← reading.view] at sound ⊢
  split at isNone
  · cases isNone
  split at isNone
  · next isAbsent => exact idempotentOperation_none sound isAbsent
  · split at isNone <;> cases isNone

end Reading

/-! ## Writing -/

section Writing

variable {α : Type}
variable {body : Choice → State → Except ServiceError (α × State)}

theorem access_guards {body : Choice → Memory → α × Memory} {post : α → Records → Prop}
    (step : ∀ choice memory, memory.records = records → Sound deployment.limits records →
      Admissible deployment thread choice memory →
      FenceKept thread memory (body choice memory).2 →
      Effect deployment.limits thread records (body choice memory).2.records ∧
        post (body choice memory).1 (body choice memory).2.records) :
    Guards deployment thread (access body) post records := by
  refine Contract.Inside.act fun choice memory _ isView ⟨sound, _⟩ admissible given => ?_
  obtain ⟨effect, holds⟩ := step choice memory isView sound admissible given.fences
  exact ⟨effect, Contract.Inside.ret fun _ => holds⟩

theorem access_spared {body : Choice → Memory → α × Memory}
    (same : ∀ choice memory, (body choice memory).2.records = memory.records) :
    Guards deployment thread (access body) (fun _ after => records = after) records := by
  refine access_guards fun choice memory isView _ _ _ => ?_
  rw [same choice memory, isView]
  exact ⟨.refl records, rfl⟩

theorem update_guards {post : Except ServiceError α → Records → Prop}
    (unchanged : ∀ error, post (.error error) records)
    (writes : ∀ choice memory value next, Installing deployment thread choice memory records next →
      body choice memory.state = .ok (value, next) →
      Written deployment.limits memory.inFlight memory.state next ∧
        post (.ok value) (records.install next) ∧ post (.error .store) (records.install next)) :
    Guards deployment thread (update body) post records := by
  refine access_guards fun choice memory isView sound admissible fences => ?_
  cases isDone : transact choice.fault (body choice) memory.state with
  | mk outcome state =>
    simp only [isDone] at fences ⊢
    rcases transact_cases isDone with ⟨⟨error, rfl⟩, rfl⟩ | ⟨value, computed, isValid, isOutcome⟩
    · have same : Memory.records { memory with state := memory.state } = records := isView
      rw [same]
      exact ⟨.refl records, unchanged _⟩
    · subst isView
      obtain ⟨written, done, lost⟩ :=
        writes choice memory value state ⟨rfl, sound, admissible, fences, isValid⟩ computed
      refine ⟨written.effect fences fun _ => isValid, ?_⟩
      rcases isOutcome with rfl | rfl
      · exact done
      · exact lost

theorem updateRows_guards {post : Except ServiceError α → Records → Prop}
    (unchanged : ∀ error, post (.error error) records)
    (writes : ∀ choice memory value next, Installing deployment thread choice memory records next →
      body choice memory.state = .ok (value, next) →
      deployment.store.accepts memory.state next = true →
      Written deployment.limits memory.inFlight memory.state next ∧
        post (.ok value) (records.install next) ∧ post (.error .store) (records.install next)) :
    Guards deployment thread (updateRows body) post records := by
  refine update_guards unchanged fun choice memory value next installing computed => ?_
  obtain ⟨isOk, accepted⟩ := guarding_ok computed
  rw [installing.admissible.store] at accepted
  exact writes choice memory value next installing isOk accepted

/-- A transaction after which only the effect matters. -/
theorem updateRows_any
    (writes : ∀ choice memory value next, Installing deployment thread choice memory records next →
      body choice memory.state = .ok (value, next) →
      Written deployment.limits memory.inFlight memory.state next) :
    Guards deployment thread (updateRows body) (fun _ _ => True) records :=
  updateRows_guards (fun _ => trivial) fun choice memory value next installing computed _ =>
    ⟨writes choice memory value next installing computed, trivial, trivial⟩

/-- The same without the checks of `UpdateRows`. -/
theorem update_any
    (writes : ∀ choice memory value next, Installing deployment thread choice memory records next →
      body choice memory.state = .ok (value, next) →
      Written deployment.limits memory.inFlight memory.state next) :
    Guards deployment thread (update body) (fun _ _ => True) records :=
  update_guards (fun _ => trivial) fun choice memory value next installing computed =>
    ⟨writes choice memory value next installing computed, trivial, trivial⟩

end Writing

/-! ## Fences -/

theorem setFence_guards :
    Guards deployment thread (setFence key) (fun _ after => after = ⟨records.tables,
      Function.update records.inFlight key (thread :: records.inFlight key)⟩) records := by
  refine access_guards fun choice memory isView _ admissible fences => ?_
  subst isView
  refine ⟨.fences fences rfl, ?_⟩
  rw [admissible.thread]
  rfl

theorem clearFence_guards :
    Guards deployment thread (clearFence key) (fun _ after => after = ⟨records.tables,
      Function.update records.inFlight key ((records.inFlight key).erase thread)⟩) records := by
  refine access_guards fun choice memory isView _ admissible fences => ?_
  subst isView
  refine ⟨.fences fences rfl, ?_⟩
  rw [admissible.thread]
  rfl

end Brezel.Service
