import Brezel.Library.Monitor.Sequential
import Brezel.Warm.Runs

/-!
# What a maintenance pass restores

A pass of `Maintain` that runs alone, with an engine that answers, long enough after the last
reservation.  It goes through the slots that are not held by a claim: an old slot is replaced, a
creating slot is completed or replaced, a deleting one is removed; then it fills the pool up to the
target.  Held slots it leaves alone.  So afterwards every slot is available or held
(`maintain_alone`), and the target is restored exactly when no slot was held.
-/

namespace Brezel.Warm

open Domain Service Monitor

variable {α : Type} {id : String} {source : SlotState} {change : Slot → Slot} {row slot : Slot}

/-! ## A pool that is attended to -/

/-- An access in which nothing fails, from some time on. -/
structure Calm (config : Config) (thread : Nat) (start : Time) (choice : Choice)
    (memory : Memory) : Prop where
  admissible : Admissible config thread choice memory
  fault : choice.fault = .none
  running : choice.cancelled = false
  now : start ≤ choice.now

/-- The engine answers: what is asked for is created and runs, and a lookup or a deletion gets a
definite answer. -/
def Definite : (query : Query) → Except BackendError query.Answer → Prop
  | .create _, reply => ∃ remote : RemoteSandbox, reply = .ok remote ∧ remote.id ≠ "" ∧
      remote.state = .running
  | .find _ _, reply => ∀ error, reply = .error error → error = .notFound
  | .inspect _, reply => ∀ error, reply = .error error → error = .notFound
  | .delete _, reply => ∀ error, reply = .error error → error = .notFound
  | .setTimeout _ _, reply => ∀ error, reply ≠ .error error

/-- Nothing fails, and the engine answers definitely. -/
def attended (config : Config) (thread : Nat) (start : Time) : Setting interface Engine where
  admits := Calm config thread start
  answers before query reply after := respond before query reply after ∧ Definite query reply

variable {config : Config} {thread : Nat} {start : Time} {memory : Memory} {engine : Engine}

/-! ## Something can always be chosen and answered -/

/-- New identifiers can be drawn. -/
theorem exists_calm (config : Config) (thread : Nat) (start : Time) (memory : Memory) :
    ∃ choice, Calm config thread start choice memory := by
  obtain ⟨idBound, isIdBound⟩ := exists_length_bound (memory.reserved.map (·.id))
  obtain ⟨localBound, isLocalBound⟩ := exists_length_bound (memory.reserved.map (·.localID))
  refine ⟨⟨thread, start, start, fun index => nameOfLength (idBound + localBound + index), .none,
    fun _ => 0, false, false⟩, ⟨rfl, ⟨?_, ?_, ?_⟩⟩, rfl, rfl, Int.le_refl _⟩
  · apply List.Nodup.map_on _ List.nodup_range
    intro first _ second _ same
    have lengths := congrArg String.length same
    simp only [length_nameOfLength] at lengths
    omega
  · intro index _ slot isSlot same
    have isBound := isIdBound slot.id (List.mem_map_of_mem isSlot)
    rw [same, String.length_append, length_nameOfLength] at isBound
    have isPositive : 0 < ("wps_" : String).length := by decide
    omega
  · intro index _ slot isSlot same
    have isBound := isLocalBound slot.localID (List.mem_map_of_mem isSlot)
    rw [same, String.length_append, length_nameOfLength] at isBound
    have isPositive : 0 < ("warm_" : String).length := by decide
    omega

theorem exists_definite (query : Query) : ∃ reply after,
    (attended config thread start).answers engine query reply after := by
  cases query with
  | create request =>
    obtain ⟨bound, isBound⟩ := exists_length_bound (engine.born.map (·.id))
    have unused : engine.Unused (nameOfLength (bound + 1)) := by
      constructor
      · intro isEmpty
        have lengths := congrArg String.length isEmpty
        rw [length_nameOfLength] at lengths
        simp at lengths
      · intro machine isMachine same
        have isShort := isBound machine.id (List.mem_map_of_mem isMachine)
        rw [same, length_nameOfLength] at isShort
        omega
    exact ⟨_, _, .created _ unused .running, _, rfl, unused.1, rfl⟩
  | find localID projectID =>
    by_cases isThere : ∃ machine ∈ engine.machines, machine.identity = (localID, projectID)
    · obtain ⟨machine, isMachine, isIdentity⟩ := isThere
      refine ⟨_, engine, ⟨rfl, .found machine isMachine isIdentity .running⟩, ?_⟩
      intro error isError
      cases isError
    · refine ⟨_, engine, ⟨rfl, .absent fun machine isMachine isIdentity =>
        isThere ⟨machine, isMachine, isIdentity⟩⟩, ?_⟩
      intro error isError
      cases isError
      rfl
  | inspect id =>
    refine ⟨.error .notFound, engine, ⟨rfl, fun _ isOk => by cases isOk⟩, ?_⟩
    intro error isError
    cases isError
    rfl
  | delete id =>
    refine ⟨_, _, .deleted, ?_⟩
    intro error isError
    cases isError
  | setTimeout id ttlSeconds =>
    refine ⟨.ok (), engine, rfl, ?_⟩
    intro error isError
    cases isError

/-! ## Transactions -/

theorem attempt_calm {body : Choice → Memory → Option (α × Memory)} {reported : α → Memory → Memory}
    {choice : Choice} {value : α} {next : Memory} (calm : choice.fault = .none)
    (isBody : body choice memory = some (value, next)) :
    attempt body reported choice memory = (some value, reported value next) := by
  simp [attempt, calm, isBody]

theorem transaction_alone {body : Choice → Memory → Option (α × Memory)}
    {reported : α → Memory → Memory} {post : Option α → Memory → Engine → Prop}
    (step : ∀ choice, Calm config thread start choice memory → ∃ value next,
      body choice memory = some (value, next) ∧ post (some value) (reported value next) engine) :
    Alone (attended config thread start) (transaction body reported) post memory engine := by
  refine Alone.atomic (exists_calm config thread start memory) fun choice calm => ?_
  obtain ⟨value, next, isBody, holds⟩ := step choice calm
  rw [attempt_calm calm.fault isBody]
  exact holds

/-- Keep only the outcome of a transaction that cannot be harmed. -/
theorem Effect.sound {after : Memory} (effect : Effect config False thread memory after engine)
    (sound : Sound config memory engine) : Sound config after engine :=
  (effect.inv ⟨sound, False.elim⟩).1

instance : DecidablePred Slot.Held := fun slot =>
  inferInstanceAs (Decidable (slot.state = .claiming ∨ slot.state = .claimed))

/-- The number of held slots. -/
def heldCount (memory : Memory) : Nat := memory.ledger.rows.countP fun row => decide row.Held

/-- The number of available slots. -/
def availableCount (memory : Memory) : Nat :=
  memory.ledger.rows.countP fun row => decide (row.state = .available)

/-- Work on the slots with some identifiers: what is left of them is available, new slots are
available, and everything else is as before. -/
structure Advanced (done : List String) (before after : Memory) : Prop where
  held : heldCount after = heldCount before
  settled : ∀ row ∈ after.ledger.rows, row.state = .available ∨
    row ∈ before.ledger.rows ∧ row.id ∉ done
  kept : ∀ row ∈ before.ledger.rows, row.id ∉ done → row ∈ after.ledger.rows

theorem Advanced.trans {first second : List String} {before middle after : Memory}
    (one : Advanced first before middle) (two : Advanced second middle after) :
    Advanced (first ++ second) before after where
  held := two.held.trans one.held
  settled row isRow := by
    rcases two.settled row isRow with isAvailable | ⟨isMiddle, isOther⟩
    · exact .inl isAvailable
    · rcases one.settled row isMiddle with isAvailable | ⟨isBefore, isOther'⟩
      · exact .inl isAvailable
      · refine .inr ⟨isBefore, fun isDone => ?_⟩
        rcases List.mem_append.mp isDone with isFirst | isSecond
        · exact isOther' isFirst
        · exact isOther isSecond
  kept row isRow isOther := by
    have isMiddle := one.kept row isRow fun isDone => isOther (List.mem_append_left _ isDone)
    exact two.kept row isMiddle fun isDone => isOther (List.mem_append_right _ isDone)

/-! ### Queries and removal -/

theorem listStates_alone (states : List SlotState) :
    Alone (attended config thread start) (listStates states) (fun result memory' engine' =>
      memory' = memory ∧ engine' = engine ∧ ∃ slots, result = some slots ∧
        (slots.map (·.id)).Nodup ∧
        ∀ slot, slot ∈ slots ↔ slot ∈ memory.ledger.rows ∧ slot.state ∈ states) memory engine := by
  refine transaction_alone fun choice _ => ⟨_, _, rfl, rfl, rfl, _, rfl, ?_, fun slot => ?_⟩
  · refine ((List.mergeSort_perm _ _).map _).nodup_iff.mpr ?_
    exact memory.ledger.unique.ids.sublist (List.filter_sublist.map _)
  · rw [List.mem_mergeSort, List.mem_filter, decide_eq_true_eq]

theorem remove_alone (id : String) :
    Alone (attended config thread start) (remove id) (fun done memory' engine' =>
      done = true ∧ engine' = engine ∧
        memory' = { memory with ledger := memory.ledger.delete id }) memory engine := by
  exact Alone.map (transaction_alone fun choice _ => ⟨_, _, rfl, rfl, rfl, rfl⟩)

theorem Sound.delete (sound : Sound config memory engine) (id : String) :
    Sound config { memory with ledger := memory.ledger.delete id } engine := by
  have effect : Effect config False 0 memory { memory with ledger := memory.ledger.delete id }
      engine := Effect.delete fun impossible => impossible.elim
  exact effect.sound sound

theorem Advanced.delete (free : ∀ row ∈ memory.ledger.rows, row.id = id → ¬ row.Held) :
    Advanced [id] memory { memory with ledger := memory.ledger.delete id } where
  held := by
    simp only [heldCount, Ledger.delete, List.countP_filter]
    apply List.countP_congr
    intro row isRow
    by_cases isID : row.id = id
    · simp [isID, free row isRow isID]
    · simp [isID]
  settled row isRow := by
    have isKept := List.mem_filter.mp isRow
    exact .inr ⟨isKept.1, by simpa using isKept.2⟩
  kept row isRow isOther := by
    refine List.mem_filter.mpr ⟨isRow, ?_⟩
    simpa using isOther

/-! ### Updates -/

/-- A list of keys without repetition, looked at two rows at a time. -/
theorem nodup_filter_map_iff {key : Slot → α} {counted : α → Bool} {rows : List Slot} :
    ((rows.map key).filter counted).Nodup ↔ rows.Pairwise fun first second =>
      counted (key first) = true → counted (key second) = true → key first ≠ key second := by
  rw [List.Nodup, List.pairwise_filter, List.pairwise_map]

/-- The rows after an update of one slot. -/
def changedRows (ledger : Ledger) (id : String) (source : SlotState) (change : Slot → Slot) :
    List Slot :=
  ledger.rows.map fun row => if row.id = id && row.state = source then change row else row

/-- A changed row with the same names, and a machine that no other row has, meets the
constraints. -/
theorem Unique.changed {ledger : Ledger} (sameID : ∀ row, (change row).id = row.id)
    (sameLocal : ∀ row, (change row).localID = row.localID)
    (sameClaim : ∀ row, (change row).claim = row.claim)
    (machine : ∀ first ∈ ledger.rows, ∀ second ∈ ledger.rows, first.id = id →
      second.id ≠ id → (change first).backendID ≠ "" →
      (change first).backendID ≠ second.backendID) :
    Unique (changedRows ledger id source change) := by
  have keep : ∀ {α : Type} (key : Slot → α), (∀ row, key (change row) = key row) →
      (changedRows ledger id source change).map key = ledger.rows.map key := by
    intro α key same
    rw [changedRows, List.map_map]
    apply List.map_congr_left
    intro row _
    simp only [Function.comp]
    split
    · exact same row
    · rfl
  refine ⟨?_, ?_, ?_, ?_⟩
  · rw [keep _ sameID]
    exact ledger.unique.ids
  · rw [keep _ sameLocal]
    exact ledger.unique.localIDs
  · rw [nodup_filter_map_iff, changedRows, List.pairwise_map]
    have distinct : ledger.rows.Pairwise fun first second => first.id ≠ second.id := by
      have ids := ledger.unique.ids
      rwa [List.Nodup, List.pairwise_map] at ids
    have separate := nodup_filter_map_iff.mp ledger.unique.backendIDs
    refine (distinct.and separate).imp_of_mem ?_
    intro first second isFirst isSecond both
    obtain ⟨different, apart⟩ := both
    by_cases isOne : first.id = id
    · have isTwo : second.id ≠ id := fun same => different (isOne.trans same.symm)
      simp only [isTwo, decide_false, Bool.false_and, Bool.false_eq_true, if_false]
      split
      · exact fun named _ => machine first isFirst second isSecond isOne isTwo
          (by simpa using named)
      · exact apart
    · simp only [isOne, decide_false, Bool.false_and, Bool.false_eq_true, if_false]
      split
      · next isMatch =>
        simp only [Bool.and_eq_true, decide_eq_true_eq] at isMatch
        intro _ named same
        exact machine second isSecond first isFirst isMatch.1 isOne (by simpa using named)
          same.symm
      · exact apart
  · rw [keep _ sameClaim]
    exact ledger.unique.claims

theorem Ledger.countP_eq_one (ledger : Ledger) (isRow : row ∈ ledger.rows) (isID : row.id = id)
    (isSource : row.state = source) :
    ledger.rows.countP (fun row => row.id = id && row.state = source) = 1 := by
  have atLeast : 0 < ledger.rows.countP (fun row => row.id = id && row.state = source) :=
    List.countP_pos_iff.mpr ⟨row, isRow, by simp [isID, isSource]⟩
  have atMost := calc
    ledger.rows.countP (fun row => row.id = id && row.state = source)
      ≤ ledger.rows.countP (fun row => row.id == id) := by
        apply List.countP_mono_left
        intro row _ isMatch
        simp only [Bool.and_eq_true, decide_eq_true_eq] at isMatch
        simp [isMatch.1]
    _ = (ledger.rows.map (·.id)).count id := by
        rw [List.count, List.countP_map]
        rfl
    _ ≤ 1 := List.nodup_iff_count_le_one.mp ledger.unique.ids id
  omega

theorem Ledger.updateWhere_changed (ledger : Ledger) (isRow : row ∈ ledger.rows)
    (isID : row.id = id) (isSource : row.state = source)
    (unique : Unique (changedRows ledger id source change)) :
    ledger.updateWhere (fun row => row.id = id && row.state = source) change =
      some (1, ⟨changedRows ledger id source change, unique⟩) := by
  have once := ledger.countP_eq_one isRow isID isSource
  rw [Ledger.updateWhere, ← changedRows, Ledger.install, dif_pos unique, once]
  rfl

theorem moveSlot_alone (isRow : row ∈ memory.ledger.rows) (isID : row.id = id)
    (isSource : row.state = source) (unique : Unique (changedRows memory.ledger id source change)) :
    Alone (attended config thread start) (moveSlot id source change)
      (fun result memory' engine' => result = some true ∧ engine' = engine ∧
        memory' = { memory with ledger := ⟨changedRows memory.ledger id source change, unique⟩ })
      memory engine := by
  refine transaction_alone fun choice _ => ⟨true, _, ?_, rfl, rfl, rfl⟩
  rw [memory.ledger.updateWhere_changed isRow isID isSource unique]
  rfl

theorem heldCount_changed {unique : Unique (changedRows memory.ledger id source change)}
    (free : ∀ row : Slot, row.state = source → ¬ row.Held) (stays : ∀ row, ¬ (change row).Held) :
    heldCount { memory with ledger := ⟨changedRows memory.ledger id source change, unique⟩ } =
      heldCount memory := by
  simp only [heldCount, changedRows, List.countP_map]
  apply List.countP_congr
  intro row _
  simp only [Function.comp]
  split
  · next isMatch =>
    simp only [Bool.and_eq_true, decide_eq_true_eq] at isMatch
    simp [stays row, free row isMatch.2]
  · rfl

theorem mem_changedRows {ledger : Ledger} {changed : Slot} (isRow : row ∈ ledger.rows)
    (isID : row.id = id) (isSource : row.state = source)
    (isChanged : changed ∈ changedRows ledger id source change) :
    changed = change row ∨ changed ∈ ledger.rows ∧ changed.id ≠ id := by
  obtain ⟨old, isOld, rfl⟩ := List.mem_map.mp isChanged
  by_cases same : old.id = id
  · have isSame := ledger.row_eq isOld isRow (same.trans isID.symm)
    subst isSame
    simp [same, isSource]
  · simp [same, isOld]

theorem Advanced.available {backendID : String} (isRow : row ∈ memory.ledger.rows)
    (isID : row.id = id) (isCreating : row.state = .creating)
    {unique : Unique (changedRows memory.ledger id .creating fun row =>
      { row with backendID := backendID, state := .available })} :
    Advanced [id] memory { memory with ledger := ⟨_, unique⟩ } where
  held := heldCount_changed (fun row isSource => by simp [Slot.Held, isSource])
    fun row => by simp [Slot.Held]
  settled changed isChanged := by
    rcases mem_changedRows isRow isID isCreating isChanged with rfl | ⟨isOld, isOther⟩
    · exact .inl rfl
    · exact .inr ⟨isOld, by simpa using isOther⟩
  kept other isOther different := by
    refine List.mem_map.mpr ⟨other, isOther, ?_⟩
    have isOtherID : other.id ≠ id := by simpa using different
    simp [isOtherID]

/-- **A creating slot gets its machine.** -/
theorem markAvailable_alone {backendID : String} (sound : Sound config memory engine)
    (isRow : row ∈ memory.ledger.rows) (isCreating : row.state = .creating) (named : backendID ≠ "")
    (isBorn : Born backendID row.localID engine) :
    Alone (attended config thread start) (markAvailable row.id backendID)
      (fun done memory' engine' => done = true ∧ engine' = engine ∧ Sound config memory' engine ∧
        Advanced [row.id] memory memory' ∧ memory'.waiting = memory.waiting ∧
        memory'.ledger.rows.length = memory.ledger.rows.length) memory engine := by
  have unique : Unique (changedRows memory.ledger row.id .creating fun row =>
      { row with backendID := backendID, state := .available }) := by
    refine Unique.changed (fun _ => rfl) (fun _ => rfl) (fun _ => rfl) ?_
    intro first isFirst second isSecond isOne isTwo _ same
    -- A machine belongs to one slot.
    have isOther : Born backendID second.localID engine := by
      have isNamed : second.backendID ≠ "" := fun isEmpty => named (same.trans isEmpty)
      have isMachine := (sound.rows.seen second isSecond).machine isNamed
      rwa [← show backendID = second.backendID from same] at isMachine
    have isMachine := List.inj_on_of_nodup_map sound.engine.ids isBorn isOther rfl
    have isLocal : row.localID = second.localID :=
      congrArg (fun machine => machine.identity.1) isMachine
    have isSame := List.inj_on_of_nodup_map memory.ledger.unique.localIDs isRow isSecond isLocal
    exact isTwo (by rw [isSame])
  have updated := memory.ledger.updateWhere_changed isRow rfl isCreating unique
  have effect : Effect config False thread memory { memory with ledger := ⟨_, unique⟩ } engine := by
    refine Effect.update updated (fun _ => rfl) fun other isOther isMatch isSound => ?_
    simp only [Bool.and_eq_true, decide_eq_true_eq] at isMatch
    have isSame := memory.ledger.row_eq isOther isRow isMatch.1
    exact isSound.available isMatch.2 named (isSame ▸ isBorn)
  refine Alone.map ((moveSlot_alone isRow rfl isCreating unique).mono ?_)
  rintro _ _ _ ⟨rfl, rfl, rfl⟩
  exact ⟨rfl, rfl, effect.sound sound, .available isRow rfl isCreating, rfl, List.length_map _⟩

/-! ## Filling the pool -/

/-- The work succeeds, and advances the slots with some identifiers. -/
structure Works (config : Config) (done : List String) (before : Memory) (result : Bool)
    (after : Memory) (engine : Engine) : Prop where
  ok : result = true
  sound : Sound config after engine
  advanced : Advanced done before after

/-- What happens to a slot besides, when its machine is created. -/
structure Created (config : Config) (done : List String) (before : Memory) (result : Bool)
    (after : Memory) (engine : Engine) : Prop extends
    Works config done before result after engine where
  waiting : ∀ slot ∈ before.waiting, slot.id ∉ done → slot ∈ after.waiting
  length : after.ledger.rows.length = before.ledger.rows.length

theorem Unique.missing {choice : Choice} (sound : Sound config memory engine)
    (fresh : Fresh config choice memory) :
    Unique (memory.ledger.rows ++ missing config choice memory) := by
  have distinct : ∀ {name : Slot → String}, (memory.ledger.rows.map name).Nodup →
      ((Warm.missing config choice memory).map name).Nodup ∧
        (∀ slot ∈ Warm.missing config choice memory, name slot ∉ memory.reserved.map name) →
      (∀ row ∈ memory.ledger.rows, ∃ slot ∈ memory.reserved, name slot = name row) →
      ((memory.ledger.rows ++ Warm.missing config choice memory).map name).Nodup := by
    rintro name old ⟨nodup, isNew⟩ entered
    refine (List.perm_append_comm.map _).nodup_iff.mp
      (nodup_map_append nodup old fun slot isSlot isOld => ?_)
    obtain ⟨row, isRow, same⟩ := List.mem_map.mp isOld
    exact isNew slot isSlot (same ▸ List.mem_map.mpr (entered row isRow))
  have unnamed : ∀ {α : Type} (key : Slot → α) (counted : α → Bool),
      (∀ slot ∈ Warm.missing config choice memory, counted (key slot) = false) →
      (((memory.ledger.rows ++ Warm.missing config choice memory).map key).filter counted) =
        ((memory.ledger.rows.map key).filter counted) := by
    intro α key counted none
    have isNil : ((Warm.missing config choice memory).map key).filter counted = [] := by
      rw [List.filter_eq_nil_iff]
      intro value isValue
      obtain ⟨slot, isSlot, rfl⟩ := List.mem_map.mp isValue
      simp [none slot isSlot]
    rw [List.map_append, List.filter_append, isNil, List.append_nil]
  have isNew : ∀ slot ∈ Warm.missing config choice memory,
      slot.backendID = "" ∧ slot.claim = ⟨"", ""⟩ := by
    intro slot isSlot
    obtain ⟨index, -, rfl⟩ := missing_cases isSlot
    exact ⟨rfl, rfl⟩
  refine ⟨?_, ?_, ?_, ?_⟩
  · refine distinct memory.ledger.unique.ids (missing_ids fresh) fun row isRow => ?_
    obtain ⟨slot, isSlot, sameID, -⟩ := (sound.rows.seen row isRow).entered
    exact ⟨slot, isSlot, sameID⟩
  · refine distinct memory.ledger.unique.localIDs (missing_localIDs fresh) fun row isRow => ?_
    obtain ⟨slot, isSlot, -, sameLocal⟩ := (sound.rows.seen row isRow).entered
    exact ⟨slot, isSlot, sameLocal⟩
  · rw [unnamed _ _ fun slot isSlot => by simp [(isNew slot isSlot).1]]
    exact memory.ledger.unique.backendIDs
  · rw [unnamed _ _ fun slot isSlot => by simp [(isNew slot isSlot).2, Claim.named]]
    exact memory.ledger.unique.claims

/-- What the reservation of new slots leaves. -/
structure Reserved (config : Config) (before : Memory) (slots : List Slot) (after : Memory)
    (engine : Engine) : Prop where
  sound : Sound config after engine
  rows : after.ledger.rows = before.ledger.rows ++ slots
  waiting : ∀ slot ∈ slots, slot ∈ after.waiting
  creating : ∀ slot ∈ slots, slot.state = .creating
  distinct : (slots.map (·.id)).Nodup
  unknown : ∀ row ∈ before.ledger.rows, row.id ∉ slots.map (·.id)
  length : slots.length = config.target - before.ledger.rows.length

theorem reserveMissing_alone (sound : Sound config memory engine) :
    Alone (attended config thread start) (reserveMissing config) (fun result memory' engine' =>
      engine' = engine ∧ ∃ slots, result = some slots ∧
        Reserved config memory slots memory' engine) memory engine := by
  refine transaction_alone fun choice calm => ?_
  have fresh := calm.admissible.fresh
  have unique := Unique.missing sound fresh
  have installed : Ledger.install (memory.ledger.rows ++ missing config choice memory) =
      some ⟨_, unique⟩ := dif_pos unique
  have effect : Effect config False thread memory _ engine :=
    Effect.reserve fresh installed (.inr rfl)
  have ids := (missing_ids fresh).1
  refine ⟨missing config choice memory, _, Option.map_eq_some_iff.mpr ⟨_, installed, rfl⟩, rfl, _,
    rfl, effect.sound sound, rfl, fun slot => List.mem_append_right _, ?_, ids,
      ?_, by simp [missing]⟩
  · intro slot isSlot
    obtain ⟨index, -, rfl⟩ := missing_cases isSlot
    rfl
  · intro row isRow isNew
    have allIDs := unique.ids
    rw [List.map_append, List.nodup_append] at allIDs
    exact allIDs.2.2 row.id (List.mem_map_of_mem isRow) row.id isNew rfl

theorem takeSlot_alone (sound : Sound config memory engine) (isWaiting : slot ∈ memory.waiting) :
    Alone (attended config thread start) (takeSlot slot) (fun start_ memory' engine' =>
      start_ = .mine ∧ engine' = engine ∧ Sound config memory' engine ∧
        Own slot.localID thread memory' engine ∧ memory'.ledger = memory.ledger ∧
        memory'.waiting = memory.waiting.erase slot) memory engine := by
  refine Alone.atomic (exists_calm config thread start memory) fun choice calm => ?_
  have isThread : choice.thread = thread := calm.admissible.thread
  have effect : Effect config False thread memory _ engine := Effect.take isWaiting (.inr rfl)
  have isSlot := sound.history.warm slot (sound.history.waiting slot isWaiting)
  simp only [isWaiting, if_true, calm.running, isThread, Bool.false_eq_true, if_false]
  refine ⟨trivial, trivial, effect.sound sound, ⟨List.mem_cons_self, ?_, isSlot⟩, trivial, trivial⟩
  intro isAsked
  have wasTaken := sound.history.asked slot.localID isSlot isAsked
  exact sound.history.taken_not_waiting wasTaken (List.mem_map_of_mem isWaiting)

theorem createSlot_alone (sound : Sound config memory engine)
    (own : Own slot.localID thread memory engine) (isRow : slot ∈ memory.ledger.rows)
    (isCreating : slot.state = .creating) :
    Alone (attended config thread start) (createSlot config slot)
      (Created config [slot.id] memory) memory engine := by
  have permitted : Permitted config thread (.create (slotRequest config slot)) memory engine :=
    ⟨fun _ => ⟨rfl, own.1, own.2.1⟩, fun _ => own.2.2⟩
  refine Alone.call (exists_definite _) fun reply after answered => ?_
  obtain ⟨answered, remote, rfl, named, isRunning⟩ := answered
  have isBorn : Born remote.id slot.localID after := by
    cases answered with
    | created id unused state => exact List.mem_cons_self
    | unnamed id unused state => exact absurd rfl named
  have usable : ¬ (remote.id = "" ∨ remote.state ≠ .running) := by simp [named, isRunning]
  simp only [Prog.ret_bind, usable, if_false]
  refine (markAvailable_alone (sound.call permitted answered) isRow isCreating named isBorn).mono ?_
  rintro done memory' engine' ⟨isDone, rfl, isSound, advanced, isWaiting, isLength⟩
  exact ⟨⟨isDone, isSound, advanced⟩, fun _ wasWaiting _ => isWaiting ▸ wasWaiting, isLength⟩

theorem startSlot_alone (sound : Sound config memory engine) (isWaiting : slot ∈ memory.waiting)
    (isRow : slot ∈ memory.ledger.rows) (isCreating : slot.state = .creating) :
    Alone (attended config thread start) (startSlot config slot)
      (Created config [slot.id] memory) memory engine := by
  refine Alone.bind (takeSlot_alone sound isWaiting) ?_
  rintro _ taken _ ⟨rfl, rfl, isSound, own, sameLedger, isLeft⟩
  refine (createSlot_alone isSound own (sameLedger ▸ isRow) isCreating).mono ?_
  intro done after engine' created
  have sameRows : taken.ledger.rows = memory.ledger.rows := by rw [sameLedger]
  have advanced : Advanced [slot.id] memory after := by
    refine ⟨created.advanced.held.trans (by rw [heldCount, sameRows, heldCount]), ?_, ?_⟩
    · rw [← sameRows]
      exact created.advanced.settled
    · rw [← sameRows]
      exact created.advanced.kept
  refine ⟨⟨created.ok, created.sound, advanced⟩, fun other wasWaiting isOther => ?_,
    created.length.trans (by rw [sameRows])⟩
  apply created.waiting other _ isOther
  rw [isLeft]
  exact (List.mem_erase_of_ne fun same => isOther (by simp [same])).mpr wasWaiting

theorem createReserved_alone (slots : List Slot) (sound : Sound config memory engine)
    (ready : ∀ slot ∈ slots, slot ∈ memory.waiting ∧ slot ∈ memory.ledger.rows ∧
      slot.state = .creating) (distinct : (slots.map (·.id)).Nodup) :
    Alone (attended config thread start) (createReserved config slots)
      (Created config (slots.map (·.id)) memory) memory engine := by
  induction slots generalizing memory engine with
  | nil =>
    refine Alone.ret ⟨⟨rfl, sound, ⟨rfl, fun row isRow => .inr ⟨isRow, by simp⟩,
      fun _ isRow _ => isRow⟩⟩, fun _ isWaiting _ => isWaiting, rfl⟩
  | cons slot rest ih =>
    obtain ⟨isWaiting, isRow, isCreating⟩ := ready slot List.mem_cons_self
    obtain ⟨isNew, restDistinct⟩ := List.nodup_cons.mp distinct
    refine Alone.bind (startSlot_alone sound isWaiting isRow isCreating) ?_
    intro started middle engine' first
    have others : ∀ other ∈ rest, other ∈ middle.waiting ∧ other ∈ middle.ledger.rows ∧
        other.state = .creating := by
      intro other isOther
      obtain ⟨wasWaiting, wasRow, isState⟩ := ready other (List.mem_cons_of_mem _ isOther)
      have different : other.id ∉ [slot.id] := by
        simp only [List.mem_singleton]
        exact fun same => isNew (List.mem_map.mpr ⟨other, isOther, same⟩)
      exact ⟨first.waiting other wasWaiting different, first.advanced.kept other wasRow different,
        isState⟩
    refine Alone.map ((ih first.sound others restDistinct).mono ?_)
    intro done after engine'' second
    have advanced := first.advanced.trans second.advanced
    refine ⟨⟨by rw [first.ok, second.ok]; rfl, second.sound, advanced⟩, ?_,
      second.length.trans first.length⟩
    intro other wasWaiting isOther
    simp only [List.map_cons, List.mem_cons, not_or] at isOther
    exact second.waiting other (first.waiting other wasWaiting (by simpa using isOther.1)) isOther.2

/-- **The pool is filled up to the target.** -/
theorem refill_alone (sound : Sound config memory engine) :
    Alone (attended config thread start) (refill config) (fun done memory' engine' =>
      Works config [] memory done memory' engine' ∧
        memory'.ledger.rows.length = config.target) memory engine := by
  refine Alone.bind (reserveMissing_alone sound) ?_
  rintro _ middle _ ⟨rfl, slots, rfl, reserved⟩
  have ready : ∀ slot ∈ slots, slot ∈ middle.waiting ∧ slot ∈ middle.ledger.rows ∧
      slot.state = .creating := by
    intro slot isSlot
    refine ⟨reserved.waiting slot isSlot, ?_, reserved.creating slot isSlot⟩
    rw [reserved.rows]
    exact List.mem_append_right _ isSlot
  refine (createReserved_alone slots reserved.sound ready reserved.distinct).mono ?_
  intro done after engine' created
  have held : heldCount middle = heldCount memory := by
    have none : slots.countP (fun row => decide row.Held) = 0 := by
      rw [List.countP_eq_zero]
      intro slot isSlot
      simp [Slot.Held, reserved.creating slot isSlot]
    rw [heldCount, reserved.rows, List.countP_append, none, Nat.add_zero, heldCount]
  refine ⟨⟨created.ok, created.sound, created.advanced.held.trans held, ?_, ?_⟩, ?_⟩
  · intro row isRow
    rcases created.advanced.settled row isRow with isAvailable | ⟨wasRow, isOther⟩
    · exact .inl isAvailable
    · rw [reserved.rows] at wasRow
      rcases List.mem_append.mp wasRow with isOld | isSlot
      · exact .inr ⟨isOld, by simp⟩
      · exact absurd (List.mem_map_of_mem isSlot) isOther
  · intro row isRow _
    apply created.advanced.kept row _ (reserved.unknown row isRow)
    rw [reserved.rows]
    exact List.mem_append_left _ isRow
  · have isTarget := sound.rows.target
    rw [created.length, reserved.rows, List.length_append, reserved.length]
    omega

/-! ## Removing slots -/

theorem destroy_alone (backendID : String) (sound : Sound config memory engine) :
    Alone (attended config thread start) (destroy backendID) (fun done memory' engine' =>
      done = true ∧ memory' = memory ∧ Sound config memory engine') memory engine := by
  unfold destroy
  split
  · exact Alone.ret ⟨rfl, rfl, sound⟩
  · refine Alone.call (exists_definite _) fun reply after answered => ?_
    have permitted : Permitted config thread (.delete backendID) memory engine := trivial
    have isSound := sound.call permitted answered.1
    match reply, answered with
    | .ok (), _ => exact Alone.ret ⟨rfl, rfl, isSound⟩
    | .error error, ⟨_, definite⟩ =>
      obtain rfl := definite error rfl
      exact Alone.ret ⟨rfl, rfl, isSound⟩

/-- A slot that is not held goes, with its machine. -/
theorem destroy_remove_alone (backendID : String) (sound : Sound config memory engine)
    (free : ∀ row ∈ memory.ledger.rows, row.id = id → ¬ row.Held) :
    Alone (attended config thread start)
      (do if ← destroy backendID then remove id else return false) (Works config [id] memory)
      memory engine := by
  refine Alone.bind (destroy_alone backendID sound) ?_
  rintro _ _ engine' ⟨rfl, rfl, isSound⟩
  refine (remove_alone id).mono ?_
  rintro _ _ _ ⟨rfl, rfl, rfl⟩
  exact ⟨rfl, isSound.delete id, .delete free⟩

theorem Ledger.free_of_row (ledger : Ledger) (isRow : row ∈ ledger.rows) (isFree : ¬ row.Held) :
    ∀ other ∈ ledger.rows, other.id = row.id → ¬ other.Held := by
  intro other isOther same
  rw [ledger.row_eq isOther isRow same]
  exact isFree

theorem discard_alone (slot : Slot) (sound : Sound config memory engine)
    (isDeleting : slot.state = .deleting)
    (free : ∀ row ∈ memory.ledger.rows, row.id = slot.id → ¬ row.Held) :
    Alone (attended config thread start) (discard slot) (Works config [slot.id] memory) memory
      engine := by
  unfold discard quarantine
  rw [if_pos isDeleting]
  exact destroy_remove_alone slot.backendID sound free

theorem recoverCreating_alone (sound : Sound config memory engine)
    (isRow : slot ∈ memory.ledger.rows) (isCreating : slot.state = .creating) :
    Alone (attended config thread start) (recoverCreating slot) (Works config [slot.id] memory)
      memory engine := by
  have free := memory.ledger.free_of_row isRow (by simp [Slot.Held, isCreating])
  refine Alone.call (exists_definite _) fun reply after answered => ?_
  obtain ⟨⟨rfl, answer⟩, definite⟩ := answered
  cases answer with
  | found machine isMachine isIdentity state =>
    have isBorn := sound.engine.born isMachine
    have named := sound.engine.named machine isBorn
    simp only [Prog.ret_bind]
    split
    · have isSlotMachine : Born machine.id slot.localID after := by
        rw [Born, slotIdentity, ← isIdentity]
        exact isBorn
      refine (markAvailable_alone sound isRow isCreating named isSlotMachine).mono ?_
      rintro done memory' _ ⟨isDone, rfl, isSound, advanced, -, -⟩
      exact ⟨isDone, isSound, advanced⟩
    · exact destroy_remove_alone machine.id sound free
  | absent none =>
    refine (remove_alone slot.id).mono ?_
    rintro _ _ _ ⟨rfl, rfl, rfl⟩
    exact ⟨rfl, sound.delete slot.id, .delete free⟩
  | failed error isFailure => exact absurd (definite error rfl) isFailure

/-! ## The pass -/

theorem replace_alone {discarded : Code Bool}
    (first : Alone (attended config thread start) discarded (Works config [id] memory)
      memory engine) :
    Alone (attended config thread start) (replace config discarded) (Works config [id] memory)
      memory engine := by
  refine Alone.bind first ?_
  intro done middle engine' works
  rw [works.ok]
  refine (refill_alone works.sound).mono ?_
  rintro done' after engine'' ⟨filled, -⟩
  exact ⟨filled.ok, filled.sound, by simpa using works.advanced.trans filled.advanced⟩

theorem markDeleting_alone (sound : Sound config memory engine) (isRow : slot ∈ memory.ledger.rows)
    (isAvailable : slot.state = .available) :
    Alone (attended config thread start) (markDeleting slot.id .available)
      (fun result memory' engine' => result = some true ∧ engine' = engine ∧
        Sound config memory' engine ∧ heldCount memory' = heldCount memory ∧
        (∀ row ∈ memory'.ledger.rows, row = { slot with state := .deleting } ∨
          row ∈ memory.ledger.rows ∧ row.id ≠ slot.id) ∧
        ∀ row ∈ memory.ledger.rows, row.id ≠ slot.id → row ∈ memory'.ledger.rows)
      memory engine := by
  have unique : Unique (changedRows memory.ledger slot.id .available fun row =>
      { row with state := .deleting }) := by
    refine Unique.changed (fun _ => rfl) (fun _ => rfl) (fun _ => rfl) ?_
    intro first isFirst second isSecond isOne isTwo named same
    have separate := memory.ledger.unique.backendIDs
    rw [List.filter_map] at separate
    have isSame := List.inj_on_of_nodup_map separate
      (List.mem_filter.mpr ⟨isFirst, by simpa using named⟩)
      (List.mem_filter.mpr ⟨isSecond, by simpa [← same] using named⟩) same
    exact isTwo (isSame ▸ isOne)
  have updated := memory.ledger.updateWhere_changed isRow rfl isAvailable unique
  have effect : Effect config False thread memory { memory with ledger := ⟨_, unique⟩ } engine := by
    refine Effect.update updated (fun _ => rfl) fun other isOther isMatch isSound => ?_
    simp only [Bool.and_eq_true, decide_eq_true_eq] at isMatch
    exact isSound.deleting (by simp [isMatch.2])
  refine (moveSlot_alone isRow rfl isAvailable unique).mono ?_
  rintro _ _ _ ⟨rfl, rfl, rfl⟩
  refine ⟨rfl, rfl, effect.sound sound, ?_, fun row => mem_changedRows isRow rfl isAvailable, ?_⟩
  · exact heldCount_changed (fun row isSource => by simp [Slot.Held, isSource])
      fun row => by simp [Slot.Held]
  · intro row isOld different
    exact List.mem_map.mpr ⟨row, isOld, by simp [different]⟩

theorem rotate_alone (sound : Sound config memory engine) (isRow : slot ∈ memory.ledger.rows)
    (isAvailable : slot.state = .available) :
    Alone (attended config thread start) (rotate config slot) (Works config [slot.id] memory)
      memory engine := by
  refine Alone.bind (markDeleting_alone sound isRow isAvailable) ?_
  rintro _ middle _ ⟨rfl, rfl, isSound, held, cases, kept⟩
  have free : ∀ row ∈ middle.ledger.rows, row.id = slot.id → ¬ row.Held := by
    intro row isMiddle isID
    rcases cases row isMiddle with rfl | ⟨-, different⟩
    · simp [Slot.Held]
    · exact absurd isID different
  refine (replace_alone (discard_alone { slot with state := .deleting } isSound rfl free)).mono ?_
  intro done after engine' works
  refine ⟨works.ok, works.sound, works.advanced.held.trans held, ?_, ?_⟩
  · intro row isAfter
    rcases works.advanced.settled row isAfter with isFree | ⟨isMiddle, different⟩
    · exact .inl isFree
    · rcases cases row isMiddle with rfl | ⟨isOld, -⟩
      · exact absurd List.mem_cons_self different
      · exact .inr ⟨isOld, different⟩
  · intro row isOld different
    exact works.advanced.kept row (kept row isOld (by simpa using different)) different

theorem Advanced.skip (isRow : slot ∈ memory.ledger.rows) (isAvailable : slot.state = .available) :
    Advanced [slot.id] memory memory where
  held := rfl
  settled row isOld := by
    by_cases same : row.id = slot.id
    · rw [memory.ledger.row_eq isOld isRow same]
      exact .inl isAvailable
    · exact .inr ⟨isOld, by simpa using same⟩
  kept _ isOld _ := isOld

/-- The slot is one that a pass works on; a creating one was reserved long enough ago. -/
structure Workable (start : Time) (slot : Slot) : Prop where
  listed : slot.state ∈ [SlotState.available, .creating, .deleting]
  aged : slot.state = .creating → slot.createdAt + seconds (5 * 60) ≤ start

theorem now_alone : Alone (attended config thread start) now (fun at_ memory' engine' =>
    start ≤ at_ ∧ memory' = memory ∧ engine' = engine) memory engine :=
  Alone.look (exists_calm config thread start memory) fun _ calm => ⟨calm.now, rfl, rfl⟩

theorem maintainSlot_alone (sound : Sound config memory engine) (isRow : slot ∈ memory.ledger.rows)
    (workable : Workable start slot) :
    Alone (attended config thread start) (maintainSlot config slot) (Works config [slot.id] memory)
      memory engine := by
  refine Alone.bind now_alone ?_
  rintro at_ memory engine ⟨isLater, rfl, rfl⟩
  have listed := workable.listed
  cases isState : slot.state with
  | available =>
    simp only
    split
    · exact rotate_alone sound isRow isState
    · exact Alone.ret ⟨rfl, sound, .skip isRow isState⟩
  | creating =>
    have aged := workable.aged isState
    have notYoung : ¬ (at_ - slot.createdAt < seconds (5 * 60)) := by
      exact Int.not_lt.mpr (Int.le_sub_left_of_add_le (Int.le_trans aged isLater))
    simp only [notYoung, if_false]
    exact replace_alone (recoverCreating_alone sound isRow isState)
  | deleting =>
    have free := memory.ledger.free_of_row isRow (by simp [Slot.Held, isState])
    exact replace_alone (discard_alone slot sound isState free)
  | claiming => simp [isState] at listed
  | claimed => simp [isState] at listed

theorem maintainSlots_alone (slots : List Slot) (sound : Sound config memory engine)
    (ready : ∀ slot ∈ slots, slot ∈ memory.ledger.rows ∧ Workable start slot)
    (distinct : (slots.map (·.id)).Nodup) :
    Alone (attended config thread start) (maintainSlots config slots)
      (Works config (slots.map (·.id)) memory) memory engine := by
  induction slots generalizing memory engine with
  | nil =>
    exact Alone.ret ⟨rfl, sound, rfl, fun row isRow => .inr ⟨isRow, by simp⟩,
      fun _ isRow _ => isRow⟩
  | cons slot rest ih =>
    obtain ⟨isRow, workable⟩ := ready slot List.mem_cons_self
    obtain ⟨isNew, restDistinct⟩ := List.nodup_cons.mp distinct
    refine Alone.bind (maintainSlot_alone sound isRow workable) ?_
    intro done middle engine' first
    rw [first.ok]
    have others : ∀ other ∈ rest, other ∈ middle.ledger.rows ∧ Workable start other := by
      intro other isOther
      obtain ⟨wasRow, isWorkable⟩ := ready other (List.mem_cons_of_mem _ isOther)
      refine ⟨first.advanced.kept other wasRow ?_, isWorkable⟩
      simp only [List.mem_singleton]
      exact fun same => isNew (List.mem_map.mpr ⟨other, isOther, same⟩)
    refine (ih first.sound others restDistinct).mono ?_
    intro done' after engine'' second
    exact ⟨second.ok, second.sound, first.advanced.trans second.advanced⟩

/-- **A pass leaves every slot available or held, and the pool full.** -/
theorem maintain_alone (sound : Sound config memory engine)
    (aged : ∀ row ∈ memory.ledger.rows, row.state = .creating →
      row.createdAt + seconds (5 * 60) ≤ start) :
    Alone (attended config thread start) (maintain config) (fun done memory' engine' =>
      done = true ∧ Sound config memory' engine' ∧
        availableCount memory' + heldCount memory = config.target) memory engine := by
  refine Alone.bind (listStates_alone _) ?_
  rintro _ memory engine ⟨rfl, rfl, slots, rfl, distinct, listed⟩
  have ready : ∀ slot ∈ slots, slot ∈ memory.ledger.rows ∧ Workable start slot := by
    intro slot isSlot
    obtain ⟨isRow, isListed⟩ := (listed slot).mp isSlot
    exact ⟨isRow, isListed, aged slot isRow⟩
  refine Alone.bind (maintainSlots_alone slots sound ready distinct) ?_
  intro done middle engine' works
  rw [works.ok]
  refine (refill_alone works.sound).mono ?_
  rintro done' after engine'' ⟨filled, isFull⟩
  have advanced := works.advanced.trans filled.advanced
  refine ⟨filled.ok, filled.sound, ?_⟩
  -- What is neither available nor held was listed, and worked on.
  have split : ∀ row ∈ after.ledger.rows, ¬ row.state = .available → row.Held := by
    intro row isRow notAvailable
    rcases advanced.settled row isRow with isAvailable | ⟨isOld, isOther⟩
    · exact absurd isAvailable notAvailable
    · have unlisted : row ∉ slots := fun isSlot => by
        simp only [List.append_nil] at isOther
        exact isOther (List.mem_map_of_mem isSlot)
      have notListed : ¬ row.state ∈ [SlotState.available, .creating, .deleting] :=
        fun isListed => unlisted ((listed row).mpr ⟨isOld, isListed⟩)
      cases isState : row.state <;> simp [Slot.Held, isState] at notListed ⊢
  have counted : after.ledger.rows.length = availableCount after + heldCount after := by
    rw [availableCount, heldCount, List.length_eq_countP_add_countP
      (fun row : Slot => decide (row.state = .available))]
    congr 1
    apply List.countP_congr
    intro row isRow
    simp only [decide_eq_true_eq]
    refine ⟨fun notAvailable => by simpa using split row isRow (by simpa using notAvailable), ?_⟩
    intro isHeld isAvailable
    simp [Slot.Held, isAvailable] at isHeld
  rw [← advanced.held, ← isFull, counted]

end Brezel.Warm
