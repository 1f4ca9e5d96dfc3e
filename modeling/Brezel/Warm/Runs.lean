import Brezel.Warm.Programs
import Brezel.Warm.Schedule

/-!
# Runs of the pool

`upheld` makes the invariant of the pool hold in every world that a run reaches, over every
interleaving of its operations with crashes, failing transactions and failing calls.

* `slots_are_single_use`: a machine of the pool is handed out to one sandbox, a claimed slot is
  never available again, and a sandbox holds one slot.
* `ledger_accounts_for_machines`: with an orderly engine, every machine of the pool has a row.
  `machine_without_row` shows what happens otherwise: a machine whose creation was given up and
  looked for too early has no row.
-/

namespace Brezel.Warm

open Service Monitor

variable {config : Config} {careful : Prop}

/-! ## The contract along runs -/

/-- A restart loses the goroutines only. -/
theorem Inv.restart {memory : Memory} {engine : Engine} (inv : Inv config careful memory engine) :
    Inv config careful ((system config).restart memory) engine := by
  have history := inv.1.history
  have names : ((system config).restart memory).taken.map (·.1) = memory.taken.map (·.1) := by
    simp [system, Function.comp_def]
  have grown : ∀ slot, Seen slot memory engine →
      Seen slot ((system config).restart memory) engine :=
    fun slot seen => ⟨seen.entered, seen.machine, seen.started, seen.claimed⟩
  refine ⟨⟨⟨inv.1.rows.target, fun row isRow => grown row (inv.1.rows.seen row isRow),
    inv.1.rows.unclaimed⟩, ⟨history.ids, history.localIDs, history.warm, ?_, ?_, ?_, ?_,
      history.claims, history.claimed, history.returned⟩, inv.1.engine, inv.1.strict⟩, ?_⟩
  · intro slot isWaiting
    cases isWaiting
  · rw [names]
    exact (List.nodup_append.mp history.once).2.1
  · rw [names]
    exact history.taken
  · rw [names]
    exact history.asked
  · intro isCareful localID isSlot alive
    apply inv.2 isCareful localID isSlot
    rcases alive with (isWaiting | ⟨⟨owner, isTaken⟩, -⟩ | isPending) | present
    · cases isWaiting
    · obtain ⟨entry, -, same⟩ := List.mem_map.mp isTaken
      cases congrArg Prod.snd same
    · exact .inl (.inr (.inr isPending))
    · exact .inr present

/-- **The pool keeps its contract.** -/
theorem upheld : Contract.Upheld (system config) (contract config careful) where
  access _ _ _ _ inv changed _ := changed.inv inv
  call _ _ _ _ _ _ inv permitted _ answered _ := Inv.call inv permitted answered
  drift _ _ _ inv drifted _ := Inv.drift inv drifted
  restart _ _ inv := Inv.restart inv
  entries _ _ memory engine entry _ :=
    Prog.secures_mono (entry_spec entry memory engine trivial) fun _ _ _ _ ended => ended.1

/-- Every call of a careful run gets an orderly answer. -/
def OrderlyStep (world : World interface Engine) (action : Action interface) : Prop :=
  ∀ thread query reply, action = .call thread query reply →
    Orderly query reply world.memory world.outside

theorem inv_fresh : Inv config careful ⟨.empty, [], [], [], [], []⟩ .empty := by
  refine ⟨⟨⟨Nat.zero_le _, ?_, ?_⟩, ?_, ?_, ?_⟩, ?_⟩
  · intro row isRow
    cases isRow
  · intro row isRow
    cases isRow
  · constructor <;> simp [Engine.empty]
  · constructor <;> simp [Engine.empty]
  · intro _ identity isAsked
    cases isAsked
  · intro _ localID _ alive
    simp [Alive, Outstanding, Present, Engine.empty] at alive

theorem holds_of_run {allowed : World interface Engine → Action interface → Prop}
    {world : World interface Engine} (orderly : careful → ∀ world action, allowed world action →
      OrderlyStep world action)
    (reached : Transition.Run (Step (system config)) allowed fresh world) :
    (contract config careful).Holds (system config) world := by
  refine reached.invariant (Contract.Holds.idle inv_fresh)
    fun before action after holds permitted taken => ?_
  exact upheld.holds_step holds taken (fun _ _ _ _ _ _ => trivial)
    fun thread query reply isCall isCareful =>
      orderly isCareful before action permitted thread query reply isCall

theorem claims_of_run {world later : World interface Engine}
    (holds : (contract config False).Holds (system config) world)
    (continued : Transition.Run (Step (system config)) (fun _ _ => True) world later) :
    (contract config False).Holds (system config) later ∧
      ∀ entry ∈ world.memory.claims, entry ∈ later.memory.claims := by
  induction continued with
  | start => exact ⟨holds, fun _ => id⟩
  | @next before after action _ _ taken ih =>
    obtain ⟨holds, grown⟩ := ih
    refine ⟨upheld.holds_step holds taken (fun _ _ _ _ _ _ => trivial)
      (fun _ _ _ _ isCareful => isCareful.elim), fun entry isEntry => ?_⟩
    have wasEntry := grown entry isEntry
    rcases holds.change_of_step taken (fun _ _ _ _ _ _ => trivial) with same |
      ⟨_, changed⟩ | isRestart
    · have unchanged : after.memory = before.memory := same
      rw [unchanged]
      exact wasEntry
    · exact changed.grown.claims entry wasEntry
    · rw [isRestart]
      exact wasEntry

/-! ## Slots are single-use -/

/-- The machine was created for a slot. -/
def OfPool (machine : Machine) : Prop :=
  ∃ localID, isWarm localID = true ∧ machine.identity = slotIdentity localID

/-- The slot is claimed, or being claimed. -/
def Slot.Held (slot : Slot) : Prop := slot.state = .claiming ∨ slot.state = .claimed

theorem Sound.claim_of_returned {memory : Memory} {engine : Engine}
    (sound : Sound config memory engine) {machine : Machine} {localID : String} {claim : Claim}
    (isBorn : machine ∈ engine.born) (isSlot : isWarm localID = true)
    (isIdentity : machine.identity = slotIdentity localID)
    (isReturned : (machine.id, claim) ∈ memory.returned) :
    ∃ slot ∈ memory.reserved, slot.localID = localID ∧ (slot.id, claim) ∈ memory.claims := by
  have same : ∀ identity, ⟨machine.id, identity⟩ ∈ engine.born →
      identity = slotIdentity localID := by
    intro identity isOther
    have isMachine := List.inj_on_of_nodup_map sound.engine.ids isOther isBorn rfl
    rw [← isIdentity, ← isMachine]
  rcases sound.history.returned _ isReturned with ⟨slot, isReserved, isMine, isClaim⟩ | cold | empty
  · exact ⟨slot, isReserved, congrArg Prod.fst (same _ isMine), isClaim⟩
  · have isLocal : claim.sandboxID = localID := congrArg Prod.fst (same _ cold.1)
    have isSandbox := not_isWarm cold.2
    rw [isLocal, isSlot] at isSandbox
    cases isSandbox
  · exact absurd empty (sound.engine.named machine isBorn)

theorem Ledger.held_eq (ledger : Ledger) {first second : Slot} (isFirst : first ∈ ledger.rows)
    (isSecond : second ∈ ledger.rows) (named : first.claim.named = true)
    (same : first.claim = second.claim) : first = second := by
  have unique := ledger.unique.claims
  rw [List.filter_map] at unique
  refine List.inj_on_of_nodup_map unique ?_ ?_ same
  · exact List.mem_filter.mpr ⟨isFirst, named⟩
  · exact List.mem_filter.mpr ⟨isSecond, by rw [Function.comp_apply, ← same]; exact named⟩

/-- **Slots are single-use.**  Over every interleaving of the pool's operations with crashes and
restarts, a machine of the pool is handed out to one sandbox, a slot that was claimed is never
available again, and a sandbox holds one slot. -/
theorem slots_are_single_use (config : Config) {world later : World interface Engine}
    (reached : Transition.Run (Step (system config)) (fun _ _ => True) fresh world)
    (continued : Transition.Run (Step (system config)) (fun _ _ => True) world later) :
    (∀ machine ∈ world.outside.born, OfPool machine → ∀ first second,
      (machine.id, first) ∈ world.memory.returned →
      (machine.id, second) ∈ world.memory.returned → first = second) ∧
    (∀ row ∈ world.memory.ledger.rows, row.Held → ∀ row' ∈ later.memory.ledger.rows,
      row'.id = row.id → row'.state ≠ .available) ∧
    (∀ first ∈ world.memory.ledger.rows, ∀ second ∈ world.memory.ledger.rows,
      first.Held → second.Held → first.claim = second.claim → first = second) := by
  have holds : (contract config False).Holds (system config) world :=
    holds_of_run (fun isCareful => isCareful.elim) reached
  have sound : Sound config world.memory world.outside := holds.inv.1
  refine ⟨?_, ?_, ?_⟩
  · intro machine isBorn ofPool first second isFirst isSecond
    obtain ⟨localID, isSlot, isIdentity⟩ := ofPool
    obtain ⟨slot, isReserved, isLocal, isClaim⟩ :=
      sound.claim_of_returned isBorn isSlot isIdentity isFirst
    obtain ⟨other, isReserved', isLocal', isClaim'⟩ :=
      sound.claim_of_returned isBorn isSlot isIdentity isSecond
    have sameSlot : slot = other := List.inj_on_of_nodup_map sound.history.localIDs isReserved
      isReserved' (isLocal.trans isLocal'.symm)
    rw [← sameSlot] at isClaim'
    have samePair := List.inj_on_of_nodup_map sound.history.claims isClaim isClaim' rfl
    exact congrArg Prod.snd samePair
  · intro row isRow held row' isRow' sameID isAvailable
    obtain ⟨holdsLater, grown⟩ := claims_of_run holds continued
    have soundLater : Sound config later.memory later.outside := holdsLater.inv.1
    have isClaim := grown _ ((sound.rows.seen row isRow).claimed held).1
    refine soundLater.rows.unclaimed row' isRow' (.inr isAvailable) ?_
    rw [sameID]
    exact List.mem_map_of_mem isClaim
  · intro first isFirst second isSecond held _ same
    have named := ((sound.rows.seen first isFirst).claimed held).2
    exact world.memory.ledger.held_eq isFirst isSecond named same

theorem issued_sample : Issued (claimOf (sampleRequest "sbx_1")) := ⟨by decide, by decide⟩

/-- A slot is created, claimed and handed out; then the process crashes. -/
theorem slots_are_single_use_claimed : ∃ world later : World interface Engine,
    Transition.Run (Step (system sampleConfig)) (fun _ _ => True) fresh world ∧
    Transition.Run (Step (system sampleConfig)) (fun _ _ => True) world later ∧
    world.memory.returned = [("vm0", ⟨"project", "sbx_1"⟩)] ∧
    (∀ row ∈ world.memory.ledger.rows, row.Held → ∀ row' ∈ later.memory.ledger.rows,
      row'.id = row.id → row'.state ≠ .available) := by
  obtain ⟨world, reached, evaluated⟩ := exists_reached (fun _ _ => True) fresh
    (starting sampleConfig 1 0 .maintain 13 true ++
      starting sampleConfig 2 5 (.create (sampleRequest "sbx_1") issued_sample) 14 true)
    (fun world => decide (world.memory.returned = [("vm0", ⟨"project", "sbx_1"⟩)]))
    (by decide +kernel)
  have continued : Transition.Run (Step (system sampleConfig)) (fun _ _ => True) world
      (World.idle ((system sampleConfig).restart world.memory) world.outside) :=
    .next .start trivial .crash
  exact ⟨world, _, reached, continued, of_decide_eq_true evaluated,
    (slots_are_single_use sampleConfig reached continued).2.1⟩

/-! ## The ledger accounts for machines -/

theorem Accounted.rows {memory : Memory} {engine : Engine} (accounted : Accounted memory engine)
    {machine : Machine} (isMachine : machine ∈ engine.machines) (ofPool : OfPool machine) :
    ∃ row ∈ memory.ledger.rows, slotIdentity row.localID = machine.identity := by
  obtain ⟨localID, isSlot, isIdentity⟩ := ofPool
  have isThere := accounted localID isSlot (.inr ⟨machine, isMachine, isIdentity⟩)
  obtain ⟨row, isRow, isLocal⟩ := List.mem_map.mp isThere
  exact ⟨row, isRow, by rw [isLocal, isIdentity]⟩

theorem EngineSound.identities_nodup {engine : Engine} (sound : EngineSound engine)
    (ofPool : ∀ machine ∈ engine.machines, OfPool machine) :
    (engine.machines.map (·.identity)).Nodup := by
  rw [List.nodup_iff_count_le_one]
  intro identity
  by_cases isThere : identity ∈ engine.machines.map (·.identity)
  · obtain ⟨machine, isMachine, rfl⟩ := List.mem_map.mp isThere
    obtain ⟨localID, isSlot, isIdentity⟩ := ofPool machine isMachine
    have single := sound.single localID isSlot
    have fewer := (sound.kept.map (·.identity)).count_le machine.identity
    rw [← isIdentity, List.count_append] at single
    omega
  · rw [List.count_eq_zero_of_not_mem isThere]
    exact Nat.zero_le 1

theorem Sound.machines_le {memory : Memory} {engine : Engine} (sound : Sound config memory engine)
    (accounted : Accounted memory engine) (isStrict : config.strict = true) :
    engine.machines.length ≤ memory.ledger.rows.length := by
  have ofPool : ∀ machine ∈ engine.machines, OfPool machine := by
    intro machine isMachine
    have isAsked := sound.engine.bornAsked machine (sound.engine.born isMachine)
    exact sound.strict isStrict _ isAsked
  have covered : engine.machines.map (·.identity) ⊆
      memory.ledger.rows.map fun row => slotIdentity row.localID := by
    intro identity isThere
    obtain ⟨machine, isMachine, rfl⟩ := List.mem_map.mp isThere
    obtain ⟨row, isRow, same⟩ := accounted.rows isMachine (ofPool machine isMachine)
    exact List.mem_map.mpr ⟨row, isRow, same⟩
  have counted := (List.subperm_of_subset (sound.engine.identities_nodup ofPool) covered).length_le
  simpa using counted

/-- **The ledger accounts for every machine.**  In every run whose answers are orderly, the rows do
not exceed the target, every machine of the pool that exists has a row, and a strict pool has at
most as many machines as the target says. -/
theorem ledger_accounts_for_machines (config : Config) {world : World interface Engine}
    (reached : Transition.Run (Step (system config)) OrderlyStep fresh world) :
    world.memory.ledger.rows.length ≤ config.target ∧
    (∀ machine ∈ world.outside.machines, OfPool machine →
      ∃ row ∈ world.memory.ledger.rows, slotIdentity row.localID = machine.identity) ∧
    (config.strict = true → world.outside.machines.length ≤ config.target) := by
  have holds : (contract config True).Holds (system config) world :=
    holds_of_run (fun _ _ _ => id) reached
  have sound : Sound config world.memory world.outside := holds.inv.1
  have accounted : Accounted world.memory world.outside := holds.inv.2 trivial
  refine ⟨sound.rows.target, fun machine isMachine => accounted.rows isMachine, fun isStrict => ?_⟩
  exact Nat.le_trans (sound.machines_le accounted isStrict) sound.rows.target

instance (localID : String) (memory : Memory) (engine : Engine) :
    Decidable (Outstanding localID memory engine) :=
  have owners : (∃ entry ∈ memory.taken, entry.1 = localID ∧ entry.2.isSome = true) ↔
      ∃ thread, (localID, some thread) ∈ memory.taken := by
    constructor
    · rintro ⟨⟨name, owner⟩, isTaken, rfl, isOwned⟩
      obtain ⟨thread, rfl⟩ := Option.isSome_iff_exists.mp isOwned
      exact ⟨thread, isTaken⟩
    · rintro ⟨thread, isTaken⟩
      exact ⟨_, isTaken, rfl, rfl⟩
  have : Decidable (∃ thread, (localID, some thread) ∈ memory.taken) := decidable_of_iff _ owners
  inferInstanceAs (Decidable (_ ∨ _ ∧ _ ∨ _))

instance : (query : Query) → (reply : Except BackendError query.Answer) → (memory : Memory) →
    (engine : Engine) → Decidable (Orderly query reply memory engine)
  | .create _, .error _, _, _ => isTrue fun _ _ isOk => by cases isOk
  | .create request, .ok (remote : RemoteSandbox), _, _ =>
    decidable_of_iff (isWarm request.localSandboxID = true →
        remote.id ≠ "" ∧ remote.state = .running)
      ⟨fun orderly isSlot other isOk => Except.ok.inj isOk ▸ orderly isSlot,
        fun orderly isSlot => orderly isSlot remote rfl⟩
  | .find _ _, .ok _, _, _ => isTrue fun _ isAbsent => by cases isAbsent
  | .find localID _, .error error, memory, engine =>
    decidable_of_iff (isWarm localID = true → error = .notFound →
        ¬ Outstanding localID memory engine)
      ⟨fun orderly isSlot isAbsent => orderly isSlot (Except.error.inj isAbsent),
        fun orderly isSlot isAbsent => orderly isSlot (congrArg Except.error isAbsent)⟩
  | .delete backendID, _, _, _ => inferInstanceAs (Decidable (backendID ≠ ""))
  | .inspect _, _, _, _ => isTrue trivial
  | .setTimeout _ _, _, _, _ => isTrue trivial

instance (world : World interface Engine) : (action : Action interface) →
    Decidable (OrderlyStep world action)
  | .call _ query reply =>
    decidable_of_iff (Orderly query reply world.memory world.outside)
      ⟨fun orderly _ _ _ isCall => by cases isCall; exact orderly,
        fun orderly => orderly _ query reply rfl⟩
  | .spawn _ _ => isTrue fun _ _ _ isCall => by cases isCall
  | .act _ _ => isTrue fun _ _ _ isCall => by cases isCall
  | .lock _ => isTrue fun _ _ _ isCall => by cases isCall
  | .unlock _ => isTrue fun _ _ _ isCall => by cases isCall
  | .note _ _ => isTrue fun _ _ _ isCall => by cases isCall
  | .drift => isTrue fun _ _ _ isCall => by cases isCall
  | .crash => isTrue fun _ _ _ isCall => by cases isCall

/-- A maintenance pass fills the sample pool, with orderly answers. -/
theorem ledger_accounts_for_sample : ∃ world : World interface Engine,
    Transition.Run (Step (system sampleConfig)) OrderlyStep fresh world ∧
    world.outside.machines.length = 1 ∧
    world.outside.machines.length ≤ sampleConfig.target := by
  obtain ⟨world, reached, evaluated⟩ := exists_reached OrderlyStep fresh
    (starting sampleConfig 1 0 .maintain 13 true)
    (fun world => decide (world.outside.machines.length = 1)) (by decide +kernel)
  exact ⟨world, reached, of_decide_eq_true evaluated,
    (ledger_accounts_for_machines sampleConfig reached).2.2 rfl⟩

/-- A request whose answer was given up is carried out. -/
def arriving (config : Config) : Move (system config) :=
  .drift
    (fun engine => match engine.pending with
      | [] => none
      | identity :: _ => if engine.Unused "late" then
          some { engine.add ⟨"late", identity⟩ with pending := engine.pending.erase identity }
        else none)
    (fun before after arrived => by
      dsimp only at arrived
      split at arrived
      · cases arrived
      next identity rest isPending =>
      split at arrived
      · next unused =>
        cases arrived
        exact .arrived _ unused identity (by rw [isPending]; exact List.mem_cons_self)
      · cases arrived)

/-- **A machine without a row.**  The request for a machine fails on the way, the lookup that
follows finds no machine, and the slot's row is removed; then the engine carries the request out.
The next pass creates a second machine for a strict pool of one. -/
theorem machine_without_row : ∃ world : World interface Engine,
    Transition.Run (Step (system sampleConfig)) (fun _ _ => True) fresh world ∧
    (∃ machine ∈ world.outside.machines, OfPool machine ∧
      ∀ row ∈ world.memory.ledger.rows, slotIdentity row.localID ≠ machine.identity) ∧
    sampleConfig.strict = true ∧ sampleConfig.target < world.outside.machines.length := by
  obtain ⟨world, reached, evaluated⟩ := exists_reached (fun _ _ => True) fresh
    (starting sampleConfig 1 0 .maintain 14 false ++ [arriving sampleConfig] ++
      starting sampleConfig 2 0 .maintain 13 true)
    (fun world => world.outside.machines.any (fun machine =>
        isWarm machine.identity.1 && decide (machine.identity.2 = poolProjectID) &&
          world.memory.ledger.rows.all fun row =>
            decide (slotIdentity row.localID ≠ machine.identity)) &&
      decide (1 < world.outside.machines.length)) (by decide +kernel)
  simp only [Bool.and_eq_true, List.any_eq_true, List.all_eq_true, decide_eq_true_eq] at evaluated
  obtain ⟨⟨machine, isMachine, ⟨isSlot, isPool⟩, unaccounted⟩, more⟩ := evaluated
  refine ⟨world, reached, ⟨machine, isMachine, ⟨machine.identity.1, isSlot, ?_⟩, unaccounted⟩, rfl,
    more⟩
  rw [slotIdentity, ← isPool]

end Brezel.Warm
