import Brezel.Warm.Contract

/-!
# What one transaction of the pool does

Each access of the pool to its memory is an `Effect`: it keeps the invariant, takes only slots that
wait, and lets only new slots wait.  An update of rows keeps it when the changed rows stay sound
(`Effect.update`), and a row goes only when its machine is gone and none is to come
(`Effect.delete`).
-/

namespace Brezel.Warm

open Domain

variable {config : Config} {careful : Prop} {thread : Nat} {memory : Memory} {engine : Engine}
variable {next : Ledger} {changed : Nat} {choice : Choice} {slot : Slot}

/-! ## Rows -/

theorem Ledger.rows_of_install {rows : List Slot} (installed : Ledger.install rows = some next) :
    next.rows = rows := by
  simp only [Ledger.install, Option.dite_none_right_eq_some, Option.some.injEq] at installed
  obtain ⟨unique, rfl⟩ := installed
  rfl

theorem Ledger.rows_of_updateWhere {ledger : Ledger} {matching : Slot → Bool} {change : Slot → Slot}
    (updated : ledger.updateWhere matching change = some (changed, next)) :
    next.rows = ledger.rows.map fun row => if matching row then change row else row := by
  simp only [Ledger.updateWhere, Option.map_eq_some_iff] at updated
  obtain ⟨installed, isInstalled, same⟩ := updated
  have isNext : installed = next := congrArg Prod.snd same
  rw [← isNext]
  exact Ledger.rows_of_install isInstalled

/-- An identifier belongs to one row. -/
theorem Ledger.row_eq (ledger : Ledger) {first second : Slot} (isFirst : first ∈ ledger.rows)
    (isSecond : second ∈ ledger.rows) (same : first.id = second.id) : first = second :=
  List.inj_on_of_nodup_map ledger.unique.ids isFirst isSecond same

theorem Grown.rows (memory : Memory) (next : Ledger) :
    Grown memory { memory with ledger := next } :=
  ⟨fun _ => id, fun _ => id, fun _ => id⟩

theorem Effect.rows
    (sound : Sound config memory engine → RowsSound config { memory with ledger := next } engine)
    (accounted : careful → Sound config memory engine → Accounted memory engine →
      Accounted { memory with ledger := next } engine) :
    Effect config careful thread memory { memory with ledger := next } engine where
  grown := .rows memory next
  taken _ := .inl
  waiting _ := .inl
  -- The history says nothing about the rows.
  inv inv := ⟨⟨sound inv.1, { inv.1.history with }, inv.1.engine, inv.1.strict⟩,
    fun isCareful => accounted isCareful inv.1 (inv.2 isCareful)⟩

/-- What a row says is so, and an unclaimed slot has no claim. -/
structure RowSound (memory : Memory) (engine : Engine) (row : Slot) : Prop where
  seen : Seen row memory engine
  unclaimed : row.state = .creating ∨ row.state = .available → row.id ∉ memory.claims.map (·.1)

theorem RowsSound.row (rows : RowsSound config memory engine) {row : Slot}
    (isRow : row ∈ memory.ledger.rows) : RowSound memory engine row :=
  ⟨rows.seen row isRow, rows.unclaimed row isRow⟩

theorem RowSound.available {row : Slot} {backendID : String} (sound : RowSound memory engine row)
    (isCreating : row.state = .creating) (named : backendID ≠ "")
    (isBorn : Born backendID row.localID engine) :
    RowSound memory engine { row with backendID := backendID, state := .available } where
  seen := ⟨sound.seen.entered, fun _ => isBorn, fun _ => named, fun isHeld => by simp at isHeld⟩
  unclaimed _ := sound.unclaimed (.inl isCreating)

theorem RowSound.deleting {row : Slot} (sound : RowSound memory engine row)
    (started : row.state ≠ .creating) :
    RowSound memory engine { row with state := .deleting } where
  seen := ⟨sound.seen.entered, sound.seen.machine, fun _ => sound.seen.started started,
    fun isHeld => by simp at isHeld⟩
  unclaimed isFree := by simp at isFree

/-- **An update keeps the invariant when every changed row stays sound.** -/
theorem Effect.update {matching : Slot → Bool} {change : Slot → Slot}
    (updated : memory.ledger.updateWhere matching change = some (changed, next))
    (same : ∀ row, (change row).localID = row.localID)
    (step : ∀ row ∈ memory.ledger.rows, matching row = true → RowSound memory engine row →
      RowSound memory engine (change row)) :
    Effect config careful thread memory { memory with ledger := next } engine := by
  have isRows := Ledger.rows_of_updateWhere updated
  have sound : RowsSound config memory engine → ∀ row ∈ next.rows, RowSound memory engine row := by
    intro rows row isRow
    rw [isRows] at isRow
    obtain ⟨old, isOld, rfl⟩ := List.mem_map.mp isRow
    split
    · next isMatch => exact step old isOld isMatch (rows.row isOld)
    · exact rows.row isOld
  have locals : next.rows.map (·.localID) = memory.ledger.rows.map (·.localID) := by
    rw [isRows, List.map_map]
    apply List.map_congr_left
    intro row _
    simp only [Function.comp]
    split
    · exact same row
    · rfl
  refine Effect.rows (fun before => ⟨?_, ?_, ?_⟩) (fun _ _ accounted localID isSlot alive => ?_)
  · simp only [isRows, List.length_map]
    exact before.rows.target
  · exact fun row isRow => (sound before.rows row isRow).seen.kept (.rows memory next)
  · exact fun row isRow => (sound before.rows row isRow).unclaimed
  · have isThere := accounted localID isSlot alive
    simp only [locals]
    exact isThere

/-- **A row goes when its machine is gone and none is to come.** -/
theorem Effect.delete {id : String}
    (dead : careful → Sound config memory engine → ∀ row ∈ memory.ledger.rows, row.id = id →
      ¬ Alive row.localID memory engine) :
    Effect config careful thread memory { memory with ledger := memory.ledger.delete id }
      engine := by
  have isOld : ∀ row ∈ (memory.ledger.delete id).rows, row ∈ memory.ledger.rows :=
    fun row isRow => (List.mem_filter.mp isRow).1
  refine Effect.rows (fun before => ⟨?_, ?_, ?_⟩) (fun isCareful before accounted => ?_)
  · exact Nat.le_trans (List.length_filter_le _ _) before.rows.target
  · exact fun row isRow => (before.rows.seen row (isOld row isRow)).kept (.rows memory _)
  · exact fun row isRow => before.rows.unclaimed row (isOld row isRow)
  · intro localID isSlot alive
    obtain ⟨row, isRow, rfl⟩ := List.mem_map.mp (accounted localID isSlot alive)
    by_cases isGone : row.id = id
    · exact absurd alive (dead isCareful before row isRow isGone)
    · have stays : row ∈ (memory.ledger.delete id).rows := by
        simp [Ledger.delete, isRow, isGone]
      exact List.mem_map_of_mem stays

/-! ## Reserving and taking slots -/

theorem isWarm_newSlot (choice : Choice) (index : Nat) :
    isWarm (newSlot config choice index).localID = true := by
  simp [isWarm, hasStart, newSlot]

/-- The slots that `reserveMissing` enters. -/
def missing (config : Config) (choice : Choice) (memory : Memory) : List Slot :=
  (List.range (config.target - memory.ledger.rows.length)).map (newSlot config choice)

/-- What is known of a slot that is entered. -/
theorem missing_cases (isNew : slot ∈ missing config choice memory) :
    ∃ index < config.target, slot = newSlot config choice index := by
  obtain ⟨index, isIndex, rfl⟩ := List.mem_map.mp isNew
  rw [List.mem_range] at isIndex
  exact ⟨index, by omega, rfl⟩

/-- Identifiers drawn at different places differ. -/
theorem Fresh.inj (fresh : Fresh config choice memory) {first second : Nat}
    (isFirst : first < 2 * config.target) (isSecond : second < 2 * config.target)
    (same : choice.identifier first = choice.identifier second) : first = second :=
  List.inj_on_of_nodup_map fresh.distinct (List.mem_range.mpr isFirst)
    (List.mem_range.mpr isSecond) same

theorem append_right_inj {start first second : String} (same : start ++ first = start ++ second) :
    first = second := by
  simpa using same

/-- The names of the slots that are entered are distinct and new. -/
theorem missing_names {name : Slot → String} {start : String} {offset : Nat} (small : offset < 2)
    (fresh : Fresh config choice memory) (isName : ∀ index,
      name (newSlot config choice index) = start ++ choice.identifier (2 * index + offset))
    (isNew : ∀ index ∈ List.range (2 * config.target), ∀ slot ∈ memory.reserved,
      name slot ≠ start ++ choice.identifier index) :
    ((missing config choice memory).map name).Nodup ∧
      ∀ slot ∈ missing config choice memory, name slot ∉ memory.reserved.map name := by
  constructor
  · rw [missing, List.map_map]
    apply List.Nodup.map_on _ List.nodup_range
    intro first isFirst second isSecond same
    rw [List.mem_range] at isFirst isSecond
    rw [Function.comp, Function.comp, isName, isName] at same
    have isSame := fresh.inj (by omega) (by omega) (append_right_inj same)
    omega
  · intro slot isMissing isOld
    obtain ⟨index, isIndex, rfl⟩ := missing_cases isMissing
    obtain ⟨old, isReserved, same⟩ := List.mem_map.mp isOld
    exact isNew _ (List.mem_range.mpr (by omega)) old isReserved (same.trans (isName index))

theorem missing_ids (fresh : Fresh config choice memory) :
    ((missing config choice memory).map (·.id)).Nodup ∧
      ∀ slot ∈ missing config choice memory, slot.id ∉ memory.reserved.map (·.id) :=
  missing_names (by decide : 0 < 2) fresh (fun _ => rfl) fresh.ids

theorem missing_localIDs (fresh : Fresh config choice memory) :
    ((missing config choice memory).map (·.localID)).Nodup ∧
      ∀ slot ∈ missing config choice memory, slot.localID ∉ memory.reserved.map (·.localID) :=
  missing_names (by decide : 1 < 2) fresh (fun _ => rfl) fresh.localIDs

/-- New names before old ones. -/
theorem nodup_map_append {α : Type} {key : Slot → α} {first second : List Slot}
    (isFirst : (first.map key).Nodup) (isSecond : (second.map key).Nodup)
    (isNew : ∀ slot ∈ first, key slot ∉ second.map key) : ((first ++ second).map key).Nodup := by
  rw [List.map_append, List.nodup_append]
  refine ⟨isFirst, isSecond, ?_⟩
  intro left isLeft right isRight same
  obtain ⟨slot, isSlot, rfl⟩ := List.mem_map.mp isLeft
  exact isNew slot isSlot (same ▸ isRight)

theorem HistorySound.reserved_of_begun (history : HistorySound memory engine) {localID : String}
    (begun : localID ∈ memory.waiting.map (·.localID) ++ memory.taken.map (·.1)) :
    localID ∈ memory.reserved.map (·.localID) := by
  rcases List.mem_append.mp begun with isWaiting | isTaken
  · obtain ⟨slot, isSlot, rfl⟩ := List.mem_map.mp isWaiting
    exact List.mem_map_of_mem (history.waiting slot isSlot)
  · exact history.taken localID isTaken

theorem Effect.reserve {begun : List Slot} (fresh : Fresh config choice memory)
    (installed : Ledger.install (memory.ledger.rows ++ missing config choice memory) = some next)
    (isBegun : begun = [] ∨ begun = missing config choice memory) :
    Effect config careful thread memory { memory with
      ledger := next
      reserved := missing config choice memory ++ memory.reserved
      waiting := memory.waiting ++ begun } engine := by
  have isRows := Ledger.rows_of_install installed
  obtain ⟨idsNodup, idsNew⟩ := missing_ids fresh
  obtain ⟨localIDsNodup, localIDsNew⟩ := missing_localIDs fresh
  have begunNew : ∀ slot ∈ begun, slot ∈ missing config choice memory := by
    rcases isBegun with rfl | rfl
    · simp
    · exact fun _ => id
  have begunNodup : (begun.map (·.localID)).Nodup := by
    rcases isBegun with rfl | rfl
    · simp
    · exact localIDsNodup
  have grown : Grown memory { memory with
      ledger := next
      reserved := missing config choice memory ++ memory.reserved
      waiting := memory.waiting ++ begun } :=
    ⟨fun _ => List.mem_append_right _, fun _ => id, fun _ => id⟩
  refine ⟨grown, fun _ => .inl, List.forall_mem_append.mpr ⟨fun _ => .inl, fun slot isNew =>
    .inr (localIDsNew slot (begunNew slot isNew))⟩, fun inv =>
      ⟨⟨⟨?_, ?_, ?_⟩, ?_, inv.1.engine, inv.1.strict⟩, ?_⟩⟩
  · have isTarget := inv.1.rows.target
    simp only [isRows, List.length_append, missing, List.length_map, List.length_range]
    omega
  · simp only [isRows]
    refine List.forall_mem_append.mpr
      ⟨fun row isOld => (inv.1.rows.seen row isOld).kept grown, fun row isNew => ?_⟩
    have isReserved := List.mem_append_left memory.reserved isNew
    obtain ⟨index, -, rfl⟩ := missing_cases isNew
    exact ⟨⟨_, isReserved, rfl, rfl⟩, fun isNamed => absurd rfl isNamed,
      fun isOther => absurd rfl isOther, fun isClaimed => by simp [newSlot] at isClaimed⟩
  · simp only [isRows]
    exact List.forall_mem_append.mpr ⟨inv.1.rows.unclaimed, fun row isNew _ isClaimed =>
      idsNew row isNew (inv.1.history.claimed row.id isClaimed)⟩
  · have history := inv.1.history
    refine { history with
      ids := nodup_map_append idsNodup history.ids idsNew
      localIDs := nodup_map_append localIDsNodup history.localIDs localIDsNew
      warm := List.forall_mem_append.mpr ⟨fun slot isNew => ?_, history.warm⟩
      waiting := List.forall_mem_append.mpr
        ⟨fun slot wasWaiting => List.mem_append_right _ (history.waiting slot wasWaiting),
          fun slot isNew => List.mem_append_left _ (begunNew slot isNew)⟩
      once := ?_
      taken := fun localID isTaken => ?_
      claimed := fun id isClaimed => ?_
      returned := fun pair isPair => (history.returned pair isPair).kept grown }
    · obtain ⟨index, -, rfl⟩ := missing_cases isNew
      exact isWarm_newSlot choice index
    · -- The new slots neither wait nor were taken before.
      have shuffled : ((memory.waiting ++ begun).map (·.localID) ++ memory.taken.map (·.1)).Perm
          (begun.map (·.localID) ++ (memory.waiting.map (·.localID) ++
            memory.taken.map (·.1))) := by
        rw [List.map_append, ← List.append_assoc]
        exact List.perm_append_comm.append_right _
      refine shuffled.nodup_iff.mpr (List.nodup_append.mpr ⟨begunNodup, history.once, ?_⟩)
      intro left isLeft right isRight same
      obtain ⟨slot, isSlot, rfl⟩ := List.mem_map.mp isLeft
      subst same
      exact localIDsNew slot (begunNew slot isSlot) (history.reserved_of_begun isRight)
    · simp only [List.map_append]
      exact List.mem_append_right _ (history.taken localID isTaken)
    · simp only [List.map_append]
      exact List.mem_append_right _ (history.claimed id isClaimed)
  · intro isCareful localID isSlot alive
    have accounted := inv.2 isCareful localID isSlot
    simp only [isRows, List.map_append]
    rcases alive with (isWaiting | isTaken | isPending) | present
    · simp only [List.map_append] at isWaiting
      rcases List.mem_append.mp isWaiting with wasWaiting | isNew
      · exact List.mem_append_left _ (accounted (.inl (.inl wasWaiting)))
      · obtain ⟨slot, isBegunSlot, rfl⟩ := List.mem_map.mp isNew
        exact List.mem_append_right _ (List.mem_map_of_mem (begunNew slot isBegunSlot))
    · exact List.mem_append_left _ (accounted (.inl (.inr (.inl isTaken))))
    · exact List.mem_append_left _ (accounted (.inl (.inr (.inr isPending))))
    · exact List.mem_append_left _ (accounted (.inr present))

theorem Effect.take {owners : List (String × Option Nat)} (isWaiting : slot ∈ memory.waiting)
    (isOwners : owners = [] ∨ owners = [(slot.localID, some thread)]) :
    Effect config careful thread memory { memory with
      waiting := memory.waiting.erase slot
      taken := owners ++ memory.taken } engine := by
  have isOwner : ∀ entry ∈ owners, entry = (slot.localID, some thread) := by
    rcases isOwners with rfl | rfl <;> simp
  have ownersNodup : (owners.map (·.1)).Nodup := by
    rcases isOwners with rfl | rfl <;> simp
  have grown : Grown memory { memory with
      waiting := memory.waiting.erase slot
      taken := owners ++ memory.taken } :=
    ⟨fun _ => id, fun _ => List.mem_append_right _, fun _ => id⟩
  refine ⟨grown, List.forall_mem_append.mpr ⟨fun entry isNew => .inr ?_, fun _ => .inl⟩,
    fun _ isLeft => .inl (List.mem_of_mem_erase isLeft), fun inv =>
      ⟨⟨{ inv.1.rows with seen := fun row isRow => (inv.1.rows.seen row isRow).kept grown }, ?_,
        inv.1.engine, inv.1.strict⟩, ?_⟩⟩
  · rw [isOwner entry isNew]
    exact ⟨rfl, List.mem_map_of_mem isWaiting⟩
  · have history := inv.1.history
    refine { history with
      waiting := fun other isLeft => history.waiting other (List.mem_of_mem_erase isLeft)
      once := ?_
      taken := fun localID isTaken => ?_
      asked := fun localID isSlot isAsked => ?_ }
    · -- The slot is taken once: it leaves the queue.
      obtain ⟨waitingNodup, takenNodup, apart⟩ := List.nodup_append.mp history.once
      have rest : ∀ localID ∈ (memory.waiting.erase slot).map (·.localID),
          localID ∈ memory.waiting.map (·.localID) ∧ localID ≠ slot.localID := by
        intro localID isLeft
        obtain ⟨other, isOther, rfl⟩ := List.mem_map.mp isLeft
        have isOld := List.mem_of_mem_erase isOther
        refine ⟨List.mem_map_of_mem isOld, fun same => ?_⟩
        have isSame := List.inj_on_of_nodup_map waitingNodup isOld isWaiting same
        rw [isSame] at isOther
        exact (List.Nodup.of_map _ waitingNodup).not_mem_erase isOther
      simp only [List.map_append]
      refine List.nodup_append.mpr ⟨waitingNodup.sublist (List.erase_sublist.map _),
        List.nodup_append.mpr ⟨ownersNodup, takenNodup, ?_⟩, ?_⟩
      · intro left isLeft right isRight same
        obtain ⟨entry, isEntry, rfl⟩ := List.mem_map.mp isLeft
        rw [isOwner entry isEntry] at same
        exact apart _ (List.mem_map_of_mem isWaiting) right isRight same
      · intro left isLeft right isRight same
        rcases List.mem_append.mp isRight with isNew | isOld
        · obtain ⟨entry, isEntry, rfl⟩ := List.mem_map.mp isNew
          rw [isOwner entry isEntry] at same
          exact (rest left isLeft).2 same
        · exact apart left (rest left isLeft).1 right isOld same
    · simp only [List.map_append] at isTaken
      rcases List.mem_append.mp isTaken with isNew | isOld
      · obtain ⟨entry, isEntry, rfl⟩ := List.mem_map.mp isNew
        rw [isOwner entry isEntry]
        exact List.mem_map_of_mem (history.waiting slot isWaiting)
      · exact history.taken localID isOld
    · simp only [List.map_append]
      exact List.mem_append_right _ (history.asked localID isSlot isAsked)
  · intro isCareful localID isSlot alive
    apply inv.2 isCareful localID isSlot
    rcases alive with (isLeft | ⟨⟨owner, isTaken⟩, unasked⟩ | isPending) | present
    · exact .inl (.inl ((List.erase_sublist.map _).subset isLeft))
    · rcases List.mem_append.mp isTaken with isNew | isOld
      · have same := isOwner _ isNew
        have isLocal : localID = slot.localID := congrArg Prod.fst same
        rw [isLocal]
        exact .inl (.inl (List.mem_map_of_mem isWaiting))
      · exact .inl (.inr (.inl ⟨⟨owner, isOld⟩, unasked⟩))
    · exact .inl (.inr (.inr isPending))
    · exact .inr present

/-! ## Claims -/

/-- **An available slot is claimed for the first time.** -/
theorem Effect.claim {claim : Claim} {claimExpiresAt : Time} (isRow : slot ∈ memory.ledger.rows)
    (isAvailable : slot.state = .available) (named : claim.named = true)
    (updated : memory.ledger.updateWhere (fun row => row.id = slot.id && row.state = .available)
      (claimedBy claim claimExpiresAt) = some (changed, next)) :
    Effect config careful thread memory { memory with
      ledger := next
      claims := (slot.id, claim) :: memory.claims } engine := by
  have isRows := Ledger.rows_of_updateWhere updated
  have grown : Grown memory { memory with
      ledger := next
      claims := (slot.id, claim) :: memory.claims } :=
    ⟨fun _ => id, fun _ => id, fun _ => List.mem_cons_of_mem _⟩
  -- The rows are the claimed slot and the others, which have other identifiers.
  have cases : ∀ row ∈ next.rows, row = claimedBy claim claimExpiresAt slot ∨
      row ∈ memory.ledger.rows ∧ row.id ≠ slot.id := by
    intro row isNext
    rw [isRows] at isNext
    obtain ⟨old, isOld, rfl⟩ := List.mem_map.mp isNext
    by_cases same : old.id = slot.id
    · have isSlot := memory.ledger.row_eq isOld isRow same
      rw [isSlot]
      simp [isAvailable]
    · simp [same, isOld]
  refine ⟨grown, fun _ => .inl, fun _ => .inl, fun inv =>
    ⟨⟨⟨?_, ?_, ?_⟩, ?_, inv.1.engine, inv.1.strict⟩, ?_⟩⟩
  · simp only [isRows, List.length_map]
    exact inv.1.rows.target
  · intro row isNext
    rcases cases row isNext with rfl | ⟨isOld, -⟩
    · have isSeen := inv.1.rows.seen slot isRow
      have started := isSeen.started (by simp [isAvailable])
      exact ⟨isSeen.entered, isSeen.machine, fun _ => started,
        fun _ => ⟨List.mem_cons_self, named⟩⟩
    · exact (inv.1.rows.seen row isOld).kept grown
  · intro row isNext isState isClaimed
    rcases cases row isNext with rfl | ⟨isOld, different⟩
    · simp [claimedBy] at isState
    · simp only [List.map_cons, List.mem_cons] at isClaimed
      rcases isClaimed with same | wasClaimed
      · exact different same
      · exact inv.1.rows.unclaimed row isOld isState wasClaimed
  · have history := inv.1.history
    refine { history with
      claims := List.nodup_cons.mpr
        ⟨inv.1.rows.unclaimed slot isRow (.inr isAvailable), history.claims⟩
      claimed := fun id isClaimed => ?_
      returned := fun pair isPair => (history.returned pair isPair).kept grown }
    · simp only [List.map_cons, List.mem_cons] at isClaimed
      rcases isClaimed with rfl | wasClaimed
      · obtain ⟨reserved, isReserved, same, -⟩ := (inv.1.rows.seen slot isRow).entered
        rw [← same]
        exact List.mem_map_of_mem isReserved
      · exact history.claimed id wasClaimed
  · intro isCareful localID isSlot alive
    obtain ⟨row, isOld, rfl⟩ := List.mem_map.mp (inv.2 isCareful localID isSlot alive)
    simp only [isRows, List.map_map]
    refine List.mem_map.mpr ⟨row, isOld, ?_⟩
    simp only [Function.comp]
    split <;> rfl

/-- A machine is handed out to whom it belongs. -/
theorem Effect.return {machineID : String} {claim : Claim}
    (earned : Earned machineID claim memory engine) :
    Effect config careful thread memory { memory with
      returned := (machineID, claim) :: memory.returned } engine := by
  have grown : Grown memory { memory with returned := (machineID, claim) :: memory.returned } :=
    ⟨fun _ => id, fun _ => id, fun _ => id⟩
  exact ⟨grown, fun _ => .inl, fun _ => .inl, fun inv =>
    ⟨⟨{ inv.1.rows with seen := fun row isRow => (inv.1.rows.seen row isRow).kept grown },
      { inv.1.history with returned := List.forall_mem_cons.mpr ⟨earned, inv.1.history.returned⟩ },
      inv.1.engine, inv.1.strict⟩, inv.2⟩⟩

end Brezel.Warm
