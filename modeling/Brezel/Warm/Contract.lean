import Brezel.Warm.System

/-!
# What the pool keeps

`Sound` is what always holds of the pool's memory and the engine.  Slots and machines belong
together one to one: an identifier is reserved once, a reserved slot is asked for once, and a
machine is entered only in the slot it was created for.  A slot is claimed once, and a machine that
was handed out was claimed by the one who got it, or created for them.

`Accounted` says that every machine of the pool, present or still to come, has a row.  It needs an
engine and callers that are orderly (`Orderly`); `Inv` therefore takes it under the condition
`careful`.

An access may do what `Effect` says, and a call must be permitted (`Permitted`): a machine is asked
for by the thread that has taken its slot.
-/

namespace Brezel.Warm

open Domain Service Monitor

variable {id localID : String} {after : Engine} {query : Query} {identity : Identity}

/-! ## Invariants -/

/-- The machine of a slot is still to come: the slot waits for its goroutine, or the engine has not
been asked yet, or it has not carried out the request. -/
def Outstanding (localID : String) (memory : Memory) (engine : Engine) : Prop :=
  localID ∈ memory.waiting.map (·.localID) ∨
    (∃ thread, (localID, some thread) ∈ memory.taken) ∧ slotIdentity localID ∉ engine.asked ∨
    slotIdentity localID ∈ engine.pending

/-- The slot's machine exists. -/
def Present (localID : String) (engine : Engine) : Prop :=
  ∃ machine ∈ engine.machines, machine.identity = slotIdentity localID

/-- The machine of a slot exists or is still to come. -/
def Alive (localID : String) (memory : Memory) (engine : Engine) : Prop :=
  Outstanding localID memory engine ∨ Present localID engine

/-- The identifier was drawn for a slot. -/
def isWarm (localID : String) : Bool := hasStart localID "warm_"

/-- The slot was once reserved. -/
def Entered (id localID : String) (memory : Memory) : Prop :=
  ∃ slot ∈ memory.reserved, slot.id = id ∧ slot.localID = localID

/-- The machine was once created for the slot. -/
def Born (machineID localID : String) (engine : Engine) : Prop :=
  ⟨machineID, slotIdentity localID⟩ ∈ engine.born

/-- The machine was claimed, created for the claim, or has no name. -/
def Earned (machineID : String) (claim : Claim) (memory : Memory) (engine : Engine) : Prop :=
  (∃ slot ∈ memory.reserved, Born machineID slot.localID engine ∧
    (slot.id, claim) ∈ memory.claims) ∨
  (⟨machineID, (claim.sandboxID, claim.projectID)⟩ ∈ engine.born ∧
    hasStart claim.sandboxID "sbx_" = true) ∨
  machineID = ""

/-- What stays true of a slot once it was seen: it was reserved, its machine was created for it, and
its claim was begun. -/
structure Seen (slot : Slot) (memory : Memory) (engine : Engine) : Prop where
  entered : Entered slot.id slot.localID memory
  machine : slot.backendID ≠ "" → Born slot.backendID slot.localID engine
  started : slot.state ≠ .creating → slot.backendID ≠ ""
  claimed : slot.state = .claiming ∨ slot.state = .claimed →
    (slot.id, slot.claim) ∈ memory.claims ∧ slot.claim.named = true

/-- What always holds of the rows. -/
structure RowsSound (config : Config) (memory : Memory) (engine : Engine) : Prop where
  target : memory.ledger.rows.length ≤ config.target
  seen : ∀ row ∈ memory.ledger.rows, Seen row memory engine
  unclaimed : ∀ row ∈ memory.ledger.rows, row.state = .creating ∨ row.state = .available →
    row.id ∉ memory.claims.map (·.1)

/-- What always holds of the pool's history. -/
structure HistorySound (memory : Memory) (engine : Engine) : Prop where
  ids : (memory.reserved.map (·.id)).Nodup
  localIDs : (memory.reserved.map (·.localID)).Nodup
  warm : ∀ slot ∈ memory.reserved, isWarm slot.localID = true
  waiting : ∀ slot ∈ memory.waiting, slot ∈ memory.reserved
  once : (memory.waiting.map (·.localID) ++ memory.taken.map (·.1)).Nodup
  taken : ∀ localID ∈ memory.taken.map (·.1), localID ∈ memory.reserved.map (·.localID)
  asked : ∀ localID, isWarm localID = true → slotIdentity localID ∈ engine.asked →
    localID ∈ memory.taken.map (·.1)
  claims : (memory.claims.map (·.1)).Nodup
  claimed : ∀ id ∈ memory.claims.map (·.1), id ∈ memory.reserved.map (·.id)
  returned : ∀ pair ∈ memory.returned, Earned pair.1 pair.2 memory engine

/-- What always holds of the engine. -/
structure EngineSound (engine : Engine) : Prop where
  ids : (engine.born.map (·.id)).Nodup
  named : ∀ machine ∈ engine.born, machine.id ≠ ""
  kept : engine.machines.Sublist engine.born
  bornAsked : ∀ machine ∈ engine.born, machine.identity ∈ engine.asked
  pendingAsked : ∀ identity ∈ engine.pending, identity ∈ engine.asked
  single : ∀ localID, isWarm localID = true →
    (engine.born.map (·.identity) ++ engine.pending).count (slotIdentity localID) ≤ 1

/-- A strict pool asks for machines of slots only. -/
def OnlySlots (config : Config) (engine : Engine) : Prop :=
  config.strict = true → ∀ identity ∈ engine.asked, ∃ localID,
    isWarm localID = true ∧ identity = slotIdentity localID

/-- What always holds of the pool and its engine. -/
structure Sound (config : Config) (memory : Memory) (outside : Engine) : Prop where
  rows : RowsSound config memory outside
  history : HistorySound memory outside
  engine : EngineSound outside
  strict : OnlySlots config outside

/-- Every machine of the pool, present or still to come, has a row. -/
def Accounted (memory : Memory) (engine : Engine) : Prop :=
  ∀ localID, isWarm localID = true → Alive localID memory engine →
    localID ∈ memory.ledger.rows.map (·.localID)

/-- The invariant; `careful` is the condition for the accounts. -/
def Inv (config : Config) (careful : Prop) (memory : Memory) (engine : Engine) : Prop :=
  Sound config memory engine ∧ (careful → Accounted memory engine)

/-! ## The contract -/

/-- The history only grows. -/
structure Grown (before after : Memory) : Prop where
  reserved : ∀ slot ∈ before.reserved, slot ∈ after.reserved
  taken : ∀ entry ∈ before.taken, entry ∈ after.taken
  claims : ∀ entry ∈ before.claims, entry ∈ after.claims

/-- What one access of a thread may do. -/
structure Effect (config : Config) (careful : Prop) (thread : Nat) (before after : Memory)
    (engine : Engine) : Prop where
  grown : Grown before after
  taken : ∀ entry ∈ after.taken, entry ∈ before.taken ∨
    entry.2 = some thread ∧ entry.1 ∈ before.waiting.map (·.localID)
  waiting : ∀ slot ∈ after.waiting, slot ∈ before.waiting ∨
    slot.localID ∉ before.reserved.map (·.localID)
  inv : Inv config careful before engine → Inv config careful after engine

/-- The calls a thread may make: a slot's machine is asked for once, by the thread that took the
slot, and a strict pool asks for no other machine. -/
def Permitted (config : Config) (thread : Nat) : Query → Memory → Engine → Prop
  | .create request, memory, engine =>
    (isWarm request.localSandboxID = true → request.projectID = poolProjectID ∧
      (request.localSandboxID, some thread) ∈ memory.taken ∧
      identityOf request ∉ engine.asked) ∧
    (config.strict = true → isWarm request.localSandboxID = true)
  | _, _, _ => True

/-- An orderly answer.  A machine that is created for a slot is reported running, with its
identifier; a slot's machine is reported absent only when none is still to come; and nobody deletes
a machine without naming it. -/
def Orderly : (query : Query) → Except BackendError query.Answer → Memory → Engine → Prop
  | .create request, reply, _, _ => isWarm request.localSandboxID = true →
      ∀ remote : RemoteSandbox, reply = .ok remote → remote.id ≠ "" ∧ remote.state = .running
  | .find localID _, reply, memory, engine => isWarm localID = true →
      reply = .error .notFound → ¬ Outstanding localID memory engine
  | .delete backendID, _, _, _ => backendID ≠ ""
  | _, _, _, _ => True

/-- The contract of the pool. -/
def contract (config : Config) (careful : Prop) : Contract interface Engine Memory where
  view memory := memory
  Inv := Inv config careful
  Change := Effect config careful
  Permit := Permitted config
  Given _ _ _ _ := True
  Trust query reply memory engine := careful → Orderly query reply memory engine

variable {config : Config} {careful : Prop} {thread : Nat} {memory : Memory} {engine : Engine}
variable {reply : Except BackendError query.Answer}

theorem Grown.refl (memory : Memory) : Grown memory memory :=
  ⟨fun _ => id, fun _ => id, fun _ => id⟩

theorem Effect.refl (memory : Memory) : Effect config careful thread memory memory engine :=
  ⟨.refl memory, fun _ => .inl, fun _ => .inl, id⟩

theorem Entered.kept {after : Memory} (entered : Entered id localID memory)
    (grown : Grown memory after) : Entered id localID after := by
  obtain ⟨slot, isReserved, same⟩ := entered
  exact ⟨slot, grown.reserved slot isReserved, same⟩

theorem Seen.kept {slot : Slot} {after : Memory} (seen : Seen slot memory engine)
    (grown : Grown memory after) : Seen slot after engine where
  entered := seen.entered.kept grown
  machine := seen.machine
  started := seen.started
  claimed isClaimed := (seen.claimed isClaimed).imp (grown.claims _) id

theorem Earned.kept {machineID : String} {claim : Claim} {after : Memory}
    (earned : Earned machineID claim memory engine) (grown : Grown memory after) :
    Earned machineID claim after engine := by
  rcases earned with ⟨slot, isReserved, isBorn, isClaim⟩ | cold | empty
  · exact .inl ⟨slot, grown.reserved slot isReserved, isBorn, grown.claims _ isClaim⟩
  · exact .inr (.inl cold)
  · exact .inr (.inr empty)

/-- One identifier has one local identifier. -/
theorem HistorySound.localID_eq (history : HistorySound memory engine) {first second : String}
    (left : Entered id first memory) (right : Entered id second memory) : first = second := by
  obtain ⟨slot, isSlot, isID, rfl⟩ := left
  obtain ⟨other, isOther, isID', rfl⟩ := right
  have same : slot = other :=
    List.inj_on_of_nodup_map history.ids isSlot isOther (isID.trans isID'.symm)
  rw [same]

theorem HistorySound.isWarm_of_entered (history : HistorySound memory engine)
    (entered : Entered id localID memory) : isWarm localID = true := by
  obtain ⟨slot, isSlot, -, rfl⟩ := entered
  exact history.warm slot isSlot

theorem HistorySound.owner_eq (history : HistorySound memory engine) {first second : Option Nat}
    (left : (localID, first) ∈ memory.taken) (right : (localID, second) ∈ memory.taken) :
    first = second := by
  have once : (memory.taken.map (·.1)).Nodup := (List.nodup_append.mp history.once).2.1
  have same := List.inj_on_of_nodup_map once left right rfl
  exact congrArg Prod.snd same

theorem HistorySound.taken_not_waiting (history : HistorySound memory engine)
    (isTaken : localID ∈ memory.taken.map (·.1)) : localID ∉ memory.waiting.map (·.localID) := by
  intro isWaiting
  exact (List.nodup_append.mp history.once).2.2 localID isWaiting localID isTaken rfl

/-! ## The engine's steps -/

/-- What the engine's steps keep: its history grows. -/
structure EngineGrown (before after : Engine) : Prop where
  born : ∀ machine ∈ before.born, machine ∈ after.born
  asked : ∀ identity ∈ before.asked, identity ∈ after.asked

theorem EngineGrown.refl (engine : Engine) : EngineGrown engine engine := ⟨fun _ => id, fun _ => id⟩

theorem respond_grown (answered : respond engine query reply after) : EngineGrown engine after := by
  cases query with
  | create request =>
    cases answered with
    | created id unused state =>
      exact ⟨fun _ => List.mem_cons_of_mem _, fun _ => List.mem_cons_of_mem _⟩
    | unnamed id unused state =>
      exact ⟨fun _ => List.mem_cons_of_mem _, fun _ => List.mem_cons_of_mem _⟩
    | answerLost id unused error =>
      exact ⟨fun _ => List.mem_cons_of_mem _, fun _ => List.mem_cons_of_mem _⟩
    | late error => exact ⟨fun _ => id, fun _ => List.mem_cons_of_mem _⟩
    | declined error => exact ⟨fun _ => id, fun _ => List.mem_cons_of_mem _⟩
  | find localID projectID =>
    rw [answered.1]
    exact .refl engine
  | inspect backendID =>
    rw [answered.1]
    exact .refl engine
  | delete backendID =>
    cases answered with
    | deleted => exact ⟨fun _ => id, fun _ => id⟩
    | absent none => exact .refl _
    | answerLost error isFailure => exact ⟨fun _ => id, fun _ => id⟩
    | failed error isFailure => exact .refl _
  | setTimeout backendID ttlSeconds =>
    have same : after = engine := answered
    rw [same]
    exact .refl engine

theorem asked_of_respond
    (answered : respond engine query reply after) (isAsked : identity ∈ after.asked) :
    identity ∈ engine.asked ∨
      ∃ request, query = .create request ∧ identity = identityOf request := by
  cases query with
  | create request =>
    have asked : after.asked = identityOf request :: engine.asked := by
      cases answered <;> rfl
    rw [asked] at isAsked
    rcases List.mem_cons.mp isAsked with same | wasAsked
    · exact .inr ⟨request, rfl, same⟩
    · exact .inl wasAsked
  | find localID projectID => exact .inl (answered.1 ▸ isAsked)
  | inspect backendID => exact .inl (answered.1 ▸ isAsked)
  | delete backendID => cases answered <;> exact .inl isAsked
  | setTimeout backendID ttlSeconds =>
    have same : after = engine := answered
    exact .inl (same ▸ isAsked)

theorem Drift.grown (drifted : Drift engine after) : EngineGrown engine after := by
  cases drifted with
  | lost kept isPart => exact ⟨fun _ => id, fun _ => id⟩
  | arrived name unused identity isPending => exact ⟨fun _ => List.mem_cons_of_mem _, fun _ => id⟩
  | dropped identity => exact ⟨fun _ => id, fun _ => id⟩

theorem Earned.grown {machineID : String} {claim : Claim}
    (earned : Earned machineID claim memory engine) (grown : EngineGrown engine after) :
    Earned machineID claim memory after := by
  rcases earned with ⟨slot, isReserved, isBorn, isClaim⟩ | ⟨isBorn, isSandbox⟩ | empty
  · exact .inl ⟨slot, isReserved, grown.born _ isBorn, isClaim⟩
  · exact .inr (.inl ⟨grown.born _ isBorn, isSandbox⟩)
  · exact .inr (.inr empty)

theorem Seen.grown {slot : Slot} (seen : Seen slot memory engine)
    (grown : EngineGrown engine after) : Seen slot memory after where
  entered := seen.entered
  machine isNamed := grown.born _ (seen.machine isNamed)
  started := seen.started
  claimed := seen.claimed

theorem RowsSound.grown (rows : RowsSound config memory engine) (grown : EngineGrown engine after) :
    RowsSound config memory after where
  target := rows.target
  seen row isRow := (rows.seen row isRow).grown grown
  unclaimed := rows.unclaimed

theorem HistorySound.grown (history : HistorySound memory engine) (grown : EngineGrown engine after)
    (asked : ∀ localID, isWarm localID = true → slotIdentity localID ∈ after.asked →
      localID ∈ memory.taken.map (·.1)) : HistorySound memory after where
  ids := history.ids
  localIDs := history.localIDs
  warm := history.warm
  waiting := history.waiting
  once := history.once
  taken := history.taken
  asked := asked
  claims := history.claims
  claimed := history.claimed
  returned pair isPair := (history.returned pair isPair).grown grown

namespace EngineSound

theorem born (sound : EngineSound engine) {machine : Machine}
    (isMachine : machine ∈ engine.machines) : machine ∈ engine.born :=
  sound.kept.subset isMachine

/-- What was never asked for is neither there nor to come. -/
theorem count_eq_zero (sound : EngineSound engine) (unasked : identity ∉ engine.asked) :
    (engine.born.map (·.identity) ++ engine.pending).count identity = 0 := by
  apply List.count_eq_zero_of_not_mem
  intro isThere
  rcases List.mem_append.mp isThere with isBorn | isPending
  · obtain ⟨machine, isMachine, rfl⟩ := List.mem_map.mp isBorn
    exact unasked (sound.bornAsked machine isMachine)
  · exact unasked (sound.pendingAsked identity isPending)

/-- The engine receives a request. -/
theorem ask (sound : EngineSound engine) (identity : Identity) :
    EngineSound (engine.ask identity) where
  ids := sound.ids
  named := sound.named
  kept := sound.kept
  bornAsked machine isMachine := List.mem_cons_of_mem _ (sound.bornAsked machine isMachine)
  pendingAsked other isPending := List.mem_cons_of_mem _ (sound.pendingAsked other isPending)
  single := sound.single

theorem add (sound : EngineSound engine) (unused : engine.Unused id)
    (isAsked : identity ∈ engine.asked)
    (alone : ∀ localID, isWarm localID = true → identity = slotIdentity localID →
      (engine.born.map (·.identity) ++ engine.pending).count identity = 0) :
    EngineSound (engine.add ⟨id, identity⟩) where
  ids := by
    simp only [Engine.add, List.map_cons, List.nodup_cons]
    refine ⟨fun isOld => ?_, sound.ids⟩
    obtain ⟨machine, isMachine, same⟩ := List.mem_map.mp isOld
    exact unused.2 machine isMachine same
  named := by
    intro machine isMachine
    rcases List.mem_cons.mp isMachine with rfl | isOld
    · exact unused.1
    · exact sound.named machine isOld
  kept := sound.kept.cons_cons _
  bornAsked := by
    intro machine isMachine
    rcases List.mem_cons.mp isMachine with rfl | isOld
    · exact isAsked
    · exact sound.bornAsked machine isOld
  pendingAsked := sound.pendingAsked
  single := by
    intro localID isSlot
    simp only [Engine.add, List.map_cons, List.cons_append]
    by_cases same : identity = slotIdentity localID
    · rw [← same, List.count_cons_self, alone localID isSlot same]
    · rw [List.count_cons_of_ne same]
      exact sound.single localID isSlot

/-- A request that is carried out later. -/
theorem pend (sound : EngineSound engine) (isAsked : identity ∈ engine.asked)
    (alone : ∀ localID, isWarm localID = true → identity = slotIdentity localID →
      (engine.born.map (·.identity) ++ engine.pending).count identity = 0) :
    EngineSound { engine with pending := identity :: engine.pending } where
  ids := sound.ids
  named := sound.named
  kept := sound.kept
  bornAsked := sound.bornAsked
  pendingAsked := by
    intro other isPending
    rcases List.mem_cons.mp isPending with rfl | isOld
    · exact isAsked
    · exact sound.pendingAsked other isOld
  single := by
    intro localID isSlot
    rw [List.perm_middle.count_eq]
    by_cases same : identity = slotIdentity localID
    · rw [← same, List.count_cons_self, alone localID isSlot same]
    · rw [List.count_cons_of_ne same]
      exact sound.single localID isSlot

/-- Fewer machines, or fewer requests to carry out. -/
theorem less (sound : EngineSound engine) (born : after.born = engine.born)
    (asked : after.asked = engine.asked) (machines : after.machines.Sublist engine.machines)
    (pending : after.pending.Sublist engine.pending) : EngineSound after where
  ids := by rw [born]; exact sound.ids
  named := by rw [born]; exact sound.named
  kept := by rw [born]; exact machines.trans sound.kept
  bornAsked := by rw [born, asked]; exact sound.bornAsked
  pendingAsked identity isPending := by
    rw [asked]
    exact sound.pendingAsked identity (pending.subset isPending)
  single localID isSlot := by
    rw [born]
    exact Nat.le_trans (((List.Sublist.refl _).append pending).count_le _)
      (sound.single localID isSlot)

end EngineSound

/-- A create call for an identity that is not a slot's, or that its owner asks for the first
time. -/
theorem EngineSound.create (sound : EngineSound engine) {reply : Except BackendError RemoteSandbox}
    (unasked : ∀ localID, isWarm localID = true → identity = slotIdentity localID →
      identity ∉ engine.asked) (answered : CreateAnswer engine identity reply after) :
    EngineSound after := by
  have isAsked : identity ∈ (engine.ask identity).asked := List.mem_cons_self
  have alone : ∀ localID, isWarm localID = true → identity = slotIdentity localID →
      ((engine.ask identity).born.map (·.identity) ++ (engine.ask identity).pending).count
        identity = 0 :=
    fun localID isSlot same => sound.count_eq_zero (unasked localID isSlot same)
  cases answered with
  | created id unused state => exact (sound.ask identity).add unused isAsked alone
  | unnamed id unused state => exact (sound.ask identity).add unused isAsked alone
  | answerLost id unused error => exact (sound.ask identity).add unused isAsked alone
  | late error => exact (sound.ask identity).pend isAsked alone
  | declined error => exact sound.ask identity

theorem EngineSound.drift (sound : EngineSound engine) (drifted : Drift engine after) :
    EngineSound after := by
  cases drifted with
  | lost kept isPart => exact sound.less rfl rfl isPart (.refl _)
  | dropped identity => exact sound.less rfl rfl (.refl _) List.erase_sublist
  | arrived name unused identity isPending =>
    -- The request that is carried out leaves the pending ones.
    have rest : EngineSound { engine with pending := engine.pending.erase identity } :=
      sound.less rfl rfl (.refl _) List.erase_sublist
    refine rest.add unused (sound.pendingAsked identity isPending) ?_
    intro localID isSlot same
    have single := sound.single localID isSlot
    have isThere := List.count_pos_iff.mpr isPending
    rw [← same, List.count_append] at single
    change (engine.born.map (·.identity) ++ engine.pending.erase identity).count identity = 0
    rw [List.count_append, List.count_erase_self]
    omega

/-! ## No machine out of nothing -/

theorem Permitted.unasked {request : CreateRequest}
    (permitted : Permitted config thread (.create request) memory engine)
    (isSlot : isWarm localID = true) (same : identityOf request = slotIdentity localID) :
    (localID, some thread) ∈ memory.taken ∧ slotIdentity localID ∉ engine.asked := by
  have isLocal : request.localSandboxID = localID := congrArg Prod.fst same
  subst isLocal
  obtain ⟨-, isTaken, unasked⟩ := permitted.1 isSlot
  rw [same] at unasked
  exact ⟨isTaken, unasked⟩

theorem CreateAnswer.alive {reply : Except BackendError RemoteSandbox}
    (answered : CreateAnswer engine identity reply after)
    (different : identity ≠ slotIdentity localID) (alive : Alive localID memory after) :
    Alive localID memory engine := by
  cases answered <;>
    simp [Alive, Outstanding, Present, Engine.ask, Engine.add, different, Ne.symm different]
      at alive ⊢ <;> tauto

theorem Alive.of_destroy (alive : Alive localID memory (engine.destroy id)) :
    Alive localID memory engine := by
  rcases alive with outstanding | ⟨machine, isMachine, isIdentity⟩
  · exact .inl outstanding
  · exact .inr ⟨machine, (List.mem_filter.mp isMachine).1, isIdentity⟩

/-- No call brings the machine of a slot to life. -/
theorem Alive.of_respond (permitted : Permitted config thread query memory engine)
    (answered : respond engine query reply after) (isSlot : isWarm localID = true)
    (alive : Alive localID memory after) : Alive localID memory engine := by
  cases query with
  | create request =>
    by_cases same : identityOf request = slotIdentity localID
    · obtain ⟨isTaken, unasked⟩ := permitted.unasked isSlot same
      exact .inl (.inr (.inl ⟨⟨thread, isTaken⟩, unasked⟩))
    · exact CreateAnswer.alive answered same alive
  | find localID projectID => rwa [answered.1] at alive
  | inspect backendID => rwa [answered.1] at alive
  | delete backendID =>
    cases answered with
    | deleted => exact alive.of_destroy
    | absent none => exact alive
    | answerLost error isFailure => exact alive.of_destroy
    | failed error isFailure => exact alive
  | setTimeout backendID ttlSeconds =>
    have same : after = engine := answered
    rwa [same] at alive

/-- Nothing comes to life by itself. -/
theorem Alive.of_drift (drifted : Drift engine after) (alive : Alive localID memory after) :
    Alive localID memory engine := by
  cases drifted with
  | lost kept isPart =>
    rcases alive with outstanding | ⟨machine, isMachine, isIdentity⟩
    · exact .inl outstanding
    · exact .inr ⟨machine, isPart.subset isMachine, isIdentity⟩
  | dropped identity =>
    rcases alive with (isWaiting | isTaken | isPending) | present
    · exact .inl (.inl isWaiting)
    · exact .inl (.inr (.inl isTaken))
    · exact .inl (.inr (.inr (List.mem_of_mem_erase isPending)))
    · exact .inr present
  | arrived id unused identity isPending =>
    rcases alive with (isWaiting | isTaken | isPending') | ⟨machine, isMachine, isIdentity⟩
    · exact .inl (.inl isWaiting)
    · exact .inl (.inr (.inl isTaken))
    · exact .inl (.inr (.inr (List.mem_of_mem_erase isPending')))
    · rcases List.mem_cons.mp isMachine with rfl | isOld
      · have same : identity = slotIdentity localID := isIdentity
        exact .inl (.inr (.inr (same ▸ isPending)))
      · exact .inr ⟨machine, isOld, isIdentity⟩

/-- No access brings the machine of a reserved slot to life. -/
theorem Alive.of_effect {after : Memory} (effect : Effect config careful thread memory after engine)
    (isReserved : localID ∈ memory.reserved.map (·.localID)) (alive : Alive localID after engine) :
    Alive localID memory engine := by
  rcases alive with (isWaiting | ⟨⟨owner, isTaken⟩, unasked⟩ | isPending) | present
  · obtain ⟨slot, isSlot, rfl⟩ := List.mem_map.mp isWaiting
    rcases effect.waiting slot isSlot with wasWaiting | isNew
    · exact .inl (.inl (List.mem_map_of_mem wasWaiting))
    · exact absurd isReserved isNew
  · rcases effect.taken _ isTaken with wasTaken | ⟨-, wasWaiting⟩
    · exact .inl (.inr (.inl ⟨⟨owner, wasTaken⟩, unasked⟩))
    · exact .inl (.inl wasWaiting)
  · exact .inl (.inr (.inr isPending))
  · exact .inr present

/-! ## Calls and drift keep the invariant -/

theorem EngineSound.call (sound : EngineSound engine)
    (permitted : Permitted config thread query memory engine)
    (answered : respond engine query reply after) : EngineSound after := by
  cases query with
  | create request =>
    refine sound.create (fun localID isSlot same => ?_) answered
    rw [same]
    exact (permitted.unasked isSlot same).2
  | find localID projectID => rwa [answered.1]
  | inspect backendID => rwa [answered.1]
  | delete backendID =>
    have shrunk : EngineSound (engine.destroy backendID) :=
      sound.less rfl rfl List.filter_sublist (.refl _)
    cases answered with
    | deleted => exact shrunk
    | absent none => exact sound
    | answerLost error isFailure => exact shrunk
    | failed error isFailure => exact sound
  | setTimeout backendID ttlSeconds =>
    have same : after = engine := answered
    rwa [same]

theorem Sound.call (sound : Sound config memory engine)
    (permitted : Permitted config thread query memory engine)
    (answered : respond engine query reply after) : Sound config memory after := by
  have grown := respond_grown answered
  refine ⟨sound.rows.grown grown, sound.history.grown grown ?_,
    sound.engine.call permitted answered, ?_⟩
  · intro localID isSlot isAsked
    rcases asked_of_respond answered isAsked with wasAsked | ⟨request, rfl, same⟩
    · exact sound.history.asked localID isSlot wasAsked
    · exact List.mem_map_of_mem (permitted.unasked isSlot same.symm).1
  · intro isStrict identity isAsked
    rcases asked_of_respond answered isAsked with wasAsked | ⟨request, rfl, rfl⟩
    · exact sound.strict isStrict identity wasAsked
    · have isSlot := permitted.2 isStrict
      refine ⟨request.localSandboxID, isSlot, ?_⟩
      rw [identityOf, slotIdentity, (permitted.1 isSlot).1]

theorem Inv.call (inv : Inv config careful memory engine)
    (permitted : Permitted config thread query memory engine)
    (answered : respond engine query reply after) : Inv config careful memory after :=
  ⟨inv.1.call permitted answered, fun isCareful localID isSlot alive =>
    inv.2 isCareful localID isSlot (alive.of_respond permitted answered isSlot)⟩

theorem Inv.drift (inv : Inv config careful memory engine) (drifted : Drift engine after) :
    Inv config careful memory after := by
  have same : after.asked = engine.asked := by cases drifted <;> rfl
  refine ⟨⟨inv.1.rows.grown drifted.grown, inv.1.history.grown drifted.grown ?_,
    inv.1.engine.drift drifted, ?_⟩, fun isCareful localID isSlot alive =>
      inv.2 isCareful localID isSlot (alive.of_drift drifted)⟩
  · rw [same]
    exact inv.1.history.asked
  · rw [OnlySlots, same]
    exact inv.1.strict

end Brezel.Warm
