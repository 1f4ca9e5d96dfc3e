import Brezel.Warm.Ledger

/-!
# Rules for the pool's code

A thread of the pool knows little of the rows, which others change between its transactions.  What
it knows lasts: that a slot was reserved and its machine created for it (`Seen`), that a slot's
machine is gone for good (`Dead`), that a machine may be handed out (`Earned`).  Besides, the thread
that took a slot knows that nobody else asks for its machine (`Own`).
-/

namespace Brezel.Warm

open Domain Service Monitor

variable {α : Type} {known : Memory → Engine → Prop}

/-- What a program of the pool assumes and promises. -/
abbrev Spec (config : Config) (careful : Prop) (thread : Nat) {α : Type}
    (known : Memory → Engine → Prop) (code : Code α) (post : α → Memory → Engine → Prop) : Prop :=
  Contract.Between (system config) (contract config careful) thread known code post

/-- Nobody destroys the fact. -/
abbrev Kept (config : Config) (careful : Prop) (fact : Memory → Engine → Prop) : Prop :=
  Contract.Persistent (system config) (contract config careful) fact

variable {config : Config} {careful : Prop} {thread : Nat} {memory : Memory} {engine : Engine}

/-! ## Facts that last -/

theorem Kept.of_grown {fact : Memory → Engine → Prop}
    (memories : ∀ before after engine, Grown before after → fact before engine → fact after engine)
    (engines : ∀ memory before after, EngineGrown before after → fact memory before →
      fact memory after) : Kept config careful fact where
  access _ before after engine _ changed := memories before after engine changed.grown
  call _ _ _ memory before after _ _ _ answered :=
    engines memory before after (respond_grown answered)
  drift memory before after _ drifted := engines memory before after (Drift.grown drifted)

theorem Kept.entered (id localID : String) :
    Kept config careful fun memory _ => Entered id localID memory :=
  .of_grown (fun _ _ _ grown entered => entered.kept grown) fun _ _ _ _ entered => entered

theorem Kept.born (machineID localID : String) :
    Kept config careful fun _ engine => Born machineID localID engine :=
  .of_grown (fun _ _ _ _ isBorn => isBorn) fun _ _ _ grown isBorn => grown.born _ isBorn

theorem Kept.seen (slot : Slot) : Kept config careful (Seen slot) :=
  .of_grown (fun _ _ _ grown seen => seen.kept grown) fun _ _ _ grown seen => seen.grown grown

theorem Kept.earned (machineID : String) (claim : Claim) :
    Kept config careful (Earned machineID claim) :=
  .of_grown (fun _ _ _ grown earned => earned.kept grown)
    fun _ _ _ grown earned => earned.grown grown

/-- The machine of a slot is gone, and none is to come. -/
def Dead (localID : String) (memory : Memory) (engine : Engine) : Prop :=
  localID ∈ memory.reserved.map (·.localID) ∧ ¬ Alive localID memory engine

theorem Kept.dead (localID : String) : Kept config careful (Dead localID) := by
  have isWarm : ∀ {memory engine}, Inv config careful memory engine → Dead localID memory engine →
      isWarm localID = true := by
    intro memory engine inv dead
    obtain ⟨slot, isSlot, rfl⟩ := List.mem_map.mp dead.1
    exact inv.1.history.warm slot isSlot
  constructor
  · intro thread before after engine inv changed dead
    obtain ⟨slot, isSlot, same⟩ := List.mem_map.mp dead.1
    refine ⟨List.mem_map.mpr ⟨slot, changed.grown.reserved slot isSlot, same⟩, fun alive => ?_⟩
    exact dead.2 (alive.of_effect changed dead.1)
  · intro thread query reply memory before after inv permitted _ answered dead
    exact ⟨dead.1, fun alive => dead.2 (alive.of_respond permitted answered (isWarm inv dead))⟩
  · intro memory before after inv drifted dead
    exact ⟨dead.1, fun alive => dead.2 (alive.of_drift drifted)⟩

/-- The thread creates the slot's machine and has not asked for it yet. -/
def Own (localID : String) (thread : Nat) (memory : Memory) (engine : Engine) : Prop :=
  (localID, some thread) ∈ memory.taken ∧ slotIdentity localID ∉ engine.asked ∧
    isWarm localID = true

theorem stable_own (localID : String) :
    Contract.Stable (system config) (contract config careful) thread false
      (Own localID thread) := by
  intro before after step own
  obtain ⟨isTaken, unasked, isSlot⟩ := own
  cases step with
  | access inv distinct changed => exact ⟨changed.grown.taken _ isTaken, unasked, isSlot⟩
  | call inv distinct permitted trusted answered =>
    refine ⟨isTaken, fun isAsked => ?_, isSlot⟩
    rcases asked_of_respond answered isAsked with wasAsked | ⟨request, rfl, same⟩
    · exact unasked wasAsked
    · have owned := (Permitted.unasked permitted isSlot same.symm).1
      have isOwner := inv.1.history.owner_eq owned isTaken
      exact distinct (Option.some.inj isOwner)
  | drift inv drifted =>
    refine ⟨isTaken, ?_, isSlot⟩
    cases drifted <;> exact unasked

/-- The fact holds of what was found. -/
def Found {α : Type} (fact : α → Memory → Engine → Prop) : Option α → Memory → Engine → Prop
  | none, _, _ => True
  | some value, memory, engine => fact value memory engine

theorem Kept.found {fact : α → Memory → Engine → Prop}
    (kept : ∀ value, Kept config careful (fact value)) (result : Option α) :
    Kept config careful (Found fact result) := by
  cases result with
  | none => exact .const True
  | some value => exact kept value

/-! ## Transactions -/

/-- A transaction fails, or succeeds without the caller knowing, or succeeds. -/
theorem attempt_cases (body : Choice → Memory → Option (α × Memory))
    (reported : α → Memory → Memory) (choice : Choice) (memory : Memory) :
    attempt body reported choice memory = (none, memory) ∨
      ∃ value next, body choice memory = some (value, next) ∧
        (attempt body reported choice memory = (none, next) ∨
          attempt body reported choice memory = (some value, reported value next)) := by
  cases isBody : body choice memory with
  | none =>
    have failed : attempt body reported choice memory = (none, memory) := by
      cases isFault : choice.fault <;> simp [attempt, isFault, isBody]
    exact .inl failed
  | some result =>
    obtain ⟨value, next⟩ := result
    cases isFault : choice.fault with
    | refused => exact .inl (by simp [attempt, isFault])
    | applied => exact .inr ⟨value, next, rfl, .inl (by simp [attempt, isFault, isBody])⟩
    | none => exact .inr ⟨value, next, rfl, .inr (by simp [attempt, isFault, isBody])⟩

theorem Spec.transacts {body : Choice → Memory → Option (α × Memory)}
    {reported : α → Memory → Memory} {fact : α → Memory → Engine → Prop}
    (keptKnown : Kept config careful known) (kept : ∀ value, Kept config careful (fact value))
    (step : ∀ choice memory engine value next, known memory engine →
      Inv config careful memory engine → Admissible config thread choice memory →
      body choice memory = some (value, next) →
      Effect config careful thread memory next engine ∧
        Effect config careful thread memory (reported value next) engine ∧
        fact value (reported value next) engine) :
    Spec config careful thread known (transaction body reported) (Found fact) := by
  refine Contract.Between.atomic (keptKnown.stable false)
    (fun result => (Kept.found kept result).stable false) ?_
  intro choice memory engine isKnown inv admissible _
  change Effect config careful thread memory (attempt body reported choice memory).2 engine ∧
    Found fact (attempt body reported choice memory).1 (attempt body reported choice memory).2
      engine
  rcases attempt_cases body reported choice memory with failed | ⟨value, next, isBody, outcome⟩
  · rw [failed]
    exact ⟨.refl memory, trivial⟩
  · obtain ⟨applied, done, holds⟩ := step choice memory engine value next isKnown inv
      admissible isBody
    rcases outcome with unreported | success
    · rw [unreported]
      exact ⟨applied, trivial⟩
    · rw [success]
      exact ⟨done, holds⟩

theorem Spec.queries {body : Choice → Ledger → α} {fact : α → Memory → Engine → Prop}
    (kept : ∀ value, Kept config careful (fact value))
    (step : ∀ choice memory engine, Inv config careful memory engine →
      fact (body choice memory.ledger) memory engine) :
    Spec config careful thread (fun _ _ => True) (query body) (Found fact) := by
  refine Spec.transacts (.const True) kept ?_
  intro choice memory engine value next _ inv _ isBody
  obtain ⟨rfl, rfl⟩ := Prod.mk.inj (Option.some.inj isBody)
  exact ⟨.refl memory, .refl memory, step choice memory engine inv⟩

/-! ## Each transaction -/

theorem listStates_spec (states : List SlotState) :
    Spec config careful thread (fun _ _ => True) (listStates states)
      (Found fun slots memory engine => ∀ slot, slot ∈ slots → Seen slot memory engine) := by
  refine Spec.queries (fun slots => .all fun slot => .imp fun _ => Kept.seen slot) ?_
  intro choice memory engine inv slot isSlot
  have isRow : slot ∈ memory.ledger.rows.filter (·.state ∈ states) := List.mem_mergeSort.mp isSlot
  exact inv.1.rows.seen slot (List.mem_filter.mp isRow).1

/-- The slot is held for the claim. -/
def Holding (claim : Claim) (slot : Slot) (memory : Memory) (engine : Engine) : Prop :=
  Seen slot memory engine ∧ slot.claim = claim ∧ (slot.state = .claiming ∨ slot.state = .claimed)

theorem Kept.holding (claim : Claim) (slot : Slot) :
    Kept config careful (Holding claim slot) :=
  (Kept.seen slot).and (.const _)

theorem findClaim_spec (claim : Claim) :
    Spec config careful thread (fun _ _ => True) (findClaim claim)
      (Found (Found (Holding claim))) := by
  refine Spec.queries (Kept.found (Kept.holding claim)) ?_
  intro choice memory engine inv
  cases isFound : memory.ledger.rows.find? (fun row => row.claim = claim &&
      (row.state = .claiming || row.state = .claimed)) with
  | none => trivial
  | some slot =>
    have isRow := List.mem_of_find?_eq_some isFound
    have isClaim := List.find?_some isFound
    simp only [Bool.and_eq_true, Bool.or_eq_true, decide_eq_true_eq] at isClaim
    exact ⟨inv.1.rows.seen slot isRow, isClaim⟩

theorem findBackend_spec (backendID : String) :
    Spec config careful thread (fun _ _ => True) (findBackend backendID)
      (Found (Found fun slot memory engine =>
        Seen slot memory engine ∧ slot.backendID = backendID)) := by
  refine Spec.queries (Kept.found fun slot => (Kept.seen slot).and (.const _)) ?_
  intro choice memory engine inv
  cases isFound : memory.ledger.rows.find? (·.backendID = backendID) with
  | none => trivial
  | some slot =>
    have isBackend := List.find?_some isFound
    exact ⟨inv.1.rows.seen slot (List.mem_of_find?_eq_some isFound),
      of_decide_eq_true isBackend⟩

/-- A transaction whose result promises nothing. -/
theorem Spec.quiet {body : Choice → Memory → Option (α × Memory)} {reported : α → Memory → Memory}
    (kept : Kept config careful known)
    (step : ∀ choice memory engine value next, known memory engine →
      Inv config careful memory engine → Admissible config thread choice memory →
      body choice memory = some (value, next) →
      Effect config careful thread memory next engine ∧
        Effect config careful thread memory (reported value next) engine) :
    Spec config careful thread known (transaction body reported) fun _ _ _ => True := by
  have promised : Spec config careful thread known (transaction body reported)
      (Found fun _ _ _ => True) := by
    refine Spec.transacts kept (fun _ => .const True) ?_
    intro choice memory engine value next isKnown inv admissible isBody
    obtain ⟨applied, done⟩ := step choice memory engine value next isKnown inv admissible isBody
    exact ⟨applied, done, trivial⟩
  exact promised.mono (fun _ _ => id) fun _ _ _ _ => trivial

theorem Spec.ret {value : α} :
    Spec config careful thread known (pure value) fun _ _ _ => True :=
  Contract.Between.ret fun _ _ _ => trivial

theorem Spec.map {β : Type} {code : Code α} (result : α → β)
    (first : Spec config careful thread known code fun _ _ _ => True) :
    Spec config careful thread known (do let value ← code; return result value)
      fun _ _ _ => True :=
  first.bind fun _ => Spec.ret

theorem reserveMissing_spec :
    Spec config careful thread (fun _ _ => True) (reserveMissing config) fun _ _ _ => True := by
  refine Spec.quiet (.const True) ?_
  intro choice memory engine value next _ inv admissible isBody
  obtain ⟨installed, isInstalled, same⟩ := Option.map_eq_some_iff.mp isBody
  obtain ⟨rfl, rfl⟩ := Prod.mk.inj same
  constructor
  · have effect : Effect config careful thread memory _ engine :=
      Effect.reserve admissible.fresh isInstalled (.inl rfl)
    rw [List.append_nil] at effect
    exact effect
  · exact Effect.reserve admissible.fresh isInstalled (.inr rfl)

theorem Spec.update {matching : Slot → Bool} {change : Slot → Slot}
    (kept : Kept config careful known) (same : ∀ row, (change row).localID = row.localID)
    (step : ∀ memory engine row, known memory engine → Inv config careful memory engine →
      matching row = true → RowSound memory engine row → RowSound memory engine (change row)) :
    Spec config careful thread known
      (transaction (fun _ memory => (memory.ledger.updateWhere matching change).map
        fun result => (decide (result.1 = 1), { memory with ledger := result.2 }))
        fun _ memory => memory) fun _ _ _ => True := by
  refine Spec.quiet kept ?_
  intro choice memory engine value next isKnown inv _ isBody
  obtain ⟨⟨changed, ledger⟩, updated, isNext⟩ := Option.map_eq_some_iff.mp isBody
  obtain ⟨-, rfl⟩ := Prod.mk.inj isNext
  have effect : Effect config careful thread memory { memory with ledger := ledger } engine :=
    Effect.update updated same fun row _ isMatch => step memory engine row isKnown inv isMatch
  exact ⟨effect, effect⟩

/-- A creating slot gets the machine that was created for it. -/
theorem markAvailable_spec (id localID : String) {backendID : String} (named : backendID ≠ "") :
    Spec config careful thread
      (fun memory engine => Entered id localID memory ∧ Born backendID localID engine)
      (markAvailable id backendID) fun _ _ _ => True := by
  refine Spec.map _ (Spec.update ((Kept.entered id localID).and (Kept.born backendID localID))
    (fun _ => rfl) ?_)
  intro memory engine row known inv isMatch sound
  simp only [Bool.and_eq_true, decide_eq_true_eq] at isMatch
  obtain ⟨isID, isCreating⟩ := isMatch
  have isLocal : localID = row.localID :=
    inv.1.history.localID_eq known.1 (isID ▸ sound.seen.entered)
  exact sound.available isCreating named (isLocal ▸ known.2)

/-- A slot with a machine is quarantined. -/
theorem markDeleting_spec {id : String} {source : SlotState} (started : source ≠ .creating) :
    Spec config careful thread (fun _ _ => True) (markDeleting id source) fun _ _ _ => True := by
  refine Spec.update (.const True) (fun _ => rfl) ?_
  intro memory engine row _ inv isMatch sound
  simp only [Bool.and_eq_true, decide_eq_true_eq] at isMatch
  exact sound.deleting (isMatch.2 ▸ started)

theorem finishClaim_spec (id : String) (claim : Claim) :
    Spec config careful thread (fun _ _ => True) (finishClaim id claim) fun _ _ _ => True := by
  refine Spec.update (.const True) (fun _ => rfl) ?_
  intro memory engine row _ inv isMatch sound
  simp only [Bool.and_eq_true, decide_eq_true_eq] at isMatch
  obtain ⟨⟨-, isClaiming⟩, -⟩ := isMatch
  have isStarted := sound.seen.started (by simp [isClaiming])
  refine ⟨⟨sound.seen.entered, sound.seen.machine, fun _ => isStarted, ?_⟩, ?_⟩
  · exact fun _ => sound.seen.claimed (.inl isClaiming)
  · intro isFree
    simp at isFree

theorem claimable_cases {choice : Choice} {ledger : Ledger} {deadline : Time} {slot : Slot}
    (isClaimable : claimable choice ledger deadline = some slot) :
    slot ∈ ledger.rows ∧ slot.state = .available := by
  have isRow := List.mem_mergeSort.mp (List.mem_of_mem_head? isClaimable)
  simp only [List.mem_filter, Bool.and_eq_true, decide_eq_true_eq] at isRow
  exact ⟨isRow.1, isRow.2.1⟩

theorem beginClaim_spec {claim : Claim} {ttl : Int} (named : claim.named = true) :
    Spec config careful thread (fun _ _ => True) (beginClaim claim ttl)
      (Found (Found (Holding claim))) := by
  refine Spec.transacts (.const True) (Kept.found (Kept.holding claim)) ?_
  intro choice memory engine value next _ inv _ isBody
  cases isClaimable : claimable choice memory.ledger (choice.now + (ttl + claimSafety)) with
  | none =>
    simp only [isClaimable] at isBody
    obtain ⟨rfl, rfl⟩ := Prod.mk.inj (Option.some.inj isBody)
    exact ⟨.refl memory, .refl memory, trivial⟩
  | some slot =>
    obtain ⟨isRow, isAvailable⟩ := claimable_cases isClaimable
    simp only [isClaimable] at isBody
    cases updated : memory.ledger.updateWhere
        (fun row => row.id = slot.id && row.state = .available)
        (claimedBy claim (choice.nowAgain + ttl)) with
    | none =>
      simp only [updated] at isBody
      cases isBody
    | some result =>
      obtain ⟨changed, ledger⟩ := result
      simp only [updated] at isBody
      split at isBody
      · obtain ⟨rfl, rfl⟩ := Prod.mk.inj (Option.some.inj isBody)
        have effect : Effect config careful thread memory { memory with
            ledger := ledger
            claims := (slot.id, claim) :: memory.claims } engine :=
          Effect.claim isRow isAvailable named updated
        have isSeen := inv.1.rows.seen slot isRow
        have isStarted := isSeen.started (by simp [isAvailable])
        refine ⟨effect, effect, ⟨isSeen.entered, isSeen.machine, fun _ => isStarted,
          fun _ => ⟨List.mem_cons_self, named⟩⟩, rfl, .inl rfl⟩
      · cases isBody

theorem remove_spec (id localID : String) :
    Spec config careful thread
      (fun memory engine => Entered id localID memory ∧ (careful → Dead localID memory engine))
      (remove id) fun _ _ _ => True := by
  refine Spec.map _ (Spec.quiet ((Kept.entered id localID).and
    (.imp fun _ => Kept.dead localID)) ?_)
  intro choice memory engine value next known inv _ isBody
  obtain ⟨-, rfl⟩ := Prod.mk.inj (Option.some.inj isBody)
  have effect : Effect config careful thread memory
      { memory with ledger := memory.ledger.delete id } engine := by
    refine Effect.delete fun isCareful sound row isRow isID alive => ?_
    have isLocal : localID = row.localID :=
      sound.history.localID_eq known.1 (isID ▸ (sound.rows.seen row isRow).entered)
    rw [← isLocal] at alive
    exact (known.2 isCareful).2 alive
  exact ⟨effect, effect⟩

theorem takeSlot_spec (slot : Slot) :
    Spec config careful thread (fun _ _ => True) (takeSlot slot) fun start memory engine =>
      start = .mine → Entered slot.id slot.localID memory ∧
        Own slot.localID thread memory engine := by
  have lasts : ∀ start : Start, Contract.Stable (system config) (contract config careful) thread
      false fun memory engine => start = .mine →
        Entered slot.id slot.localID memory ∧ Own slot.localID thread memory engine := by
    intro start before after step known isMine
    obtain ⟨isEntered, own⟩ := known isMine
    exact ⟨(Kept.entered slot.id slot.localID).stable false step isEntered,
      stable_own slot.localID step own⟩
  refine Contract.Between.atomic ((Contract.Persistent.const True).stable false) lasts ?_
  intro choice memory engine _ inv admissible _
  have isThread : choice.thread = thread := admissible.thread
  by_cases isWaiting : slot ∈ memory.waiting
  · have isReserved := inv.1.history.waiting slot isWaiting
    have isSlot := inv.1.history.warm slot isReserved
    by_cases isCancelled : choice.cancelled = true
    · have effect : Effect config careful thread memory _ engine :=
        Effect.take isWaiting (.inl rfl)
      simp only [isWaiting, isCancelled, if_true]
      exact ⟨effect, fun isMine => by cases isMine⟩
    · have effect : Effect config careful thread memory _ engine :=
        Effect.take isWaiting (.inr rfl)
      simp only [isWaiting, isCancelled, if_true, isThread]
      refine ⟨effect, fun _ => ⟨⟨slot, isReserved, rfl, rfl⟩, List.mem_cons_self, ?_, isSlot⟩⟩
      intro isAsked
      have wasTaken := inv.1.history.asked slot.localID isSlot isAsked
      exact inv.1.history.taken_not_waiting wasTaken (List.mem_map_of_mem isWaiting)
  · simp only [isWaiting, if_false]
    exact ⟨.refl memory, fun isMine => by cases isMine⟩

/-- A machine is handed out when it was earned. -/
def Served (claim : Claim) : Except PoolError RemoteSandbox → Memory → Engine → Prop
  | .ok remote, memory, engine => Earned remote.id claim memory engine
  | .error _, _, _ => True

theorem Kept.served (claim : Claim) (result : Except PoolError RemoteSandbox) :
    Kept config careful (Served claim result) := by
  cases result with
  | error => exact .const True
  | ok remote => exact Kept.earned remote.id claim

theorem handOut_spec (claim : Claim) (result : Except PoolError RemoteSandbox) :
    Spec config careful thread (Served claim result) (handOut claim result) fun _ _ _ => True := by
  refine Contract.Between.atomic ((Kept.served claim result).stable false)
    (fun _ => (Contract.Persistent.const True).stable false) ?_
  intro choice memory engine served _ _ _
  cases result with
  | error => exact ⟨.refl memory, trivial⟩
  | ok remote => exact ⟨Effect.return served, trivial⟩

/-! ## Calls to the engine -/

theorem Sound.only (sound : Sound config memory engine) {machineID localID : String}
    (isSlot : isWarm localID = true) (isBorn : Born machineID localID engine) :
    ¬ Outstanding localID memory engine ∧
      ∀ machine ∈ engine.machines, machine.identity = slotIdentity localID →
        machine.id = machineID := by
  have single := sound.engine.single localID isSlot
  have isThere : slotIdentity localID ∈ engine.born.map (·.identity) := List.mem_map_of_mem isBorn
  have isAsked := sound.engine.bornAsked _ isBorn
  have isTaken := sound.history.asked localID isSlot isAsked
  rw [List.count_append] at single
  have positive := List.count_pos_iff.mpr isThere
  constructor
  · rintro (isWaiting | ⟨-, unasked⟩ | isPending)
    · exact sound.history.taken_not_waiting isTaken isWaiting
    · exact unasked isAsked
    · have pending := List.count_pos_iff.mpr isPending
      omega
  · intro machine isMachine isIdentity
    by_contra different
    -- Two machines of one identity would count twice.
    have two : [machine, ⟨machineID, slotIdentity localID⟩].Subperm engine.born := by
      apply List.subperm_of_subset
      · simp only [List.nodup_cons, List.mem_singleton]
        exact ⟨fun same => different (congrArg Machine.id same), by simp, List.nodup_nil⟩
      · intro other isOther
        rcases List.mem_cons.mp isOther with rfl | isOther
        · exact sound.engine.born isMachine
        · rw [List.mem_singleton.mp isOther]
          exact isBorn
    obtain ⟨part, isPair, isPart⟩ := two
    have counted := (isPart.map (·.identity)).count_le (slotIdentity localID)
    rw [(isPair.map (·.identity)).count_eq] at counted
    have atLeast : 2 ≤ (engine.born.map (·.identity)).count (slotIdentity localID) := by
      simpa [isIdentity] using counted
    omega

theorem find_spec (id localID : String) :
    Spec config careful thread (fun memory _ => Entered id localID memory)
      (Warm.engine (.find localID poolProjectID)) fun reply memory engine =>
        (∀ remote : RemoteSandbox, reply = .ok remote →
          remote.id ≠ "" ∧ Born remote.id localID engine) ∧
        (reply = .error .notFound → careful → Dead localID memory engine) := by
  refine Contract.Between.call (fun reply => ?_) (fun _ _ _ _ => trivial) ?_
  · exact Contract.Persistent.stable ((Contract.Persistent.all fun remote => .imp fun _ =>
      (Contract.Persistent.const _).and (Kept.born _ localID)).and
        (.imp fun _ => .imp fun _ => Kept.dead localID)) false
  · intro memory engine reply after isEntered inv trusted answered
    obtain ⟨same, answer⟩ := answered
    subst same
    have isSlot := inv.1.history.isWarm_of_entered isEntered
    cases answer with
    | found machine isMachine isIdentity state =>
      have isBorn := inv.1.engine.born isMachine
      refine ⟨?_, fun isAbsent => by cases isAbsent⟩
      rintro _ ⟨⟩
      refine ⟨inv.1.engine.named machine isBorn, ?_⟩
      have same : machine = ⟨machine.id, slotIdentity localID⟩ := by
        rw [← show machine.identity = slotIdentity localID from isIdentity]
      rw [Born, ← same]
      exact isBorn
    | absent none =>
      refine ⟨fun _ isFound => (by cases isFound), fun _ isCareful => ?_⟩
      obtain ⟨slot, isReserved, -, rfl⟩ := isEntered
      refine ⟨List.mem_map_of_mem isReserved, ?_⟩
      rintro (outstanding | ⟨machine, isMachine, isIdentity⟩)
      · exact trusted isCareful isSlot rfl outstanding
      · exact none machine isMachine isIdentity
    | failed error isFailure =>
      refine ⟨fun _ isFound => (by cases isFound), fun isAbsent => ?_⟩
      cases isAbsent
      exact absurd rfl isFailure

theorem delete_spec (id localID backendID : String) :
    Spec config careful thread
      (fun memory engine => Entered id localID memory ∧
        (backendID ≠ "" → Born backendID localID engine))
      (Warm.engine (.delete backendID)) fun reply memory engine =>
        reply = .ok () ∨ reply = .error .notFound → careful → Dead localID memory engine := by
  refine Contract.Between.call (fun reply => ?_) (fun _ _ _ _ => trivial) ?_
  · exact Contract.Persistent.stable (.imp fun _ => .imp fun _ => Kept.dead localID) false
  · intro memory engine reply after known inv trusted answered confirmed isCareful
    obtain ⟨isEntered, isMachine⟩ := known
    have isSlot := inv.1.history.isWarm_of_entered isEntered
    obtain ⟨outstanding, only⟩ := inv.1.only isSlot (isMachine (trusted isCareful))
    have isReserved : localID ∈ memory.reserved.map (·.localID) := by
      obtain ⟨slot, isReserved, -, rfl⟩ := isEntered
      exact List.mem_map_of_mem isReserved
    have gone : (∀ machine ∈ after.machines, machine ∈ engine.machines ∧ machine.id ≠ backendID) ∧
        (Outstanding localID memory after → Outstanding localID memory engine) := by
      cases answered with
      | deleted =>
        refine ⟨fun machine isKept => ?_, fun outstanding => outstanding⟩
        simpa [Engine.destroy] using isKept
      | absent none =>
        exact ⟨fun machine isOld => ⟨isOld, none machine isOld⟩, fun outstanding => outstanding⟩
      | answerLost error isFailure =>
        rcases confirmed with isOk | isAbsent
        · cases isOk
        · cases isAbsent
          exact absurd rfl isFailure
      | failed error isFailure =>
        rcases confirmed with isOk | isAbsent
        · cases isOk
        · cases isAbsent
          exact absurd rfl isFailure
    refine ⟨isReserved, ?_⟩
    rintro (isOutstanding | ⟨machine, isThere, isIdentity⟩)
    · exact outstanding (gone.2 isOutstanding)
    · obtain ⟨wasThere, different⟩ := gone.1 machine isThere
      exact different (only machine wasThere isIdentity)

end Brezel.Warm
