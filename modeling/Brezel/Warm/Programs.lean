import Brezel.Warm.Rules

/-!
# The pool's operations keep the contract

Every operation of the pool keeps the contract from a moment at which nothing is known.  Removal is
the delicate step: each of its six places must know that the slot's machine is dead, which it
learns from a lookup that found nothing or from a confirmed deletion.
-/

namespace Brezel.Warm

open Domain Service Monitor

variable {config : Config} {careful : Prop} {thread : Nat}
variable {known : Memory → Engine → Prop} {slot : Slot} {claim : Claim} {request : CreateRequest}

/-- Nothing is known. -/
def Nothing : Memory → Engine → Prop := fun _ _ => True

/-- Nothing is promised. -/
def Anything {α : Type} : α → Memory → Engine → Prop := fun _ _ _ => True

theorem Spec.weaken {α : Type} {code : Code α} {post : α → Memory → Engine → Prop}
    (spec : Spec config careful thread Nothing code post) :
    Spec config careful thread known code post :=
  spec.pre (fun _ _ _ => trivial)

/-- A call that concerns no creation. -/
theorem Spec.asks {query : Query}
    (harmless : ∀ thread memory engine, Permitted config thread query memory engine) :
    Spec config careful thread known (Warm.engine query) Anything :=
  Contract.Between.call (fun _ => (Contract.Persistent.const True).stable false)
    (fun memory engine _ _ => harmless thread memory engine) fun _ _ _ _ _ _ _ _ => trivial

/-! ## Creating slots -/

theorem recoverFailedCreate_spec (slot : Slot) :
    Spec config careful thread (fun memory _ => Entered slot.id slot.localID memory)
      (recoverFailedCreate slot) Anything := by
  refine Contract.Between.chain (Kept.entered slot.id slot.localID)
    (find_spec slot.id slot.localID) fun reply => ?_
  match reply with
  | .ok recovered =>
    dsimp only
    split
    · by_cases named : recovered.id = ""
      · -- The engine names its machines.
        intro memory engine known
        exact absurd named (known.1.1 recovered rfl).1
      · refine (markAvailable_spec slot.id slot.localID named).pre ?_
        exact fun memory engine known => ⟨known.2, (known.1.1 recovered rfl).2⟩
    · exact Spec.ret
  | .error .notFound =>
    refine Spec.map _ ((remove_spec slot.id slot.localID).pre ?_)
    exact fun memory engine known => ⟨known.2, known.1.2 rfl⟩
  | .error .capacityUnavailable => exact Spec.ret
  | .error (.failed _) => exact Spec.ret

/-- The owner of a slot asks for its machine. -/
theorem create_spec (slot : Slot) :
    Spec config careful thread (fun memory engine => Entered slot.id slot.localID memory ∧
        Own slot.localID thread memory engine)
      (Warm.engine (.create (slotRequest config slot))) fun reply memory engine =>
        Entered slot.id slot.localID memory ∧
        ∀ remote : RemoteSandbox, reply = .ok remote →
          (remote.id ≠ "" → Born remote.id slot.localID engine) ∧
          (careful → remote.id ≠ "" ∧ remote.state = .running) := by
  refine Contract.Between.call (fun reply => ?_) ?_ ?_
  · exact Contract.Persistent.stable ((Kept.entered _ _).and (.all fun remote => .imp fun _ =>
      (Contract.Persistent.imp fun _ => Kept.born _ _).and (.const _))) false
  · intro memory engine known _
    exact ⟨fun _ => ⟨rfl, known.2.1, known.2.2.1⟩, fun _ => known.2.2.2⟩
  · intro memory engine reply after known _ trusted answered
    refine ⟨known.1, fun remote isReply => ⟨fun named => ?_, fun isCareful => ?_⟩⟩
    · subst isReply
      cases answered with
      | created id unused state => exact List.mem_cons_self
      | unnamed id unused state => exact absurd rfl named
    · exact trusted isCareful known.2.2.2 remote isReply

theorem createSlot_spec (slot : Slot) :
    Spec config careful thread (fun memory engine => Entered slot.id slot.localID memory ∧
        Own slot.localID thread memory engine) (createSlot config slot) Anything := by
  refine Contract.Between.bind (create_spec slot) fun reply => ?_
  match reply with
  | .error _ => exact (recoverFailedCreate_spec slot).pre (fun _ _ => And.left)
  | .ok remote =>
    dsimp only
    split
    · next unusable =>
      -- An orderly engine does not get here, so the row may go.
      have kept : Kept config careful fun memory _ => Entered slot.id slot.localID memory ∧
          (careful → False) := (Kept.entered _ _).and (.const _)
      have abandoned : Spec config careful thread
          (fun memory _ => Entered slot.id slot.localID memory ∧ (careful → False))
          (abandonCreate slot remote) Anything := by
        have removed : Spec config careful thread
            (fun memory _ => Entered slot.id slot.localID memory ∧ (careful → False))
            (do let _ ← remove slot.id; return false) Anything := by
          refine Spec.map _ ((remove_spec slot.id slot.localID).pre ?_)
          exact fun _ _ known => ⟨known.1, fun isCareful => (known.2 isCareful).elim⟩
        unfold abandonCreate
        split
        · refine Contract.Between.chain kept (Spec.asks fun _ _ _ => trivial) fun _ => ?_
          exact removed.pre (fun _ _ => And.right)
        · exact removed
      refine abandoned.pre (fun memory engine known => ⟨known.1, fun isCareful => ?_⟩)
      obtain ⟨named, isRunning⟩ := (known.2 remote rfl).2 isCareful
      rcases unusable with isEmpty | isOther
      · exact named isEmpty
      · exact isOther isRunning
    · next usable =>
      have named : remote.id ≠ "" := fun isEmpty => usable (.inl isEmpty)
      refine (markAvailable_spec slot.id slot.localID named).pre ?_
      exact fun memory engine known => ⟨known.1, (known.2 remote rfl).1 named⟩

theorem startSlot_spec (slot : Slot) :
    Spec config careful thread Nothing (startSlot config slot) Anything := by
  refine Contract.Between.bind (takeSlot_spec slot) fun start => ?_
  match start with
  | .mine => exact (createSlot_spec slot).pre (fun _ _ known => known rfl)
  | .cancelled => exact Spec.ret
  | .elsewhere _ => exact Spec.ret

theorem createReserved_spec (slots : List Slot) :
    Spec config careful thread Nothing (createReserved config slots) Anything := by
  induction slots with
  | nil => exact Spec.ret
  | cons slot rest ih =>
    refine Contract.Between.bind (startSlot_spec slot) fun _ => ?_
    exact Spec.map _ ih

theorem refill_spec : Spec config careful thread Nothing (refill config) Anything := by
  refine Contract.Between.bind reserveMissing_spec fun reserved => ?_
  match reserved with
  | none => exact Spec.ret
  | some slots => exact createReserved_spec slots

/-! ## Removing slots -/

theorem quarantine_spec (started : slot.state ≠ .creating) :
    Spec config careful thread Nothing (quarantine slot) Anything := by
  unfold quarantine
  split
  · exact Spec.ret
  · exact Spec.map _ (markDeleting_spec started)

/-- A machine that is destroyed leaves its slot dead. -/
theorem destroy_spec (id localID : String) {backendID : String} (named : backendID ≠ "") :
    Spec config careful thread
      (fun memory engine => Entered id localID memory ∧ Born backendID localID engine)
      (destroy backendID) fun done memory engine =>
        done = true → careful → Dead localID memory engine := by
  rw [destroy, if_neg named]
  refine Contract.Between.bind ((delete_spec id localID backendID).pre
    fun _ _ known => ⟨known.1, fun _ => known.2⟩) fun reply => ?_
  match reply with
  | .ok () => exact Contract.Between.ret fun _ _ known _ => known (.inl rfl)
  | .error .notFound => exact Contract.Between.ret fun _ _ known _ => known (.inr rfl)
  | .error .capacityUnavailable =>
    exact Contract.Between.ret fun _ _ _ isDone => by cases isDone
  | .error (.failed _) => exact Contract.Between.ret fun _ _ _ isDone => by cases isDone

/-- A machine of a slot is destroyed, and then its row removed. -/
theorem destroy_remove_spec (id localID : String) {backendID : String} (named : backendID ≠ "") :
    Spec config careful thread
      (fun memory engine => Entered id localID memory ∧ Born backendID localID engine)
      (do if ← destroy backendID then remove id else return false) Anything := by
  refine Contract.Between.chain ((Kept.entered id localID).and (Kept.born backendID localID))
    (destroy_spec id localID named) fun done => ?_
  cases done with
  | false => exact Spec.ret
  | true =>
    refine (remove_spec id localID).pre ?_
    exact fun memory engine known => ⟨known.2.1, known.1 rfl⟩

theorem discard_spec (started : slot.state ≠ .creating) :
    Spec config careful thread (Seen slot) (discard slot) Anything := by
  refine Contract.Between.chain (Kept.seen slot) (quarantine_spec started).weaken fun moved => ?_
  cases moved with
  | false => exact Spec.ret
  | true =>
    by_cases named : slot.backendID = ""
    · intro memory engine known
      exact absurd named (known.2.started started)
    · refine (destroy_remove_spec slot.id slot.localID named).pre ?_
      exact fun memory engine known => ⟨known.2.entered, known.2.machine named⟩

theorem recoverCreating_spec (slot : Slot) :
    Spec config careful thread (Seen slot) (recoverCreating slot) Anything := by
  have looked : Spec config careful thread (Seen slot) _ _ :=
    (find_spec slot.id slot.localID).pre (fun _ _ seen => seen.entered)
  refine Contract.Between.chain (Kept.seen slot) looked fun reply => ?_
  match reply with
  | .ok observed =>
    by_cases named : observed.id = ""
    · intro memory engine known
      exact absurd named (known.1.1 observed rfl).1
    · dsimp only
      split
      · refine (markAvailable_spec slot.id slot.localID named).pre ?_
        exact fun memory engine known => ⟨known.2.entered, (known.1.1 observed rfl).2⟩
      · refine (destroy_remove_spec slot.id slot.localID named).pre ?_
        exact fun memory engine known => ⟨known.2.entered, (known.1.1 observed rfl).2⟩
  | .error .notFound =>
    refine (remove_spec slot.id slot.localID).pre ?_
    exact fun memory engine known => ⟨known.2.entered, known.1.2 rfl⟩
  | .error .capacityUnavailable => exact Spec.ret
  | .error (.failed _) => exact Spec.ret

/-! ## Priming and maintenance -/

theorem now_spec (kept : Kept config careful known) :
    Spec config careful thread known now fun _ => known :=
  Contract.Between.look (kept.stable false)

theorem recoverSlot_spec (slot : Slot) :
    Spec config careful thread (Seen slot) (recoverSlot config slot) Anything := by
  unfold recoverSlot
  split
  · exact recoverCreating_spec slot
  · next isAvailable =>
    have discarded : Spec config careful thread (Seen slot) (discard slot) Anything :=
      discard_spec (by simp [isAvailable])
    refine Contract.Between.bind (now_spec (Kept.seen slot)) fun _ => ?_
    split
    · exact discarded
    · refine Contract.Between.chain (Kept.seen slot) (Spec.asks fun _ _ _ => trivial)
        fun reply => ?_
      have again : Spec config careful thread
          (fun memory engine => Anything reply memory engine ∧ Seen slot memory engine)
          (discard slot) Anything := discarded.pre (fun _ _ => And.right)
      match reply with
      | .ok observed =>
        dsimp only
        split
        · exact Spec.ret
        · exact again
      | .error .notFound => exact again
      | .error .capacityUnavailable => exact Spec.ret
      | .error (.failed _) => exact Spec.ret
  · next isDeleting => exact discard_spec (by simp [isDeleting])
  · exact Spec.ret

/-- What the slots say is so. -/
def AllSeen (slots : List Slot) (memory : Memory) (engine : Engine) : Prop :=
  ∀ slot, slot ∈ slots → Seen slot memory engine

theorem Kept.allSeen (slots : List Slot) : Kept config careful (AllSeen slots) :=
  .all fun slot => .imp fun _ => Kept.seen slot

/-- Slots that were seen are gone through one after the other. -/
theorem Spec.each {slots : List Slot} {code rest : Code Bool}
    (first : Spec config careful thread (Seen slot) code Anything)
    (others : Spec config careful thread (AllSeen slots) rest Anything) :
    Spec config careful thread (AllSeen (slot :: slots))
      (do if ← code then rest else return false) Anything := by
  refine Contract.Between.chain (Kept.allSeen _)
    (first.pre (fun _ _ seen => seen slot List.mem_cons_self)) fun done => ?_
  cases done with
  | false => exact Spec.ret
  | true =>
    refine others.pre ?_
    exact fun _ _ known other isOther => known.2 other (List.mem_cons_of_mem _ isOther)

theorem recoverSlots_spec (slots : List Slot) :
    Spec config careful thread (AllSeen slots) (recoverSlots config slots) Anything := by
  induction slots with
  | nil => exact Spec.ret
  | cons slot rest ih =>
    exact Spec.each (recoverSlot_spec slot) ih

theorem Spec.pass {states : List SlotState} {work : List Slot → Code Bool}
    (each : ∀ slots, Spec config careful thread (AllSeen slots) (work slots) Anything) :
    Spec config careful thread Nothing
      (do match ← listStates states with
          | none => return false
          | some slots => if ← work slots then refill config else return false) Anything := by
  refine Contract.Between.bind (listStates_spec states) fun listed => ?_
  match listed with
  | none => exact Spec.ret
  | some slots =>
    refine Contract.Between.bind (each slots) fun done => ?_
    cases done with
    | false => exact Spec.ret
    | true => exact refill_spec

theorem prime_spec : Spec config careful thread Nothing (prime config) Anything :=
  Spec.pass recoverSlots_spec

theorem replace_spec {discarded : Code Bool}
    (first : Spec config careful thread known discarded Anything) :
    Spec config careful thread known (replace config discarded) Anything := by
  refine Contract.Between.bind first fun done => ?_
  cases done with
  | false => exact Spec.ret
  | true => exact refill_spec

theorem rotate_spec (isAvailable : slot.state = .available) :
    Spec config careful thread (Seen slot) (rotate config slot) Anything := by
  refine Contract.Between.chain (Kept.seen slot) (markDeleting_spec (by decide)).weaken
    fun moved => ?_
  match moved with
  | none => exact Spec.ret
  | some false => exact Spec.ret
  | some true =>
    refine replace_spec ((discard_spec (by simp)).pre ?_)
    intro memory engine known
    have started := known.2.started (by simp [isAvailable])
    exact ⟨known.2.entered, known.2.machine, fun _ => started,
      fun isClaimed => by simp at isClaimed⟩

theorem maintainSlot_spec (slot : Slot) :
    Spec config careful thread (Seen slot) (maintainSlot config slot) Anything := by
  refine Contract.Between.bind (now_spec (Kept.seen slot)) fun at_ => ?_
  split
  · next isAvailable =>
    split
    · exact rotate_spec isAvailable
    · exact Spec.ret
  · split
    · exact Spec.ret
    · exact replace_spec (recoverCreating_spec slot)
  · next isDeleting => exact replace_spec (discard_spec (by simp [isDeleting]))
  · exact Spec.ret

theorem maintainSlots_spec (slots : List Slot) :
    Spec config careful thread (AllSeen slots) (maintainSlots config slots) Anything := by
  induction slots with
  | nil => exact Spec.ret
  | cons slot rest ih =>
    exact Spec.each (maintainSlot_spec slot) ih

theorem maintain_spec : Spec config careful thread Nothing (maintain config) Anything :=
  Spec.pass maintainSlots_spec

/-! ## Claims -/

theorem Holding.earned {memory : Memory} {engine : Engine}
    (holding : Holding claim slot memory engine) : Earned slot.backendID claim memory engine := by
  obtain ⟨seen, isClaim, isHeld⟩ := holding
  have started := seen.started (by rcases isHeld with isHeld | isHeld <;> simp [isHeld])
  obtain ⟨reserved, isReserved, sameID, sameLocal⟩ := seen.entered
  refine .inl ⟨reserved, isReserved, ?_, ?_⟩
  · rw [sameLocal]
    exact seen.machine started
  · rw [sameID, ← isClaim]
    exact (seen.claimed isHeld).1

theorem giveUp_spec {error : PoolError} (isHeld : slot.state = .claiming ∨ slot.state = .claimed) :
    Spec config careful thread (Seen slot) (giveUp config slot error) (Served claim) := by
  have started : slot.state ≠ .creating := by rcases isHeld with isHeld | isHeld <;> simp [isHeld]
  refine Contract.Between.bind (discard_spec started) fun done => ?_
  cases done with
  | false => exact Contract.Between.ret fun _ _ _ => trivial
  | true =>
    exact Contract.Between.bind refill_spec fun _ => Contract.Between.ret fun _ _ _ => trivial

theorem completeClaiming_spec (isHeld : slot.state = .claiming ∨ slot.state = .claimed) :
    Spec config careful thread (Holding claim slot) (completeClaiming config slot claim)
      (Served claim) := by
  refine Contract.Between.bind (now_spec (Kept.holding claim slot)) fun at_ => ?_
  refine Contract.Between.chain (Kept.holding claim slot) (Spec.asks fun _ _ _ => trivial)
    fun reply => ?_
  match reply with
  | .error _ => exact (giveUp_spec isHeld).pre (fun _ _ known => known.2.1)
  | .ok () =>
    refine Contract.Between.chain ((Contract.Persistent.const _).and (Kept.holding claim slot))
      (finishClaim_spec slot.id claim).weaken fun finished => ?_
    split
    · exact Contract.Between.ret fun _ _ known => known.2.2.earned
    · exact Contract.Between.ret fun _ _ _ => trivial

/-- An inspection tells something about the machine asked for. -/
theorem inspect_spec (backendID : String) :
    Spec config careful thread known (Warm.engine (.inspect backendID)) fun reply _ _ =>
      ∀ remote : RemoteSandbox, reply = .ok remote → remote.id = backendID :=
  Contract.Between.call (fun _ => (Contract.Persistent.const _).stable false)
    (fun _ _ _ _ => trivial) fun _ _ _ _ _ _ _ answered => answered.2

theorem completeClaim_spec :
    Spec config careful thread (Holding claim slot) (completeClaim config slot claim)
      (Served claim) := by
  by_cases isHeld : slot.state = .claiming ∨ slot.state = .claimed
  · unfold completeClaim
    split
    · exact completeClaiming_spec isHeld
    · refine Contract.Between.chain (Kept.holding claim slot) (inspect_spec slot.backendID)
        fun reply => ?_
      have gaveUp : Spec config careful thread (fun memory engine =>
          (∀ remote : RemoteSandbox, reply = .ok remote → remote.id = slot.backendID) ∧
            Holding claim slot memory engine)
          (giveUp config slot .warmUnavailable) (Served claim) :=
        (giveUp_spec isHeld).pre (fun _ _ known => known.2.1)
      match reply with
      | .ok observed =>
        dsimp only
        split
        · refine Contract.Between.ret fun memory engine known => ?_
          have same : observed.id = slot.backendID := known.1 observed rfl
          change Earned observed.id claim memory engine
          rw [same]
          exact known.2.earned
        · exact gaveUp
      | .error _ => exact gaveUp
  · intro memory engine known
    exact absurd known.2.2 isHeld

theorem not_isWarm {sandboxID : String} (isSandbox : hasStart sandboxID "sbx_" = true) :
    isWarm sandboxID = false := by
  cases isSlot : isWarm sandboxID with
  | false => rfl
  | true =>
    obtain ⟨rest, first⟩ := List.isPrefixOf_iff_prefix.mp isSandbox
    obtain ⟨others, second⟩ := List.isPrefixOf_iff_prefix.mp isSlot
    rw [← first] at second
    simp at second

theorem Issued.named (issued : Issued claim) : claim.named = true := by
  have project : claim.projectID ≠ "" := by
    intro isEmpty
    have valid := issued.project
    rw [isEmpty] at valid
    exact absurd valid (by decide)
  have sandbox : claim.sandboxID ≠ "" := by
    intro isEmpty
    have valid := issued.sandbox
    rw [isEmpty] at valid
    exact absurd valid (by decide)
  simp [Claim.named, project, sandbox]

theorem coldCreate_spec (lenient : config.strict = false) (issued : Issued (claimOf request)) :
    Spec config careful thread known (coldCreate request) (Served (claimOf request)) := by
  have asked : Spec config careful thread known (Warm.engine (.create request))
      fun reply memory engine => ∀ remote : RemoteSandbox, reply = .ok remote →
        Earned remote.id (claimOf request) memory engine := by
    refine Contract.Between.call (fun reply => ?_) ?_ ?_
    · exact Contract.Persistent.stable (.all fun remote => .imp fun _ => Kept.earned _ _) false
    · intro memory engine _ _
      have isSandbox : isWarm request.localSandboxID = false := not_isWarm issued.sandbox
      refine ⟨fun isSlot => ?_, fun isStrict => ?_⟩
      · rw [isSandbox] at isSlot
        cases isSlot
      · rw [lenient] at isStrict
        cases isStrict
    · intro memory engine reply after _ _ _ answered remote isReply
      subst isReply
      cases answered with
      | created id unused state => exact .inr (.inl ⟨List.mem_cons_self, issued.sandbox⟩)
      | unnamed id unused state => exact .inr (.inr rfl)
  refine Contract.Between.bind asked fun reply => Contract.Between.ret fun memory engine known => ?_
  cases reply with
  | error error => exact trivial
  | ok remote => exact known remote rfl

theorem missed_spec (issued : Issued (claimOf request)) :
    Spec config careful thread known (missed config request) (Served (claimOf request)) := by
  unfold missed
  split
  · exact Contract.Between.ret fun _ _ _ => trivial
  · next lenient => exact coldCreate_spec (by simpa using lenient) issued

theorem serve_spec (issued : Issued (claimOf request)) :
    Spec config careful thread (Holding (claimOf request) slot) (serve config request slot)
      (Served (claimOf request)) := by
  refine Contract.Between.bind completeClaim_spec fun result => ?_
  match result with
  | .ok observed => exact Contract.Between.ret fun _ _ => id
  | .error .warmUnavailable =>
    dsimp only
    split
    · exact Contract.Between.ret fun _ _ _ => trivial
    · next lenient => exact coldCreate_spec (by simpa using lenient) issued
  | .error (.backend _) => exact Contract.Between.ret fun _ _ _ => trivial
  | .error .failed => exact Contract.Between.ret fun _ _ _ => trivial

theorem createSandbox_spec (issued : Issued (claimOf request)) :
    Spec config careful thread Nothing (createSandbox config request)
      (Served (claimOf request)) := by
  unfold createSandbox
  split
  · refine Contract.Between.bind (findClaim_spec (claimOf request)) fun found => ?_
    match found with
    | none => exact Contract.Between.ret fun _ _ _ => trivial
    | some (some existing) => exact serve_spec issued
    | some none =>
      refine Contract.Between.bind (beginClaim_spec issued.named) fun begun => ?_
      match begun with
      | none => exact Contract.Between.ret fun _ _ _ => trivial
      | some none => exact missed_spec issued
      | some (some slot) => exact serve_spec issued
  · exact missed_spec issued

theorem findSandbox_spec (issued : Issued claim) :
    Spec config careful thread Nothing (findSandbox config claim) (Served claim) := by
  refine Contract.Between.bind (findClaim_spec claim) fun found => ?_
  match found with
  | none => exact Contract.Between.ret fun _ _ _ => trivial
  | some (some slot) => exact completeClaim_spec
  | some none =>
    have asked : Spec config careful thread (Found (Found (Holding claim)) (some none))
        (Warm.engine (.find claim.sandboxID claim.projectID)) fun reply memory engine =>
          ∀ remote : RemoteSandbox, reply = .ok remote →
            Earned remote.id claim memory engine := by
      refine Contract.Between.call (fun reply => ?_) (fun _ _ _ _ => trivial) ?_
      · exact Contract.Persistent.stable (.all fun remote => .imp fun _ => Kept.earned _ _) false
      · intro memory engine reply after _ inv _ answered remote isReply
        subst isReply
        obtain ⟨rfl, answer⟩ := answered
        cases answer with
        | found machine isMachine isIdentity state =>
          have isBorn := inv.1.engine.born isMachine
          refine .inr (.inl ⟨?_, issued.sandbox⟩)
          rw [← isIdentity]
          exact isBorn
    refine Contract.Between.bind asked fun reply =>
      Contract.Between.ret fun memory engine known => ?_
    cases reply with
    | error error => exact trivial
    | ok remote => exact known remote rfl

theorem delete_program_spec (backendID : String) :
    Spec config careful thread Nothing (delete config backendID) Anything := by
  refine Contract.Between.bind (findBackend_spec backendID) fun found => ?_
  match found with
  | none => exact Spec.ret
  | some none =>
    refine Contract.Between.bind (Spec.asks fun _ _ _ => trivial) fun reply => ?_
    match reply with
    | .ok () => exact Spec.ret
    | .error .notFound => exact Spec.ret
    | .error .capacityUnavailable => exact Spec.ret
    | .error (.failed _) => exact Spec.ret
  | some (some slot) =>
    have kept : Kept config careful fun memory engine =>
        Seen slot memory engine ∧ slot.backendID = backendID := (Kept.seen slot).and (.const _)
    have deleted : Spec config careful thread (fun memory engine =>
        Seen slot memory engine ∧ slot.backendID = backendID)
        (Warm.engine (.delete backendID)) _ :=
      (delete_spec slot.id slot.localID backendID).pre fun _ _ known =>
        ⟨known.1.entered, fun named => known.2 ▸ known.1.machine (known.2.symm ▸ named)⟩
    refine Contract.Between.chain kept deleted fun reply => ?_
    have removed : ∀ reply : Except BackendError Unit, reply = .ok () ∨ reply = .error .notFound →
        Spec config careful thread (fun memory engine =>
          (reply = .ok () ∨ reply = .error .notFound → careful →
            Dead slot.localID memory engine) ∧
          Seen slot memory engine ∧ slot.backendID = backendID)
        (do
          if ← remove slot.id then
            let _ ← refill config
            return none
          else
            return some PoolError.failed) Anything := by
      intro reply confirmed
      refine Contract.Between.bind ((remove_spec slot.id slot.localID).pre
        fun _ _ known => ⟨known.2.1.entered, known.1 confirmed⟩) fun done => ?_
      cases done with
      | false => exact Spec.ret
      | true => exact Spec.map _ refill_spec
    match reply with
    | .ok () => exact removed (.ok ()) (.inl rfl)
    | .error .notFound => exact removed (.error .notFound) (.inr rfl)
    | .error .capacityUnavailable => exact Spec.ret
    | .error (.failed _) => exact Spec.ret

/-! ## The entry points -/

/-- **Every entry point keeps the contract of the pool.** -/
theorem entry_spec {program : Code Unit} (entry : Entry config program) :
    Spec config careful thread Nothing program Anything := by
  cases entry with
  | prime => exact Spec.map _ prime_spec
  | maintain => exact Spec.map _ maintain_spec
  | create request issued =>
    exact Spec.map _ ((createSandbox_spec issued).bind fun result => handOut_spec _ result)
  | find claim issued =>
    exact Spec.map _ ((findSandbox_spec issued).bind fun result => handOut_spec _ result)
  | delete backendID => exact Spec.map _ (delete_program_spec backendID)
  | worker slot => exact Spec.map _ (startSlot_spec slot)

end Brezel.Warm
