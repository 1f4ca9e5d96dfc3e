import Brezel.Store.Heads

/-!
# Mutations of declared rows

`UpdateRows` loads, runs and validates a part of the ledger.  A callback is confined to a scope if
running it on the whole ledger is running it on that part and leaving the rest alone
(`Confined`).  For such a callback a committed `UpdateRows` is an `Update`: the whole callback is
accepted too, it writes the same rows, and it leads to the same indexes.

Two facts carry the argument.  Claims that were never loaded point to operations that a mutation of
rows can neither delete nor rename, so the whole ledger is valid although only a part was
validated (`Scoped.valid`).  And appended events continue their stream behind its last event, so
they meet no event that was not loaded (`Scoped.fresh`).
-/

namespace Brezel.Store

open Domain Table

variable {events : List Event} {event : Event} {key : EventKey} {state : State}

/-! ## Encoding and decoding -/

/-- The same rows, in whatever order. -/
structure Rows.Same (first second : Rows) : Prop where
  environments : Table.Same first.environments second.environments
  sandboxes : Table.Same first.sandboxes second.sandboxes
  operations : Table.Same first.operations second.operations
  checkpoints : Table.Same first.checkpoints second.checkpoints
  workspaces : Table.Same first.workspaces second.workspaces
  connectors : Table.Same first.connectors second.connectors
  events : Table.Same first.events second.events
  idempotency : Table.Same first.idempotency second.idempotency

variable {after before rows : Rows}

/-- Every event is valid and under its own key. -/
def EventsKeyed (events : AList fun _ : EventKey => Event) : Prop :=
  ∀ ⦃key event⦄, events.lookup key = some event →
    validateSandboxEvent event = .ok () ∧ eventKey event = key

/-- A valid ledger: it passes `validateState`, and its event rows are valid under their keys. -/
structure Rows.Stored (rows : Rows) : Prop where
  valid : rows.decode.valid = true
  events : EventsKeyed rows.events

theorem encodeEvents_iff {rows after : AList fun _ : EventKey => Event} :
    encodeEvents events rows = .ok after ↔
      (∀ event ∈ events, validateSandboxEvent event = .ok ()) ∧
        insertFresh rows (events.map fun event => (eventKey event, event)) = some after := by
  induction events generalizing rows with
  | nil => simp [encodeEvents, insertFresh]
  | cons event rest ih =>
    rw [encodeEvents, List.map_cons, insertFresh]
    cases validated : validateSandboxEvent event with
    | error detail => simp [validated]
    | ok _ =>
      simp only [List.forall_mem_cons, validated, true_and]
      split
      · simp
      · exact ih

/-- The table of the events. -/
structure EncodedEvents (events : List Event) (rows : AList fun _ : EventKey => Event) : Prop where
  valid : ∀ event ∈ events, validateSandboxEvent event = .ok ()
  distinct : (events.map eventKey).Nodup
  lookup_iff : ∀ {key event}, rows.lookup key = some event ↔ event ∈ events ∧ eventKey event = key

theorem encodedEvents_of_ok {rows : AList fun _ : EventKey => Event}
    (encoded : encodeEvents events ∅ = .ok rows) : EncodedEvents events rows := by
  obtain ⟨valid, added⟩ := encodeEvents_iff.mp encoded
  have inserted := inserted_of_insertFresh added
  refine ⟨valid, ?_, fun {key event} => ?_⟩
  · have distinct := inserted.distinct
    rwa [List.map_map] at distinct
  · rw [inserted.lookup_iff]
    constructor
    · rintro (⟨⟨⟩⟩ | member)
      obtain ⟨event', isMember, same⟩ := List.mem_map.mp member
      cases same
      exact ⟨isMember, rfl⟩
    · rintro ⟨member, rfl⟩
      exact .inr (List.mem_map.mpr ⟨event, member, rfl⟩)

theorem exists_encodeEvents (valid : ∀ event ∈ events, validateSandboxEvent event = .ok ())
    (distinct : (events.map eventKey).Nodup) : ∃ rows, encodeEvents events ∅ = .ok rows := by
  obtain ⟨rows, added⟩ : ∃ rows, insertFresh (∅ : AList fun _ : EventKey => Event)
      (events.map fun event => (eventKey event, event)) = some rows :=
    insertFresh_ok (by rwa [List.map_map]) (fun _ _ => rfl)
  exact ⟨rows, encodeEvents_iff.mpr ⟨valid, added⟩⟩

theorem mem_decode_events :
    event ∈ rows.decode.events ↔ ∃ key, rows.events.lookup key = some event := by
  rw [Rows.decode, List.mem_map]
  constructor
  · rintro ⟨⟨key, _⟩, member, rfl⟩
    exact ⟨key, mem_entries_iff.mp ((List.mergeSort_perm _ _).mem_iff.mp member)⟩
  · rintro ⟨key, present⟩
    exact ⟨⟨key, event⟩, (List.mergeSort_perm _ _).mem_iff.mpr (mem_entries_iff.mpr present), rfl⟩

theorem mem_decode_iff (keyed : EventsKeyed rows.events) :
    event ∈ rows.decode.events ↔ rows.events.lookup (eventKey event) = some event := by
  rw [mem_decode_events]
  constructor
  · rintro ⟨key, present⟩
    rwa [(keyed present).2]
  · exact fun present => ⟨_, present⟩

theorem decode_events_distinct (keyed : EventsKeyed rows.events) :
    (rows.decode.events.map eventKey).Nodup := by
  have keys : rows.decode.events.map eventKey =
      (rows.events.entries.mergeSort eventBefore).map Sigma.fst := by
    rw [Rows.decode, List.map_map]
    refine List.map_congr_left fun entry member => ?_
    obtain ⟨key, event⟩ := entry
    exact (keyed (mem_entries_iff.mp ((List.mergeSort_perm _ _).mem_iff.mp member))).2
  rw [keys]
  exact ((List.mergeSort_perm _ _).map Sigma.fst).nodup_iff.mpr rows.events.nodupKeys

/-- **Encoding a decoded ledger gives its rows back.** -/
theorem encode_decode (keyed : EventsKeyed rows.events) :
    ∃ encoded, encodeState rows.decode = .ok encoded ∧ encoded.Same rows := by
  obtain ⟨events, encoded⟩ := exists_encodeEvents
    (fun event member => (keyed ((mem_decode_iff keyed).mp member)).1)
      (decode_events_distinct keyed)
  have isEncoded := encodedEvents_of_ok encoded
  refine ⟨_, by rw [encodeState, encoded], ?_⟩
  refine ⟨.refl _, .refl _, .refl _, .refl _, .refl _, .refl _, fun key => ?_, fun key => ?_⟩
  · ext event
    rw [isEncoded.lookup_iff, mem_decode_iff keyed]
    constructor
    · rintro ⟨present, rfl⟩
      exact present
    · exact fun present => ⟨(keyed present).2 ▸ present, (keyed present).2⟩
  · rw [lookup_filterMap]
    simp only [Rows.decode, lookup_filterMap]
    cases rows.idempotency.lookup key with
    | none => rfl
    | some row =>
      obtain ⟨operationID, digest⟩ := row
      by_cases empty : digest = "" <;> simp [empty]

/-! ## Confined callbacks -/

/-- The row is declared, or its key is that of a claimed resource. -/
def MutationScope.sees (scope : MutationScope) (rows : Rows) (declared : List Key) (key : Key) :
    Bool :=
  key ∈ declared || key ∈ claimedResources scope rows

variable {scope : MutationScope}

/-- The operation is declared or claimed. -/
def MutationScope.seesOperation (scope : MutationScope) (rows : Rows) (key : Key) : Bool :=
  key ∈ scope.operations || key ∈ claimedOperations scope rows

/-- The claim is declared. -/
def MutationScope.seesClaim (scope : MutationScope) (key : IdempotencyKey) : Bool :=
  key ∈ scope.idempotency

/-- The whole state is the ledger with what the scope sees replaced by a part.  Of the events the
scope sees the last ones of the declared streams. -/
structure Rows.PatchedBy (scope : MutationScope) (rows : Rows) (part whole : State) : Prop where
  environments : Patched (scope.sees rows scope.environments) rows.environments part.environments
    whole.environments
  sandboxes : Patched (scope.sees rows scope.sandboxes) rows.sandboxes part.sandboxes
    whole.sandboxes
  operations : Patched (scope.seesOperation rows) rows.operations part.operations whole.operations
  checkpoints : Patched (scope.sees rows scope.checkpoints) rows.checkpoints part.checkpoints
    whole.checkpoints
  workspaces : Patched (scope.sees rows scope.workspaces) rows.workspaces part.workspaces
    whole.workspaces
  connectors : Patched (scope.sees rows scope.connectors) rows.connectors part.connectors
    whole.connectors
  idempotency : Patched scope.seesClaim rows.decode.idempotency part.idempotency whole.idempotency
  digests : Patched scope.seesClaim rows.decode.idempotencyDigests part.idempotencyDigests
    whole.idempotencyDigests
  events : (whole.events ++ (rows.restrict scope).decode.events).Perm
    (rows.decode.events ++ part.events)

/-- **The callback reads and writes only what the scope sees.**  If it accepts the part of a ledger
that the scope sees, then it accepts the whole ledger, does to that part the same, and leaves the
rest alone. -/
def Confined (scope : MutationScope) (callback : Callback) : Prop :=
  ∀ (rows : Rows) (part : State), rows.Stored →
    callback (rows.restrict scope).decode = .ok part →
    ∃ whole, callback rows.decode = .ok whole ∧ rows.PatchedBy scope part whole

/-- A scoped mutation of a stored ledger, with the state that its callback makes of the whole
ledger. -/
structure Scoped (scope : MutationScope) (rows before after : Rows) (part whole : State) :
    Prop where
  stored : rows.Stored
  isBefore : before.Same (rows.restrict scope)
  valid : part.valid = true
  isAfter : encodeState part = .ok after
  inScope : InScope scope before after
  patched : rows.PatchedBy scope part whole

/-- Claims are made only under declared keys. -/
theorem InScope.claims (inScope : InScope scope before after) {key : IdempotencyKey}
    (different : before.idempotency.lookup key ≠ after.idempotency.lookup key) :
    key ∈ scope.idempotency := by
  cases new : after.idempotency.lookup key with
  | some row =>
    exact (inScope.claimsDeclared new).resolve_left fun old => different (old.trans new.symm)
  | none =>
    obtain ⟨row, old⟩ := Option.ne_none_iff_exists'.mp (new ▸ different)
    cases (inScope.claimsKept old).symm.trans new

theorem localEdit_of {Row : Type} {declared claimed : List Key}
    {table before after whole : AList fun _ : Key => Row}
    (isBefore : Table.Same before
      (Table.filter (fun key _ => key ∈ declared || key ∈ claimed) table))
    (isDeclared : ∀ {key}, before.lookup key ≠ after.lookup key → key ∈ declared)
    (patched : Patched (fun key => key ∈ declared || key ∈ claimed) table after whole) :
    LocalEdit (fun key => key ∈ declared || key ∈ claimed) table before after whole := by
  refine ⟨fun key => ?_, patched, fun different => ?_⟩
  · rw [isBefore key, lookup_filter]
    cases table.lookup key with
    | none => rw [ite_self]; rfl
    | some row => rfl
  · rw [decide_eq_true (isDeclared different)]
    rfl

section Scoped

variable {scope : MutationScope} {rows before after : Rows} {part whole : State}
variable (mutation : Scoped scope rows before after part whole)
include mutation

theorem Scoped.environments : LocalEdit (scope.sees rows scope.environments) rows.environments
    before.environments after.environments whole.environments :=
  localEdit_of mutation.isBefore.environments mutation.inScope.environments
    ((encodeState_ok mutation.isAfter).1 ▸ mutation.patched.environments)

theorem Scoped.sandboxes : LocalEdit (scope.sees rows scope.sandboxes) rows.sandboxes
    before.sandboxes after.sandboxes whole.sandboxes :=
  localEdit_of mutation.isBefore.sandboxes mutation.inScope.sandboxes
    ((encodeState_ok mutation.isAfter).2.1 ▸ mutation.patched.sandboxes)

theorem Scoped.operations : LocalEdit (scope.seesOperation rows) rows.operations
    before.operations after.operations whole.operations :=
  localEdit_of mutation.isBefore.operations mutation.inScope.operations
    ((encodeState_ok mutation.isAfter).2.2.1 ▸ mutation.patched.operations)

theorem Scoped.checkpoints : LocalEdit (scope.sees rows scope.checkpoints) rows.checkpoints
    before.checkpoints after.checkpoints whole.checkpoints :=
  localEdit_of mutation.isBefore.checkpoints mutation.inScope.checkpoints
    ((encodeState_ok mutation.isAfter).2.2.2.1 ▸ mutation.patched.checkpoints)

theorem Scoped.workspaces : LocalEdit (scope.sees rows scope.workspaces) rows.workspaces
    before.workspaces after.workspaces whole.workspaces :=
  localEdit_of mutation.isBefore.workspaces mutation.inScope.workspaces
    ((encodeState_ok mutation.isAfter).2.2.2.2.1 ▸ mutation.patched.workspaces)

theorem Scoped.connectors : LocalEdit (scope.sees rows scope.connectors) rows.connectors
    before.connectors after.connectors whole.connectors :=
  localEdit_of mutation.isBefore.connectors mutation.inScope.connectors
    ((encodeState_ok mutation.isAfter).2.2.2.2.2 ▸ mutation.patched.connectors)

end Scoped

/-! ## The whole ledger is valid -/

/-- A claim stays valid if the operation it refers to keeps what the claim names. -/
theorem validIndexEntry_of {first second : State} {key : IdempotencyKey} {operationID : String}
    (isValid : first.validIndexEntry key operationID = true)
    (kept : ∀ {operation}, first.operations.lookup (key.1, operationID) = some operation →
      ∃ next, second.operations.lookup (key.1, operationID) = some next ∧
        next.projectID = operation.projectID ∧ next.kind = operation.kind ∧
        next.idempotencyKey = operation.idempotencyKey) :
    second.validIndexEntry key operationID = true := by
  unfold State.validIndexEntry at isValid ⊢
  rw [Bool.and_eq_true] at isValid ⊢
  refine ⟨isValid.1, ?_⟩
  cases present : first.operations.lookup (key.1, operationID) with
  | none =>
    rw [present] at isValid
    exact absurd isValid.2 (by simp)
  | some operation =>
    obtain ⟨next, isNext, sameProject, sameKind, sameKey⟩ := kept present
    rw [present] at isValid
    simp only [isNext, sameProject, sameKind, sameKey]
    exact isValid.2

section Valid

variable {scope : MutationScope} {rows before after : Rows} {part whole : State}
variable (mutation : Scoped scope rows before after part whole)
include mutation

/-- An operation of the ledger keeps what claims name. -/
theorem Scoped.operation_kept {key : Key} {operation : Operation}
    (present : rows.operations.lookup key = some operation) :
    ∃ next, whole.operations.lookup key = some next ∧ next.projectID = operation.projectID ∧
      next.kind = operation.kind ∧ next.idempotencyKey = operation.idempotencyKey := by
  have loaded := mutation.operations.loaded key
  have patched := mutation.operations.patched key
  cases seen : scope.seesOperation rows key with
  | true =>
    rw [seen, if_pos rfl] at loaded patched
    obtain ⟨next, isNext, same⟩ := mutation.inScope.operationsKept (loaded.trans present)
    simp only [sameIdentity, Bool.and_eq_true, decide_eq_true_eq] at same
    obtain ⟨⟨⟨⟨sameProject, _⟩, sameKind⟩, sameKey⟩, _⟩ := same
    exact ⟨next, patched.trans isNext, sameProject.symm, sameKind.symm, sameKey.symm⟩
  | false =>
    rw [seen, if_neg (by simp)] at patched
    exact ⟨operation, patched.trans present, rfl, rfl, rfl⟩

/-- **The whole ledger is valid although only a part was validated.** -/
theorem Scoped.whole_valid : whole.valid = true := by
  have inPart := (State.valid_iff part).mp mutation.valid
  have inRows := (State.valid_iff rows.decode).mp mutation.stored.valid
  have patched := mutation.patched
  have claim : ∀ {key}, scope.seesClaim key = true →
      whole.idempotency.lookup key = part.idempotency.lookup key := by
    intro key seen
    rw [patched.idempotency key, seen, if_pos rfl]
  have unseen : ∀ {key}, scope.seesClaim key = false →
      whole.idempotency.lookup key = rows.decode.idempotency.lookup key := by
    intro key seen
    rw [patched.idempotency key, seen, if_neg (by simp)]
  refine (State.valid_iff whole).mpr ⟨patched.environments.elim inRows.environments
    inPart.environments, patched.sandboxes.elim inRows.sandboxes inPart.sandboxes,
    patched.operations.elim inRows.operations inPart.operations,
    patched.checkpoints.elim inRows.checkpoints inPart.checkpoints,
    patched.workspaces.elim inRows.workspaces inPart.workspaces,
    patched.connectors.elim inRows.connectors inPart.connectors, ?_, ?_⟩
  · intro key operationID present
    cases seen : scope.seesClaim key with
    | true =>
      rw [claim seen] at present
      refine validIndexEntry_of (inPart.idempotency present) fun {operation} isOperation => ?_
      rw [← (encodeState_ok mutation.isAfter).2.2.1] at isOperation
      exact ⟨operation, mutation.operations.whole_of_after isOperation, rfl, rfl, rfl⟩
    | false =>
      -- The claim was not loaded, but its operation keeps its identity.
      rw [unseen seen] at present
      exact validIndexEntry_of (inRows.idempotency present) mutation.operation_kept
  · intro key digest present
    rw [patched.digests key] at present
    cases seen : scope.seesClaim key with
    | true =>
      rw [seen, if_pos rfl] at present
      rw [claim seen]
      exact inPart.digests present
    | false =>
      rw [seen, if_neg (by simp)] at present
      rw [unseen seen]
      exact inRows.digests present

end Valid

/-! ## Appended events are new -/

/-- The stream of an event. -/
def streamOf (key : EventKey) : Key := (key.1, key.2.1)

theorem isTail_iff :
    isTail scope rows key = true ↔ streamOf key ∈ scope.eventStreams ∧
      ∀ other ∈ rows.events.keys, streamOf other = streamOf key → other.2.2 ≤ key.2.2 := by
  simp only [isTail, streamOf, Bool.and_eq_true, decide_eq_true_eq, List.all_eq_true,
    Bool.or_eq_true, Prod.mk.injEq]
  refine and_congr_right fun _ => forall₂_congr fun other _ => ?_
  constructor
  · rintro ((different | different) | less) ⟨sameProject, sameResource⟩
    · exact absurd sameProject different
    · exact absurd sameResource different
    · exact less
  · intro less
    by_cases sameProject : other.1 = key.1
    · by_cases sameResource : other.2.1 = key.2.1
      · exact .inr (less ⟨sameProject, sameResource⟩)
      · exact .inl (.inr sameResource)
    · exact .inl (.inl sameProject)

theorem exists_tail (member : key ∈ rows.events.keys)
    (declared : streamOf key ∈ scope.eventStreams) :
    ∃ tail ∈ rows.events.keys, streamOf tail = streamOf key ∧ isTail scope rows tail = true := by
  obtain ⟨tail, isTail', largest⟩ :=
    (rows.events.keys.filter (streamOf · = streamOf key)).toFinset.exists_max_image (·.2.2)
      ⟨key, by simp [member]⟩
  simp only [List.mem_toFinset, List.mem_filter, decide_eq_true_eq] at isTail' largest
  refine ⟨tail, isTail'.1, isTail'.2, isTail_iff.mpr ⟨isTail'.2 ▸ declared, ?_⟩⟩
  exact fun other isOther sameStream => largest other ⟨isOther, sameStream.trans isTail'.2⟩

theorem mem_keys_iff {events : AList fun _ : EventKey => Event} :
    key ∈ events.keys ↔ (events.lookup key).isSome = true :=
  AList.lookup_isSome.symm

section Events

variable {scope : MutationScope} {rows before after : Rows} {part whole : State}
variable (mutation : Scoped scope rows before after part whole)
include mutation

theorem Scoped.lookup_before_event (key : EventKey) :
    before.events.lookup key =
      (rows.events.lookup key).filter fun _ => isTail scope rows key :=
  (mutation.isBefore.events key).trans (lookup_filter _ rows.events key)

theorem Scoped.le_lastSequence (member : key ∈ rows.events.keys)
    (declared : streamOf key ∈ scope.eventStreams) :
    key.2.2 ≤ lastSequence before (streamOf key) := by
  have loaded : ∀ {other}, other ∈ before.events.keys ↔
      other ∈ rows.events.keys ∧ isTail scope rows other = true := by
    intro other
    rw [mem_keys_iff, mem_keys_iff, mutation.lookup_before_event other]
    cases rows.events.lookup other with
    | none => simp
    | some event => cases isTail scope rows other <;> simp [Option.filter]
  obtain ⟨tail, isMember, sameStream, isTail'⟩ := exists_tail member declared
  have found : (before.events.keys.find? fun other => (other.1, other.2.1) = streamOf key).isSome =
      true := by
    rw [List.find?_isSome]
    exact ⟨tail, loaded.mpr ⟨isMember, isTail'⟩, by simpa [streamOf] using sameStream⟩
  obtain ⟨last, isLast⟩ := Option.isSome_iff_exists.mp found
  have inStream : streamOf last = streamOf key := by simpa [streamOf] using List.find?_some isLast
  obtain ⟨_, lastTail⟩ := loaded.mp (List.mem_of_find?_eq_some isLast)
  rw [lastSequence, isLast]
  exact (isTail_iff.mp lastTail).2 key member inStream.symm

/-- **An appended event meets no event of the ledger**, loaded or not. -/
theorem Scoped.fresh (present : after.events.lookup key = some event)
    (absent : before.events.lookup key = none) :
    rows.events.lookup key = none ∧ streamOf key ∈ scope.eventStreams := by
  have declared : streamOf key ∈ scope.eventStreams :=
    (mutation.inScope.eventsDeclared present).resolve_left (by simp [absent])
  refine ⟨?_, declared⟩
  by_contra isOld
  have member : key ∈ rows.events.keys := mem_keys_iff.mpr (Option.isSome_iff_ne_none.mpr isOld)
  have added : key.2.2 ∈ addedSequences before after (streamOf key) := by
    rw [addedSequences, List.mem_mergeSort]
    refine List.mem_map.mpr ⟨key, List.mem_filter.mpr ⟨mem_keys_iff.mpr (by rw [present]; rfl), ?_⟩,
      rfl⟩
    simp [absent, streamOf]
  rw [mutation.inScope.contiguous _ declared, List.mem_range'_1] at added
  have bounded := mutation.le_lastSequence member declared
  omega

/-- An event row is as it was loaded, or it is appended to a declared stream. -/
theorem Scoped.event_cases (key : EventKey) :
    before.events.lookup key = after.events.lookup key ∨ before.events.lookup key = none ∧
      rows.events.lookup key = none ∧ streamOf key ∈ scope.eventStreams := by
  cases old : before.events.lookup key with
  | some event => exact .inl (mutation.inScope.eventsKept old).symm
  | none =>
    cases new : after.events.lookup key with
    | none => exact .inl rfl
    | some event => exact .inr ⟨rfl, mutation.fresh new old⟩

end Events

/-! ## Encoding the whole ledger -/

theorem encodeState_events (encoded : encodeState state = .ok rows) :
    encodeEvents state.events ∅ = .ok rows.events := by
  unfold encodeState at encoded
  split at encoded
  · cases encoded
  · next isEncoded =>
    cases encoded
    exact isEncoded

theorem lookup_encodeState_idempotency (encoded : encodeState state = .ok rows)
    (key : IdempotencyKey) :
    rows.idempotency.lookup key = (state.idempotency.lookup key).map fun operationID =>
      ⟨operationID, (state.idempotencyDigests.lookup key).getD ""⟩ := by
  unfold encodeState at encoded
  split at encoded
  · cases encoded
  · cases encoded
    rw [lookup_filterMap]
    cases state.idempotency.lookup key <;> rfl

theorem restrict_keyed (keyed : EventsKeyed rows.events) :
    EventsKeyed (rows.restrict scope).events := by
  intro key event present
  change (Table.filter (fun key _ => isTail scope rows key) rows.events).lookup key = _ at present
  rw [lookup_filter] at present
  exact keyed (Option.filter_eq_some_iff.mp present).1

section Whole

variable {scope : MutationScope} {rows before after : Rows} {part whole : State}
variable (mutation : Scoped scope rows before after part whole)
include mutation

theorem Scoped.mem_part_events :
    event ∈ part.events ↔ after.events.lookup (eventKey event) = some event := by
  rw [(encodedEvents_of_ok (encodeState_events mutation.isAfter)).lookup_iff]
  exact (and_iff_left rfl).symm

theorem Scoped.mem_loaded_events :
    event ∈ (rows.restrict scope).decode.events ↔
      before.events.lookup (eventKey event) = some event := by
  rw [mem_decode_iff (restrict_keyed mutation.stored.events), mutation.isBefore.events]

theorem Scoped.whole_events : whole.events.Perm (rows.decode.events ++
    part.events.filter fun event => (before.events.lookup (eventKey event)).isNone) := by
  have partDistinct : part.events.Nodup :=
    (encodedEvents_of_ok (encodeState_events mutation.isAfter)).distinct.of_map
  have loadedDistinct : (rows.restrict scope).decode.events.Nodup :=
    (decode_events_distinct (restrict_keyed mutation.stored.events)).of_map
  have split_ : part.events.Perm (part.events.filter
      (fun event => (before.events.lookup (eventKey event)).isNone) ++
        (rows.restrict scope).decode.events) := by
    refine (List.perm_ext_iff_of_nodup partDistinct (List.nodup_append.mpr
      ⟨partDistinct.filter _, loadedDistinct, ?_⟩)).mpr fun event => ?_
    · rintro event isAdded other isLoaded rfl
      have absent := (List.mem_filter.mp isAdded).2
      rw [mutation.mem_loaded_events.mp isLoaded] at absent
      cases absent
    · rw [List.mem_append, List.mem_filter, mutation.mem_part_events, mutation.mem_loaded_events]
      cases old : before.events.lookup (eventKey event) with
      | none => simp
      | some earlier =>
        rw [mutation.inScope.eventsKept old]
        simp
  refine (List.perm_append_right_iff (rows.restrict scope).decode.events).mp ?_
  rw [List.append_assoc]
  exact mutation.patched.events.trans (split_.append_left _)

/-- **The whole result can be encoded**, and its event rows are the old ones and the new ones. -/
theorem Scoped.exists_encoded : ∃ encoded, encodeState whole = .ok encoded ∧
    ∀ {key event}, encoded.events.lookup key = some event ↔
      rows.events.lookup key = some event ∨
        (after.events.lookup key = some event ∧ before.events.lookup key = none) := by
  have isPart := encodedEvents_of_ok (encodeState_events mutation.isAfter)
  have keyed := mutation.stored.events
  have members : ∀ {event}, event ∈ whole.events ↔
      rows.events.lookup (eventKey event) = some event ∨
        (after.events.lookup (eventKey event) = some event ∧
          before.events.lookup (eventKey event) = none) := by
    intro event
    rw [mutation.whole_events.mem_iff, List.mem_append, List.mem_filter, mem_decode_iff keyed,
      mutation.mem_part_events, Option.isNone_iff_eq_none]
  have valid : ∀ event ∈ whole.events, validateSandboxEvent event = .ok () := by
    intro event member
    rcases members.mp member with old | ⟨added, _⟩
    · exact (keyed old).1
    · exact isPart.valid event (mutation.mem_part_events.mpr added)
  have distinct : (whole.events.map eventKey).Nodup := by
    rw [(mutation.whole_events.map eventKey).nodup_iff, List.map_append, List.nodup_append]
    refine ⟨decode_events_distinct keyed,
      isPart.distinct.sublist (List.filter_sublist.map eventKey), ?_⟩
    rintro _ isOld _ isNew rfl
    obtain ⟨event, member, same⟩ := List.mem_map.mp isOld
    obtain ⟨added, isAdded, rfl⟩ := List.mem_map.mp isNew
    obtain ⟨inPart, absent⟩ := List.mem_filter.mp isAdded
    have isAbsent := (mutation.fresh (mutation.mem_part_events.mp inPart)
      (Option.isNone_iff_eq_none.mp absent)).1
    rw [← same, (mem_decode_iff keyed).mp member] at isAbsent
    cases isAbsent
  obtain ⟨events, encoded⟩ := exists_encodeEvents valid distinct
  refine ⟨_, by rw [encodeState, encoded], fun {key event} => ?_⟩
  rw [(encodedEvents_of_ok encoded).lookup_iff, members]
  constructor
  · rintro ⟨present, rfl⟩
    exact present
  · intro present
    have isKey : eventKey event = key := by
      rcases present with old | ⟨added, _⟩
      · exact (keyed old).2
      · exact (isPart.lookup_iff.mp added).2
    rw [isKey]
    exact ⟨present, rfl⟩

theorem Scoped.claims {encodedBefore encodedAfter : Rows}
    (isBefore : encodeState rows.decode = .ok encodedBefore)
    (same : encodedBefore.Same rows) (isAfter : encodeState whole = .ok encodedAfter) :
    LocalEdit scope.seesClaim rows.idempotency before.idempotency after.idempotency
      encodedAfter.idempotency := by
  refine ⟨fun key => ?_, fun key => ?_, fun {key} different => ?_⟩
  · rw [mutation.isBefore.idempotency key]
    change (Table.filter (fun key _ => key ∈ scope.idempotency) rows.idempotency).lookup key = _
    rw [lookup_filter, MutationScope.seesClaim]
    cases rows.idempotency.lookup key with
    | none => rw [ite_self]; rfl
    | some row => rfl
  · rw [lookup_encodeState_idempotency isAfter, mutation.patched.idempotency key,
      mutation.patched.digests key]
    cases scope.seesClaim key with
    | true =>
      rw [if_pos rfl, if_pos rfl, if_pos rfl, lookup_encodeState_idempotency mutation.isAfter]
    | false =>
      rw [if_neg (by simp), if_neg (by simp), if_neg (by simp),
        ← same.idempotency key, lookup_encodeState_idempotency isBefore]
  · rw [MutationScope.seesClaim, decide_eq_true_eq]
    exact mutation.inScope.claims different

end Whole

/-! ## The same heads in any order -/

/-- What families are sorted by. -/
def LifecycleHeadKey.place (key : LifecycleHeadKey) : String ×ₗ String ×ₗ String ×ₗ String :=
  toLex (key.projectID, toLex (key.ownerKind.text, toLex (key.resourceID, key.family.text)))

theorem OwnerKind.text_injective : Function.Injective OwnerKind.text := by
  intro first second same
  cases first <;> cases second <;> first | rfl | exact absurd same (by decide)

theorem LifecycleFamily.text_injective : Function.Injective LifecycleFamily.text := by
  intro first second same
  cases first <;> cases second <;> first | rfl | exact absurd same (by decide)

theorem LifecycleHeadKey.place_injective : Function.Injective LifecycleHeadKey.place := by
  rintro ⟨projectID, ownerKind, resourceID, family⟩ ⟨projectID', ownerKind', resourceID', family'⟩
    same
  simp only [place, EmbeddingLike.apply_eq_iff_eq, Prod.mk.injEq] at same
  obtain ⟨rfl, sameOwner, rfl, sameFamily⟩ := same
  rw [OwnerKind.text_injective sameOwner, LifecycleFamily.text_injective sameFamily]

theorem LifecycleHeadKey.precedes_iff {first second : LifecycleHeadKey} :
    first.precedes second = true ↔ first.place ≤ second.place := by
  simp only [place, Prod.Lex.toLex_le_toLex, OwnerKind.text_injective.eq_iff]
  unfold LifecycleHeadKey.precedes
  by_cases sameProject : first.projectID = second.projectID
  · by_cases sameOwner : first.ownerKind = second.ownerKind
    · by_cases sameResource : first.resourceID = second.resourceID
      · simp [sameProject, sameOwner, sameResource]
      · simp [sameProject, sameOwner, sameResource]
    · simp [sameProject, sameOwner]
  · simp [sameProject]

/-- Sorting forgets the order in which keys were collected. -/
theorem sortedLifecycleHeadKeys_eq {first second : List LifecycleHeadKey}
    (isPerm : first.Perm second) :
    sortedLifecycleHeadKeys first = sortedLifecycleHeadKeys second := by
  have sorts (keys : List LifecycleHeadKey) :
      (sortedLifecycleHeadKeys keys).Pairwise fun first second => first.precedes second := by
    apply List.pairwise_mergeSort
    · intro first second third
      simpa only [LifecycleHeadKey.precedes_iff] using le_trans
    · intro first second
      simpa only [Bool.or_eq_true, LifecycleHeadKey.precedes_iff] using le_total _ _
  refine List.Perm.eq_of_pairwise (fun _ _ _ _ precedes follows => ?_) (sorts first) (sorts second)
    ((List.mergeSort_perm first _).trans (isPerm.trans (List.mergeSort_perm second _).symm))
  rw [LifecycleHeadKey.precedes_iff] at precedes follows
  exact LifecycleHeadKey.place_injective (le_antisymm precedes follows)

/-- Families of one project have one row for each identifier. -/
def OperationsNamed (rows : Rows) : Prop :=
  ∀ ⦃key operation⦄, rows.operations.lookup key = some operation → key = operationKey operation

section Order

variable {rows rows' : Rows} (same : rows.Same rows')
include same

theorem ownerEligible_eq : ownerEligible rows = ownerEligible rows' := by
  funext ownerKind owner
  cases ownerKind with
  | sandbox => simp only [ownerEligible, same.sandboxes owner]
  | workspace => simp only [ownerEligible, same.workspaces owner]

theorem replaceLifecycleOperationHead_eq :
    replaceLifecycleOperationHead rows = replaceLifecycleOperationHead rows' := by
  funext heads candidate
  simp only [replaceLifecycleOperationHead, ownerEligible_eq same]

theorem upsertLifecycleOperationHead_eq :
    upsertLifecycleOperationHead rows = upsertLifecycleOperationHead rows' := by
  have sameOperation : ∀ heads key, headOperation rows heads key =
      headOperation rows' heads key := by
    intro heads key
    cases found : heads.lookup key with
    | none => simp [headOperation, found]
    | some id => simp [headOperation, found, same.operations (key.projectID, id)]
  funext heads candidate
  simp only [upsertLifecycleOperationHead, ownerEligible_eq same, sameOperation]

theorem mem_attemptsOf_same {only : Option LifecycleHeadKey} {operation : Operation}
    {key : LifecycleHeadKey} :
    (operation, key) ∈ attemptsOf rows only ↔ (operation, key) ∈ attemptsOf rows' only :=
  (same.operations.perm.filterMap _).mem_iff

omit same in
theorem identified_attemptsOf (named : OperationsNamed rows) (only : Option LifecycleHeadKey) :
    Identified (attemptsOf rows only) := by
  have inTable : ∀ {operation key}, (operation, key) ∈ attemptsOf rows only →
      (operation, key) ∈ insertedAttempts Rows.empty rows := by
    intro operation key member
    obtain ⟨⟨row, _⟩, isRow, chosen⟩ := List.mem_filterMap.mp member
    obtain ⟨family, isFamily, pair⟩ := Option.map_eq_some_iff.mp chosen
    cases pair
    exact mem_insertedAttempts.mpr
      ⟨(Option.filter_eq_some_iff.mp isFamily).1, row, rfl, mem_entries_iff.mp isRow⟩
  intro first second key isFirst isSecond
  exact identified_insertedAttempts (fun _ present => named present) (inTable isFirst)
    (inTable isSecond)

theorem selectLifecycleOperationHeads_same (named : OperationsNamed rows)
    (only : Option LifecycleHeadKey) :
    Table.Same (selectLifecycleOperationHeads rows only)
      (selectLifecycleOperationHeads rows' only) := by
  have named' : OperationsNamed rows' := fun key operation present =>
    named ((same.operations key).trans present)
  intro key
  ext operation
  rw [selectLifecycleOperationHeads_eq, selectLifecycleOperationHeads_eq,
    lookup_newestOf (identified_attemptsOf named only),
    lookup_newestOf (identified_attemptsOf named' only)]
  exact ⟨fun newest => newest.of_mem_iff (mem_attemptsOf_same same),
    fun newest => newest.of_mem_iff (mem_attemptsOf_same same).symm⟩

theorem refreshLifecycleOperationHead_eq (named : OperationsNamed rows) :
    refreshLifecycleOperationHead rows = refreshLifecycleOperationHead rows' := by
  funext heads key
  simp only [refreshLifecycleOperationHead, upsertLifecycleOperationHead_eq same,
    selectLifecycleOperationHeads_same same named (some key) key]

/-- **The heads after a mutation do not depend on the order of its changes.** -/
theorem lookup_syncHeads_same (named : OperationsNamed rows) (heads : Heads)
    {operations operations' : List (Change Key Operation)} {owners owners' : List OwnerChange}
    (sameOperations : operations.Perm operations') (sameOwners : owners.Perm owners')
    (identified : Identified (operations.filterMap joinsFamily)) (key : LifecycleHeadKey) :
    (syncLifecycleOperationHeads rows (cascadeHeads heads operations) operations
      owners).lookup key =
      (syncLifecycleOperationHeads rows' (cascadeHeads heads operations') operations'
        owners').lookup key := by
  have cascaded : cascadeHeads heads operations = cascadeHeads heads operations' := by
    simp only [cascadeHeads, sameOperations.all_eq]
  have dirty : sortedLifecycleHeadKeys (dirtyFamilies (cascadeHeads heads operations') operations) =
      sortedLifecycleHeadKeys (dirtyFamilies (cascadeHeads heads operations') operations') :=
    sortedLifecycleHeadKeys_eq (sameOperations.filterMap _).dedup
  have sameJoined : ∀ {operation key}, (operation, key) ∈ operations.filterMap joinsFamily ↔
      (operation, key) ∈ operations'.filterMap joinsFamily :=
    (sameOperations.filterMap joinsFamily).mem_iff
  have identified' : Identified (operations'.filterMap joinsFamily) :=
    fun _ _ _ isFirst isSecond => identified (sameJoined.mpr isFirst) (sameJoined.mpr isSecond)
  have sameInserted : Table.Same (insertedOperations operations)
      (insertedOperations operations') := by
    intro key
    ext operation
    rw [insertedOperations_eq, insertedOperations_eq, lookup_newestOf identified,
      lookup_newestOf identified']
    exact ⟨fun newest => newest.of_mem_iff sameJoined,
      fun newest => newest.of_mem_iff sameJoined.symm⟩
  have keys : sortedLifecycleHeadKeys (insertedOperations operations).keys =
      sortedLifecycleHeadKeys (insertedOperations operations').keys :=
    sortedLifecycleHeadKeys_eq (sameInserted.perm.map Sigma.fst)
  have replaced : (syncLifecycleOperationHeads rows (cascadeHeads heads operations) operations []) =
      syncLifecycleOperationHeads rows' (cascadeHeads heads operations') operations' [] := by
    simp only [syncLifecycleOperationHeads, List.foldl_nil, cascaded, dirty, keys,
      refreshLifecycleOperationHead_eq same named, sameInserted _,
      replaceLifecycleOperationHead_eq same]
  change (owners.foldl forgetOwner (syncLifecycleOperationHeads rows
    (cascadeHeads heads operations) operations [])).lookup key = (owners'.foldl forgetOwner
      (syncLifecycleOperationHeads rows' (cascadeHeads heads operations') operations' [])).lookup
        key
  rw [replaced]
  generalize syncLifecycleOperationHeads rows' (cascadeHeads heads operations')
    operations' [] = base
  obtain ⟨forgotten, kept⟩ := lookup_forgetOwners owners base key
  obtain ⟨forgotten', kept'⟩ := lookup_forgetOwners owners' base key
  by_cases forgets : ∃ change ∈ owners, change.Forgets key.owner
  · rw [forgotten forgets, forgotten']
    exact forgets.imp fun change isForgotten =>
      ⟨sameOwners.mem_iff.mp isForgotten.1, isForgotten.2⟩
  · rw [kept fun change member isForgotten => forgets ⟨change, member, isForgotten⟩,
      kept' fun change member isForgotten =>
        forgets ⟨change, sameOwners.mem_iff.mpr member, isForgotten⟩]

end Order

/-! ## The same mutation -/

/-- Two pairs of encoded states with the same changes. -/
structure SameChanges (before after before' after' : Rows) : Prop where
  environments : (changes before.environments after.environments).Perm
    (changes before'.environments after'.environments)
  sandboxes : (changes before.sandboxes after.sandboxes).Perm
    (changes before'.sandboxes after'.sandboxes)
  operations : (changes before.operations after.operations).Perm
    (changes before'.operations after'.operations)
  checkpoints : (changes before.checkpoints after.checkpoints).Perm
    (changes before'.checkpoints after'.checkpoints)
  workspaces : (changes before.workspaces after.workspaces).Perm
    (changes before'.workspaces after'.workspaces)
  connectors : (changes before.connectors after.connectors).Perm
    (changes before'.connectors after'.connectors)
  events : (changes before.events after.events).Perm (changes before'.events after'.events)
  idempotency : (changes before.idempotency after.idempotency).Perm
    (changes before'.idempotency after'.idempotency)

section SameChanges

variable {before after before' after' : Rows} (same : SameChanges before after before' after')
include same

theorem SameChanges.write (rows : Rows) :
    (rows.write before after).Same (rows.write before' after') :=
  ⟨same_apply_of_perm (exact_changes _ _).distinct same.environments,
    same_apply_of_perm (exact_changes _ _).distinct same.sandboxes,
    same_apply_of_perm (exact_changes _ _).distinct same.operations,
    same_apply_of_perm (exact_changes _ _).distinct same.checkpoints,
    same_apply_of_perm (exact_changes _ _).distinct same.workspaces,
    same_apply_of_perm (exact_changes _ _).distinct same.connectors,
    same_apply_of_perm (exact_changes _ _).distinct same.events,
    same_apply_of_perm (exact_changes _ _).distinct same.idempotency⟩

theorem SameChanges.owners : (ownerChanges before after).Perm (ownerChanges before' after') :=
  (same.sandboxes.map _).append (same.workspaces.map _)

theorem SameChanges.resources :
    (resourceChanges before after).Perm (resourceChanges before' after') :=
  (same.workspaces.map _).append (same.environments.map _)

end SameChanges

theorem Covers.withHeads {indexes : Indexes} {heads : Heads} {resources : List ResourceChange}
    {sandboxes : List (Change Key Sandbox)}
    (covers : Covers resources sandboxes (indexes.withHeads heads)) (heads' : Heads) :
    Covers resources sandboxes (indexes.withHeads heads') := by
  refine ⟨fun counter => ?_, fun counter => ?_, covers.distinct, covers.absent⟩
  · rw [reading_withHeads, ← reading_withHeads indexes heads]
    exact covers.resourcesCounted counter
  · rw [reading_withHeads, ← reading_withHeads indexes heads]
    exact covers.sandboxesCounted counter

/-- Databases that no query tells apart. -/
structure Database.Same (first second : Database) : Prop where
  rows : first.rows.Same second.rows
  counters : ∀ counter, first.indexes.reading counter = second.indexes.reading counter
  mounts : Table.Same first.indexes.activeWorkspaceMounts second.indexes.activeWorkspaceMounts
  heads : Table.Same first.heads second.heads

/-- **Mutations with the same changes have the same effect**, whatever the order of the changes. -/
theorem sync_same {database next : Database} {order : Iteration} {before' after' : Rows}
    (same : SameChanges before after before' after') (fits : Fits database.rows before after)
    (named : database.rows.Named)
    (operationsNamed : OperationsNamed (database.rows.write before after))
    (identified : Identified ((order.operations
      (changes before.operations after.operations)).filterMap joinsFamily))
    (synced : database.sync order before after = .ok next) (order' : Iteration) :
    ∃ next', database.sync order' before' after' = .ok next' ∧ next.Same next' := by
  obtain ⟨passed, isWritten⟩ := sync_cases synced
  have resourcesNamed := arrangedResources_named fits named order
  have sandboxesNamed := arrangedSandboxes_named fits named order
  obtain ⟨covers, effect⟩ := sync_effect resourcesNamed sandboxesNamed passed
  have resources : (order.resources (resourceChanges before after)).Perm
      (order'.resources (resourceChanges before' after')) :=
    (order.resources_perm _).trans (same.resources.trans (order'.resources_perm _).symm)
  have sandboxes : (order.sandboxes (changes before.sandboxes after.sandboxes)).Perm
      (order'.sandboxes (changes before'.sandboxes after'.sandboxes)) :=
    (order.sandboxes_perm _).trans (same.sandboxes.trans (order'.sandboxes_perm _).symm)
  have resourcesNamed' := fun change member =>
    resourcesNamed change (resources.mem_iff.mpr member)
  have sandboxesNamed' := fun change member =>
    sandboxesNamed change (sandboxes.mem_iff.mpr member)
  obtain ⟨indexes, passed'⟩ := sync_ok resourcesNamed' sandboxesNamed'
    ((covers.perm resources sandboxes).withHeads (database.syncHeads order' before' after'))
  obtain ⟨_, effect'⟩ := sync_effect resourcesNamed' sandboxesNamed' passed'
  have arranged := effect.perm resources sandboxes
  refine ⟨⟨_, indexes⟩, by rw [Database.sync, passed']; rfl,
    ⟨?_, fun counter => ?_, fun mount => ?_,
    fun key => ?_⟩⟩
  · rw [isWritten]
    exact same.write database.rows
  · have read := arranged.reading counter
    have read' := effect'.reading counter
    rw [reading_withHeads] at read read'
    change next.indexes.reading counter = indexes.reading counter
    omega
  · ext owner
    rw [arranged.mounts, effect'.mounts]
    rfl
  · rw [Database.heads, Database.heads, effect.heads, effect'.heads]
    exact lookup_syncHeads_same (same.write database.rows) operationsNamed _
      ((order.operations_perm _).trans (same.operations.trans (order'.operations_perm _).symm))
      ((order.owners_perm _).trans (same.owners.trans (order'.owners_perm _).symm)) identified key

section Refinement

variable {scope : MutationScope} {rows before after : Rows} {part whole : State}
variable (mutation : Scoped scope rows before after part whole)
variable {wholeBefore wholeAfter : Rows} (isBefore : encodeState rows.decode = .ok wholeBefore)
variable (same : wholeBefore.Same rows) (isAfter : encodeState whole = .ok wholeAfter)
variable (wholeEvents : ∀ {key event}, wholeAfter.events.lookup key = some event ↔
  rows.events.lookup key = some event ∨
    (after.events.lookup key = some event ∧ before.events.lookup key = none))
include mutation isBefore same isAfter wholeEvents

/-- **The callback makes the same changes on the whole ledger as on the part.** -/
theorem Scoped.sameChanges : SameChanges before after wholeBefore wholeAfter := by
  obtain ⟨environments, sandboxes, operations, checkpoints, workspaces, connectors⟩ :=
    encodeState_ok isAfter
  refine ⟨environments ▸ mutation.environments.changes_perm same.environments,
    sandboxes ▸ mutation.sandboxes.changes_perm same.sandboxes,
    operations ▸ mutation.operations.changes_perm same.operations,
    checkpoints ▸ mutation.checkpoints.changes_perm same.checkpoints,
    workspaces ▸ mutation.workspaces.changes_perm same.workspaces,
    connectors ▸ mutation.connectors.changes_perm same.connectors,
    Table.changes_perm fun key => ?_,
    (mutation.claims isBefore same isAfter).changes_perm same.idempotency⟩
  have loaded := mutation.lookup_before_event key
  have kept := same.events key
  cases old : rows.events.lookup key with
  | none =>
    rw [old] at loaded kept
    refine .inr ⟨loaded.trans kept.symm, ?_⟩
    ext event
    rw [wholeEvents, old]
    exact ⟨fun present => .inr ⟨present, loaded⟩, fun present => (present.resolve_left
      (by rintro ⟨⟩)).1⟩
  | some event =>
    rw [old] at kept
    refine .inl ⟨?_, kept.trans (wholeEvents.mpr (.inl old)).symm⟩
    refine (mutation.event_cases key).resolve_right ?_
    rintro ⟨_, absent, _⟩
    cases old.symm.trans absent

end Refinement

/-! ## Refinement -/

theorem stored_of_encode (isValid : state.valid = true) {encoded : Rows}
    (isEncoded : encodeState state = .ok encoded) (same : rows.Same encoded) : rows.Stored := by
  obtain ⟨environments, sandboxes, operations, checkpoints, workspaces, connectors⟩ :=
    encodeState_ok isEncoded
  have valid := (State.valid_iff state).mp isValid
  have isEvents := encodedEvents_of_ok (encodeState_events isEncoded)
  have claims : ∀ key, rows.idempotency.lookup key = (state.idempotency.lookup key).map
      fun operationID => ⟨operationID, (state.idempotencyDigests.lookup key).getD ""⟩ := fun key =>
    (same.idempotency key).trans (lookup_encodeState_idempotency isEncoded key)
  have bound : ∀ key, rows.decode.idempotency.lookup key = state.idempotency.lookup key := by
    intro key
    rw [Rows.decode, lookup_filterMap, claims key]
    cases state.idempotency.lookup key <;> rfl
  refine ⟨(State.valid_iff rows.decode).mpr
    ⟨fun present => valid.environments (environments ▸ (same.environments _).symm.trans present),
      fun present => valid.sandboxes (sandboxes ▸ (same.sandboxes _).symm.trans present),
      fun present => valid.operations (operations ▸ (same.operations _).symm.trans present),
      fun present => valid.checkpoints (checkpoints ▸ (same.checkpoints _).symm.trans present),
      fun present => valid.workspaces (workspaces ▸ (same.workspaces _).symm.trans present),
      fun present => valid.connectors (connectors ▸ (same.connectors _).symm.trans present),
      ?_, ?_⟩, ?_⟩
  · intro key operationID present
    rw [bound] at present
    refine validIndexEntry_of (valid.idempotency present) fun {operation} isOperation => ?_
    exact ⟨operation, (same.operations _).trans (operations ▸ isOperation), rfl, rfl, rfl⟩
  · intro key digest present
    rw [bound]
    rw [Rows.decode, lookup_filterMap, claims key, Option.bind_map] at present
    obtain ⟨operationID, isClaim, chosen⟩ := Option.bind_eq_some_iff.mp present
    cases recorded : state.idempotencyDigests.lookup key with
    | none => simp [recorded] at chosen
    | some recordedDigest =>
      simp only [Function.comp, recorded, Option.getD_some, Option.ite_none_left_eq_some,
        Option.some.injEq] at chosen
      exact ⟨by rw [isClaim]; rfl, chosen.2 ▸ (valid.digests recorded).2⟩
  · intro key event present
    rw [same.events key] at present
    obtain ⟨member, isKey⟩ := isEvents.lookup_iff.mp present
    exact ⟨isEvents.valid event member, isKey⟩

theorem Rows.Stored.named (stored : rows.Stored) : rows.Named := by
  obtain ⟨encoded, isEncoded, same⟩ := encode_decode stored.events
  have named := named_of_valid stored.valid isEncoded
  exact ⟨fun key => same.sandboxes key ▸ named.sandboxes key,
    fun key => same.workspaces key ▸ named.workspaces key,
    fun key => same.environments key ▸ named.environments key⟩

theorem Rows.Stored.operationsNamed (stored : rows.Stored) : OperationsNamed rows :=
  fun _ _ present => (State.scopedIdentity_iff.mp
    (((State.valid_iff rows.decode).mp stored.valid).operations present)).2.2.2

/-- Rows that are not declared are the same. -/
structure Rows.SameOutside (scope : MutationScope) (first second : Rows) : Prop where
  environments : ∀ key ∉ scope.environments,
    second.environments.lookup key = first.environments.lookup key
  sandboxes : ∀ key ∉ scope.sandboxes, second.sandboxes.lookup key = first.sandboxes.lookup key
  operations : ∀ key ∉ scope.operations, second.operations.lookup key = first.operations.lookup key
  checkpoints : ∀ key ∉ scope.checkpoints,
    second.checkpoints.lookup key = first.checkpoints.lookup key
  workspaces : ∀ key ∉ scope.workspaces, second.workspaces.lookup key = first.workspaces.lookup key
  connectors : ∀ key ∉ scope.connectors, second.connectors.lookup key = first.connectors.lookup key
  idempotency : ∀ key ∉ scope.idempotency,
    second.idempotency.lookup key = first.idempotency.lookup key
  events : ∀ key, streamOf key ∉ scope.eventStreams ∨ (first.events.lookup key).isSome = true →
    second.events.lookup key = first.events.lookup key

theorem lookup_write_undeclared {RowKey Row : Type} [DecidableEq RowKey] [DecidableEq Row]
    {table before after : AList fun _ : RowKey => Row} {declared : List RowKey}
    (isDeclared : ∀ {key}, before.lookup key ≠ after.lookup key → key ∈ declared) {key : RowKey}
    (undeclared : key ∉ declared) :
    (apply table (changes before after)).lookup key = table.lookup key :=
  (exact_changes before after).lookup_apply_of_eq
    (by_contra fun different => undeclared (isDeclared different))

theorem Scoped.sameOutside {part whole : State}
    (mutation : Scoped scope rows before after part whole) :
    Rows.SameOutside scope rows (rows.write before after) := by
  have inScope := mutation.inScope
  refine ⟨fun _ => lookup_write_undeclared inScope.environments,
    fun _ => lookup_write_undeclared inScope.sandboxes,
    fun _ => lookup_write_undeclared inScope.operations,
    fun _ => lookup_write_undeclared inScope.checkpoints,
    fun _ => lookup_write_undeclared inScope.workspaces,
    fun _ => lookup_write_undeclared inScope.connectors,
    fun _ => lookup_write_undeclared inScope.claims, fun key outside => ?_⟩
  refine (exact_changes _ _).lookup_apply_of_eq ?_
  rcases mutation.event_cases key with same | ⟨_, absent, declared⟩
  · exact same
  · rcases outside with undeclared | present
    · exact absurd declared undeclared
    · rw [absent] at present
      cases present

theorem scoped_of_prepared {callback : Callback} (stored : rows.Stored)
    (confined : Confined scope callback)
    (prepared : PreparedRows scope callback rows before after) :
    ∃ part whole, callback rows.decode = .ok whole ∧
      Scoped scope rows before after part whole := by
  obtain ⟨part, called, isValid, isAfter⟩ := prepared.called
  obtain ⟨whole, calledWhole, patched⟩ := confined rows part stored called
  obtain ⟨encoded, isEncoded, same⟩ := encode_decode (restrict_keyed stored.events)
  have isBefore := prepared.isBefore
  rw [isEncoded] at isBefore
  cases isBefore
  exact ⟨part, whole, calledWhole, stored, same, isValid, isAfter,
    inScope_of_validate prepared.inScope, patched⟩

theorem Rows.same_write (same : before.Same rows) (after : Rows) :
    (rows.write before after).Same after :=
  ⟨(exact_changes _ _).apply same.environments.symm, (exact_changes _ _).apply same.sandboxes.symm,
    (exact_changes _ _).apply same.operations.symm, (exact_changes _ _).apply same.checkpoints.symm,
    (exact_changes _ _).apply same.workspaces.symm, (exact_changes _ _).apply same.connectors.symm,
    (exact_changes _ _).apply same.events.symm, (exact_changes _ _).apply same.idempotency.symm⟩

theorem Rows.Same.trans {first second third : Rows} (same : first.Same second)
    (next : second.Same third) : first.Same third :=
  ⟨same.environments.trans next.environments, same.sandboxes.trans next.sandboxes,
    same.operations.trans next.operations, same.checkpoints.trans next.checkpoints,
    same.workspaces.trans next.workspaces, same.connectors.trans next.connectors,
    same.events.trans next.events, same.idempotency.trans next.idempotency⟩

theorem identified_joined (named : OperationsNamed after) {arranged : List (Change Key Operation)}
    (isArranged : arranged.Perm (changes before.operations after.operations)) :
    Identified (arranged.filterMap joinsFamily) := by
  have joined : ∀ {operation key}, (operation, key) ∈ arranged.filterMap joinsFamily →
      key.projectID = operation.projectID ∧
        after.operations.lookup (operationKey operation) = some operation := by
    intro operation key member
    obtain ⟨change, isChange, joins⟩ := List.mem_filterMap.mp member
    obtain ⟨_, isNew, _⟩ := ((exact_changes _ _).mem_iff change).mp (isArranged.mem_iff.mp isChange)
    obtain ⟨decoded, _⟩ := Option.filter_eq_some_iff.mp joins
    obtain ⟨row, isRow, chosen⟩ := Option.bind_eq_some_iff.mp decoded
    obtain ⟨family, isFamily, pair⟩ := Option.map_eq_some_iff.mp chosen
    cases pair
    rw [isRow] at isNew
    exact ⟨family_projectID isFamily, named isNew ▸ isNew⟩
  intro first second key isFirst isSecond sameID
  obtain ⟨isProject, present⟩ := joined isFirst
  obtain ⟨isProject', present'⟩ := joined isSecond
  have sameKey : operationKey first = operationKey second := by
    rw [operationKey, operationKey, ← isProject, ← isProject', sameID]
  exact Option.some.inj (present.symm.trans (sameKey ▸ present'))

/-- **`UpdateRows` refines `Update`.**  On a valid ledger, for a callback that is confined to its
scope: if `UpdateRows` commits, then `Update` with the same callback commits, in any order of its
changes, and leads to the same rows, counters, mounts and heads.  The rows outside the scope are
unchanged, and the whole ledger is valid. -/
theorem updateRows_refines_update {database next : Database} {scope : MutationScope}
    {callback : Callback} {order : Iteration} (stored : database.rows.Stored)
    (confined : Confined scope callback)
    (committed : database.updateRows order scope callback = .ok next) :
    (∀ order', ∃ whole, database.update order' callback = .ok whole ∧ next.Same whole) ∧
      database.rows.SameOutside scope next.rows ∧ next.rows.Stored := by
  obtain ⟨before, after, isPrepared, synced⟩ := commit_ok committed
  have prepared := prepareRows_ok.mp isPrepared
  obtain ⟨part, whole, called, mutation⟩ := scoped_of_prepared stored confined prepared
  obtain ⟨wholeBefore, isBefore, sameBefore⟩ := encode_decode stored.events
  obtain ⟨wholeAfter, isAfter, wholeEvents⟩ := mutation.exists_encoded
  have same := mutation.sameChanges isBefore sameBefore isAfter wholeEvents
  have isWritten := (sync_cases synced).2
  have storedAfter : (database.rows.write before after).Stored :=
    stored_of_encode mutation.whole_valid isAfter
      ((same.write database.rows).trans (Rows.same_write sameBefore wholeAfter))
  refine ⟨fun order' => ?_, isWritten ▸ mutation.sameOutside, isWritten ▸ storedAfter⟩
  have namedAfter : OperationsNamed after := by
    intro key operation present
    rw [(encodeState_ok mutation.isAfter).2.2.1] at present
    exact (State.scopedIdentity_iff.mp
      (((State.valid_iff part).mp mutation.valid).operations present)).2.2.2
  obtain ⟨whole', synced', isSame⟩ := sync_same same (prepared.fits stored.named) stored.named
    storedAfter.operationsNamed (identified_joined namedAfter (order.operations_perm _))
      synced order'
  refine ⟨whole', ?_, isSame⟩
  have isPreparedWhole : database.prepareUpdate callback = .ok (wholeBefore, wholeAfter) :=
    prepareUpdate_ok.mpr ⟨stored.valid, isBefore, whole, called, mutation.whole_valid, isAfter⟩
  exact commit_of_sync isPreparedWhole synced'

/-- What the scope sees of a ledger is a part of it. -/
theorem patched_restrict (scope : MutationScope) (rows : Rows) :
    rows.PatchedBy scope (rows.restrict scope).decode rows.decode where
  environments := patched_filter _ _
  sandboxes := patched_filter _ _
  operations := patched_filter _ _
  checkpoints := patched_filter _ _
  workspaces := patched_filter _ _
  connectors := patched_filter _ _
  idempotency := (patched_filter _ _).filterMap _
  digests := (patched_filter _ _).filterMap _
  events := .refl _

/-- The scope of an operation, its claim and the events of its resource. -/
def claimScope (operation : Operation) : MutationScope :=
  ⟨[], [], [operationKey operation], [], [], [],
    [(operation.projectID, operation.kind, operation.idempotencyKey)],
    [(operation.projectID, operation.resourceID)]⟩

/-- Write an operation and claim its key. -/
def claimOperation (operation : Operation) : Callback :=
  fun state => .ok ((state.putOperation operation).putIdempotency operation)

theorem claimOperation_confined (operation : Operation) :
    Confined (claimScope operation) (claimOperation operation) := by
  rintro rows part _ ⟨⟩
  have patched := patched_restrict (claimScope operation) rows
  refine ⟨_, rfl, { patched with
    operations := patched.operations.insert ?_ operation
    idempotency := patched.idempotency.insert ?_ operation.id }⟩
  · simp [MutationScope.seesOperation, claimScope]
  · simp [MutationScope.seesClaim, claimScope]

/-- A database with a sandbox, a claimed operation and an event. -/
def sampleDatabase : Database :=
  let operation := sampleOperation "first" .running 1
  newDatabase.step <| .update .listed fun state => .ok
    ((((state.putSandbox (sampleSandbox "sandbox" .preparing true)).putOperation
      operation).putIdempotency operation).appendEvent
      ⟨"event", 0, "project", "sandbox", "first", "sandbox.requested", .preparing, 1, []⟩)

theorem sampleDatabase_stored : sampleDatabase.rows.Stored := by
  have keyed : ∀ entry ∈ sampleDatabase.rows.events.entries,
      validateSandboxEvent entry.2 = .ok () ∧ eventKey entry.2 = entry.1 := by decide +kernel
  exact ⟨by decide +kernel, fun key event present =>
    keyed ⟨key, event⟩ (mem_entries_iff.mpr present)⟩

/-- A second operation is claimed beside the sandbox, which the scope does not see, and the first
claim. -/
theorem updateRows_refines_update_claim :
    let operation := sampleOperation "second" .running 2
    ∃ next, sampleDatabase.updateRows .listed (claimScope operation) (claimOperation operation) =
        .ok next ∧
      next.rows.idempotency.entries.length = 2 ∧
      (∀ order', ∃ whole, sampleDatabase.update order' (claimOperation operation) = .ok whole ∧
        next.Same whole) ∧
      sampleDatabase.rows.SameOutside (claimScope operation) next.rows ∧ next.rows.Stored := by
  intro operation
  have evaluated : (sampleDatabase.updateRows .listed (claimScope operation)
      (claimOperation operation)).toOption.any (·.rows.idempotency.entries.length = 2) = true := by
    decide +kernel
  cases committed : sampleDatabase.updateRows .listed (claimScope operation)
      (claimOperation operation) with
  | error error =>
    rw [committed] at evaluated
    cases evaluated
  | ok next =>
    rw [committed] at evaluated
    exact ⟨next, rfl, of_decide_eq_true evaluated, updateRows_refines_update sampleDatabase_stored
      (claimOperation_confined operation) committed⟩

end Brezel.Store
