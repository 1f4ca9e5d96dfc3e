import Brezel.Library.Monitor.Sequential
import Brezel.Service.Schedule

/-!
# Declaring again

A revision is a hash of what was declared, so a project that declares the same content twice means
the same row.  `CreateEnvironment` looks for that row first: it keeps the row, returns it and asks
for no quota.  `CreateConnector` does not look: it asks for quota and writes the row again, with
the time of the second request.

`Declaration.Lawful` is what one call should do in one state, for both kinds of declarations.
`Declaration.lawful_iff` says that exactly the calls that declare a connector again are unlawful,
and `declarations_lawful_iff` that a sequence without such calls keeps every row.
-/

namespace Brezel.Service

open Domain Store Monitor

/-! ## Texts -/

theorem containsAny_append (first second : String) (characters : List Char) :
    containsAny (first ++ second) characters =
      (containsAny first characters || containsAny second characters) := by
  simp [containsAny]

/-- An identifier has only letters, digits and the characters it may have besides. -/
theorem containsAny_of_isIdentifier {extra characters : List Char} {least most : Nat}
    {text : String} (isIdentifier_ : isIdentifier extra least most text = true)
    (strange : ∀ character ∈ characters,
      isAlphanumeric character = false ∧ extra.contains character = false) :
    containsAny text characters = false := by
  unfold isIdentifier at isIdentifier_
  unfold containsAny
  split at isIdentifier_
  · cases isIdentifier_
  next first rest isText =>
  rw [isText]
  simp only [Bool.and_eq_true, List.all_eq_true, Bool.or_eq_true] at isIdentifier_
  obtain ⟨⟨⟨firstOk, -⟩, -⟩, restOk⟩ := isIdentifier_
  simp only [List.any_eq_false, List.mem_cons]
  rintro character (rfl | isRest) isContained
  · have isStrange := (strange character (by simpa using isContained)).1
    simp [firstOk] at isStrange
  · have isStrange := strange character (by simpa using isContained)
    rcases restOk character isRest with isOk | isOk
    · simp [isOk] at isStrange
    · cases isStrange.2.symm.trans isOk

theorem requireMutation_ok {projectID idempotencyKey : String}
    (isOk : requireMutation projectID idempotencyKey = .ok ()) :
    isSafeName projectID = true ∧ isSafeIdempotencyKey idempotencyKey = true := by
  unfold requireMutation validateProjectID at isOk
  by_cases safe : isSafeName projectID = true
  · by_cases safeKey : isSafeIdempotencyKey idempotencyKey = true
    · exact ⟨safe, safeKey⟩
    · simp [safe, safeKey] at isOk
  · simp [safe] at isOk

/-! ## The records of a declaration -/

/-- The key under which an operation is claimed. -/
def indexOf (operation : Operation) : IdempotencyKey :=
  (operation.projectID, operation.kind, operation.idempotencyKey)

/-- A declaration that can be recorded: its operation is new and properly named, its key is
unclaimed, and its digest is one. -/
structure Recordable (operation : Operation) (digest : String) (state : State) : Prop where
  project : isSafeName operation.projectID = true
  key : isSafeIdempotencyKey operation.idempotencyKey = true
  kind : operation.kind ≠ "" ∧ containsAny operation.kind ['\x00'] = false
  id : operation.id ≠ "" ∧ containsAny operation.id ['\x00', '\r', '\n'] = false
  new : state.operations.lookup (operationKey operation) = none
  unclaimed : state.idempotency.lookup (indexOf operation) = none
  digest : State.isDigest digest = true

variable {operation : Operation} {digest : String} {state : State}

theorem Recordable.index (recordable : Recordable operation digest state) :
    (recordDeclaration operation digest state).validIndexEntry (indexOf operation) operation.id =
      true := by
  have projectPlain : containsAny operation.projectID ['\x00'] = false :=
    containsAny_of_isIdentifier recordable.project (by simp [isAlphanumeric])
  have keyPlain : containsAny operation.idempotencyKey ['\x00'] = false :=
    containsAny_of_isIdentifier recordable.key (by simp [isAlphanumeric])
  have keyNamed : operation.idempotencyKey ≠ "" := by
    intro isEmpty
    have safe := recordable.key
    rw [isEmpty] at safe
    exact absurd safe (by decide)
  have recorded : (recordDeclaration operation digest state).operations.lookup
      (operation.projectID, operation.id) = some operation := AList.lookup_insert _
  simp [State.validIndexEntry, indexOf, containsAny_append, projectPlain, keyPlain,
    recordable.kind, isSafeName_ne_empty recordable.project, keyNamed, recorded]

theorem Recordable.valid (recordable : Recordable operation digest state)
    (isValid : state.valid = true) : (recordDeclaration operation digest state).valid = true := by
  have rows := (State.valid_iff state).mp isValid
  refine (State.valid_iff _).mpr ⟨rows.environments, rows.sandboxes, ?_, rows.checkpoints,
    rows.workspaces, rows.connectors, ?_, ?_⟩
  · intro key row present
    by_cases isNew : key = operationKey operation
    · subst isNew
      cases (AList.lookup_insert _).symm.trans present
      exact State.scopedIdentity_iff.mpr
        ⟨recordable.project, recordable.id.1, recordable.id.2, rfl⟩
    · exact rows.operations ((AList.lookup_insert_ne isNew).symm.trans present)
  · intro key operationID present
    by_cases isIndex : key = indexOf operation
    · subst isIndex
      cases (AList.lookup_insert _).symm.trans present
      exact recordable.index
    · have entry := rows.idempotency ((AList.lookup_insert_ne isIndex).symm.trans present)
      -- The operation of an old entry exists, so it is not the new one.
      have sameRow : (recordDeclaration operation digest state).operations.lookup
          (key.1, operationID) = state.operations.lookup (key.1, operationID) := by
        refine AList.lookup_insert_ne ?_
        intro isNew
        unfold State.validIndexEntry at entry
        rw [isNew, recordable.new] at entry
        simp at entry
      unfold State.validIndexEntry at entry ⊢
      rw [sameRow]
      exact entry
  · intro key stored present
    by_cases isIndex : key = indexOf operation
    · subst isIndex
      cases (AList.lookup_insert _).symm.trans present
      exact ⟨Option.isSome_iff_exists.mpr ⟨_, AList.lookup_insert _⟩, recordable.digest⟩
    · have sameIndex : (recordDeclaration operation digest state).idempotency.lookup key =
          state.idempotency.lookup key := AList.lookup_insert_ne isIndex
      rw [sameIndex]
      exact rows.digests ((AList.lookup_insert_ne isIndex).symm.trans present)

theorem Recordable.accepted (recordable : Recordable operation digest state) (store : StoreKind) :
    store.accepts state (recordDeclaration operation digest state) = true := by
  cases store with
  | file => rfl
  | sqlite =>
    simp only [StoreKind.accepts, Bool.and_eq_true, State.keepsClaims, State.keepsOperations,
      List.all_eq_true]
    constructor
    · intro pair member
      have present := AList.mem_lookup_iff.mpr member
      have isOld : pair.1 ≠ indexOf operation := by
        intro isIndex
        rw [isIndex, recordable.unclaimed] at present
        cases present
      have kept : (recordDeclaration operation digest state).idempotency.lookup pair.1 =
          some pair.2 := (AList.lookup_insert_ne isOld).trans present
      have keptDigest : (recordDeclaration operation digest state).idempotencyDigests.lookup
          pair.1 = state.idempotencyDigests.lookup pair.1 := AList.lookup_insert_ne isOld
      simp [kept, keptDigest]
    · intro pair member
      have present := AList.mem_lookup_iff.mpr member
      have isOld : pair.1 ≠ operationKey operation := by
        intro isNew
        rw [isNew, recordable.new] at present
        cases present
      have kept : (recordDeclaration operation digest state).operations.lookup pair.1 =
          some pair.2 := (AList.lookup_insert_ne isOld).trans present
      rw [kept]
      simp [sameIdentity]

/-! ## Calls -/

/-- A call that declares something. -/
inductive Declaration
  | environment (projectID idempotencyKey : String) (input : CreateEnvironmentInput)
  | connector (projectID idempotencyKey : String) (input : CreateConnectorInput)

namespace Declaration

/-- The call. -/
def program (deployment : Deployment) : Declaration → Code Unit
  | .environment projectID idempotencyKey input =>
    run (createEnvironment deployment projectID idempotencyKey input)
  | .connector projectID idempotencyKey input =>
    run (createConnector deployment projectID idempotencyKey input)

/-- One call from its beginning to its end.  Both kinds hold the mutex throughout. -/
def Step (deployment : Deployment) (before : Memory) (declaration : Declaration)
    (after : Memory) : Prop :=
  ∃ thread, (declaration.program deployment).outcome ((system deployment anything).setting thread)
    false before () () false after ()

/-- The call declares a connector. -/
def isConnector : Declaration → Bool
  | .environment _ _ _ => false
  | .connector _ _ _ => true

/-- The content is valid and declared already, and the key is new. -/
def Repeats (deployment : Deployment) (state : State) : Declaration → Prop
  | .environment projectID idempotencyKey input =>
    requireMutation projectID idempotencyKey = .ok () ∧
    validateEnvironment ⟨"", projectID, input.name, deployment.backendName, input.template,
      input.imageDigest, input.policyRevision, zeroTime⟩ = .ok () ∧
    state.idempotentOperation (projectID, "create_environment", idempotencyKey) = none ∧
    (state.environments.lookup
      (projectID, deployment.environmentRevision projectID input)).isSome = true
  | .connector projectID idempotencyKey input =>
    requireMutation projectID idempotencyKey = .ok () ∧
    validateConnector deployment.isOrigin ⟨"", projectID, input.name, input.destination,
      input.allowedMethods, input.allowedPaths, input.credentialRef, input.allowPrivateNetwork,
      "", zeroTime⟩ = .ok () ∧
    state.idempotentOperation (projectID, "create_connector", idempotencyKey) = none ∧
    (state.connectors.lookup
      (projectID, deployment.connectorRevision projectID input)).isSome = true

end Declaration

/-! ## Rows are kept -/

/-- Declared rows stay as they are. -/
structure DeclaredKept (before after : State) : Prop where
  environments : ∀ key row, before.environments.lookup key = some row →
    after.environments.lookup key = some row
  connectors : ∀ key row, before.connectors.lookup key = some row →
    after.connectors.lookup key = some row

theorem DeclaredKept.refl (state : State) : DeclaredKept state state :=
  ⟨fun _ _ present => present, fun _ _ present => present⟩

theorem DeclaredKept.trans {first second third : State} (earlier : DeclaredKept first second)
    (later : DeclaredKept second third) : DeclaredKept first third :=
  ⟨fun key row present => later.environments key row (earlier.environments key row present),
    fun key row present => later.connectors key row (earlier.connectors key row present)⟩

theorem environmentRows_keeps {environment : Environment} {written : Environment × Operation}
    {next : State} (computed : environmentRows environment operation digest state =
      .ok (written, next)) : DeclaredKept state next := by
  simp only [environmentRows] at computed
  split at computed
  · split at computed
    · cases computed
    · cases computed
      exact .refl state
  split at computed
  · cases computed
    exact ⟨fun _ _ present => present, fun _ _ present => present⟩
  next absent =>
  cases computed
  refine ⟨fun key row present => ?_, fun _ _ present => present⟩
  have isOld : key ≠ (operation.projectID, operation.resourceID) := by
    rintro rfl
    cases absent.symm.trans present
  exact (AList.lookup_insert_ne isOld).trans present

/-- The transaction of `CreateConnector` keeps all rows if its own is not there. -/
theorem connectorRows_keeps {limits : Limits} {connector : Connector}
    {written : Connector × Operation} {next : State}
    (computed : connectorRows limits connector operation digest state = .ok (written, next))
    (absent : state.idempotentOperation
        (operation.projectID, "create_connector", operation.idempotencyKey) = none →
      state.connectors.lookup (operation.projectID, operation.resourceID) = none) :
    DeclaredKept state next := by
  simp only [connectorRows] at computed
  split at computed
  · split at computed
    · cases computed
    · cases computed
      exact .refl state
  next isNew =>
  split at computed
  · cases computed
  cases computed
  refine ⟨fun _ _ present => present, fun key row present => ?_⟩
  have isOld : key ≠ (operation.projectID, operation.resourceID) := by
    rintro rfl
    cases (absent isNew).symm.trans present
  exact (AList.lookup_insert_ne isOld).trans present

section Outcomes

variable {Outside : Type} {setting : Monitor.Setting interface Outside} {α : Type}
  {before after : Memory}
  {outside outside' : Outside}

theorem outcome_run {code : Code α} {inside inside' : Bool}
    (ended : (run code).outcome setting inside before outside () inside' after outside') :
    ∃ result, code.outcome setting inside before outside result inside' after outside' := by
  obtain ⟨value, _, _, _, first, -, rfl, rfl, rfl⟩ := Prog.outcome_seq ended
  exact ⟨value, first⟩

theorem outcome_locked {body : Code α} {result : α}
    (ended : (locked body).outcome setting false before outside result false after outside') :
    ∃ inside, body.outcome setting true before outside result inside after outside' := by
  have opened : (body.bind fun result => Prog.unlock (.ret result)).outcome setting true before
      outside result false after outside' := ended
  obtain ⟨value, inside, midway, elsewhere, first, rest⟩ := Prog.outcome_seq opened
  cases inside with
  | false => exact rest.elim
  | true =>
    obtain ⟨rfl, -, rfl, rfl⟩ := rest
    exact ⟨true, first⟩

theorem outcome_look {β : Type} {body : Choice → Memory → α} {continuation : α → Code β}
    {result : β} {inside inside' : Bool}
    (ended : (look body >>= continuation).outcome setting inside before outside result inside'
      after outside') :
    ∃ choice, setting.admits choice before ∧
      (continuation (body choice before)).outcome setting inside before outside result inside'
        after outside' :=
  ended

theorem outcome_update {body : Choice → State → Except ServiceError (α × State)}
    {result : Except ServiceError α} {inside inside' : Bool}
    (ended : (update body).outcome setting inside before outside result inside' after outside') :
    after.state = before.state ∨
    ∃ choice value, body choice before.state = .ok (value, after.state) ∧
      after.state.valid = true := by
  obtain ⟨choice, -, -, -, rfl, -⟩ := ended
  rcases transact_cases rfl with ⟨-, same⟩ | ⟨value, computed, isValid, -⟩
  · exact .inl same
  · exact .inr ⟨choice, value, computed, isValid⟩

/-- What a declaration leaves behind. -/
def Declared (before after : State) : Prop :=
  DeclaredKept before after ∧ (before.valid = true → after.valid = true)

theorem Declared.refl (state : State) : Declared state state := ⟨.refl state, fun h => h⟩

theorem createEnvironment_outcome {deployment : Deployment} {projectID idempotencyKey : String}
    {input : CreateEnvironmentInput} {result : Environment × Operation × Option ServiceError}
    (ended : (createEnvironment deployment projectID idempotencyKey input).outcome setting false
      before outside result false after outside') : Declared before.state after.state := by
  -- Either way into the transaction, its body is `environmentRows`.
  have written : ∀ {environment : Environment}
    {answer : Except ServiceError (Environment × Operation)}
      {operation : Operation} {digest : String} {middle : Memory} {elsewhere : Outside}
      {inside inside' : Bool},
      (updateRows fun _ => environmentRows environment operation digest).outcome setting inside
        before outside answer inside' middle elsewhere →
      Declared before.state middle.state := by
    intro environment answer operation digest middle elsewhere inside inside' transacted
    rcases outcome_update transacted with same | ⟨choice, value, computed, isValid⟩
    · rw [same]
      exact .refl _
    · exact ⟨environmentRows_keeps (guarding_ok computed).1, fun _ => isValid⟩
  obtain ⟨inside, body⟩ := outcome_locked ended
  simp only [createEnvironmentLocked] at body
  split at body
  · obtain ⟨-, -, rfl, -⟩ := body
    exact .refl _
  obtain ⟨_, -, body⟩ := outcome_look body
  split at body
  · obtain ⟨-, -, rfl, -⟩ := body
    exact .refl _
  obtain ⟨_, -, body⟩ := outcome_look body
  obtain ⟨_, -, body⟩ := outcome_look body
  split at body
  · obtain ⟨-, -, rfl, -⟩ := body
    exact .refl _
  · obtain ⟨-, -, rfl, -⟩ := body
    exact .refl _
  · split at body
    · obtain ⟨-, -, rfl, -⟩ := body
      exact .refl _
    · obtain ⟨answer, _, _, _, transacted, rest⟩ := Prog.outcome_seq body
      split at rest
      · obtain ⟨-, -, rfl, -⟩ := rest
        exact written transacted
      · obtain ⟨-, -, rfl, -⟩ := rest
        exact written transacted
  · obtain ⟨answer, _, _, _, transacted, rest⟩ := Prog.outcome_seq body
    split at rest
    · obtain ⟨-, -, rfl, -⟩ := rest
      exact written transacted
    · obtain ⟨-, -, rfl, -⟩ := rest
      exact written transacted

theorem createConnector_outcome {deployment : Deployment} {projectID idempotencyKey : String}
    {input : CreateConnectorInput} {result : Connector × Operation × Option ServiceError}
    (ended : (createConnector deployment projectID idempotencyKey input).outcome setting false
      before outside result false after outside')
    (isNew : ¬ (Declaration.connector projectID idempotencyKey input).Repeats deployment
      before.state) : Declared before.state after.state := by
  obtain ⟨inside, body⟩ := outcome_locked ended
  simp only [createConnectorLocked] at body
  split at body
  · obtain ⟨-, -, rfl, -⟩ := body
    exact .refl _
  next mutable =>
  obtain ⟨_, -, body⟩ := outcome_look body
  split at body
  · obtain ⟨-, -, rfl, -⟩ := body
    exact .refl _
  next isOk =>
  obtain ⟨_, -, body⟩ := outcome_look body
  obtain ⟨answer, _, middle, _, transacted, rest⟩ := Prog.outcome_seq body
  have written : Declared before.state middle.state := by
    rcases outcome_update transacted with same | ⟨choice, value, computed, isValid⟩
    · rw [same]
      exact .refl _
    · refine ⟨connectorRows_keeps computed fun unclaimed => ?_, fun _ => isValid⟩
      by_contra present
      exact isNew ⟨mutable, isOk, unclaimed, Option.isSome_iff_ne_none.mpr present⟩
  split at rest
  · obtain ⟨-, -, rfl, -⟩ := rest
    exact written
  · obtain ⟨-, -, rfl, -⟩ := rest
    exact written

end Outcomes

/-! ## Declaring again is free -/

/-- An access in which nothing fails; identifiers are drawn from ordinary characters. -/
structure Favourable (deployment : Deployment) (thread : Nat) (choice : Choice)
    (memory : Memory) : Prop where
  admissible : Admissible deployment thread choice memory
  fault : choice.fault = .none
  identifier : containsAny choice.identifier ['\x00', '\r', '\n'] = false

/-- The setting of a call that meets no failure. -/
def favourable (deployment : Deployment) (thread : Nat) : Monitor.Setting interface Unit where
  admits := Favourable deployment thread
  answers _ _ _ _ := True

namespace Declaration

/-- Declaring the same content again under a new key succeeds, returns the stored row and adds no
row. -/
def Free (deployment : Deployment) (memory : Memory) (declaration : Declaration) : Prop :=
  declaration.Repeats deployment memory.state → ∀ thread,
    match declaration with
    | .environment projectID idempotencyKey input =>
      Alone (favourable deployment thread)
        (createEnvironment deployment projectID idempotencyKey input)
        (fun result after _ => result.2.2 = none ∧
          memory.state.environments.lookup
            (projectID, deployment.environmentRevision projectID input) = some result.1 ∧
          after.state.environments = memory.state.environments) memory ()
    | .connector projectID idempotencyKey input =>
      Alone (favourable deployment thread)
        (createConnector deployment projectID idempotencyKey input)
        (fun result after _ => result.2.2 = none ∧
          memory.state.connectors.lookup
            (projectID, deployment.connectorRevision projectID input) = some result.1 ∧
          after.state.connectors = memory.state.connectors) memory ()

/-- What one call should do: change no declared row, and be free if its content is declared. -/
structure Lawful (deployment : Deployment) (memory : Memory) (declaration : Declaration) :
    Prop where
  keeps : ∀ after, declaration.Step deployment memory after →
    DeclaredKept memory.state after.state
  free : declaration.Free deployment memory

end Declaration

/-- Identifiers that are long enough are new. -/
theorem exists_favourable (deployment : Deployment) (thread : Nat) (memory : Memory)
    (now : Time) : ∃ choice, Favourable deployment thread choice memory ∧ choice.now = now := by
  obtain ⟨bound, isBound⟩ := exists_length_bound
    (memory.state.sandboxes.entries.map (·.1.2) ++ memory.state.workspaces.entries.map (·.1.2) ++
      memory.state.operations.entries.map (·.1.2) ++
      memory.state.operations.entries.map (·.2.resourceID))
  simp only [List.mem_append, List.mem_map] at isBound
  have isNew : ∀ (kind : String) {name : String}, name.length ≤ bound →
      name ≠ kind ++ nameOfLength (bound + 1) := by
    intro kind name isShort isName
    rw [isName, String.length_append, length_nameOfLength] at isShort
    omega
  refine ⟨⟨thread, now, nameOfLength (bound + 1), "", deployment.store, .none, fun _ => true, false,
    none, false⟩, ⟨⟨rfl, rfl, by simp, ?_, ?_, ?_⟩, rfl, ?_⟩, rfl⟩
  · intro pair member
    exact isNew _ (isBound _ (.inl (.inl (.inl ⟨pair, member, rfl⟩))))
  · intro pair member
    exact isNew _ (isBound _ (.inl (.inl (.inr ⟨pair, member, rfl⟩))))
  · intro pair member
    have isShort := isBound _ (.inr ⟨pair, member, rfl⟩)
    exact ⟨isNew _ (isBound _ (.inl (.inr ⟨pair, member, rfl⟩))), isNew _ isShort, isNew _ isShort⟩
  · simp [containsAny, nameOfLength]

section Alone

variable {setting : Monitor.Setting interface Unit} {α β : Type} {memory : Memory} {inside : Bool}
variable {post : β → Bool → Memory → Unit → Prop}
  {body : Choice → State → Except ServiceError (α × State)}

theorem alone_locked {body : Code α} {post : α → Memory → Unit → Prop} :
    Alone setting (locked body) post memory () ↔
      body.ensures setting true (fun value inside after outside =>
        (Prog.unlock (.ret value)).ensures setting inside
          (fun value inside after outside => inside = false ∧ post value after outside) after
          outside) memory () := by
  show (body.bind fun value => Prog.unlock (.ret value)).ensures setting true _ memory () ↔ _
  exact Prog.ensures_bind

theorem ensures_look {body : Choice → Memory → α} {continuation : α → Code β}
    (choosable : ∃ choice, setting.admits choice memory)
    (rest : ∀ choice, setting.admits choice memory →
      (continuation (body choice memory)).ensures setting inside post memory ()) :
    (look body >>= continuation).ensures setting inside post memory () :=
  ⟨choosable, rest⟩

theorem ensures_of_look {body : Choice → Memory → α} {continuation : α → Code β}
    (ensured : (look body >>= continuation).ensures setting inside post memory ()) {choice : Choice}
    (admitted : setting.admits choice memory) :
    (continuation (body choice memory)).ensures setting inside post memory () :=
  ensured.2 choice admitted

theorem ensures_of_update {continuation : Except ServiceError α → Code β}
    (ensured : (update body >>= continuation).ensures setting inside post memory ())
    {choice : Choice} (admitted : setting.admits choice memory) :
    (continuation ((transact choice.fault (body choice) memory.state).1.mapError
      translateStore)).ensures setting inside post
      { memory with state := (transact choice.fault (body choice) memory.state).2 } () :=
  ensured.2 choice admitted

/-- A transaction that nothing prevents. -/
theorem ensures_update {continuation : Except ServiceError α → Code β}
    (choosable : ∃ choice, setting.admits choice memory)
    (rest : ∀ choice, setting.admits choice memory → choice.fault = .none ∧
      ∃ value next, body choice memory.state = .ok (value, next) ∧ next.valid = true ∧
        (continuation (.ok value)).ensures setting inside post { memory with state := next } ()) :
    (update body >>= continuation).ensures setting inside post memory () := by
  refine ⟨choosable, fun choice admitted => ?_⟩
  obtain ⟨faultless, value, next, computed, isValid, later⟩ := rest choice admitted
  have done : transact choice.fault (body choice) memory.state = (.ok value, next) := by
    rw [faultless]
    exact transact_ok computed isValid
  show ((continuation _).ensures setting inside post _ ())
  simp only [done]
  exact later

end Alone

variable {deployment : Deployment} {memory : Memory}

theorem readFails_eq_false {choice : Choice} (faultless : choice.fault = .none) :
    choice.readFails = false := by
  simp [Choice.readFails, faultless]

theorem unclaimed_of_valid (isValid : state.valid = true) {key : IdempotencyKey}
    (unused : state.idempotentOperation key = none) : state.idempotency.lookup key = none := by
  cases claimed : state.idempotency.lookup key with
  | none => rfl
  | some operationID =>
    have entry := ((State.valid_iff state).mp isValid).idempotency claimed
    simp only [State.idempotentOperation, claimed] at unused
    simp [State.validIndexEntry, unused] at entry

theorem recordable_of_favourable {thread : Nat} {choice : Choice}
    {projectID idempotencyKey kind revision : String} {at_ : Time}
    (isFavourable : Favourable deployment thread choice memory)
    (isValid : memory.state.valid = true)
    (mutable : requireMutation projectID idempotencyKey = .ok ())
    (isKind : kind ≠ "" ∧ containsAny kind ['\x00'] = false)
    (unused : memory.state.idempotentOperation (projectID, kind, idempotencyKey) = none)
    (hashed : State.isDigest digest = true) :
    Recordable (succeededOperation ("op" ++ "_" ++ choice.identifier) projectID kind revision
      idempotencyKey at_) digest memory.state where
  project := (requireMutation_ok mutable).1
  key := (requireMutation_ok mutable).2
  kind := isKind
  id := by
    constructor
    · simp [succeededOperation]
    · rw [succeededOperation, containsAny_append, isFavourable.identifier]
      decide
  new := by
    rw [AList.lookup_eq_none, AList.mem_keys, AList.keys, List.mem_keys]
    rintro ⟨row, member⟩
    exact (isFavourable.admissible.fresh.operations _ member).1 rfl
  unclaimed := unclaimed_of_valid isValid unused
  digest := hashed

theorem environmentRows_declared {stored : Environment} (operation : Operation)
    (environment : Environment) (digest : String)
    (unused : state.idempotentOperation
      (operation.projectID, "create_environment", operation.idempotencyKey) = none)
    (present : state.environments.lookup (operation.projectID, operation.resourceID) =
      some stored) :
    environmentRows environment operation digest state =
      .ok ((stored, operation), recordDeclaration operation digest state) := by
  simp [environmentRows, unused, present]

theorem guarding_accepted {α : Type} {store : StoreKind}
    {body : State → Except ServiceError (α × State)} {next : State} {value : α}
    (computed : body state = .ok (value, next)) (accepted : store.accepts state next = true) :
    guarding store body state = .ok (value, next) := by
  simp [guarding, computed, accepted]

theorem environment_free
    (hashed : ∀ input, State.isDigest (deployment.environmentDigest input) = true)
    (isValid : memory.state.valid = true) (projectID idempotencyKey : String)
    (input : CreateEnvironmentInput) :
    (Declaration.environment projectID idempotencyKey input).Free deployment memory := by
  rintro ⟨mutable, isOk, unused, declared⟩ thread
  obtain ⟨stored, present⟩ := Option.isSome_iff_exists.mp declared
  have choosable : ∃ choice, (favourable deployment thread).admits choice memory := by
    obtain ⟨choice, isFavourable, -⟩ := exists_favourable deployment thread memory 0
    exact ⟨choice, isFavourable⟩
  apply alone_locked.mpr
  simp only [createEnvironmentLocked, mutable]
  refine ensures_look choosable fun clock _ => ?_
  have isOk' : validateEnvironment ⟨"", projectID, input.name, deployment.backendName,
    input.template, input.imageDigest, input.policyRevision, clock.now⟩ = .ok () := isOk
  simp only [isOk']
  refine ensures_look choosable fun draw isDraw => ?_
  refine ensures_look choosable fun reading isReading => ?_
  simp only [readFails_eq_false isReading.fault, admitEnvironmentCreate, unused, present]
  refine ensures_update choosable fun writing isWriting => ⟨isWriting.fault, ?_⟩
  have recordable : Recordable (succeededOperation ("op" ++ "_" ++ draw.identifier) projectID
      "create_environment" (deployment.environmentRevision projectID input)
        idempotencyKey clock.now)
      (deployment.environmentDigest input) memory.state :=
    recordable_of_favourable isDraw isValid mutable (by decide) unused (hashed input)
  have computed := environmentRows_declared
    (succeededOperation ("op" ++ "_" ++ draw.identifier) projectID "create_environment"
      (deployment.environmentRevision projectID input) idempotencyKey clock.now)
    stored (deployment.environmentDigest input) unused present
  exact ⟨_, _, guarding_accepted computed (recordable.accepted writing.store),
    recordable.valid isValid, ⟨rfl, rfl, rfl, rfl⟩⟩

theorem computed_of_reported {α : Type} {fault : Fault}
    {body : State → Except ServiceError (α × State)} {value : α}
    (reported : (transact fault body state).1.mapError translateStore = .ok value) :
    ∃ next, body state = .ok (value, next) := by
  generalize done : transact fault body state = ended at reported
  rcases transact_cases done with ⟨⟨error, isError⟩, -⟩ | ⟨result, computed, -, isOk | isFailed⟩
  · rw [isError] at reported
    cases reported
  · rw [isOk] at reported
    cases reported
    exact ⟨_, computed⟩
  · rw [isFailed] at reported
    cases reported

/-- Under a new key, `CreateConnector` returns what it was about to write. -/
theorem connectorRows_unused {limits : Limits} {connector : Connector}
    {written : Connector × Operation} {next : State}
    (computed : connectorRows limits connector operation digest state = .ok (written, next))
    (unused : state.idempotentOperation
      (operation.projectID, "create_connector", operation.idempotencyKey) = none) :
    written.1 = connector := by
  simp only [connectorRows, unused] at computed
  split at computed
  · cases computed
  · cases computed
    rfl

/-- Declaring a connector again is refused, or returns another row. -/
theorem connector_not_free {projectID idempotencyKey : String} {input : CreateConnectorInput}
    (repeats : (Declaration.connector projectID idempotencyKey input).Repeats deployment
      memory.state) :
    ¬ (Declaration.connector projectID idempotencyKey input).Free deployment memory := by
  intro isFree
  have free := isFree repeats 0
  obtain ⟨mutable, isOk, unused, declared⟩ := repeats
  obtain ⟨stored, present⟩ := Option.isSome_iff_exists.mp declared
  -- The clock has moved since the row was written.
  obtain ⟨choice, isFavourable, isLater⟩ :=
    exists_favourable deployment 0 memory (stored.createdAt + 1)
  have isOk' : validateConnector deployment.isOrigin ⟨"", projectID, input.name,
    input.destination, input.allowedMethods, input.allowedPaths, input.credentialRef,
    input.allowPrivateNetwork, if deployment.gateway.isSome then "broker_configured_unqualified"
      else "registered_unenforced", choice.now⟩ = .ok () := isOk
  have body := alone_locked.mp free
  simp only [createConnectorLocked, mutable] at body
  have afterClock := ensures_of_look body isFavourable
  simp only [isOk'] at afterClock
  have afterUpdate := ensures_of_update (ensures_of_look afterClock isFavourable) isFavourable
  split at afterUpdate
  · exact absurd afterUpdate.2.1 (by simp)
  next written recorded isWritten =>
  obtain ⟨next, computed⟩ := computed_of_reported isWritten
  have isRevised := connectorRows_unused computed unused
  have isStored := present.symm.trans afterUpdate.2.2.1
  have sameTime : stored.createdAt = choice.now := by
    rw [Option.some.inj isStored, isRevised]
  exact absurd (sameTime.trans isLater) (Int.ne_of_lt (Int.lt_succ _))

/-! ## Sequences of declarations -/

namespace Declaration

/-- The call declares a connector whose content is declared already. -/
def RepeatsConnector (deployment : Deployment) (state : State) (declaration : Declaration) :
    Prop :=
  declaration.isConnector = true ∧ declaration.Repeats deployment state

theorem Step.declared {before after : Memory} {declaration : Declaration}
    (step : declaration.Step deployment before after)
    (isNew : ¬ declaration.RepeatsConnector deployment before.state) :
    Declared before.state after.state := by
  obtain ⟨thread, ended⟩ := step
  cases declaration with
  | environment projectID idempotencyKey input =>
    obtain ⟨result, call⟩ := outcome_run ended
    exact createEnvironment_outcome call
  | connector projectID idempotencyKey input =>
    obtain ⟨result, call⟩ := outcome_run ended
    exact createConnector_outcome call fun repeats => isNew ⟨rfl, repeats⟩

/-- Exactly the calls that declare a connector again break the law. -/
theorem lawful_iff (hashed : ∀ input, State.isDigest (deployment.environmentDigest input) = true)
    (isValid : memory.state.valid = true) (declaration : Declaration) :
    declaration.Lawful deployment memory ↔
      ¬ declaration.RepeatsConnector deployment memory.state := by
  constructor
  · rintro lawful ⟨isConnector_, repeats⟩
    cases declaration with
    | environment projectID idempotencyKey input => cases isConnector_
    | connector projectID idempotencyKey input => exact connector_not_free repeats lawful.free
  · intro isNew
    refine ⟨fun after step => (step.declared isNew).1, ?_⟩
    cases declaration with
    | environment projectID idempotencyKey input =>
      exact environment_free hashed isValid projectID idempotencyKey input
    | connector projectID idempotencyKey input =>
      intro repeats
      exact absurd ⟨rfl, repeats⟩ isNew

end Declaration

/-- **Declarations are immutable and free to repeat, except for repeated connectors.**  A sequence
of declarations without a repeated connector keeps every declared row; and wherever it leads, the
next call is lawful exactly if it does not declare a connector again. -/
theorem declarations_lawful_iff (deployment : Deployment)
    (hashed : ∀ input, State.isDigest (deployment.environmentDigest input) = true)
    (start finish : Memory) (isValid : start.state.valid = true)
    (run : Transition.Run (fun before declaration after =>
        Declaration.Step deployment before declaration after)
      (fun before declaration => ¬ declaration.RepeatsConnector deployment before.state) start
      finish) :
    DeclaredKept start.state finish.state ∧
      ∀ declaration : Declaration, declaration.Lawful deployment finish ↔
        ¬ declaration.RepeatsConnector deployment finish.state := by
  have kept : Declared start.state finish.state := by
    induction run with
    | start => exact .refl _
    | next _ permitted taken ih =>
      have later := Declaration.Step.declared taken permitted
      exact ⟨ih.1.trans later.1, fun isValid =>
        later.2 (ih.2 isValid)⟩
  exact ⟨kept.1, fun declaration => Declaration.lawful_iff hashed (kept.2 isValid) declaration⟩

/-! ### Played calls -/

instance (deployment : Deployment) (thread : Nat) (choice : Choice) (memory : Memory) :
    Decidable (((system deployment anything).setting thread).admits choice memory) :=
  inferInstanceAs (Decidable (Admissible deployment thread choice memory))

/-- Play a call whose accesses all see the same. -/
def Declaration.play (deployment : Deployment) (choice : Choice) (declaration : Declaration)
    (memory : Memory) : Option Memory :=
  match (declaration.program deployment).exec
      ((system deployment anything).setting choice.thread) (fun _ => choice) (fun _ _ => none)
      false memory () with
  | some (_, false, after, _) => some after
  | _ => none

theorem Declaration.Step.of_play {choice : Choice} {declaration : Declaration} {after : Memory}
    (played : declaration.play deployment choice memory = some after) :
    declaration.Step deployment memory after := by
  unfold Declaration.play at played
  split at played
  · next executed =>
    cases played
    exact ⟨choice.thread, Prog.outcome_of_exec (fun _ _ _ _ answered => by cases answered) executed⟩
  · cases played

/-- Two calls, one after the other, that lead where they should. -/
theorem Declaration.exists_steps (deployment : Deployment) (start : Memory)
    (first second : Declaration) (wanted : Memory → Memory → Bool)
    (evaluated : (first.play deployment (calm 0 "0" 1) start).any (fun middle =>
      (second.play deployment (calm 0 "1" 2) middle).any (wanted middle)) = true) :
    ∃ middle finish, first.Step deployment start middle ∧ second.Step deployment middle finish ∧
      wanted middle finish = true := by
  obtain ⟨middle, isMiddle, continues⟩ := (Option.any_eq_true _ _).mp evaluated
  obtain ⟨finish, isFinish, isWanted⟩ := (Option.any_eq_true _ _).mp continues
  exact ⟨middle, finish, .of_play isMiddle, .of_play isFinish, isWanted⟩

/-- A connector for the samples. -/
def sampleConnector : CreateConnectorInput :=
  ⟨"api", "https://api.example", ["GET"], ["/v1/*"], "secret://api", false⟩

/-- The sample environment is declared twice, under different keys, and keeps its first row. -/
theorem declarations_lawful_sample : ∃ finish : Memory,
    (finish.state.environments.lookup ("project", "env1")).map (·.createdAt) = some 1 ∧
    finish.state.idempotency.keys.length = 2 ∧
    DeclaredKept State.empty finish.state ∧
      ∀ declaration : Declaration, declaration.Lawful (sampleDeployment false) finish ↔
        ¬ declaration.RepeatsConnector (sampleDeployment false) finish.state := by
  obtain ⟨middle, finish, first, second, isWanted⟩ :=
    Declaration.exists_steps (sampleDeployment false) (Memory.boot State.empty)
      (.environment "project" "declaration" sampleEnvironment)
      (.environment "project" "redeclaration" sampleEnvironment)
      (fun _ finish => decide ((finish.state.environments.lookup ("project", "env1")).map
        (·.createdAt) = some 1 ∧ finish.state.idempotency.keys.length = 2))
      (by decide +kernel)
  have wanted := of_decide_eq_true isWanted
  have lawful := declarations_lawful_iff (sampleDeployment false)
    (fun _ => show State.isDigest sampleDigest = true by decide) (Memory.boot State.empty) finish
    (by decide)
    (.next (.next .start (fun repeats => by cases repeats.1) first)
      (fun repeats => by cases repeats.1) second)
  exact ⟨finish, wanted.1, wanted.2, lawful⟩

/-- The sample deployment, with room for one connector in a project. -/
def crowdedDeployment : Deployment :=
  { sampleDeployment false with limits := ⟨4, 4, 4, 4, 4, 1⟩ }

/-- **A connector that is declared again is overwritten or refused.**  The second declaration of
the sample connector changes the time of the stored row; in a crowded deployment it is refused for
want of quota. -/
theorem connector_overwritten :
    (∃ first second : Memory,
      (Declaration.connector "project" "declaration" sampleConnector).Step (sampleDeployment false)
        (Memory.boot State.empty) first ∧
      (Declaration.connector "project" "redeclaration" sampleConnector).Step
        (sampleDeployment false) first second ∧
      (first.state.connectors.lookup ("project", "con1")).map (·.createdAt) = some 1 ∧
      (second.state.connectors.lookup ("project", "con1")).map (·.createdAt) = some 2) ∧
    ∃ (first second : Memory) (result : Connector × Operation × Option ServiceError),
      (Declaration.connector "project" "declaration" sampleConnector).Step crowdedDeployment
        (Memory.boot State.empty) first ∧
      (first.state.connectors.lookup ("project", "con1")).isSome = true ∧
      (createConnector crowdedDeployment "project" "redeclaration" sampleConnector).outcome
        ((system crowdedDeployment anything).setting 0) false first () result false second () ∧
      result.2.2 = some .quota := by
  constructor
  · obtain ⟨first, second, declared, redeclared, isWanted⟩ :=
      Declaration.exists_steps (sampleDeployment false) (Memory.boot State.empty)
        (.connector "project" "declaration" sampleConnector)
        (.connector "project" "redeclaration" sampleConnector)
        (fun first second => decide
          ((first.state.connectors.lookup ("project", "con1")).map (·.createdAt) = some 1 ∧
            (second.state.connectors.lookup ("project", "con1")).map (·.createdAt) = some 2))
        (by decide +kernel)
    have wanted := of_decide_eq_true isWanted
    exact ⟨first, second, declared, redeclared, wanted.1, wanted.2⟩
  · have evaluated : ((Declaration.connector "project" "declaration" sampleConnector).play
        crowdedDeployment (calm 0 "0" 1) (Memory.boot State.empty)).any (fun first =>
          (first.state.connectors.lookup ("project", "con1")).isSome &&
          ((createConnector crowdedDeployment "project" "redeclaration" sampleConnector).exec
            ((system crowdedDeployment anything).setting 0) (fun _ => calm 0 "1" 2)
            (fun _ _ => none) false first ()).any fun ended =>
              !ended.2.1 && decide (ended.1.2.2 = some .quota)) = true := by
      decide +kernel
    obtain ⟨first, isFirst, continues⟩ := (Option.any_eq_true _ _).mp evaluated
    rw [Bool.and_eq_true] at continues
    obtain ⟨⟨result, inside, second, _⟩, isEnd, isWanted⟩ :=
      (Option.any_eq_true _ _).mp continues.2
    simp only [Bool.and_eq_true, Bool.not_eq_true', decide_eq_true_eq] at isWanted
    obtain ⟨rfl, refused⟩ := isWanted
    exact ⟨first, second, result, .of_play isFirst, continues.1,
      Prog.outcome_of_exec (fun _ _ _ _ answered => by cases answered) isEnd, refused⟩

end Brezel.Service
