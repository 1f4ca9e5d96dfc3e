import Brezel.Library.Transition
import Brezel.Store.Admission

/-!
# Lifecycle heads

The head of an owner and a family is the attempt that reconciliation works on.  Mutations keep the
heads in step with the rows: an operation that joins a family becomes its head, a family that lost
its head is selected again, and an owner that leaves the reconciliation set loses all of its heads.

Inside one mutation the newest of several attempts counts, by its times and its identifier
(`lookup_newestOf`).  Between mutations the order of the commits counts and no clock does.  A
`History` records what each commit inserted.  Along every history of scoped mutations that keep
the resource of each lifecycle operation, a head is the last operation inserted into its family
(`History.Headed`), and it is there as long as its owner stays eligible.
-/

namespace Brezel.Store

open Domain Table

variable {first operation second : Operation} {after before rows : Rows} {order : Iteration}
variable {attempts : List (Operation × LifecycleHeadKey)} {key other : LifecycleHeadKey}
variable {candidates : AList fun _ : LifecycleHeadKey => Operation}

/-! ## The newest of a family -/

/-- What attempts are ordered by. -/
def rank (operation : Operation) : Time ×ₗ Time ×ₗ String :=
  toLex (operation.updatedAt, toLex (operation.createdAt, operation.id))

/-- The order of attempts is the order of their times, then of their identifiers. -/
theorem lifecycleOperationIsNewer_iff :
    lifecycleOperationIsNewer first second = true ↔ rank second < rank first := by
  simp only [rank, Prod.Lex.toLex_lt_toLex]
  unfold lifecycleOperationIsNewer
  rcases lt_trichotomy second.updatedAt first.updatedAt with less | same | more
  · simp [less]
  · rcases lt_trichotomy second.createdAt first.createdAt with less' | same' | more'
    · simp [same, less']
    · simp [same, same']
    · simp [same, more', not_lt_of_gt more', ne_of_gt more']
  · simp [more, not_lt_of_gt more, ne_of_gt more]

/-- The operation is the newest of a family among some attempts. -/
structure Newest (attempts : List (Operation × LifecycleHeadKey)) (key : LifecycleHeadKey)
    (operation : Operation) : Prop where
  member : (operation, key) ∈ attempts
  newer : ∀ other, (other, key) ∈ attempts →
    other = operation ∨ lifecycleOperationIsNewer operation other = true

/-- Attempts of one family differ in their identifiers. -/
def Identified (attempts : List (Operation × LifecycleHeadKey)) : Prop :=
  ∀ ⦃first second : Operation⦄ ⦃key : LifecycleHeadKey⦄, (first, key) ∈ attempts →
    (second, key) ∈ attempts → first.id = second.id → first = second

theorem Newest.unique (isFirst : Newest attempts key first)
    (isSecond : Newest attempts key second) : first = second := by
  rcases isFirst.newer second isSecond.member with same | newer
  · exact same.symm
  rcases isSecond.newer first isFirst.member with same | newer'
  · exact same
  · rw [lifecycleOperationIsNewer_iff] at newer newer'
    exact absurd newer (lt_asymm newer')

/-- The newest attempt of every family. -/
def newestOf (attempts : List (Operation × LifecycleHeadKey)) :
    AList fun _ : LifecycleHeadKey => Operation :=
  attempts.foldl (fun candidates attempt => keepNewer candidates attempt.2 attempt.1) ∅

theorem lookup_keepNewer (candidates : AList fun _ : LifecycleHeadKey => Operation)
    (key other : LifecycleHeadKey) (operation : Operation) :
    (keepNewer candidates key operation).lookup other =
      if other = key then
        some (match candidates.lookup key with
          | none => operation
          | some current =>
            if lifecycleOperationIsNewer operation current then operation else current)
      else candidates.lookup other := by
  unfold keepNewer
  by_cases same : other = key
  · subst same
    cases current : candidates.lookup other with
    | none => simp
    | some current' =>
      simp only
      split <;> simp [current]
  · cases candidates.lookup key with
    | none => simp [same]
    | some current =>
      simp only
      split <;> simp [same]

/-- The attempts of one family. -/
def attemptsIn (attempts : List (Operation × LifecycleHeadKey)) (key : LifecycleHeadKey) :
    List Operation :=
  (attempts.filter (·.2 = key)).map (·.1)

theorem mem_attemptsIn : operation ∈ attemptsIn attempts key ↔ (operation, key) ∈ attempts := by
  simp [attemptsIn]

/-- The fold keeps the attempt with the greatest rank. -/
theorem lookup_newestOf_eq (attempts : List (Operation × LifecycleHeadKey))
    (key : LifecycleHeadKey) :
    (newestOf attempts).lookup key = (attemptsIn attempts key).argmax rank := by
  induction attempts using List.reverseRecOn with
  | nil => rfl
  | append_singleton attempts attempt ih =>
    have concat : newestOf (attempts ++ [attempt]) =
        keepNewer (newestOf attempts) attempt.2 attempt.1 := List.foldl_concat ..
    rw [concat, lookup_keepNewer]
    split
    · next same =>
      have isLast : attemptsIn (attempts ++ [attempt]) key =
          attemptsIn attempts key ++ [attempt.1] := by
        simp [attemptsIn, same]
      rw [isLast, List.argmax_concat, ← ih, same]
      cases (newestOf attempts).lookup attempt.2 with
      | none => rfl
      | some current =>
        simp only [lifecycleOperationIsNewer_iff]
        split <;> rfl
    · next different =>
      rw [ih]
      simp [attemptsIn, Ne.symm different]

theorem isSome_lookup_newestOf (member : (operation, key) ∈ attempts) :
    ((newestOf attempts).lookup key).isSome = true := by
  rw [lookup_newestOf_eq, Option.isSome_iff_ne_none, ne_eq, List.argmax_eq_none]
  exact List.ne_nil_of_mem (mem_attemptsIn.mpr member)

theorem newest_of_lookup (identified : Identified attempts)
    (found : (newestOf attempts).lookup key = some operation) :
    Newest attempts key operation := by
  rw [lookup_newestOf_eq] at found
  obtain ⟨member, largest, -⟩ := List.mem_argmax_iff.mp found
  refine ⟨mem_attemptsIn.mp member, fun other isOther => ?_⟩
  rcases (largest other (mem_attemptsIn.mpr isOther)).eq_or_lt with same | less
  · have sameID : other.id = operation.id :=
      congrArg (fun place => (ofLex (ofLex place).2).2) same
    exact .inl (identified isOther (mem_attemptsIn.mp member) sameID)
  · exact .inr (lifecycleOperationIsNewer_iff.mpr less)

/-- **The newest attempt of a family is found, whatever the order of the attempts.** -/
theorem lookup_newestOf (identified : Identified attempts) :
    (newestOf attempts).lookup key = some operation ↔ Newest attempts key operation := by
  constructor
  · exact newest_of_lookup identified
  · intro newest
    obtain ⟨found, isFound⟩ := Option.isSome_iff_exists.mp (isSome_lookup_newestOf newest.member)
    rw [isFound, (newest_of_lookup identified isFound).unique newest]

theorem exists_newest (identified : Identified attempts) (member : (operation, key) ∈ attempts) :
    ∃ newest, Newest attempts key newest := by
  obtain ⟨newest, found⟩ := Option.isSome_iff_exists.mp (isSome_lookup_newestOf member)
  exact ⟨newest, newest_of_lookup identified found⟩

/-- The families of the attempts of a table. -/
def attemptsOf (rows : Rows) (only : Option LifecycleHeadKey) :
    List (Operation × LifecycleHeadKey) :=
  rows.operations.entries.filterMap fun entry =>
    ((lifecycleHeadForOperation entry.2).filter fun key => only.all (· = key)).map
      fun key => (entry.2, key)

theorem selectLifecycleOperationHeads_eq (rows : Rows) (only : Option LifecycleHeadKey) :
    selectLifecycleOperationHeads rows only = newestOf (attemptsOf rows only) := by
  rw [selectLifecycleOperationHeads, newestOf, attemptsOf, List.foldl_filterMap]
  congr 1
  funext candidates entry
  cases family : lifecycleHeadForOperation entry.2 with
  | none => rfl
  | some key => cases chosen : only.all (· = key) <;> simp [Option.filter, chosen]

theorem insertedOperations_eq (changes : List (Change Key Operation)) :
    insertedOperations changes = newestOf (changes.filterMap joinsFamily) := by
  rw [insertedOperations, newestOf, List.foldl_filterMap]
  congr 1
  funext inserted change
  cases joinsFamily change with
  | none => rfl
  | some joined => rfl

/-! ## Replacing heads -/

/-- Put the candidate of a family at its head. -/
def replaceHead (rows : Rows) (candidates : AList fun _ : LifecycleHeadKey => Operation)
    (heads : Heads) (key : LifecycleHeadKey) : Heads :=
  match candidates.lookup key with
  | none => heads
  | some operation => replaceLifecycleOperationHead rows heads operation

/-- Every candidate is of the family it stands for. -/
def OfFamily (candidates : AList fun _ : LifecycleHeadKey => Operation) : Prop :=
  ∀ {key operation}, candidates.lookup key = some operation →
    lifecycleHeadForOperation operation = some key

/-- The owner of the family is eligible. -/
def LifecycleHeadKey.eligible (rows : Rows) (key : LifecycleHeadKey) : Bool :=
  ownerEligible rows key.owner.1 key.owner.2

theorem lookup_deleteOwnerHeads (heads : Heads) (owner : OwnerKind × Key)
    (key : LifecycleHeadKey) :
    (deleteOwnerHeads heads owner).lookup key =
      if key.owner = owner then none else heads.lookup key := by
  rw [deleteOwnerHeads, lookup_filter]
  cases heads.lookup key with
  | none => simp
  | some id => by_cases same : key.owner = owner <;> simp [Option.filter, same]

section Replacing

variable {rows : Rows} {candidates : AList fun _ : LifecycleHeadKey => Operation}
variable (ofFamily : OfFamily candidates)
include ofFamily

theorem lookup_replaceHead_of_eligible (heads : Heads) (key : LifecycleHeadKey)
    (eligible : other.eligible rows = true) :
    (replaceHead rows candidates heads key).lookup other =
      if other = key then ((candidates.lookup key).map (·.id)).or (heads.lookup other)
      else heads.lookup other := by
  unfold replaceHead
  cases candidate : candidates.lookup key with
  | none => simp
  | some operation =>
    simp only [replaceLifecycleOperationHead, ofFamily candidate]
    split
    · next ineligible =>
      have isIneligible : key.eligible rows = false := by
        simpa [LifecycleHeadKey.eligible] using ineligible
      have different : other.owner ≠ key.owner := by
        intro same
        rw [LifecycleHeadKey.eligible, same] at eligible
        rw [LifecycleHeadKey.eligible, eligible] at isIneligible
        cases isIneligible
      have differentKey : other ≠ key := fun same => different (same ▸ rfl)
      rw [lookup_deleteOwnerHeads, if_neg different, if_neg differentKey]
    · by_cases same : other = key
      · subst same
        simp
      · simp [same]

theorem lookup_replaceHead_of_ineligible (heads : Heads) (key : LifecycleHeadKey)
    (ineligible : other.eligible rows = false) (absent : heads.lookup other = none) :
    (replaceHead rows candidates heads key).lookup other = none := by
  unfold replaceHead
  cases candidate : candidates.lookup key with
  | none => exact absent
  | some operation =>
    simp only [replaceLifecycleOperationHead, ofFamily candidate]
    split
    · rw [lookup_deleteOwnerHeads, absent, ite_self]
    · next eligible =>
      have different : other ≠ key := by
        rintro rfl
        simp only [Bool.not_eq_true', Bool.not_eq_false] at eligible
        rw [LifecycleHeadKey.eligible, eligible] at ineligible
        cases ineligible
      rw [AList.lookup_insert_ne different, absent]

theorem lookup_replaceHeads_of_eligible (keys : List LifecycleHeadKey) (heads : Heads)
    (eligible : other.eligible rows = true) :
    (keys.foldl (replaceHead rows candidates) heads).lookup other =
      if other ∈ keys then ((candidates.lookup other).map (·.id)).or (heads.lookup other)
      else heads.lookup other := by
  induction keys generalizing heads with
  | nil => rfl
  | cons key rest ih =>
    rw [List.foldl_cons, ih,
      lookup_replaceHead_of_eligible ofFamily heads key eligible]
    by_cases same : other = key
    · subst same
      by_cases later : other ∈ rest
      · cases candidates.lookup other <;> simp [later]
      · simp [later]
    · simp [same]

theorem lookup_replaceHeads_of_ineligible (keys : List LifecycleHeadKey) (heads : Heads)
    (ineligible : other.eligible rows = false) (absent : heads.lookup other = none) :
    (keys.foldl (replaceHead rows candidates) heads).lookup other = none := by
  induction keys generalizing heads with
  | nil => exact absent
  | cons key rest ih =>
    exact ih _
      (lookup_replaceHead_of_ineligible ofFamily heads key ineligible absent)

end Replacing

theorem lookup_replaceAll
    (ofFamily : OfFamily candidates) (heads : Heads) (eligible : key.eligible rows = true) :
    ((sortedLifecycleHeadKeys candidates.keys).foldl (replaceHead rows candidates) heads).lookup
        key = ((candidates.lookup key).map (·.id)).or (heads.lookup key) := by
  have listed : key ∈ sortedLifecycleHeadKeys candidates.keys ↔
      (candidates.lookup key).isSome = true := by
    rw [AList.lookup_isSome]
    exact (List.mergeSort_perm candidates.keys _).mem_iff
  rw [lookup_replaceHeads_of_eligible ofFamily _ _ eligible]
  split
  · rfl
  · next unlisted =>
    rw [listed, Bool.not_eq_true, Option.isSome_eq_false_iff, Option.isNone_iff_eq_none]
      at unlisted
    rw [unlisted]
    rfl

theorem upsert_of_absent {heads : Heads} {candidate : Operation}
    (family : lifecycleHeadForOperation candidate = some key) (absent : heads.lookup key = none) :
    upsertLifecycleOperationHead rows heads candidate =
      replaceLifecycleOperationHead rows heads candidate := by
  have missing : headOperation rows heads key = none := by rw [headOperation, absent]; rfl
  simp only [upsertLifecycleOperationHead, replaceLifecycleOperationHead, family, missing]

theorem lookup_replaceHead_of_ne
    (ofFamily : OfFamily candidates) {heads : Heads} (different : other ≠ key)
    (absent : heads.lookup other = none) :
    (replaceHead rows candidates heads key).lookup other = none := by
  cases eligible : other.eligible rows with
  | true =>
    rw [lookup_replaceHead_of_eligible ofFamily heads key eligible, if_neg different, absent]
  | false => exact lookup_replaceHead_of_ineligible ofFamily heads key eligible absent

theorem foldl_upsert_eq
    (ofFamily : OfFamily candidates) {keys : List LifecycleHeadKey} (distinct : keys.Nodup)
    {heads : Heads} (absent : ∀ key ∈ keys, heads.lookup key = none) :
    keys.foldl (fun heads key =>
      match candidates.lookup key with
      | none => heads
      | some operation => upsertLifecycleOperationHead rows heads operation) heads =
      keys.foldl (replaceHead rows candidates) heads := by
  induction keys generalizing heads with
  | nil => rfl
  | cons key rest ih =>
    obtain ⟨notLater, distinctRest⟩ := List.nodup_cons.mp distinct
    have first : (match candidates.lookup key with
        | none => heads
        | some operation => upsertLifecycleOperationHead rows heads operation) =
        replaceHead rows candidates heads key := by
      unfold replaceHead
      cases candidate : candidates.lookup key with
      | none => rfl
      | some operation =>
        exact upsert_of_absent (ofFamily candidate) (absent key (List.mem_cons_self ..))
    rw [List.foldl_cons, List.foldl_cons, first]
    refine ih distinctRest fun other later => ?_
    exact lookup_replaceHead_of_ne ofFamily (fun same => notLater (same ▸ later))
      (absent other (List.mem_cons_of_mem _ later))

/-! ## Forgetting owners -/

/-- The change takes an owner out of the reconciliation set. -/
structure OwnerChange.Forgets (change : OwnerChange) (owner : OwnerKind × Key) : Prop where
  was : change.beforeOwner = some owner
  named : owner.2.1 ≠ ""
  left : change.eligibleOwner ≠ some owner

theorem lookup_forgetOwner (heads : Heads) (change : OwnerChange) (key : LifecycleHeadKey) :
    (change.Forgets key.owner → (forgetOwner heads change).lookup key = none) ∧
      (¬change.Forgets key.owner → (forgetOwner heads change).lookup key = heads.lookup key) := by
  unfold forgetOwner
  cases was : change.beforeOwner with
  | none =>
    refine ⟨fun forgets => ?_, fun _ => rfl⟩
    rw [forgets.was] at was
    cases was
  | some owner =>
    simp only
    split
    · next stays =>
      refine ⟨fun forgets => ?_, fun _ => rfl⟩
      obtain rfl : owner = key.owner := Option.some.inj (was.symm.trans forgets.was)
      rcases stays with unnamed | eligible
      · exact absurd unnamed forgets.named
      · exact absurd eligible forgets.left
    · next leaves =>
      rw [lookup_deleteOwnerHeads]
      refine ⟨fun forgets => ?_, fun kept => ?_⟩
      · rw [if_pos (Option.some.inj (forgets.was.symm.trans was))]
      · rw [if_neg]
        rintro rfl
        exact kept ⟨was, fun unnamed => leaves (.inl unnamed),
          fun eligible => leaves (.inr eligible)⟩

theorem lookup_forgetOwners (changes : List OwnerChange) (heads : Heads)
    (key : LifecycleHeadKey) :
    ((∃ change ∈ changes, change.Forgets key.owner) →
        (changes.foldl forgetOwner heads).lookup key = none) ∧
      ((∀ change ∈ changes, ¬change.Forgets key.owner) →
        (changes.foldl forgetOwner heads).lookup key = heads.lookup key) := by
  induction changes generalizing heads with
  | nil => exact ⟨fun ⟨_, member, _⟩ => absurd member List.not_mem_nil, fun _ => rfl⟩
  | cons change rest ih =>
    obtain ⟨forgotten, kept⟩ := lookup_forgetOwner heads change key
    obtain ⟨laterForgotten, laterKept⟩ := ih (forgetOwner heads change)
    refine ⟨?_, fun none => ?_⟩
    · rintro ⟨other, member, forgets⟩
      by_cases later : ∃ change ∈ rest, change.Forgets key.owner
      · exact laterForgotten later
      · have untouched : ∀ change ∈ rest, ¬change.Forgets key.owner :=
          fun change isLater isForgotten => later ⟨change, isLater, isForgotten⟩
        rw [List.foldl_cons, laterKept untouched]
        rcases List.mem_cons.mp member with rfl | isLater
        · exact forgotten forgets
        · exact absurd forgets (untouched other isLater)
    · rw [List.foldl_cons, laterKept fun change isLater => none change
        (List.mem_cons_of_mem _ isLater), kept (none change (List.mem_cons_self ..))]

/-! ## One mutation -/

/-- The owner changes of a mutation say who is eligible afterwards. -/
def Settled (rows : Rows) (changes : List OwnerChange) : Prop :=
  ∀ change ∈ changes, ∀ owner, change.beforeOwner = some owner →
    (change.eligibleOwner = some owner ↔ ownerEligible rows owner.1 owner.2 = true)

/-- **The heads after a mutation that takes no operation out of its family.**  An eligible family
has the newest operation that joined it, or its old head; an ineligible one has none. -/
theorem lookup_syncLifecycleOperationHeads {heads : Heads}
    {operationChanges : List (Change Key Operation)} {ownerChanges : List OwnerChange}
    (stays : ∀ change ∈ operationChanges, leavesFamily change = none)
    (ofFamily : OfFamily (insertedOperations operationChanges))
    (settled : Settled rows ownerChanges)
    (left : ∀ key, (heads.lookup key).isSome = true → key.eligible rows = false →
      key.projectID ≠ "" ∧ ∃ change ∈ ownerChanges, change.beforeOwner = some key.owner)
    (key : LifecycleHeadKey) :
    (syncLifecycleOperationHeads rows heads operationChanges ownerChanges).lookup key =
      if key.eligible rows then
        (((insertedOperations operationChanges).lookup key).map (·.id)).or (heads.lookup key)
      else none := by
  have clean : dirtyFamilies heads operationChanges = [] := by
    rw [dirtyFamilies, List.filterMap_eq_nil_iff.mpr]
    · rfl
    · intro change member
      rw [stays change member]
      rfl
  have sorted : sortedLifecycleHeadKeys [] = [] := by simp [sortedLifecycleHeadKeys]
  simp only [syncLifecycleOperationHeads, clean, sorted, List.foldl_nil]
  change (ownerChanges.foldl forgetOwner ((sortedLifecycleHeadKeys
    (insertedOperations operationChanges).keys).foldl
      (replaceHead rows (insertedOperations operationChanges)) heads)).lookup key = _
  obtain ⟨forgotten, kept⟩ := lookup_forgetOwners ownerChanges ((sortedLifecycleHeadKeys
    (insertedOperations operationChanges).keys).foldl
      (replaceHead rows (insertedOperations operationChanges)) heads) key
  cases eligible : key.eligible rows with
  | true =>
    rw [kept, lookup_replaceAll ofFamily heads eligible, if_pos rfl]
    intro change member forgets
    exact forgets.left ((settled change member key.owner forgets.was).mpr eligible)
  | false =>
    rw [if_neg (by simp)]
    cases old : heads.lookup key with
    | none =>
      by_cases forgets : ∃ change ∈ ownerChanges, change.Forgets key.owner
      · exact forgotten forgets
      · rw [kept fun change member isForgotten => forgets ⟨change, member, isForgotten⟩]
        exact lookup_replaceHeads_of_ineligible ofFamily _ heads eligible old
    | some id =>
      obtain ⟨named, change, member, was⟩ := left key (by rw [old]; rfl) eligible
      refine forgotten ⟨change, member, was, named, fun stays => ?_⟩
      have isEligible := (settled change member key.owner was).mp stays
      rw [LifecycleHeadKey.eligible, isEligible] at eligible
      cases eligible

/-- The attempts that a commit inserted, with their families. -/
def insertedAttempts (before after : Rows) : List (Operation × LifecycleHeadKey) :=
  after.operations.entries.filterMap fun entry =>
    if (before.operations.lookup entry.1).isNone then
      (lifecycleHeadForOperation entry.2).map fun key => (entry.2, key)
    else none

theorem mem_insertedAttempts :
    (operation, key) ∈ insertedAttempts before after ↔
      lifecycleHeadForOperation operation = some key ∧
        ∃ row, before.operations.lookup row = none ∧
          after.operations.lookup row = some operation := by
  rw [insertedAttempts, List.mem_filterMap]
  constructor
  · rintro ⟨⟨row, present⟩, member, chosen⟩
    split at chosen
    · next absent =>
      obtain ⟨family, isFamily, same⟩ := Option.map_eq_some_iff.mp chosen
      cases same
      exact ⟨isFamily, row, Option.isNone_iff_eq_none.mp absent, mem_entries_iff.mp member⟩
    · cases chosen
  · rintro ⟨isFamily, row, absent, present⟩
    refine ⟨⟨row, operation⟩, mem_entries_iff.mpr present, ?_⟩
    simp [absent, isFamily]

/-- Lifecycle operations keep their resources. -/
def KeepsResources (before after : Rows) : Prop :=
  ∀ ⦃key current next⦄, before.operations.lookup key = some current →
    after.operations.lookup key = some next →
    (lifecycleHeadForOperation current).isSome = true ∨
      (lifecycleHeadForOperation next).isSome = true →
    next.resourceID = current.resourceID

/-- An operation that keeps its identity, and its resource if it is of a family, keeps its
family. -/
theorem family_kept {current next : Operation} (same : sameIdentity current next = true)
    (keeps : (lifecycleHeadForOperation current).isSome = true ∨
      (lifecycleHeadForOperation next).isSome = true → next.resourceID = current.resourceID) :
    next.id = current.id ∧ lifecycleHeadForOperation next = lifecycleHeadForOperation current := by
  simp only [sameIdentity, Bool.and_eq_true, decide_eq_true_eq] at same
  obtain ⟨⟨⟨⟨sameProject, sameID⟩, sameKind⟩, _⟩, _⟩ := same
  refine ⟨sameID.symm, ?_⟩
  by_cases lifecycle : (lifecycleHeadForOperation current).isSome = true ∨
      (lifecycleHeadForOperation next).isSome = true
  · simp only [lifecycleHeadForOperation, sameProject, sameKind, keeps lifecycle]
  · obtain ⟨noFamily, noFamily'⟩ := not_or.mp lifecycle
    rw [Option.not_isSome_iff_eq_none] at noFamily noFamily'
    rw [noFamily, noFamily']

/-- A mutation in which operations stay: none is deleted and none changes its family. -/
structure Steady (rows before after : Rows) : Prop where
  fits : Fits rows before after
  agrees : Table.Agrees rows.operations before.operations after.operations
  kept : ∀ {key current}, before.operations.lookup key = some current →
    ∃ next, after.operations.lookup key = some next ∧ next.id = current.id ∧
      lifecycleHeadForOperation next = lifecycleHeadForOperation current
  named : ∀ {key operation}, after.operations.lookup key = some operation →
    key = operationKey operation ∧ key.1 ≠ ""

section Steady

variable {rows before after : Rows} (steady : Steady rows before after)
variable {arranged : List (Change Key Operation)}
variable (isArranged : arranged.Perm (changes before.operations after.operations))
include steady isArranged

theorem Steady.change {change : Change Key Operation} (member : change ∈ arranged) :
    rows.operations.lookup change.key = change.before ∧
      (rows.write before after).operations.lookup change.key = change.after ∧
      ∃ next, change.after = some next ∧ ∀ current, change.before = some current →
        next.id = current.id ∧
          lifecycleHeadForOperation next = lifecycleHeadForOperation current := by
  have exact_ := exact_changes before.operations after.operations
  have isChange := isArranged.mem_iff.mp member
  obtain ⟨isOld, isNew, different⟩ := (exact_.mem_iff change).mp isChange
  refine ⟨exact_.old steady.agrees isChange, exact_.new isChange, ?_⟩
  cases old : change.before with
  | none =>
    cases new : change.after with
    | none => exact absurd (old.trans new.symm) different
    | some next => exact ⟨next, rfl, fun _ => by rintro ⟨⟩⟩
  | some current =>
    obtain ⟨next, isNext, sameID, sameFamily⟩ := steady.kept (isOld.trans old)
    refine ⟨next, isNew.symm.trans isNext, ?_⟩
    rintro _ ⟨⟩
    exact ⟨sameID, sameFamily⟩

theorem Steady.leavesFamily {change : Change Key Operation} (member : change ∈ arranged) :
    leavesFamily change = none := by
  obtain ⟨_, _, next, isNext, same⟩ := steady.change isArranged member
  rw [Store.leavesFamily, isNext]
  cases old : change.before with
  | none => rfl
  | some current =>
    obtain ⟨sameID, sameFamily⟩ := same current old
    simp only [decodeLifecycleOperation, Option.bind_some, sameFamily]
    cases lifecycleHeadForOperation current with
    | none => rfl
    | some key => simp [Option.filter, sameID]

theorem Steady.mem_joined :
    (operation, key) ∈ arranged.filterMap joinsFamily ↔
      (operation, key) ∈ insertedAttempts rows (rows.write before after) := by
  rw [mem_insertedAttempts, List.mem_filterMap]
  constructor
  · rintro ⟨change, member, joins⟩
    obtain ⟨isOld, isNew, next, isNext, same⟩ := steady.change isArranged member
    rw [joinsFamily, isNext] at joins
    simp only [decodeLifecycleOperation, Option.bind_some] at joins
    obtain ⟨joined, fresh⟩ := Option.filter_eq_some_iff.mp joins
    obtain ⟨family, isFamily, pair⟩ := Option.map_eq_some_iff.mp joined
    cases pair
    cases old : change.before with
    | none => exact ⟨isFamily, change.key, isOld.trans old, isNew.trans isNext⟩
    | some current =>
      obtain ⟨sameID, sameFamily⟩ := same current old
      rw [old, Option.bind_some, ← sameFamily, isFamily] at fresh
      simp [sameID] at fresh
  · rintro ⟨isFamily, row, absent, present⟩
    have different : before.operations.lookup row ≠ after.operations.lookup row := by
      intro same
      rw [Rows.write, (exact_changes _ _).lookup_apply_of_eq same, absent] at present
      cases present
    have isOld := steady.agrees row different
    have isNew : after.operations.lookup row = some operation := by
      rw [← present, Rows.write, (exact_changes _ _).lookup_apply_of_ne different]
    refine ⟨⟨row, none, some operation⟩, isArranged.mem_iff.mpr
      (((exact_changes _ _).mem_iff _).mpr ⟨?_, isNew, by simp⟩), ?_⟩
    · rw [← isOld, absent]
    · simp [joinsFamily, decodeLifecycleOperation, isFamily]

end Steady

theorem Rows.Named.sandboxRows (named : rows.Named) (key : Key) :
    RowNamed sandboxKey key (rows.sandboxes.lookup key) :=
  fun sandbox present => (named.sandboxes key sandbox present).1

section OwnerRows

variable {Row : Type} [DecidableEq Row] {identity : Row → Key} {eligible : Row → Bool}
variable {table before after : AList fun _ : Key => Row}
variable (agrees : Table.Agrees table before after)
variable (named : ∀ key, RowNamed identity key (table.lookup key))
include agrees named

theorem settled_row
    (namedAfter : ∀ key, RowNamed identity key ((apply table (changes before after)).lookup key))
    {change : Change Key Row} (member : change ∈ changes before after) {row : Row}
    (was : change.before = some row) :
    (∃ next, change.after.filter eligible = some next ∧ identity next = identity row) ↔
      ((apply table (changes before after)).lookup (identity row)).any eligible = true := by
  have old := (exact_changes before after).old agrees member
  have new : (apply table (changes before after)).lookup change.key = change.after :=
    (exact_changes before after).new member
  rw [← named change.key row (old.trans was), new]
  cases isNew : change.after with
  | none => simp
  | some next =>
    have isKey := namedAfter change.key next (new.trans isNew)
    cases isEligible : eligible next <;> simp [Option.filter, isEligible, ← isKey]

theorem changed_row {owner : Key} (isEligible : (table.lookup owner).any eligible = true)
    (ineligible : ((apply table (changes before after)).lookup owner).any eligible = false) :
    ∃ change ∈ changes before after, ∃ row, change.before = some row ∧ identity row = owner := by
  have different : before.lookup owner ≠ after.lookup owner := by
    intro same
    rw [(exact_changes _ _).lookup_apply_of_eq same, isEligible] at ineligible
    cases ineligible
  refine ⟨⟨owner, before.lookup owner, after.lookup owner⟩,
    ((exact_changes _ _).mem_iff _).mpr ⟨rfl, rfl, different⟩, ?_⟩
  rw [← agrees owner different]
  cases present : table.lookup owner with
  | none => simp [present] at isEligible
  | some row => exact ⟨row, rfl, (named owner row present).symm⟩

end OwnerRows

section Owners

variable {rows before after : Rows} (fits : Fits rows before after) (named : rows.Named)
variable {arranged : List OwnerChange} (isArranged : arranged.Perm (ownerChanges before after))
include fits named isArranged

theorem settled_of_fits : Settled (rows.write before after) arranged := by
  intro change member owner was
  rcases List.mem_append.mp (isArranged.mem_iff.mp member) with isSandbox | isWorkspace
  · obtain ⟨change, isChange, rfl⟩ := List.mem_map.mp isSandbox
    obtain ⟨sandbox, isOld, rfl⟩ := Option.map_eq_some_iff.mp was
    refine Iff.trans ?_ (settled_row fits.agrees.sandboxes named.sandboxRows fits.named.sandboxRows
      isChange isOld)
    simp [OwnerChange.eligibleOwner]
  · obtain ⟨change, isChange, rfl⟩ := List.mem_map.mp isWorkspace
    obtain ⟨workspace, isOld, rfl⟩ := Option.map_eq_some_iff.mp was
    refine Iff.trans ?_ (settled_row fits.agrees.workspaces named.workspaces fits.named.workspaces
      isChange isOld)
    simp [OwnerChange.eligibleOwner, workspaceKey]

theorem owner_changed (eligible : key.eligible rows = true)
    (ineligible : key.eligible (rows.write before after) = false) :
    ∃ change ∈ arranged, change.beforeOwner = some key.owner := by
  obtain ⟨projectID, ownerKind, resourceID, family⟩ := key
  cases ownerKind with
  | sandbox =>
    obtain ⟨change, member, sandbox, was, isOwner⟩ :=
      changed_row fits.agrees.sandboxes named.sandboxRows eligible ineligible
    refine ⟨.sandbox change, isArranged.mem_iff.mpr
      (List.mem_append_left _ (List.mem_map_of_mem member)), ?_⟩
    simp [OwnerChange.beforeOwner, was, isOwner, LifecycleHeadKey.owner]
  | workspace =>
    obtain ⟨change, member, workspace, was, isOwner⟩ :=
      changed_row fits.agrees.workspaces named.workspaces eligible ineligible
    refine ⟨.workspace change, isArranged.mem_iff.mpr
      (List.mem_append_right _ (List.mem_map_of_mem member)), ?_⟩
    simp only [workspaceKey] at isOwner
    simp [OwnerChange.beforeOwner, was, isOwner, LifecycleHeadKey.owner]

end Owners

/-! ## Histories -/

/-- What a committed call left: the lifecycle operations it inserted, and the rows. -/
structure Commit where
  inserted : List (Operation × LifecycleHeadKey)
  rows : Rows

/-- A database and the commits that led to it, the last one first. -/
structure History where
  database : Database
  commits : List Commit

variable {history : History}

/-- The history of a database that was just created. -/
def History.opened (database : Database) : History :=
  ⟨database, [⟨insertedAttempts Rows.empty database.rows, database.rows⟩]⟩

/-- The history with one more commit. -/
def History.extend (history : History) (next : Database) : History :=
  ⟨next, ⟨insertedAttempts history.database.rows next.rows, next.rows⟩ :: history.commits⟩

/-- A call that commits. -/
def History.Step (before : History) (call : StoreCall) (after : History) : Prop :=
  ∃ next, before.database.perform call = .ok next ∧ after = before.extend next

/-- A call other than the unrestricted update, that keeps the resource of every lifecycle
operation. -/
structure Keeping (history : History) (call : StoreCall) : Prop where
  declared : ∀ order callback, call ≠ .update order callback
  resources : ∀ next, history.database.perform call = .ok next →
    KeepsResources history.database.rows next.rows

/-- The operation is the last one inserted into the family: the newest of the last commit that
inserted any. -/
inductive LastInserted (key : LifecycleHeadKey) (id : String) : List Commit → Prop
  | here {commit : Commit} {earlier : List Commit} {operation : Operation}
      (newest : Newest commit.inserted key operation) (isID : operation.id = id) :
      LastInserted key id (commit :: earlier)
  | later {commit : Commit} {earlier : List Commit}
      (none : ∀ operation, (operation, key) ∉ commit.inserted)
      (last : LastInserted key id earlier) : LastInserted key id (commit :: earlier)

/-- The owner has stayed eligible since an operation was inserted into the family. -/
inductive EligibleSince (key : LifecycleHeadKey) : List Commit → Prop
  | here {commit : Commit} {earlier : List Commit} {operation : Operation}
      (inserted : (operation, key) ∈ commit.inserted)
      (eligible : key.eligible commit.rows = true) : EligibleSince key (commit :: earlier)
  | later {commit : Commit} {earlier : List Commit} (since : EligibleSince key earlier)
      (eligible : key.eligible commit.rows = true) : EligibleSince key (commit :: earlier)

/-- The heads of a database. -/
abbrev Database.heads (database : Database) : Heads := database.indexes.lifecycleOperationHeads

variable {database next : Database}

/-- **The heads of a history.** -/
structure History.Headed (history : History) : Prop where
  indexed : history.database.Indexed
  operation : ∀ {key id}, history.database.heads.lookup key = some id →
    ∃ operation, history.database.rows.operations.lookup (key.projectID, id) = some operation ∧
      lifecycleHeadForOperation operation = some key ∧ operation.id = id
  eligible : ∀ {key id}, history.database.heads.lookup key = some id →
    key.projectID ≠ "" ∧ key.eligible history.database.rows = true
  last : ∀ {key id}, history.database.heads.lookup key = some id →
    LastInserted key id history.commits
  present : ∀ {key}, EligibleSince key history.commits →
    (history.database.heads.lookup key).isSome = true

theorem family_projectID (family : lifecycleHeadForOperation operation = some key) :
    key.projectID = operation.projectID := by
  unfold lifecycleHeadForOperation at family
  simp only at family
  repeat' split at family
  all_goals cases family
  all_goals rfl

theorem identified_insertedAttempts
    (named : ∀ {key operation}, before.operations.lookup key = none →
      after.operations.lookup key = some operation → key = operationKey operation) :
    Identified (insertedAttempts before after) := by
  intro first second key isFirst isSecond sameID
  obtain ⟨family, row, absent, present⟩ := mem_insertedAttempts.mp isFirst
  obtain ⟨family', row', absent', present'⟩ := mem_insertedAttempts.mp isSecond
  have sameRow : row = row' := by
    rw [named absent present, named absent' present', operationKey, operationKey,
      ← family_projectID family, ← family_projectID family', sameID]
  subst sameRow
  exact Option.some.inj (present.symm.trans present')

/-- The newest attempt depends on which attempts there are, not on their order. -/
theorem Newest.of_mem_iff {first second : List (Operation × LifecycleHeadKey)}
    (newest : Newest first key operation)
    (same : ∀ {operation key}, (operation, key) ∈ first ↔ (operation, key) ∈ second) :
    Newest second key operation :=
  ⟨same.mp newest.member, fun other isOther => newest.newer other (same.mpr isOther)⟩

section Write

variable {database : Database} {before after : Rows} (steady : Steady database.rows before after)
include steady

theorem Steady.identified :
    Identified (insertedAttempts database.rows (database.rows.write before after)) := by
  refine identified_insertedAttempts fun {key operation} absent present => ?_
  have different : before.operations.lookup key ≠ after.operations.lookup key := by
    intro same
    rw [Rows.write, (exact_changes _ _).lookup_apply_of_eq same, absent] at present
    cases present
  rw [Rows.write, (exact_changes _ _).lookup_apply_of_ne different] at present
  exact (steady.named present).1

theorem Steady.lookup_inserted {arranged : List (Change Key Operation)}
    (isArranged : arranged.Perm (changes before.operations after.operations)) :
    (insertedOperations arranged).lookup key = some operation ↔
      Newest (insertedAttempts database.rows (database.rows.write before after)) key operation := by
  have same : ∀ {operation key}, (operation, key) ∈ arranged.filterMap joinsFamily ↔
      (operation, key) ∈ insertedAttempts database.rows (database.rows.write before after) :=
    steady.mem_joined isArranged
  have identified : Identified (arranged.filterMap joinsFamily) :=
    fun _ _ _ isFirst isSecond => steady.identified (same.mp isFirst) (same.mp isSecond)
  rw [insertedOperations_eq, lookup_newestOf identified]
  exact ⟨fun newest => newest.of_mem_iff same, fun newest => newest.of_mem_iff same.symm⟩

end Write

/-- What a commit does to the heads, and to the operations that they point to. -/
structure Advances (database next : Database) : Prop where
  heads : ∀ {key id}, next.heads.lookup key = some id ↔
    key.eligible next.rows = true ∧
      ((∃ operation, Newest (insertedAttempts database.rows next.rows) key operation ∧
        operation.id = id) ∨
      ((∀ operation, (operation, key) ∉ insertedAttempts database.rows next.rows) ∧
        database.heads.lookup key = some id))
  kept : ∀ {key operation}, database.rows.operations.lookup key = some operation →
    ∃ next', next.rows.operations.lookup key = some next' ∧ next'.id = operation.id ∧
      lifecycleHeadForOperation next' = lifecycleHeadForOperation operation
  inserted : ∀ {operation key}, (operation, key) ∈ insertedAttempts database.rows next.rows →
    key.projectID ≠ "" ∧
      next.rows.operations.lookup (key.projectID, operation.id) = some operation

theorem lookup_cascadeHeads {heads : Heads} {changes : List (Change Key Operation)}
    (kept : ∀ change ∈ changes, change.after ≠ none) (key : LifecycleHeadKey) :
    (cascadeHeads heads changes).lookup key = heads.lookup key := by
  have all : ∀ id, (changes.all fun change =>
      change.after ≠ none || change.key ≠ (key.projectID, id)) = true := by
    intro id
    refine List.all_eq_true.mpr fun change member => ?_
    simp [kept change member]
  rw [cascadeHeads, lookup_filter]
  cases heads.lookup key with
  | none => rfl
  | some id => rw [Option.filter, if_pos (all id)]

/-- A mutation installs the heads it computed. -/
theorem heads_of_sync (fits : Fits database.rows before after) (named : database.rows.Named)
    (synced : database.sync order before after = .ok next) :
    next.heads = database.syncHeads order before after :=
  (sync_effect (arrangedResources_named fits named order) (arrangedSandboxes_named fits named order)
    (sync_cases synced).1).2.heads

section Headed

variable {history : History} (headed : history.Headed)
include headed

theorem History.Headed.lookup_syncHeads (steady : Steady history.database.rows before after)
    (order : Iteration) (key : LifecycleHeadKey) :
    (history.database.syncHeads order before after).lookup key =
      if key.eligible (history.database.rows.write before after) then
        (((insertedOperations (order.operations
          (changes before.operations after.operations))).lookup key).map (·.id)).or
            (history.database.heads.lookup key)
      else none := by
  have isArranged := order.operations_perm (changes before.operations after.operations)
  have ownersArranged := order.owners_perm (ownerChanges before after)
  have kept : ∀ change ∈ order.operations (changes before.operations after.operations),
      change.after ≠ none := by
    intro change member
    obtain ⟨_, _, next, isNext, _⟩ := steady.change isArranged member
    rw [isNext]
    exact Option.some_ne_none next
  have ofFamily : OfFamily (insertedOperations (order.operations
      (changes before.operations after.operations))) := fun found =>
    (mem_insertedAttempts.mp ((steady.lookup_inserted isArranged).mp found).member).1
  rw [Database.syncHeads, lookup_syncLifecycleOperationHeads
    (fun change member => steady.leavesFamily isArranged member) ofFamily
    (settled_of_fits steady.fits headed.indexed.named ownersArranged), lookup_cascadeHeads kept]
  intro other isHead ineligible
  rw [lookup_cascadeHeads kept] at isHead
  obtain ⟨id, isID⟩ := Option.isSome_iff_exists.mp isHead
  obtain ⟨hasProject, eligible⟩ := headed.eligible isID
  exact ⟨hasProject,
    owner_changed steady.fits headed.indexed.named ownersArranged eligible ineligible⟩

theorem History.Headed.advances_of_write (steady : Steady history.database.rows before after)
    (synced : history.database.sync order before after = .ok next) :
    Advances history.database next := by
  have isArranged := order.operations_perm (changes before.operations after.operations)
  obtain ⟨_, isWritten⟩ := sync_cases synced
  refine ⟨fun {key id} => ?_, fun {key operation} present => ?_, fun {operation key} member => ?_⟩
  · rw [heads_of_sync steady.fits headed.indexed.named synced,
      headed.lookup_syncHeads steady order key, isWritten]
    cases inserted : (insertedOperations (order.operations
        (changes before.operations after.operations))).lookup key with
    | some operation =>
      have newest := (steady.lookup_inserted isArranged).mp inserted
      constructor
      · intro found
        split at found
        · next eligible => exact ⟨eligible, .inl ⟨operation, newest, Option.some.inj found⟩⟩
        · cases found
      · rintro ⟨eligible, ⟨other, isNewest, isID⟩ | ⟨none_, _⟩⟩
        · rw [if_pos eligible, newest.unique isNewest, ← isID]
          rfl
        · exact absurd newest.member (none_ operation)
    | none =>
      have none_ : ∀ operation, (operation, key) ∉ insertedAttempts history.database.rows
          (history.database.rows.write before after) := by
        intro operation member
        have found := isSome_lookup_newestOf ((steady.mem_joined isArranged).mpr member)
        rw [← insertedOperations_eq, inserted] at found
        cases found
      constructor
      · intro found
        split at found
        · next eligible => exact ⟨eligible, .inr ⟨none_, found⟩⟩
        · cases found
      · rintro ⟨eligible, ⟨other, isNewest, _⟩ | ⟨_, old⟩⟩
        · exact absurd isNewest.member (none_ other)
        · rw [if_pos eligible, old]
          rfl
  · rw [isWritten]
    by_cases same : before.operations.lookup key = after.operations.lookup key
    · rw [Rows.write, (exact_changes _ _).lookup_apply_of_eq same]
      exact ⟨operation, present, rfl, rfl⟩
    · rw [Rows.write, (exact_changes _ _).lookup_apply_of_ne same]
      exact steady.kept ((steady.agrees key same).symm.trans present)
  · rw [isWritten] at member ⊢
    obtain ⟨family, row, absent, present⟩ := mem_insertedAttempts.mp member
    have different : before.operations.lookup row ≠ after.operations.lookup row := by
      intro same
      rw [Rows.write, (exact_changes _ _).lookup_apply_of_eq same, absent] at present
      cases present
    have isNew := present
    rw [Rows.write, (exact_changes _ _).lookup_apply_of_ne different] at isNew
    obtain ⟨isKey, hasProject⟩ := steady.named isNew
    rw [isKey, operationKey] at hasProject present
    rw [family_projectID family]
    exact ⟨hasProject, present⟩

end Headed

/-- Calls that touch neither operations nor owners leave the heads. -/
theorem advances_of_same (headed : history.Headed)
    (sameOperations : next.rows.operations = history.database.rows.operations)
    (sameHeads : next.heads = history.database.heads) (sameOwners : ∀ key : LifecycleHeadKey,
      key.eligible next.rows = key.eligible history.database.rows) :
    Advances history.database next := by
  have none_ : ∀ operation key,
      (operation, key) ∉ insertedAttempts history.database.rows next.rows := by
    intro operation key member
    obtain ⟨_, row, absent, present⟩ := mem_insertedAttempts.mp member
    rw [sameOperations, absent] at present
    cases present
  refine ⟨fun {key id} => ?_, fun {key operation} present => ?_, fun {operation key} member => ?_⟩
  · rw [sameHeads, sameOwners]
    constructor
    · exact fun found => ⟨(headed.eligible found).2, .inr ⟨fun operation => none_ operation key,
        found⟩⟩
    · rintro ⟨_, ⟨operation, newest, _⟩ | ⟨_, found⟩⟩
      · exact absurd newest.member (none_ operation key)
      · exact found
  · rw [sameOperations]
    exact ⟨operation, present, rfl, rfl⟩
  · exact absurd member (none_ operation key)

theorem Advances.identified (advances : Advances database next) :
    Identified (insertedAttempts database.rows next.rows) := by
  intro first second key isFirst isSecond sameID
  obtain ⟨_, present⟩ := advances.inserted isFirst
  obtain ⟨_, present'⟩ := advances.inserted isSecond
  rw [sameID, present'] at present
  exact (Option.some.inj present).symm

/-- **A commit that moves the heads on keeps the heads of a history.** -/
theorem History.Headed.extend (headed : history.Headed) (advances : Advances history.database next)
    (indexed : next.Indexed) :
    (history.extend next).Headed where
  indexed := indexed
  operation := by
    intro key id found
    obtain ⟨_, ⟨operation, newest, isID⟩ | ⟨_, old⟩⟩ := advances.heads.mp found
    · obtain ⟨_, present⟩ := advances.inserted newest.member
      exact ⟨operation, isID ▸ present, (mem_insertedAttempts.mp newest.member).1, isID⟩
    · obtain ⟨operation, present, family, isID⟩ := headed.operation old
      obtain ⟨next', present', sameID, sameFamily⟩ := advances.kept present
      exact ⟨next', present', sameFamily.trans family, sameID.trans isID⟩
  eligible := by
    intro key id found
    obtain ⟨eligible, ⟨operation, newest, _⟩ | ⟨_, old⟩⟩ := advances.heads.mp found
    · exact ⟨(advances.inserted newest.member).1, eligible⟩
    · exact ⟨(headed.eligible old).1, eligible⟩
  last := by
    intro key id found
    obtain ⟨_, ⟨operation, newest, isID⟩ | ⟨none_, old⟩⟩ := advances.heads.mp found
    · exact .here newest isID
    · exact .later none_ (headed.last old)
  present := by
    have inserted : ∀ {operation key},
        (operation, key) ∈ insertedAttempts history.database.rows next.rows →
        key.eligible next.rows = true → (next.heads.lookup key).isSome = true := by
      intro operation key member eligible
      obtain ⟨newest, isNewest⟩ := exists_newest advances.identified member
      rw [advances.heads.mpr ⟨eligible, .inl ⟨newest, isNewest, rfl⟩⟩]
      rfl
    intro key since
    rcases since with ⟨member, eligible⟩ | ⟨since, eligible⟩
    · exact inserted member eligible
    · by_cases some_ : ∃ operation, (operation, key) ∈
          insertedAttempts history.database.rows next.rows
      · obtain ⟨operation, member⟩ := some_
        exact inserted member eligible
      · obtain ⟨id, old⟩ := Option.isSome_iff_exists.mp (headed.present since)
        refine Option.isSome_iff_exists.mpr ⟨id, advances.heads.mpr ⟨eligible, .inr ⟨?_, old⟩⟩⟩
        exact fun operation member => some_ ⟨operation, member⟩

/-! ## Every call -/

theorem PreparedRows.steady {scope : MutationScope} {callback : Callback}
    (prepared : PreparedRows scope callback rows before after) (named : rows.Named)
    (keeps : KeepsResources rows (rows.write before after)) :
    Steady rows before after := by
  obtain ⟨_, _, isBefore, _, _, _⟩ := encodeState_ok prepared.isBefore
  obtain ⟨next, _, isValid, encoded⟩ := prepared.called
  obtain ⟨_, _, isAfter, _, _, _⟩ := encodeState_ok encoded
  have inScope := inScope_of_validate prepared.inScope
  have agrees : Table.Agrees rows.operations before.operations after.operations := by
    intro key different
    rw [isBefore]
    exact (lookup_declared (inScope.operations different) rows.operations).symm
  refine ⟨prepared.fits named, agrees, fun {key current} present => ?_,
    fun {key operation} present => ?_⟩
  · obtain ⟨next, isNext, same⟩ := inScope.operationsKept present
    refine ⟨next, isNext, ?_⟩
    by_cases unchanged : before.operations.lookup key = after.operations.lookup key
    · rw [present, isNext] at unchanged
      cases unchanged
      exact ⟨rfl, rfl⟩
    · refine family_kept same fun lifecycle => keeps ((agrees key unchanged).trans present)
        ?_ lifecycle
      rw [Rows.write, (exact_changes _ _).lookup_apply_of_ne unchanged, isNext]
  · rw [isAfter] at present
    have checked := ((State.valid_iff next).mp isValid).operations present
    obtain ⟨isName, _, _, isKey⟩ := State.scopedIdentity_iff.mp checked
    exact ⟨isKey, by rw [isKey]; exact isSafeName_ne_empty isName⟩

/-- **Every call that keeps resources moves the heads on.** -/
theorem History.Headed.advances (headed : history.Headed) {call : StoreCall}
    (keeping : Keeping history call) (performed : history.database.perform call = .ok next) :
    Advances history.database next := by
  have keeps := keeping.resources next performed
  cases call with
  | update order callback => exact absurd rfl (keeping.declared order callback)
  | updateRows order scope callback =>
    obtain ⟨before, after, prepared, synced⟩ := commit_ok performed
    rw [(sync_cases synced).2] at keeps
    exact headed.advances_of_write
      ((prepareRows_ok.mp prepared).steady headed.indexed.named keeps) synced
  | recordSandboxActivity key at_ =>
    simp only [Database.perform, Database.recordSandboxActivity] at performed
    split at performed
    · cases performed
    next current present =>
    split at performed
    · cases performed
      exact advances_of_same headed rfl rfl fun _ => rfl
    cases performed
    refine advances_of_same headed rfl rfl fun head => ?_
    obtain ⟨projectID, ownerKind, resourceID, family⟩ := head
    cases ownerKind with
    | workspace => rfl
    | sandbox =>
      simp only [LifecycleHeadKey.eligible, LifecycleHeadKey.owner, ownerEligible]
      rw [show ∀ row, (history.database.rows.sandboxes.insert key row).lookup
        (projectID, resourceID) = _ from fun row =>
          lookup_write history.database.rows.sandboxes key (projectID, resourceID) (some row)]
      split
      · next same =>
        rw [same, present]
        simp [sandboxEligible, (advanceSandboxActivity_counted current at_).1]
      · rfl
  | appendSandboxEvent event =>
    simp only [Database.perform, Database.appendSandboxEvent] at performed
    split at performed
    · cases performed
    split at performed
    · cases performed
    · cases performed
      exact advances_of_same headed rfl rfl fun _ => rfl
  | reopen =>
    simp only [Database.perform, Database.reopen, bind_ok, mapError_ok] at performed
    obtain ⟨rebuilt, isRebuilt, _, _, ⟨⟩⟩ := performed
    exact advances_of_same headed rfl (rebuild_tracks headed.indexed.named isRebuilt).2.2
      fun _ => rfl

theorem headed_empty : History.Headed ⟨⟨Rows.empty, Indexes.empty⟩, []⟩ := by
  have indexed : Database.Indexed ⟨Rows.empty, Indexes.empty⟩ := by
    refine ⟨⟨fun counter => ?_, fun mount owner => ?_⟩, ⟨fun key => .absent key,
      fun key => .absent _ key, fun key => .absent _ key⟩, ⟨fun key => List.nodup_nil, ?_⟩⟩
    · rcases counter with projectID | ⟨kind, projectID⟩
      · rfl
      · cases kind <;> rfl
    · exact ⟨by rintro ⟨⟩, by rintro ⟨⟩⟩
    · rintro mount key key' ⟨⟩
  refine ⟨indexed, ?_, ?_, ?_, ?_⟩
  · rintro key id ⟨⟩
  · rintro key id ⟨⟩
  · rintro key id ⟨⟩
  · rintro key ⟨⟩

theorem mem_attemptsOf :
    (operation, key) ∈ attemptsOf rows none ↔
      (operation, key) ∈ insertedAttempts Rows.empty rows := by
  rw [mem_insertedAttempts, attemptsOf, List.mem_filterMap]
  constructor
  · rintro ⟨⟨row, present⟩, member, chosen⟩
    obtain ⟨family, isFamily, same⟩ := Option.map_eq_some_iff.mp chosen
    cases same
    exact ⟨(Option.filter_eq_some_iff.mp isFamily).1, row, rfl, mem_entries_iff.mp member⟩
  · rintro ⟨isFamily, row, _, present⟩
    refine ⟨⟨row, operation⟩, mem_entries_iff.mpr present, ?_⟩
    simp [isFamily]

theorem lookup_rebuildLifecycleOperationHeads
    (identified : Identified (insertedAttempts Rows.empty rows)) {id : String} :
    (rebuildLifecycleOperationHeads rows).lookup key = some id ↔
      key.eligible rows = true ∧
        ∃ operation, Newest (insertedAttempts Rows.empty rows) key operation ∧
          operation.id = id := by
  have isIdentified : Identified (attemptsOf rows none) := fun _ _ _ isFirst isSecond =>
    identified (mem_attemptsOf.mp isFirst) (mem_attemptsOf.mp isSecond)
  have candidates : ∀ {key operation},
      (selectLifecycleOperationHeads rows none).lookup key = some operation ↔
        Newest (insertedAttempts Rows.empty rows) key operation := by
    intro key operation
    rw [selectLifecycleOperationHeads_eq, lookup_newestOf isIdentified]
    exact ⟨fun newest => newest.of_mem_iff mem_attemptsOf,
      fun newest => newest.of_mem_iff mem_attemptsOf.symm⟩
  have ofFamily : OfFamily (selectLifecycleOperationHeads rows none) := fun found =>
    (mem_insertedAttempts.mp (candidates.mp found).member).1
  have distinct : (sortedLifecycleHeadKeys (selectLifecycleOperationHeads rows none).keys).Nodup :=
    (List.mergeSort_perm _ _).nodup_iff.mpr (AList.keys_nodup _)
  have isRebuilt : rebuildLifecycleOperationHeads rows =
      (sortedLifecycleHeadKeys (selectLifecycleOperationHeads rows none).keys).foldl
        (replaceHead rows (selectLifecycleOperationHeads rows none)) ∅ :=
    foldl_upsert_eq ofFamily distinct fun _ _ => rfl
  rw [isRebuilt]
  cases eligible : key.eligible rows with
  | true =>
    rw [lookup_replaceAll ofFamily _ eligible]
    simp [candidates]
  | false =>
    rw [lookup_replaceHeads_of_ineligible ofFamily _ _ eligible rfl]
    simp

theorem headed_of_create {initial : State}
    (created : Database.create order initial = .ok database) :
    (History.opened database).Headed := by
  have indexed := indexed_of_create created
  simp only [Database.create, bind_ok, mapError_ok, encodeUpdated_ok] at created
  obtain ⟨rows, ⟨isValid, encoded⟩, filled, synced, rebuilt, isRebuilt, _, _, ⟨⟩⟩ := created
  have sameOperations : Same filled.rows.operations initial.operations := by
    obtain ⟨_, _, isRows, _, _, _⟩ := encodeState_ok encoded
    rw [(sync_cases synced).2, ← isRows]
    exact (exact_changes _ _).apply (Same.refl _)
  have named : ∀ {key operation}, filled.rows.operations.lookup key = some operation →
      key = operationKey operation ∧ key.1 ≠ "" := by
    intro key operation present
    rw [sameOperations key] at present
    have checked := ((State.valid_iff initial).mp isValid).operations present
    obtain ⟨isName, _, _, isKey⟩ := State.scopedIdentity_iff.mp checked
    exact ⟨isKey, by rw [isKey]; exact isSafeName_ne_empty isName⟩
  have identified : Identified (insertedAttempts Rows.empty filled.rows) :=
    identified_insertedAttempts fun _ present => (named present).1
  refine headed_empty.extend ⟨fun {key id} => ?_, ?_, fun {operation key} member => ?_⟩ indexed
  · refine (lookup_rebuildLifecycleOperationHeads identified).trans
      (and_congr_right fun _ => (or_iff_left ?_).symm)
    rintro ⟨_, ⟨⟩⟩
  · rintro key operation ⟨⟩
  · obtain ⟨family, row, _, present⟩ := mem_insertedAttempts.mp member
    obtain ⟨isKey, hasProject⟩ := named present
    rw [isKey, operationKey] at hasProject present
    rw [family_projectID family]
    exact ⟨hasProject, present⟩

/-- **The heads along a history.** -/
theorem History.Headed.run {start : History} (headed : start.Headed)
    (run : Transition.Run History.Step Keeping start history) : history.Headed := by
  refine run.invariant headed ?_
  rintro before call _ isHeaded keeping ⟨next, performed, rfl⟩
  exact isHeaded.extend (isHeaded.advances keeping performed) (isHeaded.indexed.perform performed)

/-! ## What reconciliation lists -/

/-- A pass whose steps all succeed and keep a property succeeds and keeps it. -/
theorem foldlM_ok {Entry Accumulated Error : Type}
    {step : Accumulated → Entry → Except Error Accumulated} {holds : Accumulated → Prop}
    {entries : List Entry} {start : Accumulated} (initially : holds start)
    (steps : ∀ entry ∈ entries, ∀ accumulated, holds accumulated →
      ∃ next, step accumulated entry = .ok next ∧ holds next) :
    ∃ result, entries.foldlM step start = .ok result ∧ holds result := by
  induction entries generalizing start with
  | nil => exact ⟨start, rfl, initially⟩
  | cons entry rest ih =>
    obtain ⟨next, stepped, holdsNext⟩ := steps entry (List.mem_cons_self ..) start initially
    rw [List.foldlM_cons, stepped]
    exact ih holdsNext fun other later =>
      steps other (List.mem_cons_of_mem entry later)

theorem History.Headed.listed (headed : history.Headed) :
    ∃ operations, listLifecycleOperationsForReconcile history.database = .ok operations ∧
      ∀ operation ∈ operations, ∃ key, lifecycleHeadForOperation operation = some key ∧
        history.database.heads.lookup key = some operation.id := by
  refine foldlM_ok (fun operation member => absurd member List.not_mem_nil) ?_
  intro entry member operations areHeads
  have isHead := mem_entries_iff.mp member
  obtain ⟨operation, present, family, isID⟩ := headed.operation isHead
  simp only [present, family, isID, ne_eq, not_true_eq_false, or_self, if_false]
  split
  · refine ⟨_, rfl, fun other isOther => ?_⟩
    rcases List.mem_append.mp isOther with earlier | last
    · exact areHeads other earlier
    · rw [List.mem_singleton.mp last]
      exact ⟨entry.1, family, isID ▸ isHead⟩
  · exact ⟨_, rfl, areHeads⟩

/-- **Lifecycle heads track the newest attempt.**  Take any run of scoped mutations, single-row
writes and reopens on a new database, in which every lifecycle operation keeps its resource.  Every
head points to an operation of its family, and its owner is eligible.  While the owner stays
eligible since an insertion, the family has a head and it is the last operation inserted.  A call
that inserts nothing into a family and does not make its owner ineligible leaves its head.  The
operations listed for reconciliation are consistent, and each is the last one inserted into its
family. -/
theorem lifecycle_heads_track_newest {creation : Iteration} {initial : State}
    {database : Database} (created : Database.create creation initial = .ok database)
    {history : History}
    (run : Transition.Run History.Step Keeping (History.opened database) history) :
    (∀ key id, history.database.heads.lookup key = some id →
      ∃ operation, history.database.rows.operations.lookup (key.projectID, id) = some operation ∧
        lifecycleHeadForOperation operation = some key ∧ operation.id = id ∧
        key.eligible history.database.rows = true) ∧
    (∀ key, EligibleSince key history.commits →
      ∃ id, history.database.heads.lookup key = some id ∧ LastInserted key id history.commits) ∧
    (∀ call next, Keeping history call → history.database.perform call = .ok next →
      ∀ key : LifecycleHeadKey,
        (∀ operation, (operation, key) ∉ insertedAttempts history.database.rows next.rows) →
        (key.eligible history.database.rows = true → key.eligible next.rows = true) →
        next.heads.lookup key = history.database.heads.lookup key) ∧
    ∃ operations, listLifecycleOperationsForReconcile history.database = .ok operations ∧
      ∀ operation ∈ operations, ∃ key, lifecycleHeadForOperation operation = some key ∧
        LastInserted key operation.id history.commits := by
  have headed := (headed_of_create created).run run
  refine ⟨fun key id found => ?_, fun key since => ?_, ?_, ?_⟩
  · obtain ⟨operation, present, family, isID⟩ := headed.operation found
    exact ⟨operation, present, family, isID, (headed.eligible found).2⟩
  · obtain ⟨id, found⟩ := Option.isSome_iff_exists.mp (headed.present since)
    exact ⟨id, found, headed.last found⟩
  · intro call next keeping performed key none_ stays
    have advances := headed.advances keeping performed
    ext id
    rw [advances.heads]
    constructor
    · rintro ⟨_, ⟨operation, newest, _⟩ | ⟨_, old⟩⟩
      · exact absurd newest.member (none_ operation)
      · exact old
    · exact fun old => ⟨stays (headed.eligible old).2, .inr ⟨none_, old⟩⟩
  · obtain ⟨operations, isListed, areHeads⟩ := headed.listed
    refine ⟨operations, isListed, fun operation member => ?_⟩
    obtain ⟨key, family, isHead⟩ := areHeads operation member
    exact ⟨key, family, headed.last isHead⟩

/-- The history with one more call. -/
def History.take (history : History) (call : StoreCall) : History :=
  history.extend (history.database.step call)

/-- The call succeeds and keeps the resource of every operation. -/
def History.takes (history : History) (call : StoreCall) : Bool :=
  match call with
  | .update _ _ => false
  | _ => (history.database.perform call).isOk &&
    history.database.rows.operations.entries.all fun entry =>
      ((history.database.step call).rows.operations.lookup entry.1).all
        (·.resourceID = entry.2.resourceID)

theorem History.run_take {start : History} {call : StoreCall}
    (run : Transition.Run History.Step Keeping start history)
    (takes : history.takes call = true) :
    Transition.Run History.Step Keeping start (history.take call) := by
  unfold History.takes at takes
  split at takes
  · cases takes
  next isDeclared =>
  obtain ⟨isOk, kept⟩ := Bool.and_eq_true_iff.mp takes
  cases performed : history.database.perform call with
  | error error =>
    rw [performed] at isOk
    cases isOk
  | ok next =>
    have isNext : history.database.step call = next := by
      rw [Database.step, performed]
      rfl
    rw [isNext] at kept
    refine run.next ⟨isDeclared, ?_⟩ ⟨next, performed, by rw [History.take, isNext]⟩
    rintro _ again key current later present present' -
    cases performed.symm.trans again
    have same := List.all_eq_true.mp kept _ (mem_entries_iff.mpr present)
    rw [present'] at same
    exact of_decide_eq_true same

/-- An attempt of the sample runs to create a sandbox. -/
def sampleOperation (id : String) (state : OperationState) (updatedAt : Time) : Operation :=
  ⟨id, "project", "create_sandbox", "sandbox", state, "key-" ++ id, 1, updatedAt, none⟩

/-- The family of the sample attempts. -/
def sampleHead : LifecycleHeadKey := ⟨"project", .sandbox, "sandbox", .sandboxCreate⟩

/-- Write an attempt and the state of its sandbox. -/
def writeAttempt (operation : Operation) (state : SandboxState) : StoreCall :=
  .updateRows .listed
    ⟨[], [("project", "sandbox")], [operationKey operation], [], [], [], [], []⟩ fun ledger =>
      .ok ((ledger.putOperation operation).putSandbox (sampleSandbox "sandbox" state false))

/-- A creation is attempted twice, and then the first attempt is written once more. -/
def retried : History :=
  (((History.opened newDatabase).take
    (writeAttempt (sampleOperation "first" .running 1) .preparing)).take
    (writeAttempt (sampleOperation "second" .running 2) .preparing)).take
    (writeAttempt (sampleOperation "first" .failed 3) .preparing)

/-- The sandbox has been deleted. -/
def retriedAndEnded : History :=
  retried.take (writeAttempt (sampleOperation "second" .succeeded 4) .deleted)

theorem retried_run : Transition.Run History.Step Keeping (History.opened newDatabase) retried :=
  History.run_take (History.run_take (History.run_take .start (by decide +kernel))
    (by decide +kernel)) (by decide +kernel)

/-- The second attempt stays the head until the owner ends. -/
theorem lifecycle_heads_track_newest_retried :
    Database.create .listed State.empty = .ok newDatabase ∧
      retried.database.heads.lookup sampleHead = some "second" ∧
      LastInserted sampleHead "second" retried.commits ∧
      retriedAndEnded.database.heads.lookup sampleHead = none := by
  have isHead : retried.database.heads.lookup sampleHead = some "second" := by decide +kernel
  have since : EligibleSince sampleHead retried.commits :=
    .later (.here (show (sampleOperation "second" .running 2, sampleHead) ∈ _ by decide +kernel)
      (by decide +kernel)) (by decide +kernel)
  have ended : Transition.Run History.Step Keeping (History.opened newDatabase) retriedAndEnded :=
    History.run_take retried_run (by decide +kernel)
  have ineligible : sampleHead.eligible retriedAndEnded.database.rows = false := by decide +kernel
  obtain ⟨id, found, last⟩ :=
    (lifecycle_heads_track_newest newDatabase_created retried_run).2.1 sampleHead since
  cases isHead.symm.trans found
  refine ⟨newDatabase_created, isHead, last, Option.eq_none_iff_forall_ne_some.mpr
    fun id found => ?_⟩
  obtain ⟨_, _, _, _, eligible⟩ :=
    (lifecycle_heads_track_newest newDatabase_created ended).1 sampleHead id found
  rw [ineligible] at eligible
  cases eligible

end Brezel.Store
