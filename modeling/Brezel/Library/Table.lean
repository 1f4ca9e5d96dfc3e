import Mathlib

/-!
# Tables of keyed rows

A table holds at most one row under each key.  The order in which it lists its rows means nothing:
two tables are the same when every lookup gives the same result (`Same`).

`changes before after` lists the rows in which two tables differ, and `apply` writes such a list
into a table.  A program that iterates over the changes may do so in any order, so the results here
are about any list that is exact (`Exact`): it names every difference, once.

* `Exact.apply`: writing the differences turns a table into the other one.
* `count_apply`: how writing changes moves the number of rows with a property.
* `insertFresh_ok`: adding rows under keys that must be new succeeds if and only if the keys are.
-/

namespace Table

variable {Key Row Result : Type} [DecidableEq Key]
variable {key : Key} {row : Row} {rows : List (Key × Row)}
variable {table before after first second whole : AList fun _ : Key => Row}

/-- The two tables hold the same rows. -/
def Same (first second : AList fun _ : Key => Row) : Prop :=
  ∀ key, first.lookup key = second.lookup key

theorem Same.refl (table : AList fun _ : Key => Row) : Same table table := fun _ => rfl

theorem Same.symm (same : Same first second) :
    Same second first := fun key => (same key).symm

theorem Same.trans {third : AList fun _ : Key => Row} (same : Same first second)
    (next : Same second third) : Same first third := fun key => (same key).trans (next key)

theorem mem_entries_iff :
    (⟨key, row⟩ : Sigma fun _ : Key => Row) ∈ table.entries ↔ table.lookup key = some row :=
  AList.mem_lookup_iff.symm

/-- Tables that hold the same rows list them up to order. -/
theorem Same.perm (same : Same first second) :
    first.entries.Perm second.entries := by
  refine List.lookup_ext first.nodupKeys second.nodupKeys fun key row => ?_
  exact (congrArg (row ∈ ·) (same key)).to_iff

/-! ## Choosing rows -/

omit [DecidableEq Key] in
theorem nodup_keys_filterMap {Other : Type} (choose : (Sigma fun _ : Key => Row) → Option Other)
    (key : Other → Key) (keyed : ∀ entry other, choose entry = some other → key other = entry.1)
    {entries : List (Sigma fun _ : Key => Row)} (distinct : entries.NodupKeys) :
    ((entries.filterMap choose).map key).Nodup := by
  rw [List.Nodup, List.pairwise_map, List.pairwise_filterMap]
  refine (List.nodupKeys_iff_pairwise.mp distinct).imp ?_
  intro first second different _ chosen _ chosen' same
  rw [keyed _ _ chosen, keyed _ _ chosen'] at same
  exact different same

/-- The chosen results for the rows. -/
def filterMap (choose : Key → Row → Option Result) (table : AList fun _ : Key => Row) :
    AList fun _ : Key => Result :=
  ⟨table.entries.filterMap fun entry => (choose entry.1 entry.2).map (Sigma.mk entry.1),
    nodup_keys_filterMap _ Sigma.fst (by simp +contextual [eq_comm]) table.nodupKeys⟩

theorem lookup_filterMap (choose : Key → Row → Option Result) (table : AList fun _ : Key => Row)
    (key : Key) :
    (filterMap choose table).lookup key = (table.lookup key).bind (choose key) := by
  ext result
  rw [← mem_entries_iff]
  simp only [filterMap, List.mem_filterMap, Option.map_eq_some_iff, Option.bind_eq_some_iff]
  constructor
  · rintro ⟨⟨source, row⟩, member, value, chosen, same⟩
    cases same
    exact ⟨row, mem_entries_iff.mp member, chosen⟩
  · rintro ⟨row, present, chosen⟩
    exact ⟨⟨key, row⟩, mem_entries_iff.mpr present, result, chosen, rfl⟩

/-- The rows that are kept. -/
def filter (keep : Key → Row → Bool) (table : AList fun _ : Key => Row) :
    AList fun _ : Key => Row :=
  filterMap (fun key row => if keep key row then some row else none) table

theorem lookup_filter (keep : Key → Row → Bool) (table : AList fun _ : Key => Row) (key : Key) :
    (filter keep table).lookup key = (table.lookup key).filter (keep key) := by
  rw [filter, lookup_filterMap]
  cases table.lookup key <;> rfl

/-! ## Changes -/

/-- A row before and after; `none` says that there is no row. -/
structure Change (Key Row : Type) where
  key : Key
  before : Option Row
  after : Option Row
  deriving DecidableEq, Repr

variable {change : Change Key Row} {differences list : List (Change Key Row)}

/-- Set or clear the row of a key. -/
def write (table : AList fun _ : Key => Row) (key : Key) : Option Row → AList fun _ : Key => Row
  | some row => table.insert key row
  | none => table.erase key

theorem lookup_write (table : AList fun _ : Key => Row) (key other : Key) (row : Option Row) :
    (write table key row).lookup other = if other = key then row else table.lookup other := by
  cases row with
  | none =>
    split
    · next same => rw [same, write, AList.lookup_erase]
    · next different => rw [write, AList.lookup_erase_ne different]
  | some row =>
    split
    · next same => rw [same, write, AList.lookup_insert]
    · next different => rw [write, AList.lookup_insert_ne different]

/-- The table after the changes. -/
def apply (table : AList fun _ : Key => Row) (changes : List (Change Key Row)) :
    AList fun _ : Key => Row :=
  changes.foldl (fun current change => write current change.key change.after) table

/-- The rows in which two tables differ: first the rows that are gone, then those that are new or
other than they were. -/
def changes [DecidableEq Row] (before after : AList fun _ : Key => Row) : List (Change Key Row) :=
  before.entries.filterMap (fun entry =>
      if after.lookup entry.1 = none then some ⟨entry.1, some entry.2, none⟩ else none) ++
    after.entries.filterMap fun entry =>
      if before.lookup entry.1 = some entry.2 then none
      else some ⟨entry.1, before.lookup entry.1, some entry.2⟩

/-- The changes that fill an empty table. -/
def inserts (table : AList fun _ : Key => Row) : List (Change Key Row) :=
  table.entries.map fun entry => ⟨entry.1, none, some entry.2⟩

theorem mem_inserts (member : change ∈ inserts table) :
    table.lookup change.key = change.after ∧ change.before = none := by
  obtain ⟨entry, inTable, rfl⟩ := List.mem_map.mp member
  exact ⟨mem_entries_iff.mp inTable, rfl⟩

/-- The list names every difference of two tables, and each key once. -/
structure Exact (before after : AList fun _ : Key => Row) (differences : List (Change Key Row)) :
    Prop where
  distinct : (differences.map Change.key).Nodup
  mem_iff : ∀ change : Change Key Row, change ∈ differences ↔
    before.lookup change.key = change.before ∧ after.lookup change.key = change.after ∧
      change.before ≠ change.after

namespace Exact

variable {before after : AList fun _ : Key => Row} {differences : List (Change Key Row)}

/-- Two pairs of tables with the same differences have the same lists of them, up to order. -/
theorem perm_of_mem_iff {before' after' : AList fun _ : Key => Row}
    {differences' : List (Change Key Row)} (first : Exact before after differences)
    (second : Exact before' after' differences')
    (same : ∀ change, change ∈ differences ↔ change ∈ differences') :
    differences.Perm differences' :=
  (List.perm_ext_iff_of_nodup (.of_map _ first.distinct) (.of_map _ second.distinct)).mpr same

end Exact

theorem exact_changes [DecidableEq Row] (before after : AList fun _ : Key => Row) :
    Exact before after (changes before after) := by
  constructor
  · rw [changes, List.map_append, List.nodup_append]
    refine ⟨nodup_keys_filterMap _ _ (by simp +contextual [eq_comm]) before.nodupKeys,
      nodup_keys_filterMap _ _ (by simp +contextual [eq_comm]) after.nodupKeys, ?_⟩
    -- A key of the first part has no row afterwards, and a key of the second part has one.
    simp only [List.mem_map, List.mem_filterMap, Option.ite_none_right_eq_some,
      Option.ite_none_left_eq_some, Option.some.injEq]
    rintro _ ⟨_, ⟨entry, _, absent, rfl⟩, rfl⟩ _ ⟨_, ⟨entry', inAfter, _, rfl⟩, rfl⟩ same
    rw [show entry.1 = entry'.1 from same, mem_entries_iff.mp inAfter] at absent
    cases absent
  · rintro ⟨key, old, new⟩
    simp only [changes, List.mem_append, List.mem_filterMap, Option.ite_none_right_eq_some,
      Option.ite_none_left_eq_some, Option.some.injEq]
    constructor
    · rintro (⟨⟨source, row⟩, member, absent, ⟨⟩⟩ | ⟨⟨source, row⟩, member, different, ⟨⟩⟩)
      · exact ⟨mem_entries_iff.mp member, absent, nofun⟩
      · exact ⟨rfl, mem_entries_iff.mp member, different⟩
    · rintro ⟨isOld, isNew, different⟩
      cases new with
      | none =>
        obtain ⟨row, rfl⟩ := Option.ne_none_iff_exists'.mp different
        exact .inl ⟨⟨key, row⟩, mem_entries_iff.mpr isOld, isNew, rfl⟩
      | some row =>
        exact .inr ⟨⟨key, row⟩, mem_entries_iff.mpr isNew, isOld ▸ different, by rw [isOld]⟩

/-! ## Writing changes -/

theorem lookup_apply_of_not_mem (untouched : key ∉ list.map Change.key) :
    (apply table list).lookup key = table.lookup key := by
  induction list generalizing table with
  | nil => rfl
  | cons change rest ih =>
    simp only [List.map_cons, List.mem_cons, not_or] at untouched
    rw [apply, List.foldl_cons, ← apply, ih untouched.2, lookup_write,
      if_neg untouched.1]

theorem lookup_apply_of_mem (distinct : (list.map Change.key).Nodup) (member : change ∈ list) :
    (apply table list).lookup change.key = change.after := by
  induction list generalizing table with
  | nil => cases member
  | cons first rest ih =>
    obtain ⟨isNew, restDistinct⟩ := List.nodup_cons.mp distinct
    rw [apply, List.foldl_cons, ← apply]
    rcases List.mem_cons.mp member with rfl | inRest
    · rw [lookup_apply_of_not_mem isNew, lookup_write, if_pos rfl]
    · exact ih restDistinct inRest

theorem Exact.lookup_apply_of_eq
    (exact_ : Exact before after differences) (same : before.lookup key = after.lookup key) :
    (Table.apply table differences).lookup key = table.lookup key := by
  refine lookup_apply_of_not_mem fun touched => ?_
  obtain ⟨change, member, rfl⟩ := List.mem_map.mp touched
  obtain ⟨isOld, isNew, different⟩ := (exact_.mem_iff change).mp member
  exact different (isOld.symm.trans (same.trans isNew))

theorem Exact.lookup_apply_of_ne
    (exact_ : Exact before after differences) (different : before.lookup key ≠ after.lookup key) :
    (Table.apply table differences).lookup key = after.lookup key := by
  have member := (exact_.mem_iff ⟨key, before.lookup key, after.lookup key⟩).mpr
    ⟨rfl, rfl, different⟩
  exact lookup_apply_of_mem exact_.distinct member

/-- **Writing the differences of two tables** turns the first into the second. -/
theorem Exact.apply (exact_ : Exact before after differences) (same : Same table before) :
    Same (Table.apply table differences) after := by
  intro key
  by_cases unchanged : before.lookup key = after.lookup key
  · rw [exact_.lookup_apply_of_eq unchanged, same key, unchanged]
  · exact exact_.lookup_apply_of_ne unchanged

/-- Two pairs of tables that differ in the same places and in the same way have the same
changes. -/
theorem changes_perm [DecidableEq Row] {before' after' : AList fun _ : Key => Row} (same : ∀ key,
      (before.lookup key = after.lookup key ∧ before'.lookup key = after'.lookup key) ∨
        (before.lookup key = before'.lookup key ∧ after.lookup key = after'.lookup key)) :
    (changes before after).Perm (changes before' after') := by
  refine (exact_changes before after).perm_of_mem_iff (exact_changes before' after') ?_
  intro change
  rw [(exact_changes before after).mem_iff, (exact_changes before' after').mem_iff]
  rcases same change.key with ⟨unchanged, unchanged'⟩ | ⟨sameBefore, sameAfter⟩
  · constructor
    · rintro ⟨isOld, isNew, different⟩
      exact absurd (isOld.symm.trans (unchanged.trans isNew)) different
    · rintro ⟨isOld, isNew, different⟩
      exact absurd (isOld.symm.trans (unchanged'.trans isNew)) different
  · rw [sameBefore, sameAfter]

/-- Changes can be written in any order. -/
theorem same_apply_of_perm {first second : List (Change Key Row)}
    (distinct : (first.map Change.key).Nodup) (isPerm : first.Perm second) :
    Same (apply table first) (apply table second) := by
  intro key
  have distinct' : (second.map Change.key).Nodup := (isPerm.map Change.key).nodup_iff.mp distinct
  by_cases touched : key ∈ first.map Change.key
  · obtain ⟨change, member, rfl⟩ := List.mem_map.mp touched
    rw [lookup_apply_of_mem distinct member,
      lookup_apply_of_mem distinct' (isPerm.mem_iff.mp member)]
  · have untouched : key ∉ second.map Change.key :=
      fun member => touched ((isPerm.map Change.key).mem_iff.mpr member)
    rw [lookup_apply_of_not_mem touched, lookup_apply_of_not_mem untouched]

/-- What is visible comes from the part, and the rest from the table. -/
def Patched (visible : Key → Bool) (table part whole : AList fun _ : Key => Row) : Prop :=
  ∀ key, whole.lookup key = if visible key then part.lookup key else table.lookup key

theorem patched_filter (visible : Key → Bool) (table : AList fun _ : Key => Row) :
    Patched visible table (filter (fun key _ => visible key) table) table := by
  intro key
  rw [lookup_filter]
  cases table.lookup key <;> cases visible key <;> simp [Option.filter]

theorem Patched.filterMap {visible : Key → Bool} {part : AList fun _ : Key => Row}
    (patched : Patched visible table part whole) (choose : Key → Row → Option Result) :
    Patched visible (filterMap choose table) (filterMap choose part) (filterMap choose whole) := by
  intro key
  simp only [lookup_filterMap, patched key]
  split <;> rfl

theorem Patched.insert {visible : Key → Bool} {part : AList fun _ : Key => Row}
    (patched : Patched visible table part whole) {key : Key} (isVisible : visible key = true)
    (row : Row) : Patched visible table (part.insert key row) (whole.insert key row) := by
  intro other
  by_cases same : other = key
  · subst same
    rw [isVisible, if_pos rfl, AList.lookup_insert, AList.lookup_insert]
  · rw [AList.lookup_insert_ne same, AList.lookup_insert_ne same, patched other]

theorem Patched.elim {visible : Key → Bool} {part : AList fun _ : Key => Row}
    (patched : Patched visible table part whole) {holds : Key → Row → Prop}
    (inTable : ∀ {key row}, table.lookup key = some row → holds key row)
    (inPart : ∀ {key row}, part.lookup key = some row → holds key row)
    (present : whole.lookup key = some row) : holds key row := by
  rw [patched key] at present
  split at present
  · exact inPart present
  · exact inTable present

/-- An edit of the visible part of a table: the part is loaded, edited where it is visible, and the
whole table is patched. -/
structure LocalEdit (visible : Key → Bool) (table before after whole : AList fun _ : Key => Row) :
    Prop where
  loaded : ∀ key, before.lookup key = if visible key then table.lookup key else none
  patched : Patched visible table after whole
  seen : ∀ {key}, before.lookup key ≠ after.lookup key → visible key = true

section LocalEdit

variable {visible : Key → Bool} {table before after whole : AList fun _ : Key => Row}
variable (edit : LocalEdit visible table before after whole)
include edit

theorem LocalEdit.hidden (isHidden : visible key = false) :
    after.lookup key = none := by
  by_contra present
  have loaded := edit.loaded key
  rw [isHidden, if_neg (by simp)] at loaded
  have isVisible := edit.seen (loaded ▸ Ne.symm present)
  rw [isHidden] at isVisible
  cases isVisible

theorem LocalEdit.whole_of_after (present : after.lookup key = some row) :
    whole.lookup key = some row := by
  cases isVisible : visible key with
  | true => rw [edit.patched key, isVisible, if_pos rfl, present]
  | false =>
    rw [edit.hidden isVisible] at present
    cases present

theorem LocalEdit.changes_perm [DecidableEq Row] {wholeBefore : AList fun _ : Key => Row}
    (same : Same wholeBefore table) :
    (changes before after).Perm (changes wholeBefore whole) := by
  refine Table.changes_perm fun key => ?_
  rw [edit.loaded key, edit.patched key, same key]
  cases isVisible : visible key with
  | true => exact .inr ⟨rfl, rfl⟩
  | false => exact .inl ⟨(edit.hidden isVisible).symm, rfl⟩

end LocalEdit

/-- The table has the old rows where something changes. -/
def Agrees (table before after : AList fun _ : Key => Row) : Prop :=
  ∀ key, before.lookup key ≠ after.lookup key → table.lookup key = before.lookup key

theorem Agrees.of_same (same : Same table before)
    (after : AList fun _ : Key => Row) : Agrees table before after := fun key _ => same key

theorem Exact.old (exact_ : Exact before after differences) (agrees : Agrees table before after)
    (member : change ∈ differences) : table.lookup change.key = change.before := by
  obtain ⟨isOld, isNew, different⟩ := (exact_.mem_iff change).mp member
  rw [← isOld]
  refine agrees change.key ?_
  rw [isOld, isNew]
  exact different

theorem Exact.new (exact_ : Exact before after differences) (member : change ∈ differences) :
    (Table.apply table differences).lookup change.key = change.after :=
  lookup_apply_of_mem exact_.distinct member

/-! ## Counting rows -/

/-- How many rows have a property. -/
def count (holds : Key → Row → Bool) (table : AList fun _ : Key => Row) : Nat :=
  table.entries.countP fun entry => holds entry.1 entry.2

/-- One if there is a row of the kind, else zero. -/
def weight (holds : Key → Row → Bool) (key : Key) : Option Row → Nat
  | some row => if holds key row then 1 else 0
  | none => 0

theorem Same.count (same : Same first second)
    (holds : Key → Row → Bool) : count holds first = count holds second :=
  same.perm.countP_eq _

theorem entries_perm_erase (present : table.lookup key = some row) :
    table.entries.Perm (⟨key, row⟩ :: (table.erase key).entries) := by
  have member := mem_entries_iff.mpr present
  obtain ⟨other, before, after, -, listed, erased⟩ :=
    List.exists_of_kerase (List.mem_keys_of_mem member)
  have same : row = other :=
    Option.some.inj (present.symm.trans (mem_entries_iff.mp (by simp [listed])))
  rw [same, show (table.erase key).entries = _ from erased, listed]
  exact List.perm_middle

theorem count_erase (holds : Key → Row → Bool) (table : AList fun _ : Key => Row) (key : Key) :
    count holds (table.erase key) + weight holds key (table.lookup key) = count holds table := by
  cases present : table.lookup key with
  | none =>
    have unchanged : (table.erase key).entries = table.entries :=
      List.kerase_of_notMem_keys (AList.lookup_eq_none.mp present)
    rw [count, unchanged]
    rfl
  | some row =>
    rw [count, count, (entries_perm_erase present).countP_eq, List.countP_cons, weight]

theorem count_write (holds : Key → Row → Bool) (table : AList fun _ : Key => Row) (key : Key)
    (row : Option Row) :
    count holds (write table key row) + weight holds key (table.lookup key) =
      count holds table + weight holds key row := by
  have erased := count_erase holds (write table key row) key
  have unchanged : Same ((write table key row).erase key) (table.erase key) := by
    intro other
    by_cases same : other = key
    · rw [same, AList.lookup_erase, AList.lookup_erase]
    · rw [AList.lookup_erase_ne same, AList.lookup_erase_ne same, lookup_write, if_neg same]
  have before := count_erase holds table key
  rw [unchanged.count, lookup_write, if_pos rfl] at erased
  omega

theorem count_le (holds : Key → Row → Bool) (first second : AList fun _ : Key => Row)
    (extra : List Key)
    (found : ∀ key row, second.lookup key = some row → holds key row = true →
      key ∈ extra ∨ ∃ row', first.lookup key = some row' ∧ holds key row' = true) :
    count holds second ≤ count holds first + extra.length := by
  let keysOf (table : AList fun _ : Key => Row) : List Key :=
    (table.entries.filter fun entry => holds entry.1 entry.2).map Sigma.fst
  have counted (table : AList fun _ : Key => Row) : count holds table = (keysOf table).length := by
    simp [keysOf, count, List.countP_eq_length_filter]
  have distinct : (keysOf second).Nodup :=
    second.nodupKeys.sublist List.filter_sublist
  have included : keysOf second ⊆ extra ++ keysOf first := by
    intro key member
    obtain ⟨⟨_, row⟩, isListed, rfl⟩ := List.mem_map.mp member
    obtain ⟨isEntry, isHeld⟩ := List.mem_filter.mp isListed
    refine List.mem_append.mpr ((found _ row (mem_entries_iff.mp isEntry) isHeld).imp_right ?_)
    rintro ⟨row', isRow, isHeld'⟩
    exact List.mem_map.mpr
      ⟨⟨_, row'⟩, List.mem_filter.mpr ⟨mem_entries_iff.mpr isRow, isHeld'⟩, rfl⟩
  rw [counted, counted, Nat.add_comm, ← List.length_append]
  exact (List.subperm_of_subset distinct included).length_le

/-- **Counting after changes**: every change takes the old row out and puts the new one in. -/
theorem count_apply (holds : Key → Row → Bool) (distinct : (list.map Change.key).Nodup)
    (old : ∀ change ∈ list, table.lookup change.key = change.before) :
    count holds (apply table list) +
        (list.map fun change => weight holds change.key change.before).sum =
      count holds table + (list.map fun change => weight holds change.key change.after).sum := by
  induction list generalizing table with
  | nil => rfl
  | cons change rest ih =>
    obtain ⟨isNew, restDistinct⟩ := List.nodup_cons.mp distinct
    have written := count_write holds table change.key change.after
    have oldRest : ∀ other ∈ rest,
        (write table change.key change.after).lookup other.key = other.before := by
      intro other member
      have different : other.key ≠ change.key :=
        fun same => isNew (List.mem_map.mpr ⟨other, member, same⟩)
      rw [lookup_write, if_neg different]
      exact old other (List.mem_cons_of_mem _ member)
    have rest' := ih restDistinct oldRest
    rw [old change List.mem_cons_self] at written
    simp only [apply, List.foldl_cons, List.map_cons, List.sum_cons] at rest' ⊢
    omega

theorem sum_weight_le_count (holds : Key → Row → Bool) (distinct : (list.map Change.key).Nodup)
    (old : ∀ change ∈ list, table.lookup change.key = change.before) :
    (list.map fun change => weight holds change.key change.before).sum ≤ count holds table := by
  -- Take every row out.
  let removals : List (Change Key Row) := list.map fun change => ⟨change.key, change.before, none⟩
  have removed := count_apply holds (show (removals.map Change.key).Nodup by
    simpa [removals, Function.comp_def] using distinct) (show ∀ change ∈ removals,
      table.lookup change.key = change.before by simpa [removals] using old)
  have nothing : ∀ key, weight holds key none = 0 := fun _ => rfl
  simp only [removals, List.map_map, Function.comp_def, nothing, List.map_const',
    List.sum_replicate, smul_zero] at removed
  omega

omit [DecidableEq Key] in
theorem sum_weight_inserts (holds : Key → Row → Bool) (table : AList fun _ : Key => Row) :
    ((inserts table).map fun change => weight holds change.key change.after).sum =
      count holds table := by
  rw [count, inserts, List.map_map, Function.comp_def]
  induction table.entries with
  | nil => rfl
  | cons entry rest ih =>
    rw [List.map_cons, List.sum_cons, List.countP_cons, ih, weight, Nat.add_comm]

/-! ## Adding rows under new keys -/

/-- Add rows one after the other, as long as each has a new key. -/
def insertFresh (table : AList fun _ : Key => Row) :
    List (Key × Row) → Option (AList fun _ : Key => Row)
  | [] => some table
  | (key, row) :: rest =>
    if (table.lookup key).isSome then none else insertFresh (table.insert key row) rest

theorem insertFresh_append (table : AList fun _ : Key => Row) (first second : List (Key × Row)) :
    insertFresh table (first ++ second) =
      (insertFresh table first).bind (insertFresh · second) := by
  induction first generalizing table with
  | nil => rfl
  | cons pair rest ih =>
    obtain ⟨key, row⟩ := pair
    simp only [List.cons_append, insertFresh]
    split
    · rfl
    · exact ih _

/-- The table after new rows were added under new keys. -/
structure Inserted (table : AList fun _ : Key => Row) (rows : List (Key × Row))
    (after : AList fun _ : Key => Row) : Prop where
  distinct : (rows.map Prod.fst).Nodup
  absent : ∀ pair ∈ rows, table.lookup pair.1 = none
  lookup_iff : ∀ key row, after.lookup key = some row ↔
    table.lookup key = some row ∨ (key, row) ∈ rows

theorem inserted_of_insertFresh (added : insertFresh table rows = some after) :
    Inserted table rows after := by
  induction rows generalizing table with
  | nil =>
    cases added
    exact ⟨List.nodup_nil, nofun, by simp⟩
  | cons pair rest ih =>
    obtain ⟨key, row⟩ := pair
    rw [insertFresh] at added
    split at added
    · cases added
    next isNew =>
    have absent : table.lookup key = none := by simpa using isNew
    obtain ⟨distinct, absentRest, lookup_iff⟩ := ih added
    have notKey : ∀ pair ∈ rest, pair.1 ≠ key := by
      intro pair member same
      have absentPair := absentRest pair member
      rw [same, AList.lookup_insert] at absentPair
      cases absentPair
    refine ⟨List.nodup_cons.mpr ⟨fun isOld => ?_, distinct⟩, ?_, fun other value => ?_⟩
    · obtain ⟨pair, member, same⟩ := List.mem_map.mp isOld
      exact notKey pair member same
    · rintro pair member
      rcases List.mem_cons.mp member with rfl | inRest
      · exact absent
      · rw [← AList.lookup_insert_ne (notKey pair inRest)]
        exact absentRest pair inRest
    · rw [lookup_iff, List.mem_cons]
      by_cases same : other = key
      · subst same
        simp [absent, eq_comm]
      · simp [AList.lookup_insert_ne same, same]

theorem insertFresh_ok (distinct : (rows.map Prod.fst).Nodup)
    (absent : ∀ pair ∈ rows, table.lookup pair.1 = none) :
    ∃ after, insertFresh table rows = some after := by
  induction rows generalizing table with
  | nil => exact ⟨table, rfl⟩
  | cons pair rest ih =>
    obtain ⟨key, row⟩ := pair
    obtain ⟨isNew, restDistinct⟩ := List.nodup_cons.mp distinct
    have isAbsent := absent (key, row) List.mem_cons_self
    have absentRest : ∀ pair ∈ rest, (table.insert key row).lookup pair.1 = none := by
      intro pair member
      have different : pair.1 ≠ key := fun same => isNew (List.mem_map.mpr ⟨pair, member, same⟩)
      rw [AList.lookup_insert_ne different]
      exact absent pair (List.mem_cons_of_mem _ member)
    rw [insertFresh, if_neg (by simp only [isAbsent, Option.isSome_none, Bool.false_eq_true,
      not_false_eq_true])]
    exact ih restDistinct absentRest

/-! ## Listing by key -/

/-- The rows in the order of their keys. -/
def sorted (le : Key → Key → Bool) (table : AList fun _ : Key => Row) : List (Key × Row) :=
  (table.entries.map fun entry => (entry.1, entry.2)).mergeSort
    fun first second => le first.1 second.1

/-- The table of the rows; later ones win. -/
def collect (rows : List (Key × Row)) : AList fun _ : Key => Row :=
  rows.foldl (fun table row => table.insert row.1 row.2) ∅

omit [DecidableEq Key] in
theorem sorted_perm (le : Key → Key → Bool) (table : AList fun _ : Key => Row) :
    (sorted le table).Perm (table.entries.map fun entry => (entry.1, entry.2)) :=
  List.mergeSort_perm _ _

theorem mem_sorted {le : Key → Key → Bool} :
    (key, row) ∈ sorted le table ↔ table.lookup key = some row := by
  rw [(sorted_perm le table).mem_iff, List.mem_map, ← mem_entries_iff]
  constructor
  · rintro ⟨⟨_, _⟩, member, same⟩
    cases same
    exact member
  · exact fun member => ⟨_, member, rfl⟩

theorem Same.sorted {le : Key → Key → Bool}
    (trans : ∀ first second third, le first second = true → le second third = true →
      le first third = true) (total : ∀ first second, (le first second || le second first) = true)
    (antisymm : ∀ first second, le first second = true → le second first = true → first = second)
    (same : Same first second) :
    Table.sorted le first = Table.sorted le second := by
  have ordered : ∀ table : AList fun _ : Key => Row,
      (Table.sorted le table).Pairwise fun before after => le before.1 after.1 = true :=
    fun table => List.pairwise_mergeSort (fun first second third => trans first.1 second.1 third.1)
      (fun first second => total first.1 second.1) _
  refine List.Perm.eq_of_pairwise ?_ (ordered first) (ordered second)
    (((sorted_perm le first).trans (same.perm.map _)).trans (sorted_perm le second).symm)
  rintro ⟨key, row⟩ ⟨other, otherRow⟩ member otherMember before after
  have sameKey : key = other := antisymm _ _ before after
  subst sameKey
  have found : first.lookup key = some row := mem_sorted.mp member
  rw [same key, mem_sorted.mp otherMember] at found
  cases found
  rfl

theorem lookup_collect (distinct : (rows.map Prod.fst).Nodup) (key : Key) (row : Row) :
    (collect rows).lookup key = some row ↔ (key, row) ∈ rows := by
  let added : List (Change Key Row) := rows.map fun row => ⟨row.1, none, some row.2⟩
  have isApplied : collect rows = apply ∅ added := by rw [apply, List.foldl_map]; rfl
  have sameKeys : added.map Change.key = rows.map Prod.fst := by simp [added, Function.comp_def]
  have found : ∀ {row}, (key, row) ∈ rows → (collect rows).lookup key = some row := fun member =>
    isApplied ▸ lookup_apply_of_mem (sameKeys ▸ distinct) (List.mem_map_of_mem member)
  refine ⟨fun present => ?_, found⟩
  by_cases touched : key ∈ rows.map Prod.fst
  · obtain ⟨⟨_, other⟩, member, rfl⟩ := List.mem_map.mp touched
    rwa [Option.some.inj (present.symm.trans (found member))]
  · rw [isApplied, lookup_apply_of_not_mem (sameKeys ▸ touched)] at present
    cases present

theorem same_collect_sorted (le : Key → Key → Bool) (table : AList fun _ : Key => Row) :
    Same (collect (sorted le table)) table := by
  have distinct : ((sorted le table).map Prod.fst).Nodup := by
    rw [((sorted_perm le table).map Prod.fst).nodup_iff, List.map_map]
    exact table.nodupKeys
  intro key
  ext row
  rw [lookup_collect distinct, mem_sorted]

end Table
