import Mathlib

/-!
# Binary heaps kept in a list

The slice-backed binary heap of a standard library: `push` appends and sifts up, `pop` swaps the
root with the last element, sifts the new root down over the shortened range and takes the last
element off.  Positions are those of the usual level order, so the parent of `j` is `(j - 1) / 2`.

Both sifting loops are written with a bound on the number of rounds.  A round of `up` at position
`j` moves to a smaller position and a round of `down` moves to a larger one, so the length of the
list bounds both.

The laws of a pop hold for any comparison: `pop_perm` accounts for every element, `pop_head` says
that the element returned stood at the root, and `pop_isSome` that a heap with a root can be popped.
For a comparison by a key, `push_ordered` and `pop_ordered` say that the heap stays ordered, so that
the root has the least key (`Ordered.root_least`).  While an element is sifted the order fails only
beside its position (`Sifting`).
-/

namespace BinaryHeap

universe u

variable {α : Type u}

/-- Exchange the elements at two positions; a position outside the list leaves it unchanged. -/
def swap (heap : List α) (i j : Nat) : List α :=
  match heap[i]?, heap[j]? with
  | some left, some right => (heap.set i right).set j left
  | _, _ => heap

/-- `less` on the elements at two positions. -/
def lessAt (less : α → α → Bool) (heap : List α) (i j : Nat) : Bool :=
  match heap[i]?, heap[j]? with
  | some left, some right => less left right
  | _, _ => false

/-- Sift the element at `j` towards the root. -/
def up (less : α → α → Bool) : Nat → List α → Nat → List α
  | 0, heap, _ => heap
  | rounds + 1, heap, j =>
    let i := (j - 1) / 2
    if i = j ∨ lessAt less heap j i = false then heap
    else up less rounds (swap heap i j) i

/-- The child of `i` that `down` compares with `i`: the right one only if it exists and is less
than the left one. -/
def smallerChild (less : α → α → Bool) (n : Nat) (heap : List α) (i : Nat) : Nat :=
  let left := 2 * i + 1
  if left + 1 < n ∧ lessAt less heap (left + 1) left = true then left + 1 else left

/-- Sift the element at `i` towards the leaves, within the first `n` positions. -/
def down (less : α → α → Bool) (n : Nat) : Nat → List α → Nat → List α
  | 0, heap, _ => heap
  | rounds + 1, heap, i =>
    if n ≤ 2 * i + 1 ∨ lessAt less heap (smallerChild less n heap i) i = false then heap
    else down less n rounds (swap heap i (smallerChild less n heap i)) (smallerChild less n heap i)

/-- Append an element and sift it up. -/
def push (less : α → α → Bool) (heap : List α) (value : α) : List α :=
  up less (heap.length + 1) (heap ++ [value]) heap.length

/-- Remove the root: swap it with the last element, sift the new root down over the other
positions, and take the last element off. -/
def pop (less : α → α → Bool) (heap : List α) : Option (α × List α) :=
  let n := heap.length - 1
  let sifted := down less n heap.length (swap heap 0 n) 0
  match sifted.getLast? with
  | some value => some (value, sifted.dropLast)
  | none => none

/-! ## What sifting keeps -/

theorem swap_perm (heap : List α) (i j : Nat) : (swap heap i j).Perm heap := by
  unfold swap
  split
  · next left right atLeft atRight =>
    obtain ⟨leftBound, rfl⟩ := List.getElem?_eq_some_iff.mp atLeft
    obtain ⟨rightBound, rfl⟩ := List.getElem?_eq_some_iff.mp atRight
    exact List.set_set_perm leftBound rightBound
  · exact .refl _

theorem length_swap (heap : List α) (i j : Nat) : (swap heap i j).length = heap.length :=
  (swap_perm heap i j).length_eq

theorem up_perm (less : α → α → Bool) (rounds : Nat) (heap : List α) (i : Nat) :
    (up less rounds heap i).Perm heap := by
  induction rounds generalizing heap i with
  | zero => exact .refl _
  | succ rounds ih =>
    simp only [up]
    split
    · exact .refl _
    · exact (ih _ _).trans (swap_perm _ _ _)

theorem down_perm (less : α → α → Bool) (n rounds : Nat) (heap : List α) (i : Nat) :
    (down less n rounds heap i).Perm heap := by
  induction rounds generalizing heap i with
  | zero => exact .refl _
  | succ rounds ih =>
    simp only [down]
    split
    · exact .refl _
    · exact (ih _ _).trans (swap_perm _ _ _)

theorem push_perm (less : α → α → Bool) (heap : List α) (value : α) :
    (push less heap value).Perm (value :: heap) :=
  (up_perm less _ _ _).trans (List.perm_append_singleton value heap)

theorem swap_getElem?_of_ne (heap : List α) {i j position : Nat}
    (notLeft : position ≠ i) (notRight : position ≠ j) :
    (swap heap i j)[position]? = heap[position]? := by
  unfold swap
  split
  · rw [List.getElem?_set_ne (Ne.symm notRight), List.getElem?_set_ne (Ne.symm notLeft)]
  · rfl

theorem smallerChild_bounds (less : α → α → Bool) {n i : Nat} (heap : List α)
    (leftInside : 2 * i + 1 < n) :
    i < smallerChild less n heap i ∧ smallerChild less n heap i < n := by
  simp only [smallerChild]
  split <;> omega

/-- Sifting down within the first `n` positions leaves every later position alone. -/
theorem down_getElem?_outside (less : α → α → Bool) {n position : Nat} (outside : n ≤ position)
    (rounds : Nat) (heap : List α) (i : Nat) :
    (down less n rounds heap i)[position]? = heap[position]? := by
  induction rounds generalizing heap i with
  | zero => rfl
  | succ rounds ih =>
    simp only [down]
    split
    · rfl
    · next continues =>
      have bounds := smallerChild_bounds less heap (n := n) (i := i) (by omega)
      rw [ih, swap_getElem?_of_ne heap (by omega) (by omega)]

/-! ## Pop -/

/-- The list from which `pop` takes the last element. -/
theorem sifted_perm (less : α → α → Bool) (n rounds : Nat) (heap : List α) :
    (down less n rounds (swap heap 0 n) 0).Perm heap :=
  (down_perm less n rounds _ 0).trans (swap_perm heap 0 n)

/-- **A pop removes exactly the element it returns.** -/
theorem pop_perm {less : α → α → Bool} {heap rest : List α} {value : α}
    (popped : pop less heap = some (value, rest)) : heap.Perm (value :: rest) := by
  have kept := sifted_perm less (heap.length - 1) heap.length heap
  simp only [pop] at popped
  split at popped
  · next last atLast =>
    simp only [Option.some.injEq, Prod.mk.injEq] at popped
    obtain ⟨rfl, rfl⟩ := popped
    refine kept.symm.trans ?_
    nth_rewrite 1 [← List.dropLast_append_getLast? last (Option.mem_def.mpr atLast)]
    exact List.perm_append_singleton last _
  · exact absurd popped (by simp)

/-- **A pop returns the element at the root.** -/
theorem pop_head {less : α → α → Bool} {root : α} {tail rest : List α} {value : α}
    (popped : pop less (root :: tail) = some (value, rest)) : value = root := by
  have lengthKept := (sifted_perm less tail.length (tail.length + 1) (root :: tail)).length_eq
  simp only [pop, List.length_cons, Nat.add_sub_cancel] at popped
  split at popped
  · next last atLast =>
    simp only [Option.some.injEq, Prod.mk.injEq] at popped
    obtain ⟨rfl, -⟩ := popped
    rw [List.getLast?_eq_getElem?, lengthKept, List.length_cons, Nat.add_sub_cancel,
      down_getElem?_outside less (Nat.le_refl _)] at atLast
    -- The root was swapped into the last position, and sifting did not reach it.
    simp only [swap, List.getElem?_cons_zero] at atLast
    split at atLast
    · next left right atRoot _ =>
      rw [List.getElem?_set_self (by simp)] at atLast
      simp_all
    · next absent =>
      have lastPresent : (root :: tail)[tail.length]? = some last := atLast
      exact absurd lastPresent (absent root last rfl)
  · exact absurd popped (by simp)

/-- A heap with a root can be popped. -/
theorem pop_isSome (less : α → α → Bool) (root : α) (tail : List α) :
    ∃ rest, pop less (root :: tail) = some (root, rest) := by
  have kept := sifted_perm less tail.length (tail.length + 1) (root :: tail)
  cases result : pop less (root :: tail) with
  | some taken =>
    obtain ⟨value, rest⟩ := taken
    exact ⟨rest, by rw [pop_head result]⟩
  | none =>
    simp only [pop, List.length_cons, Nat.add_sub_cancel] at result
    split at result
    · exact absurd result (by simp)
    · next atLast =>
      rw [List.getLast?_eq_none_iff.mp atLast] at kept
      exact absurd kept.nil_eq (by simp)

/-! ## The order of the heap -/

section Order

variable {β : Type*} [LinearOrder β] (key : α → β) {heap rest : List α} {n hole : Nat}

/-- The comparison of elements by a key. -/
abbrev byKey (left right : α) : Bool :=
  key left < key right

/-- The key at a position; a position outside the list counts as greatest. -/
def keyAt (heap : List α) (i : Nat) : WithTop β :=
  heap[i]?.elim ⊤ fun value => key value

/-- Within the first `n` positions no key is less than the key of its parent. -/
def Ordered (n : Nat) (heap : List α) : Prop :=
  ∀ i, 0 < i → i < n → keyAt key heap ((i - 1) / 2) ≤ keyAt key heap i

/-- The order while an element is sifted: it may fail at the positions in `broken`, and the
children of the element's position are in order with its parent. -/
structure Sifting (n : Nat) (heap : List α) (hole : Nat) (broken : Nat → Prop) : Prop where
  others : ∀ i, 0 < i → i < n → ¬ broken i → keyAt key heap ((i - 1) / 2) ≤ keyAt key heap i
  children : 0 < hole → ∀ i, 0 < i → i < n → (i - 1) / 2 = hole →
    keyAt key heap ((hole - 1) / 2) ≤ keyAt key heap i

variable {key}

theorem lessAt_iff {i j : Nat} (inside : j < heap.length) :
    lessAt (byKey key) heap i j = true ↔ keyAt key heap i < keyAt key heap j := by
  unfold lessAt keyAt
  rw [List.getElem?_eq_getElem inside]
  cases heap[i]? <;> simp [byKey]

omit [LinearOrder β] in
theorem keyAt_swap (key : α → β) {i j : Nat} (left : i < heap.length)
    (right : j < heap.length) (position : Nat) :
    keyAt key (swap heap i j) position =
      if position = i then keyAt key heap j
      else if position = j then keyAt key heap i else keyAt key heap position := by
  simp only [keyAt, swap, List.getElem?_eq_getElem left, List.getElem?_eq_getElem right]
  grind

/-- **Sifting up restores the order.** -/
theorem up_ordered (rounds : Nat) (heap : List α) (hole : Nat) (enough : hole < rounds)
    (inside : hole < heap.length) (sifting : Sifting key heap.length heap hole (· = hole)) :
    Ordered key heap.length (up (byKey key) rounds heap hole) := by
  induction rounds generalizing heap hole with
  | zero => omega
  | succ rounds ih =>
    simp only [up]
    split
    · next stops =>
      intro i positive bound
      by_cases isHole : i = hole
      · subst isHole
        rcases stops with root | inOrder
        · omega
        · rw [Bool.eq_false_iff, ne_eq, lessAt_iff (by omega), not_lt] at inOrder
          exact inOrder
      · exact sifting.others i positive bound isHole
    · next continues =>
      rw [not_or, Bool.not_eq_false, lessAt_iff (by omega)] at continues
      obtain ⟨notRoot, less⟩ := continues
      rw [← length_swap heap ((hole - 1) / 2) hole]
      have inside' : (hole - 1) / 2 < heap.length := by omega
      refine ih _ _ (by omega) (by rwa [length_swap]) ⟨?_, ?_⟩
      · intro i positive bound notHole
        rw [length_swap] at bound
        have others := sifting.others i positive bound
        have children := sifting.children (by omega) i positive bound
        simp only [keyAt_swap key inside' inside]
        grind
      · intro below i positive bound isChild
        rw [length_swap] at bound
        have others := sifting.others i positive bound
        have parent := sifting.others ((hole - 1) / 2) below inside' (by omega)
        simp only [keyAt_swap key inside' inside]
        grind

theorem smallerChild_least (key : α → β) (inside : n ≤ heap.length)
    (leftInside : 2 * hole + 1 < n) {i : Nat} (positive : 0 < i) (bound : i < n)
    (isChild : (i - 1) / 2 = hole) :
    keyAt key heap (smallerChild (byKey key) n heap hole) ≤ keyAt key heap i := by
  simp only [smallerChild, lessAt_iff (show 2 * hole + 1 < heap.length by omega)]
  grind

/-- **Sifting down restores the order.** -/
theorem down_ordered (rounds : Nat) (heap : List α) (hole : Nat) (enough : n ≤ hole + rounds)
    (inside : n ≤ heap.length) (sifting : Sifting key n heap hole (fun i => (i - 1) / 2 = hole)) :
    Ordered key n (down (byKey key) n rounds heap hole) := by
  induction rounds generalizing heap hole with
  | zero => exact fun i positive bound => sifting.others i positive bound (by omega)
  | succ rounds ih =>
    simp only [down]
    split
    · next stops =>
      intro i positive bound
      by_cases isChild : (i - 1) / 2 = hole
      · have leftInside : 2 * hole + 1 < n := by omega
        have least := smallerChild_least key inside leftInside positive bound isChild
        have inOrder := stops.resolve_left (by omega)
        rw [Bool.eq_false_iff, ne_eq, lessAt_iff (by omega), not_lt] at inOrder
        exact isChild ▸ inOrder.trans least
      · exact sifting.others i positive bound isChild
    · next continues =>
      rw [not_or, Bool.not_eq_false, lessAt_iff (by omega)] at continues
      obtain ⟨leftInside, less⟩ := continues
      have least := fun i => smallerChild_least key (i := i) inside (not_le.mp leftInside)
      obtain ⟨below, bound⟩ := smallerChild_bounds (byKey key) heap (not_le.mp leftInside)
      have isParent : (smallerChild (byKey key) n heap hole - 1) / 2 = hole := by
        unfold smallerChild
        grind
      generalize smallerChild (byKey key) n heap hole = child at *
      have isSwapped := keyAt_swap key (show hole < heap.length by omega)
        (show child < heap.length by omega)
      refine ih _ _ (by omega) (by rwa [length_swap]) ⟨?_, ?_⟩
      · intro i positive isBound notChild
        have others := sifting.others i positive isBound
        have children : 0 < hole → _ := fun isBelow =>
          sifting.children isBelow child (by omega) bound isParent
        have least := least i positive isBound
        simp only [isSwapped]
        grind
      · intro _ i positive isBound isChild
        have others := sifting.others i positive isBound (by omega)
        simp only [isSwapped]
        grind

/-- A push keeps the order. -/
theorem push_ordered (ordered : Ordered key heap.length heap) (value : α) :
    Ordered key (push (byKey key) heap value).length (push (byKey key) heap value) := by
  have isLength : (heap ++ [value]).length = heap.length + 1 := by simp
  rw [(push_perm _ heap value).length_eq, List.length_cons, ← isLength]
  refine up_ordered _ _ _ (by omega) (by omega) ⟨?_, by omega⟩
  intro i positive bound notLast
  have kept : ∀ position < heap.length, keyAt key (heap ++ [value]) position =
      keyAt key heap position := by
    intro position inside
    rw [keyAt, List.getElem?_append_left inside, keyAt]
  rw [kept i (by omega), kept _ (by omega)]
  exact ordered i positive (by omega)

/-- A pop keeps the order. -/
theorem pop_ordered {value : α} (ordered : Ordered key heap.length heap)
    (popped : pop (byKey key) heap = some (value, rest)) : Ordered key rest.length rest := by
  have shorter := (pop_perm popped).length_eq
  have sifted := sifted_perm (byKey key) (heap.length - 1) heap.length heap
  simp only [List.length_cons] at shorter
  have restored : Ordered key (heap.length - 1)
      (down (byKey key) (heap.length - 1) heap.length (swap heap 0 (heap.length - 1)) 0) := by
    refine down_ordered _ _ _ (by omega) (by rw [length_swap]; omega) ⟨?_, by omega⟩
    intro i positive bound notChild
    have kept := ordered i positive (by omega)
    simp only [keyAt_swap key (show 0 < heap.length by omega)
      (show heap.length - 1 < heap.length by omega)]
    grind
  simp only [pop] at popped
  split at popped
  · cases popped
    intro i positive bound
    simp only [List.length_dropLast, sifted.length_eq] at bound
    simp only [keyAt, List.getElem?_dropLast, sifted.length_eq]
    rw [if_pos bound, if_pos (by omega)]
    exact restored i positive bound
  · cases popped

/-- **The root has the least key.** -/
theorem Ordered.root_least {root value : α} {tail : List α}
    (ordered : Ordered key (root :: tail).length (root :: tail)) (member : value ∈ root :: tail) :
    key root ≤ key value := by
  obtain ⟨position, bound, isValue⟩ := List.mem_iff_getElem.mp member
  have least : keyAt key (root :: tail) 0 ≤ keyAt key (root :: tail) position := by
    clear isValue
    induction position using Nat.strong_induction_on with
    | h position ih =>
      rcases Nat.eq_zero_or_pos position with rfl | positive
      · exact le_rfl
      · exact (ih _ (by omega) (by omega)).trans (ordered position positive bound)
  simpa [keyAt, List.getElem?_eq_getElem bound, isValue] using least

end Order

end BinaryHeap
