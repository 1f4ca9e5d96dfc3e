import Brezel.Service.Guest

/-!
# The books of guest operations

`Memory` reads an absent entry of `activeGuestOps` as no operation and an absent counter as zero.
This module keeps the two maps as the code does, with entries that are made and deleted by hand.

An acquisition enters an operation in both maps and hands out a closure that takes it out again; the
closure acts once, however often it is called.  In every run both maps agree with the operations
that are admitted and not released (`guest_accounting_exact`).
-/

namespace Brezel.Service

open Store

/-! ## The two maps -/

/-- `activeGuestOps`, without the cancel functions, and `activeGuestOpsByProject`. -/
structure GuestMaps where
  ops : AList fun _ : Key => Finset String
  byProject : AList fun _ : String => Int

namespace GuestMaps

/-- The admitted operations of a sandbox. -/
def operations (maps : GuestMaps) (key : Key) : Finset String := (maps.ops.lookup key).getD ∅

/-- The count of a project. -/
def running (maps : GuestMaps) (projectID : String) : Int :=
  (maps.byProject.lookup projectID).getD 0

/-- Enter an operation into both maps. -/
def enter (maps : GuestMaps) (key : Key) (operationID : String) : GuestMaps where
  ops := maps.ops.insert key (insert operationID (maps.operations key))
  byProject := maps.byProject.insert key.1 (maps.running key.1 + 1)

/-- What the release closure does to the maps. -/
def leave (maps : GuestMaps) (key : Key) (operationID : String) : GuestMaps where
  ops :=
    let left := (maps.operations key).erase operationID
    if left = ∅ then maps.ops.erase key else maps.ops.insert key left
  byProject :=
    if maps.running key.1 ≤ 1 then maps.byProject.erase key.1
    else maps.byProject.insert key.1 (maps.running key.1 - 1)

end GuestMaps

/-- A call of `acquireGuestOperation`: the sandbox, the new identifier, the first check before the
quota that fails, and the failure of the record of activity. -/
structure Acquisition where
  key : Key
  operationID : String
  refusal : Option ServiceError
  unrecorded : Option ServiceError

/-- The admission of `acquireGuestOperation`, as far as the maps decide. -/
def GuestMaps.acquire (limit : Int) (maps : GuestMaps) (acquisition : Acquisition) :
    Except ServiceError GuestMaps :=
  match acquisition.refusal with
  | some error => .error error
  | none =>
  if limit ≤ maps.running acquisition.key.1 then .error .quota
  else
    match acquisition.unrecorded with
    | some error => .error error
    | none => .ok (maps.enter acquisition.key acquisition.operationID)

/-! ## Interleavings -/

/-- The maps, the operations that are admitted and not released, and those that were released. -/
structure Books where
  maps : GuestMaps
  admitted : List (Key × String)
  released : List (Key × String)

/-- Nothing has been admitted yet. -/
def Books.empty : Books := ⟨⟨∅, ∅⟩, [], []⟩

/-- An admission, a release, or a cancellation. -/
inductive BookAction
  | acquire (acquisition : Acquisition)
  | release (operation : Key × String)
  | cancel (key : Key)

/-- One section of the mutex.  A closure exists once its operation is admitted; calling it again
does nothing, and cancelling the operations of a sandbox leaves them in the maps. -/
def Books.step (limit : Int) (books : Books) : BookAction → Option Books
  | .acquire acquisition =>
    match books.maps.acquire limit acquisition with
    | .error _ => some books
    | .ok maps =>
      some { books with
        maps := maps, admitted := (acquisition.key, acquisition.operationID) :: books.admitted }
  | .release operation =>
    if operation ∈ books.admitted then
      some ⟨books.maps.leave operation.1 operation.2, books.admitted.erase operation,
        operation :: books.released⟩
    else if operation ∈ books.released then some books
    else none
  | .cancel _ => some books

/-- The identifier of an acquisition is new. -/
def NewIdentifier (books : Books) : BookAction → Prop
  | .acquire acquisition =>
    acquisition.operationID ∉ (books.admitted ++ books.released).map (·.2)
  | _ => True

instance (books : Books) : (action : BookAction) → Decidable (NewIdentifier books action)
  | .acquire acquisition => inferInstanceAs (Decidable (acquisition.operationID ∉ _))
  | .release _ => isTrue trivial
  | .cancel _ => isTrue trivial

/-- The operations of a sandbox. -/
def operationsOf (admitted : List (Key × String)) (key : Key) : Finset String :=
  ((admitted.filter (·.1 = key)).map (·.2)).toFinset

/-- How many operations a project has in all its sandboxes. -/
def totalOf (admitted : List (Key × String)) (projectID : String) : Nat :=
  admitted.countP (·.1.1 = projectID)

/-- What a map has for a value: nothing for an empty one. -/
def kept {α : Type} [DecidableEq α] (empty value : α) : Option α :=
  if value = empty then none else some value

/-- The maps hold the unreleased operations and their number, and no empty entry. -/
structure Books.Exact (limit : Int) (books : Books) : Prop where
  operations : ∀ key, books.maps.ops.lookup key = kept ∅ (operationsOf books.admitted key)
  counters : ∀ projectID,
    books.maps.byProject.lookup projectID = kept 0 (totalOf books.admitted projectID : Int)
  bounded : ∀ projectID, (totalOf books.admitted projectID : Int) ≤ limit

/-! ## Steps -/

variable {limit : Int} {books : Books} {key : Key} {operationID : String}
  {admitted : List (Key × String)}

theorem getD_kept {α : Type} [DecidableEq α] (empty value : α) :
    (kept empty value).getD empty = value := by
  unfold kept
  split
  · next same => exact same.symm
  · rfl

theorem operationsOf_erase (once : admitted.Nodup) (other : Key) :
    operationsOf (admitted.erase (key, operationID)) other =
      if other = key then (operationsOf admitted key).erase operationID
      else operationsOf admitted other := by
  ext id
  by_cases same : other = key <;> simp [operationsOf, once.mem_erase_iff, same]

theorem totalOf_erase (member : (key, operationID) ∈ admitted) (projectID : String) :
    totalOf (admitted.erase (key, operationID)) projectID =
      totalOf admitted projectID - if key.1 = projectID then 1 else 0 := by
  simp [totalOf, List.countP_erase, member]

theorem Books.Exact.read (isExact : books.Exact limit) (key : Key) :
    books.maps.operations key = operationsOf books.admitted key ∧
      books.maps.running key.1 = totalOf books.admitted key.1 := by
  rw [GuestMaps.operations, isExact.operations, getD_kept, GuestMaps.running, isExact.counters,
    getD_kept]
  exact ⟨rfl, rfl⟩

theorem Books.Exact.enter (isExact : books.Exact limit) (room : books.maps.running key.1 < limit) :
    Books.Exact limit { books with
      maps := books.maps.enter key operationID,
      admitted := (key, operationID) :: books.admitted } := by
  obtain ⟨operations, running⟩ := isExact.read key
  refine ⟨fun other => ?_, fun projectID => ?_, fun projectID => ?_⟩
  · by_cases same : other = key
    · subst same
      simp [GuestMaps.enter, operations, operationsOf, kept]
    · simp [GuestMaps.enter, AList.lookup_insert_ne same, isExact.operations, operationsOf,
        Ne.symm same]
  · by_cases same : projectID = key.1
    · subst same
      have positive : (totalOf books.admitted key.1 : Int) + 1 ≠ 0 := by omega
      simpa [GuestMaps.enter, running, totalOf, kept] using positive
    · simp [GuestMaps.enter, AList.lookup_insert_ne same, isExact.counters, totalOf, Ne.symm same]
  · have before := isExact.bounded projectID
    by_cases same : key.1 = projectID
    · rw [running, totalOf, same] at room
      simpa [totalOf, same] using room
    · simpa [totalOf, same] using before

theorem Books.Exact.leave (isExact : books.Exact limit) (once : books.admitted.Nodup)
    (member : (key, operationID) ∈ books.admitted) (released : List (Key × String)) :
    Books.Exact limit ⟨books.maps.leave key operationID, books.admitted.erase (key, operationID),
      released⟩ := by
  obtain ⟨operations, running⟩ := isExact.read key
  have positive : 0 < totalOf books.admitted key.1 :=
    List.countP_pos_iff.mpr ⟨(key, operationID), member, decide_eq_true rfl⟩
  refine ⟨fun other => ?_, fun projectID => ?_, fun projectID => ?_⟩
  · rw [operationsOf_erase once, GuestMaps.leave, operations]
    dsimp only
    by_cases same : other = key
    · subst same
      rw [if_pos rfl, kept]
      split
      · exact AList.lookup_erase _ _
      · exact AList.lookup_insert _
    · rw [if_neg same, ← isExact.operations]
      split
      · exact AList.lookup_erase_ne same
      · exact AList.lookup_insert_ne same
  · rw [totalOf_erase member, GuestMaps.leave, running]
    dsimp only
    by_cases same : projectID = key.1
    · subst same
      rw [if_pos rfl, kept]
      split
      · rw [AList.lookup_erase, if_pos (by omega)]
      · rw [AList.lookup_insert, if_neg (by omega)]
        congr 1
        omega
    · rw [if_neg (Ne.symm same), Nat.sub_zero, ← isExact.counters]
      split
      · exact AList.lookup_erase_ne same
      · exact AList.lookup_insert_ne same
  · have before := isExact.bounded projectID
    rw [totalOf_erase member]
    omega

theorem GuestMaps.acquire_ok {maps after : GuestMaps} {acquisition : Acquisition} :
    maps.acquire limit acquisition = .ok after →
    maps.running acquisition.key.1 < limit ∧
      after = maps.enter acquisition.key acquisition.operationID := by
  fun_cases GuestMaps.acquire limit maps acquisition with
  | case4 _ room =>
    rintro ⟨⟩
    exact ⟨Int.not_le.mp room, rfl⟩
  | _ => rintro ⟨⟩

theorem Books.step_keeps {after : Books} {action : BookAction}
    (holds : books.Exact limit ∧ books.admitted.Nodup) (fresh : NewIdentifier books action)
    (taken : books.step limit action = some after) :
    after.Exact limit ∧ after.admitted.Nodup := by
  cases action with
  | acquire acquisition =>
    simp only [step] at taken
    split at taken
    · cases taken
      exact holds
    · next maps acquired =>
      cases taken
      obtain ⟨room, rfl⟩ := GuestMaps.acquire_ok acquired
      refine ⟨holds.1.enter room, List.nodup_cons.mpr ⟨fun member => fresh ?_, holds.2⟩⟩
      exact List.mem_map_of_mem (List.mem_append_left _ member)
  | release operation =>
    simp only [step] at taken
    split at taken
    · next member =>
      cases taken
      exact ⟨holds.1.leave holds.2 member _, holds.2.erase operation⟩
    · split at taken
      · cases taken
        exact holds
      · cases taken
  | cancel key =>
    cases taken
    exact holds

/-- **The books of guest operations are exact.**  Under every interleaving of acquisitions with new
identifiers, of releases, repeated or not, and of cancellations, the map of a sandbox holds its
admitted operations, the counter of a project is their number, no empty map and no zero counter is
kept, and no counter exceeds the limit.  A service is only made with a positive limit. -/
theorem guest_accounting_exact (limit : Int) (positive : 1 ≤ limit) (books : Books)
    (run : Transition.Run (Transition.ofFunction (Books.step limit)) NewIdentifier .empty books) :
    books.Exact limit := by
  have initially : Books.empty.Exact limit ∧ Books.empty.admitted.Nodup := by
    refine ⟨⟨fun _ => rfl, fun _ => rfl, fun projectID => ?_⟩, List.nodup_nil⟩
    show (0 : Int) ≤ limit
    omega
  exact (run.invariant initially fun _ _ _ => Books.step_keeps).1

/-- Two operations, one of them released twice, and a third beyond the limit. -/
theorem guest_accounting_two : ∃ books,
    Transition.Run (Transition.ofFunction (Books.step 2)) NewIdentifier .empty books ∧
      books.admitted = [(("p", "s"), "b")] ∧ books.Exact 2 := by
  have played : ∃ books, Transition.Run (Transition.ofFunction (Books.step 2)) NewIdentifier .empty
      books ∧ books.admitted = [(("p", "s"), "b")] :=
    Transition.Run.exists_of_runList
      [.acquire ⟨("p", "s"), "a", none, none⟩, .acquire ⟨("p", "s"), "b", none, none⟩,
        .acquire ⟨("p", "t"), "c", none, none⟩, .release (("p", "s"), "a"), .cancel ("p", "s"),
        .release (("p", "s"), "a")] (by decide)
  obtain ⟨books, run, admitted⟩ := played
  exact ⟨books, run, admitted, guest_accounting_exact 2 (by decide) books run⟩

end Brezel.Service
