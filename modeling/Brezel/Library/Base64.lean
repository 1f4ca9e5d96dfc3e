import Mathlib

/-!
# Base64 for URLs

Base64 without padding, in the alphabet for URLs.  `decode` is a strict reader: it passes over line
breaks, and refuses other letters, a lone last letter, and trailing bits that are not zero.

A text that is read is the encoding of its bytes with line breaks put in (`encode_of_decode`).
-/

namespace Base64

variable {bytes text other : List UInt8} {code : UInt8} {value : Nat} {values : List Nat}

/-- The letter of a number below sixty-four. -/
def letter (value : Nat) : UInt8 :=
  if value < 26 then UInt8.ofNat (value + 65)
  else if value < 52 then UInt8.ofNat (value + 71)
  else if value < 62 then UInt8.ofNat (value - 4)
  else if value = 62 then 45
  else 95

/-- The number of a letter. -/
def sextet (code : UInt8) : Option Nat :=
  let number := code.toNat
  if 65 ≤ number ∧ number ≤ 90 then some (number - 65)
  else if 97 ≤ number ∧ number ≤ 122 then some (number - 71)
  else if 48 ≤ number ∧ number ≤ 57 then some (number + 4)
  else if number = 45 then some 62
  else if number = 95 then some 63
  else none

/-- The numbers of the letters that stand for some bytes. -/
def sextets : List UInt8 → List Nat
  | [] => []
  | [first] => [first.toNat / 4, first.toNat % 4 * 16]
  | [first, second] =>
    [first.toNat / 4, first.toNat % 4 * 16 + second.toNat / 16, second.toNat % 16 * 4]
  | first :: second :: third :: rest =>
    first.toNat / 4 :: (first.toNat % 4 * 16 + second.toNat / 16) ::
      (second.toNat % 16 * 4 + third.toNat / 64) :: third.toNat % 64 :: sextets rest

/-- The bytes that some numbers stand for. -/
def group : List Nat → Option (List UInt8)
  | [] => some []
  | [_] => none
  | [first, second] =>
    if second % 16 = 0 then some [UInt8.ofNat (first * 4 + second / 16)] else none
  | [first, second, third] =>
    if third % 4 = 0 then
      some [UInt8.ofNat (first * 4 + second / 16), UInt8.ofNat (second % 16 * 16 + third / 4)]
    else none
  | first :: second :: third :: fourth :: rest =>
    (group rest).map fun bytes => UInt8.ofNat (first * 4 + second / 16) ::
      UInt8.ofNat (second % 16 * 16 + third / 4) :: UInt8.ofNat (third % 4 * 64 + fourth) :: bytes

/-- A line feed or a carriage return. -/
def isBreak (code : UInt8) : Bool := code = 10 || code = 13

/-- A text without its line breaks. -/
def unbroken (text : List UInt8) : List UInt8 := text.filter fun code => !isBreak code

/-- The letters of some bytes. -/
def encode (bytes : List UInt8) : List UInt8 := (sextets bytes).map letter

/-- The bytes that a text spells. -/
def decode (text : List UInt8) : Option (List UInt8) := (unbroken text).mapM sextet >>= group

/-! ## Letters -/

theorem sextet_letter : ∀ value < 64, sextet (letter value) = some value := by decide

theorem isBreak_letter : ∀ value < 64, isBreak (letter value) = false := by decide

theorem letter_of_sextet (read : sextet code = some value) : value < 64 ∧ letter value = code := by
  have all : ∀ number < 256, ((sextet (UInt8.ofNat number)).all fun value =>
      value < 64 && letter value = UInt8.ofNat number) = true := by decide +kernel
  simpa [read] using all code.toNat code.toNat_lt

theorem sextets_lt (bytes : List UInt8) : ∀ value ∈ sextets bytes, value < 64 := by
  fun_induction sextets bytes with
  | case1 => simp
  | case2 first =>
    have := first.toNat_lt
    simp
    omega
  | case3 first second =>
    have := first.toNat_lt
    have := second.toNat_lt
    simp
    omega
  | case4 first second third rest ih =>
    have := first.toNat_lt
    have := second.toNat_lt
    have := third.toNat_lt
    simp only [List.mem_cons, forall_eq_or_imp]
    exact ⟨by omega, by omega, by omega, by omega, ih⟩

/-! ## The round trip -/

theorem ofNat_eq {number : Nat} (same : number = code.toNat) : UInt8.ofNat number = code := by
  rw [same, UInt8.ofNat_toNat]

theorem group_sextets (bytes : List UInt8) : group (sextets bytes) = some bytes := by
  fun_induction sextets bytes with
  | case1 => rfl
  | case2 first => rw [group, if_pos (by omega), ofNat_eq (show _ = first.toNat by omega)]
  | case3 first second =>
    have := second.toNat_lt
    rw [group, if_pos (by omega), ofNat_eq (show _ = first.toNat by omega),
      ofNat_eq (show _ = second.toNat by omega)]
  | case4 first second third rest ih =>
    have := second.toNat_lt
    have := third.toNat_lt
    rw [group, ih, Option.map_some, ofNat_eq (show _ = first.toNat by omega),
      ofNat_eq (show _ = second.toNat by omega), ofNat_eq (show _ = third.toNat by omega)]

theorem sextets_of_group (small : ∀ value ∈ values, value < 64) (read : group values = some bytes) :
    sextets bytes = values := by
  fun_induction group values generalizing bytes with
  | case1 =>
    cases read
    rfl
  | case2 => cases read
  | case3 first second aligned =>
    cases read
    simp only [List.mem_cons, List.not_mem_nil, or_false, forall_eq_or_imp, forall_eq] at small
    simp only [sextets, UInt8.toNat_ofNat', List.cons.injEq, and_true]
    omega
  | case4 => cases read
  | case5 first second third aligned =>
    cases read
    simp only [List.mem_cons, List.not_mem_nil, or_false, forall_eq_or_imp, forall_eq] at small
    simp only [sextets, UInt8.toNat_ofNat', List.cons.injEq, and_true]
    omega
  | case6 => cases read
  | case7 first second third fourth rest ih =>
    simp only [List.mem_cons, forall_eq_or_imp] at small
    obtain ⟨more, isMore, rfl⟩ := Option.map_eq_some_iff.mp read
    rw [sextets, ih small.2.2.2.2 isMore]
    simp only [UInt8.toNat_ofNat', List.cons.injEq, and_true]
    omega

theorem mapM_letter (small : ∀ value ∈ values, value < 64) :
    (values.map letter).mapM sextet = some values := by
  induction values with
  | nil => rfl
  | cons value rest ih =>
    rw [List.map_cons, List.mapM_cons, sextet_letter value (small value List.mem_cons_self),
      ih fun other member => small other (List.mem_cons_of_mem _ member)]
    rfl

theorem map_letter_of_mapM (read : text.mapM sextet = some values) :
    values.map letter = text ∧ ∀ value ∈ values, value < 64 := by
  induction text generalizing values with
  | nil =>
    cases read
    simp
  | cons code rest ih =>
    rw [List.mapM_cons] at read
    obtain ⟨value, isValue, continued⟩ := Option.bind_eq_some_iff.mp read
    obtain ⟨more, isMore, isAll⟩ := Option.bind_eq_some_iff.mp continued
    cases isAll
    obtain ⟨sameRest, small⟩ := ih isMore
    obtain ⟨isSmall, isLetter⟩ := letter_of_sextet isValue
    exact ⟨by rw [List.map_cons, sameRest, isLetter], by simpa using ⟨isSmall, small⟩⟩

theorem unbroken_encode (bytes : List UInt8) : unbroken (encode bytes) = encode bytes := by
  refine List.filter_eq_self.mpr fun code member => ?_
  obtain ⟨value, isValue, rfl⟩ := List.mem_map.mp member
  simp [isBreak_letter value (sextets_lt bytes value isValue)]

/-- **The round trip.** -/
theorem decode_encode (bytes : List UInt8) : decode (encode bytes) = some bytes := by
  rw [decode, unbroken_encode, encode, mapM_letter (sextets_lt bytes)]
  exact group_sextets bytes

/-- **A text that is read is an encoding with line breaks put in.** -/
theorem encode_of_decode (read : decode text = some bytes) : encode bytes = unbroken text := by
  obtain ⟨values, isValues, grouped⟩ := Option.bind_eq_some_iff.mp read
  obtain ⟨isText, small⟩ := map_letter_of_mapM isValues
  rw [encode, sextets_of_group small grouped, isText]

/-- A letter outside the alphabet. -/
theorem not_mem_of_decode (read : decode text = some bytes) (foreign : sextet code = none)
    (unbroken_ : isBreak code = false) : code ∉ text := by
  intro member
  have inText : code ∈ unbroken text := List.mem_filter.mpr ⟨member, by simp [unbroken_]⟩
  rw [← encode_of_decode read] at inText
  obtain ⟨value, isValue, rfl⟩ := List.mem_map.mp inText
  rw [sextet_letter value (sextets_lt bytes value isValue)] at foreign
  cases foreign

theorem length_encode (bytes : List UInt8) :
    (encode bytes).length = (4 * bytes.length + 2) / 3 := by
  rw [encode, List.length_map]
  fun_induction sextets bytes with
  | case1 => rfl
  | case2 => simp
  | case3 => simp
  | case4 first second third rest ih =>
    simp only [List.length_cons, ih]
    omega

theorem encode_ascii (bytes : List UInt8) : ∀ code ∈ encode bytes, code < 0x80 := by
  have all : ∀ value < 64, letter value < 0x80 := by decide
  intro code member
  obtain ⟨value, isValue, rfl⟩ := List.mem_map.mp member
  exact all value (sextets_lt bytes value isValue)

/-! ## Line breaks -/

@[simp] theorem unbroken_append (first second : List UInt8) :
    unbroken (first ++ second) = unbroken first ++ unbroken second :=
  List.filter_append ..

theorem unbroken_eq (without : ∀ code ∈ text, isBreak code = false) : unbroken text = text :=
  List.filter_eq_self.mpr fun code member => by simp [without code member]

end Base64
