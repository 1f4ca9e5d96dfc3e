import Mathlib

/-!
# UTF-8

A text is a sequence of bytes that need not be UTF-8.  `width` is the length of the encoded
character that the text starts with; `Valid` texts are sequences of encoded characters.
`characters` splits any text into its encoded characters and its stray bytes.
-/

namespace Utf8

/-- A byte inside an encoded character. -/
def continuation (letter : UInt8) : Bool := 0x80 ≤ letter && letter ≤ 0xBF

/-- The byte may follow the first byte of an encoded character. -/
def second (first letter : UInt8) : Bool :=
  (if first = 0xE0 then 0xA0 else if first = 0xF0 then 0x90 else 0x80) ≤ letter &&
    letter ≤ if first = 0xED then 0x9F else if first = 0xF4 then 0x8F else 0xBF

/-- The length of the encoded character at the start of a text; zero if there is none. -/
def width : List UInt8 → Nat
  | [] => 0
  | first :: rest =>
    if first < 0x80 then 1
    else if first < 0xC2 then 0
    else if first ≤ 0xDF then
      match rest with
      | next :: _ => if second first next then 2 else 0
      | [] => 0
    else if first ≤ 0xEF then
      match rest with
      | next :: third :: _ => if second first next && continuation third then 3 else 0
      | _ => 0
    else if first ≤ 0xF4 then
      match rest with
      | next :: third :: fourth :: _ =>
        if second first next && continuation third && continuation fourth then 4 else 0
      | _ => 0
    else 0

/-- The text is encoded characters, after the given number of bytes of the current one. -/
def validFrom : Nat → List UInt8 → Bool
  | _, [] => true
  | skip + 1, _ :: rest => validFrom skip rest
  | 0, first :: rest => width (first :: rest) ≠ 0 && validFrom (width (first :: rest) - 1) rest

/-- The text consists of encoded characters. -/
def Valid (text : List UInt8) : Prop := validFrom 0 text = true

instance (text : List UInt8) : Decidable (Valid text) := inferInstanceAs (Decidable (_ = true))

theorem valid_of_ascii {text : List UInt8} (ascii : ∀ letter ∈ text, letter < 0x80) :
    Valid text := by
  induction text with
  | nil => rfl
  | cons first rest continued =>
    have one : width (first :: rest) = 1 := by
      rw [width.eq_def]
      exact if_pos (ascii first List.mem_cons_self)
    have after : validFrom 0 rest = true :=
      continued fun letter member => ascii letter (List.mem_cons_of_mem _ member)
    simp [Valid, validFrom, one, after]

/-! ## Characters and stray bytes -/

/-- The characters of a text of at most that many bytes. -/
def split : Nat → List UInt8 → List (List UInt8)
  | 0, _ => []
  | _, [] => []
  | fuel + 1, first :: rest =>
    let tail := width (first :: rest) - 1
    (first :: rest.take tail) :: split fuel (rest.drop tail)

/-- The encoded characters of a text; a byte that belongs to none stands alone. -/
def characters (text : List UInt8) : List (List UInt8) := split text.length text

/-- The piece is a byte that belongs to no character. -/
def stray (piece : List UInt8) : Bool := width piece = 0

/-- A piece of a text: a character, or a stray byte. -/
def Piece (piece : List UInt8) : Prop := piece.length = max 1 (width piece)

theorem flatten_split {fuel : Nat} {text : List UInt8} (enough : text.length ≤ fuel) :
    (split fuel text).flatten = text := by
  induction fuel generalizing text with
  | zero => simp_all [split]
  | succ fuel ih =>
    cases text with
    | nil => rfl
    | cons first rest =>
      rw [split, List.flatten_cons, ih (by simp at enough ⊢; omega), List.cons_append,
        List.take_append_drop]

theorem flatten_characters (text : List UInt8) : (characters text).flatten = text :=
  flatten_split le_rfl

theorem width_piece (first : UInt8) (rest : List UInt8) :
    width (first :: rest.take (width (first :: rest) - 1)) = width (first :: rest) ∧
      width (first :: rest) - 1 ≤ rest.length := by
  -- At most three bytes after the first one count.
  rcases rest with _ | ⟨next, _ | ⟨third, _ | ⟨fourth, rest⟩⟩⟩
  all_goals
    simp only [width]
    split_ifs
    all_goals simp_all

/-- The first byte of a character says how long it is. -/
theorem width_of_ne_zero {first : UInt8} {rest : List UInt8} (some_ : width (first :: rest) ≠ 0) :
    width (first :: rest) =
        (if first < 0x80 then 1 else if first < 0xE0 then 2 else if first < 0xF0 then 3 else 4) ∧
      (first < 0x80 ∨ 0xC0 ≤ first) := by
  simp only [width] at *
  split_ifs at * <;> grind

/-- A character is one whatever follows it. -/
theorem piece_of_mem_split {fuel : Nat} {text piece : List UInt8}
    (member : piece ∈ split fuel text) :
    Piece piece := by
  induction fuel generalizing text with
  | zero => simp [split] at member
  | succ fuel ih =>
    cases text with
    | nil => simp [split] at member
    | cons first rest =>
      rw [split, List.mem_cons] at member
      rcases member with rfl | later
      · obtain ⟨same, fits⟩ := width_piece first rest
        rw [Piece, same, List.length_cons, List.length_take, Nat.min_eq_left fits]
        omega
      · exact ih later

theorem piece_of_mem {text piece : List UInt8} (member : piece ∈ characters text) : Piece piece :=
  piece_of_mem_split member

theorem validFrom_drop (skip : Nat) (text : List UInt8) :
    validFrom skip text = validFrom 0 (text.drop skip) := by
  induction skip generalizing text with
  | zero => rfl
  | succ skip ih =>
    cases text with
    | nil => rfl
    | cons first rest => exact ih rest

theorem valid_iff {text : List UInt8} :
    Valid text ↔ ∀ piece ∈ characters text, stray piece = false := by
  suffices all : ∀ fuel (text : List UInt8), text.length ≤ fuel →
      (validFrom 0 text = true ↔ ∀ piece ∈ split fuel text, stray piece = false) from
    all text.length text le_rfl
  intro fuel
  induction fuel with
  | zero =>
    intro text enough
    simp_all [split, validFrom]
  | succ fuel ih =>
    intro text enough
    cases text with
    | nil => simp [split, validFrom]
    | cons first rest =>
      simp only [List.length_cons, Nat.add_le_add_iff_right] at enough
      rw [validFrom, validFrom_drop, Bool.and_eq_true,
        ih (rest.drop (width (first :: rest) - 1)) (by simp; omega)]
      simp [split, stray, (width_piece first rest).1]

end Utf8
