import Mathlib

/-!
# Times and checked text

The wall clock and the character classes that the identifier checks of the program consult.
A time is an instant in nanoseconds, and `zeroTime` is the zero value of an unset time field.

`isSpace` is the white space that `TrimSpace` removes, so `isBlank text` says that trimming
`text` leaves nothing.  `isSafeName` is the pattern for project identifiers and names, and
`isSafeIdempotencyKey` the one for request keys.
-/

namespace Brezel.Domain

/-- Keys are pairs of identifiers, compared part by part. -/
instance lawfulBEqKey : LawfulBEq (String × String) := inferInstance

/-- Keys of requests have a kind besides. -/
instance lawfulBEqRequestKey : LawfulBEq (String × String × String) := inferInstance

/-- An instant, in nanoseconds. -/
abbrev Time := Int

/-- The value of an unset time field. -/
def zeroTime : Time := 0

/-- A span of whole seconds as a difference of instants. -/
def seconds (count : Int) : Int := count * 1000000000

/-- White space as the standard library's Unicode tables define it. -/
def isSpace (character : Char) : Bool :=
  let code := character.toNat
  (9 ≤ code && code ≤ 13) || code == 0x20 || code == 0x85 || code == 0xA0 || code == 0x1680 ||
    (0x2000 ≤ code && code ≤ 0x200A) || code == 0x2028 || code == 0x2029 || code == 0x202F ||
    code == 0x205F || code == 0x3000

/-- Nothing is left of the text after trimming white space. -/
def isBlank (text : String) : Bool :=
  text.toList.all isSpace

/-- `strings.ContainsAny`. -/
def containsAny (text : String) (characters : List Char) : Bool :=
  text.toList.any (characters.contains ·)

/-- ASCII letters and digits. -/
def isAlphanumeric (character : Char) : Bool :=
  ('a' ≤ character && character ≤ 'z') || ('A' ≤ character && character ≤ 'Z') ||
    ('0' ≤ character && character ≤ '9')

/-- A letter or digit followed by `least` to `most` letters, digits and characters of `extra`. -/
def isIdentifier (extra : List Char) (least most : Nat) (text : String) : Bool :=
  match text.toList with
  | [] => false
  | first :: rest =>
    isAlphanumeric first && least ≤ rest.length && rest.length ≤ most &&
      rest.all fun character => isAlphanumeric character || extra.contains character

/-- The pattern for names. -/
def isSafeName (text : String) : Bool :=
  isIdentifier ['.', '_', '-'] 0 127 text

theorem isSafeName_ne_empty {text : String} (safe : isSafeName text = true) : text ≠ "" := by
  rintro rfl
  simp [isSafeName, isIdentifier] at safe

/-- The pattern for idempotency keys. -/
def isSafeIdempotencyKey (text : String) : Bool :=
  isIdentifier ['.', '_', ':', '-'] 7 199 text

/-- `text` opens with the characters of `start`. -/
def hasStart (text start : String) : Bool :=
  start.toList.isPrefixOf text.toList

/-- `text` closes with the characters of `ending`. -/
def hasEnd (text ending : String) : Bool :=
  ending.toList.isSuffixOf text.toList

/-- The upper case of a character, as far as it is an ASCII letter.  Two letters outside ASCII have
one: the dotless i and the long s. -/
def upperCharacter (character : Char) : Char :=
  if character = 'ı' then 'I' else if character = 'ſ' then 'S' else character.toUpper

/-- `ToUpper`, as far as the result is ASCII. -/
def upperCase (text : String) : String :=
  String.ofList (text.toList.map upperCharacter)

/-! ## Names that are not used yet -/

theorem exists_length_bound (names : List String) :
    ∃ bound, ∀ name ∈ names, name.length ≤ bound := by
  induction names with
  | nil => exact ⟨0, by simp⟩
  | cons name rest ih =>
    obtain ⟨bound, isBound⟩ := ih
    refine ⟨max name.length bound, fun other isOther => ?_⟩
    rcases List.mem_cons.mp isOther with rfl | isRest
    · exact Nat.le_max_left _ _
    · exact Nat.le_trans (isBound other isRest) (Nat.le_max_right _ _)

/-- Some name of the given length. -/
def nameOfLength (length : Nat) : String := String.ofList (List.replicate length 'a')

@[simp] theorem length_nameOfLength (length : Nat) : (nameOfLength length).length = length := by
  simp [nameOfLength]

end Brezel.Domain
