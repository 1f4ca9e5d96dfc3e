import Brezel.Library.Utf8

/-!
# Writing JSON from byte strings

A string here is a sequence of bytes that need not be UTF-8.  The writer escapes what web pages and
scripts would take for markup, and writes every stray byte as the escape of U+FFFD, so strings that
differ in their stray bytes only are written alike.

What is written for a document whose strings are UTF-8 is written for no other document
(`Doc.Valid.eq_of_render`).
-/

namespace JsonBytes

open Utf8

variable {code : UInt8} {piece other text rest after : List UInt8}

/-- A string of bytes. -/
abbrev Bytes := List UInt8

/-- The byte of an ASCII character. -/
def byte (character : Char) : UInt8 := UInt8.ofNat character.toNat

/-- The bytes of an ASCII text. -/
def ascii (text : String) : Bytes := text.toList.map byte

/-! ## Numbers -/

/-- The byte of a decimal digit. -/
def digitByte (digit : Nat) : UInt8 := byte '0' + UInt8.ofNat digit

/-- Decimal notation. -/
def decimal (number : Nat) : Bytes :=
  if number = 0 then [byte '0'] else ((Nat.digits 10 number).map digitByte).reverse

theorem digitByte_facts : ∀ digit < 10,
    (digitByte digit - byte '0').toNat = digit ∧
      (byte '0' ≤ digitByte digit && digitByte digit ≤ byte '9') = true := by
  decide

theorem mem_decimal {number : Nat} (member : code ∈ decimal number) :
    ∃ digit < 10, code = digitByte digit := by
  rw [decimal] at member
  split at member
  · exact ⟨0, by decide, List.mem_singleton.mp member⟩
  · rw [List.mem_reverse, List.mem_map] at member
    obtain ⟨digit, inside, rfl⟩ := member
    exact ⟨digit, Nat.digits_lt_base (by decide) inside, rfl⟩

theorem decimal_ne_nil (number : Nat) : decimal number ≠ [] := by
  rw [decimal]
  split
  · simp
  · next positive => simpa using Nat.digits_ne_nil_iff_ne_zero.mpr positive

theorem value_decimal (number : Nat) :
    Nat.ofDigits 10 ((decimal number).reverse.map fun letter => (letter - byte '0').toNat) =
      number := by
  rw [decimal]
  split
  · next zero => simp [zero]
  · have digits : (Nat.digits 10 number).map
        ((fun letter => (letter - byte '0').toNat) ∘ digitByte) = Nat.digits 10 number := by
      conv_rhs => rw [← List.map_id (Nat.digits 10 number)]
      apply List.map_congr_left
      intro digit member
      exact (digitByte_facts digit (Nat.digits_lt_base (by decide) member)).1
    rw [List.reverse_reverse, List.map_map, digits, Nat.ofDigits_digits]

/-! ## Strings -/

/-- The lower-case digit of a number below sixteen. -/
def lowerHex (number : Nat) : UInt8 :=
  UInt8.ofNat (if number < 10 then number + 48 else number + 87)

/-- An ASCII character inside a string. -/
def escapeByte (code : UInt8) : Bytes :=
  if code = byte '"' ∨ code = byte '\\' then [byte '\\', code]
  else if code = 8 then [byte '\\', byte 'b']
  else if code = 12 then [byte '\\', byte 'f']
  else if code = 10 then [byte '\\', byte 'n']
  else if code = 13 then [byte '\\', byte 'r']
  else if code = 9 then [byte '\\', byte 't']
  else if code < 32 ∨ code = byte '<' ∨ code = byte '>' ∨ code = byte '&' then
    [byte '\\', byte 'u', byte '0', byte '0', lowerHex (code.toNat / 16),
      lowerHex (code.toNat % 16)]
  else [code]

/-- What is written for a character or a stray byte. -/
def escape (piece : Bytes) : Bytes :=
  if stray piece then ascii "\\ufffd"
  else if piece = [0xE2, 0x80, 0xA8] then ascii "\\u2028"
  else if piece = [0xE2, 0x80, 0xA9] then ascii "\\u2029"
  else
    match piece with
    | [code] => escapeByte code
    | piece => piece

/-- A string with its quotes and escapes. -/
def quote (text : Bytes) : Bytes :=
  byte '"' :: ((characters text).flatMap escape ++ [byte '"'])

/-- The character that a piece stands for; nothing for a stray byte. -/
def meant (piece : Bytes) : Option Bytes := if stray piece then none else some piece

/-- The length of the escape, or of the character, that a text begins with. -/
def writtenLength : Bytes → Nat
  | first :: second :: _ =>
    if first = byte '\\' then if second = byte 'u' then 6 else 2
    else if first < 0xC0 then 1 else if first < 0xE0 then 2 else if first < 0xF0 then 3 else 4
  | _ => 1

/-- The byte that an escape stands for. -/
def unescapeByte : Bytes → UInt8
  | [_, letter] =>
    if letter = byte 'b' then 8 else if letter = byte 'f' then 12 else if letter = byte 'n' then 10
    else if letter = byte 'r' then 13 else if letter = byte 't' then 9 else letter
  | [_, _, _, _, high, low] =>
    let value (digit : UInt8) := if digit < 58 then digit - 48 else digit - 87
    value high * 16 + value low
  | _ => 0

/-- The character that was written; nothing for an escaped stray byte. -/
def meaning (written : Bytes) : Option Bytes :=
  if written = ascii "\\ufffd" then none
  else if written = ascii "\\u2028" then some [0xE2, 0x80, 0xA8]
  else if written = ascii "\\u2029" then some [0xE2, 0x80, 0xA9]
  else if written.head? = some (byte '\\') then some [unescapeByte written]
  else some written

theorem escapeByte_facts : ∀ number < 128,
    meaning (escapeByte (UInt8.ofNat number)) = some [UInt8.ofNat number] ∧
      (escapeByte (UInt8.ofNat number)).head? ≠ some (byte '"') ∧
      stray [UInt8.ofNat number] = false ∧
      (2 ≤ (escapeByte (UInt8.ofNat number)).length ∧
          writtenLength (escapeByte (UInt8.ofNat number)) =
            (escapeByte (UInt8.ofNat number)).length ∨
        escapeByte (UInt8.ofNat number) = [UInt8.ofNat number] ∧
          UInt8.ofNat number ≠ byte '\\') := by
  decide +kernel

/-- A piece is a stray byte, an ASCII character, or a longer character. -/
theorem piece_cases (isPiece : Piece piece) :
    stray piece = true ∨ (∃ number < 128, piece = [UInt8.ofNat number]) ∨
      ∃ first second rest, piece = first :: second :: rest ∧ stray piece = false ∧ 0xC0 ≤ first ∧
        piece.length = if first < 0xE0 then 2 else if first < 0xF0 then 3 else 4 := by
  by_cases none_ : width piece = 0
  · exact .inl (by simp [stray, none_])
  right
  rcases piece with _ | ⟨first, rest⟩
  · exact absurd rfl none_
  have length : (first :: rest).length = width (first :: rest) := by
    rw [Piece] at isPiece
    omega
  obtain ⟨isWidth, isFirst⟩ := width_of_ne_zero none_
  by_cases small : first < 0x80
  · rw [isWidth, if_pos small, List.length_cons] at length
    obtain rfl := List.length_eq_zero_iff.mp (Nat.succ_injective length)
    exact .inl ⟨first.toNat, UInt8.lt_iff_toNat_lt.mp small, by rw [UInt8.ofNat_toNat]⟩
  · rw [if_neg small] at isWidth
    rw [isWidth] at length
    rcases rest with _ | ⟨second, rest⟩
    · rw [List.length_singleton] at length
      split_ifs at length
      all_goals omega
    · exact .inr ⟨first, second, rest, rfl, by simp [stray, none_],
        isFirst.resolve_left small, length⟩

theorem escape_stray (isStray : stray piece = true) : escape piece = ascii "\\ufffd" := by
  simp [escape, isStray]

/-- A longer character is written as it is, unless it is a line separator. -/
theorem escape_of_length {first second : UInt8} (whole : stray (first :: second :: rest) = false) :
    escape (first :: second :: rest) = ascii "\\u2028" ∧
        first :: second :: rest = [0xE2, 0x80, 0xA8] ∨
      escape (first :: second :: rest) = ascii "\\u2029" ∧
        first :: second :: rest = [0xE2, 0x80, 0xA9] ∨
      escape (first :: second :: rest) = first :: second :: rest := by
  simp only [escape, whole, if_false, Bool.false_eq_true]
  split_ifs <;> simp_all

theorem meaning_escape (isPiece : Piece piece) : meaning (escape piece) = meant piece := by
  rcases piece_cases isPiece with isStray | ⟨number, small, rfl⟩ |
    ⟨first, second, rest, rfl, whole, high, _⟩
  · rw [escape_stray isStray, meant, if_pos isStray]
    rfl
  · obtain ⟨means, _, whole, _⟩ := escapeByte_facts number small
    simp [escape, meant, whole, means]
  · rw [meant, whole]
    rcases escape_of_length whole with ⟨written, same⟩ | ⟨written, same⟩ | written
    · rw [written, same]
      decide
    · rw [written, same]
      decide
    · have notEscape : first ≠ byte '\\' := by
        rintro rfl
        exact absurd high (by decide)
      rw [written, meaning]
      simp [ascii, notEscape]

theorem writtenLength_escape (isPiece : Piece piece) (after : Bytes) :
    writtenLength (escape piece ++ after) = (escape piece).length := by
  rcases piece_cases isPiece with isStray | ⟨number, small, rfl⟩ |
    ⟨first, second, rest, rfl, whole, high, length⟩
  · rw [escape_stray isStray]
    rfl
  · obtain ⟨_, _, whole, shape⟩ := escapeByte_facts number small
    have isEscape : escape [UInt8.ofNat number] = escapeByte (UInt8.ofNat number) := by
      simp [escape, whole]
    rw [isEscape]
    rcases shape with ⟨long, same⟩ | ⟨itself, plain⟩
    · rcases written : escapeByte (UInt8.ofNat number) with _ | ⟨first, _ | ⟨second, rest⟩⟩
      · simp [written] at long
      · simp [written] at long
      · rw [written] at same
        exact same
    · have below : UInt8.ofNat number < 0xC0 := by
        rw [UInt8.lt_iff_toNat_lt, UInt8.toNat_ofNat']
        exact Nat.lt_of_le_of_lt (Nat.mod_le _ _) (Nat.lt_trans small (by decide))
      rw [itself]
      rcases after with _ | ⟨next, after⟩
      · rfl
      · simp [writtenLength, plain, below]
  · rcases escape_of_length whole with ⟨written, _⟩ | ⟨written, _⟩ | written
    · rw [written]
      rfl
    · rw [written]
      rfl
    · have notEscape : first ≠ byte '\\' := by
        rintro rfl
        exact absurd high (by decide)
      rw [written, length]
      simp [writtenLength, notEscape, UInt8.not_lt.mpr high]

theorem head_escape (isPiece : Piece piece) : (escape piece).head? ≠ some (byte '"') := by
  rcases piece_cases isPiece with isStray | ⟨number, small, rfl⟩ |
    ⟨first, second, rest, rfl, whole, high, _⟩
  · rw [escape_stray isStray]
    decide
  · obtain ⟨_, opens, whole, _⟩ := escapeByte_facts number small
    simpa [escape, whole] using opens
  · rcases escape_of_length whole with ⟨written, _⟩ | ⟨written, _⟩ | written
    · rw [written]
      decide
    · rw [written]
      decide
    · rw [written]
      rintro ⟨⟩
      exact absurd high (by decide)

theorem escaped_inj {pieces others : List Bytes} (arePieces : ∀ piece ∈ pieces, Piece piece)
    (areOthers : ∀ piece ∈ others, Piece piece)
    (same : pieces.flatMap escape ++ byte '"' :: rest =
      others.flatMap escape ++ byte '"' :: after) :
    pieces.map meant = others.map meant ∧ rest = after := by
  have closes : ∀ {piece : Bytes} {more quoted : Bytes}, Piece piece →
      escape piece ++ more ≠ byte '"' :: quoted := by
    intro piece more quoted isPiece equal
    have opens := head_escape isPiece
    have length := writtenLength_escape isPiece []
    cases written : escape piece with
    | nil =>
      rw [written] at length
      cases length
    | cons first tail =>
      rw [written] at opens equal
      exact opens (congrArg some (List.cons.inj equal).1)
  induction pieces generalizing others with
  | nil =>
    cases others with
    | nil => exact ⟨rfl, (List.cons.inj same).2⟩
    | cons other others =>
      rw [List.flatMap_cons, List.append_assoc] at same
      exact absurd same.symm (closes (areOthers other List.mem_cons_self))
  | cons piece pieces ih =>
    have isPiece := arePieces piece List.mem_cons_self
    cases others with
    | nil =>
      rw [List.flatMap_cons, List.append_assoc] at same
      exact absurd same (closes isPiece)
    | cons other others =>
      have isOther := areOthers other List.mem_cons_self
      rw [List.flatMap_cons, List.flatMap_cons, List.append_assoc, List.append_assoc] at same
      have lengths := congrArg writtenLength same
      rw [writtenLength_escape isPiece, writtenLength_escape isOther] at lengths
      obtain ⟨sameHere, sameLater⟩ := List.append_inj same lengths
      have meanings := congrArg meaning sameHere
      rw [meaning_escape isPiece, meaning_escape isOther] at meanings
      obtain ⟨more, sameRest⟩ := ih
        (fun later member => arePieces later (List.mem_cons_of_mem _ member))
        (fun later member => areOthers later (List.mem_cons_of_mem _ member)) sameLater
      exact ⟨by rw [List.map_cons, List.map_cons, meanings, more], sameRest⟩

theorem eq_of_meant {pieces others : List Bytes} (whole : ∀ piece ∈ pieces, stray piece = false)
    (same : pieces.map meant = others.map meant) : pieces = others := by
  induction pieces generalizing others with
  | nil => simpa [eq_comm] using same
  | cons piece pieces ih =>
    cases others with
    | nil => simp at same
    | cons other others =>
      simp only [List.map_cons, List.cons.injEq] at same
      have isWhole := whole piece List.mem_cons_self
      have here : piece = other := by
        have sameHere := same.1
        simp only [meant, isWhole, Bool.false_eq_true, if_false] at sameHere
        split at sameHere
        · cases sameHere
        · exact Option.some.inj sameHere
      rw [here, ih (fun later member => whole later (List.mem_cons_of_mem _ member)) same.2]

/-- **What is written for UTF-8 is written for no other string.** -/
theorem eq_of_quote (valid : Valid text) (same : quote text ++ rest = quote other ++ after) :
    text = other ∧ rest = after := by
  simp only [quote, List.cons_append, List.append_assoc, List.cons.injEq, List.nil_append,
    true_and] at same
  obtain ⟨meantAlike, sameRest⟩ := escaped_inj (fun _ => piece_of_mem) (fun _ => piece_of_mem) same
  have samePieces := eq_of_meant (valid_iff.mp valid) meantAlike
  exact ⟨by rw [← flatten_characters text, samePieces, flatten_characters], sameRest⟩

/-! ## Documents -/

/-- A document. -/
inductive Doc
  | null
  | number (value : Int)
  | text (text : Bytes)
  | array (elements : List Doc)
  | object (members : List (Bytes × Doc))

mutual
/-- What is written for a document. -/
def Doc.render : Doc → Bytes
  | .null => ascii "null"
  | .number value => if value < 0 then byte '-' :: decimal value.natAbs else decimal value.natAbs
  | .text text => quote text
  | .array elements => byte '[' :: renderElements elements
  | .object members => byte '{' :: renderMembers members

/-- The rest of an array. -/
def renderElements : List Doc → Bytes
  | [] => [byte ']']
  | element :: rest =>
    element.render ++ if rest.isEmpty then [byte ']'] else byte ',' :: renderElements rest

/-- The rest of an object. -/
def renderMembers : List (Bytes × Doc) → Bytes
  | [] => [byte '}']
  | (name, value) :: rest =>
    quote name ++ byte ':' :: (value.render ++
      if rest.isEmpty then [byte '}'] else byte ',' :: renderMembers rest)
end

/-- All strings of the document are UTF-8. -/
inductive Doc.Valid : Doc → Prop
  | null : Valid .null
  | number (value : Int) : Valid (.number value)
  | text {text : Bytes} (valid : Utf8.Valid text) : Valid (.text text)
  | array {elements : List Doc} (valid : ∀ element ∈ elements, Valid element) :
      Valid (.array elements)
  | object {members : List (Bytes × Doc)} (names : ∀ member ∈ members, Utf8.Valid member.1)
      (valid : ∀ member ∈ members, Valid member.2) : Valid (.object members)

@[simp] theorem Doc.valid_number (value : Int) : (Doc.number value).Valid := .number value

@[simp] theorem Doc.valid_text : (Doc.text text).Valid ↔ Utf8.Valid text := by
  constructor
  · rintro ⟨⟩
    assumption
  · exact .text

@[simp] theorem Doc.valid_array {elements : List Doc} :
    (Doc.array elements).Valid ↔ ∀ element ∈ elements, element.Valid := by
  constructor
  · rintro ⟨⟩
    assumption
  · exact .array

@[simp] theorem Doc.valid_object {members : List (Bytes × Doc)} :
    (Doc.object members).Valid ↔ ∀ member ∈ members, Utf8.Valid member.1 ∧ member.2.Valid := by
  constructor
  · intro valid member isMember
    cases valid with
    | object names values => exact ⟨names member isMember, values member isMember⟩
  · intro valid
    exact .object (fun member isMember => (valid member isMember).1)
      fun member isMember => (valid member isMember).2

/-- The byte is a decimal digit. -/
def isDigit (letter : UInt8) : Bool := byte '0' ≤ letter && letter ≤ byte '9'

/-- No digit follows. -/
def Ends (text : Bytes) : Prop := text.takeWhile isDigit = []

/-- What is written for the part is written for no other one. -/
def Sole {α : Type} (write : α → Bytes) (part : α) : Prop :=
  ∀ {other : α} {rest after : Bytes}, Ends rest → Ends after →
    write part ++ rest = write other ++ after → part = other ∧ rest = after

/-- The kind of a document, from the first letter of what is written for it. -/
def opening (letter : UInt8) : Nat :=
  if letter = byte 'n' then 0 else if letter = byte '"' then 2 else if letter = byte '[' then 3
  else if letter = byte '{' then 4 else if letter = byte '-' || isDigit letter then 1 else 5

/-- Which constructor a document has. -/
def Doc.kind : Doc → Nat
  | .null => 0
  | .number _ => 1
  | .text _ => 2
  | .array _ => 3
  | .object _ => 4

theorem digits_decimal (number : Nat) (ends : Ends rest) :
    (decimal number ++ rest).takeWhile isDigit = decimal number := by
  rw [List.takeWhile_append_of_pos, ends, List.append_nil]
  intro letter member
  obtain ⟨digit, below, rfl⟩ := mem_decimal member
  exact (digitByte_facts digit below).2

theorem head_decimal (number : Nat) : ∃ letter tail, decimal number = letter :: tail ∧
    isDigit letter = true ∧ opening letter = 1 := by
  obtain ⟨letter, tail, written⟩ := List.exists_cons_of_ne_nil (decimal_ne_nil number)
  obtain ⟨digit, below, rfl⟩ := mem_decimal (written ▸ List.mem_cons_self)
  have facts : ∀ digit < 10, isDigit (digitByte digit) = true ∧ opening (digitByte digit) = 1 := by
    decide
  exact ⟨_, tail, written, facts digit below⟩

theorem eq_of_decimal {number number' : Nat} (ends : Ends rest) (ends' : Ends after)
    (same : decimal number ++ rest = decimal number' ++ after) :
    number = number' ∧ rest = after := by
  have digits := congrArg (List.takeWhile isDigit) same
  rw [digits_decimal number ends, digits_decimal number' ends'] at digits
  rw [digits] at same
  refine ⟨?_, List.append_cancel_left same⟩
  rw [← value_decimal number, digits, value_decimal]

theorem opening_render (doc : Doc) : ∃ letter tail, doc.render = letter :: tail ∧
    opening letter = doc.kind := by
  cases doc with
  | null => exact ⟨byte 'n', _, rfl, rfl⟩
  | number value =>
    obtain ⟨letter, tail, written, _, opens⟩ := head_decimal value.natAbs
    by_cases negative : value < 0
    · exact ⟨byte '-', _, by rw [Doc.render, if_pos negative], rfl⟩
    · exact ⟨letter, tail, by rw [Doc.render, if_neg negative, written], opens⟩
  | text text => exact ⟨byte '"', _, by rw [Doc.render, quote], rfl⟩
  | array elements => exact ⟨byte '[', _, by rw [Doc.render], rfl⟩
  | object members => exact ⟨byte '{', _, by rw [Doc.render], rfl⟩

theorem kind_eq {doc other : Doc} (same : doc.render ++ rest = other.render ++ after) :
    doc.kind = other.kind := by
  obtain ⟨_, _, written, isKind⟩ := opening_render doc
  obtain ⟨_, _, written', isKind'⟩ := opening_render other
  rw [written, written', List.cons_append, List.cons_append, List.cons.injEq] at same
  rw [← isKind, ← isKind', same.1]

/-- No document begins with the letter. -/
theorem render_ne {letter : UInt8} (closes : opening letter = 5) (doc : Doc) :
    letter :: rest ≠ doc.render ++ after := by
  intro same
  obtain ⟨_, _, written, isKind⟩ := opening_render doc
  rw [written, List.cons_append, List.cons.injEq] at same
  rw [← same.1, closes] at isKind
  cases doc <;> cases isKind

/-- Parts between commas, up to the closing letter. -/
def joined {α : Type} (write : α → Bytes) (close : UInt8) : List α → Bytes
  | [] => [close]
  | part :: rest =>
    write part ++ if rest.isEmpty then [close] else byte ',' :: joined write close rest

theorem eq_of_joined {α : Type} {write : α → Bytes} {close : UInt8} {parts others : List α}
    (closes : isDigit close = false ∧ close ≠ byte ',')
    (never : ∀ part rest after, close :: rest ≠ write part ++ after)
    (sole : ∀ part ∈ parts, Sole write part)
    (same : joined write close parts ++ rest = joined write close others ++ after) :
    parts = others ∧ rest = after := by
  have ends : ∀ (others : List α) (rest : Bytes),
      Ends ((if others.isEmpty then [close] else byte ',' :: joined write close others) ++
        rest) := by
    intro others rest
    cases others with
    | nil => simp [Ends, closes.1]
    | cons => rfl
  induction parts generalizing others with
  | nil =>
    cases others with
    | nil => exact ⟨rfl, (List.cons.inj same).2⟩
    | cons other others =>
      rw [joined, joined, List.append_assoc] at same
      exact absurd same (never other _ _)
  | cons part parts ih =>
    cases others with
    | nil =>
      rw [joined, joined, List.append_assoc] at same
      exact absurd same.symm (never part _ _)
    | cons other others =>
      rw [joined, joined, List.append_assoc, List.append_assoc] at same
      obtain ⟨rfl, later⟩ := sole part List.mem_cons_self (ends _ _) (ends _ _) same
      have remaining : joined write close parts ++ rest = joined write close others ++ after := by
        cases parts <;> cases others
        · exact later
        · exact absurd (List.cons.inj later).1 closes.2
        · exact absurd (List.cons.inj later).1.symm closes.2
        · exact (List.cons.inj later).2
      obtain ⟨rfl, sameRest⟩ := ih (fun later member => sole later (List.mem_cons_of_mem _ member))
        remaining
      exact ⟨rfl, sameRest⟩

/-- What is written for a member of an object. -/
def renderMember (member : Bytes × Doc) : Bytes :=
  quote member.1 ++ byte ':' :: member.2.render

theorem renderElements_eq (elements : List Doc) :
    renderElements elements = joined Doc.render (byte ']') elements := by
  induction elements with
  | nil => rfl
  | cons element rest ih => rw [renderElements, joined, ih]

theorem renderMembers_eq (members : List (Bytes × Doc)) :
    renderMembers members = joined renderMember (byte '}') members := by
  induction members with
  | nil => rfl
  | cons member rest ih => simp [renderMembers, joined, renderMember, ih]

theorem sole_member {member : Bytes × Doc} (valid : Utf8.Valid member.1)
    (sole : Sole Doc.render member.2) : Sole renderMember member := by
  intro other rest after ends ends' same
  simp only [renderMember, List.append_assoc, List.cons_append] at same
  obtain ⟨name, sameValue⟩ := eq_of_quote valid same
  obtain ⟨value, sameRest⟩ := sole ends ends' (List.cons.inj sameValue).2
  exact ⟨Prod.ext name value, sameRest⟩

theorem Doc.Valid.sole {doc : Doc} (valid : doc.Valid) : Sole Doc.render doc := by
  induction valid with
  | null =>
    intro other rest after _ _ same
    have kinds := kind_eq same
    cases other with
    | null => exact ⟨rfl, List.append_cancel_left same⟩
    | _ => cases kinds
  | number value =>
    intro other rest after ends ends' same
    have kinds := kind_eq same
    cases other with
    | number value' =>
      obtain ⟨letter, tail, written, digit, _⟩ := head_decimal value.natAbs
      obtain ⟨letter', tail', written', digit', _⟩ := head_decimal value'.natAbs
      have unsigned : isDigit (byte '-') = false := by decide
      simp only [render] at same
      split_ifs at same
      · obtain ⟨values, sameRest⟩ := eq_of_decimal ends ends' (List.cons.inj same).2
        exact ⟨by congr 1; omega, sameRest⟩
      · rw [written', List.cons_append, List.cons_append, List.cons.injEq] at same
        rw [← same.1, unsigned] at digit'
        cases digit'
      · rw [written, List.cons_append, List.cons_append, List.cons.injEq] at same
        rw [same.1, unsigned] at digit
        cases digit
      · obtain ⟨values, sameRest⟩ := eq_of_decimal ends ends' same
        exact ⟨by congr 1; omega, sameRest⟩
    | _ => cases kinds
  | text valid =>
    intro other rest after _ _ same
    have kinds := kind_eq same
    cases other with
    | text text =>
      obtain ⟨sameText, sameRest⟩ := eq_of_quote valid same
      exact ⟨by rw [sameText], sameRest⟩
    | _ => cases kinds
  | array _ sole =>
    intro other rest after _ _ same
    have kinds := kind_eq same
    cases other with
    | array others =>
      simp only [render, renderElements_eq, List.cons_append, List.cons.injEq, true_and] at same
      obtain ⟨parts, sameRest⟩ := eq_of_joined (by decide)
        (fun element _ _ => render_ne (by decide) element) sole same
      exact ⟨congrArg Doc.array parts, sameRest⟩
    | _ => cases kinds
  | object names _ sole =>
    intro other rest after _ _ same
    have kinds := kind_eq same
    cases other with
    | object others =>
      simp only [render, renderMembers_eq, List.cons_append, List.cons.injEq, true_and] at same
      obtain ⟨parts, sameRest⟩ := eq_of_joined (by decide)
        (by simp [renderMember, quote, byte])
        (fun member isMember => sole_member (names member isMember) (sole member isMember)) same
      exact ⟨congrArg Doc.object parts, sameRest⟩
    | _ => cases kinds

/-- **What is written for a document of UTF-8 strings is written for no other document.** -/
theorem Doc.Valid.eq_of_render {doc other : Doc} (valid : doc.Valid)
    (same : doc.render = other.render) : doc = other := by
  have ended : Ends [] := rfl
  have rendered : doc.render ++ [] = other.render ++ [] := by rw [same]
  exact (valid.sole ended ended rendered).1

end JsonBytes
