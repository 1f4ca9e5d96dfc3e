import Mathlib

/-!
# JSON texts

A `Value` is a JSON document.  `Value.render` writes it as encoders for the web do: without spaces,
with the characters of HTML and the two Unicode line separators escaped.  `parse` reads any JSON
text, with white space, every escape, and surrogate pairs; a lone surrogate becomes U+FFFD.

`parse_render` is the round trip.  `byteLength_renderText` says how many bytes a string takes: its
own, and what its escapes add.
-/

namespace Json

/-- A JSON document.  A number is kept as it is written. -/
inductive Value
  | null
  | bool (value : Bool)
  | number (literal : String)
  | string (text : String)
  | array (elements : List Value)
  | object (members : List (String × Value))

/-! ## Writing -/

/-- The lower-case digit of a number below sixteen. -/
def hexDigit (number : Nat) : Char := "0123456789abcdef".toList.getD number '0'

/-- The escape of a code unit by its number. -/
def codeEscape (code : Nat) : List Char :=
  ['\\', 'u', hexDigit (code / 4096 % 16), hexDigit (code / 256 % 16), hexDigit (code / 16 % 16),
    hexDigit (code % 16)]

/-- The letter of the short escape of a character. -/
def shortEscape : Char → Option Char
  | '"' => some '"'
  | '\\' => some '\\'
  | '\x08' => some 'b'
  | '\x0c' => some 'f'
  | '\n' => some 'n'
  | '\r' => some 'r'
  | '\t' => some 't'
  | _ => none

/-- The character is escaped by its code: a control character, a character of HTML, or a line
separator. -/
def isCoded (character : Char) : Bool :=
  character.toNat < 0x20 || character = '<' || character = '>' || character = '&' ||
    character = '\u2028' || character = '\u2029'

/-- A character inside a string. -/
def escape (character : Char) : List Char :=
  match shortEscape character with
  | some letter => ['\\', letter]
  | none => if isCoded character then codeEscape character.toNat else [character]

/-- A string with its quotes and escapes. -/
def renderText (text : String) : List Char := '"' :: text.toList.flatMap escape ++ ['"']

mutual
/-- The canonical text of a value. -/
def Value.render : Value → List Char
  | .null => ['n', 'u', 'l', 'l']
  | .bool true => ['t', 'r', 'u', 'e']
  | .bool false => ['f', 'a', 'l', 's', 'e']
  | .number literal => literal.toList
  | .string text => renderText text
  | .array [] => ['[', ']']
  | .array (first :: rest) => '[' :: first.render ++ renderElements rest ++ [']']
  | .object [] => ['{', '}']
  | .object ((name, first) :: rest) =>
    '{' :: renderText name ++ ':' :: first.render ++ renderMembers rest ++ ['}']

/-- The further elements of an array, each after a comma. -/
def renderElements : List Value → List Char
  | [] => []
  | value :: rest => ',' :: value.render ++ renderElements rest

/-- The further members of an object, each after a comma. -/
def renderMembers : List (String × Value) → List Char
  | [] => []
  | (name, value) :: rest => ',' :: renderText name ++ ':' :: value.render ++ renderMembers rest
end

/-! ## Reading -/

/-- White space between tokens. -/
def isSpace (character : Char) : Bool :=
  character = ' ' || character = '\t' || character = '\n' || character = '\r'

/-- The text from the next token on. -/
def skipSpace (text : List Char) : List Char := text.dropWhile isSpace

/-- The value of a hexadecimal digit. -/
def hexValue (character : Char) : Option Nat :=
  if '0' ≤ character ∧ character ≤ '9' then some (character.toNat - '0'.toNat)
  else if 'a' ≤ character ∧ character ≤ 'f' then some (character.toNat - 'a'.toNat + 10)
  else if 'A' ≤ character ∧ character ≤ 'F' then some (character.toNat - 'A'.toNat + 10)
  else none

/-- The code unit that four digits denote. -/
def codeValue (first second third fourth : Char) : Option Nat := do
  let first ← hexValue first
  let second ← hexValue second
  let third ← hexValue third
  let fourth ← hexValue fourth
  return first * 4096 + second * 256 + third * 16 + fourth

/-- What the letter of a short escape stands for. -/
def shortMeaning : Char → Option Char
  | '"' => some '"'
  | '\\' => some '\\'
  | '/' => some '/'
  | 'b' => some '\x08'
  | 'f' => some '\x0c'
  | 'n' => some '\n'
  | 'r' => some '\r'
  | 't' => some '\t'
  | _ => none

/-- A piece of a string: a character, or a code that may be half of a surrogate pair. -/
inductive Piece
  | character (character : Char)
  | code (code : Nat)
  deriving DecidableEq

/-- The pieces of a string whose opening quote has been read, and the text after it. -/
def pieces : List Char → Option (List Piece × List Char)
  | [] => none
  | '"' :: rest => some ([], rest)
  | '\\' :: 'u' :: first :: second :: third :: fourth :: rest =>
    match codeValue first second third fourth with
    | none => none
    | some code => (pieces rest).map fun (found, after) => (.code code :: found, after)
  | '\\' :: letter :: rest =>
    match shortMeaning letter with
    | none => none
    | some character => (pieces rest).map fun (found, after) =>
      (.character character :: found, after)
  | character :: rest =>
    if character = '\\' ∨ character.toNat < 0x20 then none
    else (pieces rest).map fun (found, after) => (.character character :: found, after)

/-- The first half of a surrogate pair. -/
def isHigh (code : Nat) : Bool := 0xD800 ≤ code && code < 0xDC00

/-- The second half of a surrogate pair. -/
def isLow (code : Nat) : Bool := 0xDC00 ≤ code && code < 0xE000

/-- The character of a code on its own. -/
def loneCode (code : Nat) : Char :=
  if isHigh code || isLow code then '\uFFFD' else Char.ofNat code

/-- The characters of a string, with surrogate pairs joined. -/
def join : List Piece → List Char
  | [] => []
  | .character character :: rest => character :: join rest
  | .code high :: .code low :: rest =>
    if isHigh high && isLow low then
      Char.ofNat (0x10000 + (high - 0xD800) * 0x400 + (low - 0xDC00)) :: join rest
    else loneCode high :: join (.code low :: rest)
  | .code code :: rest => loneCode code :: join rest

/-- A string whose opening quote has been read. -/
def readText (text : List Char) : Option (String × List Char) :=
  (pieces text).map fun (found, after) => (String.ofList (join found), after)

/-- The digits at the start of a text, and the rest. -/
def spanDigits (text : List Char) : List Char × List Char := text.span Char.isDigit

/-- The whole part of a number: no leading zero. -/
def readWhole (text : List Char) : Option (List Char × List Char) :=
  match spanDigits text with
  | ([], _) => none
  | ('0' :: _ :: _, _) => none
  | (digits, rest) => some (digits, rest)

/-- Read an optional fraction. -/
def readFraction : List Char → Option (List Char × List Char)
  | '.' :: rest =>
    match spanDigits rest with
    | ([], _) => none
    | (digits, after) => some ('.' :: digits, after)
  | text => some ([], text)

/-- Read an optional exponent. -/
def readExponent : List Char → Option (List Char × List Char)
  | mark :: rest =>
    if mark = 'e' ∨ mark = 'E' then
      let (sign, unsigned) := rest.span fun character => character = '+' || character = '-'
      match spanDigits unsigned with
      | ([], _) => none
      | (digits, after) => if sign.length ≤ 1 then some (mark :: sign ++ digits, after) else none
    else some ([], mark :: rest)
  | [] => some ([], [])

/-- Read a number; its literal is kept. -/
def readNumber (text : List Char) : Option (String × List Char) := do
  let (sign, unsigned) := match text with
    | '-' :: rest => (['-'], rest)
    | text => ([], text)
  let (whole, text) ← readWhole unsigned
  let (fraction, text) ← readFraction text
  let (exponent, text) ← readExponent text
  return (String.ofList (sign ++ whole ++ fraction ++ exponent), text)

mutual
/-- A document at the head of a text. -/
def readValue : Nat → List Char → Option (Value × List Char)
  | 0, _ => none
  | fuel + 1, text =>
    match skipSpace text with
    | 'n' :: 'u' :: 'l' :: 'l' :: rest => some (.null, rest)
    | 't' :: 'r' :: 'u' :: 'e' :: rest => some (.bool true, rest)
    | 'f' :: 'a' :: 'l' :: 's' :: 'e' :: rest => some (.bool false, rest)
    | '"' :: rest => (readText rest).map fun (found, after) => (.string found, after)
    | '[' :: rest =>
      match skipSpace rest with
      | ']' :: after => some (.array [], after)
      | inside => do
          let (first, after) ← readValue fuel inside
          let (more, after) ← readElements fuel after
          return (.array (first :: more), after)
    | '{' :: rest =>
      match skipSpace rest with
      | '}' :: after => some (.object [], after)
      | inside => do
          let (first, after) ← readMember fuel inside
          let (more, after) ← readMembers fuel after
          return (.object (first :: more), after)
    | number => (readNumber number).map fun (literal, after) => (.number literal, after)

/-- Read a name, a colon and a value. -/
def readMember : Nat → List Char → Option ((String × Value) × List Char)
  | 0, _ => none
  | fuel + 1, text =>
    match skipSpace text with
    | '"' :: rest => do
        let (name, after) ← readText rest
        match skipSpace after with
        | ':' :: after =>
          let (value, after) ← readValue fuel after
          return ((name, value), after)
        | _ => none
    | _ => none

/-- Elements after the first, up to the closing bracket. -/
def readElements : Nat → List Char → Option (List Value × List Char)
  | 0, _ => none
  | fuel + 1, text =>
    match skipSpace text with
    | ']' :: after => some ([], after)
    | ',' :: rest => do
        let (value, after) ← readValue fuel rest
        let (more, after) ← readElements fuel after
        return (value :: more, after)
    | _ => none

/-- Members after the first, up to the closing brace. -/
def readMembers : Nat → List Char → Option (List (String × Value) × List Char)
  | 0, _ => none
  | fuel + 1, text =>
    match skipSpace text with
    | '}' :: after => some ([], after)
    | ',' :: rest => do
        let (member, after) ← readMember fuel rest
        let (more, after) ← readMembers fuel after
        return (member :: more, after)
    | _ => none
end

/-- Read one document, and return what follows it. -/
def parse (text : List Char) : Option (Value × List Char) := readValue (text.length + 1) text

/-! ## Strings -/

theorem hexValue_hexDigit : ∀ number < 16, hexValue (hexDigit number) = some number := by decide

/-- Four digits give the code back. -/
theorem codeValue_digits {code : Nat} (small : code < 65536) :
    codeValue (hexDigit (code / 4096 % 16)) (hexDigit (code / 256 % 16))
      (hexDigit (code / 16 % 16)) (hexDigit (code % 16)) = some code := by
  have digit : ∀ number, hexValue (hexDigit (number % 16)) = some (number % 16) :=
    fun number => hexValue_hexDigit _ (Nat.mod_lt _ (by decide))
  simp only [codeValue, digit, Option.bind_eq_bind, Option.bind_some, Option.pure_def,
    Option.some.injEq]
  omega

theorem shortMeaning_shortEscape {character letter : Char}
    (short : shortEscape character = some letter) :
    shortMeaning letter = some character ∧ letter ≠ 'u' := by
  simp only [shortEscape] at short
  split at short
  all_goals first
    | (cases short; decide)
    | cases short

/-- A character without a short escape is neither a quote nor a backslash. -/
theorem plain_of_shortEscape {character : Char} (long : shortEscape character = none) :
    character ≠ '"' ∧ character ≠ '\\' := by
  constructor
  · rintro rfl
    cases long
  · rintro rfl
    cases long

theorem isCoded_lt {character : Char} (coded : isCoded character = true) :
    character.toNat < 0xD800 := by
  simp only [isCoded, Bool.or_eq_true, decide_eq_true_eq] at coded
  rcases coded with ((((control | rfl) | rfl) | rfl) | rfl) | rfl
  · omega
  all_goals decide

/-- What the writer puts for a character. -/
def piece (character : Char) : Piece :=
  if shortEscape character = none ∧ isCoded character = true then .code character.toNat
  else .character character

theorem pieces_escape (character : Char) (rest : List Char) :
    pieces (escape character ++ rest) =
      (pieces rest).map fun (found, after) => (piece character :: found, after) := by
  simp only [escape, piece]
  cases short : shortEscape character with
  | some letter =>
    obtain ⟨meaning, notCode⟩ := shortMeaning_shortEscape short
    simp only [List.cons_append, List.nil_append, reduceCtorEq, false_and, if_false]
    rw [pieces.eq_4 _ _ (by simp [notCode]), meaning]
  | none =>
    obtain ⟨notQuote, notBackslash⟩ := plain_of_shortEscape short
    cases coded : isCoded character with
    | true =>
      have small := isCoded_lt coded
      simp only [codeEscape, List.cons_append, List.nil_append, pieces, true_and, if_true]
      rw [codeValue_digits (by omega)]
    | false =>
      have printable : ¬ character.toNat < 0x20 := by
        intro control
        simp [isCoded, control] at coded
      simp only [List.cons_append, List.nil_append, Bool.false_eq_true, and_false, if_false]
      rw [pieces.eq_5 _ _ notQuote (by simp [notBackslash]) (by simp [notBackslash]),
        if_neg (by simp [notBackslash, printable])]

/-- A code that does not open a pair stands for itself. -/
theorem join_code {code : Nat} (notHigh : isHigh code = false) (rest : List Piece) :
    join (.code code :: rest) = loneCode code :: join rest := by
  cases rest with
  | nil => simp [join]
  | cons next rest =>
    cases next with
    | character _ => simp [join]
    | code _ => rw [join, if_neg (by simp [notHigh])]

theorem join_pieces (characters : List Char) : join (characters.map piece) = characters := by
  induction characters with
  | nil => rfl
  | cons character rest joined =>
    rw [List.map_cons]
    by_cases coded : shortEscape character = none ∧ isCoded character = true
    · have small := isCoded_lt coded.2
      have notHigh : isHigh character.toNat = false := by
        simp only [isHigh, Bool.and_eq_false_iff, decide_eq_false_iff_not]
        omega
      have notLow : isLow character.toNat = false := by
        simp only [isLow, Bool.and_eq_false_iff, decide_eq_false_iff_not]
        omega
      rw [piece, if_pos coded, join_code notHigh, joined]
      simp [loneCode, notHigh, notLow]
    · rw [piece, if_neg coded, join, joined]

theorem pieces_escaped (characters rest : List Char) :
    pieces (characters.flatMap escape ++ '"' :: rest) = some (characters.map piece, rest) := by
  induction characters with
  | nil => simp [pieces]
  | cons character characters read =>
    rw [List.flatMap_cons, List.append_assoc, pieces_escape, read]
    rfl

theorem readText_rendered (text : String) (rest : List Char) :
    readText (text.toList.flatMap escape ++ '"' :: rest) = some (text, rest) := by
  simp only [readText, pieces_escaped, Option.map_some, join_pieces, String.ofList_toList]

/-! ## The round trip -/

/-- A document without numbers. -/
inductive Plain : Value → Prop
  | null : Plain .null
  | bool (value : Bool) : Plain (.bool value)
  | string (text : String) : Plain (.string text)
  | array {elements : List Value} (plain : ∀ value ∈ elements, Plain value) :
      Plain (.array elements)
  | object {members : List (String × Value)} (plain : ∀ member ∈ members, Plain member.2) :
      Plain (.object members)

/-- A token that does not begin with white space is not skipped. -/
theorem skipSpace_cons {character : Char} (token : isSpace character = false) (rest : List Char) :
    skipSpace (character :: rest) = character :: rest := by
  simp [skipSpace, token]

theorem renderText_append (text : String) (rest : List Char) :
    renderText text ++ rest = '"' :: (text.toList.flatMap escape ++ '"' :: rest) := by
  simp [renderText]

/-- Given enough fuel, the reader takes the text for the result, whatever follows it. -/
def Reads {Result : Type} (reader : Nat → List Char → Option (Result × List Char))
    (text : List Char) (result : Result) : Prop :=
  ∀ fuel rest, text.length ≤ fuel → reader fuel (text ++ rest) = some (result, rest)

/-- A document begins with a token that closes nothing. -/
theorem Plain.head {value : Value} (plain : Plain value) :
    ∃ character rest, value.render = character :: rest ∧ isSpace character = false ∧
      character ≠ ']' := by
  cases plain with
  | null => exact ⟨'n', _, rfl, by decide, by decide⟩
  | bool value =>
    cases value with
    | true => exact ⟨'t', _, rfl, by decide, by decide⟩
    | false => exact ⟨'f', _, rfl, by decide, by decide⟩
  | string text => exact ⟨'"', _, rfl, by decide, by decide⟩
  | @array elements _ =>
    cases elements with
    | nil => exact ⟨'[', _, rfl, by decide, by decide⟩
    | cons => exact ⟨'[', _, rfl, by decide, by decide⟩
  | @object members _ =>
    cases members with
    | nil => exact ⟨'{', _, rfl, by decide, by decide⟩
    | cons member => exact ⟨'{', _, rfl, by decide, by decide⟩

theorem reads_elements {elements : List Value}
    (each : ∀ value ∈ elements, Reads readValue value.render value) :
    Reads readElements (renderElements elements ++ [']']) elements := by
  induction elements with
  | nil =>
    intro fuel rest enough
    obtain _ | fuel := fuel
    · simp at enough
    simp [renderElements, readElements, skipSpace_cons (show isSpace ']' = false by decide)]
  | cons value elements read =>
    intro fuel rest enough
    simp only [renderElements, List.cons_append, List.append_assoc, List.length_cons,
      List.length_append] at enough ⊢
    obtain _ | fuel := fuel
    · omega
    have first := each value List.mem_cons_self fuel
      (renderElements elements ++ ']' :: rest) (by omega)
    have more := read (fun other member => each other (List.mem_cons_of_mem _ member)) fuel rest
      (by simp only [List.length_append, List.length_singleton]; omega)
    simp only [List.append_assoc, List.cons_append, List.nil_append] at more
    simp [readElements, skipSpace_cons (show isSpace ',' = false by decide), first, more]

theorem reads_member (name : String) {value : Value}
    (reads : Reads readValue value.render value) :
    Reads readMember (renderText name ++ ':' :: value.render) (name, value) := by
  intro fuel rest enough
  simp only [List.length_append, List.length_cons] at enough
  obtain _ | fuel := fuel
  · omega
  have inner := reads fuel rest (by omega)
  rw [List.append_assoc, renderText_append]
  simp [readMember, skipSpace_cons (show isSpace '"' = false by decide), readText_rendered,
    skipSpace_cons (show isSpace ':' = false by decide), inner]

theorem reads_members {members : List (String × Value)}
    (each : ∀ member ∈ members, Reads readValue member.2.render member.2) :
    Reads readMembers (renderMembers members ++ ['}']) members := by
  induction members with
  | nil =>
    intro fuel rest enough
    obtain _ | fuel := fuel
    · simp at enough
    simp [renderMembers, readMembers, skipSpace_cons (show isSpace '}' = false by decide)]
  | cons member members read =>
    intro fuel rest enough
    obtain ⟨name, value⟩ := member
    simp only [renderMembers, List.cons_append, List.append_assoc, List.length_cons,
      List.length_append] at enough ⊢
    obtain _ | fuel := fuel
    · omega
    have first := reads_member name (each (name, value) List.mem_cons_self) fuel
      (renderMembers members ++ '}' :: rest)
      (by simp only [List.length_append, List.length_cons]; omega)
    have more := read (fun other member => each other (List.mem_cons_of_mem _ member)) fuel rest
      (by simp only [List.length_append, List.length_singleton]; omega)
    simp only [List.append_assoc, List.cons_append, List.nil_append] at first more
    simp [readMembers, skipSpace_cons (show isSpace ',' = false by decide), first, more]

/-- **A written document is read back, whatever follows it.** -/
theorem Plain.reads {value : Value} (plain : Plain value) :
    Reads readValue value.render value := by
  induction plain with
  | null =>
    intro fuel rest enough
    obtain _ | fuel := fuel
    · simp [Value.render] at enough
    · simp [Value.render, readValue, skipSpace_cons (show isSpace 'n' = false by decide)]
  | bool value =>
    intro fuel rest enough
    obtain _ | fuel := fuel
    · cases value <;> simp [Value.render] at enough
    · cases value with
      | true => simp [Value.render, readValue, skipSpace_cons (show isSpace 't' = false by decide)]
      | false =>
        simp [Value.render, readValue, skipSpace_cons (show isSpace 'f' = false by decide)]
  | string text =>
    intro fuel rest enough
    obtain _ | fuel := fuel
    · simp [Value.render, renderText] at enough
    · rw [Value.render, renderText_append]
      simp [readValue, skipSpace_cons (show isSpace '"' = false by decide), readText_rendered]
  | @array elements plain read =>
    intro fuel rest enough
    obtain _ | fuel := fuel
    · cases elements <;> simp [Value.render] at enough
    cases elements with
    | nil =>
      simp [Value.render, readValue, skipSpace_cons (show isSpace '[' = false by decide),
        skipSpace_cons (show isSpace ']' = false by decide)]
    | cons first elements =>
      simp only [Value.render, List.cons_append, List.append_assoc, List.length_cons,
        List.length_append] at enough ⊢
      have one := read first List.mem_cons_self fuel (renderElements elements ++ ']' :: rest)
        (by omega)
      have more := reads_elements
        (fun other member => read other (List.mem_cons_of_mem _ member)) fuel rest
        (by simp only [List.length_append, List.length_singleton]; omega)
      simp only [List.append_assoc, List.cons_append, List.nil_append] at more
      obtain ⟨character, tail, head, token, notClosing⟩ :=
        (plain first List.mem_cons_self).head
      rw [head, List.cons_append] at one
      simp only [readValue, skipSpace_cons (show isSpace '[' = false by decide)]
      rw [List.nil_append, head, List.cons_append, skipSpace_cons token]
      split
      · next closed =>
        cases closed
        exact absurd rfl notClosing
      · simp [one, more]
  | @object members plain read =>
    intro fuel rest enough
    obtain _ | fuel := fuel
    · cases members <;> simp [Value.render] at enough
    cases members with
    | nil =>
      simp [Value.render, readValue, skipSpace_cons (show isSpace '{' = false by decide),
        skipSpace_cons (show isSpace '}' = false by decide)]
    | cons member members =>
      obtain ⟨name, first⟩ := member
      simp only [Value.render, List.cons_append, List.append_assoc, List.length_cons,
        List.length_append] at enough ⊢
      have one := reads_member name (read (name, first) List.mem_cons_self) fuel
        (renderMembers members ++ '}' :: rest)
        (by simp only [List.length_append, List.length_cons]; omega)
      have more := reads_members
        (fun other member => read other (List.mem_cons_of_mem _ member)) fuel rest
        (by simp only [List.length_append, List.length_singleton]; omega)
      simp only [List.append_assoc, List.cons_append, List.nil_append, renderText_append]
        at one more ⊢
      simp [readValue, skipSpace_cons (show isSpace '{' = false by decide),
        skipSpace_cons (show isSpace '"' = false by decide), one, more]

/-- **The round trip.** -/
theorem parse_render {value : Value} (plain : Plain value) :
    parse value.render = some (value, []) := by
  have read := plain.reads (value.render.length + 1) [] (Nat.le_succ _)
  rwa [List.append_nil] at read

/-! ## Sizes -/

/-- The length of a text in bytes. -/
def byteLength (text : List Char) : Nat := (text.map Char.utf8Size).sum

@[simp] theorem byteLength_nil : byteLength [] = 0 := rfl

@[simp] theorem byteLength_cons (character : Char) (text : List Char) :
    byteLength (character :: text) = character.utf8Size + byteLength text := by
  simp [byteLength]

@[simp] theorem byteLength_append (first second : List Char) :
    byteLength (first ++ second) = byteLength first + byteLength second := by
  simp [byteLength]

/-- The bytes of a character inside a string: two for a short escape, six for an escape by code,
and its own otherwise. -/
def escapedBytes (character : Char) : Nat :=
  if character ∈ ['"', '\\', '\x08', '\x0c', '\n', '\r', '\t'] then 2
  else if character.toNat < 0x20 ∨ character ∈ ['<', '>', '&', '\u2028', '\u2029'] then 6
  else character.utf8Size

/-- The bytes of a string with its quotes and escapes. -/
def textBytes (text : String) : Nat := 2 + (text.toList.map escapedBytes).sum

theorem utf8Size_hexDigit : ∀ number < 16, (hexDigit number).utf8Size = 1 := by decide

theorem byteLength_codeEscape (code : Nat) : byteLength (codeEscape code) = 6 := by
  have digit : ∀ number, (hexDigit (number % 16)).utf8Size = 1 :=
    fun number => utf8Size_hexDigit _ (Nat.mod_lt _ (by decide))
  have backslash : Char.utf8Size '\\' = 1 := by decide
  have letter : Char.utf8Size 'u' = 1 := by decide
  simp only [codeEscape, byteLength_cons, byteLength_nil, digit, backslash, letter]

theorem shortEscape_isSome (character : Char) :
    (shortEscape character).isSome = true ↔
      character ∈ ['"', '\\', '\x08', '\x0c', '\n', '\r', '\t'] := by
  constructor
  · intro short
    simp only [shortEscape] at short
    split at short
    all_goals first
      | decide
      | cases short
  · simp only [List.mem_cons, List.not_mem_nil, or_false]
    rintro (rfl | rfl | rfl | rfl | rfl | rfl | rfl)
    all_goals rfl

theorem byteLength_escape (character : Char) :
    byteLength (escape character) = escapedBytes character := by
  simp only [escape, escapedBytes, ← shortEscape_isSome]
  cases short : shortEscape character with
  | some letter =>
    have size : byteLength ['\\', letter] = 2 := by
      simp only [shortEscape] at short
      split at short
      all_goals first
        | (cases short; decide)
        | cases short
    simpa using size
  | none =>
    have coded_iff : isCoded character = true ↔
        character.toNat < 0x20 ∨ character ∈ ['<', '>', '&', '\u2028', '\u2029'] := by
      simp [isCoded, or_assoc]
    simp only [Option.isSome_none, Bool.false_eq_true, if_false, ← coded_iff]
    split
    · exact byteLength_codeEscape _
    · simp

/-- **The size of a string.** -/
theorem byteLength_renderText (text : String) : byteLength (renderText text) = textBytes text := by
  have inner : byteLength (text.toList.flatMap escape) = (text.toList.map escapedBytes).sum := by
    induction text.toList with
    | nil => rfl
    | cons character rest added =>
      simp only [List.flatMap_cons, byteLength_append, byteLength_escape, added, List.map_cons,
        List.sum_cons]
  have quote : Char.utf8Size '"' = 1 := by decide
  simp only [renderText, List.cons_append, byteLength_cons, byteLength_append, byteLength_nil,
    inner, quote, textBytes]
  omega

theorem byteLength_array {elements : List Value} (some_ : elements ≠ []) :
    byteLength (Value.array elements).render =
      1 + (elements.map fun value => 1 + byteLength value.render).sum := by
  have separators : ∀ rest, byteLength (renderElements rest) =
      (rest.map fun value => 1 + byteLength value.render).sum := by
    intro rest
    induction rest with
    | nil => rfl
    | cons value rest added =>
      have comma : Char.utf8Size ',' = 1 := by decide
      simp [renderElements, added, comma, Nat.add_assoc]
  cases elements with
  | nil => exact absurd rfl some_
  | cons first rest =>
    have opening : Char.utf8Size '[' = 1 := by decide
    have closing : Char.utf8Size ']' = 1 := by decide
    simp only [Value.render, List.cons_append, byteLength_cons, byteLength_append,
      byteLength_nil, separators, opening, closing, List.map_cons, List.sum_cons]
    omega

theorem byteLength_object {members : List (String × Value)} (some_ : members ≠ []) :
    byteLength (Value.object members).render =
      1 + (members.map fun member => 2 + textBytes member.1 + byteLength member.2.render).sum := by
  have colon : Char.utf8Size ':' = 1 := by decide
  have separators : ∀ rest, byteLength (renderMembers rest) =
      (rest.map fun member => 2 + textBytes member.1 + byteLength member.2.render).sum := by
    intro rest
    induction rest with
    | nil => rfl
    | cons member rest added =>
      have comma : Char.utf8Size ',' = 1 := by decide
      simp only [renderMembers, List.cons_append, byteLength_cons, byteLength_append, added,
        byteLength_renderText, comma, colon, List.map_cons, List.sum_cons]
      omega
  cases members with
  | nil => exact absurd rfl some_
  | cons first rest =>
    have opening : Char.utf8Size '{' = 1 := by decide
    have closing : Char.utf8Size '}' = 1 := by decide
    simp only [Value.render, List.cons_append, byteLength_cons, byteLength_append,
      byteLength_nil, separators, byteLength_renderText, opening, closing, colon, List.map_cons,
      List.sum_cons]
    omega

end Json
