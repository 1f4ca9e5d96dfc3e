import Mathlib

/-!
# Replacing a file

A program that keeps its state in one file writes a new version beside the old one, makes it
durable, renames it over the old one and then makes the directory durable.  Each of these steps can
fail, and the program stops at the first that does.  `Directory.replace` runs the steps in order
with at most one of them failing.

`replace_file` says what the file holds afterwards: the old document when a step up to the rename
has failed, and the new one otherwise, although a later failure is still reported.

A `Format` is the format of the documents: what is written can be read back, up to a size, and a
reader checks what it has read.  `Format.persist_cases` combines the two: encoding fails and nothing
is touched, or the steps run with the encoded document.
-/

namespace Replacement

/-! ## The steps -/

/-- The steps of replacing a file. -/
inductive FileStep
  | createTemp
  | chmod
  | write
  | sync
  | close
  | rename
  | openDirectory
  | syncDirectory
  deriving DecidableEq, Repr

/-- The step comes after the rename. -/
def FileStep.late : FileStep → Bool
  | .openDirectory | .syncDirectory => true
  | _ => false

/-- A directory with the file and the temporary file beside it.  A temporary file holds nothing
until a document is completely written to it. -/
structure Directory (Document : Type) where
  file : Option Document
  temporary : Option (Option Document)
  deriving DecidableEq, Repr

namespace Directory

variable {Document : Type}

/-- What a step does when it succeeds. -/
def apply (document : Document) (directory : Directory Document) :
    FileStep → Directory Document
  | .createTemp => { directory with temporary := some none }
  | .write => { directory with temporary := some (some document) }
  | .rename => ⟨directory.temporary.getD directory.file, none⟩
  | .chmod | .sync | .close | .openDirectory | .syncDirectory => directory

/-- Take the steps up to the one that fails. -/
def run (failing : Option FileStep) (document : Document) :
    List FileStep → Directory Document → Except FileStep Unit × Directory Document
  | [], directory => (.ok (), directory)
  | step :: rest, directory =>
    if failing = some step then (.error step, directory)
    else run failing document rest (directory.apply document step)

/-- The steps in their order. -/
def steps : List FileStep :=
  [.createTemp, .chmod, .write, .sync, .close, .rename, .openDirectory, .syncDirectory]

/-- Remove the temporary file, if there is one. -/
def cleared (directory : Directory Document) : Directory Document :=
  { directory with temporary := none }

/-- Replace the file by a document, with at most one step failing.  However the steps end, the
temporary file is removed. -/
def replace (failing : Option FileStep) (document : Document) (directory : Directory Document) :
    Except FileStep Unit × Directory Document :=
  let (outcome, after) := directory.run failing document steps
  (outcome, after.cleared)

theorem replace_outcome (failing : Option FileStep) (document : Document)
    (directory : Directory Document) :
    (directory.replace failing document).1 =
      match failing with
      | none => .ok ()
      | some step => .error step := by
  cases failing with
  | none => rfl
  | some step => cases step <;> rfl

/-- **The file holds the new document unless a step up to the rename fails.** -/
theorem replace_file (failing : Option FileStep) (document : Document)
    (directory : Directory Document) :
    (directory.replace failing document).2.file =
      if failing.all FileStep.late then some document else directory.file := by
  cases failing with
  | none => rfl
  | some step => cases step <;> rfl

end Directory

/-! ## Documents -/

/-- A format for values: how they are encoded, how large a document may be, how it is read, and
what a reader accepts. -/
structure Format (Value : Type) where
  Document : Type
  size : Document → Nat
  limit : Nat
  encode : Value → Except String Document
  decode : Document → Except String Value
  accepts : Value → Bool
  decode_encode : ∀ {value : Value} {document : Document},
    encode value = .ok document → decode document = .ok value

/-- Why a value is not written. -/
inductive PersistError
  | encode (detail : String)
  | tooLarge
  | step (step : FileStep)
  deriving DecidableEq, Repr

/-- Why a document is not read. -/
inductive LoadError
  | tooLarge
  | decode (detail : String)
  | rejected
  deriving DecidableEq, Repr

namespace Format

variable {Value : Type} (format : Format Value)

/-- Write a value into the file. -/
def persist (failing : Option FileStep) (value : Value) (directory : Directory format.Document) :
    Except PersistError Unit × Directory format.Document :=
  match format.encode value with
  | .error detail => (.error (.encode detail), directory)
  | .ok document =>
    if format.limit < format.size document then (.error .tooLarge, directory)
    else
      let (outcome, after) := directory.replace failing document
      (outcome.mapError .step, after)

/-- Read a value from a document. -/
def load (document : format.Document) : Except LoadError Value :=
  if format.limit < format.size document then .error .tooLarge
  else
    match format.decode document with
    | .error detail => .error (.decode detail)
    | .ok value => if format.accepts value then .ok value else .error .rejected

/-- Why a file is not opened. -/
inductive OpenError
  | persist (error : PersistError)
  | load (error : LoadError)
  deriving DecidableEq, Repr

/-- Open a file, which may not exist yet. -/
def start (initial : Value) (failing : Option FileStep) (directory : Directory format.Document) :
    Except OpenError (Value × Directory format.Document) :=
  match directory.file with
  | none =>
    match format.persist failing initial directory with
    | (.ok (), after) => .ok (initial, after)
    | (.error error, _) => .error (.persist error)
  | some document =>
    match format.load document with
    | .ok value => .ok (value, directory)
    | .error error => .error (.load error)

/-- What opening the file gives when nothing fails. -/
def opens (initial : Value) (directory : Directory format.Document) : Except OpenError Value :=
  (format.start initial none directory).map Prod.fst

/-- Opening the file, with nothing failing, gives a value. -/
def Holds (initial : Value) (directory : Directory format.Document) (value : Value) : Prop :=
  format.opens initial directory = .ok value

/-- A value has a document of an admissible size. -/
def Writable (value : Value) : Prop :=
  ∃ document, format.encode value = .ok document ∧ ¬ format.limit < format.size document

/-! ## Writing and opening -/

theorem persist_cases (value : Value) (directory : Directory format.Document) :
    (¬ format.Writable value ∧
      ∃ error, ∀ failing, format.persist failing value directory = (.error error, directory)) ∨
    ∃ document, format.encode value = .ok document ∧ ¬ format.limit < format.size document ∧
      ∀ failing : Option FileStep,
        (format.persist failing value directory).1 =
            (match failing with
              | none => .ok ()
              | some step => .error (.step step)) ∧
          (format.persist failing value directory).2.file =
            if failing.all FileStep.late then some document else directory.file := by
  cases encoded : format.encode value with
  | error detail =>
    exact .inl ⟨by simp [Writable, encoded], .encode detail,
      fun failing => by simp only [persist, encoded]⟩
  | ok document =>
    by_cases large : format.limit < format.size document
    · exact .inl ⟨by simpa [Writable, encoded] using large, .tooLarge,
        fun failing => by simp only [persist, encoded, if_pos large]⟩
    · refine .inr ⟨document, rfl, large, fun failing => ?_⟩
      have written : format.persist failing value directory =
          ((directory.replace failing document).1.mapError .step,
            (directory.replace failing document).2) := by
        simp only [persist, encoded, if_neg large]
      rw [written, Directory.replace_outcome, Directory.replace_file]
      cases failing with
      | none => exact ⟨rfl, rfl⟩
      | some step => exact ⟨rfl, rfl⟩

theorem persist_outcome (failing : Option FileStep) (value : Value)
    (first second : Directory format.Document) :
    (format.persist failing value first).1 = (format.persist failing value second).1 := by
  simp only [persist]
  split
  · rfl
  split
  · rfl
  · simp only [Directory.replace_outcome]

theorem persist_succeeded {failing : Option FileStep} {value : Value}
    {directory after : Directory format.Document}
    (persisted : format.persist failing value directory = (.ok (), after)) : failing = none := by
  rcases format.persist_cases value directory with ⟨-, error, refused⟩ | ⟨_, _, _, written⟩
  · rw [refused failing] at persisted
    cases persisted
  · have outcome := (written failing).1
    rw [persisted] at outcome
    cases failing with
    | none => rfl
    | some step => cases outcome

variable {format} {initial value before next : Value} {directory : Directory format.Document}
variable {after : Directory format.Document} {failing : Option FileStep}
  {document : format.Document}

theorem holds_none (missing : directory.file = none) :
    format.Holds initial directory value ↔
      (format.persist none initial directory).1 = .ok () ∧ initial = value := by
  simp only [Holds, opens, start, missing]
  cases format.persist none initial directory with
  | mk outcome after => cases outcome <;> simp [Except.map]

theorem holds_some (present : directory.file = some document) :
    format.Holds initial directory value ↔ format.load document = .ok value := by
  simp only [Holds, opens, start, present]
  cases format.load document <;> simp [Except.map]

/-- Opening looks at the file only. -/
theorem opens_congr {other : Directory format.Document} (same : other.file = directory.file) :
    format.opens initial other = format.opens initial directory := by
  simp only [opens, start, same]
  have outcomes := format.persist_outcome none initial other directory
  cases directory.file with
  | some document => cases loaded : format.load document <;> simp [loaded, Except.map]
  | none =>
    cases first : format.persist none initial other with
    | mk outcome after =>
      cases second : format.persist none initial directory with
      | mk _ _ =>
        rw [first, second] at outcomes
        cases outcomes
        cases outcome <;> rfl

theorem load_accepted (loaded : format.load document = .ok value) :
    format.accepts value = true := by
  simp only [load] at loaded
  split at loaded
  · cases loaded
  split at loaded
  · cases loaded
  split at loaded
  · next accepted =>
    cases loaded
    exact accepted
  · cases loaded

theorem Holds.accepted (acceptsInitial : format.accepts initial = true)
    (holds : format.Holds initial directory value) : format.accepts value = true := by
  cases present : directory.file with
  | none =>
    obtain ⟨_, rfl⟩ := (holds_none present).mp holds
    exact acceptsInitial
  | some document => exact load_accepted ((holds_some present).mp holds)

/-- A document in place is read as the value it was written for. -/
theorem holds_encoded (present : directory.file = some document)
    (encoded : format.encode value = .ok document) (fits : ¬ format.limit < format.size document)
    (accepted : format.accepts value = true) : format.Holds initial directory value := by
  rw [holds_some present]
  simp only [load, if_neg fits, format.decode_encode encoded, if_pos accepted]

/-- **What has been written can be opened again.** -/
theorem holds_persisted (accepted : format.accepts value = true)
    (persisted : format.persist failing value directory = (.ok (), after)) :
    format.Holds initial after value := by
  rcases format.persist_cases value directory with ⟨-, error, refused⟩ |
    ⟨document, encoded, fits, written⟩
  · rw [refused failing] at persisted
    cases persisted
  · have file := (written failing).2
    rw [persisted, format.persist_succeeded persisted] at file
    exact holds_encoded file encoded fits accepted

/-- No step after the rename fails. -/
def Early (failing : Option FileStep) : Prop := ∀ step ∈ failing, step.late = false

/-- **What a failed write does to the file.**  It leaves what the file holds if it fails before the
file is replaced or the value cannot be written at all, and otherwise the file holds the value. -/
theorem failed_cases (initial : Value) (accepted : format.accepts next = true)
    {error : PersistError}
    (failed : format.persist failing next directory = (.error error, after)) :
    (Early failing ∨ ¬ format.Writable next) ∧
        format.opens initial after = format.opens initial directory ∨
      (¬ Early failing ∧ format.Writable next) ∧ format.Holds initial after next := by
  rcases format.persist_cases next directory with
    ⟨unwritable, _, refused⟩ | ⟨document, encoded, fits, written⟩
  · rw [refused failing] at failed
    cases failed
    exact .inl ⟨.inr unwritable, rfl⟩
  obtain ⟨outcome, file⟩ := written failing
  rw [failed] at outcome file
  cases failing with
  | none => cases outcome
  | some step =>
    cases late : step.late with
    | false =>
      exact .inl ⟨.inl (by simpa [Early] using late),
        opens_congr (file.trans (if_neg (by simp [late])))⟩
    | true =>
      exact .inr ⟨⟨by simpa [Early] using late, document, encoded, fits⟩,
        holds_encoded (file.trans (if_pos (by simpa using late))) encoded fits accepted⟩

/-- A failure before the file is replaced leaves what it holds. -/
theorem Holds.failed (holds : format.Holds initial directory before)
    (accepted : format.accepts next = true) (early : Early failing) {error : PersistError}
    (failed : format.persist failing next directory = (.error error, after)) :
    format.Holds initial after before := by
  rcases failed_cases initial accepted failed with ⟨-, unchanged⟩ | ⟨⟨late, -⟩, -⟩
  · exact unchanged.trans holds
  · exact absurd early late

end Format

end Replacement
