import Brezel.Domain.Text
import Brezel.Library.Json
import Brezel.Library.Table

/-!
# Commands through the relay

The service accepts a command (`validateRunCommand`), the relay client writes it as canonical JSON
and signs the digest of that text, and the relay server reads it, checks it again
(`validateRelayCommand`) and recomputes the digest from what it has read.

The service bounds the bytes of the command itself; the relay bounds the bytes of its JSON, in which
a character can take six bytes.  `command_fits_relay_iff` says which accepted commands get through.
-/

namespace Brezel.Node

open Domain

/-- The environment of a command. -/
abbrev Variables := AList fun _ : String => String

/-! ## What the service accepts -/

/-- `RunCommandInput`. -/
structure RunCommandInput where
  argv : List String
  cwd : String
  env : Variables
  timeoutSeconds : Int

/-- `MaxCommandSeconds`. -/
def maxCommandSeconds : Int := 60 * 60

/-- The pattern for names of variables. -/
def environmentKey (text : String) : Bool :=
  match text.toList with
  | [] => false
  | first :: rest =>
    ((isAlphanumeric first && !first.isDigit) || first = '_') && rest.length ≤ 127 &&
      rest.all fun character => isAlphanumeric character || character = '_'

/-- The segments of the resolved path; `kept` holds those before, the last first. -/
def resolveSegments : List (List Char) → List (List Char) → List (List Char)
  | kept, [] => kept.reverse
  | kept, segment :: rest =>
    if segment = [] ∨ segment = ['.'] then resolveSegments kept rest
    else if segment = ['.', '.'] then resolveSegments kept.tail rest
    else resolveSegments (segment :: kept) rest

/-- `filepath.Clean` of an absolute path. -/
def cleanAbsolute (path : String) : String :=
  String.ofList ('/' :: ['/'].intercalate (resolveSegments [] (path.toList.splitOn '/')))

/-- `validateGuestPath`. -/
def validateGuestPath (path : String) : Except String Unit :=
  if path = "" ∨ containsAny path ['\x00', '\r', '\n'] then
    .error "path must be valid UTF-8 without NUL or newline bytes"
  else if 4096 < path.utf8ByteSize ∨ !hasStart path "/" ∨ cleanAbsolute path ≠ path then
    .error "path must be a clean absolute path of at most 4096 bytes"
  else .ok ()

/-- The bytes of all names and values. -/
def environmentBytes (env : Variables) : Nat :=
  (env.entries.map fun entry => entry.1.utf8ByteSize + entry.2.utf8ByteSize).sum

/-- `validateRunCommand`. -/
def validateRunCommand (input : RunCommandInput) : Except String Unit :=
  if input.argv = [] ∨ 256 < input.argv.length then
    .error "argv must contain between 1 and 256 entries"
  else if input.argv.any fun value => value = "" || containsAny value ['\x00'] then
    .error "argv entries must be non-empty UTF-8 without NUL bytes"
  else if 32 * 2 ^ 10 < (input.argv.map String.utf8ByteSize).sum then
    .error "argv exceeds 32768 bytes"
  else
    match if input.cwd = "" then .ok () else validateGuestPath input.cwd with
    | .error detail => .error ("cwd: " ++ detail)
    | .ok () =>
      if 128 < input.env.entries.length then .error "env cannot contain more than 128 entries"
      else if input.env.entries.any fun entry =>
          !environmentKey entry.1 || containsAny entry.2 ['\x00'] then
        .error "env contains an invalid key or value"
      else if 64 * 2 ^ 10 < environmentBytes input.env then .error "env exceeds 65536 bytes"
      else if input.timeoutSeconds < 0 ∨ maxCommandSeconds < input.timeoutSeconds then
        .error "timeout_seconds must be between 1 and 3600 when set"
      else .ok ()

/-! ## What the client sends -/

/-- `relayCommandRequest`. -/
structure RelayCommandRequest where
  argv : List String
  cwd : String
  env : Variables

/-- `commandProtocolRequest`. -/
def commandProtocolRequest (input : RunCommandInput) : RelayCommandRequest :=
  ⟨input.argv, input.cwd, input.env⟩

/-- The order of the names in JSON. -/
def keyOrder (first second : String) : Bool := first ≤ second

/-- The JSON of a request: an absent list is null, empty fields are left out, and the keys of a map
are sorted. -/
def RelayCommandRequest.toJson (request : RelayCommandRequest) : Json.Value :=
  .object (
    ("argv", if request.argv = [] then .null else .array (request.argv.map .string)) ::
    (if request.cwd = "" then [] else [("cwd", .string request.cwd)]) ++
    if request.env.entries = [] then []
    else [("env", .object ((Table.sorted keyOrder request.env).map
      fun entry => (entry.1, .string entry.2)))])

/-- `canonicalRelayJSON` of a command. -/
def canonicalRelayJSON (request : RelayCommandRequest) : List Char := request.toJson.render

/-- `RequestDigest` of a command, over SHA-256 and its text form. -/
def commandDigest (hash : List Char → String) (canonical : List Char) : String :=
  hash ("brezel.node.request.v1\x00command.run\x00".toList ++ canonical)

/-! ## What the server reads -/

/-- `relayMaxCommandRequest`. -/
def relayMaxCommandRequest : Nat := 128 * 2 ^ 10

/-- Decode a string; null gives none. -/
def readString : Json.Value → Option String
  | .string text => some text
  | .null => some ""
  | _ => none

/-- The field `argv`. -/
def decodeArgv : Json.Value → Option (List String)
  | .null => some []
  | .array values => values.mapM readString
  | _ => none

/-- The field `cwd`; null leaves it. -/
def decodeCwd (current : String) : Json.Value → Option String
  | .null => some current
  | .string text => some text
  | _ => none

/-- The field `env`; variables are added to those already read. -/
def decodeEnv (current : Variables) : Json.Value → Option Variables
  | .null => some ∅
  | .object members =>
    (members.mapM fun member => (readString member.2).map fun value => (member.1, value)).map
      fun entries => entries.foldl (fun env entry => env.insert entry.1 entry.2) current
  | _ => none

/-- Decode one field into a request.  Names are compared without regard to case; an unknown name or
a value of the wrong type is an error. -/
def decodeField (request : RelayCommandRequest) (field : String × Json.Value) :
    Option RelayCommandRequest :=
  let name := String.ofList (field.1.toList.map Char.toLower)
  if name = "argv" then (decodeArgv field.2).map fun argv => { request with argv := argv }
  else if name = "cwd" then
    (decodeCwd request.cwd field.2).map fun cwd => { request with cwd := cwd }
  else if name = "env" then
    (decodeEnv request.env field.2).map fun env => { request with env := env }
  else none

/-- Decode a request. -/
def decodeCommand : Json.Value → Option RelayCommandRequest
  | .null => some ⟨[], "", ∅⟩
  | .object members => members.foldlM decodeField ⟨[], "", ∅⟩
  | _ => none

/-- `decodeRelayJSON` into a command. -/
def decodeRelayJSON (maximum : Nat) (body : List Char) : Except String RelayCommandRequest :=
  if body = [] ∨ maximum < Json.byteLength body then
    .error "relay request body is empty or exceeds its limit"
  else
    match Json.parse body with
    | none => .error "invalid JSON"
    | some (value, after) =>
      match decodeCommand value with
      | none => .error "unknown field or wrong type"
      | some request =>
        if Json.skipSpace after = [] then .ok request
        else .error "relay request contains trailing JSON"

/-- `validRelayGuestPath`. -/
def validRelayGuestPath (path : String) : Bool :=
  path ≠ "" && path.utf8ByteSize ≤ 4096 && !containsAny path ['\x00', '\r', '\n'] &&
    hasStart path "/" && cleanAbsolute path = path

/-- `validateRelayCommand`. -/
def validateRelayCommand (request : RelayCommandRequest) : Except String Unit :=
  if request.argv = [] ∨ 256 < request.argv.length then .error "invalid argv"
  else if request.argv.any fun value => value = "" || containsAny value ['\x00'] then
    .error "invalid argv"
  else if 32 * 2 ^ 10 < (request.argv.map String.utf8ByteSize).sum ∨
      (request.cwd ≠ "" ∧ validRelayGuestPath request.cwd = false) ∨
      128 < request.env.entries.length then .error "invalid command"
  else if request.env.entries.any fun entry =>
      !environmentKey entry.1 || containsAny entry.2 ['\x00'] then .error "invalid environment"
  else if 64 * 2 ^ 10 < environmentBytes request.env then .error "invalid environment"
  else .ok ()

/-- The refusals of the command handler before it asks for authorisation: a status and a code. -/
def receiveCommand (body : List Char) : Except (Nat × String) RelayCommandRequest :=
  if relayMaxCommandRequest < Json.byteLength body then .error (413, "request_too_large")
  else
    match decodeRelayJSON relayMaxCommandRequest body with
    | .error _ => .error (400, "invalid_request")
    | .ok wire =>
      match validateRelayCommand wire with
      | .error _ => .error (400, "invalid_request")
      | .ok () => .ok wire

/-! ## The round trip -/

theorem mapM_readString (texts : List String) :
    (texts.map Json.Value.string).mapM readString = some texts := by
  induction texts with
  | nil => rfl
  | cons text rest read => simp [readString, read]

theorem mapM_readMember (entries : List (String × String)) :
    (entries.map fun entry => (entry.1, Json.Value.string entry.2)).mapM
        (fun member => (readString member.2).map fun value => (member.1, value)) =
      some entries := by
  induction entries with
  | nil => rfl
  | cons entry rest read =>
    rw [List.map_cons, List.mapM_cons, read]
    rfl

theorem plain_toJson (request : RelayCommandRequest) : Json.Plain request.toJson := by
  have strings : ∀ value ∈ request.argv.map Json.Value.string, Json.Plain value := by
    intro value member
    obtain ⟨text, _, rfl⟩ := List.mem_map.mp member
    exact .string text
  have argv : Json.Plain
      (if request.argv = [] then .null else .array (request.argv.map .string)) := by
    split
    · exact .null
    · exact .array strings
  have env : Json.Plain (.object ((Table.sorted keyOrder request.env).map
      fun entry => (entry.1, .string entry.2))) := by
    apply Json.Plain.object
    intro member inside
    obtain ⟨entry, _, rfl⟩ := List.mem_map.mp inside
    exact .string entry.2
  apply Json.Plain.object
  intro member present
  simp only [List.mem_append, List.mem_cons] at present
  rcases present with (rfl | directory) | environment
  · exact argv
  · split at directory
    · cases directory
    · rw [List.mem_singleton.mp directory]
      exact .string request.cwd
  · split at environment
    · cases environment
    · rw [List.mem_singleton.mp environment]
      exact env

/-- The request as it is read back: its variables are sorted. -/
def RelayCommandRequest.reread (request : RelayCommandRequest) : RelayCommandRequest :=
  { request with env := Table.collect (Table.sorted keyOrder request.env) }

theorem decodeField_argv (request : RelayCommandRequest) (texts : List String) :
    decodeField request ("argv", .array (texts.map .string)) =
      some { request with argv := texts } := by
  have name : String.ofList ("argv".toList.map Char.toLower) = "argv" := by decide
  simp only [decodeField, name, decodeArgv, mapM_readString, if_true, Option.map_some]

theorem decodeField_cwd (request : RelayCommandRequest) (text : String) :
    decodeField request ("cwd", .string text) = some { request with cwd := text } := by
  simp [decodeField, decodeCwd]

theorem decodeField_env (request : RelayCommandRequest) (entries : List (String × String))
    (none_ : request.env = ∅) :
    decodeField request ("env", .object (entries.map fun entry => (entry.1, .string entry.2))) =
      some { request with env := Table.collect entries } := by
  have variables_ : decodeEnv request.env
      (.object (entries.map fun entry => (entry.1, .string entry.2))) =
        some (Table.collect entries) := by
    simp only [decodeEnv, mapM_readMember, none_, Option.map_some, Table.collect]
  simp [decodeField, variables_]

/-- The decoder gives back what the encoder has written. -/
theorem decodeCommand_toJson {request : RelayCommandRequest} (some_ : request.argv ≠ []) :
    decodeCommand request.toJson = some request.reread := by
  have noVariables : request.env.entries = [] →
      Table.collect (Table.sorted keyOrder request.env) = (∅ : Variables) := by
    intro empty
    simp [Table.sorted, Table.collect, empty]
  simp only [RelayCommandRequest.toJson, if_neg some_, decodeCommand, List.cons_append,
    List.foldlM_cons, decodeField_argv, Option.bind_eq_bind, Option.bind_some]
  by_cases directory : request.cwd = "" <;> by_cases empty : request.env.entries = []
  · simp [directory, empty, noVariables, RelayCommandRequest.reread]
  · simp [directory, empty, decodeField_env, RelayCommandRequest.reread]
  · simp [directory, empty, noVariables, decodeField_cwd, RelayCommandRequest.reread]
  · simp [directory, empty, decodeField_env, decodeField_cwd, RelayCommandRequest.reread]

/-! ## Same variables -/

theorem same_reread (request : RelayCommandRequest) :
    Table.Same request.reread.env request.env :=
  Table.same_collect_sorted keyOrder request.env

theorem canonical_reread (request : RelayCommandRequest) :
    canonicalRelayJSON request.reread = canonicalRelayJSON request := by
  have same := same_reread request
  have listed : Table.sorted keyOrder request.reread.env = Table.sorted keyOrder request.env := by
    apply same.sorted
    · intro first second third
      simpa [keyOrder] using le_trans
    · intro first second
      simpa [keyOrder] using le_total first second
    · intro first second
      simpa [keyOrder] using le_antisymm
  have empty : request.reread.env.entries = [] ↔ request.env.entries = [] := by
    rw [← List.length_eq_zero_iff, same.perm.length_eq, List.length_eq_zero_iff]
  simp only [canonicalRelayJSON, RelayCommandRequest.toJson, listed, empty]
  rfl

/-- The server's checks hold of what the service has accepted. -/
theorem validateRelayCommand_reread {input : RunCommandInput}
    (accepted : validateRunCommand input = .ok ()) :
    validateRelayCommand (commandProtocolRequest input).reread = .ok () := by
  have perm := (same_reread (commandProtocolRequest input)).perm
  have count : (commandProtocolRequest input).reread.env.entries.length =
      input.env.entries.length := perm.length_eq
  have bytes : environmentBytes (commandProtocolRequest input).reread.env =
      environmentBytes input.env := (perm.map _).sum_eq
  have checks : ∀ check, (commandProtocolRequest input).reread.env.entries.any check =
      input.env.entries.any check := fun check => perm.any_eq
  have argv : (commandProtocolRequest input).reread.argv = input.argv := rfl
  have cwd : (commandProtocolRequest input).reread.cwd = input.cwd := rfl
  simp only [validateRelayCommand, count, bytes, checks, argv, cwd]
  simp only [validateRunCommand] at accepted
  split at accepted
  · cases accepted
  next counted =>
  split at accepted
  · cases accepted
  next entries =>
  split at accepted
  · cases accepted
  next argvFits =>
  split at accepted
  · cases accepted
  next path =>
  split at accepted
  · cases accepted
  next envCounted =>
  split at accepted
  · cases accepted
  next variablesValid =>
  split at accepted
  · cases accepted
  next envFits =>
  have directory : ¬ (input.cwd ≠ "" ∧ validRelayGuestPath input.cwd = false) := by
    rintro ⟨present, invalid⟩
    rw [if_neg present] at path
    simp only [validateGuestPath] at path
    split at path
    · cases path
    next clean =>
    split at path
    · cases path
    next absolute =>
    simp only [validRelayGuestPath] at invalid
    simp_all
  rw [if_neg counted, if_neg entries,
    if_neg (not_or.mpr ⟨argvFits, not_or.mpr ⟨directory, envCounted⟩⟩),
    if_neg variablesValid, if_neg envFits]

/-! ## What gets through -/

/-- The bytes of a command as JSON: every string with its quotes and escapes, and the names and
punctuation of the fields that are present. -/
def commandBytes (argv : List String) (cwd : String) (env : Variables) : Nat :=
  10 + (argv.map fun value => 1 + Json.textBytes value).sum +
    (if cwd = "" then 0 else 7 + Json.textBytes cwd) +
    if env.entries = [] then 0
    else 8 + (env.entries.map fun entry =>
      2 + Json.textBytes entry.1 + Json.textBytes entry.2).sum

/-- The bytes of a field in an object, with its comma and its colon. -/
def fieldBytes (field : String × Json.Value) : Nat :=
  2 + Json.textBytes field.1 + Json.byteLength field.2.render

theorem fieldBytes_argv {argv : List String} (some_ : argv ≠ []) :
    fieldBytes ("argv", .array (argv.map .string)) =
      9 + (argv.map fun value => 1 + Json.textBytes value).sum := by
  have name : Json.textBytes "argv" = 6 := by decide
  rw [fieldBytes, Json.byteLength_array (by simpa using some_), List.map_map, name]
  simp only [Function.comp_def, Json.Value.render, Json.byteLength_renderText]
  omega

theorem fieldBytes_cwd (cwd : String) :
    fieldBytes ("cwd", .string cwd) = 7 + Json.textBytes cwd := by
  have name : Json.textBytes "cwd" = 5 := by decide
  rw [fieldBytes, Json.Value.render, Json.byteLength_renderText, name]

theorem fieldBytes_env {env : Variables} (some_ : env.entries ≠ []) :
    fieldBytes ("env", .object ((Table.sorted keyOrder env).map
        fun entry => (entry.1, .string entry.2))) =
      8 + (env.entries.map fun entry =>
        2 + Json.textBytes entry.1 + Json.textBytes entry.2).sum := by
  have name : Json.textBytes "env" = 5 := by decide
  have listed := Table.sorted_perm keyOrder env
  have nonempty : Table.sorted keyOrder env ≠ [] := by
    intro empty
    rw [empty] at listed
    exact some_ (List.map_eq_nil_iff.mp listed.nil_eq.symm)
  rw [fieldBytes, Json.byteLength_object (by simpa using nonempty), List.map_map, name]
  simp only [Function.comp_def, Json.Value.render, Json.byteLength_renderText]
  rw [(listed.map fun entry => 2 + Json.textBytes entry.1 + Json.textBytes entry.2).sum_eq,
    List.map_map]
  simp only [Function.comp_def]
  omega

theorem byteLength_canonical {request : RelayCommandRequest} (some_ : request.argv ≠ []) :
    Json.byteLength (canonicalRelayJSON request) =
      commandBytes request.argv request.cwd request.env := by
  have cwd : ((if request.cwd = "" then [] else [("cwd", Json.Value.string request.cwd)]).map
      fieldBytes).sum = if request.cwd = "" then 0 else 7 + Json.textBytes request.cwd := by
    split
    · rfl
    · simp [fieldBytes_cwd]
  have env : ((if request.env.entries = [] then []
      else [("env", Json.Value.object ((Table.sorted keyOrder request.env).map
        fun entry => (entry.1, .string entry.2)))]).map fieldBytes).sum =
      if request.env.entries = [] then 0
      else 8 + (request.env.entries.map fun entry =>
        2 + Json.textBytes entry.1 + Json.textBytes entry.2).sum := by
    split
    · rfl
    · next present => simp [fieldBytes_env present]
  rw [canonicalRelayJSON, RelayCommandRequest.toJson, if_neg some_,
    Json.byteLength_object (by simp)]
  show 1 + (List.map fieldBytes _).sum = _
  rw [List.map_append, List.map_cons, List.sum_append, List.sum_cons, fieldBytes_argv some_, cwd,
    env, commandBytes]
  omega

theorem argv_ne_nil {input : RunCommandInput} (accepted : validateRunCommand input = .ok ()) :
    input.argv ≠ [] := by
  intro empty
  simp [validateRunCommand, empty] at accepted

theorem receiveCommand_sent {input : RunCommandInput}
    (accepted : validateRunCommand input = .ok ())
    (fits : commandBytes input.argv input.cwd input.env ≤ relayMaxCommandRequest) :
    receiveCommand (canonicalRelayJSON (commandProtocolRequest input)) =
      .ok (commandProtocolRequest input).reread := by
  have some_ : (commandProtocolRequest input).argv ≠ [] := argv_ne_nil accepted
  have size : _ = commandBytes input.argv input.cwd input.env := byteLength_canonical some_
  have within : ¬ relayMaxCommandRequest <
      Json.byteLength (canonicalRelayJSON (commandProtocolRequest input)) := by omega
  have nonempty : canonicalRelayJSON (commandProtocolRequest input) ≠ [] := by
    intro empty
    rw [empty, Json.byteLength_nil, commandBytes] at size
    omega
  have decoded : decodeRelayJSON relayMaxCommandRequest
      (canonicalRelayJSON (commandProtocolRequest input)) =
        .ok (commandProtocolRequest input).reread := by
    rw [decodeRelayJSON, if_neg (not_or.mpr ⟨nonempty, within⟩)]
    have read : decodeCommand (commandProtocolRequest input).toJson =
        some (commandProtocolRequest input).reread := decodeCommand_toJson some_
    simp only [canonicalRelayJSON, Json.parse_render (plain_toJson _), read]
    rfl
  rw [receiveCommand, if_neg within, decoded]
  simp only [validateRelayCommand_reread accepted]

/-- A command whose JSON is over the limit is refused. -/
theorem receiveCommand_large {input : RunCommandInput} (some_ : input.argv ≠ [])
    (large : relayMaxCommandRequest < commandBytes input.argv input.cwd input.env) :
    receiveCommand (canonicalRelayJSON (commandProtocolRequest input)) =
      .error (413, "request_too_large") := by
  have size : _ = commandBytes input.argv input.cwd input.env :=
    byteLength_canonical (show (commandProtocolRequest input).argv ≠ [] from some_)
  rw [receiveCommand, if_pos (by omega)]

/-- **Which accepted commands fit the relay.**  The server takes the canonical JSON of a command
that the service has accepted, and recomputes the digest that the client has signed, if and only if
that JSON has at most 128 KiB. -/
theorem command_fits_relay_iff (hash : List Char → String) {input : RunCommandInput}
    (accepted : validateRunCommand input = .ok ()) :
    (∃ wire, receiveCommand (canonicalRelayJSON (commandProtocolRequest input)) = .ok wire ∧
      commandDigest hash (canonicalRelayJSON wire) =
        commandDigest hash (canonicalRelayJSON (commandProtocolRequest input))) ↔
      commandBytes input.argv input.cwd input.env ≤ 131072 := by
  have limit : relayMaxCommandRequest = 131072 := rfl
  constructor
  · rintro ⟨wire, received, _⟩
    by_contra large
    rw [receiveCommand_large (argv_ne_nil accepted) (by omega)] at received
    cases received
  · intro fits
    exact ⟨_, receiveCommand_sent accepted (by omega), by rw [canonical_reread]⟩

/-- A command with a character that is escaped. -/
def listCommand : RunCommandInput := ⟨["ls", "-l", "<tmp>"], "/home", ∅, 0⟩

theorem command_fits_relay_iff_list :
    validateRunCommand listCommand = .ok () ∧
      ∃ wire, receiveCommand (canonicalRelayJSON (commandProtocolRequest listCommand)) = .ok wire ∧
        commandDigest String.ofList (canonicalRelayJSON wire) =
          commandDigest String.ofList (canonicalRelayJSON
            (commandProtocolRequest listCommand)) := by
  have accepted : validateRunCommand listCommand = .ok () := by decide +kernel
  exact ⟨accepted, (command_fits_relay_iff String.ofList accepted).mpr (by decide +kernel)⟩

/-- A text of angle brackets. -/
def angles (count : Nat) : String := String.ofList (List.replicate count '<')

/-- A command of characters that are all escaped. -/
def angleCommand (count : Nat) : RunCommandInput := ⟨[angles count], "", ∅, 0⟩

theorem utf8ByteSize_angles (count : Nat) : (angles count).utf8ByteSize = count := by
  rw [angles, String.utf8ByteSize_ofList]
  induction count with
  | zero => rfl
  | succ count added =>
    rw [List.replicate_succ, String.utf8Len_cons, added]
    rfl

theorem textBytes_angles (count : Nat) : Json.textBytes (angles count) = 2 + 6 * count := by
  have six : Json.escapedBytes '<' = 6 := by decide
  rw [Json.textBytes, angles, String.toList_ofList, List.map_replicate, six,
    List.sum_replicate_nat, Nat.mul_comm]

theorem containsAny_angles (count : Nat) : containsAny (angles count) ['\x00'] = false := by
  rw [containsAny, angles, String.toList_ofList, List.any_replicate]
  split
  · rfl
  · decide

theorem commandBytes_angles (count : Nat) :
    commandBytes (angleCommand count).argv (angleCommand count).cwd (angleCommand count).env =
      13 + 6 * count := by
  simp only [commandBytes, angleCommand, List.map_cons, List.map_nil, List.sum_cons, List.sum_nil,
    textBytes_angles, AList.empty_entries, if_true]
  omega

theorem validateRunCommand_angles {count : Nat} (some_ : count ≠ 0) (fits : count ≤ 32768) :
    validateRunCommand (angleCommand count) = .ok () := by
  have notEmpty : angles count ≠ "" := by
    intro empty
    have bytes := utf8ByteSize_angles count
    rw [empty] at bytes
    exact some_ bytes.symm
  simp [validateRunCommand, angleCommand, utf8ByteSize_angles, containsAny_angles, notEmpty, fits,
    environmentBytes, maxCommandSeconds]

/-- The service accepts an argument of 32 KiB of angle brackets, and the relay refuses it as too
large. -/
theorem command_refused_by_relay :
    validateRunCommand (angleCommand 32768) = .ok () ∧
      receiveCommand (canonicalRelayJSON (commandProtocolRequest (angleCommand 32768))) =
        .error (413, "request_too_large") := by
  refine ⟨validateRunCommand_angles (by decide) (by decide), ?_⟩
  apply receiveCommand_large (List.cons_ne_nil _ _)
  rw [commandBytes_angles]
  decide

end Brezel.Node
