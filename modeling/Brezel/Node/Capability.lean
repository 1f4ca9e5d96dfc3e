import Brezel.Library.Base64
import Brezel.Library.JsonBytes
import Brezel.Node.RelayClient

/-!
# Capabilities

The control plane signs a capability for every operation it sends to a node.
`CapabilitySigner.issue` validates the fields of a request and writes the token: a header and the
claims as JSON, and a signature over both, each in Base64.  `CapabilityVerifier.authenticate` reads
a token back, and insists that header and claims are written as they would be written again.

The JSON reader of the node and the signatures are parameters.  Of the reader it is assumed that
what it reads is UTF-8, and that it reads back what is written for UTF-8 (`Reader`).

`RelayDataPlane.issue` asks for a capability that is to end before the binding of a sandbox does.
The time that is left is measured at one reading of the clock and added to another one.
-/

namespace Brezel.Node.Capability

open Domain JsonBytes

/-! ## Claims -/

/-- `CapabilityBounds`. -/
structure CapabilityBounds where
  maxDurationMillis : Int
  maxRequestBytes : Int
  maxResponseBytes : Int
  port : Nat
  deriving DecidableEq

/-- `capabilityHeader`. -/
structure CapabilityHeader where
  type : Bytes
  algorithm : Bytes
  keyID : Bytes
  deriving DecidableEq

/-- `CapabilityClaims`. -/
structure CapabilityClaims where
  version : Int
  keyID : Bytes
  issuer : Bytes
  audience : Bytes
  nodeID : Bytes
  bootEpoch : Bytes
  routeID : Bytes
  generation : Nat
  projectID : Bytes
  sandboxID : Bytes
  jti : Bytes
  operations : List Bytes
  requestDigest : Bytes
  issuedAt : Int
  notBefore : Int
  expiresAt : Int
  bounds : CapabilityBounds
  deriving DecidableEq

/-- `CapabilityIssue`; the zero time is no time. -/
structure CapabilityIssue where
  audience : Bytes
  nodeID : Bytes
  bootEpoch : Bytes
  routeID : Bytes
  generation : Nat
  projectID : Bytes
  sandboxID : Bytes
  operation : Bytes
  requestDigest : Bytes
  bounds : CapabilityBounds
  ttl : Int
  notBefore : Option Time

/-- `CapabilityExpected`. -/
structure CapabilityExpected where
  audience : Bytes
  nodeID : Bytes
  bootEpoch : Bytes
  routeID : Bytes
  generation : Nat
  projectID : Bytes
  sandboxID : Bytes
  operation : Bytes
  requestDigest : Bytes

/-- Why a capability is not issued or not accepted. -/
inductive CapabilityError
  | malformed (part : String)
  | invalid (reason : String)
  | unknownKey
  | signature
  | notYetValid
  | expired
  | mismatch (reason : String)
  deriving DecidableEq

/-- `CapabilityRunCommand`. -/
def capabilityRunCommand : Bytes := ascii "command.run"
/-- `CapabilityReadFile`. -/
def capabilityReadFile : Bytes := ascii "file.read"
/-- `CapabilityWriteFile`. -/
def capabilityWriteFile : Bytes := ascii "file.write"
/-- `CapabilityProxyPort`. -/
def capabilityProxyPort : Bytes := ascii "port.proxy"
/-- `CapabilityWebSocket`. -/
def capabilityWebSocket : Bytes := ascii "port.websocket"

/-- The operation is one of the five. -/
def validOperation (operation : Bytes) : Bool :=
  operation ∈ [capabilityRunCommand, capabilityReadFile, capabilityWriteFile, capabilityProxyPort,
    capabilityWebSocket]

/-- `MaxCapabilityTTL`. -/
def maxCapabilityTTL : Int := seconds 30

/-- The bytes of a token that a verifier accepts. -/
def maxCapabilitySize : Nat := 8192

/-! ## Checks -/

/-- The white space of Unicode in UTF-8. -/
def spaces : List Bytes :=
  [[9], [10], [11], [12], [13], [32], [194, 133], [194, 160], [225, 154, 128], [226, 128, 128],
    [226, 128, 129], [226, 128, 130], [226, 128, 131], [226, 128, 132], [226, 128, 133],
    [226, 128, 134], [226, 128, 135], [226, 128, 136], [226, 128, 137], [226, 128, 138],
    [226, 128, 168], [226, 128, 169], [226, 128, 175], [226, 129, 159], [227, 128, 128]]

/-- `validateIdentity`.  Stray bytes count as U+FFFD there, which is no control character. -/
def validateIdentity (value : Bytes) : Bool :=
  value ≠ [] && value.length ≤ 256 &&
    spaces.all (fun space => !space.isPrefixOf value && !space.isSuffixOf value) &&
    value.all fun code => 0x20 ≤ code && code ≠ 0x7F

/-- `validEncodedSize`. -/
def validEncodedSize (value : Bytes) (size : Nat) : Bool :=
  (Base64.decode value).any fun decoded => decoded.length = size && Base64.encode decoded = value

/-- `equalDigest`. -/
def equalDigest (left right : Bytes) : Bool :=
  match Base64.decode left, Base64.decode right with
  | some leftBytes, some rightBytes =>
    leftBytes.length = 32 && rightBytes.length = 32 && leftBytes = rightBytes
  | _, _ => false

/-- `validateBounds`; the error says which bounds the operation takes. -/
def validateBounds (operation : Bytes) (bounds : CapabilityBounds) : Except String Unit :=
  if bounds.maxDurationMillis < 0 ∨ 86400000 < bounds.maxDurationMillis ∨
      bounds.maxRequestBytes < 0 ∨ 1073741824 < bounds.maxRequestBytes ∨
      bounds.maxResponseBytes < 0 ∨ 1073741824 < bounds.maxResponseBytes ∨
      65535 < bounds.port then
    .error "operation bound is outside the supported range"
  else if operation = capabilityRunCommand then
    if bounds.maxDurationMillis = 0 ∨ bounds.maxResponseBytes = 0 ∨ bounds.maxRequestBytes ≠ 0 ∨
        bounds.port ≠ 0 then
      .error "command requires duration and response bounds only"
    else .ok ()
  else if operation = capabilityReadFile then
    if bounds.maxResponseBytes = 0 ∨ bounds.maxDurationMillis ≠ 0 ∨ bounds.maxRequestBytes ≠ 0 ∨
        bounds.port ≠ 0 then
      .error "file read requires a response bound only"
    else .ok ()
  else if operation = capabilityWriteFile then
    if bounds.maxRequestBytes = 0 ∨ bounds.maxDurationMillis ≠ 0 ∨ bounds.maxResponseBytes ≠ 0 ∨
        bounds.port ≠ 0 then
      .error "file write requires a request bound only"
    else .ok ()
  else if operation = capabilityProxyPort then
    if bounds.port = 0 ∨ bounds.maxDurationMillis = 0 ∨ bounds.maxRequestBytes = 0 ∨
        bounds.maxResponseBytes = 0 then
      .error "port proxy requires port, duration, request, and response bounds"
    else .ok ()
  else if operation = capabilityWebSocket then
    if bounds.port = 0 ∨ bounds.maxDurationMillis = 0 ∨ bounds.maxRequestBytes = 0 ∨
        bounds.maxResponseBytes = 0 then
      .error "WebSocket tunnel requires port, duration, request, and response bounds"
    else .ok ()
  else .error "unsupported operation"

/-- The identities in the claims, under the names that errors use. -/
def CapabilityClaims.identities (claims : CapabilityClaims) : List (String × Bytes) :=
  [("key id", claims.keyID), ("issuer", claims.issuer), ("audience", claims.audience),
    ("node id", claims.nodeID), ("boot epoch", claims.bootEpoch), ("route id", claims.routeID),
    ("project id", claims.projectID), ("sandbox id", claims.sandboxID)]

/-- `validateCapabilityClaims`.  Of several invalid identities the first is named here; the source
goes through them in no fixed order. -/
def validateCapabilityClaims (claims : CapabilityClaims) : Except CapabilityError Unit :=
  if claims.version ≠ 1 then .error (.invalid "unsupported version")
  else
    match claims.identities.find? fun identity => !validateIdentity identity.2 with
    | some (name, _) => .error (.invalid ("invalid " ++ name))
    | none =>
      if claims.generation = 0 then .error (.invalid "generation must be positive")
      else if claims.operations.length ≠ 1 ∨ !claims.operations.all validOperation then
        .error (.invalid "exactly one supported operation is required")
      else if !validEncodedSize claims.jti 16 then .error (.invalid "invalid capability id")
      else if !validEncodedSize claims.requestDigest 32 then
        .error (.invalid "invalid request digest")
      else if claims.issuedAt ≤ 0 ∨ claims.notBefore < claims.issuedAt ∨
          claims.expiresAt ≤ claims.notBefore ∨ 30 < claims.expiresAt - claims.issuedAt then
        .error (.invalid "invalid capability lifetime")
      else (validateBounds (claims.operations.headD []) claims.bounds).mapError .invalid

/-- The identities of an expectation under the names that errors use. -/
def CapabilityExpected.identities (expected : CapabilityExpected) : List (String × Bytes) :=
  [("audience", expected.audience), ("node id", expected.nodeID),
    ("boot epoch", expected.bootEpoch), ("route id", expected.routeID),
    ("project id", expected.projectID), ("sandbox id", expected.sandboxID)]

/-- The checks of `Match` on the expectation. -/
def validateExpected (expected : CapabilityExpected) : Except CapabilityError Unit :=
  match expected.identities.find? fun identity => !validateIdentity identity.2 with
  | some (name, _) => .error (.mismatch ("invalid expected " ++ name))
  | none =>
    if expected.generation = 0 ∨ !validOperation expected.operation ∨
        !validEncodedSize expected.requestDigest 32 then
      .error (.mismatch "invalid expected operation context")
    else .ok ()

/-! ## Encoding -/

/-- A numeric member with `omitempty`. -/
def omitZero (name : String) (value : Int) : List (Bytes × Doc) :=
  if value = 0 then [] else [(ascii name, .number value)]

/-- The members of the bounds. -/
def CapabilityBounds.members (bounds : CapabilityBounds) : List (Bytes × Doc) :=
  omitZero "max_duration_ms" bounds.maxDurationMillis ++
    (omitZero "max_request_bytes" bounds.maxRequestBytes ++
      (omitZero "max_response_bytes" bounds.maxResponseBytes ++ omitZero "port" bounds.port))

/-- The header as JSON. -/
def CapabilityHeader.doc (header : CapabilityHeader) : Doc :=
  .object [(ascii "typ", .text header.type), (ascii "alg", .text header.algorithm),
    (ascii "kid", .text header.keyID)]

/-- The claims as JSON. -/
def CapabilityClaims.doc (claims : CapabilityClaims) : Doc :=
  .object [(ascii "v", .number claims.version), (ascii "kid", .text claims.keyID),
    (ascii "iss", .text claims.issuer), (ascii "aud", .text claims.audience),
    (ascii "node", .text claims.nodeID), (ascii "epoch", .text claims.bootEpoch),
    (ascii "route", .text claims.routeID), (ascii "generation", .number claims.generation),
    (ascii "project", .text claims.projectID), (ascii "sandbox", .text claims.sandboxID),
    (ascii "jti", .text claims.jti), (ascii "ops", .array (claims.operations.map .text)),
    (ascii "request_digest", .text claims.requestDigest), (ascii "iat", .number claims.issuedAt),
    (ascii "nbf", .number claims.notBefore), (ascii "exp", .number claims.expiresAt),
    (ascii "bounds", .object claims.bounds.members)]

/-- A JSON reader for values of one type, with what is assumed of it. -/
structure Reader {Value : Type} (doc : Value → Doc) where
  read : Bytes → Option Value
  valid_of_read : ∀ {text value}, read text = some value → (doc value).Valid
  read_render : ∀ {value}, (doc value).Valid → read (doc value).render = some value

/-- `decodeCanonicalSegment`. -/
def decodeCanonicalSegment {Value : Type} {doc : Value → Doc} (reader : Reader doc)
    (segment : Bytes) : Option Value :=
  match Base64.decode segment with
  | none => none
  | some decoded =>
    match reader.read decoded with
    | none => none
    | some value => if (doc value).render = decoded then some value else none

/-! ## Signing and verifying -/

/-- A signature scheme whose signatures have 64 bytes and are accepted. -/
structure Scheme where
  PrivateKey : Type
  PublicKey : Type
  publicKey : PrivateKey → PublicKey
  sign : PrivateKey → Bytes → Bytes
  verify : PublicKey → Bytes → Bytes → Bool
  length_sign : ∀ key message, (sign key message).length = 64
  verify_sign : ∀ key message, verify (publicKey key) message (sign key message) = true

variable {scheme : Scheme}

/-- `CapabilitySigner`. -/
structure CapabilitySigner (scheme : Scheme) where
  issuer : Bytes
  keyID : Bytes
  privateKey : scheme.PrivateKey

/-- A node's verifier, with the readers of its process. -/
structure CapabilityVerifier (scheme : Scheme) where
  issuer : Bytes
  keys : Bytes → Option scheme.PublicKey
  headers : Reader CapabilityHeader.doc
  claims : Reader CapabilityClaims.doc

/-- `capabilityMessage`, with the domain of the signature. -/
def capabilityMessage (signingInput : Bytes) : Bytes :=
  ascii "brezel.node.capability.v1" ++ 0 :: signingInput

/-- The header of the tokens under a key. -/
def headerOf (keyID : Bytes) : CapabilityHeader :=
  ⟨ascii "BREZEL-NODE-CAPABILITY", ascii "EdDSA", keyID⟩

/-- The second of an instant. -/
def unix (at_ : Int) : Int := at_ / 1000000000

/-- The claims of a request, as `Issue` fills them in at an instant. -/
def CapabilitySigner.claimsFor (signer : CapabilitySigner scheme) (now : Time) (nonce : Bytes)
    (request : CapabilityIssue) : CapabilityClaims where
  version := 1
  keyID := signer.keyID
  issuer := signer.issuer
  audience := request.audience
  nodeID := request.nodeID
  bootEpoch := request.bootEpoch
  routeID := request.routeID
  generation := request.generation
  projectID := request.projectID
  sandboxID := request.sandboxID
  jti := Base64.encode nonce
  operations := [request.operation]
  requestDigest := request.requestDigest
  issuedAt := unix now
  notBefore := unix (request.notBefore.getD now)
  expiresAt := unix now + request.ttl / 1000000000
  bounds := request.bounds

/-- The first two segments of a token. -/
def signingInput (claims : CapabilityClaims) : Bytes :=
  Base64.encode (headerOf claims.keyID).doc.render ++
    byte '.' :: Base64.encode claims.doc.render

/-- The signed token. -/
def CapabilitySigner.token (signer : CapabilitySigner scheme) (claims : CapabilityClaims) : Bytes :=
  signingInput claims ++ byte '.' ::
    Base64.encode (scheme.sign signer.privateKey (capabilityMessage (signingInput claims)))

/-- `Issue`, at an instant and with sixteen random bytes. -/
def CapabilitySigner.issue (signer : CapabilitySigner scheme) (now : Time) (nonce : Bytes)
    (request : CapabilityIssue) : Except CapabilityError (Bytes × CapabilityClaims) :=
  let claims := signer.claimsFor now nonce request
  if request.ttl < seconds 1 ∨ maxCapabilityTTL < request.ttl ∨
      request.ttl.tmod (seconds 1) ≠ 0 then
    .error (.invalid "ttl must be whole seconds between 1s and 30s")
  else if claims.notBefore < claims.issuedAt ∨ claims.expiresAt ≤ claims.notBefore then
    .error (.invalid "not-before must be within the capability lifetime")
  else
    match validateCapabilityClaims claims with
    | .error error => .error error
    | .ok () => .ok (signer.token claims, claims)

/-- `Authenticate`, at an instant. -/
def CapabilityVerifier.authenticate (verifier : CapabilityVerifier scheme) (at_ : Time)
    (token : Bytes) : Except CapabilityError CapabilityClaims :=
  if token = [] ∨ maxCapabilitySize < token.length then .error (.malformed "")
  else
    match token.splitOn (byte '.') with
    | [first, second, third] =>
      if first = [] ∨ second = [] ∨ third = [] then .error (.malformed "")
      else
        match decodeCanonicalSegment verifier.headers first with
        | none => .error (.malformed "header")
        | some header =>
          if header.type ≠ ascii "BREZEL-NODE-CAPABILITY" ∨ header.algorithm ≠ ascii "EdDSA" then
            .error (.invalid "unsupported token header")
          else
            match verifier.keys header.keyID with
            | none => .error .unknownKey
            | some key =>
              match Base64.decode third with
              | none => .error (.malformed "")
              | some signature =>
                if signature.length ≠ 64 then .error (.malformed "")
                else if !scheme.verify key (capabilityMessage (first ++ byte '.' :: second))
                    signature then
                  .error .signature
                else
                  match decodeCanonicalSegment verifier.claims second with
                  | none => .error (.malformed "claims")
                  | some claims =>
                    if header.keyID ≠ claims.keyID then .error (.invalid "key id mismatch")
                    else
                      match validateCapabilityClaims claims with
                      | .error error => .error error
                      | .ok () =>
                        if claims.issuer ≠ verifier.issuer then .error (.mismatch "issuer")
                        else if unix at_ < claims.issuedAt ∨ unix at_ < claims.notBefore then
                          .error .notYetValid
                        else if claims.expiresAt ≤ unix at_ then .error .expired
                        else .ok claims
    | _ => .error (.malformed "")

/-- `Match`. -/
def CapabilityVerifier.matches (verifier : CapabilityVerifier scheme) (claims : CapabilityClaims)
    (expected : CapabilityExpected) : Except CapabilityError Unit :=
  if validateCapabilityClaims claims ≠ .ok () ∨ claims.issuer ≠ verifier.issuer then
    .error (.mismatch "")
  else
    match validateExpected expected with
    | .error error => .error error
    | .ok () =>
      if claims.audience ≠ expected.audience ∨ claims.nodeID ≠ expected.nodeID ∨
          claims.bootEpoch ≠ expected.bootEpoch ∨ claims.routeID ≠ expected.routeID ∨
          claims.generation ≠ expected.generation ∨ claims.projectID ≠ expected.projectID ∨
          claims.sandboxID ≠ expected.sandboxID ∨
          claims.operations.headD [] ≠ expected.operation ∨
          !equalDigest claims.requestDigest expected.requestDigest then
        .error (.mismatch "")
      else .ok ()

/-! ## The relay's requests for capabilities -/

/-- The errors of `issue`. -/
inductive IssueError
  | staleBinding
  | capability (error : CapabilityError)
  deriving DecidableEq

/-- What `issue` reads of the relay client. -/
structure RelayDataPlane (scheme : Scheme) where
  audience : Bytes
  nodeID : Bytes
  signer : CapabilitySigner scheme
  sha256 : Bytes → Bytes

/-- `RequestDigest`. -/
def RelayDataPlane.requestDigest (plane : RelayDataPlane scheme) (operation canonical : Bytes) :
    Except CapabilityError Bytes :=
  if !validOperation operation then .error (.invalid "unsupported operation")
  else .ok (Base64.encode (plane.sha256
    (ascii "brezel.node.request.v1" ++ 0 :: (operation ++ 0 :: canonical))))

/-- The time between two instants, as far as a duration can hold it. -/
def sub (later earlier : Int) : Int :=
  if 9223372036854775807 < later - earlier then 9223372036854775807
  else if later - earlier < -9223372036854775808 then -9223372036854775808
  else later - earlier

/-- The lifetime that `issue` asks for when there is some time left. -/
def ttlFor (remaining : Int) : Int :=
  if remaining < maxCapabilityTTL then remaining - remaining.tmod (seconds 1) else maxCapabilityTTL

/-- `issue`: the first reading of the clock is its own, the second one the signer's.  The claims
are those of the token. -/
def RelayDataPlane.issue (plane : RelayDataPlane scheme) (binding : SandboxBinding)
    (resolved : RelayRouteResponse) (operation canonical : Bytes) (bounds : CapabilityBounds)
    (first second : Time) (nonce : Bytes) : Except IssueError (Bytes × CapabilityClaims) :=
  match plane.requestDigest operation canonical with
  | .error error => .error (.capability error)
  | .ok digest =>
    if ttlFor (sub binding.expiresAt first) < seconds 1 then .error .staleBinding
    else
      let request : CapabilityIssue :=
        { audience := plane.audience
          nodeID := plane.nodeID
          bootEpoch := resolved.bootEpoch.toUTF8.data.toList
          routeID := resolved.route.routeID.toUTF8.data.toList
          generation := resolved.route.generation
          projectID := resolved.route.projectID.toUTF8.data.toList
          sandboxID := resolved.route.sandboxID.toUTF8.data.toList
          operation := operation
          requestDigest := digest
          bounds := bounds
          ttl := ttlFor (sub binding.expiresAt first)
          notBefore := none }
      match plane.signer.issue second nonce request with
      | .error error => .error (.capability error)
      | .ok issued => .ok issued

variable {plane : RelayDataPlane scheme} {signer : CapabilitySigner scheme}
  {verifier : CapabilityVerifier scheme} {request : CapabilityIssue} {claims : CapabilityClaims}
  {token nonce : Bytes} {now at_ : Time}

/-! ## What is issued -/

theorem issue_ok : signer.issue now nonce request = .ok (token, claims) →
    claims = signer.claimsFor now nonce request ∧ token = signer.token claims ∧
      validateCapabilityClaims claims = .ok () := by
  fun_cases CapabilitySigner.issue signer now nonce request with
  | case4 _ _ _ valid =>
    intro issued
    obtain ⟨rfl, rfl⟩ := Prod.mk.inj (Except.ok.inj issued)
    exact ⟨rfl, rfl, valid⟩
  | _ => rintro ⟨⟩

/-- With less than thirty seconds left, the second of the second reading is ahead of the first
reading by no more than the part of a second that is cut off; with more, it is thirty seconds before
the end. -/
def InTime (expiresAt first second : Int) : Prop :=
  (expiresAt - first < seconds 30 →
    seconds (unix second) - first ≤ (expiresAt - first) % 1000000000) ∧
  (seconds 30 ≤ expiresAt - first → seconds (unix second) + seconds 30 ≤ expiresAt)

theorem ttlFor_ends_iff {expiresAt first second : Int}
    (enough : ¬ ttlFor (sub expiresAt first) < seconds 1) :
    seconds (unix second + ttlFor (sub expiresAt first) / 1000000000) ≤ expiresAt ↔
      InTime expiresAt first second := by
  -- time is left, so that cutting off the part of a second rounds down
  have left : 0 ≤ sub expiresAt first := by
    have cut := Int.lt_tmod_of_pos (sub expiresAt first) (b := seconds 1) (by decide)
    simp only [ttlFor, maxCapabilityTTL, seconds] at enough cut
    split_ifs at enough <;> omega
  have measured : sub expiresAt first = expiresAt - first ∨
      30000000000 ≤ sub expiresAt first ∧ 30000000000 ≤ expiresAt - first := by
    unfold sub at left ⊢
    split_ifs at left ⊢ <;> omega
  simp only [ttlFor, maxCapabilityTTL, InTime, seconds, unix, Int.tmod_eq_emod_of_nonneg left]
  generalize sub expiresAt first = remaining at left measured
  split_ifs <;> omega

section Issue

variable {binding : SandboxBinding} {resolved : RelayRouteResponse} {operation canonical : Bytes}
  {bounds : CapabilityBounds} {first second : Time}

theorem issue_expiresAt :
    plane.issue binding resolved operation canonical bounds first second nonce =
      .ok (token, claims) → ¬ ttlFor (sub binding.expiresAt first) < seconds 1 ∧
      claims.expiresAt = unix second + ttlFor (sub binding.expiresAt first) / 1000000000 := by
  fun_cases RelayDataPlane.issue plane binding resolved operation canonical bounds first second
    nonce with
  | case4 _ _ enough _ _ isIssued =>
    rintro ⟨⟩
    obtain ⟨rfl, -, -⟩ := issue_ok isIssued
    exact ⟨enough, rfl⟩
  | _ => rintro ⟨⟩

/-- **A capability ends with its binding just when the second reading is in time.** -/
theorem issue_within_binding_iff
    (issued : plane.issue binding resolved operation canonical bounds first second nonce =
      .ok (token, claims)) :
    seconds claims.expiresAt ≤ binding.expiresAt ↔ InTime binding.expiresAt first second := by
  obtain ⟨enough, isExpiry⟩ := issue_expiresAt issued
  rw [isExpiry]
  exact ttlFor_ends_iff enough

end Issue

/-! ## A sample -/

/-- Signatures that say nothing. -/
def sampleScheme : Scheme where
  PrivateKey := Unit
  PublicKey := Unit
  publicKey := id
  sign _ _ := List.replicate 64 0
  verify _ _ _ := true
  length_sign _ _ := rfl
  verify_sign _ _ := rfl

/-- The relay client of the samples. -/
def samplePlane : RelayDataPlane sampleScheme where
  audience := ascii "relay"
  nodeID := ascii "node"
  signer := ⟨ascii "control", ascii "key", ()⟩
  sha256 _ := List.replicate 32 0

/-- A file is to be read in a sandbox whose binding ends at the given instant. -/
def sampleIssue (expiresAt first second : Time) : Except IssueError (Bytes × CapabilityClaims) :=
  samplePlane.issue ⟨"p", "s", "r", "o", 1, 1, expiresAt⟩
    ⟨"node", "boot", ⟨"r", "p", "s", 1, .ready, 0⟩⟩ capabilityReadFile [] ⟨0, 0, 1, 0⟩ first second
    (List.replicate 16 0)

theorem exists_of_isOk {Error Value : Type} {outcome : Except Error Value}
    (isOk : outcome.isOk = true) : ∃ value, outcome = .ok value := by
  cases outcome with
  | error error => cases isOk
  | ok value => exact ⟨value, rfl⟩

/-- Twenty seconds before the end, both readings in one second. -/
theorem issue_within_binding_sample : ∃ token claims,
    sampleIssue 1800000020500000000 1800000000100000000 1800000000200000000 = .ok (token, claims) ∧
      InTime 1800000020500000000 1800000000100000000 1800000000200000000 ∧
      seconds claims.expiresAt ≤ 1800000020500000000 := by
  have inTime : InTime 1800000020500000000 1800000000100000000 1800000000200000000 :=
    ⟨by decide, by decide⟩
  have isOk : (sampleIssue 1800000020500000000 1800000000100000000 1800000000200000000).isOk := by
    decide +kernel
  obtain ⟨⟨token, claims⟩, issued⟩ := exists_of_isOk isOk
  exact ⟨token, claims, issued, inTime, (issue_within_binding_iff issued).mpr inTime⟩

/-- A second begins between the two readings: the capability ends 50 ms after the binding. -/
theorem issue_outlives_binding : ∃ token claims,
    sampleIssue 1800000001950000000 1800000000900000000 1800000001000000000 = .ok (token, claims) ∧
      (1800000001950000000 : Int) < seconds claims.expiresAt := by
  have isOk : (sampleIssue 1800000001950000000 1800000000900000000 1800000001000000000).isOk := by
    decide +kernel
  obtain ⟨⟨token, claims⟩, issued⟩ := exists_of_isOk isOk
  refine ⟨token, claims, issued, ?_⟩
  rw [(issue_expiresAt issued).2]
  decide

end Brezel.Node.Capability
