import Brezel.Node.Capability

/-!
# Tokens of capabilities

What a verifier accepts is read off the token segment by segment: a token is accepted exactly if it
is short enough, its three segments are Base64 of the header, the claims and a signature that
verifies, and the claims are current (`authenticate_ok`, `authenticate_of_spells`).

* `token_round_trip_iff`: an issued token is accepted in its lifetime just when its identities are
  UTF-8 and it is not too long.
* `relayed_token_unique`: two accepted tokens that a relay takes from its requests are the same if
  they have the same claims and the same signature.
-/

namespace Brezel.Node.Capability

open Domain JsonBytes

variable {scheme : Scheme} {signer : CapabilitySigner scheme} {verifier : CapabilityVerifier scheme}
  {request : CapabilityIssue} {claims : CapabilityClaims} {expected : CapabilityExpected}
  {token nonce first second third signature : Bytes} {now at_ : Time}

/-! ## Segments -/

theorem decodeCanonicalSegment_iff {Value : Type} {doc : Value → Doc} {reader : Reader doc}
    {segment : Bytes} {value : Value} :
    decodeCanonicalSegment reader segment = some value ↔
      Base64.decode segment = some (doc value).render ∧ (doc value).Valid := by
  constructor
  · fun_cases decodeCanonicalSegment reader segment with
    | case3 found isBytes read =>
      rintro ⟨⟩
      exact ⟨isBytes, reader.valid_of_read read⟩
    | _ => rintro ⟨⟩
  · rintro ⟨decoded, valid⟩
    simp [decodeCanonicalSegment, decoded, reader.read_render valid]

theorem splitOn_eq (firstDotless : byte '.' ∉ first) (secondDotless : byte '.' ∉ second)
    (thirdDotless : byte '.' ∉ third) :
    (first ++ byte '.' :: (second ++ byte '.' :: third)).splitOn (byte '.') =
      [first, second, third] := by
  have dotless : ∀ segment ∈ [first, second, third], byte '.' ∉ segment := by
    simp [firstDotless, secondDotless, thirdDotless]
  simpa [List.intercalate] using List.splitOn_intercalate (byte '.') dotless (by simp)

theorem eq_of_splitOn (split : token.splitOn (byte '.') = [first, second, third]) :
    token = first ++ byte '.' :: (second ++ byte '.' :: third) := by
  have joined : [byte '.'].intercalate (token.splitOn (byte '.')) = token :=
    List.intercalate_splitOn _
  rw [split] at joined
  simpa [List.intercalate] using joined.symm

theorem ne_nil_of_decode {text bytes : Bytes} (read : Base64.decode text = some bytes)
    (some_ : bytes ≠ []) : text ≠ [] := by
  rintro rfl
  cases read
  exact some_ rfl

theorem render_ne_nil (doc : Doc) : doc.render ≠ [] := by
  obtain ⟨letter, tail, written, _⟩ := opening_render doc
  rw [written]
  exact List.cons_ne_nil letter tail

/-! ## Claims that pass the checks -/

/-- What `validateCapabilityClaims` ensures. -/
structure WellFormed (claims : CapabilityClaims) : Prop where
  identities : ∀ identity ∈ claims.identities, validateIdentity identity.2 = true
  generation : claims.generation ≠ 0
  operation : ∃ operation, claims.operations = [operation] ∧ validOperation operation = true
  jti : validEncodedSize claims.jti 16 = true
  digest : validEncodedSize claims.requestDigest 32 = true
  lifetime : 0 < claims.issuedAt ∧ claims.issuedAt ≤ claims.notBefore ∧
    claims.notBefore < claims.expiresAt

theorem wellFormed_of_valid (valid : validateCapabilityClaims claims = .ok ()) :
    WellFormed claims := by
  unfold validateCapabilityClaims at valid
  split at valid
  · cases valid
  split at valid
  · cases valid
  next identities =>
  split_ifs at valid with generation operations jti digest lifetime
  push Not at operations
  obtain ⟨operation, isOperation⟩ := List.length_eq_one_iff.mp operations.1
  refine ⟨?_, generation, ⟨operation, isOperation, ?_⟩, by simpa using jti, by simpa using digest,
    by omega⟩
  · simpa using identities
  · simpa [isOperation] using operations.2

theorem decode_of_validEncodedSize {value : Bytes} {size : Nat}
    (valid : validEncodedSize value size = true) :
    ∃ decoded, Base64.decode value = some decoded ∧ decoded.length = size ∧
      Base64.encode decoded = value := by
  obtain ⟨decoded, isDecoded, facts⟩ := (Option.any_eq_true _ _).mp valid
  exact ⟨decoded, isDecoded, by simpa using facts⟩

theorem validEncodedSize_utf8 {value : Bytes} {size : Nat}
    (valid : validEncodedSize value size = true) : Utf8.Valid value := by
  obtain ⟨decoded, -, -, rfl⟩ := decode_of_validEncodedSize valid
  exact Utf8.valid_of_ascii (Base64.encode_ascii decoded)

theorem equalDigest_iff {left right : Bytes} (leftValid : validEncodedSize left 32 = true)
    (rightValid : validEncodedSize right 32 = true) :
    equalDigest left right = true ↔ left = right := by
  obtain ⟨bytes, isBytes, length, isLeft⟩ := decode_of_validEncodedSize leftValid
  obtain ⟨bytes', isBytes', length', isRight⟩ := decode_of_validEncodedSize rightValid
  simp only [equalDigest, isBytes, isBytes', length, length', decide_true, Bool.true_and,
    decide_eq_true_eq]
  constructor
  · rintro rfl
    rw [← isLeft, isRight]
  · rintro rfl
    exact Option.some.inj (isBytes.symm.trans isBytes')

theorem omitZero_valid {name : String} (valid : Utf8.Valid (ascii name)) (value : Int) :
    ∀ member ∈ omitZero name value, Utf8.Valid member.1 ∧ member.2.Valid := by
  unfold omitZero
  split <;> simp [valid]

/-- Only the identities of well-formed claims may be other than UTF-8. -/
theorem WellFormed.valid_iff (wellFormed : WellFormed claims) :
    claims.doc.Valid ↔ ∀ identity ∈ claims.identities, Utf8.Valid identity.2 := by
  obtain ⟨operation, isOperation, known⟩ := wellFormed.operation
  have operationValid : Utf8.Valid operation := by
    simp only [validOperation, List.mem_cons, List.not_mem_nil, or_false, decide_eq_true_eq]
      at known
    rcases known with rfl | rfl | rfl | rfl | rfl <;> decide
  have boundsValid : ∀ member ∈ claims.bounds.members, Utf8.Valid member.1 ∧ member.2.Valid := by
    simp only [CapabilityBounds.members, List.forall_mem_append]
    exact ⟨omitZero_valid (by decide) _, omitZero_valid (by decide) _, omitZero_valid (by decide) _,
      omitZero_valid (by decide) _⟩
  simp +decide only [CapabilityClaims.doc, CapabilityClaims.identities, isOperation, operationValid,
    Doc.valid_object, Doc.valid_text, Doc.valid_number, Doc.valid_array,
    validEncodedSize_utf8 wellFormed.jti, validEncodedSize_utf8 wellFormed.digest,
    List.forall_mem_cons, List.map_cons, List.map_nil, List.not_mem_nil]
  tauto

/-! ## What is accepted -/

/-- The segments spell the claims and a signature of them. -/
structure Spells (verifier : CapabilityVerifier scheme) (claims : CapabilityClaims)
    (first second third signature : Bytes) : Prop where
  header : Base64.decode first = some (headerOf claims.keyID).doc.render
  body : Base64.decode second = some claims.doc.render
  ending : Base64.decode third = some signature
  valid : claims.doc.Valid
  length : signature.length = 64
  verified : ∃ key, verifier.keys claims.keyID = some key ∧
    scheme.verify key (capabilityMessage (first ++ byte '.' :: second)) signature = true

/-- The verifier takes the claims at an instant. -/
structure Current (verifier : CapabilityVerifier scheme) (at_ : Time) (claims : CapabilityClaims) :
    Prop where
  checked : validateCapabilityClaims claims = .ok ()
  issuer : claims.issuer = verifier.issuer
  begun : claims.notBefore ≤ unix at_
  unexpired : unix at_ < claims.expiresAt

theorem header_valid (valid : claims.doc.Valid) : (headerOf claims.keyID).doc.Valid := by
  have keyID : Utf8.Valid claims.keyID := by
    simp only [CapabilityClaims.doc, Doc.valid_object, List.forall_mem_cons, Doc.valid_text]
      at valid
    exact valid.2.1.2
  simp +decide [headerOf, CapabilityHeader.doc, keyID]

theorem authenticate_ok : verifier.authenticate at_ token = .ok claims →
    token.length ≤ maxCapabilitySize ∧ Current verifier at_ claims ∧
      ∃ first second third signature, token.splitOn (byte '.') = [first, second, third] ∧
        Spells verifier claims first second third signature := by
  fun_cases CapabilityVerifier.authenticate verifier at_ token with
  | case15 fits first second third split _ header isHeader supported key isKey signature isSignature
    length verified found isClaims sameKey checked issuer begun unexpired =>
    rintro ⟨⟩
    push Not at fits supported length sameKey issuer begun unexpired
    obtain ⟨spelled, valid⟩ := decodeCanonicalSegment_iff.mp isClaims
    have isHeaderOf : header = headerOf claims.keyID := by
      rw [headerOf, ← supported.1, ← supported.2, ← sameKey]
    subst isHeaderOf
    exact ⟨fits.2, ⟨checked, issuer, begun.2, unexpired⟩, first, second, third, signature, split,
      (decodeCanonicalSegment_iff.mp isHeader).1, spelled, isSignature, valid, length, key, isKey,
      by simpa using verified⟩
  | _ => rintro ⟨⟩

theorem authenticate_of_spells (fits : token.length ≤ maxCapabilitySize)
    (current : Current verifier at_ claims)
    (split : token.splitOn (byte '.') = [first, second, third])
    (spells : Spells verifier claims first second third signature) :
    verifier.authenticate at_ token = .ok claims := by
  obtain ⟨key, isKey, verified⟩ := spells.verified
  have lifetime := (wellFormed_of_valid current.checked).lifetime
  have begun : ¬ (unix at_ < claims.issuedAt ∨ unix at_ < claims.notBefore) := by
    have := current.begun
    omega
  have nonempty : token ≠ [] := by
    rw [eq_of_splitOn split]
    simp
  have isHeader : decodeCanonicalSegment verifier.headers first = some (headerOf claims.keyID) :=
    decodeCanonicalSegment_iff.mpr ⟨spells.header, header_valid spells.valid⟩
  have isClaims : decodeCanonicalSegment verifier.claims second = some claims :=
    decodeCanonicalSegment_iff.mpr ⟨spells.body, spells.valid⟩
  have thirdNonempty : third ≠ [] := ne_nil_of_decode spells.ending fun isNil => by
    have length := spells.length
    simp [isNil] at length
  simp [CapabilityVerifier.authenticate, nonempty, not_lt.mpr fits, split,
    ne_nil_of_decode spells.header (render_ne_nil _),
    ne_nil_of_decode spells.body (render_ne_nil _),
    thirdNonempty, isHeader, headerOf, isKey, spells.ending, spells.length, verified, isClaims,
    current.checked, current.issuer, begun, not_le.mpr current.unexpired]

/-! ## One spelling -/

/-- The bytes of a token's signature. -/
def signatureOf (token : Bytes) : Option Bytes :=
  match token.splitOn (byte '.') with
  | [_, _, third] => Base64.decode third
  | _ => none

theorem Spells.unbroken (spells : Spells verifier claims first second third signature)
    (split : token.splitOn (byte '.') = [first, second, third]) :
    Base64.unbroken token = signingInput claims ++ byte '.' :: Base64.encode signature := by
  have dot (rest : Bytes) : Base64.unbroken (byte '.' :: rest) = byte '.' :: Base64.unbroken rest :=
    rfl
  rw [eq_of_splitOn split, Base64.unbroken_append, dot, Base64.unbroken_append, dot,
    ← Base64.encode_of_decode spells.header, ← Base64.encode_of_decode spells.body,
    ← Base64.encode_of_decode spells.ending, signingInput, List.append_assoc, List.cons_append]

theorem signatureOf_eq (split : token.splitOn (byte '.') = [first, second, third]) :
    signatureOf token = Base64.decode third := by
  rw [signatureOf, split]

/-- `relayCapability`: the token in the values of the `Authorization` header of a request to the
relay. -/
def relayCapability (values : List Bytes) : Option Bytes :=
  match values with
  | [value] =>
    let start := ascii "BrezelCapability "
    if !start.isPrefixOf value then none
    else
      let token := value.drop start.length
      if token = [] ∨ token.any (ascii " \t\r\n,").contains then none else some token
  | _ => none

theorem relayCapability_unbroken {values : List Bytes}
    (relayed : relayCapability values = some token) : Base64.unbroken token = token := by
  unfold relayCapability at relayed
  split at relayed
  · simp only at relayed
    split at relayed
    · cases relayed
    split at relayed
    · cases relayed
    next fine =>
    cases relayed
    refine Base64.unbroken_eq fun code member => ?_
    have allowed := mt (fun found => Or.inr (List.any_eq_true.mpr ⟨code, member, found⟩)) fine
    -- a line break is among the characters that are looked for
    by_contra isBreak
    have either : code = 10 ∨ code = 13 := by
      simpa [Base64.isBreak, or_iff_not_imp_left] using isBreak
    rcases either with rfl | rfl
    · exact allowed (by decide)
    · exact allowed (by decide)
  · cases relayed

/-- **The tokens that a relay lets through have one spelling**: two of them that are accepted with
the same claims and the same signature are the same. -/
theorem relayed_token_unique {other : Bytes} {values values' : List Bytes} {later : Time}
    (relayed : relayCapability values = some token)
    (relayed' : relayCapability values' = some other)
    (accepted : verifier.authenticate at_ token = .ok claims)
    (accepted' : verifier.authenticate later other = .ok claims)
    (signed : signatureOf token = signatureOf other) : token = other := by
  obtain ⟨-, -, first, second, third, signature, split, spells⟩ := authenticate_ok accepted
  obtain ⟨-, -, first', second', third', signature', split', spells'⟩ := authenticate_ok accepted'
  rw [signatureOf_eq split, signatureOf_eq split', spells.ending, spells'.ending,
    Option.some.injEq] at signed
  rw [← relayCapability_unbroken relayed, ← relayCapability_unbroken relayed',
    spells.unbroken split, spells'.unbroken split', signed]

theorem dotless {text bytes : Bytes} (read : Base64.decode text = some bytes) : byte '.' ∉ text :=
  Base64.not_mem_of_decode read (by decide) (by decide)

/-- A line break at the end is passed over. -/
theorem authenticate_line (accepted : verifier.authenticate at_ token = .ok claims)
    (short : token.length < maxCapabilitySize) :
    verifier.authenticate at_ (token ++ [10]) = .ok claims ∧
      signatureOf (token ++ [10]) = signatureOf token := by
  obtain ⟨-, current, first, second, third, signature, split, spells⟩ := authenticate_ok accepted
  have ending : Base64.decode (third ++ [10]) = Base64.decode third := by
    rw [Base64.decode, Base64.unbroken_append]
    simp [Base64.decode, Base64.unbroken, Base64.isBreak]
  have split' : (token ++ [10]).splitOn (byte '.') = [first, second, third ++ [10]] := by
    rw [← splitOn_eq (dotless spells.header) (dotless spells.body)
      (dotless (ending.trans spells.ending)), eq_of_splitOn split]
    simp
  refine ⟨authenticate_of_spells ?_ current split'
    { spells with ending := ending.trans spells.ending }, ?_⟩
  · rw [List.length_append]
    exact short
  · rw [signatureOf_eq split', ending, signatureOf_eq split]

/-! ## The round trip -/

/-- How many bytes a text takes between its quotes. -/
def escapedLength (text : Bytes) : Nat := ((Utf8.characters text).flatMap escape).length

/-- The claims without their identities. -/
def CapabilityClaims.bare (claims : CapabilityClaims) : CapabilityClaims :=
  { claims with
    keyID := [], issuer := [], audience := [], nodeID := [], bootEpoch := [], routeID := [],
    projectID := [], sandboxID := [] }

/-- How long the token for some claims is, by the escaped lengths of the identities. -/
def tokenSize (claims : CapabilityClaims) : Nat :=
  (4 * (55 + escapedLength claims.keyID) + 2) / 3 +
    (4 * (claims.bare.doc.render.length +
      (claims.identities.map fun identity => escapedLength identity.2).sum) + 2) / 3 + 88

theorem length_quote (text : Bytes) : (quote text).length = escapedLength text + 2 := by
  simp [quote, escapedLength]

theorem escapedLength_nil : escapedLength [] = 0 := rfl

theorem length_header (keyID : Bytes) :
    (headerOf keyID).doc.render.length = 55 + escapedLength keyID := by
  have fixed : (headerOf []).doc.render.length = 55 := by decide +kernel
  rw [← fixed]
  simp only [headerOf, CapabilityHeader.doc, Doc.render, renderMembers, List.isEmpty_cons,
    Bool.false_eq_true, reduceIte, List.isEmpty_nil, List.length_cons, List.length_append,
    List.length_nil, length_quote, escapedLength_nil]
  omega

theorem length_claims (claims : CapabilityClaims) :
    claims.doc.render.length = claims.bare.doc.render.length +
      (claims.identities.map fun identity => escapedLength identity.2).sum := by
  simp only [CapabilityClaims.doc, CapabilityClaims.bare, CapabilityClaims.identities, Doc.render,
    renderMembers, List.isEmpty_cons, Bool.false_eq_true, reduceIte, List.isEmpty_nil,
    List.length_cons, List.length_append, List.length_nil, List.map_cons, List.map_nil,
    List.sum_cons, List.sum_nil, length_quote, escapedLength_nil]
  omega

theorem length_token (signer : CapabilitySigner scheme) (claims : CapabilityClaims) :
    (signer.token claims).length = tokenSize claims := by
  rw [tokenSize, ← length_header, ← length_claims]
  simp only [CapabilitySigner.token, signingInput, List.length_append, List.length_cons,
    Base64.length_encode, scheme.length_sign]
  omega

/-- The issuer and the key of the signer are those of the verifier. -/
structure Trusts (verifier : CapabilityVerifier scheme) (signer : CapabilitySigner scheme) :
    Prop where
  issuer : verifier.issuer = signer.issuer
  key : verifier.keys signer.keyID = some (scheme.publicKey signer.privateKey)

theorem splitOn_token (signer : CapabilitySigner scheme) (claims : CapabilityClaims) :
    (signer.token claims).splitOn (byte '.') =
      [Base64.encode (headerOf claims.keyID).doc.render, Base64.encode claims.doc.render,
        Base64.encode (scheme.sign signer.privateKey
          (capabilityMessage (signingInput claims)))] := by
  rw [← splitOn_eq (dotless (Base64.decode_encode _)) (dotless (Base64.decode_encode _))
    (dotless (Base64.decode_encode _))]
  simp [CapabilitySigner.token, signingInput]

theorem authenticate_token (trusts : Trusts verifier signer) (isKey : claims.keyID = signer.keyID)
    (valid : claims.doc.Valid) (fits : tokenSize claims ≤ maxCapabilitySize)
    (current : Current verifier at_ claims) :
    verifier.authenticate at_ (signer.token claims) = .ok claims := by
  refine authenticate_of_spells ?_ current (splitOn_token signer claims) ⟨Base64.decode_encode _,
    Base64.decode_encode _, Base64.decode_encode _, valid, scheme.length_sign _ _, _,
    isKey ▸ trusts.key, scheme.verify_sign _ _⟩
  rw [length_token]
  exact fits

theorem CapabilityHeader.doc_injective : Function.Injective CapabilityHeader.doc := by
  rintro ⟨type, algorithm, keyID⟩ ⟨type', algorithm', keyID'⟩ same
  simpa [CapabilityHeader.doc] using same

theorem omitZero_name {name : String} {value : Int} {member : Bytes × Doc}
    (isMember : member ∈ omitZero name value) : member.1 = ascii name := by
  unfold omitZero at isMember
  split at isMember
  · cases isMember
  · rw [List.mem_singleton.mp isMember]

theorem omitZero_inj {name : String} {value value' : Int} {rest rest' : List (Bytes × Doc)}
    (absent : ∀ member ∈ rest, member.1 ≠ ascii name)
    (absent' : ∀ member ∈ rest', member.1 ≠ ascii name)
    (same : omitZero name value ++ rest = omitZero name value' ++ rest') :
    value = value' ∧ rest = rest' := by
  unfold omitZero at same
  split_ifs at same with isZero isZero' isZero'
  · exact ⟨isZero.trans isZero'.symm, same⟩
  · subst same
    exact absurd rfl (absent _ List.mem_cons_self)
  · subst same
    exact absurd rfl (absent' _ List.mem_cons_self)
  · simpa using same

theorem omitZero_absent {name other : String} (different : ascii other ≠ ascii name) (value : Int) :
    ∀ member ∈ omitZero other value, member.1 ≠ ascii name := by
  intro member isMember
  rw [omitZero_name isMember]
  exact different

theorem CapabilityBounds.members_injective : Function.Injective CapabilityBounds.members := by
  rintro ⟨duration, request, response, port⟩ ⟨duration', request', response', port'⟩ same
  have afterResponse (port : Int) : ∀ member ∈ omitZero "port" port,
      member.1 ≠ ascii "max_response_bytes" := omitZero_absent (by decide) port
  have afterRequest (response port : Int) :
      ∀ member ∈ omitZero "max_response_bytes" response ++ omitZero "port" port,
        member.1 ≠ ascii "max_request_bytes" :=
    List.forall_mem_append.mpr ⟨omitZero_absent (by decide) _, omitZero_absent (by decide) _⟩
  have afterDuration (request response port : Int) :
      ∀ member ∈ omitZero "max_request_bytes" request ++
          (omitZero "max_response_bytes" response ++ omitZero "port" port),
        member.1 ≠ ascii "max_duration_ms" :=
    List.forall_mem_append.mpr ⟨omitZero_absent (by decide) _,
      List.forall_mem_append.mpr ⟨omitZero_absent (by decide) _, omitZero_absent (by decide) _⟩⟩
  obtain ⟨rfl, same⟩ := omitZero_inj (afterDuration _ _ _) (afterDuration _ _ _) same
  obtain ⟨rfl, same⟩ := omitZero_inj (afterRequest _ _) (afterRequest _ _) same
  obtain ⟨rfl, same⟩ := omitZero_inj (afterResponse _) (afterResponse _) same
  have last : omitZero "port" port ++ [] = omitZero "port" port' ++ [] := by simpa using same
  obtain ⟨samePort, -⟩ := omitZero_inj (by simp) (by simp) last
  rw [Int.ofNat_inj.mp samePort]

theorem CapabilityClaims.doc_injective : Function.Injective CapabilityClaims.doc := by
  intro claims claims' same
  simp only [CapabilityClaims.doc, Doc.object.injEq, List.cons.injEq, Prod.mk.injEq, true_and,
    Doc.number.injEq, Doc.text.injEq, Doc.array.injEq, and_true, Int.ofNat_inj] at same
  obtain ⟨version, keyID, issuer, audience, nodeID, bootEpoch, routeID, generation, projectID,
    sandboxID, jti, operations, digest, issuedAt, notBefore, expiresAt, bounds⟩ := same
  have sameOperations := List.map_injective_iff.mpr (fun _ _ => Doc.text.inj) operations
  have sameBounds := CapabilityBounds.members_injective bounds
  cases claims
  cases claims'
  simp_all

/-- The reader that finds what a text was written for. -/
noncomputable def Reader.canonical {Value : Type} {doc : Value → Doc}
    (injective : Function.Injective doc) : Reader doc := by
  classical
  exact
  { read := fun text =>
      if found : ∃ value, (doc value).Valid ∧ (doc value).render = text then some found.choose
      else none
    valid_of_read := by
      intro text value read
      split at read
      · next found =>
        cases read
        exact found.choose_spec.1
      · cases read
    read_render := by
      intro value valid
      have found : ∃ other, (doc other).Valid ∧ (doc other).render = (doc value).render :=
        ⟨value, valid, rfl⟩
      rw [dif_pos found, injective (found.choose_spec.1.eq_of_render found.choose_spec.2)] }

/-- The fields that `Match` compares. -/
structure Agrees (claims : CapabilityClaims) (expected : CapabilityExpected) : Prop where
  audience : claims.audience = expected.audience
  nodeID : claims.nodeID = expected.nodeID
  bootEpoch : claims.bootEpoch = expected.bootEpoch
  routeID : claims.routeID = expected.routeID
  generation : claims.generation = expected.generation
  projectID : claims.projectID = expected.projectID
  sandboxID : claims.sandboxID = expected.sandboxID
  operation : claims.operations = [expected.operation]
  digest : claims.requestDigest = expected.requestDigest

theorem matches_iff (checked : validateCapabilityClaims claims = .ok ())
    (issuer : claims.issuer = verifier.issuer) :
    verifier.matches claims expected = .ok () ↔ Agrees claims expected := by
  have wellFormed := wellFormed_of_valid checked
  obtain ⟨operation, isOperation, known⟩ := wellFormed.operation
  constructor
  · intro matched
    unfold CapabilityVerifier.matches at matched
    split at matched
    · cases matched
    split at matched
    · cases matched
    next expectedValid =>
    split at matched
    · cases matched
    next agrees =>
    unfold validateExpected at expectedValid
    split at expectedValid
    · cases expectedValid
    split at expectedValid
    · cases expectedValid
    next context =>
    push Not at agrees context
    obtain ⟨audience, nodeID, bootEpoch, routeID, generation, projectID, sandboxID, sameOperation,
      digest⟩ := agrees
    refine ⟨audience, nodeID, bootEpoch, routeID, generation, projectID, sandboxID, ?_, ?_⟩
    · rw [isOperation] at sameOperation ⊢
      rw [← sameOperation]
      rfl
    · exact (equalDigest_iff wellFormed.digest (by simpa using context.2.2)).mp
        (by simpa using digest)
  · rintro ⟨audience, nodeID, bootEpoch, routeID, generation, projectID, sandboxID, sameOperation,
      digest⟩
    have expectedValid : validateExpected expected = .ok () := by
      have identities := wellFormed.identities
      have isKnown : validOperation expected.operation = true := by
        rw [isOperation, List.cons.injEq] at sameOperation
        rw [← sameOperation.1]
        exact known
      simp only [CapabilityClaims.identities, List.forall_mem_cons] at identities
      have fine : expected.identities.find? (fun identity => !validateIdentity identity.2) =
          none := by
        simp [CapabilityExpected.identities, ← audience, ← nodeID, ← bootEpoch, ← routeID,
          ← projectID, ← sandboxID, identities]
      simp [validateExpected, fine, ← generation, wellFormed.generation, isKnown, ← digest,
        wellFormed.digest]
    have sameDigest : equalDigest claims.requestDigest expected.requestDigest = true :=
      (equalDigest_iff wellFormed.digest (digest ▸ wellFormed.digest)).mpr digest
    simp [CapabilityVerifier.matches, checked, issuer, expectedValid, audience, nodeID, bootEpoch,
      routeID, generation, projectID, sandboxID, sameOperation, sameDigest]

/-- A token for some claims is accepted throughout their lifetime and at no other time, with these
claims, and they match what agrees with them. -/
structure RoundTrips (verifier : CapabilityVerifier scheme) (token : Bytes)
    (claims : CapabilityClaims) : Prop where
  accepted : ∀ at_ : Time, seconds claims.notBefore ≤ at_ → at_ < seconds claims.expiresAt →
    verifier.authenticate at_ token = .ok claims
  refused : ∀ at_ : Time, at_ < seconds claims.notBefore ∨ seconds claims.expiresAt ≤ at_ →
    ∃ error, verifier.authenticate at_ token = .error error
  matched : ∀ expected, verifier.matches claims expected = .ok () ↔ Agrees claims expected

theorem unix_facts (at_ begins ends : Int) :
    (seconds begins ≤ at_ ↔ begins ≤ unix at_) ∧ (at_ < seconds ends ↔ unix at_ < ends) := by
  simp only [seconds, unix]
  omega

/-- Nothing but the claims is read from their token. -/
theorem authenticate_token_eq {found : CapabilityClaims}
    (accepted : verifier.authenticate at_ (signer.token claims) = .ok found) : found = claims := by
  obtain ⟨-, -, first, second, third, signature, split, spells⟩ := authenticate_ok accepted
  rw [splitOn_token, List.cons.injEq, List.cons.injEq] at split
  have body := spells.body
  rw [← split.2.1, Base64.decode_encode, Option.some.injEq] at body
  exact CapabilityClaims.doc_injective (spells.valid.eq_of_render body.symm)

theorem round_trip_iff (trusts : Trusts verifier signer) (isKey : claims.keyID = signer.keyID)
    (isIssuer : claims.issuer = signer.issuer)
    (checked : validateCapabilityClaims claims = .ok ()) :
    RoundTrips verifier (signer.token claims) claims ↔
      (∀ identity ∈ claims.identities, Utf8.Valid identity.2) ∧
        tokenSize claims ≤ maxCapabilitySize := by
  have wellFormed := wellFormed_of_valid checked
  have issuer := isIssuer.trans trusts.issuer.symm
  constructor
  · intro roundTrips
    have begins : seconds claims.notBefore < seconds claims.expiresAt := by
      have := wellFormed.lifetime
      simp only [seconds]
      omega
    obtain ⟨fits, -, _, _, _, _, -, spells⟩ :=
      authenticate_ok (roundTrips.accepted (seconds claims.notBefore) (le_refl _) begins)
    rw [length_token] at fits
    exact ⟨wellFormed.valid_iff.mp spells.valid, fits⟩
  · rintro ⟨identities, fits⟩
    refine ⟨fun at_ begun unexpired => ?_, fun at_ outside => ?_,
      fun _ => matches_iff checked issuer⟩
    · exact authenticate_token trusts isKey (wellFormed.valid_iff.mpr identities) fits
        ⟨checked, issuer, (unix_facts at_ _ 0).1.mp begun, (unix_facts at_ 0 _).2.mp unexpired⟩
    · cases answer : verifier.authenticate at_ (signer.token claims) with
      | error error => exact ⟨error, rfl⟩
      | ok found =>
        obtain ⟨-, current, -⟩ := authenticate_ok answer
        rw [authenticate_token_eq answer] at current
        have begun := (unix_facts at_ _ 0).1.mpr current.begun
        have unexpired := (unix_facts at_ 0 _).2.mpr current.unexpired
        rcases outside with early | late
        · exact absurd begun (not_le.mpr early)
        · exact absurd unexpired (not_lt.mpr late)

/-- **Issued tokens round-trip just when they are UTF-8 and not too long.** -/
theorem token_round_trip_iff (trusts : Trusts verifier signer)
    (issued : signer.issue now nonce request = .ok (token, claims)) :
    RoundTrips verifier token claims ↔
      (∀ identity ∈ (signer.claimsFor now nonce request).identities, Utf8.Valid identity.2) ∧
        tokenSize (signer.claimsFor now nonce request) ≤ maxCapabilitySize := by
  obtain ⟨rfl, rfl, checked⟩ := issue_ok issued
  exact round_trip_iff trusts rfl rfl checked

/-! ## Samples -/

/-- A verifier that trusts the plane of the samples. -/
noncomputable def sampleVerifier : CapabilityVerifier sampleScheme where
  issuer := ascii "control"
  keys _ := some ()
  headers := .canonical CapabilityHeader.doc_injective
  claims := .canonical CapabilityClaims.doc_injective

theorem sample_trusts : Trusts sampleVerifier samplePlane.signer := ⟨rfl, rfl⟩

/-- A request for a capability to read a file, for the given audience. -/
def sampleRequest (audience : Bytes) : CapabilityIssue where
  audience := audience
  nodeID := ascii "node"
  bootEpoch := ascii "boot"
  routeID := ascii "r"
  generation := 1
  projectID := ascii "p"
  sandboxID := ascii "s"
  operation := capabilityReadFile
  requestDigest := Base64.encode (List.replicate 32 0)
  bounds := ⟨0, 0, 1, 0⟩
  ttl := seconds 1
  notBefore := none

/-- The answer to such a request. -/
def sampleIssued (audience : Bytes) : Except CapabilityError (Bytes × CapabilityClaims) :=
  samplePlane.signer.issue (seconds 1800000000) (List.replicate 16 0) (sampleRequest audience)

theorem token_round_trip_sample : ∃ token claims,
    sampleIssued (ascii "relay") = .ok (token, claims) ∧
      RoundTrips sampleVerifier token claims := by
  have isOk : (sampleIssued (ascii "relay")).isOk := by decide +kernel
  obtain ⟨⟨token, claims⟩, issued⟩ := exists_of_isOk isOk
  refine ⟨token, claims, issued, (token_round_trip_iff sample_trusts issued).mpr ⟨?_, ?_⟩⟩
  · decide +kernel
  · decide +kernel

/-- An audience that is a stray byte: the token is issued, and never accepted. -/
theorem token_refused_stray : ∃ token claims,
    sampleIssued [255] = .ok (token, claims) ∧ ¬ RoundTrips sampleVerifier token claims := by
  have isOk : (sampleIssued [255]).isOk := by decide +kernel
  obtain ⟨⟨token, claims⟩, issued⟩ := exists_of_isOk isOk
  refine ⟨token, claims, issued, fun roundTrips => ?_⟩
  obtain ⟨rfl, rfl, checked⟩ := issue_ok issued
  have valid := ((round_trip_iff sample_trusts rfl rfl checked).mp roundTrips).1 ("audience", [255])
    (by decide)
  revert valid
  decide

theorem exists_accepted : ∃ token claims,
    sampleVerifier.authenticate (seconds 1800000000) token = .ok claims ∧
      relayCapability [ascii "BrezelCapability " ++ token] = some token ∧
      token.length < maxCapabilitySize := by
  have isOk : (sampleIssued (ascii "relay")).isOk := by decide +kernel
  obtain ⟨⟨token, claims⟩, issued⟩ := exists_of_isOk isOk
  obtain ⟨rfl, rfl, checked⟩ := issue_ok issued
  have roundTrips := (round_trip_iff sample_trusts rfl rfl checked).mpr
    ⟨by decide +kernel, by decide +kernel⟩
  refine ⟨_, _, roundTrips.accepted _ (by decide +kernel) (by decide +kernel),
    by decide +kernel, ?_⟩
  rw [length_token]
  decide +kernel

/-- A request carries an accepted token, and whatever another request carries is this token or is
not accepted with its claims and its signature. -/
theorem relayed_token_unique_sample : ∃ token claims,
    sampleVerifier.authenticate (seconds 1800000000) token = .ok claims ∧
      relayCapability [ascii "BrezelCapability " ++ token] = some token ∧
      ∀ values other, relayCapability values = some other →
        sampleVerifier.authenticate (seconds 1800000000) other = .ok claims →
        signatureOf token = signatureOf other → token = other := by
  obtain ⟨token, claims, accepted, relayed, -⟩ := exists_accepted
  refine ⟨token, claims, accepted, relayed, ?_⟩
  intro values other relayed' accepted' signed
  exact relayed_token_unique relayed relayed' accepted accepted' signed

/-- An accepted token with a line break at its end is accepted as well. -/
theorem token_second_spelling : ∃ token other claims,
    sampleVerifier.authenticate (seconds 1800000000) token = .ok claims ∧
      sampleVerifier.authenticate (seconds 1800000000) other = .ok claims ∧
      signatureOf token = signatureOf other ∧ token ≠ other := by
  obtain ⟨token, claims, accepted, -, short⟩ := exists_accepted
  obtain ⟨accepted', signed⟩ := authenticate_line accepted short
  exact ⟨token, token ++ [10], claims, accepted, accepted', signed.symm, by simp⟩

end Brezel.Node.Capability
