import McpPortal.Auth.Inbound

/-!
# Which bearer tokens are denied

A token is accepted under the checks of `Accepts` and no others. What is left to raise is
the hash of an `alg` that is a list or an object, and the fields of the access token.
-/

namespace McpPortal

open Foundation

namespace JwtTokenVerifier

section Accept

variable {Key : Type} (unicode : PyUnicode) (pyjwt : PyJwt Key)
  (keyFor : String → Option JsonObject) (verifier : JwtTokenVerifier) (token : String)

/-- The checks a token passes on its way to its claims. -/
structure Accepts (header : JsonObject) (algorithm typ kid : String) (jwk : JsonObject) (key : Key)
    (claims : JsonObject) : Prop where
  isHeader : pyjwt.getUnverifiedHeader token = some header
  isAlg : Dict.get? header "alg" = some (.str algorithm)
  configured : algorithm ∈ verifier.algorithms
  signed : algorithm ≠ "none"
  isTyp : Dict.get? header "typ" = some (.str typ)
  acceptedTyp : unicode.lower typ = "at+jwt" ∨ unicode.lower typ = "jwt"
  isKid : Dict.get? header "kid" = some (.str kid)
  known : keyFor kid = some jwk
  isKey : pyjwt.keyFromDict jwk algorithm = some key
  decoded : pyjwt.decode (verifier.decodeRequest token key algorithm) = some claims
  details : ∀ details, Dict.get? claims "authorization_details" = some details →
    details = .null ∨ ∃ items, details = .arr items
  hasScopes : ∀ scope ∈ verifier.requiredScopes, scope ∈ scopesFromClaims unicode claims

/-- Some header and some key make these the claims of the token. -/
def AcceptsClaims (claims : JsonObject) : Prop :=
  ∃ header algorithm typ kid jwk key,
    Accepts unicode pyjwt keyFor verifier token header algorithm typ kid jwk key claims

/-- The `alg` of the header can be looked up in a set. -/
def AlgHashable : Prop :=
  ∀ header alg, pyjwt.getUnverifiedHeader token = some header →
    Dict.get? header "alg" = some alg → (∀ items, alg ≠ .arr items) ∧ ∀ fields, alg ≠ .obj fields

/-- The claims fill an access token: `exp` is read by `int`, and `sub` is text if anything. -/
def Presentable (claims : JsonObject) : Prop :=
  (∃ expiresAt, expiryOf unicode claims = .ok expiresAt) ∧
    ∀ subject, Dict.get? claims "sub" = some subject →
      subject = .null ∨ ∃ text, subject = .str text

/-- What verification promises of any token: an answer, and acceptance only after all checks. -/
structure Settles : Prop where
  answers : ∃ answer, verifyToken unicode pyjwt keyFor verifier token = .ok answer
  sound : ∀ access, verifyToken unicode pyjwt keyFor verifier token = .ok (some access) →
    ∃ claims, AcceptsClaims unicode pyjwt keyFor verifier token claims ∧
      access.claims = some claims ∧ access.scopes = scopesFromClaims unicode claims

end Accept

section Verify

variable {Key : Type} {unicode : PyUnicode} {pyjwt : PyJwt Key}
  {keyFor : String → Option JsonObject} {verifier : JwtTokenVerifier} {token : String}

theorem hasDetails_iff {claims : JsonObject} :
    hasDetails claims = true ↔
      ∀ details, Dict.get? claims "authorization_details" = some details →
        details = .null ∨ ∃ items, details = .arr items := by
  unfold hasDetails
  cases Dict.get? claims "authorization_details" with
  | none => simp
  | some details => cases details <;> simp

theorem string?_eq_some_iff {value : Json} {text : String} :
    value.string? = some text ↔ value = .str text := by
  cases value <;> simp [Json.string?]

theorem string?_getD_eq_some_iff {fields : JsonObject} {key text : String} {default : Json}
    (differs : default ≠ .str text) :
    ((Dict.get? fields key).getD default).string? = some text ↔
      Dict.get? fields key = some (.str text) := by
  rw [string?_eq_some_iff]
  cases Dict.get? fields key with
  | none => simp [differs]
  | some value => simp

theorem mem_acceptedTyp_iff {typ : String} : typ ∈ acceptedTyp ↔ typ = "at+jwt" ∨ typ = "jwt" := by
  simp [acceptedTyp]

theorem mem_allowedAlgorithms_iff {algorithm : String} :
    algorithm ∈ verifier.allowedAlgorithms ↔ algorithm ∈ verifier.algorithms ∧ algorithm ≠ "none" := by
  simp [allowedAlgorithms]

theorem typ_ne_empty {typ : String} (accepted : unicode.lower typ ∈ acceptedTyp) : typ ≠ "" := by
  rintro rfl
  rw [unicode.lowerOfAscii (by decide)] at accepted
  exact absurd accepted (by decide)

/-- The checks one after the other are those of `Accepts`. -/
theorem acceptedClaims_eq_some_iff {header claims : JsonObject}
    (isHeader : pyjwt.getUnverifiedHeader token = some header) :
    acceptedClaims unicode pyjwt keyFor verifier token header
        ((Dict.get? header "alg").getD .null) = some claims ↔
      AcceptsClaims unicode pyjwt keyFor verifier token claims := by
  simp only [acceptedClaims, Option.bind_eq_bind, Option.bind_eq_some_iff, Option.guard_eq_some',
    Option.pure_def, Option.some.injEq]
  constructor
  · rintro ⟨algorithm, isAlg, _, allowed, typ, isTyp, _, typAccepted, kid, isKid, jwk, known, key,
      isKey, decodedClaims, decoded, _, details, _, hasScopes, rfl⟩
    rw [string?_getD_eq_some_iff (by simp)] at isAlg isKid
    rw [string?_getD_eq_some_iff (by simpa using (typ_ne_empty typAccepted).symm)] at isTyp
    rw [mem_allowedAlgorithms_iff] at allowed
    rw [mem_acceptedTyp_iff] at typAccepted
    exact ⟨header, algorithm, typ, kid, jwk, key, isHeader, isAlg, allowed.1, allowed.2, isTyp,
      typAccepted, isKid, known, isKey, decoded, hasDetails_iff.mp details, by simpa using hasScopes⟩
  · rintro ⟨other, algorithm, typ, kid, jwk, key, accepts⟩
    cases isHeader.symm.trans accepts.isHeader
    have typAccepted := mem_acceptedTyp_iff.mpr accepts.acceptedTyp
    refine ⟨algorithm, ?_, (), ?_, typ, ?_, (), typAccepted, kid, ?_, jwk, accepts.known, key,
      accepts.isKey, claims, accepts.decoded, (), hasDetails_iff.mpr accepts.details, (), ?_, rfl⟩
    · rw [accepts.isAlg]
      rfl
    · exact mem_allowedAlgorithms_iff.mpr ⟨accepts.configured, accepts.signed⟩
    · rw [accepts.isTyp]
      rfl
    · rw [accepts.isKid]
      rfl
    · simpa using accepts.hasScopes

theorem hashable_iff {value : Json} :
    value.hashable = true ↔ (∀ items, value ≠ .arr items) ∧ ∀ fields, value ≠ .obj fields := by
  cases value <;> simp [Json.hashable]

theorem subjectOf_ok_iff {claims : JsonObject} :
    (∃ subject, subjectOf claims = .ok subject) ↔
      ∀ subject, Dict.get? claims "sub" = some subject →
        subject = .null ∨ ∃ text, subject = .str text := by
  unfold subjectOf
  cases Dict.get? claims "sub" with
  | none => simp
  | some subject => cases subject <;> simp

theorem accessToken_ok_iff {claims : JsonObject} :
    (∃ access, accessToken unicode verifier token claims = .ok access) ↔
      Presentable unicode claims := by
  rw [Presentable, ← subjectOf_ok_iff]
  simp only [accessToken, bind_eq_ok, pure_eq_ok]
  constructor
  · rintro ⟨_, expiresAt, isExpiry, subject, isSubject, _⟩
    exact ⟨⟨expiresAt, isExpiry⟩, subject, isSubject⟩
  · rintro ⟨⟨expiresAt, isExpiry⟩, subject, isSubject⟩
    exact ⟨_, expiresAt, isExpiry, subject, isSubject, rfl⟩

theorem accessToken_fields {claims : JsonObject} {access : VerifiedToken}
    (ran : accessToken unicode verifier token claims = .ok access) :
    access.claims = some claims ∧ access.scopes = scopesFromClaims unicode claims := by
  simp only [accessToken, bind_eq_ok, pure_eq_ok] at ran
  rcases ran with ⟨_, _, _, _, rfl⟩
  exact ⟨rfl, rfl⟩

/-- Verification of a token whose header is read and whose `alg` is hashed. -/
theorem verifyToken_of_header {header : JsonObject}
    (isHeader : pyjwt.getUnverifiedHeader token = some header)
    (hashed : ((Dict.get? header "alg").getD .null).hashable = true) :
    verifyToken unicode pyjwt keyFor verifier token =
      match acceptedClaims unicode pyjwt keyFor verifier token header
        ((Dict.get? header "alg").getD .null) with
      | none => return none
      | some claims => some <$> accessToken unicode verifier token claims := by
  simp only [verifyToken, isHeader, hashed]
  rfl

/-- The claims of an access token were accepted. -/
theorem verifyToken_sound {access : VerifiedToken}
    (ran : verifyToken unicode pyjwt keyFor verifier token = .ok (some access)) :
    ∃ claims, AcceptsClaims unicode pyjwt keyFor verifier token claims ∧
      access.claims = some claims ∧ access.scopes = scopesFromClaims unicode claims := by
  cases isHeader : pyjwt.getUnverifiedHeader token with
  | none =>
      simp only [verifyToken, isHeader] at ran
      cases ran
  | some header =>
      cases hashed : ((Dict.get? header "alg").getD .null).hashable with
      | false =>
          simp only [verifyToken, isHeader, hashed] at ran
          cases ran
      | true =>
          rw [verifyToken_of_header isHeader hashed] at ran
          split at ran
          · cases ran
          case h_2 claims accepted =>
            rw [map_eq_pure_bind, bind_eq_ok] at ran
            rcases ran with ⟨_, presented, collected⟩
            cases collected
            exact ⟨claims, (acceptedClaims_eq_some_iff isHeader).mp accepted,
              accessToken_fields presented⟩

/--
A token is answered, and accepted only after all checks, exactly when the `alg` of its
header is no list or object and, should its claims be accepted, they fill an access token.
-/
theorem settles_iff (unicode : PyUnicode) (pyjwt : PyJwt Key) (keyFor : String → Option JsonObject)
    (verifier : JwtTokenVerifier) (token : String) :
    Settles unicode pyjwt keyFor verifier token ↔
      AlgHashable pyjwt token ∧
        ∀ claims, AcceptsClaims unicode pyjwt keyFor verifier token claims →
          Presentable unicode claims := by
  constructor
  · intro settles
    rcases settles.answers with ⟨answer, ran⟩
    constructor
    · intro header alg isHeader isAlg
      rw [← hashable_iff]
      cases hashed : alg.hashable with
      | true => rfl
      | false =>
          simp only [verifyToken, isHeader, isAlg, Option.getD_some, hashed] at ran
          cases ran
    · rintro claims ⟨header, algorithm, typ, kid, jwk, key, accepts⟩
      have hashed : ((Dict.get? header "alg").getD .null).hashable = true := by
        rw [accepts.isAlg]
        rfl
      have accepted := (acceptedClaims_eq_some_iff accepts.isHeader).mpr
        ⟨header, algorithm, typ, kid, jwk, key, accepts⟩
      rw [verifyToken_of_header accepts.isHeader hashed, accepted] at ran
      simp only [map_eq_pure_bind, bind_eq_ok] at ran
      rcases ran with ⟨access, presented, _⟩
      exact accessToken_ok_iff.mp ⟨access, presented⟩
  · rintro ⟨algHashable, presentable⟩
    refine ⟨?_, fun access => verifyToken_sound⟩
    cases isHeader : pyjwt.getUnverifiedHeader token with
    | none => exact ⟨none, by simp only [verifyToken, isHeader]; rfl⟩
    | some header =>
        have hashed : ((Dict.get? header "alg").getD .null).hashable = true := by
          cases isAlg : Dict.get? header "alg" with
          | none => rfl
          | some alg => exact hashable_iff.mpr (algHashable header alg isHeader isAlg)
        rw [verifyToken_of_header isHeader hashed]
        split
        · exact ⟨none, rfl⟩
        case h_2 claims accepted =>
          have presents : ∃ access, accessToken unicode verifier token claims = .ok access :=
            accessToken_ok_iff.mpr
              (presentable claims ((acceptedClaims_eq_some_iff isHeader).mp accepted))
          rcases presents with ⟨access, presented⟩
          exact ⟨some access, by rw [presented]; rfl⟩

end Verify

/-- A token whose header is an object with a list for its `alg`. -/
def listAlgToken : String := "eyJhbGciOltdLCJ0eXAiOiJhdCtqd3QiLCJraWQiOiJrMSJ9.e30.c2ln"

/-- The library on that token: it looks at nothing but the `kid` of the header. -/
def listAlgPyJwt : PyJwt Unit where
  getUnverifiedHeader token :=
    if token = listAlgToken then
      some [("alg", .arr []), ("typ", .str "at+jwt"), ("kid", .str "k1")]
    else none
  keyFromDict _ _ := none
  decode _ := none

def idpVerifier : JwtTokenVerifier where
  issuer := "https://idp.example.com"
  audience := "https://api.example.com/mcp"
  algorithms := ["RS256", "ES256"]
  requiredScopes := []
  leewayS := 60

/-- Nobody needs a key to send such a token, and no answer comes. -/
theorem not_settles_listAlg :
    ¬Settles asciiTables listAlgPyJwt (fun _ => none) idpVerifier listAlgToken := by
  intro settles
  rcases settles.answers with ⟨answer, ran⟩
  cases ran

end JwtTokenVerifier

end McpPortal
