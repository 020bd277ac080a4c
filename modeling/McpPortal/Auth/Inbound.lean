import McpPortal.Auth.Principal
import McpPortal.Foundation.Dynamic
import McpPortal.Foundation.PyText

/-!
# Verifying a bearer token

Whoever calls chooses the header of a token, and with a valid key its claims. Decoding,
signatures and the checks of issuer, audience and times are those of a library, which is an
argument here. Verification answers with an access token or with none.
-/

namespace McpPortal

open Foundation

/-- What `pyjwt.decode` is asked for. -/
structure DecodeRequest (Key : Type) where
  token : String
  key : Key
  algorithms : List String
  issuer : String
  audience : String
  leewayS : Rat
  require : List String

/-- The JWT library; `none` where it raises an error of its own. -/
structure PyJwt (Key : Type) where
  getUnverifiedHeader : String → Option JsonObject
  keyFromDict : (jwk : JsonObject) → (algorithm : String) → Option Key
  decode : DecodeRequest Key → Option JsonObject

structure JwtTokenVerifier where
  issuer : String
  audience : String
  algorithms : List String
  requiredScopes : List String
  leewayS : Rat

/-- An access token with the scopes and the resource it is for. -/
structure VerifiedToken extends AccessToken where
  scopes : List String
  resource : String

/-- `_ACCEPTED_TYP`. -/
def acceptedTyp : List String := ["at+jwt", "jwt"]

/-- The claims a token has to have. -/
def requiredClaims : List String := ["exp", "iss", "aud"]

abbrev Verifying := Except (PyException Empty)

/-- `int(value)`. -/
def intOf (decimal : Char → Option Nat) : Json → Verifying Int
  | .bool value => return if value then 1 else 0
  | .int value => return value
  | .float value => return value.value.num.tdiv value.value.den
  | .str text =>
      match pyInt decimal text.toList with
      | some value => return value
      | none => throw .valueError
  | _ => throw .typeError

section Verify

variable (unicode : PyUnicode)

/-- `_scopes_from_claims`. -/
def scopesFromClaims (claims : JsonObject) : List String :=
  match Dict.get? claims "scp" with
  | some (.arr scopes) => scopes.map (Json.text unicode.isPrintable)
  | _ =>
      match Dict.get? claims "scope" with
      | some (.str scope) => splitWords scope
      | _ => []

/-- `claims.get("client_id") or claims.get("sub") or "unknown"`, as text. -/
def clientIdOf (claims : JsonObject) : String :=
  let given := [Dict.get? claims "client_id", Dict.get? claims "sub"].filterMap id
  match given.find? Json.truthy with
  | some value => value.text unicode.isPrintable
  | none => "unknown"

/-- A subject the access token can hold; the validation error of the others is a `ValueError`. -/
def subjectOf (claims : JsonObject) : Verifying (Option String) :=
  match Dict.get? claims "sub" with
  | none => return none
  | some .null => return none
  | some (.str subject) => return some subject
  | some _ => throw .valueError

/-- `int(claims["exp"])`. -/
def expiryOf (claims : JsonObject) : Verifying Int :=
  match Dict.get? claims "exp" with
  | some expiry => intOf unicode.decimal expiry
  | none => throw .keyError

namespace JwtTokenVerifier

variable {Key : Type} (pyjwt : PyJwt Key) (keyFor : String → Option JsonObject)
  (verifier : JwtTokenVerifier)

/-- `self._algorithms`. -/
def allowedAlgorithms : List String :=
  verifier.algorithms.filter fun algorithm => algorithm ≠ "none"

def decodeRequest (token : String) (key : Key) (algorithm : String) : DecodeRequest Key where
  token
  key
  algorithms := [algorithm]
  issuer := verifier.issuer
  audience := verifier.audience
  leewayS := verifier.leewayS
  require := requiredClaims

/-- Whether the details are absent, null or a list. -/
def hasDetails (claims : JsonObject) : Bool :=
  match Dict.get? claims "authorization_details" with
  | none => true
  | some .null => true
  | some (.arr _) => true
  | some _ => false

/-- The claims of a token that passes every check, given the `alg` of its header. -/
def acceptedClaims (token : String) (header : JsonObject) (alg : Json) : Option JsonObject := do
  let algorithm ← alg.string?
  guard (algorithm ∈ verifier.allowedAlgorithms)
  let typ ← ((Dict.get? header "typ").getD (.str "")).string?
  guard (unicode.lower typ ∈ acceptedTyp)
  let kid ← ((Dict.get? header "kid").getD .null).string?
  let jwk ← keyFor kid
  let key ← pyjwt.keyFromDict jwk algorithm
  let claims ← pyjwt.decode (verifier.decodeRequest token key algorithm)
  guard (hasDetails claims)
  guard (verifier.requiredScopes.all (· ∈ scopesFromClaims unicode claims))
  return claims

/-- The access token of accepted claims. -/
def accessToken (token : String) (claims : JsonObject) : Verifying VerifiedToken := do
  let expiresAt ← expiryOf unicode claims
  let subject ← subjectOf claims
  return {
    token
    clientId := clientIdOf unicode claims
    scopes := scopesFromClaims unicode claims
    expiresAt := some expiresAt
    resource := verifier.audience
    subject
    claims := some claims }

/-- `verify_token`. Looking an algorithm up in a set takes its hash first. -/
def verifyToken (token : String) : Verifying (Option VerifiedToken) := do
  match pyjwt.getUnverifiedHeader token with
  | none => return none
  | some header =>
      let alg := (Dict.get? header "alg").getD .null
      if !alg.hashable then throw .typeError
      match acceptedClaims unicode pyjwt keyFor verifier token header alg with
      | none => return none
      | some claims => some <$> accessToken unicode verifier token claims

end JwtTokenVerifier

end Verify

end McpPortal
