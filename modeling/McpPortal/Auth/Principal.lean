import McpPortal.Auth.Rar
import McpPortal.Config.Loader
import McpPortal.Foundation.Fallible

/-!
# The calling identity

A policy decision is evaluated against a principal: the locally asserted one
built from the configuration, or the one a verified access token represents.
-/

namespace McpPortal

open Foundation

structure Principal where
  identity : String
  authorizationDetails : List AuthorizationDetail
  subjectToken : Option String := none
  subjectTokenExpiresAt : Option Int := none

/-- The fields of a verified access token that a principal is built from. -/
structure AccessToken where
  token : String
  clientId : String
  subject : Option String := none
  expiresAt : Option Int := none
  claims : Option JsonObject := none

def localPrincipalError (error : RarError) : ConfigError where
  message := "auth.local_principal.authorization_details: " ++ error.message

/-- The self-asserted principal of `auth.local_principal`. -/
def localPrincipal (config : LocalPrincipalConfig) : Except ConfigError Principal := do
  let raw := Json.arr (config.authorizationDetails.map .obj)
  let details ← (parseAuthorizationDetails raw).mapError localPrincipalError
  return { identity := "local", authorizationDetails := details }

/-- `access_token.subject or access_token.client_id`. -/
def tokenIdentity (accessToken : AccessToken) : String :=
  match accessToken.subject with
  | some subject => if subject = "" then accessToken.clientId else subject
  | none => accessToken.clientId

/-- `(access_token.claims or {}).get("authorization_details", [])`. -/
def rawTokenDetails (accessToken : AccessToken) : Json :=
  (Dict.get? (accessToken.claims.getD []) "authorization_details").getD (.arr [])

/-- The principal a bearer token represents, or `none` when its details are malformed. -/
def principalFromAccessToken (accessToken : AccessToken) : Option Principal :=
  match parseAuthorizationDetails (rawTokenDetails accessToken) with
  | .error _ => none
  | .ok details =>
      some
        { identity := tokenIdentity accessToken
          authorizationDetails := details
          subjectToken := some accessToken.token
          subjectTokenExpiresAt := accessToken.expiresAt }

theorem localPrincipal_ok {config : LocalPrincipalConfig} {principal : Principal}
    (built : localPrincipal config = .ok principal) :
    ∃ details,
      parseAuthorizationDetails (.arr (config.authorizationDetails.map .obj)) = .ok details ∧
        principal = { identity := "local", authorizationDetails := details } := by
  simp only [localPrincipal, bind_eq_ok, mapError_eq_ok, pure_eq_ok] at built
  rcases built with ⟨details, parsed, rfl⟩
  exact ⟨details, parsed, rfl⟩

theorem principalFromAccessToken_eq_some {accessToken : AccessToken} {principal : Principal}
    (built : principalFromAccessToken accessToken = some principal) :
    ∃ details, parseAuthorizationDetails (rawTokenDetails accessToken) = .ok details ∧
      principal =
        { identity := tokenIdentity accessToken
          authorizationDetails := details
          subjectToken := some accessToken.token
          subjectTokenExpiresAt := accessToken.expiresAt } := by
  unfold principalFromAccessToken at built
  split at built
  · cases built
  case h_2 details parsed =>
    cases built
    exact ⟨details, parsed, rfl⟩

/-- A token one of whose details is malformed stands for nobody. -/
theorem principalFromAccessToken_eq_none_iff {accessToken : AccessToken} :
    principalFromAccessToken accessToken = none ↔
      ¬WellFormedDetails (rawTokenDetails accessToken) := by
  rw [← parseAuthorizationDetails_ok_iff]
  unfold principalFromAccessToken
  cases parseAuthorizationDetails (rawTokenDetails accessToken) <;> simp

end McpPortal
