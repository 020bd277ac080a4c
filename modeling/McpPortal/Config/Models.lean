import Mathlib.Data.List.Basic
import McpPortal.Naming

/-!
# The main configuration

The part of the validated configuration that the modelled functions read. A
structure carries what its validators check, and the texts held to a pattern are
structures of their own.
-/

namespace McpPortal

open Foundation

/-- `\s` of a regular expression: the characters with the property `White_Space`. -/
def isWhiteSpace (char : Char) : Bool :=
  (9 ≤ char.toNat && char.toNat ≤ 13) || char.toNat = 0x20 || char.toNat = 0x85 ||
    char.toNat = 0xa0 || char.toNat = 0x1680 || (0x2000 ≤ char.toNat && char.toNat ≤ 0x200a) ||
    char.toNat = 0x2028 || char.toNat = 0x2029 || char.toNat = 0x202f || char.toNat = 0x205f ||
    char.toNat = 0x3000

/-- `HTTP_URL_PATTERN`: a scheme and the first character of a host. -/
def isHttpUrl (text : String) : Bool :=
  ["http://", "https://"].any fun scheme =>
    scheme.toList.isPrefixOf text.toList &&
      match (text.toList.drop scheme.toList.length).head? with
      | some char => char ≠ '/' && char ≠ '?' && char ≠ '#' && !isWhiteSpace char
      | none => false

/-- `SECRET_REF_PATTERN`: `${env:VAR}` or `${file:path}`. -/
def isSecretRef (text : String) : Bool :=
  ["$\x7benv:", "$\x7bfile:"].any fun opening =>
    opening.toList.isPrefixOf text.toList &&
      let rest := text.toList.drop opening.toList.length
      rest.getLast? = some '\x7d' && !rest.dropLast.isEmpty && '\x7d' ∉ rest.dropLast

/-- An absolute HTTP(S) URL. -/
structure BaseUrl where
  text : String
  hasScheme : isHttpUrl text = true := by decide
  deriving DecidableEq

structure SecretRef where
  text : String
  isRef : isSecretRef text = true := by decide
  deriving DecidableEq

inductive OutboundMode where
  | none
  | static
  | clientCredentials
  | tokenExchange
  deriving DecidableEq

section OutboundChecks

theorem noneMode_needs_no_value : OutboundMode.none = .static → (none : Option SecretRef) ≠ none :=
  nofun

theorem noneMode_needs_no_endpoint :
    OutboundMode.none = .clientCredentials ∨ OutboundMode.none = .tokenExchange →
      (none : Option BaseUrl) ≠ none ∧ (none : Option String) ≠ none ∧
        (none : Option SecretRef) ≠ none := by decide

theorem staticMode_needs_no_endpoint :
    OutboundMode.static = .clientCredentials ∨ OutboundMode.static = .tokenExchange →
      (none : Option BaseUrl) ≠ none ∧ (none : Option String) ≠ none ∧
        (none : Option SecretRef) ≠ none := by decide

end OutboundChecks

/-- How an upstream's credential is produced. -/
structure OutboundConfig where
  mode : OutboundMode := .none
  header : String := "Authorization"
  scheme : Option String := some "Bearer"
  value : Option SecretRef := none
  tokenEndpoint : Option BaseUrl := none
  clientId : Option String := none
  clientSecret : Option SecretRef := none
  scopes : List String := []
  audience : Option String := none
  resource : Option String := none
  requestedTokenType : String := "urn:ietf:params:oauth:token-type:access_token"
  staticNeedsAValue : mode = .static → value ≠ none
  dynamicModesNeedEndpointAndClient : mode = .clientCredentials ∨ mode = .tokenExchange →
    tokenEndpoint ≠ none ∧ clientId ≠ none ∧ clientSecret ≠ none

/-- An upstream without outbound credentials. -/
abbrev OutboundConfig.noCredential : OutboundConfig where
  staticNeedsAValue := noneMode_needs_no_value
  dynamicModesNeedEndpointAndClient := noneMode_needs_no_endpoint

structure OpenApiIntrospectionConfig where
  url : Option BaseUrl := none
  file : Option String := none
  includeDeprecated : Bool := false
  allowExternalRefs : Bool := false
  allowedHosts : List String := []
  exactlyOneDocumentSource : url.isNone ≠ file.isNone := by decide

structure GraphQlIntrospectionConfig where
  url : BaseUrl
  typePolicy : List (String × List String) := []

structure IntrospectionConfig where
  openapi : Option OpenApiIntrospectionConfig := none
  graphql : Option GraphQlIntrospectionConfig := none
  exactlyOneProtocol : openapi.isNone ≠ graphql.isNone := by decide

/-- `introspection.graphql.url`, when the upstream is introspected by GraphQL. -/
def graphqlUrl (introspection : Option IntrospectionConfig) : Option BaseUrl :=
  (introspection.bind (·.graphql)).map (·.url)

theorem positive_defaultLimits : 0 < 30000 ∧ 0 < 30000 * 3 ∧ 0 < 1024 * 1024 := by decide

structure UpstreamConfig where
  baseUrl : Option BaseUrl := none
  timeoutMs : Nat := 30000
  maxTotalMs : Nat := timeoutMs * 3
  maxResponseBytes : Nat := 1024 * 1024
  outbound : OutboundConfig := .noCredential
  introspection : Option IntrospectionConfig := none
  positive : 0 < timeoutMs ∧ 0 < maxTotalMs ∧ 0 < maxResponseBytes
  baseUrlOrIntrospection : baseUrl = none → introspection.isSome := by decide
  graphqlNeedsMatchingBaseUrl :
    ∀ url ∈ graphqlUrl introspection, baseUrl = some url := by decide

/-- An explicit tool name, held to the pattern of generated ones. -/
structure ToolName where
  text : String
  wellFormed : isToolName text = true := by decide

structure ParameterEntry where
  arg : String
  location : ParamLocation
  wireName : Option String := none
  required : Bool := false
  schema : JsonObject := [("type", .str "string")]
  style : ParamStyle := .form
  explode : Bool := true

structure BodyEntry where
  contentType : String := "application/json"
  mode : BodyMode := .flatten
  schema : JsonObject

structure HttpBindingEntry where
  method : String
  path : String
  parameters : List ParameterEntry := []
  body : Option BodyEntry := none

structure GraphQlVariableEntry where
  name : String
  graphqlType : String
  required : Bool := false

structure GraphQlBindingEntry where
  operationType : GraphQlOperationType
  document : String
  variableList : List GraphQlVariableEntry := []

inductive BindingEntry where
  | http (binding : HttpBindingEntry)
  | graphQl (binding : GraphQlBindingEntry)

structure OperationEntry where
  id : String
  upstream : String
  description : String
  title : Option String := none
  name : Option ToolName := none
  groupTags : List String := []
  effect : Option Effect := none
  sensitivity : Option Sensitivity := none
  binding : BindingEntry

/-- `value or fallback` on optional texts. -/
def textOr (value : Option String) (fallback : String) : String :=
  match value with
  | some text => if text = "" then fallback else text
  | none => fallback

theorem textOr_some (text fallback : String) :
    textOr (some text) fallback = if text = "" then fallback else text := rfl

/-- A text that is there is taken, whatever the fallback. -/
theorem textOr_of_ne {value : Option String} (stated : textOr value "" ≠ "") (fallback : String) :
    textOr value fallback = textOr value "" := by
  cases value with
  | none => exact absurd rfl stated
  | some text =>
      rw [textOr_some] at stated ⊢
      by_cases empty : text = "" <;> simp_all [textOr_some]

theorem textOr_of_eq {value : Option String} (unstated : textOr value "" = "")
    (fallback : String) : textOr value fallback = fallback := by
  cases value with
  | none => rfl
  | some text =>
      rw [textOr_some] at unstated ⊢
      by_cases empty : text = "" <;> simp_all

def ParameterEntry.parameter (entry : ParameterEntry) : Parameter where
  arg := entry.arg
  location := entry.location
  wireName := textOr entry.wireName entry.arg
  required := entry.required
  schema := entry.schema
  style := entry.style
  explode := entry.explode

def BodyEntry.bodySpec (entry : BodyEntry) : BodySpec where
  contentType := entry.contentType
  schema := entry.schema
  mode := entry.mode

structure MatchSpec where
  ids : List String := []
  tags : List String := []
  upstream : List String := []
  effect : List Effect := []

structure ClassificationRule where
  spec : MatchSpec
  effect : Option Effect := none
  sensitivity : Option Sensitivity := none

structure SelectionConfig where
  includeTags : Option (List String) := none
  excludeTags : List String := []
  includeIds : Option (List String) := none
  excludeIds : List String := []

structure NamingConfig where
  strategy : NamingStrategy := .operationId
  prefixWithGroupTag : Bool := false
  prefixWithUpstream : Bool := false

/-- `auth.local_principal`: raw details, parsed into domain objects when the principal is built. -/
structure LocalPrincipalConfig where
  authorizationDetails : List JsonObject := []

section InboundChecks

theorem nonNegative_defaultLeeway : 0 ≤ ({ value := 60, repr := "60.0" } : PyFloat).value := by
  decide

theorem disabled_needs_no_issuer :
    false = true → (none : Option BaseUrl) ≠ none ∧ (none : Option String) ≠ none := nofun

theorem none_notMem_defaultAlgorithms : "none" ∉ ["RS256", "ES256"] := by decide

end InboundChecks

structure InboundAuthConfig where
  enabled : Bool := false
  issuer : Option BaseUrl := none
  audience : Option String := none
  jwksUri : Option BaseUrl := none
  requiredScopes : List String := []
  algorithms : List String := ["RS256", "ES256"]
  leewayS : PyFloat := { value := 60, repr := "60.0" }
  allowUnauthenticatedHttp : Bool := false
  leewayNonNegative : 0 ≤ leewayS.value
  enabledNeedsIssuerAndAudience : enabled = true → issuer ≠ none ∧ audience ≠ none
  noneAlgorithmNeverAllowed : "none" ∉ algorithms

abbrev InboundAuthConfig.disabled : InboundAuthConfig where
  leewayNonNegative := nonNegative_defaultLeeway
  enabledNeedsIssuerAndAudience := disabled_needs_no_issuer
  noneAlgorithmNeverAllowed := none_notMem_defaultAlgorithms

/-- Callers need a token of the issuer for the audience. -/
abbrev InboundAuthConfig.issuedBy (issuer : BaseUrl) (audience : String) : InboundAuthConfig where
  enabled := true
  issuer := some issuer
  audience := some audience
  leewayNonNegative := nonNegative_defaultLeeway
  enabledNeedsIssuerAndAudience _ := ⟨Option.some_ne_none _, Option.some_ne_none _⟩
  noneAlgorithmNeverAllowed := none_notMem_defaultAlgorithms

inductive Transport where
  | stdio
  | http
  deriving DecidableEq

structure ServerConfig where
  name : String
  transport : Transport := .stdio
  host : String := "127.0.0.1"

inductive Mode where
  | configured
  | introspectSafe
  | introspectUnsafe
  deriving DecidableEq

def loopbackHosts : List String :=
  ["127.0.0.1", "localhost", "::1"]

section ServerChecks

theorem configured_is_safe : Mode.configured = .introspectUnsafe → false = true := nofun

theorem introspectSafe_is_safe : Mode.introspectSafe = .introspectUnsafe → false = true := nofun

theorem stdio_is_guarded (name : String) :
    ({ name } : ServerConfig).transport = .http → InboundAuthConfig.disabled.enabled = false →
      ({ name } : ServerConfig).host ∉ loopbackHosts →
        InboundAuthConfig.disabled.allowUnauthenticatedHttp = true := nofun

end ServerChecks

structure McpPortalConfig where
  mode : Mode
  acknowledgeUnsafe : Bool := false
  server : ServerConfig
  upstreams : List (String × UpstreamConfig)
  operations : List OperationEntry := []
  classification : List ClassificationRule := []
  selection : SelectionConfig := {}
  naming : NamingConfig := {}
  localPrincipal : LocalPrincipalConfig := {}
  inbound : InboundAuthConfig := .disabled
  uniqueUpstreams : (Dict.keys upstreams).Nodup := by decide
  operationsReferenceKnownUpstreams :
    ∀ entry ∈ operations, entry.upstream ∈ Dict.keys upstreams := by decide
  unsafeModeRequiresAcknowledgement :
    mode = .introspectUnsafe → acknowledgeUnsafe = true
  configuredModeNeedsEveryBaseUrl :
    mode = .configured → ∀ upstream ∈ upstreams, upstream.2.baseUrl ≠ none := by decide
  unauthenticatedHttpIsGuarded :
    server.transport = .http → inbound.enabled = false → server.host ∉ loopbackHosts →
      inbound.allowUnauthenticatedHttp = true
  tokenExchangeRequiresInbound :
    ∀ upstream ∈ upstreams, upstream.2.outbound.mode = .tokenExchange →
      server.transport = .http ∧ inbound.enabled = true := by decide

end McpPortal
