import Mathlib.Data.List.Sort
import McpPortal.Auth.Rar
import McpPortal.Config.Loader
import McpPortal.Foundation.JsonRoundTrip
import McpPortal.Policy.Engine

/-!
# Outbound credentials

What an upstream request is authorized with, and the form a token request sends.
The details an allowed call carries travel in the form field
`authorization_details`, written by `authorizationDetailsJson` and read by the
token endpoint with the syntax `parseAuthorizationDetails` reads. Empty lists and
an absent identifier are left out, which is what reading them back restores.
-/

namespace McpPortal

open Foundation

structure Credential where
  header : String
  value : String
  deriving DecidableEq

def secretNotResolved (isPrintable : Char → Bool) (ref : SecretRef) : String :=
  "secret reference " ++ reprString isPrintable ref.text ++ " was not resolved at load time"

/-- The credential of an upstream whose mode is `none` or `static`. -/
def credentialFor (isPrintable : Char → Bool) (outbound : OutboundConfig)
    (secrets : List (String × String)) : Except ConfigError (Option Credential) :=
  if outbound.mode = .none then return none
  else
    match outbound.value with
    | none => throw { message := "outbound mode 'static' requires 'value'" }
    | some ref =>
        match Dict.get? secrets ref.text with
        | none => throw { message := secretNotResolved isPrintable ref }
        | some secret =>
            let value :=
              match outbound.scheme with
              | some scheme => if scheme = "" then secret else scheme ++ " " ++ secret
              | none => secret
            return some { header := outbound.header, value }

/-- The credential the dynamic modes make of a token. -/
def bearerCredential (token : String) : Credential where
  header := "Authorization"
  value := "Bearer " ++ token

/-- What the credential source of an upstream yields; `token` comes from the token cache. -/
def upstreamCredential (isPrintable : Char → Bool) (outbound : OutboundConfig)
    (secrets : List (String × String)) (token : String) : Except ConfigError (Option Credential) :=
  match outbound.mode with
  | .clientCredentials => return some (bearerCredential token)
  | .tokenExchange => return some (bearerCredential token)
  | _ => credentialFor isPrintable outbound secrets

/-- `list(values) or None`. -/
def listOrNone (values : List String) : Option Json :=
  if values.isEmpty then none else some (.arr (values.map .str))

/-- One detail as it is sent, without the fields that are `None`. -/
def detailFields (detail : AuthorizationDetail) : JsonObject :=
  Dict.present
    [ ("type", some (.str detail.type)),
      ("actions", listOrNone detail.actions),
      ("locations", listOrNone detail.locations),
      ("datatypes", listOrNone detail.datatypes),
      ("identifier", detail.identifier.map .str),
      ("privileges", listOrNone detail.privileges) ]

def sentDetails (details : List AuthorizationDetail) : Json :=
  .arr (details.map fun detail => .obj (detailFields detail))

/-- `_authorization_details_json`. -/
def authorizationDetailsJson (details : List AuthorizationDetail) : Option String :=
  if details.isEmpty then none else some (dumps (sentDetails details))

/-- `" ".join(sorted(scopes))`. -/
def scopeText (scopes : List String) : String :=
  joinWith " " (scopes.insertionSort (· ≤ ·))

/-- The fields both grants add last. -/
def withScopeAndDetails (data : List (String × String)) (scopes : List String)
    (carry : List AuthorizationDetail) : List (String × String) :=
  let data := if scopes.isEmpty then data else Dict.insert data "scope" (scopeText scopes)
  match authorizationDetailsJson carry with
  | none => data
  | some details => Dict.insert data "authorization_details" details

/-- The form `ClientCredentialsSource.get` posts. -/
def clientCredentialsData (outbound : OutboundConfig) (carry : List AuthorizationDetail) :
    List (String × String) :=
  withScopeAndDetails [("grant_type", "client_credentials")] outbound.scopes carry

/-- `data[key] = value`, unless the value is `None`. -/
def insertPresent (data : List (String × String)) (key : String) (value : Option String) :
    List (String × String) :=
  match value with
  | none => data
  | some value => Dict.insert data key value

/-- The form `TokenExchangeSource.get` posts. -/
def tokenExchangeData (outbound : OutboundConfig) (subjectToken : String)
    (carry : List AuthorizationDetail) : List (String × String) :=
  let data :=
    [ ("grant_type", "urn:ietf:params:oauth:grant-type:token-exchange"),
      ("subject_token", subjectToken),
      ("subject_token_type", "urn:ietf:params:oauth:token-type:access_token"),
      ("requested_token_type", outbound.requestedTokenType) ]
  let data := insertPresent data "audience" outbound.audience
  let data := insertPresent data "resource" outbound.resource
  withScopeAndDetails data outbound.scopes carry

theorem stringTuple_listOrNone (values : List String) (fieldName : String) :
    stringTuple ((listOrNone values).getD (.arr [])) fieldName = .ok values := by
  cases values with
  | nil => rfl
  | cons value rest =>
      simp only [listOrNone, List.isEmpty_cons, Bool.false_eq_true, if_false, Option.getD_some,
        stringTuple, Json.strings?_arr_map_str]

theorem get?_detailFields (detail : AuthorizationDetail) :
    Dict.get? (detailFields detail) "type" = some (.str detail.type) ∧
      Dict.get? (detailFields detail) "actions" = listOrNone detail.actions ∧
      Dict.get? (detailFields detail) "locations" = listOrNone detail.locations ∧
      Dict.get? (detailFields detail) "datatypes" = listOrNone detail.datatypes ∧
      Dict.get? (detailFields detail) "identifier" = detail.identifier.map .str ∧
      Dict.get? (detailFields detail) "privileges" = listOrNone detail.privileges := by
  simp only [detailFields]
  rw [Dict.get?_present (by simp), Dict.get?_present (by simp), Dict.get?_present (by simp),
    Dict.get?_present (by simp), Dict.get?_present (by simp), Dict.get?_present (by simp)]
  exact ⟨rfl, rfl, rfl, rfl, rfl, rfl⟩

/-- What is sent for a detail is read as that detail. -/
theorem parseAuthorizationDetail_detailFields (detail : AuthorizationDetail) :
    parseAuthorizationDetail (.obj (detailFields detail)) = .ok detail := by
  rcases get?_detailFields detail with
    ⟨type, actions, locations, datatypes, identifier, privileges⟩
  have identifierRead : parseIdentifier (detailFields detail) = .ok detail.identifier := by
    simp only [parseIdentifier, identifier]
    cases detail.identifier <;> rfl
  simp only [parseAuthorizationDetail, type, actions, locations, datatypes, privileges,
    identifierRead, stringTuple_listOrNone]
  rfl

theorem parseAuthorizationDetails_sentDetails (details : List AuthorizationDetail) :
    parseAuthorizationDetails (sentDetails details) = .ok details := by
  simp only [parseAuthorizationDetails, sentDetails]
  induction details with
  | nil => rfl
  | cons detail rest ih =>
      rw [List.map_cons, List.mapM_cons, parseAuthorizationDetail_detailFields, ih]
      rfl

theorem readable_listOrNone {readFloat : String → PyFloat} {values : List String} {value : Json}
    (sent : listOrNone values = some value) : JsonText.Readable readFloat value := by
  cases values with
  | nil => cases sent
  | cons first rest =>
      cases sent
      rw [JsonText.Readable, JsonText.readableItems_iff]
      intro item itemMem
      rcases List.mem_map.mp itemMem with ⟨text, _, rfl⟩
      trivial

theorem readable_detailFields (readFloat : String → PyFloat) (detail : AuthorizationDetail) :
    JsonText.Readable readFloat (.obj (detailFields detail)) := by
  refine ⟨(Dict.keys_present_sublist _).nodup (by simp), ?_⟩
  rw [JsonText.readableFields_iff]
  rintro ⟨name, value⟩ fieldMem
  have sent := Dict.mem_present.mp fieldMem
  simp only [List.mem_cons, Prod.mk.injEq, List.not_mem_nil, or_false] at sent
  rcases sent with ⟨_, field⟩ | ⟨_, field⟩ | ⟨_, field⟩ | ⟨_, field⟩ | ⟨_, field⟩ | ⟨_, field⟩
  · cases field
    trivial
  · exact readable_listOrNone field.symm
  · exact readable_listOrNone field.symm
  · exact readable_listOrNone field.symm
  · rcases Option.map_eq_some_iff.mp field.symm with ⟨identifier, _, rfl⟩
    trivial
  · exact readable_listOrNone field.symm

theorem readable_sentDetails (readFloat : String → PyFloat) (details : List AuthorizationDetail) :
    JsonText.Readable readFloat (sentDetails details) := by
  rw [sentDetails, JsonText.Readable, JsonText.readableItems_iff]
  intro item itemMem
  rcases List.mem_map.mp itemMem with ⟨detail, _, rfl⟩
  exact readable_detailFields readFloat detail

/-- The form sends exactly `carry`, in no field at all when there is nothing to carry. -/
def Conveys (readFloat : String → PyFloat) (data : List (String × String))
    (carry : List AuthorizationDetail) : Prop :=
  match Dict.get? data "authorization_details" with
  | none => carry = []
  | some text =>
      carry ≠ [] ∧ ∃ value, loads readFloat text = some value ∧
        parseAuthorizationDetails value = .ok carry

theorem conveys_withScopeAndDetails (readFloat : String → PyFloat)
    {data : List (String × String)} (unset : Dict.get? data "authorization_details" = none)
    (scopes : List String) (carry : List AuthorizationDetail) :
    Conveys readFloat (withScopeAndDetails data scopes carry) carry := by
  have stillUnset : Dict.get? (if scopes.isEmpty then data
      else Dict.insert data "scope" (scopeText scopes)) "authorization_details" = none := by
    split
    · exact unset
    · rw [Dict.get?_insert_of_ne _ _ (by decide)]
      exact unset
  cases carry with
  | nil =>
      simp only [Conveys, withScopeAndDetails, authorizationDetailsJson, List.isEmpty_nil, if_true,
        stillUnset]
  | cons detail rest =>
      simp only [Conveys, withScopeAndDetails, authorizationDetailsJson, List.isEmpty_cons,
        Bool.false_eq_true, if_false, Dict.get?_insert_self]
      refine ⟨List.cons_ne_nil _ _, sentDetails (detail :: rest), ?_, ?_⟩
      · exact loads_dumps (readable_sentDetails readFloat _)
      · exact parseAuthorizationDetails_sentDetails _

theorem conveys_clientCredentialsData (readFloat : String → PyFloat) (outbound : OutboundConfig)
    (carry : List AuthorizationDetail) :
    Conveys readFloat (clientCredentialsData outbound carry) carry :=
  conveys_withScopeAndDetails readFloat rfl _ _

theorem get?_insertPresent_of_ne {data : List (String × String)} {key other : String}
    (value : Option String) (different : key ≠ other) :
    Dict.get? (insertPresent data key value) other = Dict.get? data other := by
  cases value with
  | none => rfl
  | some value => exact Dict.get?_insert_of_ne _ _ different

theorem conveys_tokenExchangeData (readFloat : String → PyFloat) (outbound : OutboundConfig)
    (subjectToken : String) (carry : List AuthorizationDetail) :
    Conveys readFloat (tokenExchangeData outbound subjectToken carry) carry := by
  apply conveys_withScopeAndDetails
  rw [get?_insertPresent_of_ne _ (by decide), get?_insertPresent_of_ne _ (by decide)]
  rfl

namespace PolicyEngine

/--
Carried authority stays within what the caller presented, comes from matching
rules that ask for it to be carried, and reaches the token endpoint unchanged.
-/
theorem carry_within_presented (readFloat : String → PyFloat) (policy : PolicyConfig)
    (operation : Operation) (principal : Principal) (outbound : OutboundConfig)
    (subjectToken : String)
    (allowed : (evaluate policy operation principal).allowed = true) :
    let carry := (evaluate policy operation principal).carry
    (∀ detail ∈ carry, ∃ presented ∈ principal.authorizationDetails,
        coversOne detail presented = true) ∧
      (∀ detail ∈ carry, ∃ rule ∈ policy.rules, ruleMatches operation rule.spec = true ∧
        rule.outbound.carry = true ∧ detail ∈ rule.details) ∧
      Conveys readFloat (clientCredentialsData outbound carry) carry ∧
      Conveys readFloat (tokenExchangeData outbound subjectToken carry) carry := by
  simp only [carry_evaluate]
  refine ⟨?_, ?_, conveys_clientCredentialsData _ _ _, conveys_tokenExchangeData _ _ _ _⟩
  · intro detail carried
    have required := required_of_carry carried
    rcases allowed_iff.mp allowed with ⟨nothing, _⟩ | ⟨_, covered⟩
    · rw [nothing] at required
      cases required
    · exact List.any_eq_true.mp (covered detail required)
  · intro detail carried
    exact mem_carry.mp carried

section Transfer

private def transferOperation : Operation where
  id := "transfer"
  upstream := "bank"
  name := "transfer"
  title := ""
  description := ""
  groupTags := []
  effect := .action
  sensitivity := .normal
  inputSchema := []
  binding := .http { method := "POST", path := "/transfer" }

private def transferDetail : AuthorizationDetail where
  type := "payment"
  actions := ["initiate", ""]
  identifier := some ""

private def transferPolicy : PolicyConfig where
  rules :=
    [ { spec := { ids := ["trans*"] }
        require := some {
          authorizationDetails :=
            [ { type := "payment"
                actions := some ["initiate", ""]
                identifier := some ""
                nonEmptyWhenPresent := by decide } ]
          nonEmpty := List.cons_ne_nil _ _ }
        outbound := { carry := true } } ]
  requireLessRuleForbiddenUnderDeny := requires_of_allow

private def holder : Principal where
  identity := "holder"
  authorizationDetails := [{ transferDetail with locations := ["home"] }]

/-- A detail with empty strings is carried and read back as it is. -/
theorem carry_within_presented_transfer :
    let carry := (evaluate transferPolicy transferOperation holder).carry
    carry = [transferDetail] ∧
      (∀ detail ∈ carry, ∃ presented ∈ holder.authorizationDetails,
        coversOne detail presented = true) ∧
      Conveys (fun text => { value := 0, repr := text }) (clientCredentialsData .noCredential carry) carry := by
  have transfer := carry_within_presented (fun text => { value := 0, repr := text })
    transferPolicy transferOperation holder .noCredential "subject" (by decide)
  exact ⟨by decide, transfer.1, transfer.2.2.1⟩

end Transfer

end PolicyEngine

end McpPortal
