import McpPortal.Sources.Explicit

/-!
# Operations from an OpenAPI document

The records extracted from a document go through the same pipeline as entries. The
document is a third party's: an operation that names a denylisted header, has an
unsupported method or cannot be flattened is dropped.
-/

namespace McpPortal

open Foundation

structure RawParameter where
  name : String
  location : ParamLocation
  required : Bool
  schema : JsonObject
  explode : Bool

structure RawBody where
  contentType : String
  schema : JsonObject

/-- The texts of a document are not checked, so they are of any type. -/
structure RawOperation where
  method : String
  path : String
  operationId : Option String := none
  summary : Option Json := none
  description : Option Json := none
  tags : List String := []
  parameters : List RawParameter := []
  requestBody : Option RawBody := none
  extensions : JsonObject := []

/-- `value or fallback`. -/
def orElse (value : Option Json) (fallback : Json) : Json :=
  match value with
  | some value => if value.truthy then value else fallback
  | none => fallback

def RawParameter.parameter (raw : RawParameter) : Parameter where
  arg := raw.name
  location := raw.location
  wireName := raw.name
  required := raw.required
  schema := raw.schema
  explode := raw.explode

section Build

variable (unicode : PyUnicode)

/-- `default_operation_id`. -/
def defaultOperationId (method path : String) : String :=
  slug (unicode.lower (method ++ "_" ++ path))

/-- `_binding`. -/
def RawOperation.binding (raw : RawOperation) : HttpBinding where
  method := unicode.upper raw.method
  path := raw.path
  parameters := raw.parameters.map (·.parameter)
  body := raw.requestBody.map fun body => { contentType := body.contentType, schema := body.schema }

/-- `raw.operation_id or _default_id(raw)`. -/
def RawOperation.id (raw : RawOperation) : String :=
  textOr raw.operationId (defaultOperationId unicode raw.method raw.path)

/-- What is coerced to the description: an extension may be of any type. -/
def RawOperation.describedBy (raw : RawOperation) : Json :=
  orElse (Dict.get? raw.extensions "x-mcp-description")
    (orElse raw.description (orElse raw.summary (.str (raw.id unicode))))

/-- What is coerced to the title. -/
def RawOperation.titledBy (raw : RawOperation) (description : String) : Json :=
  orElse (Dict.get? raw.extensions "x-mcp-title")
    (orElse raw.summary (.str (firstLine description (raw.id unicode))))

/-- `_name_override`: a name that cannot be published is ignored. -/
def RawOperation.nameOverride (raw : RawOperation) : Flatten String := do
  let name ← strOf unicode.isPrintable (orElse (Dict.get? raw.extensions "x-mcp-name") (.str ""))
  return if isToolName name then name else ""

/-- A truthy value of an extension. -/
def RawOperation.flag (raw : RawOperation) (extension : String) : Bool :=
  (orElse (Dict.get? raw.extensions extension) (.bool false)).truthy

/-- What a flattened record becomes. -/
def RawOperation.operation (upstreamKey : String) (raw : RawOperation) (derivedEffect : Effect)
    (resolved : HttpBinding) (inputSchema : JsonObject) : Flatten Operation := do
  let description ← strOf unicode.isPrintable (raw.describedBy unicode)
  let title ← strOf unicode.isPrintable (raw.titledBy unicode description)
  let name ← raw.nameOverride unicode
  return {
    id := raw.id unicode
    upstream := upstreamKey
    name
    title
    description
    groupTags := raw.tags
    effect := derivedEffect
    sensitivity := if raw.flag "x-mcp-sensitive" then .sensitive else .normal
    inputSchema
    binding := .http resolved }

namespace OpenApiSource

/-- `OpenApiSource._build`; only a `FlattenError` drops the operation, others end the load. -/
def build (upstreamKey : String) (credentialHeaders : List String) (raw : RawOperation) :
    Flatten (Option Operation) :=
  let binding := raw.binding unicode
  if raw.flag "x-mcp-exclude" then return none
  else if binding.parameters.any (fun param =>
      param.location = .header && isDenylisted unicode param.wireName credentialHeaders) then
    return none
  else
    match effectForMethod unicode binding.method with
    | .error _ => return none
    | .ok derivedEffect =>
        match flattenBinding binding with
        | .error (.raised _) => return none
        | .error error => throw error
        | .ok (resolved, inputSchema) =>
            some <$> raw.operation unicode upstreamKey derivedEffect resolved inputSchema

end OpenApiSource

end Build

variable {unicode : PyUnicode}

/-- The fields of an operation, whose texts are printed. -/
theorem RawOperation.operation_eq_ok {upstreamKey : String} {raw : RawOperation} {effect : Effect}
    {resolved : HttpBinding} {inputSchema : JsonObject} {operation : Operation} :
    raw.operation unicode upstreamKey effect resolved inputSchema = .ok operation ↔
      ∃ description title name,
        strOf unicode.isPrintable (raw.describedBy unicode) = (.ok description : Flatten String) ∧
        strOf unicode.isPrintable (raw.titledBy unicode description) =
          (.ok title : Flatten String) ∧
        raw.nameOverride unicode = .ok name ∧
        operation = {
          id := raw.id unicode
          upstream := upstreamKey
          name
          title
          description
          groupTags := raw.tags
          effect
          sensitivity := if raw.flag "x-mcp-sensitive" then .sensitive else .normal
          inputSchema
          binding := .http resolved } := by
  simp only [RawOperation.operation, bind_eq_ok, pure_eq_ok]
  constructor
  · rintro ⟨description, described, title, titled, name, named, rfl⟩
    exact ⟨description, title, name, described, titled, named, rfl⟩
  · rintro ⟨description, title, name, described, titled, named, rfl⟩
    exact ⟨description, described, title, titled, name, named, rfl⟩

/-- An operation that survives names no denylisted header and has the resolved binding. -/
theorem OpenApiSource.build_ok {upstreamKey : String} {credentialHeaders : List String}
    {raw : RawOperation} {operation : Operation}
    (built : OpenApiSource.build unicode upstreamKey credentialHeaders raw = .ok (some operation)) :
    operation.upstream = upstreamKey ∧
      (∀ param ∈ (raw.binding unicode).parameters, param.location = .header →
        isDenylisted unicode param.wireName credentialHeaders = false) ∧
      ∃ resolved, flattenBinding (raw.binding unicode) = .ok (resolved, operation.inputSchema) ∧
        operation.binding = .http resolved := by
  unfold OpenApiSource.build at built
  simp only at built
  split at built
  · cases built
  · split at built
    · cases built
    case isFalse noneDenylisted =>
      split at built
      · cases built
      · split at built
        · cases built
        · cases built
        case h_3 flattened =>
          rcases map_eq_ok.mp built with ⟨own, printed, same⟩
          cases same
          rcases RawOperation.operation_eq_ok.mp printed with ⟨_, _, _, _, _, _, rfl⟩
          refine ⟨rfl, ?_, _, flattened, rfl⟩
          intro param paramMem isHeader
          rw [Bool.eq_false_iff]
          intro denylisted
          apply noneDenylisted
          exact List.any_eq_true.mpr ⟨param, paramMem, by simp [isHeader, denylisted]⟩

end McpPortal
