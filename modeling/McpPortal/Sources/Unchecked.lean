import McpPortal.Sources.OpenApi
import McpPortal.Sources.OpenApiPaths

/-!
# Building operations from unchecked records

The pipeline of bindings that come from configuration, on the records of a document:
names, content types and schemas are of whatever type the document gives them, and the
built-ins the pipeline uses raise where they cannot work with one. Printing raises on an
integer of too many digits, also where it is for the message of an error.
-/

namespace McpPortal

open Foundation

namespace Unchecked

structure Parameter where
  arg : DictKey
  location : ParamLocation
  wireName : DictKey
  required : Bool
  schema : Json
  explode : Json

/-- A body of a document has the default mode, `flatten`. -/
structure BodySpec where
  contentType : DictKey
  schema : Json

structure HttpBinding where
  method : String
  path : String
  parameters : List Parameter := []
  body : Option BodySpec := none

/-- A published property: `dict(schema)`, or what a body's properties hold. -/
inductive Property where
  | schema (fields : PyDict Json)
  | lifted (value : Json)

/-- `{"type": "object", "properties": ...}`, with `"required"` when it is not empty. -/
structure InputSchema where
  properties : PyDict Property
  required : List Json

structure Operation where
  id : Json
  upstream : String
  name : String
  title : String
  description : String
  groupTags : List Json
  effect : Effect
  sensitivity : Sensitivity
  inputSchema : InputSchema
  binding : HttpBinding

inductive FlattenError where
  | unsupportedContentType (contentType : Json)
  | repeatedPlaceholders (path : String) (repeated : List String)
  | optionalPathParameter (arg wireName : Json)
  | sharedWireName (first second wireName : Json)
  | unmatchedPlaceholders (path : String) (unmatched : List String)
  | unplacedParameters (path : String) (unplaced : List Json)
  | argumentCollision (name : Json) (first second : String)

namespace FlattenError

variable (isPrintable : Char → Bool)

def message : FlattenError → String
  | .unsupportedContentType contentType =>
      "unsupported request body content type " ++ contentType.repr isPrintable ++
        "; P1 supports " ++ (Json.arr (supportedContentTypes.map .str)).repr isPrintable
  | .repeatedPlaceholders path repeated =>
      "path " ++ reprString isPrintable path ++ " repeats placeholder(s) " ++
        (Json.arr (repeated.map .str)).repr isPrintable
  | .optionalPathParameter arg wireName =>
      "path parameter " ++ arg.repr isPrintable ++
        " is optional, but a path parameter cannot be: " ++
        "omitting it would leave the literal placeholder '\x7b" ++ wireName.text isPrintable ++
        "\x7d' in the URL"
  | .sharedWireName first second wireName =>
      "path parameters " ++ first.repr isPrintable ++ " and " ++ second.repr isPrintable ++
        " share wire name " ++ wireName.repr isPrintable ++
        ", so only one of them can fill the placeholder '\x7b" ++ wireName.text isPrintable ++
        "\x7d' and the other's value would be discarded"
  | .unmatchedPlaceholders path unmatched =>
      "path " ++ reprString isPrintable path ++ " has placeholder(s) " ++
        (Json.arr (unmatched.map .str)).repr isPrintable ++
        " with no path parameter to fill them"
  | .unplacedParameters path unplaced =>
      "path parameter(s) " ++ (Json.arr unplaced).repr isPrintable ++
        " have no matching placeholder in path " ++ reprString isPrintable path ++
        ", so their values would be read and discarded"
  | .argumentCollision name first second =>
      "argument name " ++ name.repr isPrintable ++
        " collides after location prefixing: contributed by " ++ first ++ " and " ++ second

/-- The values of the document that the message prints. -/
def printed : FlattenError → List Json
  | .unsupportedContentType contentType => [contentType]
  | .repeatedPlaceholders _ _ => []
  | .optionalPathParameter arg wireName => [arg, wireName]
  | .sharedWireName first second wireName => [first, second, wireName]
  | .unmatchedPlaceholders _ _ => []
  | .unplacedParameters _ unplaced => unplaced
  | .argumentCollision name _ _ => [name]

end FlattenError

abbrev Flatten := Except (PyException FlattenError)

/-- `raise FlattenError(...)`, for which the message is printed first. -/
def refuse {Value : Type} (error : FlattenError) : Flatten Value :=
  if error.printed.any Json.hasLongInt then throw .valueError else throw (.raised error)

theorem refuse_bind {Value Other : Type} {error : FlattenError} {next : Value → Flatten Other} :
    (refuse error : Flatten Value) >>= next = refuse error := by
  unfold refuse
  split <;> rfl

/-- `except FlattenError`. -/
def isFlattenError : PyException FlattenError → Bool
  | .raised _ => true
  | _ => false

/-- `_binding`. -/
def RawParameter.parameter (raw : RawParameter) : Parameter where
  arg := raw.name
  location := raw.location
  wireName := raw.name
  required := raw.required
  schema := raw.schema
  explode := raw.explode

def RawOperation.binding (unicode : PyUnicode) (raw : RawOperation) : HttpBinding where
  method := unicode.upper raw.method
  path := raw.path
  parameters := raw.parameters.map (·.parameter)
  body := raw.requestBody.map fun body => { contentType := body.contentType, schema := body.schema }

/-- The argument declared for each wire name. -/
abbrev Declared := List (HashKey × DictKey)

/-- A wire name that is declared already is an error. -/
def declareName (declared : Declared) (parameter : Parameter) : Flatten Declared :=
  match Dict.get? declared parameter.wireName.key with
  | some first =>
      refuse (.sharedWireName first.value parameter.arg.value parameter.wireName.value)
  | none => return Dict.insert declared parameter.wireName.key parameter.arg

def declarePath (declared : Declared) (parameter : Parameter) : Flatten Declared :=
  if !parameter.required then
    refuse (.optionalPathParameter parameter.arg.value parameter.wireName.value)
  else declareName declared parameter

def pathParameters (parameters : List Parameter) : List Parameter :=
  parameters.filter fun parameter => parameter.location = .path

/-- What a placeholder is as the name of a parameter. -/
def placeholderKeys (path : String) : List HashKey :=
  (pathPlaceholders path).map .text

def checkPathTemplate (binding : HttpBinding) : Flatten Unit := do
  let placeholders := pathPlaceholders binding.path
  let repeated := sortedRepeats placeholders
  if repeated ≠ [] then refuse (.repeatedPlaceholders binding.path repeated)
  let declared ← (pathParameters binding.parameters).foldlM declarePath []
  let unmatched := placeholders.dedup.filter fun name =>
    decide (HashKey.text name ∉ Dict.keys declared)
  if unmatched ≠ [] then
    refuse (.unmatchedPlaceholders binding.path (unmatched.insertionSort (· ≤ ·)))
  let unplaced ← sortedItems DictKey.key ((declared.filter fun entry =>
    decide (entry.1 ∉ placeholderKeys binding.path)).map (·.2))
  if !unplaced.isEmpty then
    refuse (.unplacedParameters binding.path (unplaced.map (·.value)))

def checkContentType (body : Option BodySpec) : Flatten Unit :=
  match body with
  | none => return ()
  | some body =>
      if body.contentType.key ∉ supportedContentTypes.map HashKey.text then
        refuse (.unsupportedContentType body.contentType.value)
      else return ()

/-- `_body_properties`; a schema that is no object has no `get`. -/
def bodyProperties (body : BodySpec) : Flatten (Option (PyDict Json)) :=
  match body.schema with
  | .obj schema =>
      if (field schema "type").string? = some "object" then do
        let properties ← dictOf (objectField schema "properties")
        return some properties
      else return none
  | _ => throw .attributeError

/-- The names the body contributes. -/
def bodyNames (body : Option BodySpec) : Flatten (List DictKey) :=
  match body with
  | none => return []
  | some body => do
      match ← bodyProperties body with
      | none => return [DictKey.ofText bodyArg]
      | some properties => return properties.keys

/-- How often a name is used by the parameters and the body together. -/
def nameCount (parameters : List Parameter) (names : List DictKey) (name : HashKey) : Nat :=
  (parameters.map (·.arg.key)).count name + (names.map (·.key)).count name

def renameParameter (isPrintable : Char → Bool) (parameters : List Parameter)
    (names : List DictKey) (parameter : Parameter) : Flatten Parameter :=
  if 1 < nameCount parameters names parameter.arg.key then do
    let name ← strOf isPrintable parameter.arg.value
    return { parameter with arg := .ofText (parameter.location.value ++ "_" ++ name) }
  else return parameter

/-- A name that a parameter or the body contributes already is an error. -/
def claimName (seen : List (HashKey × String)) (entry : DictKey × String) :
    Flatten (List (HashKey × String)) :=
  match Dict.get? seen entry.1.key with
  | some first => refuse (.argumentCollision entry.1.value first entry.2)
  | none => return Dict.insert seen entry.1.key entry.2

def resolveArgNames (isPrintable : Char → Bool) (binding : HttpBinding) : Flatten HttpBinding := do
  checkContentType binding.body
  let names ← bodyNames binding.body
  let renamed ← binding.parameters.mapM (renameParameter isPrintable binding.parameters names)
  let seen ← (renamed.map fun p => (p.arg, p.location.value)).foldlM claimName []
  let ordered ← sortedItems DictKey.key names
  let _ ← (ordered.map fun name => (name, "body")).foldlM claimName seen
  return { binding with parameters := renamed }

/-- `properties[p.arg] = dict(p.schema)`. -/
def parameterProperty (parameter : Parameter) : Flatten (DictKey × Property) := do
  let schema ← dictOf parameter.schema
  return (parameter.arg, .schema schema)

/-- What the body adds. -/
def addBody (schema : InputSchema) (body : Option BodySpec) : Flatten InputSchema :=
  match body with
  | none => return schema
  | some body => do
      match ← bodyProperties body with
      | none => do
          let copied ← dictOf body.schema
          return {
            properties := schema.properties.assign (.ofText bodyArg) (.schema copied)
            required := schema.required ++ [.str bodyArg] }
      | some lifted =>
          match body.schema with
          | .obj fields => do
              let names ← iterate (listField fields "required")
              return {
                properties := schema.properties.assignAll
                  (lifted.items.map fun entry => (entry.1, .lifted entry.2))
                required := schema.required ++ names }
          | _ => throw .attributeError

def buildInputSchema (isPrintable : Char → Bool) (binding : HttpBinding) : Flatten InputSchema := do
  let resolved ← resolveArgNames isPrintable binding
  let properties ← resolved.parameters.mapM parameterProperty
  addBody {
    properties := PyDict.assignAll [] properties
    required := (resolved.parameters.filter (·.required)).map (·.arg.value) } resolved.body

/-- What is done for every binding. -/
def flattenBinding (isPrintable : Char → Bool) (binding : HttpBinding) :
    Flatten (HttpBinding × InputSchema) := do
  checkPathTemplate binding
  let resolved ← resolveArgNames isPrintable binding
  let inputSchema ← buildInputSchema isPrintable binding
  return (resolved, inputSchema)

section Build

variable (unicode : PyUnicode)

/-- `raw.operation_id or _default_id(raw)`. -/
def RawOperation.id (raw : RawOperation) : Json :=
  orElse raw.operationId (.str (defaultOperationId unicode raw.method raw.path))

/-- What is coerced to the description. -/
def RawOperation.describedBy (raw : RawOperation) : Json :=
  orElse (Dict.get? raw.extensions "x-mcp-description")
    (orElse raw.description (orElse raw.summary (raw.id unicode)))

/-- What is coerced to the title. The first line of a description that has none is the id, of
whatever type. -/
def RawOperation.titledBy (raw : RawOperation) (description : String) : Json :=
  let opening :=
    if description = "" then raw.id unicode else Json.str (firstLine description "")
  orElse (Dict.get? raw.extensions "x-mcp-title") (orElse raw.summary opening)

/-- What is coerced to the name. -/
def RawOperation.namedBy (raw : RawOperation) : Json :=
  orElse (Dict.get? raw.extensions "x-mcp-name") (.str "")

/-- `_name_override`. -/
def RawOperation.nameOverride (raw : RawOperation) : Flatten String := do
  let name ← strOf unicode.isPrintable raw.namedBy
  return if isToolName name then name else ""

/-- A truthy value of an extension. -/
def RawOperation.flag (raw : RawOperation) (extension : String) : Bool :=
  (field raw.extensions extension).truthy

/-- The loop over header parameters stops at the first denylisted one; a name that is no
text has no `lower`. -/
def namesDenylisted (credentialHeaders : List String) : List Parameter → Flatten Bool
  | [] => return false
  | param :: rest =>
      if param.location = .header then
        match param.wireName.value with
        | .str header =>
            if isDenylisted unicode header credentialHeaders then return true
            else namesDenylisted credentialHeaders rest
        | _ => throw .attributeError
      else namesDenylisted credentialHeaders rest

/-- What a flattened record becomes. -/
def RawOperation.operation (upstreamKey : String) (raw : RawOperation) (derivedEffect : Effect)
    (flattened : HttpBinding × InputSchema) : Flatten Operation := do
  let description ← strOf unicode.isPrintable (raw.describedBy unicode)
  let title ← strOf unicode.isPrintable (raw.titledBy unicode description)
  let name ← raw.nameOverride unicode
  return {
    id := raw.id unicode
    upstream := upstreamKey
    name
    title
    description
    groupTags := raw.tags
    effect := derivedEffect
    sensitivity := if raw.flag "x-mcp-sensitive" then .sensitive else .normal
    inputSchema := flattened.2
    binding := flattened.1 }

/-- `OpenApiSource._build`; only a `FlattenError` drops the operation. -/
def build (upstreamKey : String) (credentialHeaders : List String) (raw : RawOperation) :
    Flatten (Option Operation) :=
  let binding := raw.binding unicode
  if raw.flag "x-mcp-exclude" then return none
  else do
    if ← namesDenylisted unicode credentialHeaders binding.parameters then return none
    else
      match effectForMethod unicode binding.method with
      | .error _ => return none
      | .ok derivedEffect => do
          match ← orSkip isFlattenError (some <$> flattenBinding unicode.isPrintable binding) with
          | none => return none
          | some flattened => some <$> raw.operation unicode upstreamKey derivedEffect flattened

/-- What ends a load. -/
inductive LoadError where
  | paths (error : PathsError)
  | flatten (error : FlattenError)

/-- An operation with the path and the method it is found at. -/
abbrev Located := (String × String) × Operation

def locate (raw : RawOperation) (built : Option Operation) : Option Located :=
  built.map fun operation => ((raw.path, raw.method), operation)

/-- `OpenApiSource.operations`, run to its end. -/
def operations (upstreamKey : String) (credentialHeaders : List String) (includeDeprecated : Bool)
    (document : JsonObject) : Except (PyException LoadError) (List Located) := do
  let raws ← (extractRawOperations unicode includeDeprecated document).mapError (.map .paths)
  let built ← raws.mapM fun raw =>
    ((build unicode upstreamKey credentialHeaders raw).map (locate raw)).mapError (.map .flatten)
  return built.reduceOption

end Build

end Unchecked

end McpPortal
