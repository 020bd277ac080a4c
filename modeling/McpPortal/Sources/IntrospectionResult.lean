import McpPortal.Foundation.Answer
import McpPortal.Foundation.JsonRoundTrip
import McpPortal.Foundation.JsonSchema
import McpPortal.Foundation.PyText
import McpPortal.Sources.GraphQlIntrospection
import McpPortal.Sources.OpenApiPaths

/-!
# The answer to the introspection query

An upstream is asked for its schema, and the answer is read without a check of its texts, so kinds
and names may be of any type. An upstream that answers the query is read back: all its types but
the meta types, with references as deep as the query asks for.
-/

namespace McpPortal

open Foundation

/-- The lines of `_INTROSPECTION_QUERY`. -/
def introspectionLines : List String :=
  [ "",
    "query IntrospectionQuery \x7b",
    "  __schema \x7b",
    "    queryType \x7b name \x7d",
    "    mutationType \x7b name \x7d",
    "    types \x7b",
    "      kind",
    "      name",
    "      fields(includeDeprecated: false) \x7b",
    "        name",
    "        description",
    "        args \x7b name type \x7b ...TypeRef \x7d \x7d",
    "        type \x7b ...TypeRef \x7d",
    "      \x7d",
    "    \x7d",
    "  \x7d",
    "\x7d",
    "fragment TypeRef on __Type \x7b",
    "  kind",
    "  name",
    "  ofType \x7b",
    "    kind",
    "    name",
    "    ofType \x7b",
    "      kind",
    "      name",
    "      ofType \x7b",
    "        kind",
    "        name",
    "        ofType \x7b",
    "          kind",
    "          name",
    "          ofType \x7b",
    "            kind",
    "            name",
    "            ofType \x7b kind name \x7d",
    "          \x7d",
    "        \x7d",
    "      \x7d",
    "    \x7d",
    "  \x7d",
    "\x7d",
    ""]

def introspectionQuery : String :=
  joinWith "\n" introspectionLines

/-- A reference to a type, and what it wraps, as often as given. -/
def typeRefFragment : Nat → List SelectedField
  | 0 => [.leaf "kind", .leaf "name"]
  | wrappers + 1 => [.leaf "kind", .leaf "name", .object "ofType" (typeRefFragment wrappers)]

/-- How many wrappers around a type the query asks for. -/
def wrappersAsked : Nat := 6

def introspectionSelection (typeRef : List SelectedField) : List SelectedField :=
  [.object "__schema" [
    .object "queryType" [.leaf "name"],
    .object "mutationType" [.leaf "name"],
    .object "types" [
      .leaf "kind",
      .leaf "name",
      .field "fields" "(includeDeprecated: false)" [
        .leaf "name",
        .leaf "description",
        .object "args" [.leaf "name", .object "type" typeRef],
        .object "type" typeRef]]]]

/-- The query, but for its layout. -/
example : introspectionLines.flatMap splitWords =
    ["query", "IntrospectionQuery", "\x7b"] ++
      SelectedField.wordsAll (introspectionSelection [.leaf "...TypeRef"]) ++
    ["\x7d", "fragment", "TypeRef", "on", "__Type", "\x7b"] ++
      SelectedField.wordsAll (typeRefFragment wrappersAsked) ++ ["\x7d"] := by
  decide +kernel

inductive GraphQlIntrospectionError where
  | cannotFetch (url reason : String)
  | notJson (url reason : String)
  | queryFailed (reason : Json)
  | nullReference
  | noSchema
  | noQueryType

def GraphQlIntrospectionError.message (isPrintable : Char → Bool) :
    GraphQlIntrospectionError → String
  | .cannotFetch url reason =>
      "cannot fetch GraphQL schema " ++ reprString isPrintable url ++ ": " ++ reason
  | .notJson url reason =>
      "GraphQL introspection response from " ++ reprString isPrintable url ++
        " is not valid JSON: " ++ reason
  | .queryFailed reason => "introspection query failed: " ++ reason.text isPrintable
  | .nullReference => "expected a type reference, found null"
  | .noSchema => "introspection response has no data.__schema"
  | .noQueryType => "introspection response has no queryType"

/-- Reading raises `GraphQlIntrospectionError`, or what the answer makes a built-in raise. -/
abbrev Introspecting := Except (PyException GraphQlIntrospectionError)

namespace Fetched

open Unchecked

inductive TypeRef where
  | bare (kind name : Json)
  | wrapping (kind name : Json) (ofType : TypeRef)

structure FieldArg where
  name : Json
  type : TypeRef

structure FieldInfo where
  name : Json
  type : TypeRef
  args : List FieldArg
  description : Json

structure TypeInfo where
  kind : Json
  name : String
  fields : List FieldInfo

structure IntrospectedSchema where
  queryType : Json
  mutationType : Json
  typesByName : List (String × TypeInfo)

/-- `value[key]`. -/
def member (fields : JsonObject) (key : String) : Introspecting Json :=
  match Dict.get? fields key with
  | some value => return value
  | none => throw .keyError

mutual

/-- `_parse_type_ref`, to any depth. -/
def parseTypeRef : Json → Introspecting TypeRef
  | .null => throw (.raised .nullReference)
  | .obj fields => do
      let kind ← member fields "kind"
      match ← parseOfType fields with
      | none => return .bare kind (field fields "name")
      | some ofType => return .wrapping kind (field fields "name") ofType
  | _ => throw .typeError

/-- `_opt_type_ref(raw.get("ofType"))`. -/
def parseOfType : JsonObject → Introspecting (Option TypeRef)
  | [] => return none
  | (key, value) :: rest =>
      if key = "ofType" then
        if JsonSchema.isNull value then return none else some <$> parseTypeRef value
      else parseOfType rest

end

def parseArg : Json → Introspecting FieldArg
  | .obj fields => do
      let name ← member fields "name"
      let type ← parseTypeRef (← member fields "type")
      return { name, type }
  | _ => throw .typeError

def parseField : Json → Introspecting FieldInfo
  | .obj fields => do
      let name ← member fields "name"
      let type ← parseTypeRef (← member fields "type")
      let args ← (← iterate (listField fields "args")).mapM parseArg
      return { name, type, args, description := field fields "description" }
  | _ => throw .typeError

/-- The fields of a type, which may have none. -/
def parseFields (fields : JsonObject) : Introspecting (List FieldInfo) := do
  let listed := field fields "fields"
  let items ← if listed.truthy then iterate listed else return []
  items.mapM parseField

/-- `name.startswith("__")`. -/
def isMetaType (name : String) : Bool :=
  "__".toList.isPrefixOf name.toList

/-- One turn of the loop over the types; the meta types are left out. -/
def parseType : Json → Introspecting (Option (String × TypeInfo))
  | .obj fields =>
      match field fields "name" with
      | .null => return none
      | .str name =>
          if isMetaType name then return none
          else do
            let parsed ← parseFields fields
            let kind ← member fields "kind"
            return some (name, { kind, name, fields := parsed })
      | _ => throw .attributeError
  | _ => throw .attributeError

/-- `value.get("name")`. -/
def nameOf : Json → Introspecting Json
  | .obj fields => return field fields "name"
  | _ => throw .attributeError

def parseSchema (schema : JsonObject) : Introspecting IntrospectedSchema := do
  let types ← (← iterate (listField schema "types")).mapM parseType
  let queryType ← nameOf (objectField schema "queryType")
  if JsonSchema.isNull queryType then throw (.raised .noQueryType)
  let mutation := field schema "mutationType"
  let mutationType ← nameOf (if mutation.truthy then mutation else .obj [])
  return { queryType, mutationType, typesByName := Dict.ofList types.reduceOption }

def parseIntrospectionResult (body : JsonObject) : Introspecting IntrospectedSchema :=
  let schema :=
    match field body "data" with
    | .obj data => field data "__schema"
    | _ => .null
  match schema with
  | .null => throw (.raised .noSchema)
  | .obj schema => parseSchema schema
  | _ => throw .attributeError

/-- The errors of an answer are reported by the first of them. -/
def checkErrors (body : JsonObject) : Introspecting Unit := do
  let errors := field body "errors"
  if !errors.truthy then return ()
  else
    match ← subscript errors (.int 0) with
    | .obj first => throw (.raised (.queryFailed ((Dict.get? first "message").getD errors)))
    | _ => throw .attributeError

/-- What the HTTP client gives for a POST: the text of an `HTTPError`, or of a response that is
none; and what reading it relies on. -/
structure GraphQlOutside where
  post : String → Json → Except String String
  readFloat : String → PyFloat
  jsonError : String → String

def fetchSchema (outside : GraphQlOutside) (url : String) : Introspecting IntrospectedSchema := do
  let text ← (outside.post url (.obj [("query", .str introspectionQuery)])).mapError fun reason =>
    .raised (.cannotFetch url reason)
  match loads outside.readFloat text with
  | none => throw (.raised (.notJson url (outside.jsonError text)))
  | some (.obj body) => do
      checkErrors body
      parseIntrospectionResult body
  | some _ => throw .attributeError

end Fetched

end McpPortal
