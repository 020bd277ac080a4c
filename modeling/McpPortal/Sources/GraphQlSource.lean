import McpPortal.Classify
import McpPortal.Config.Models
import McpPortal.Foundation.PyText
import McpPortal.Sources.GraphQlSelection

/-!
# Operations from an introspected schema

One operation for each field of the query and mutation types. A field whose selection
cannot be generated is dropped; only the missing name or wrapped type of a reference, which
the source asserts to be there, fails the whole source.
-/

namespace McpPortal

open Foundation

def GraphQlOperationType.value : GraphQlOperationType → String
  | .query => "query"
  | .mutation => "mutation"

def FieldArg.required (arg : FieldArg) : Bool :=
  arg.type.kind = "NON_NULL"

/-- The schema of a type that is no wrapper; an unknown one is taken as text. -/
def scalarSchema (name : Option String) : JsonObject :=
  if name = some "Int" then [("type", .str "integer")]
  else if name = some "Float" then [("type", .str "number")]
  else if name = some "Boolean" then [("type", .str "boolean")]
  else [("type", .str "string")]

section Field

variable {Error : Type}

/-- `_json_type_for`. -/
def jsonTypeFor : TypeRef → Except (PyException Error) JsonObject
  | .bare kind name => if isWrapper kind then throw .assertionError else return scalarSchema name
  | .wrapping kind name ofType =>
      if kind = "NON_NULL" then jsonTypeFor ofType
      else if kind = "LIST" then do
        let items ← jsonTypeFor ofType
        return [("type", .str "array"), ("items", .obj items)]
      else return scalarSchema name

/-- `_input_schema`. -/
def fieldInputSchema (field : FieldInfo) : Except (PyException Error) JsonObject := do
  let properties ← field.args.mapM fun arg => do
    let schema ← jsonTypeFor arg.type
    return (arg.name, Json.obj schema)
  let required := (field.args.filter (·.required)).map fun arg => Json.str arg.name
  return [ ("type", .str "object"), ("properties", .obj (Dict.ofList properties)),
    ("required", .arr required) ]

/-- The text between parentheses, and nothing for no text. -/
def parenthesized (text : String) : String :=
  if text = "" then "" else "(" ++ text ++ ")"

/-- `_document`, once the types of the arguments are rendered. -/
def documentText (operationType : GraphQlOperationType) (field : FieldInfo)
    (declarations : List String) (selection : Option String) : String :=
  let callArgs := joinWith ", " (field.args.map fun arg => arg.name ++ ": $" ++ arg.name)
  let call := field.name ++ parenthesized callArgs
  let callWithSelection :=
    match selection with
    | some selection => call ++ " " ++ selection
    | none => call
  operationType.value ++ parenthesized (joinWith ", " declarations) ++ " \x7b " ++
    callWithSelection ++ " \x7d"

/-- `_document`. -/
def document (operationType : GraphQlOperationType) (field : FieldInfo)
    (selection : Option String) : Except (PyException Error) String := do
  let declarations ← field.args.mapM fun arg => do
    let rendered ← renderTypeRef arg.type
    return "$" ++ arg.name ++ ": " ++ rendered
  return documentText operationType field declarations selection

def fieldVariables (field : FieldInfo) : Except (PyException Error) (List Variable) :=
  field.args.mapM fun arg => do
    let rendered ← renderTypeRef arg.type
    return { name := arg.name, graphqlType := rendered, required := arg.required }

end Field

namespace GraphQlSource

variable (upstreamKey : String) (schema : IntrospectedSchema)
  (typePolicy : List (String × List String)) (depth : Nat)

/-- The selection set of a field of the type; scalars, enums and unions have none. -/
def selectionOf (returnType : TypeRef) : Selecting (Option String) :=
  if returnType.kind ∉ expandedKinds then return none
  else
    match returnType.name with
    | none => return some typenameSelection
    | some name => some <$> buildSelectionSet schema typePolicy depth name

/-- The operation of a field with its selection set. -/
def operationOf (operationType : GraphQlOperationType) (field : FieldInfo)
    (selection : Option String) : Selecting Operation := do
  let text ← document operationType field selection
  let variableList ← fieldVariables field
  let inputSchema ← fieldInputSchema field
  let description := textOr field.description field.name
  return {
    id := field.name
    upstream := upstreamKey
    name := ""
    title := firstLine description field.name
    description
    groupTags := []
    effect := effectForOperationType operationType
    sensitivity := .normal
    inputSchema
    binding := .graphQl { operationType, document := text, variableList } }

/-- `GraphQlSource._build`. -/
def build (operationType : GraphQlOperationType) (field : FieldInfo) :
    Selecting (Option Operation) := do
  let returnType ← namedType field.type
  match selectionOf schema typePolicy depth returnType with
  | .error (.raised (.undefinedType _)) => return none
  | .error error => throw error
  | .ok selection => some <$> operationOf upstreamKey operationType field selection

/-- The fields of a root type, which need not be there. -/
def rootFields (operationType : GraphQlOperationType) (typeName : Option String) :
    List (GraphQlOperationType × FieldInfo) :=
  match typeName.bind (Dict.get? schema.typesByName) with
  | none => []
  | some root => root.fields.map fun field => (operationType, field)

def allRootFields : List (GraphQlOperationType × FieldInfo) :=
  rootFields schema .query (some schema.queryType) ++
    rootFields schema .mutation schema.mutationType

/-- `GraphQlSource.operations`. -/
def operations : Selecting (List Operation) := do
  let built ← (allRootFields schema).mapM fun (operationType, field) =>
    build upstreamKey schema typePolicy depth operationType field
  return built.filterMap id

variable {upstreamKey}

theorem operationOf_fields {operationType : GraphQlOperationType} {field : FieldInfo}
    {set : Option String} {operation : Operation}
    (ran : operationOf upstreamKey operationType field set = .ok operation) :
    operation.id = field.name ∧ ∃ binding, operation.binding = .graphQl binding ∧
      document operationType field set = (.ok binding.document : Selecting String) := by
  simp only [operationOf, bind_eq_ok, pure_eq_ok] at ran
  rcases ran with ⟨text, printed, variableList, _, inputSchema, _, rfl⟩
  exact ⟨rfl, _, rfl, printed⟩

end GraphQlSource

end McpPortal
