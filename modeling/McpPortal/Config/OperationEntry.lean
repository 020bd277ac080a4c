import McpPortal.Config.Models
import McpPortal.Config.PolicyFile
import McpPortal.Foundation.Validate

/-!
# Reading operation entries

`modelValidate` is the validation of decoded `operations[]` entries. A binding
without `protocol` is an HTTP one. A parameter's location and the schemas are read
under their aliases or under the names of their fields.
-/

namespace McpPortal

open Foundation

def ParamLocation.ofValue? : String → Option ParamLocation
  | "path" => some .path
  | "query" => some .query
  | "header" => some .header
  | _ => none

@[simp]
theorem ParamLocation.ofValue?_value (location : ParamLocation) :
    ofValue? location.value = some location := by
  cases location <;> rfl

def BodyMode.ofValue? : String → Option BodyMode
  | "flatten" => some .flatten
  | "single_arg" => some .singleArg
  | _ => none

@[simp]
theorem BodyMode.ofValue?_value (mode : BodyMode) : ofValue? mode.value = some mode := by
  cases mode <;> rfl

def ParamStyle.value : ParamStyle → String
  | .form => "form"

def ParamStyle.ofValue? : String → Option ParamStyle
  | "form" => some .form
  | _ => none

@[simp]
theorem ParamStyle.ofValue?_value (style : ParamStyle) : ofValue? style.value = some style := by
  cases style
  rfl

def GraphQlOperationType.ofValue? : String → Option GraphQlOperationType
  | "query" => some .query
  | "mutation" => some .mutation
  | _ => none

/-- A string that stands for a value. -/
def namedValue {α : Type} (ofValue? : String → Option α) : Validator α
  | .str text => ofValue? text
  | _ => none

/-- `dict[str, Any]`. -/
def objectValue : Validator JsonObject
  | .obj fields => some fields
  | _ => none

def toolNameValue : Validator ToolName
  | .str text => if wellFormed : isToolName text = true then some { text, wellFormed } else none
  | _ => none

def ParameterEntry.modelValidate : Validator ParameterEntry
  | .obj given =>
      let fields := Validator.underAlias "schema_" "schema"
        (Validator.underAlias "location" "in" given)
      if !Validator.onlyFields
          ["arg", "in", "wire_name", "required", "schema", "style", "explode"] fields then
        none
      else do
        let arg ← Validator.required fields "arg" Validator.string
        let location ← Validator.required fields "in" (namedValue ParamLocation.ofValue?)
        let wireName ←
          Validator.withDefault fields "wire_name" (Validator.nullable Validator.string) none
        let required ← Validator.withDefault fields "required" Validator.bool false
        let schema ←
          Validator.withDefault fields "schema" objectValue [("type", .str "string")]
        let style ← Validator.withDefault fields "style" (namedValue ParamStyle.ofValue?) .form
        let explode ← Validator.withDefault fields "explode" Validator.bool true
        some { arg, location, wireName, required, schema, style, explode }
  | _ => none

def BodyEntry.modelValidate : Validator BodyEntry
  | .obj given =>
      let fields := Validator.underAlias "schema_" "schema" given
      if !Validator.onlyFields ["content_type", "mode", "schema"] fields then none
      else do
        let contentType ←
          Validator.withDefault fields "content_type" Validator.string "application/json"
        let mode ← Validator.withDefault fields "mode" (namedValue BodyMode.ofValue?) .flatten
        let schema ← Validator.required fields "schema" objectValue
        some { contentType, mode, schema }
  | _ => none

/-- The fields of an HTTP binding besides its protocol, which has selected it. -/
def HttpBindingEntry.modelValidate (fields : JsonObject) : Option HttpBindingEntry :=
  if !Validator.onlyFields ["protocol", "method", "path", "parameters", "body"] fields then none
  else do
    let method ← Validator.required fields "method" Validator.string
    let path ← Validator.required fields "path" Validator.string
    let parameters ←
      Validator.withDefault fields "parameters" (Validator.list ParameterEntry.modelValidate) []
    let body ←
      Validator.withDefault fields "body" (Validator.nullable BodyEntry.modelValidate) none
    some { method, path, parameters, body }

def GraphQlVariableEntry.modelValidate : Validator GraphQlVariableEntry
  | .obj fields =>
      if !Validator.onlyFields ["name", "graphql_type", "required"] fields then none
      else do
        let name ← Validator.required fields "name" Validator.string
        let graphqlType ← Validator.required fields "graphql_type" Validator.string
        let required ← Validator.withDefault fields "required" Validator.bool false
        some { name, graphqlType, required }
  | _ => none

def GraphQlBindingEntry.modelValidate (fields : JsonObject) : Option GraphQlBindingEntry :=
  if !Validator.onlyFields ["protocol", "operation_type", "document", "variables"] fields then
    none
  else do
    let operationType ←
      Validator.required fields "operation_type" (namedValue GraphQlOperationType.ofValue?)
    let document ← Validator.required fields "document" Validator.string
    let variableList ← Validator.withDefault fields "variables"
      (Validator.list GraphQlVariableEntry.modelValidate) []
    some { operationType, document, variableList }

/-- The protocol selects the kind of binding; without one it is `http`. -/
def BindingEntry.modelValidate : Validator BindingEntry
  | .obj fields =>
      match Dict.get? fields "protocol" with
      | none | some (.str "http") => (HttpBindingEntry.modelValidate fields).map .http
      | some (.str "graphql") => (GraphQlBindingEntry.modelValidate fields).map .graphQl
      | _ => none
  | _ => none

def OperationEntry.modelValidate : Validator OperationEntry
  | .obj fields =>
      if !Validator.onlyFields
          ["id", "upstream", "description", "title", "name", "group_tags", "effect",
            "sensitivity", "binding"] fields then
        none
      else do
        let id ← Validator.required fields "id" Validator.string
        let upstream ← Validator.required fields "upstream" Validator.string
        let description ← Validator.required fields "description" Validator.string
        let title ← Validator.withDefault fields "title" (Validator.nullable Validator.string) none
        let name ← Validator.withDefault fields "name" (Validator.nullable toolNameValue) none
        let groupTags ←
          Validator.withDefault fields "group_tags" (Validator.list Validator.string) []
        let effect ← Validator.withDefault fields "effect" (Validator.nullable effectValue) none
        let sensitivity ←
          Validator.withDefault fields "sensitivity" (Validator.nullable sensitivityValue) none
        let binding ← Validator.required fields "binding" BindingEntry.modelValidate
        some { id, upstream, description, title, name, groupTags, effect, sensitivity, binding }
  | _ => none

end McpPortal
