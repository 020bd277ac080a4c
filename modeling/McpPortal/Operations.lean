import McpPortal.Foundation.Json

/-!
# The operation domain model

One callable upstream operation, independent of how it was discovered. A
parameter keeps both the argument name the model sees and the wire name the
upstream expects, which is what makes flattening reversible.
-/

namespace McpPortal

open Foundation

/-- What an operation does to upstream state. -/
inductive Effect where
  | readOnly
  | idempotentWrite
  | action
  deriving DecidableEq

/-- Whether an operation's data is safe to expose. -/
inductive Sensitivity where
  | normal
  | sensitive
  deriving DecidableEq

inductive ParamLocation where
  | path
  | query
  | header
  deriving DecidableEq

inductive BodyMode where
  | flatten
  | singleArg
  deriving DecidableEq

/-- Only `form` is serialized. -/
inductive ParamStyle where
  | form
  deriving DecidableEq

namespace Effect

def value : Effect → String
  | .readOnly => "read_only"
  | .idempotentWrite => "idempotent_write"
  | .action => "action"

def ofValue? : String → Option Effect
  | "read_only" => some .readOnly
  | "idempotent_write" => some .idempotentWrite
  | "action" => some .action
  | _ => none

@[simp]
theorem ofValue?_value (effect : Effect) : ofValue? effect.value = some effect := by
  cases effect <;> rfl

end Effect

namespace Sensitivity

def value : Sensitivity → String
  | .normal => "normal"
  | .sensitive => "sensitive"

def ofValue? : String → Option Sensitivity
  | "normal" => some .normal
  | "sensitive" => some .sensitive
  | _ => none

@[simp]
theorem ofValue?_value (sensitivity : Sensitivity) :
    ofValue? sensitivity.value = some sensitivity := by
  cases sensitivity <;> rfl

end Sensitivity

def ParamLocation.value : ParamLocation → String
  | .path => "path"
  | .query => "query"
  | .header => "header"

def BodyMode.value : BodyMode → String
  | .flatten => "flatten"
  | .singleArg => "single_arg"

/-- One argument's mapping from tool-schema name to wire representation. -/
structure Parameter where
  arg : String
  location : ParamLocation
  wireName : String
  required : Bool
  schema : JsonObject
  style : ParamStyle := .form
  explode : Bool := true

structure BodySpec where
  contentType : String
  schema : JsonObject
  mode : BodyMode := .flatten

structure HttpBinding where
  method : String
  path : String
  parameters : List Parameter := []
  body : Option BodySpec := none

/-- One GraphQL variable's mapping from tool-schema name to the wire type. -/
structure Variable where
  name : String
  graphqlType : String
  required : Bool

inductive GraphQlOperationType where
  | query
  | mutation
  deriving DecidableEq

structure GraphQlBinding where
  operationType : GraphQlOperationType
  document : String
  variableList : List Variable := []

inductive Binding where
  | http (binding : HttpBinding)
  | graphQl (binding : GraphQlBinding)

/-- One callable upstream operation. An empty `name` asks for a generated one. -/
structure Operation where
  id : String
  upstream : String
  name : String
  title : String
  description : String
  groupTags : List String
  effect : Effect
  sensitivity : Sensitivity
  inputSchema : JsonObject
  binding : Binding

end McpPortal
