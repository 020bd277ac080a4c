import Mathlib.Data.Finset.Card
import McpPortal.Foundation.Json
import McpPortal.Sources.GraphQlIntrospection

/-!
# Generated selection sets

The lines of a selection set follow the fields of the types it expands. A field is left
out when the policy excludes it or it takes arguments, and a type that is being expanded
already is not expanded again.

The depth of nested types is bounded by a number, as the interpreter's recursion limit
bounds it.
-/

namespace McpPortal

open Foundation

/-- What ends the generation: a type nobody defines, or too deep a nesting. -/
inductive SelectionError where
  | undefinedType (name : String)
  | recursionLimit
  deriving DecidableEq

def SelectionError.message (isPrintable : Char → Bool) : SelectionError → String
  | .undefinedType name =>
      "type " ++ reprString isPrintable name ++ " is not defined in the introspected schema"
  | .recursionLimit => "maximum recursion depth exceeded"

abbrev Selecting := Except (PyException SelectionError)

/-- The kinds whose fields are selected. -/
def expandedKinds : List String := ["OBJECT", "INTERFACE"]

def typenameSelection : String := "\x7b __typename \x7d"

section Generate

variable (schema : IntrospectedSchema) (typePolicy : List (String × List String))

def excludedFields (typeName : String) : List String :=
  (Dict.get? typePolicy typeName).getD []

/-- Whether the generator can select the field. -/
def isOffered (typeName : String) (field : FieldInfo) : Bool :=
  decide (field.name ∉ excludedFields typePolicy typeName) && field.args.isEmpty

/-- The lines of one field, with what the lines of a nested type are. -/
def fieldLines (nestedLines : String → List String → String → Selecting (List String))
    (path : List String) (indent : String) (field : FieldInfo) : Selecting (List String) := do
  let target ← namedType field.type
  if target.kind ∉ expandedKinds then return [indent ++ field.name]
  else
    match target.name with
    | none => throw .assertionError
    | some name =>
        if name ∈ path then return [indent ++ field.name ++ " " ++ typenameSelection]
        else do
          let nested ← nestedLines name (path ++ [name]) (indent ++ "  ")
          if nested.isEmpty then return []
          else return (indent ++ field.name ++ " \x7b") :: nested ++ [indent ++ "\x7d"]

/-- `_fields_for`, to a depth of nested types. -/
def fieldsFor : Nat → String → List String → String → Selecting (List String)
  | 0, _, _, _ => throw (.raised .recursionLimit)
  | depth + 1, typeName, path, indent =>
      match Dict.get? schema.typesByName typeName with
      | none => throw (.raised (.undefinedType typeName))
      | some info => do
          let lines ← (info.fields.filter (isOffered typePolicy typeName)).mapM
            (fieldLines (fieldsFor depth) path indent)
          return lines.flatten

/-- `build_selection_set`. -/
def buildSelectionSet (depth : Nat) (typeName : String) : Selecting String := do
  let lines ← fieldsFor schema typePolicy depth typeName [typeName] "  "
  if lines.isEmpty then return typenameSelection
  else return "\x7b\n" ++ joinWith "\n" lines ++ "\n\x7d"

end Generate

end McpPortal
