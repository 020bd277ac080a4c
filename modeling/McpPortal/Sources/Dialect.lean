import Mathlib.Data.List.Dedup
import Mathlib.Data.List.Sort
import McpPortal.Foundation.Dynamic

/-!
# From OpenAPI 3.0 schemas to JSON Schema 2020-12

The conversion is one recursion over schemas, maps of properties and plain data
alike. Fields are rewritten by their names; afterwards null is admitted and the
exclusive bounds take the place of the inclusive ones.
-/

namespace McpPortal

open Foundation

def isOpenApi31 (version : String) : Bool :=
  ['3', '.', '1'].isPrefixOf version.toList

section Convert

variable {Error : Type}

/-- `schema.get(key) is True`. -/
def isTrue (schema : JsonObject) (key : String) : Bool :=
  match Dict.get? schema key with
  | some (.bool value) => value
  | _ => false

/-- The boolean keywords, which leave their mark afterwards. -/
def isConsumed (key : String) : Json → Bool
  | .bool _ => key ∈ ["nullable", "exclusiveMinimum", "exclusiveMaximum"]
  | _ => false

/-- `sorted({*types, "null"})`; only strings can be sorted next to one. -/
def typesWithNull (base : Json) : Except (PyException Error) Json :=
  let types := match base with
    | .arr items => items
    | other => [other]
  match types.mapM Json.string? with
  | some names =>
      .ok (.arr ((("null" :: names).dedup.insertionSort (· ≤ ·)).map .str))
  | none => .error .typeError

/-- Null next to the declared type; without one, next to all the rest. -/
def admitNull (schema out : JsonObject) : Except (PyException Error) JsonObject :=
  if isTrue schema "nullable" then
    match Dict.get? out "type" with
    | some base => do
        let types ← typesWithNull base
        return Dict.insert out "type" types
    | none => return [("anyOf", .arr [.obj out, .obj [("type", .str "null")]])]
  else return out

/-- `out[exclusive] = out.pop(inclusive)`, when the flag is set and there is such a bound. -/
def moveBound (exclusive inclusive : String) (schema out : JsonObject) : JsonObject :=
  match Dict.get? out inclusive with
  | some limit =>
      if isTrue schema exclusive then
        Dict.insert (out.filter fun field => field.1 ≠ inclusive) exclusive limit
      else out
  | none => out

/-- What is done once the fields are converted. -/
def finishSchema (schema out : JsonObject) : Except (PyException Error) JsonObject := do
  let out ← admitNull schema out
  return moveBound "exclusiveMaximum" "maximum" schema
    (moveBound "exclusiveMinimum" "minimum" schema out)

mutual

/-- `convert_30_schema`. -/
def convert30Schema : Json → Except (PyException Error) Json
  | .arr items => do
      let converted ← convertItems items
      return .arr converted
  | .obj fields => do
      let assigned ← convertFields fields
      let out ← finishSchema fields (Dict.ofList assigned)
      return .obj out
  | value => return value

def convertItems : List Json → Except (PyException Error) (List Json)
  | [] => return []
  | item :: rest => do
      let converted ← convert30Schema item
      let others ← convertItems rest
      return converted :: others

/-- The assignments made to the converted object, in order. -/
def convertFields : List (String × Json) → Except (PyException Error) (List (String × Json))
  | [] => return []
  | (key, value) :: rest =>
      if isConsumed key value then convertFields rest
      else do
        let converted ← convert30Schema value
        let others ← convertFields rest
        return (if key = "example" then ("examples", .arr [converted]) else (key, converted)) ::
          others

end

end Convert

end McpPortal
