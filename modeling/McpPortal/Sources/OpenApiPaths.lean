import Mathlib.Data.List.ReduceOption
import McpPortal.Classify
import McpPortal.Foundation.Hashed
import McpPortal.Foundation.Uncaught
import McpPortal.Sources.OpenApiDocument

/-!
# The operations of a document

A document is a third party's and nothing about its operations is checked when it is
parsed, so a record keeps whatever the document has: names and texts of any type,
schemas that need not be objects. An operation object that cannot be read is skipped.
-/

namespace McpPortal

open Foundation

/-- `'paths' must be an object`. -/
structure PathsError where
  type : String
  deriving DecidableEq

def PathsError.message (error : PathsError) : String :=
  "'paths' must be an object, got " ++ error.type

namespace Unchecked

structure RawParameter where
  name : DictKey
  location : ParamLocation
  required : Bool
  schema : Json
  explode : Json

structure RequestBody where
  contentType : DictKey
  schema : Json

structure RawOperation where
  method : String
  path : String
  operationId : Option Json := none
  summary : Option Json := none
  description : Option Json := none
  tags : List Json := []
  parameters : List RawParameter := []
  requestBody : Option RequestBody := none
  extensions : JsonObject := []

/-- `value.get(key)`. -/
def field (fields : JsonObject) (key : String) : Json :=
  (Dict.get? fields key).getD .null

/-- `value.get(key, [])`. -/
def listField (fields : JsonObject) (key : String) : Json :=
  (Dict.get? fields key).getD (.arr [])

/-- `value.get(key, {})`. -/
def objectField (fields : JsonObject) (key : String) : Json :=
  (Dict.get? fields key).getD (.obj [])

/-- The location a parameter is exposed at; there is none for cookies. -/
def locationOf : HashKey → Option ParamLocation
  | .text "path" => some .path
  | .text "query" => some .query
  | .text "header" => some .header
  | _ => none

section Read

variable {Error : Type}

/-- The merged parameters by their names and locations. -/
abbrev ByKey := List ((HashKey × HashKey) × JsonObject)

/-- `by_key[(param.get("name"), param.get("in"))] = param`. -/
def addParameter (byKey : ByKey) (param : Json) : Except (PyException Error) ByKey :=
  match param with
  | .obj fields => do
      let name ← hashed (field fields "name")
      let location ← hashed (field fields "in")
      return Dict.insert byKey (name.key, location.key) fields
  | _ => throw .attributeError

/-- `_raw_parameter`. -/
def rawParameter (fields : JsonObject) : Except (PyException Error) (Option RawParameter) := do
  let location ← hashed (field fields "in")
  match locationOf location.key with
  | none => return none
  | some location =>
      match Dict.get? fields "name" with
      | none => throw .keyError
      | some name => do
          let name ← hashed name
          return some {
            name
            location
            required := (field fields "required").truthy
            schema := (Dict.get? fields "schema").getD (.obj [("type", .str "string")])
            explode := (Dict.get? fields "explode").getD (.bool true) }

/-- `_merged_parameters`: an operation's parameter replaces the path's of its name and location. -/
def mergedParameters (pathParams opParams : Json) :
    Except (PyException Error) (List RawParameter) := do
  let byKey ← (← iterate pathParams).foldlM addParameter []
  let byKey ← (← iterate opParams).foldlM addParameter byKey
  let params ← byKey.mapM fun entry => rawParameter entry.2
  return params.reduceOption

def jsonContentType : String := "application/json"

/-- `key in container`. -/
def containsKey (key : String) : Json → Except (PyException Error) Bool
  | .obj fields => .ok (decide (key ∈ Dict.keys fields))
  | .arr items => .ok (items.any fun item => item.pyEq (.str key))
  | .str text => .ok (containsText text key)
  | _ => .error .typeError

/-- `next(iter(container))` of a container that is not empty. -/
def firstKey (container : Json) : Except (PyException Error) Json :=
  match container.iterate? with
  | some (first :: _) => .ok first
  | _ => .error .typeError

/-- The number a value is as an index; a boolean is one. -/
def indexOf : Json → Option Int
  | .int value => some value
  | .bool value => some (if value then 1 else 0)
  | _ => none

/-- `items[index]`; a negative index counts from the end. -/
def itemAt (items : List Json) (index : Int) : Option Json :=
  if 0 ≤ index then items[index.toNat]?
  else if 0 ≤ items.length + index then items[(items.length + index).toNat]? else none

def indexItem (items : List Json) (key : Json) : Except (PyException Error) Json :=
  match indexOf key with
  | none => .error .typeError
  | some index =>
      match itemAt items index with
      | some item => .ok item
      | none => .error .indexError

/-- `container[key]`. -/
def subscript (container key : Json) : Except (PyException Error) Json :=
  match container with
  | .obj fields =>
      match key with
      | .str name =>
          match Dict.get? fields name with
          | some value => .ok value
          | none => .error .keyError
      | other => if other.hashable then .error .keyError else .error .typeError
  | .arr items => indexItem items key
  | .str text => indexItem (text.toList.map fun char => .str (String.singleton char)) key
  | _ => .error .typeError

/-- JSON when the content has it, else what the content has first. -/
def contentTypeOf (content : Json) : Except (PyException Error) Json := do
  if ← containsKey jsonContentType content then return .str jsonContentType
  else firstKey content

/-- The content type and the schema of a body's content. -/
def readContent (content : Json) : Except (PyException Error) RequestBody := do
  let contentType ← contentTypeOf content
  match ← subscript content contentType with
  | .obj media => do
      let contentType ← hashed contentType
      return { contentType, schema := objectField media "schema" }
  | _ => throw .attributeError

/-- `_request_body`. -/
def requestBody (op : JsonObject) : Except (PyException Error) (Option RequestBody) :=
  let body := field op "requestBody"
  if !body.truthy then return none
  else
    match body with
    | .obj fields =>
        let content := objectField fields "content"
        if !content.truthy then return none
        else do
          let body ← readContent content
          return some body
    | _ => throw .attributeError

end Read

/-- `_extensions`. -/
def extensions (op : JsonObject) : JsonObject :=
  op.filter fun entry => "x-mcp-".toList.isPrefixOf entry.1.toList

def tagsOf : Json → List Json
  | .arr items => items
  | _ => []

/-- Where an operation object stands, with what its path item declares for all of them. -/
structure Place where
  path : String
  method : String
  pathParams : Json
  op : Json

/-- The record of an operation object whose parameters and body have been read. -/
def recordOf (place : Place) (op : JsonObject) (parameters : List RawParameter)
    (requestBody : Option RequestBody) : RawOperation where
  method := place.method
  path := place.path
  operationId := Dict.get? op "operationId"
  summary := Dict.get? op "summary"
  description := Dict.get? op "description"
  tags := tagsOf (listField op "tags")
  parameters := parameters
  requestBody := requestBody
  extensions := extensions op

section Extract

variable {Error : Type}

/-- Whether the operation is left out because it is deprecated. -/
def leftOut (includeDeprecated : Bool) (op : JsonObject) : Bool :=
  (field op "deprecated").truthy && !includeDeprecated

/-- The reading of an operation object. -/
def rawOperation (includeDeprecated : Bool) (place : Place) :
    Except (PyException Error) (Option RawOperation) :=
  match place.op with
  | .obj op =>
      if leftOut includeDeprecated op then return none
      else do
        let parameters ← mergedParameters place.pathParams (listField op "parameters")
        let requestBody ← requestBody op
        return some (recordOf place op parameters requestBody)
  | _ => throw .typeError

/-- `except (KeyError, TypeError, AttributeError)`. -/
def isMalformed : PyException Error → Bool
  | .keyError => true
  | .typeError => true
  | .attributeError => true
  | _ => false

/-- A malformed operation is skipped. -/
def extractAt (includeDeprecated : Bool) (place : Place) :
    Except (PyException Error) (Option RawOperation) :=
  orSkip isMalformed (rawOperation includeDeprecated place)

end Extract

section Walk

variable (unicode : PyUnicode)

/-- `sorted(dictionary)`. -/
def sortedNames (fields : JsonObject) : List String :=
  (Dict.keys fields).insertionSort (· ≤ ·)

def isExposed (method : String) : Bool :=
  decide (unicode.upper method ∈ exposedMethods)

/-- The operation objects of a path item; one that is no object is skipped. -/
def itemPlaces (path : String) (item : Json) : List Place :=
  match item with
  | .obj fields =>
      ((sortedNames fields).filter (isExposed unicode)).map fun method => {
        path
        method
        pathParams := listField fields "parameters"
        op := field fields method }
  | _ => []

def places (paths : JsonObject) : List Place :=
  (sortedNames paths).flatMap fun path => itemPlaces unicode path (field paths path)

/-- `extract_raw_operations`. -/
def extractRawOperations (includeDeprecated : Bool) (document : JsonObject) :
    Except (PyException PathsError) (List RawOperation) :=
  let paths := field document "paths"
  if !paths.truthy then return []
  else
    match paths with
    | .obj paths => do
        let found ← (places unicode paths).mapM (extractAt includeDeprecated)
        return found.reduceOption
    | other => throw (.raised { type := other.typeName })

end Walk

end Unchecked

end McpPortal
