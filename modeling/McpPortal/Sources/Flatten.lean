import Mathlib.Data.List.Dedup
import Mathlib.Data.List.Sort
import McpPortal.Foundation.Dynamic
import McpPortal.Foundation.Fallible
import McpPortal.Foundation.Template
import McpPortal.Operations

/-!
# From a binding to an input schema

Flattening presents path, query, header and body arguments as one flat object.
The checks run when a binding is loaded: the placeholders of the path have to agree
with the declared path parameters, and argument names that collide are prefixed by
location once.
-/

namespace McpPortal

open Foundation

def supportedContentTypes : List String := ["application/json"]

def bodyArg : String := "body"

inductive FlattenError where
  | unsupportedContentType (contentType : String)
  | repeatedPlaceholders (path : String) (repeated : List String)
  | optionalPathParameter (arg wireName : String)
  | sharedWireName (first second wireName : String)
  | unmatchedPlaceholders (path : String) (unmatched : List String)
  | unplacedParameters (path : String) (unplaced : List String)
  | argumentCollision (name first second : String)
  deriving DecidableEq

namespace FlattenError

variable (isPrintable : Char → Bool)

def message : FlattenError → String
  | .unsupportedContentType contentType =>
      "unsupported request body content type " ++ reprString isPrintable contentType ++
        "; P1 supports " ++ (Json.arr (supportedContentTypes.map .str)).repr isPrintable
  | .repeatedPlaceholders path repeated =>
      "path " ++ reprString isPrintable path ++ " repeats placeholder(s) " ++
        (Json.arr (repeated.map .str)).repr isPrintable
  | .optionalPathParameter arg wireName =>
      "path parameter " ++ reprString isPrintable arg ++
        " is optional, but a path parameter cannot be: " ++
        "omitting it would leave the literal placeholder '\x7b" ++ wireName ++ "\x7d' in the URL"
  | .sharedWireName first second wireName =>
      "path parameters " ++ reprString isPrintable first ++ " and " ++
        reprString isPrintable second ++ " share wire name " ++ reprString isPrintable wireName ++
        ", so only one of them can fill the placeholder '\x7b" ++ wireName ++
        "\x7d' and the other's value would be discarded"
  | .unmatchedPlaceholders path unmatched =>
      "path " ++ reprString isPrintable path ++ " has placeholder(s) " ++
        (Json.arr (unmatched.map .str)).repr isPrintable ++
        " with no path parameter to fill them"
  | .unplacedParameters path unplaced =>
      "path parameter(s) " ++ (Json.arr (unplaced.map .str)).repr isPrintable ++
        " have no matching placeholder in path " ++ reprString isPrintable path ++
        ", so their values would be read and discarded"
  | .argumentCollision name first second =>
      "argument name " ++ reprString isPrintable name ++
        " collides after location prefixing: contributed by " ++ first ++ " and " ++ second

end FlattenError

/-- A flattening function raises `FlattenError`, or what the data makes a built-in raise. -/
abbrev Flatten := Except (PyException FlattenError)

/-- Whether the body is lifted into the tool schema rather than kept as one argument. -/
def BodySpec.isFlattened (body : BodySpec) : Bool :=
  body.mode ≠ .singleArg &&
    match Dict.get? body.schema "type" with
    | some (.str type) => type = "object"
    | _ => false

/-- `schema.get("properties", {})`. -/
def BodySpec.declaredProperties (body : BodySpec) : Json :=
  (Dict.get? body.schema "properties").getD (.obj [])

/-- `schema.get("required", [])`. -/
def BodySpec.declaredRequired (body : BodySpec) : Json :=
  (Dict.get? body.schema "required").getD (.arr [])

/-- `_body_properties`: the properties to lift, or `none` when the body stays one argument. -/
def bodyProperties (body : BodySpec) : Flatten (Option JsonObject) :=
  if body.isFlattened then do
    let properties ← toDict body.declaredProperties
    return some properties
  else return none

def checkContentType (body : Option BodySpec) : Flatten Unit :=
  match body with
  | none => return ()
  | some body =>
      if body.contentType ∉ supportedContentTypes then
        throw (.raised (.unsupportedContentType body.contentType))
      else return ()

/-- The names in `{...}` of a path. -/
def pathPlaceholders (path : String) : List String :=
  (Text.placeholders path.toList).map String.ofList

def pathParameters (parameters : List Parameter) : List Parameter :=
  parameters.filter fun parameter => parameter.location = .path

/-- One iteration over the path parameters, with the argument declared for each wire name. -/
def declarePath (declared : List (String × String)) (parameter : Parameter) :
    Flatten (List (String × String)) :=
  if !parameter.required then
    throw (.raised (.optionalPathParameter parameter.arg parameter.wireName))
  else
    match Dict.get? declared parameter.wireName with
    | some first => throw (.raised (.sharedWireName first parameter.arg parameter.wireName))
    | none => return Dict.insert declared parameter.wireName parameter.arg

def checkPathTemplate (binding : HttpBinding) : Flatten Unit := do
  let placeholders := pathPlaceholders binding.path
  let repeated := sortedRepeats placeholders
  if repeated ≠ [] then throw (.raised (.repeatedPlaceholders binding.path repeated))
  let declared ← (pathParameters binding.parameters).foldlM declarePath []
  let unmatched := placeholders.dedup.filter fun name => decide (name ∉ Dict.keys declared)
  if unmatched ≠ [] then
    throw (.raised (.unmatchedPlaceholders binding.path (unmatched.insertionSort (· ≤ ·))))
  let unplaced := declared.filter fun entry => decide (entry.1 ∉ placeholders)
  if unplaced ≠ [] then
    throw (.raised (.unplacedParameters binding.path
      ((unplaced.map (·.2)).insertionSort (· ≤ ·))))

/-- An accepted template names exactly the wire names of the path parameters, which are
required and distinct. -/
structure TemplateMatches (binding : HttpBinding) : Prop where
  required : ∀ parameter ∈ pathParameters binding.parameters, parameter.required = true
  distinct : ((pathParameters binding.parameters).map (·.wireName)).Nodup
  placed : ∀ name, name ∈ pathPlaceholders binding.path ↔
    name ∈ (pathParameters binding.parameters).map (·.wireName)
  once : (pathPlaceholders binding.path).Nodup

theorem declarePath_ok {declared next : List (String × String)} {parameter : Parameter}
    (ran : declarePath declared parameter = .ok next) :
    parameter.required = true ∧ parameter.wireName ∉ Dict.keys declared ∧
      Dict.keys next = Dict.keys declared ++ [parameter.wireName] := by
  unfold declarePath at ran
  split at ran
  case isTrue => cases ran
  case isFalse isRequired =>
    split at ran
    · cases ran
    case h_2 absent =>
      cases ran
      have notDeclared := Dict.get?_eq_none_iff.mp absent
      refine ⟨by simpa using isRequired, notDeclared, ?_⟩
      rw [Dict.insert_of_notMem notDeclared]
      simp [Dict.keys]

theorem foldlM_declarePath_ok {parameters : List Parameter} {declared final : List (String × String)}
    (ran : parameters.foldlM declarePath declared = .ok final)
    (unique : (Dict.keys declared).Nodup) :
    (∀ parameter ∈ parameters, parameter.required = true) ∧ (Dict.keys final).Nodup ∧
      Dict.keys final = Dict.keys declared ++ parameters.map (·.wireName) := by
  induction parameters generalizing declared with
  | nil =>
      cases ran
      simp [unique]
  | cons parameter rest ih =>
      rcases foldlM_cons_eq_ok.mp ran with ⟨next, stepped, later⟩
      rcases declarePath_ok stepped with ⟨isRequired, fresh, keys_next⟩
      have nextUnique : (Dict.keys next).Nodup := by
        rw [keys_next, List.nodup_append]
        refine ⟨unique, List.nodup_singleton _, ?_⟩
        intro name present other isLast same
        rw [List.mem_singleton] at isLast
        exact fresh (isLast ▸ same ▸ present)
      rcases ih later nextUnique with ⟨restRequired, finalUnique, keys_final⟩
      refine ⟨List.forall_mem_cons.mpr ⟨isRequired, restRequired⟩, finalUnique, ?_⟩
      rw [keys_final, keys_next, List.map_cons, List.append_assoc, List.singleton_append]

theorem checkPathTemplate_ok {binding : HttpBinding} (accepted : checkPathTemplate binding = .ok ()) :
    TemplateMatches binding := by
  simp only [checkPathTemplate, throw_bind, check_eq_ok, bind_eq_ok, not_not,
    sortedRepeats_eq_nil_iff, List.filter_eq_nil_iff, List.mem_dedup, decide_eq_true_eq] at accepted
  rcases accepted with ⟨once, declared, ran, matched, placed, _⟩
  rcases foldlM_declarePath_ok ran List.nodup_nil with ⟨allRequired, unique, keys_declared⟩
  rw [Dict.keys_nil, List.nil_append] at keys_declared
  refine ⟨allRequired, keys_declared ▸ unique, fun name => ?_, once⟩
  rw [← keys_declared]
  refine ⟨matched name, fun present => ?_⟩
  rcases List.mem_map.mp present with ⟨entry, entryMem, rfl⟩
  exact placed entry entryMem

/-- The names the body contributes. -/
def bodyNames (binding : HttpBinding) : Flatten (List String) :=
  match binding.body with
  | none => return []
  | some body => do
      match ← bodyProperties body with
      | some properties => return Dict.keys properties
      | none => return [bodyArg]

/-- How often a name is used by the parameters and the body together. -/
def nameCount (parameters : List Parameter) (names : List String) (name : String) : Nat :=
  (parameters.map (·.arg)).count name + names.count name

def renameParameter (parameters : List Parameter) (names : List String) (parameter : Parameter) :
    Parameter :=
  if 1 < nameCount parameters names parameter.arg then
    { parameter with arg := parameter.location.value ++ "_" ++ parameter.arg }
  else parameter

/-- Each name with the place that contributes it; a second contribution is an error. -/
def claimNames : List (String × String) → List (String × String) → Flatten Unit
  | _, [] => return ()
  | seen, (name, place) :: rest =>
      match Dict.get? seen name with
      | some first => throw (.raised (.argumentCollision name first place))
      | none => claimNames (Dict.insert seen name place) rest

def resolveArgNames (binding : HttpBinding) : Flatten HttpBinding := do
  checkContentType binding.body
  let names ← bodyNames binding
  let renamed := binding.parameters.map (renameParameter binding.parameters names)
  claimNames [] ((renamed.map fun parameter => (parameter.arg, parameter.location.value)) ++
    (names.insertionSort (· ≤ ·)).map fun name => (name, "body"))
  return { binding with parameters := renamed }

/-- Resolving changes argument names only. -/
theorem resolveArgNames_ok {binding resolved : HttpBinding}
    (ran : resolveArgNames binding = .ok resolved) :
    ∃ names, bodyNames binding = .ok names ∧
      resolved = { binding with
        parameters := binding.parameters.map (renameParameter binding.parameters names) } := by
  simp only [resolveArgNames, bind_eq_ok, pure_eq_ok] at ran
  rcases ran with ⟨_, _, names, named, _, _, rfl⟩
  exact ⟨names, named, rfl⟩

@[simp]
theorem renameParameter_location (parameters : List Parameter) (names : List String)
    (parameter : Parameter) :
    (renameParameter parameters names parameter).location = parameter.location := by
  unfold renameParameter
  split <;> rfl

@[simp]
theorem renameParameter_wireName (parameters : List Parameter) (names : List String)
    (parameter : Parameter) :
    (renameParameter parameters names parameter).wireName = parameter.wireName := by
  unfold renameParameter
  split <;> rfl

@[simp]
theorem renameParameter_required (parameters : List Parameter) (names : List String)
    (parameter : Parameter) :
    (renameParameter parameters names parameter).required = parameter.required := by
  unfold renameParameter
  split <;> rfl

/-- The properties and the required names the body adds. -/
def addBody (properties : JsonObject) (required : List Json) (body : Option BodySpec) :
    Flatten (JsonObject × List Json) :=
  match body with
  | none => return (properties, required)
  | some body => do
      match ← bodyProperties body with
      | none =>
          return (Dict.insert properties bodyArg (.obj body.schema), required ++ [.str bodyArg])
      | some lifted => do
          let names ← iterate body.declaredRequired
          return (lifted.foldl (fun entries entry => Dict.insert entries entry.1 entry.2) properties,
            required ++ names)

def buildInputSchema (binding : HttpBinding) : Flatten JsonObject := do
  let resolved ← resolveArgNames binding
  let properties := Dict.ofList (resolved.parameters.map fun p => (p.arg, Json.obj p.schema))
  let required := (resolved.parameters.filter (·.required)).map fun p => Json.str p.arg
  let (properties, required) ← addBody properties required resolved.body
  let schema := [("type", .str "object"), ("properties", .obj properties)]
  return if required.isEmpty then schema else schema ++ [("required", .arr required)]

/-- What the body adds to the required names: itself, or whatever its schema lists. -/
theorem addBody_ok {properties : JsonObject} {required : List Json} {body : BodySpec}
    {added : JsonObject × List Json} (ran : addBody properties required (some body) = .ok added) :
    (body.isFlattened = false ∧ added.2 = required ++ [.str bodyArg]) ∨
      (body.isFlattened = true ∧ ∃ names, body.declaredRequired.iterate? = some names ∧
        added.2 = required ++ names) := by
  simp only [addBody, bodyProperties] at ran
  cases flattened : body.isFlattened with
  | false =>
      simp only [flattened, Bool.false_eq_true, if_false, pure_bind, pure_eq_ok] at ran
      exact Or.inl ⟨rfl, by rw [← ran]⟩
  | true =>
      simp only [flattened, if_true, bind_assoc, pure_bind, bind_eq_ok, pure_eq_ok] at ran
      rcases ran with ⟨_, _, names, listed, rfl⟩
      refine Or.inr ⟨rfl, names, ?_, rfl⟩
      unfold iterate at listed
      split at listed
      case h_1 items_eq =>
        cases listed
        exact items_eq
      case h_2 => cases listed

/-- The names a published schema requires: those of required parameters, then the body's. -/
theorem buildInputSchema_ok {binding resolved : HttpBinding} {schema : JsonObject}
    (resolves : resolveArgNames binding = .ok resolved)
    (ran : buildInputSchema binding = .ok schema) :
    ∃ properties required, addBody (Dict.ofList (resolved.parameters.map fun p =>
          (p.arg, Json.obj p.schema)))
        ((resolved.parameters.filter (·.required)).map fun p => Json.str p.arg) resolved.body =
          .ok (properties, required) ∧
      (required ≠ [] → Dict.get? schema "required" = some (.arr required)) := by
  simp only [buildInputSchema, resolves, bind_eq_ok, pure_eq_ok, Except.ok.injEq,
    exists_eq_left'] at ran
  rcases ran with ⟨⟨properties, required⟩, added, rfl⟩
  refine ⟨properties, required, added, fun nonempty => ?_⟩
  simp [nonempty, Dict.get?]

end McpPortal
