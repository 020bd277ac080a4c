import McpPortal.Foundation.Json

/-!
# Validity under a schema

The keywords for types, bounds, properties, items, enumerations and combinations,
in two readings. Under JSON Schema 2020-12 every keyword stands on its own. Under
OpenAPI 3.0 the flags `exclusiveMinimum` and `exclusiveMaximum` sharpen the bounds
next to them, and `nullable` admits null: next to a `type`, or, without one, in
addition to what the rest admits. When an instance equals an enumerated value is an
argument.
-/

namespace Foundation

namespace JsonSchema

inductive Reading where
  | openApi30
  | draft202012
  deriving DecidableEq

def flag (schema : JsonObject) (key : String) : Bool :=
  match Dict.get? schema key with
  | some (.bool value) => value
  | _ => false

def isNull : Json → Bool
  | .null => true
  | _ => false

def hasType (type : String) : Json → Bool
  | .null => type = "null"
  | .bool _ => type = "boolean"
  | .int _ => type = "integer" || type = "number"
  | .float value => type = "number" || (type = "integer" && value.value.den = 1)
  | .str _ => type = "string"
  | .arr _ => type = "array"
  | .obj _ => type = "object"

/-- `type`, a name or a list of names. -/
def typeHolds (types given : Json) : Bool :=
  match types with
  | .str type => hasType type given
  | .arr items => items.any fun item => (item.string?).any fun type => hasType type given
  | _ => true

/-- The value of a number; booleans are none. -/
def amount? : Json → Option Rat
  | .int value => some value
  | .float value => some value.value
  | _ => none

/-- What is no number is not bounded. -/
def lowerHolds (strict : Bool) (limit given : Json) : Bool :=
  match amount? limit, amount? given with
  | some bound, some amount => if strict then bound < amount else bound ≤ amount
  | _, _ => true

def upperHolds (strict : Bool) (limit given : Json) : Bool :=
  match amount? limit, amount? given with
  | some bound, some amount => if strict then amount < bound else amount ≤ bound
  | _, _ => true

/-- What is no object is not required to have fields. -/
def requiredHolds (names given : Json) : Bool :=
  match names, given with
  | .arr items, .obj fields =>
      items.all fun item => (item.string?).all fun name => (Dict.get? fields name).isSome
  | _, _ => true

section Valid

variable (same : Json → Json → Bool) (reading : Reading)

def enumHolds (values given : Json) : Bool :=
  match values with
  | .arr items => items.any fun item => same item given
  | _ => true

/-- Whether a flag next to a bound makes it strict. -/
def sharpens (siblings : JsonObject) (key : String) : Bool :=
  reading = .openApi30 && flag siblings key

/-- The keywords without schemas below them. -/
def leafHolds (siblings : JsonObject) (key : String) (value given : Json) : Bool :=
  if key = "type" then
    typeHolds value given ||
      (reading = .openApi30 && flag siblings "nullable" && isNull given)
  else if key = "minimum" then
    lowerHolds (sharpens reading siblings "exclusiveMinimum") value given
  else if key = "maximum" then
    upperHolds (sharpens reading siblings "exclusiveMaximum") value given
  else if key = "exclusiveMinimum" then
    reading = .openApi30 || lowerHolds true value given
  else if key = "exclusiveMaximum" then
    reading = .openApi30 || upperHolds true value given
  else if key = "required" then requiredHolds value given
  else if key = "enum" then enumHolds same value given
  else true

/-- Null is admitted besides the rest: `nullable` without a `type`. -/
def admitsNull (schema : JsonObject) (given : Json) : Bool :=
  reading = .openApi30 && flag schema "nullable" && (Dict.get? schema "type").isNone &&
    isNull given

def itemsOf : Json → List Json
  | .arr items => items
  | _ => []

def fieldOf (name : String) : Json → Option Json
  | .obj fields => Dict.get? fields name
  | _ => none

mutual

def valid : Json → Json → Bool
  | .obj fields, given =>
      admitsNull reading fields given || allHold fields fields given
  | .bool accepts, _ => accepts
  | _, _ => false

def allHold (siblings : JsonObject) : List (String × Json) → Json → Bool
  | [], _ => true
  | (key, value) :: rest, given =>
      holds siblings key value given && allHold siblings rest given

def holds (siblings : JsonObject) (key : String) : Json → Json → Bool
  | .obj fields, given =>
      if key = "properties" then propertiesHold fields given
      else if key = "items" then
        (itemsOf given).all fun item =>
          admitsNull reading fields item || allHold fields fields item
      else leafHolds same reading siblings key (.obj fields) given
  | .arr items, given =>
      if key = "allOf" then countValid items given = items.length
      else if key = "anyOf" then 0 < countValid items given
      else if key = "oneOf" then countValid items given = 1
      else leafHolds same reading siblings key (.arr items) given
  | .bool accepts, given =>
      if key = "items" then accepts || (itemsOf given).isEmpty
      else leafHolds same reading siblings key (.bool accepts) given
  | value, given => leafHolds same reading siblings key value given

def propertiesHold : List (String × Json) → Json → Bool
  | [], _ => true
  | (name, schema) :: rest, given =>
      (match fieldOf name given with
        | some value => valid schema value
        | none => true) && propertiesHold rest given

/-- How many of the schemas the instance is valid under. -/
def countValid : List Json → Json → Nat
  | [], _ => 0
  | schema :: rest, given =>
      (if valid schema given then 1 else 0) + countValid rest given

end

end Valid

section Facts

variable {same : Json → Json → Bool} {reading : Reading} {siblings : JsonObject}
  {given : Json}

theorem allHold_eq_true {fields : List (String × Json)} :
    allHold same reading siblings fields given = true ↔
      ∀ field ∈ fields, holds same reading siblings field.1 field.2 given = true := by
  induction fields with
  | nil => simp [allHold]
  | cons field rest ih =>
      rcases field with ⟨key, value⟩
      rw [allHold, Bool.and_eq_true, ih, List.forall_mem_cons]

theorem valid_obj {fields : JsonObject} :
    valid same reading (.obj fields) given =
      (admitsNull reading fields given || allHold same reading fields fields given) := by
  rw [valid]

/-- Under 2020-12 an object is a conjunction of its keywords. -/
theorem valid_draft_eq_true {fields : JsonObject} :
    valid same .draft202012 (.obj fields) given = true ↔
      ∀ field ∈ fields, holds same .draft202012 fields field.1 field.2 given = true := by
  rw [valid_obj, ← allHold_eq_true]
  simp [admitsNull]

theorem leafHolds_draft (other : JsonObject) (key : String) (value : Json) :
    leafHolds same .draft202012 siblings key value given =
      leafHolds same .draft202012 other key value given := by
  simp [leafHolds, sharpens]

/-- Under 2020-12 a keyword stands on its own. -/
theorem holds_draft (other : JsonObject) (key : String) (value : Json) :
    holds same .draft202012 siblings key value given =
      holds same .draft202012 other key value given := by
  cases value with
  | obj fields => simp only [holds, leafHolds_draft other]
  | arr items => simp only [holds, leafHolds_draft other]
  | bool accepts => simp only [holds, leafHolds_draft other]
  | _ => simp only [holds, leafHolds_draft other]

theorem holds_type (types : Json) :
    holds same reading siblings "type" types given =
      (typeHolds types given ||
        (reading = .openApi30 && flag siblings "nullable" && isNull given)) := by
  cases types <;> simp [holds, leafHolds]

theorem holds_minimum (limit : Json) :
    holds same reading siblings "minimum" limit given =
      lowerHolds (sharpens reading siblings "exclusiveMinimum") limit given := by
  cases limit <;> simp [holds, leafHolds]

theorem holds_maximum (limit : Json) :
    holds same reading siblings "maximum" limit given =
      upperHolds (sharpens reading siblings "exclusiveMaximum") limit given := by
  cases limit <;> simp [holds, leafHolds]

theorem holds_draft_exclusiveMinimum (limit : Json) :
    holds same .draft202012 siblings "exclusiveMinimum" limit given =
      lowerHolds true limit given := by
  cases limit <;> simp [holds, leafHolds]

theorem holds_draft_exclusiveMaximum (limit : Json) :
    holds same .draft202012 siblings "exclusiveMaximum" limit given =
      upperHolds true limit given := by
  cases limit <;> simp [holds, leafHolds]

end Facts

end JsonSchema

end Foundation
