import McpPortal.Foundation.Json
import McpPortal.Foundation.Unicode

/-!
# Validating decoded data

Readers that turn decoded data into typed values the way a data model with
declared fields does: a field is required, or has a default, and no other field
is accepted. `none` is a validation error.

The lemmas say when a reader recovers what was written, for objects written with
their absent fields left out.
-/

namespace Foundation

universe u v

/-- A reader of decoded data. -/
abbrev Validator (α : Type u) := Json → Option α

namespace Validator

variable {α : Type u}

def string : Validator String := Json.string?

/-- Booleans, and the numbers and words that stand for them. -/
def bool : Validator Bool
  | .bool value => some value
  | .int value => if value = 0 then some false else if value = 1 then some true else none
  | .float value =>
      if value.value = 0 then some false else if value.value = 1 then some true else none
  | .str value =>
      if asciiLower value ∈ ["0", "off", "f", "false", "n", "no"] then some false
      else if asciiLower value ∈ ["1", "on", "t", "true", "y", "yes"] then some true
      else none
  | _ => none

def list (item : Validator α) : Validator (List α)
  | .arr items => items.mapM item
  | _ => none

def nullable (inner : Validator α) : Validator (Option α)
  | .null => some none
  | value => (inner value).map some

/-- A field without a default. -/
def required (fields : JsonObject) (name : String) (field : Validator α) : Option α :=
  (Dict.get? fields name).bind field

def withDefault (fields : JsonObject) (name : String) (field : Validator α) (default : α) :
    Option α :=
  match Dict.get? fields name with
  | none => some default
  | some value => field value

/-- A field may be given under its own name in place of its alias; where the alias is there, its
own name is no field. -/
def underAlias (name given : String) (fields : JsonObject) : JsonObject :=
  if given ∈ Dict.keys fields then fields
  else fields.map fun field => if field.1 = name then (given, field.2) else field

/-- No field besides the declared ones. -/
def onlyFields (names : List String) (fields : JsonObject) : Bool :=
  (Dict.keys fields).all fun name => decide (name ∈ names)

@[simp]
theorem string_str (text : String) : string (.str text) = some text := rfl

theorem nullable_of_ne_null {inner : Validator α} {value : Json} (nonNull : value ≠ .null) :
    nullable inner value = (inner value).map some := by
  cases value with
  | null => exact absurd rfl nonNull
  | _ => rfl

theorem list_arr_map_of {β : Type v} {item : Validator α} {encode : β → Json} {result : β → α}
    {values : List β} (reads : ∀ value ∈ values, item (encode value) = some (result value)) :
    list item (.arr (values.map encode)) = some (values.map result) := by
  induction values with
  | nil => rfl
  | cons value rest ih =>
      have later := ih fun other otherMem => reads other (List.mem_cons_of_mem _ otherMem)
      simp only [list] at later
      simp only [list, List.map_cons, List.mapM_cons, reads value List.mem_cons_self, later]
      rfl

theorem list_arr_map {item : Validator α} {encode : α → Json} {values : List α}
    (reads : ∀ value ∈ values, item (encode value) = some value) :
    list item (.arr (values.map encode)) = some values := by
  simpa using list_arr_map_of reads

theorem list_arr_append {item : Validator α} {left right : List Json} {leftRead rightRead : List α}
    (readsLeft : list item (.arr left) = some leftRead)
    (readsRight : list item (.arr right) = some rightRead) :
    list item (.arr (left ++ right)) = some (leftRead ++ rightRead) := by
  simp only [list] at readsLeft readsRight
  simp only [list, List.mapM_append, readsLeft, readsRight]
  rfl

theorem list_strings (texts : List String) :
    list string (.arr (texts.map .str)) = some texts :=
  list_arr_map fun _ _ => rfl

theorem onlyFields_insert {names : List String} {fields : JsonObject} {name : String}
    (declared : name ∈ names) (value : Json) (only : onlyFields names fields = true) :
    onlyFields names (Dict.insert fields name value) = true := by
  rw [onlyFields, List.all_eq_true] at only ⊢
  intro field fieldMem
  rcases Dict.mem_keys_insert.mp fieldMem with rfl | before
  · exact decide_eq_true declared
  · exact only field before

section Present

variable {entries : List (String × Option Json)} {names : List String} {name : String}

theorem onlyFields_present (declared : Dict.keys entries = names) :
    onlyFields names (Dict.present entries) = true := by
  rw [onlyFields, List.all_eq_true]
  intro field fieldMem
  have written := (Dict.keys_present_sublist entries).mem fieldMem
  rw [declared] at written
  exact decide_eq_true written

variable (unique : (Dict.keys entries).Nodup)
include unique

theorem required_present {field : Validator α} {value : Json} {result : α}
    (written : Dict.get? entries name = some (some value)) (reads : field value = some result) :
    required (Dict.present entries) name field = some result := by
  rw [required, Dict.get?_present unique, written]
  exact reads

theorem withDefault_present {field : Validator α} {value : Json} {default result : α}
    (written : Dict.get? entries name = some (some value)) (reads : field value = some result) :
    withDefault (Dict.present entries) name field default = some result := by
  rw [withDefault, Dict.get?_present unique, written]
  exact reads

/-- A field that may be absent is recovered, absent or not. -/
theorem nullable_present {field : Validator α} {encode : α → Json} {value : Option α}
    (written : Dict.get? entries name = some (value.map encode))
    (reads : ∀ inner ∈ value, field (encode inner) = some inner)
    (nonNull : ∀ inner ∈ value, encode inner ≠ .null) :
    withDefault (Dict.present entries) name (nullable field) none = some value := by
  rw [withDefault, Dict.get?_present unique, written]
  cases value with
  | none => rfl
  | some inner =>
      have readBack := reads inner rfl
      have notNull := nonNull inner rfl
      simp only [Option.map_some, Option.join_some, nullable_of_ne_null notNull, readBack]

end Present

end Validator

end Foundation
