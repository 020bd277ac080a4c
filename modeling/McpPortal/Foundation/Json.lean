import Mathlib.Data.Rat.Defs
import McpPortal.Foundation.Dict

/-!
# JSON values as the interpreter holds them

A decoded JSON document is made of `None`, booleans, integers, floats, strings,
lists and dictionaries. Strings are sequences of Unicode scalar values. A float
carries its exact value, which comparisons use, and the text `repr` gives it.

`Json.pyEq` is the interpreter's `==`: dictionaries compare without regard to
order, and booleans, integers and floats compare by numeric value. `Json.str` is
`str(value)`. What `repr` escapes depends on which characters the interpreter's
Unicode tables call printable, so the tables are an argument. An integer of too many
digits has no text, and no value that holds one has.
-/

namespace Foundation

/-- A float: its value and its `repr`. -/
structure PyFloat where
  value : Rat
  repr : String
  deriving DecidableEq

inductive Json where
  | null
  | bool (value : Bool)
  | int (value : Int)
  | float (value : PyFloat)
  | str (value : String)
  | arr (items : List Json)
  | obj (fields : List (String × Json))

/-- The fields of a JSON object in document order. -/
abbrev JsonObject := List (String × Json)

namespace Json

/-- The numeric value of a boolean or a number. -/
def number? : Json → Option Rat
  | .bool value => some (if value then 1 else 0)
  | .int value => some value
  | .float value => some value.value
  | _ => none

mutual

/-- `left == right`. -/
def pyEq : Json → Json → Bool
  | .null, .null => true
  | .str left, .str right => left = right
  | .arr left, .arr right => pyEqItems left right
  | .obj left, .obj right => left.length = right.length && pyEqFields left right
  | .bool left, right => right.number? = some (if left then 1 else 0)
  | .int left, right => right.number? = some (left : Rat)
  | .float left, right => right.number? = some left.value
  | _, _ => false

def pyEqItems : List Json → List Json → Bool
  | [], [] => true
  | left :: lefts, right :: rights => pyEq left right && pyEqItems lefts rights
  | _, _ => false

/-- Every field on the left has an equal field of the same name on the right. -/
def pyEqFields : List (String × Json) → List (String × Json) → Bool
  | [], _ => true
  | (key, left) :: rest, rights =>
      (match Dict.get? rights key with
        | some right => pyEq left right
        | none => false) && pyEqFields rest rights

end

/-- `bool(value)`. -/
def truthy : Json → Bool
  | .null => false
  | .bool value => value
  | .int value => value ≠ 0
  | .float value => value.value ≠ 0
  | .str value => value ≠ ""
  | .arr items => !items.isEmpty
  | .obj fields => !fields.isEmpty

end Json

/-- `type(value).__name__`. -/
def Json.typeName : Json → String
  | .null => "NoneType"
  | .bool _ => "bool"
  | .int _ => "int"
  | .float _ => "float"
  | .str _ => "str"
  | .arr _ => "list"
  | .obj _ => "dict"

/-- `isinstance(value, str)`, with the string. -/
def Json.string? : Json → Option String
  | .str value => some value
  | _ => none

/-- A list all of whose items are strings. -/
def Json.strings? : Json → Option (List String)
  | .arr items => items.mapM Json.string?
  | _ => none

@[simp]
theorem Json.mapM_string?_map_str (values : List String) :
    (values.map Json.str).mapM Json.string? = some values := by
  induction values with
  | nil => rfl
  | cons value rest ih => simp [Json.string?, ih]

@[simp]
theorem Json.strings?_arr_map_str (values : List String) :
    (Json.arr (values.map Json.str)).strings? = some values :=
  Json.mapM_string?_map_str values

theorem Json.mapM_string?_eq_some {items : List Json} {names : List String}
    (strings : items.mapM Json.string? = some names) : items = names.map .str := by
  induction items generalizing names with
  | nil =>
      cases strings
      rfl
  | cons item rest ih =>
      rw [List.mapM_cons, Option.bind_eq_bind, Option.bind_eq_some_iff] at strings
      rcases strings with ⟨name, isName, later⟩
      rw [Option.bind_eq_bind, Option.bind_eq_some_iff] at later
      rcases later with ⟨others, areNames, collected⟩
      cases collected
      cases item with
      | str text =>
          cases isName
          rw [ih areNames, List.map_cons]
      | _ => cases isName

section Text

variable (isPrintable : Char → Bool)

/-- The low `width` hexadecimal digits of a number. -/
def hexDigits : Nat → Nat → List Char
  | 0, _ => []
  | width + 1, code => hexDigits width (code / 16) ++ [Nat.digitChar (code % 16)]

/-- One character inside `repr(text)`. -/
def reprChar (quote char : Char) : List Char :=
  if char = quote || char = '\\' then ['\\', char]
  else if char = '\t' then ['\\', 't']
  else if char = '\n' then ['\\', 'n']
  else if char = '\r' then ['\\', 'r']
  else if char.toNat < 0x20 || char.toNat = 0x7f then '\\' :: 'x' :: hexDigits 2 char.toNat
  else if char.toNat < 0x7f || isPrintable char then [char]
  else if char.toNat < 0x100 then '\\' :: 'x' :: hexDigits 2 char.toNat
  else if char.toNat < 0x10000 then '\\' :: 'u' :: hexDigits 4 char.toNat
  else '\\' :: 'U' :: hexDigits 8 char.toNat

/-- `repr(text)`: single quotes, unless the text has single quotes and no double ones. -/
def reprString (text : String) : String :=
  let quote := if '\'' ∈ text.toList ∧ '"' ∉ text.toList then '"' else '\''
  String.ofList (quote :: text.toList.flatMap (reprChar isPrintable quote) ++ [quote])

/-- `sep.join(texts)`. -/
def joinWith (sep : String) : List String → String
  | [] => ""
  | [text] => text
  | text :: rest => text ++ sep ++ joinWith sep rest

mutual

/-- `repr(value)`. -/
def Json.repr : Json → String
  | .null => "None"
  | .bool true => "True"
  | .bool false => "False"
  | .int value => toString value
  | .float value => value.repr
  | .str value => reprString isPrintable value
  | .arr items => "[" ++ joinWith ", " (reprItems items) ++ "]"
  | .obj fields => "\x7b" ++ joinWith ", " (reprFields fields) ++ "\x7d"

def reprItems : List Json → List String
  | [] => []
  | item :: rest => Json.repr item :: reprItems rest

def reprFields : List (String × Json) → List String
  | [] => []
  | (key, value) :: rest =>
      (reprString isPrintable key ++ ": " ++ Json.repr value) :: reprFields rest

end

/-- `str(value)`. -/
def Json.text (value : Json) : String :=
  match value with
  | .str text => text
  | other => other.repr isPrintable

@[simp]
theorem Json.text_str (text : String) : (Json.str text).text isPrintable = text := rfl

end Text

/-- The digits that the interpreter converts an integer of, at most. -/
@[irreducible]
def digitLimit : Nat := 4300

mutual

/-- Some integer has too many digits to be converted to text. -/
def Json.hasLongInt : Json → Bool
  | .int value => Nat.pow 10 digitLimit ≤ value.natAbs
  | .arr items => Json.anyLongItem items
  | .obj fields => Json.anyLongField fields
  | _ => false

def Json.anyLongItem : List Json → Bool
  | [] => false
  | item :: rest => item.hasLongInt || Json.anyLongItem rest

def Json.anyLongField : List (String × Json) → Bool
  | [] => false
  | (_, value) :: rest => value.hasLongInt || Json.anyLongField rest

end

/-- A digit can be converted. -/
theorem Json.hasLongInt_digit {value : Int} (isDigit : value.natAbs < 10) :
    (Json.int value).hasLongInt = false := by
  have atLeastOne : 1 ≤ digitLimit := by
    unfold digitLimit
    decide
  have large : 10 ^ 1 ≤ 10 ^ digitLimit := Nat.pow_le_pow_right (by decide) atLeastOne
  simp only [Json.hasLongInt, Nat.pow_eq, decide_eq_false_iff_not, Nat.not_le]
  omega

example : (Json.arr [.int 1, .str "it's", .bool true]).text (fun _ => true)
    = "[1, \"it's\", True]" := by decide

end Foundation
