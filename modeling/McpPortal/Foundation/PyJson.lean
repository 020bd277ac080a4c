import McpPortal.Foundation.CodePoints
import McpPortal.Foundation.JsonText

/-!
# JSON values whose strings hold lone surrogates

An escape of a lone surrogate is decoded to that code point. `repr` and `json.dumps` escape it
again, so only the text of a string itself may hold it. An integer of too many digits has no text
at all.
-/

namespace Foundation

inductive PyJson where
  | null
  | bool (value : Bool)
  | int (value : Int)
  | float (value : PyFloat)
  | str (value : CodePoints)
  | arr (items : List PyJson)
  | obj (fields : List (CodePoints × PyJson))

abbrev PyJsonObject := List (CodePoints × PyJson)

/-- The text of a text without lone surrogates. -/
def CodePoints.toText? (text : CodePoints) : Option String :=
  (text.mapM CodePoint.toChar?).map String.ofList

/-- `sep.join(texts)`. -/
def joinPoints (sep : CodePoints) : List CodePoints → CodePoints
  | [] => []
  | [text] => text
  | text :: rest => text ++ sep ++ joinPoints sep rest

section Text

variable (isPrintable : Char → Bool)

def reprPoint (quote : Char) (point : CodePoint) : List Char :=
  match point.toChar? with
  | some char => reprChar isPrintable quote char
  | none => '\\' :: 'u' :: hexDigits 4 point.val

/-- `repr(text)`. -/
def reprPoints (text : CodePoints) : String :=
  let quote := if text.contains (.ofChar '\'') && !text.contains (.ofChar '"') then '"' else '\''
  String.ofList (quote :: text.flatMap (reprPoint isPrintable quote) ++ [quote])

mutual

/-- `repr(value)`. -/
def PyJson.repr : PyJson → String
  | .null => "None"
  | .bool true => "True"
  | .bool false => "False"
  | .int value => toString value
  | .float value => value.repr
  | .str value => reprPoints isPrintable value
  | .arr items => "[" ++ joinWith ", " (reprPyItems items) ++ "]"
  | .obj fields => "\x7b" ++ joinWith ", " (reprPyFields fields) ++ "\x7d"

def reprPyItems : List PyJson → List String
  | [] => []
  | item :: rest => PyJson.repr item :: reprPyItems rest

def reprPyFields : List (CodePoints × PyJson) → List String
  | [] => []
  | (key, value) :: rest =>
      (reprPoints isPrintable key ++ ": " ++ PyJson.repr value) :: reprPyFields rest

end

/-- `str(value)`. -/
def PyJson.text (value : PyJson) : CodePoints :=
  match value with
  | .str text => text
  | other => codePoints (other.repr isPrintable)

end Text

namespace JsonText

def escapePoint (point : CodePoint) : List Char :=
  match point.toChar? with
  | some char => escapeChar char
  | none => unicodeEscape point.val

def writePoints (text : CodePoints) : List Char :=
  '"' :: text.flatMap escapePoint ++ ['"']

mutual

def writePy : PyJson → List Char
  | .null => "null".toList
  | .bool true => "true".toList
  | .bool false => "false".toList
  | .int value => (toString value).toList
  | .float value => value.repr.toList
  | .str value => writePoints value
  | .arr [] => ['[', ']']
  | .arr (item :: rest) => '[' :: writePy item ++ writePyItems rest
  | .obj [] => ['\x7b', '\x7d']
  | .obj ((key, value) :: rest) =>
      '\x7b' :: writePoints key ++ ':' :: ' ' :: writePy value ++ writePyFields rest

/-- The items after the first one, and the closing bracket. -/
def writePyItems : List PyJson → List Char
  | [] => [']']
  | item :: rest => ',' :: ' ' :: writePy item ++ writePyItems rest

/-- The fields after the first one, and the closing brace. -/
def writePyFields : List (CodePoints × PyJson) → List Char
  | [] => ['\x7d']
  | (key, value) :: rest =>
      ',' :: ' ' :: writePoints key ++ ':' :: ' ' :: writePy value ++ writePyFields rest

end

end JsonText

mutual

/-- Some integer has too many digits to be converted to text. -/
def PyJson.hasLongInt : PyJson → Bool
  | .int value => Nat.pow 10 digitLimit ≤ value.natAbs
  | .arr items => anyLongItem items
  | .obj fields => anyLongField fields
  | _ => false

def anyLongItem : List PyJson → Bool
  | [] => false
  | item :: rest => item.hasLongInt || anyLongItem rest

def anyLongField : List (CodePoints × PyJson) → Bool
  | [] => false
  | (_, value) :: rest => value.hasLongInt || anyLongField rest

end

theorem CodePoint.toChar?_ofChar (char : Char) : (CodePoint.ofChar char).toChar? = some char := by
  have valid : (CodePoint.ofChar char).val.isValidChar := char.valid
  have same : Char.ofNatAux (CodePoint.ofChar char).val valid = char := by
    apply Char.toNat_inj.mp
    rfl
  rw [CodePoint.toChar?, dif_pos valid]
  exact congrArg some same

theorem CodePoint.isSome_toChar? (point : CodePoint) :
    point.toChar?.isSome = !point.isSurrogate := by
  have bound := point.isLt
  have valid : point.val.isValidChar ↔ ¬(0xd800 ≤ point.val ∧ point.val ≤ 0xdfff) := by
    unfold Nat.isValidChar
    omega
  have within : point.isSurrogate = true ↔ 0xd800 ≤ point.val ∧ point.val ≤ 0xdfff := by
    rw [isSurrogate, Bool.and_eq_true, decide_eq_true_eq, decide_eq_true_eq]
  cases surrogate : point.isSurrogate with
  | true =>
      have invalid : ¬point.val.isValidChar :=
        fun isValid => valid.mp isValid (within.mp surrogate)
      rw [toChar?, dif_neg invalid]
      rfl
  | false =>
      have apart : ¬(0xd800 ≤ point.val ∧ point.val ≤ 0xdfff) := by
        rw [← within, surrogate]
        decide
      rw [toChar?, dif_pos (valid.mpr apart)]
      rfl

theorem toText?_codePoints (text : String) : (codePoints text).toText? = some text := by
  have each (chars : List Char) :
      (chars.map CodePoint.ofChar).mapM CodePoint.toChar? = some chars := by
    induction chars with
    | nil => rfl
    | cons char rest ih => simp [CodePoint.toChar?_ofChar, ih]
  rw [CodePoints.toText?, codePoints, each, Option.map_some, String.ofList_toList]

/-- The texts that are encoded are those without surrogates. -/
theorem isSome_toText? (text : CodePoints) : text.toText?.isSome = text.isEncodable := by
  rw [CodePoints.toText?, Option.isSome_map, CodePoints.isEncodable]
  induction text with
  | nil => rfl
  | cons point rest ih =>
      rw [List.all_cons, ← ih, ← CodePoint.isSome_toChar?, List.mapM_cons]
      cases point.toChar? with
      | none => rfl
      | some char => cases rest.mapM CodePoint.toChar? <;> rfl

mutual

def PyJson.ofJson : Json → PyJson
  | .null => .null
  | .bool value => .bool value
  | .int value => .int value
  | .float value => .float value
  | .str value => .str (codePoints value)
  | .arr items => .arr (ofJsonItems items)
  | .obj fields => .obj (ofJsonFields fields)

def ofJsonItems : List Json → List PyJson
  | [] => []
  | item :: rest => PyJson.ofJson item :: ofJsonItems rest

def ofJsonFields : List (String × Json) → List (CodePoints × PyJson)
  | [] => []
  | (key, value) :: rest => (codePoints key, PyJson.ofJson value) :: ofJsonFields rest

end

mutual

theorem hasLongInt_ofJson (value : Json) : (PyJson.ofJson value).hasLongInt = value.hasLongInt := by
  cases value with
  | arr items =>
      rw [PyJson.ofJson, PyJson.hasLongInt, Json.hasLongInt]
      exact anyLongItem_ofJsonItems items
  | obj fields =>
      rw [PyJson.ofJson, PyJson.hasLongInt, Json.hasLongInt]
      exact anyLongField_ofJsonFields fields
  | _ => simp only [PyJson.ofJson, PyJson.hasLongInt, Json.hasLongInt]

theorem anyLongItem_ofJsonItems (items : List Json) :
    anyLongItem (ofJsonItems items) = Json.anyLongItem items := by
  cases items with
  | nil => rfl
  | cons item rest =>
      rw [ofJsonItems, anyLongItem, Json.anyLongItem, hasLongInt_ofJson item,
        anyLongItem_ofJsonItems rest]

theorem anyLongField_ofJsonFields (fields : JsonObject) :
    anyLongField (ofJsonFields fields) = Json.anyLongField fields := by
  cases fields with
  | nil => rfl
  | cons field rest =>
      rw [ofJsonFields, anyLongField, Json.anyLongField, hasLongInt_ofJson field.2,
        anyLongField_ofJsonFields rest]

end

theorem flatMap_codePoints {write : CodePoint → List Char} {plain : Char → List Char}
    (same : ∀ char, write (.ofChar char) = plain char) (text : String) :
    (codePoints text).flatMap write = text.toList.flatMap plain := by
  rw [codePoints, List.flatMap_map]
  exact List.flatMap_congr fun char _ => same char

theorem mem_codePoints {char : Char} {text : String} :
    CodePoint.ofChar char ∈ codePoints text ↔ char ∈ text.toList :=
  List.mem_map_of_injective CodePoint.ofChar_injective

theorem reprPoints_codePoints (isPrintable : Char → Bool) (text : String) :
    reprPoints isPrintable (codePoints text) = reprString isPrintable text := by
  have same (quote : Char) : (codePoints text).flatMap (reprPoint isPrintable quote) =
      text.toList.flatMap (reprChar isPrintable quote) := by
    apply flatMap_codePoints
    intro char
    rw [reprPoint, CodePoint.toChar?_ofChar]
  have quoted : (List.contains (codePoints text) (.ofChar '\'') &&
      !List.contains (codePoints text) (.ofChar '"')) = true ↔
        '\'' ∈ text.toList ∧ '"' ∉ text.toList := by
    rw [Bool.and_eq_true, Bool.not_eq_true', ← Bool.not_eq_true, List.contains_iff_mem,
      List.contains_iff_mem, mem_codePoints, mem_codePoints]
  simp only [reprPoints, reprString, quoted, same]

mutual

theorem repr_ofJson (isPrintable : Char → Bool) (value : Json) :
    (PyJson.ofJson value).repr isPrintable = value.repr isPrintable := by
  cases value with
  | null => rfl
  | bool value => cases value <;> rfl
  | int value => rfl
  | float value => rfl
  | str value => exact reprPoints_codePoints isPrintable value
  | arr items => simp only [PyJson.ofJson, PyJson.repr, Json.repr, reprPyItems_ofJson]
  | obj fields => simp only [PyJson.ofJson, PyJson.repr, Json.repr, reprPyFields_ofJson]
termination_by structural value

theorem reprPyItems_ofJson (isPrintable : Char → Bool) (items : List Json) :
    reprPyItems isPrintable (ofJsonItems items) = reprItems isPrintable items := by
  cases items with
  | nil => rfl
  | cons item rest =>
      rw [ofJsonItems, reprPyItems, reprItems, repr_ofJson isPrintable item,
        reprPyItems_ofJson isPrintable rest]
termination_by structural items

theorem reprPyFields_ofJson (isPrintable : Char → Bool) (fields : List (String × Json)) :
    reprPyFields isPrintable (ofJsonFields fields) = reprFields isPrintable fields := by
  cases fields with
  | nil => rfl
  | cons field rest =>
      rcases field with ⟨key, value⟩
      rw [ofJsonFields, reprPyFields, reprFields, repr_ofJson isPrintable value,
        reprPyFields_ofJson isPrintable rest, reprPoints_codePoints]
termination_by structural fields

end

theorem text_ofJson (isPrintable : Char → Bool) (value : Json) :
    (PyJson.ofJson value).text isPrintable = codePoints (value.text isPrintable) := by
  cases value with
  | str text => rfl
  | _ => exact congrArg codePoints (repr_ofJson isPrintable _)

theorem writePoints_codePoints (text : String) :
    JsonText.writePoints (codePoints text) = JsonText.writeString text := by
  have same : (codePoints text).flatMap JsonText.escapePoint =
      text.toList.flatMap JsonText.escapeChar := by
    apply flatMap_codePoints
    intro char
    rw [JsonText.escapePoint, CodePoint.toChar?_ofChar]
  rw [JsonText.writePoints, JsonText.writeString, same]

mutual

theorem writePy_ofJson (value : Json) :
    JsonText.writePy (PyJson.ofJson value) = JsonText.write value := by
  cases value with
  | null => rfl
  | bool value => cases value <;> rfl
  | int value => rfl
  | float value => rfl
  | str value => exact writePoints_codePoints value
  | arr items =>
      cases items with
      | nil => rfl
      | cons item rest =>
          have first := writePy_ofJson item
          have others := writePyItems_ofJson rest
          show '[' :: JsonText.writePy (PyJson.ofJson item) ++
            JsonText.writePyItems (ofJsonItems rest) = _
          rw [first, others]
          rfl
  | obj fields =>
      cases fields with
      | nil => rfl
      | cons field rest =>
          rcases field with ⟨key, value⟩
          have first := writePy_ofJson value
          have others := writePyFields_ofJson rest
          show '\x7b' :: JsonText.writePoints (codePoints key) ++ ':' :: ' ' ::
            JsonText.writePy (PyJson.ofJson value) ++ JsonText.writePyFields (ofJsonFields rest) = _
          rw [writePoints_codePoints, first, others]
          rfl
termination_by structural value

theorem writePyItems_ofJson (items : List Json) :
    JsonText.writePyItems (ofJsonItems items) = JsonText.writeItems items := by
  cases items with
  | nil => rfl
  | cons item rest =>
      rw [ofJsonItems, JsonText.writePyItems, JsonText.writeItems, writePy_ofJson item,
        writePyItems_ofJson rest]
termination_by structural items

theorem writePyFields_ofJson (fields : List (String × Json)) :
    JsonText.writePyFields (ofJsonFields fields) = JsonText.writeFields fields := by
  cases fields with
  | nil => rfl
  | cons field rest =>
      rcases field with ⟨key, value⟩
      rw [ofJsonFields, JsonText.writePyFields, JsonText.writeFields, writePoints_codePoints,
        writePy_ofJson value, writePyFields_ofJson rest]
termination_by structural fields

end

end Foundation
