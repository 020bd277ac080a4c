import McpPortal.Foundation.JsonText
import McpPortal.Foundation.Percent

/-!
# Reading percent-encoded text

`unquote` turns escapes back into bytes and reads the bytes as UTF-8, `unquotePlus`
reads `+` as a space before that, and `formDecode` takes a query string apart at
`&` and at the first `=` of every part. They undo `quote`, `quotePlus` and
`urlencode`: what is written for a character decodes to its bytes, and no written
text holds a separator.
-/

namespace Foundation

namespace Percent

/-- The byte of three characters that are an escape. -/
def escaped? (char high low : Char) : Option UInt8 :=
  if char = '%' then
    (JsonText.hexValue? high).bind fun upper =>
      (JsonText.hexValue? low).map fun lower => UInt8.ofNat (16 * upper + lower)
  else none

/-- The bytes a text stands for; a percent sign that starts no escape stands for itself. -/
def unescape : List Char → List UInt8
  | char :: high :: low :: rest =>
      match escaped? char high low with
      | some byte => byte :: unescape rest
      | none => String.utf8EncodeChar char ++ unescape (high :: low :: rest)
  | short => short.flatMap String.utf8EncodeChar

/-- `bytes.decode()`; `none` is a `UnicodeDecodeError`. -/
def decodeUtf8 (bytes : List UInt8) : Option String :=
  bytes.toByteArray.utf8Decode?.map fun chars => String.ofList chars.toList

def unquoteChars (text : List Char) : Option String :=
  decodeUtf8 (unescape text)

def plusToSpace (text : List Char) : List Char :=
  text.map fun char => if char = '+' then ' ' else char

def unquotePlusChars (text : List Char) : Option String :=
  unquoteChars (plusToSpace text)

/-- A part of a query string: the name before the first `=`, and the value after it. -/
def decodePair (part : List Char) : Option (String × String) := do
  let name ← unquotePlusChars (part.takeWhile (· ≠ '='))
  let value ← unquotePlusChars ((part.dropWhile (· ≠ '=')).drop 1)
  return (name, value)

/-- The pairs of a query string, where empty parts do not count. -/
def formDecode (query : List Char) : Option (List (String × String)) :=
  ((query.splitOn '&').filter (· ≠ [])).mapM decodePair

theorem escaped?_digits : ∀ byte : UInt8,
    escaped? '%' (Nat.digitChar (byte.toNat / 16)).toUpper
      (Nat.digitChar (byte.toNat % 16)).toUpper = some byte := by
  have digits : ∀ digit : Fin 16,
      JsonText.hexValue? (Nat.digitChar digit).toUpper = some digit.val := by decide
  intro byte
  have bound := byte.toNat_lt
  have high := digits ⟨byte.toNat / 16, by omega⟩
  have low := digits ⟨byte.toNat % 16, by omega⟩
  have whole : 16 * (byte.toNat / 16) + byte.toNat % 16 = byte.toNat := by omega
  simp only [escaped?, if_true, high, low, Option.bind_some, Option.map_some, whole,
    UInt8.ofNat_toNat]

theorem unescape_escapeByte (byte : UInt8) (rest : List Char) :
    unescape (escapeByte byte ++ rest) = byte :: unescape rest := by
  simp only [escapeByte, List.cons_append, List.nil_append, unescape, escaped?_digits]

/-- Any other character stands for its bytes. -/
theorem unescape_plain {char : Char} (plain : char ≠ '%') (rest : List Char) :
    unescape (char :: rest) = String.utf8EncodeChar char ++ unescape rest := by
  rcases rest with _ | ⟨first, _ | ⟨second, rest⟩⟩
  · rfl
  · rfl
  · simp [unescape, escaped?, plain]

theorem unescape_escapes (bytes : List UInt8) (rest : List Char) :
    unescape (bytes.flatMap escapeByte ++ rest) = bytes ++ unescape rest := by
  induction bytes with
  | nil => rfl
  | cons byte bytes ih =>
      rw [List.flatMap_cons, List.append_assoc, unescape_escapeByte, ih, List.cons_append]

theorem unescape_quoteChar (char : Char) (rest : List Char) :
    unescape (quoteChar char ++ rest) = String.utf8EncodeChar char ++ unescape rest := by
  unfold quoteChar
  split
  case isTrue plain =>
    have notPercent : char ≠ '%' := by
      rintro rfl
      cases plain
    rw [List.singleton_append, unescape_plain notPercent]
  case isFalse => rw [unescape_escapes]

theorem unescape_quoteChars (text rest : List Char) :
    unescape (quoteChars text ++ rest) = text.flatMap String.utf8EncodeChar ++ unescape rest := by
  induction text with
  | nil => rfl
  | cons char text ih =>
      have quoted : quoteChars (char :: text) = quoteChar char ++ quoteChars text := rfl
      rw [quoted, List.append_assoc, unescape_quoteChar, ih, List.flatMap_cons, List.append_assoc]

theorem decodeUtf8_encoded (text : List Char) :
    decodeUtf8 (text.flatMap String.utf8EncodeChar) = some (String.ofList text) := by
  have encoded : (text.flatMap String.utf8EncodeChar).toByteArray = text.utf8Encode := rfl
  rw [decodeUtf8, encoded, List.utf8Decode?_utf8Encode, Option.map_some]

theorem unquoteChars_quoteChars (text : List Char) :
    unquoteChars (quoteChars text) = some (String.ofList text) := by
  have bytes := unescape_quoteChars text []
  rw [List.append_nil, show unescape [] = [] from rfl, List.append_nil] at bytes
  rw [unquoteChars, bytes, decodeUtf8_encoded]

theorem plus_notMem_quoteChar (char : Char) : '+' ∉ quoteChar char := by
  have notMem : '+' ∉ quoteChars [char] := notMem_quoteChars (by decide) (by decide)
  rw [quoteChars, List.flatMap_singleton] at notMem
  exact notMem

theorem plusToSpace_of_notMem {text : List Char} (absent : '+' ∉ text) :
    plusToSpace text = text := by
  have kept : ∀ char ∈ text, (if char = '+' then ' ' else char) = char := by
    intro char present
    apply if_neg
    rintro rfl
    exact absent present
  rw [plusToSpace, List.map_congr_left kept, List.map_id']

/-- Once the plus signs are spaces, the encoded text stands for the bytes of the text. -/
theorem unescape_quotePlusChars (text : List Char) :
    unescape (plusToSpace (quotePlusChars text)) = text.flatMap String.utf8EncodeChar := by
  induction text with
  | nil => rfl
  | cons char text ih =>
      have split : plusToSpace (quotePlusChars (char :: text)) =
          plusToSpace (if char = ' ' then ['+'] else quoteChar char) ++
            plusToSpace (quotePlusChars text) := by
        rw [quotePlusChars, List.flatMap_cons, plusToSpace, List.map_append]
        rfl
      rw [split, List.flatMap_cons]
      by_cases isSpace : char = ' '
      · subst char
        have spaced : plusToSpace ['+'] = [' '] := rfl
        rw [if_pos rfl, spaced, List.singleton_append, unescape_plain (by decide), ih]
      · rw [if_neg isSpace, plusToSpace_of_notMem (plus_notMem_quoteChar char),
          unescape_quoteChar, ih]

theorem unquotePlusChars_quotePlusChars (text : List Char) :
    unquotePlusChars (quotePlusChars text) = some (String.ofList text) := by
  rw [unquotePlusChars, unquoteChars, unescape_quotePlusChars, decodeUtf8_encoded]

/-- None of the characters that structure a query string survives encoding. -/
theorem notMem_quotePlusChars {text : List Char} {char : Char} (notPercent : char ≠ '%')
    (notPlus : char ≠ '+') (reserved : unreserved char = false) : char ∉ quotePlusChars text := by
  intro present
  rcases List.mem_flatMap.mp present with ⟨source, _, quoted⟩
  split at quoted
  · exact notPlus (List.mem_singleton.mp quoted)
  · have notMem : char ∉ quoteChars [source] := notMem_quoteChars notPercent reserved
    rw [quoteChars, List.flatMap_singleton] at notMem
    exact notMem quoted

/-- The part of a query string for one pair. -/
def encodePair (pair : String × String) : List Char :=
  quotePlusChars pair.1.toList ++ '=' :: quotePlusChars pair.2.toList

theorem toList_urlencode (pairs : List (String × String)) :
    (urlencode pairs).toList = ['&'].intercalate (pairs.map encodePair) := by
  have encoded : (pairs.map fun pair => quotePlus pair.1 ++ "=" ++ quotePlus pair.2).map
      String.toList = pairs.map encodePair := by
    rw [List.map_map]
    apply List.map_congr_left
    intro pair _
    simp [encodePair, quotePlus]
  rw [urlencode, String.toList_intercalate, encoded]
  rfl

theorem notMem_encodePair {pair : String × String} {char : Char} (notPercent : char ≠ '%')
    (notPlus : char ≠ '+') (notEquals : char ≠ '=') (reserved : unreserved char = false) :
    char ∉ encodePair pair := by
  rw [encodePair, List.mem_append, List.mem_cons]
  rintro (inName | isEquals | inValue)
  · exact notMem_quotePlusChars notPercent notPlus reserved inName
  · exact notEquals isEquals
  · exact notMem_quotePlusChars notPercent notPlus reserved inValue

theorem notMem_urlencode {pairs : List (String × String)} {char : Char} (notPercent : char ≠ '%')
    (notPlus : char ≠ '+') (notEquals : char ≠ '=') (notAmpersand : char ≠ '&')
    (reserved : unreserved char = false) : char ∉ (urlencode pairs).toList := by
  rw [toList_urlencode]
  induction pairs with
  | nil => exact List.not_mem_nil
  | cons pair rest ih =>
      have notFirst : char ∉ encodePair pair := notMem_encodePair notPercent notPlus notEquals reserved
      cases rest with
      | nil => simpa using notFirst
      | cons second others =>
          rw [List.map_cons, List.map_cons, List.intercalate_cons_cons]
          simp only [List.mem_append, List.mem_singleton, not_or]
          exact ⟨⟨notFirst, notAmpersand⟩, ih⟩

theorem decodePair_encodePair (pair : String × String) : decodePair (encodePair pair) = some pair := by
  have beforeEquals : ∀ char ∈ quotePlusChars pair.1.toList, decide (char ≠ '=') = true := by
    intro char present
    rw [decide_eq_true_eq]
    rintro rfl
    exact notMem_quotePlusChars (by decide) (by decide) (by decide) present
  have name : (encodePair pair).takeWhile (· ≠ '=') = quotePlusChars pair.1.toList := by
    rw [encodePair, List.takeWhile_append_of_pos beforeEquals]
    simp
  have value : ((encodePair pair).dropWhile (· ≠ '=')).drop 1 = quotePlusChars pair.2.toList := by
    rw [encodePair, List.dropWhile_append_of_pos beforeEquals]
    simp
  rw [decodePair, name, value, unquotePlusChars_quotePlusChars, unquotePlusChars_quotePlusChars]
  simp

theorem mapM_decodePair (pairs : List (String × String)) :
    (pairs.map encodePair).mapM decodePair = some pairs := by
  induction pairs with
  | nil => rfl
  | cons pair rest ih =>
      rw [List.map_cons, List.mapM_cons, decodePair_encodePair, ih]
      rfl

/-- Decoding a query string gives the pairs that were encoded. -/
theorem formDecode_urlencode (pairs : List (String × String)) :
    formDecode (urlencode pairs).toList = some pairs := by
  have parts : ((urlencode pairs).toList.splitOn '&').filter (· ≠ []) = pairs.map encodePair := by
    rw [toList_urlencode]
    rcases pairs with _ | ⟨pair, rest⟩
    · rfl
    · rw [List.splitOn_intercalate]
      · rw [List.filter_eq_self]
        intro part partMem
        rcases List.mem_map.mp partMem with ⟨source, _, rfl⟩
        simp [encodePair]
      · intro part partMem
        rcases List.mem_map.mp partMem with ⟨source, _, rfl⟩
        exact notMem_encodePair (by decide) (by decide) (by decide) (by decide)
      · simp
  rw [formDecode, parts, mapM_decodePair]

end Percent

end Foundation
