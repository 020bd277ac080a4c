import Mathlib.Data.Nat.Digits.Defs
import McpPortal.Foundation.JsonText

/-!
# Reading inverts writing

The proof follows the two readers. A written string is read one escaped character
at a time. A written value is read with fuel bounded by the length of its text,
and leaves exactly what follows it, provided that what follows cannot extend a
number token.
-/

namespace Foundation

namespace JsonText

theorem hexValue?_digitChar {digit : Nat} (small : digit < 16) :
    hexValue? (Nat.digitChar digit) = some digit := by
  have every : ∀ digit : Fin 16, hexValue? (Nat.digitChar digit) = some digit.val := by decide
  exact every ⟨digit, small⟩

/-- Reading the digits of a number leaves the reader with the digits still missing. -/
theorem readHex_hexDigits (width more value code : Nat) (rest : List Char) :
    readHex (width + more) value (hexDigits width code ++ rest)
      = readHex more (value * 16 ^ width + code % 16 ^ width) rest := by
  induction width generalizing more code rest with
  | zero => simp [hexDigits, Nat.mod_one]
  | succ width ih =>
      have digit := hexValue?_digitChar (Nat.mod_lt code (by decide : 0 < 16))
      have shifted : 16 * (value * 16 ^ width + code / 16 % 16 ^ width) + code % 16
          = value * 16 ^ (width + 1) + code % 16 ^ (width + 1) := by
        rw [pow_succ', Nat.mod_mul]
        ring
      rw [hexDigits, List.append_assoc, Nat.add_right_comm, Nat.add_assoc, ih]
      simp only [List.singleton_append, readHex, digit, shifted]

theorem readHex_four {unit : Nat} (small : unit < 0x10000) (rest : List Char) :
    readHex 4 0 (hexDigits 4 unit ++ rest) = some (unit, rest) := by
  have read := readHex_hexDigits 4 0 0 unit rest
  simpa [readHex, Nat.mod_eq_of_lt small] using read

theorem toNat_not_surrogate (char : Char) :
    ¬(0xd800 ≤ char.toNat ∧ char.toNat ≤ 0xdfff) := by
  rcases char.valid with low | high
  · have bound : char.toNat < 0xd800 := low
    omega
  · have bound : 0xdfff < char.toNat := high.1
    omega

theorem toNat_lt (char : Char) : char.toNat < 0x110000 := by
  rcases char.valid with low | high
  · have bound : char.toNat < 0xd800 := low
    omega
  · exact high.2

theorem readUnicode_unit {char : Char} (basic : char.toNat < 0x10000) (rest : List Char) :
    readUnicode (hexDigits 4 char.toNat ++ rest) = some (char, rest) := by
  have scalar := toNat_not_surrogate char
  have notHigh : ¬(0xd800 ≤ char.toNat ∧ char.toNat ≤ 0xdbff) := by omega
  have notLow : ¬(0xdc00 ≤ char.toNat ∧ char.toNat ≤ 0xdfff) := by omega
  simp only [readUnicode, readHex_four basic, notHigh, notLow, if_false, Char.ofNat_toNat]

theorem readUnicode_pair {high low : Nat} (highRange : 0xd800 ≤ high ∧ high ≤ 0xdbff)
    (lowRange : 0xdc00 ≤ low ∧ low ≤ 0xdfff) (rest : List Char) :
    readUnicode (hexDigits 4 high ++ ('\\' :: 'u' :: (hexDigits 4 low ++ rest)))
      = some (Char.ofNat (0x10000 + (high - 0xd800) * 0x400 + (low - 0xdc00)), rest) := by
  have highSmall : high < 0x10000 := by omega
  have lowSmall : low < 0x10000 := by omega
  simp only [readUnicode, readHex_four highSmall, readHex_four lowSmall, highRange, lowRange,
    and_self, if_true]

theorem readString_escape {escape : List Char} {char : Char} {rest : List Char} (fuel : Nat)
    (decoded : readEscape escape = some (char, rest)) :
    readString (fuel + 1) ('\\' :: escape)
      = (readString fuel rest).map fun read => (char :: read.1, read.2) := by
  have notQuote : ¬ '\\' = '"' := by decide
  simp only [readString, notQuote, if_false, if_true, decoded, Option.bind_eq_bind,
    Option.bind_some]
  cases readString fuel rest with
  | none => simp
  | some read => simp

/-- One escaped character is read as that character. -/
theorem readString_escapeChar (fuel : Nat) (char : Char) (rest : List Char) :
    readString (fuel + 1) (escapeChar char ++ rest)
      = (readString fuel rest).map fun read => (char :: read.1, read.2) := by
  by_cases quote : char = '"'
  · subst char
    exact readString_escape fuel rfl
  by_cases backslash : char = '\\'
  · subst char
    exact readString_escape fuel rfl
  by_cases lineFeed : char = '\n'
  · subst char
    exact readString_escape fuel rfl
  by_cases carriageReturn : char = '\r'
  · subst char
    exact readString_escape fuel rfl
  by_cases tab : char = '\t'
  · subst char
    exact readString_escape fuel rfl
  by_cases formFeed : char = '\x0c'
  · subst char
    exact readString_escape fuel rfl
  by_cases backspace : char = '\x08'
  · subst char
    exact readString_escape fuel rfl
  rw [escapeChar, if_neg quote, if_neg backslash, if_neg lineFeed, if_neg carriageReturn,
    if_neg tab, if_neg formFeed, if_neg backspace]
  by_cases printable : 0x20 ≤ char.toNat ∧ char.toNat ≤ 0x7e
  · have notControl : ¬char.toNat < 0x20 := by omega
    rw [if_pos printable]
    simp only [List.singleton_append, readString, quote, backslash, notControl, if_false]
    cases readString fuel rest with
    | none => simp
    | some read => simp
  rw [if_neg printable]
  by_cases basic : char.toNat < 0x10000
  · rw [if_pos basic, unicodeEscape, List.cons_append]
    apply readString_escape
    rw [List.cons_append, readEscape, readUnicode_unit basic]
  · have bound := toNat_lt char
    have code : 0x10000 + (0xd800 + (char.toNat - 0x10000) / 0x400 - 0xd800) * 0x400 +
        (0xdc00 + (char.toNat - 0x10000) % 0x400 - 0xdc00) = char.toNat := by omega
    rw [if_neg basic]
    simp only [unicodeEscape, List.append_assoc, List.cons_append]
    apply readString_escape
    rw [readEscape, readUnicode_pair (by omega) (by omega), code, Char.ofNat_toNat]

theorem readString_escaped {text : List Char} {fuel : Nat} (enough : text.length < fuel)
    (rest : List Char) :
    readString fuel (text.flatMap escapeChar ++ '"' :: rest) = some (text, rest) := by
  induction text generalizing fuel with
  | nil =>
      rcases Nat.exists_eq_succ_of_ne_zero (Nat.ne_of_gt enough) with ⟨fuel, rfl⟩
      simp [readString]
  | cons char text ih =>
      rcases Nat.exists_eq_succ_of_ne_zero (Nat.ne_zero_of_lt enough) with ⟨fuel, rfl⟩
      have fewer : text.length < fuel := by simpa using enough
      rw [List.flatMap_cons, List.append_assoc, readString_escapeChar, ih fewer]
      rfl

/-- Otherwise the quote after it would be read as the character. -/
theorem escapeChar_ne_nil (char : Char) : escapeChar char ≠ [] := by
  intro empty
  have read := readString_escapeChar 1 char ['"']
  rw [empty] at read
  simp [readString] at read

theorem length_le_length_escaped (text : List Char) :
    text.length ≤ (text.flatMap escapeChar).length := by
  induction text with
  | nil => simp
  | cons char text ih =>
      have nonempty := List.length_pos_iff.mpr (escapeChar_ne_nil char)
      simp only [List.flatMap_cons, List.length_cons, List.length_append]
      omega

/-- A written string is read back by the reader of what follows its opening quote. -/
theorem readString_writeString (text : String) (rest : List Char) :
    ∃ body, writeString text ++ rest = '"' :: body ∧
      readString (body.length + 1) body = some (text.toList, rest) := by
  refine ⟨text.toList.flatMap escapeChar ++ '"' :: rest, ?_, ?_⟩
  · simp [writeString]
  · apply readString_escaped
    have shorter := length_le_length_escaped text.toList
    simp only [List.length_append, List.length_cons]
    omega

/-- What follows a value cannot be taken for more of a number. -/
def EndsToken (rest : List Char) : Prop :=
  ∀ char ∈ rest.head?, isNumberChar char = false

theorem takeWhile_token {token rest : List Char} (token_chars : ∀ char ∈ token, isNumberChar char)
    (ends : EndsToken rest) : (token ++ rest).takeWhile isNumberChar = token := by
  rw [List.takeWhile_append_of_pos token_chars]
  cases rest with
  | nil => simp
  | cons char rest => simp [ends char rfl]

theorem dropWhile_token {token rest : List Char} (token_chars : ∀ char ∈ token, isNumberChar char)
    (ends : EndsToken rest) : (token ++ rest).dropWhile isNumberChar = rest := by
  rw [List.dropWhile_append_of_pos token_chars]
  cases rest with
  | nil => simp
  | cons char rest => simp [ends char rfl]

/-- Decimal digits of a number never start with a needless zero. -/
theorem isNatLiteral_toDigits (value : Nat) : isNatLiteral (Nat.toDigits 10 value) = true := by
  have leading : value = 0 ∨ (Nat.toDigits 10 value).head? ≠ some '0' := by
    induction value using Nat.strong_induction_on with
    | h value ih =>
        rcases Nat.lt_or_ge value 10 with small | large
        · rw [Nat.toDigits_of_lt_base small]
          have every : ∀ value : Fin 10, value.val = 0 ∨ ([value.val.digitChar]).head? ≠ some '0' := by
            decide
          exact every ⟨value, small⟩
        · right
          rw [Nat.toDigits_of_base_le (by decide) large]
          rcases ih (value / 10) (by omega) with zero | nonzero
          · omega
          · rw [List.head?_append_of_ne_nil _ Nat.toDigits_ne_nil]
            exact nonzero
  have digits : (Nat.toDigits 10 value).all Char.isDigit = true := by
    rw [List.all_eq_true]
    intro char present
    exact Nat.isDigit_of_mem_toDigits (by decide) (by decide) present
  have nonempty : (Nat.toDigits 10 value).isEmpty = false := by
    simp [Nat.toDigits_ne_nil]
  simp only [isNatLiteral, nonempty, digits]
  rcases leading with rfl | nonzero
  · rfl
  · simpa using Or.inr nonzero

theorem isNumberChar_of_isDigit {char : Char} (digit : char.isDigit) :
    isNumberChar char = true := by
  simp [isNumberChar, digit]

theorem isNumberChar_of_mem_toDigits {char : Char} {value : Nat}
    (present : char ∈ Nat.toDigits 10 value) : isNumberChar char = true := by
  apply isNumberChar_of_isDigit
  exact Nat.isDigit_of_mem_toDigits (by decide) (by decide) present

theorem head?_toDigits_ne_minus (value : Nat) : (Nat.toDigits 10 value).head? ≠ some '-' := by
  intro minus
  have present := List.mem_of_mem_head? minus
  have digit := Nat.isDigit_of_mem_toDigits (by decide) (by decide) present
  exact absurd digit (by decide)

theorem toList_toString_of_nonneg {value : Int} (nonneg : 0 ≤ value) :
    (toString value).toList = Nat.toDigits 10 value.toNat := by
  rw [Int.toString_eq_repr, Int.repr_eq_if, if_pos nonneg, Nat.toList_repr]

theorem toList_toString_of_neg {value : Int} (neg : ¬0 ≤ value) :
    (toString value).toList = '-' :: Nat.toDigits 10 (-value).toNat := by
  rw [Int.toString_eq_repr, Int.repr_eq_if, if_neg neg, String.toList_append, Nat.toList_repr]
  rfl

/-- A text that the number reader takes in whole, and makes into `value`. -/
structure NumberToken (readFloat : String → PyFloat) (token : List Char) (value : Json) : Prop where
  nonempty : token ≠ []
  chars : ∀ char ∈ token, isNumberChar char = true
  read : readNumber readFloat token = some value

theorem numberToken_int (readFloat : String → PyFloat) (value : Int) :
    NumberToken readFloat (toString value).toList (.int value) := by
  by_cases nonneg : 0 ≤ value
  · rw [toList_toString_of_nonneg nonneg]
    have noSign := head?_toDigits_ne_minus value.toNat
    refine ⟨Nat.toDigits_ne_nil, fun char => isNumberChar_of_mem_toDigits, ?_⟩
    simp only [readNumber, unsigned, readInt, noSign, if_false, isNatLiteral_toDigits, if_true,
      Nat.ofDigitChars_ten_toDigits, Int.toNat_of_nonneg nonneg]
  · rw [toList_toString_of_neg nonneg]
    refine ⟨List.cons_ne_nil _ _, ?_, ?_⟩
    · intro char present
      rcases List.mem_cons.mp present with rfl | present
      · rfl
      · exact isNumberChar_of_mem_toDigits present
    · have opposite : -((-value).toNat : Int) = value := by omega
      simp only [readNumber, unsigned, readInt, List.head?_cons, List.tail_cons, if_true,
        isNatLiteral_toDigits, Nat.ofDigitChars_ten_toDigits, opposite]

mutual

/-- Objects have distinct field names, and floats are number tokens for themselves. -/
def Readable (readFloat : String → PyFloat) : Json → Prop
  | .float value => NumberToken readFloat value.repr.toList (.float value)
  | .arr items => ReadableItems readFloat items
  | .obj fields => (Dict.keys fields).Nodup ∧ ReadableFields readFloat fields
  | _ => True

def ReadableItems (readFloat : String → PyFloat) : List Json → Prop
  | [] => True
  | item :: rest => Readable readFloat item ∧ ReadableItems readFloat rest

def ReadableFields (readFloat : String → PyFloat) : List (String × Json) → Prop
  | [] => True
  | (_, value) :: rest => Readable readFloat value ∧ ReadableFields readFloat rest

end

theorem readableItems_iff {readFloat : String → PyFloat} {items : List Json} :
    ReadableItems readFloat items ↔ ∀ item ∈ items, Readable readFloat item := by
  induction items with
  | nil => simp [ReadableItems]
  | cons item rest ih => simp [ReadableItems, ih]

theorem readableFields_iff {readFloat : String → PyFloat} {fields : JsonObject} :
    ReadableFields readFloat fields ↔ ∀ field ∈ fields, Readable readFloat field.2 := by
  induction fields with
  | nil => simp [ReadableFields]
  | cons field rest ih => simp [ReadableFields, ih]

theorem skipSpace_cons {char : Char} (solid : isSpace char = false) (rest : List Char) :
    skipSpace (char :: rest) = char :: rest := by
  simp [skipSpace, solid]

theorem skipSpace_space (rest : List Char) : skipSpace (' ' :: rest) = skipSpace rest := rfl

section Read

variable {readFloat : String → PyFloat}

theorem readValue_space (fuel : Nat) (rest : List Char) :
    readValue readFloat fuel (' ' :: rest) = readValue readFloat fuel rest := by
  cases fuel with
  | zero => rfl
  | succ fuel => simp only [readValue, skipSpace_space]

theorem readItems_space (fuel : Nat) (rest : List Char) :
    readItems readFloat fuel (' ' :: rest) = readItems readFloat fuel rest := by
  cases fuel with
  | zero => rfl
  | succ fuel => simp only [readItems, readValue_space]

theorem readFields_space (fuel : Nat) (rest : List Char) :
    readFields readFloat fuel (' ' :: rest) = readFields readFloat fuel rest := by
  cases fuel with
  | zero => rfl
  | succ fuel => simp only [readFields, skipSpace_space]

theorem readValue_token {token rest : List Char} {value : Json}
    (written : NumberToken readFloat token value) (ends : EndsToken rest) (fuel : Nat) :
    readValue readFloat (fuel + 1) (token ++ rest) = some (value, rest) := by
  have token_eq := takeWhile_token written.chars ends
  have rest_eq := dropWhile_token written.chars ends
  have first : ∃ char others, token ++ rest = char :: others ∧ isNumberChar char = true := by
    cases token with
    | nil => exact absurd rfl written.nonempty
    | cons char others => exact ⟨char, others ++ rest, rfl, written.chars char List.mem_cons_self⟩
  rcases first with ⟨char, others, text_eq, number⟩
  have solid : isSpace char = false := by
    by_contra space
    simp only [isSpace, Bool.not_eq_false, Bool.or_eq_true, decide_eq_true_eq] at space
    rcases space with ((rfl | rfl) | rfl) | rfl <;> exact absurd number (by decide)
  rw [text_eq] at token_eq rest_eq ⊢
  rw [readValue, skipSpace_cons solid]
  split
  case h_7 =>
    rw [token_eq, rest_eq, written.read]
    rfl
  all_goals
    rename_i shape
    rw [List.cons.injEq] at shape
    rw [shape.1] at number
    exact absurd number (by decide)

theorem NumberToken.head {token : List Char} {value : Json}
    (written : NumberToken readFloat token value) :
    ∃ char rest, token = char :: rest ∧ isSpace char = false ∧ char ≠ ']' := by
  cases token with
  | nil => exact absurd rfl written.nonempty
  | cons char rest =>
      have number := written.chars char List.mem_cons_self
      refine ⟨char, rest, rfl, ?_, ?_⟩
      · by_contra space
        simp only [isSpace, Bool.not_eq_false, Bool.or_eq_true, decide_eq_true_eq] at space
        rcases space with ((rfl | rfl) | rfl) | rfl <;> exact absurd number (by decide)
      · rintro rfl
        exact absurd number (by decide)

/-- A written value starts with neither whitespace nor a closing bracket. -/
theorem write_head {value : Json} (readable : Readable readFloat value) :
    ∃ char rest, write value = char :: rest ∧ isSpace char = false ∧ char ≠ ']' := by
  cases value with
  | null => exact ⟨'n', _, rfl, rfl, by decide⟩
  | bool value =>
      cases value with
      | true => exact ⟨'t', _, rfl, rfl, by decide⟩
      | false => exact ⟨'f', _, rfl, rfl, by decide⟩
  | int value => exact (numberToken_int readFloat value).head
  | float value => exact NumberToken.head readable
  | str value => exact ⟨'"', _, rfl, rfl, by decide⟩
  | arr items =>
      cases items with
      | nil => exact ⟨'[', _, rfl, rfl, by decide⟩
      | cons item rest => exact ⟨'[', _, rfl, rfl, by decide⟩
  | obj fields =>
      cases fields with
      | nil => exact ⟨'\x7b', _, rfl, rfl, by decide⟩
      | cons field rest => exact ⟨'\x7b', _, rfl, rfl, by decide⟩

theorem endsToken_writeItems (items : List Json) (rest : List Char) :
    EndsToken (writeItems items ++ rest) := by
  cases items with
  | nil =>
      rintro _ ⟨⟩
      rfl
  | cons item items =>
      rintro _ ⟨⟩
      rfl

theorem endsToken_writeFields (fields : List (String × Json)) (rest : List Char) :
    EndsToken (writeFields fields ++ rest) := by
  cases fields with
  | nil =>
      rintro _ ⟨⟩
      rfl
  | cons field fields =>
      rintro _ ⟨⟩
      rfl

theorem length_writeItems_pos (items : List Json) : 0 < (writeItems items).length := by
  cases items <;> simp [writeItems]

theorem length_writeFields_pos (fields : List (String × Json)) :
    0 < (writeFields fields).length := by
  cases fields <;> simp [writeFields]

mutual

/-- Fuel for as many steps as there are characters is enough to read a value back. -/
theorem readValue_write (value : Json) (readable : Readable readFloat value) (fuel : Nat)
    (enough : (write value).length ≤ fuel) (rest : List Char) (ends : EndsToken rest) :
    readValue readFloat fuel (write value ++ rest) = some (value, rest) := by
  rcases write_head readable with ⟨char, others, head, solid, _⟩
  have positive : 0 < fuel := by
    rw [head, List.length_cons] at enough
    omega
  rcases Nat.exists_eq_succ_of_ne_zero (Nat.ne_of_gt positive) with ⟨fuel, rfl⟩
  cases value with
  | null => rfl
  | bool value => cases value <;> rfl
  | int value => exact readValue_token (numberToken_int readFloat value) ends fuel
  | float value => exact readValue_token readable ends fuel
  | str value =>
      rcases readString_writeString value rest with ⟨body, text_eq, read⟩
      rw [write, text_eq, readValue, skipSpace_cons rfl]
      simp [read]
  | arr items =>
      cases items with
      | nil => rfl
      | cons item items =>
          rcases write_head readable.1 with ⟨first, _, itemHead, itemSolid, notClosing⟩
          simp only [write, List.length_cons, List.length_append] at enough
          have read := readItems_write item items readable.1 readable.2 fuel (by omega) rest
          simp only [write, List.cons_append, List.append_assoc] at read ⊢
          rw [itemHead, List.cons_append] at read ⊢
          rw [readValue, skipSpace_cons rfl]
          simp only [skipSpace_cons itemSolid, read, Option.bind_eq_bind, Option.bind_some]
          split
          case h_1 closing =>
            rw [List.cons.injEq] at closing
            exact absurd closing.1 notClosing
          case h_2 => rfl
  | obj fields =>
      cases fields with
      | nil => rfl
      | cons field fields =>
          rcases field with ⟨key, value⟩
          simp only [write, List.length_cons, List.length_append] at enough
          have read := readFields_write key value fields readable.2.1 readable.2.2 fuel
            (by omega) rest
          have unique := Dict.ofList_of_nodup readable.1
          simp only [write, writeString, List.cons_append, List.append_assoc] at read ⊢
          rw [readValue, skipSpace_cons rfl]
          simp only [skipSpace_cons (rfl : isSpace '"' = false), read, Option.bind_eq_bind,
            Option.bind_some, unique]
          rfl
termination_by fuel

theorem readItems_write (item : Json) (items : List Json) (readable : Readable readFloat item)
    (readableItems : ReadableItems readFloat items) (fuel : Nat)
    (enough : (write item).length + (writeItems items).length ≤ fuel) (rest : List Char) :
    readItems readFloat fuel (write item ++ writeItems items ++ rest)
      = some (item :: items, rest) := by
  have positive := length_writeItems_pos items
  rcases Nat.exists_eq_succ_of_ne_zero (by omega : fuel ≠ 0) with ⟨fuel, rfl⟩
  rw [List.append_assoc, readItems,
    readValue_write item readable fuel (by omega) _ (endsToken_writeItems items rest)]
  cases items with
  | nil => rfl
  | cons next items =>
      simp only [writeItems, List.length_cons, List.length_append] at enough
      have read := readItems_write next items readableItems.1 readableItems.2 fuel (by omega) rest
      rw [← readItems_space] at read
      simp only [writeItems, List.cons_append, List.append_assoc] at read ⊢
      simp only [skipSpace_cons (rfl : isSpace ',' = false), read, Option.bind_eq_bind,
        Option.bind_some]
      rfl
termination_by fuel

theorem readFields_write (key : String) (value : Json) (fields : List (String × Json))
    (readable : Readable readFloat value) (readableFields : ReadableFields readFloat fields)
    (fuel : Nat) (enough : (writeString key).length + (write value).length + 2 +
      (writeFields fields).length ≤ fuel) (rest : List Char) :
    readFields readFloat fuel
        (writeString key ++ ':' :: ' ' :: write value ++ writeFields fields ++ rest)
      = some ((key, value) :: fields, rest) := by
  rcases Nat.exists_eq_succ_of_ne_zero (by omega : fuel ≠ 0) with ⟨fuel, rfl⟩
  have positive := length_writeFields_pos fields
  have readOne := readValue_write value readable fuel (by omega) _
    (endsToken_writeFields fields rest)
  rw [← readValue_space] at readOne
  rcases readString_writeString key
    (':' :: ' ' :: write value ++ writeFields fields ++ rest) with ⟨body, text_eq, readKey⟩
  simp only [List.cons_append, List.append_assoc] at text_eq readKey ⊢
  rw [text_eq, readFields, skipSpace_cons rfl]
  simp only [readKey, Option.bind_eq_bind, Option.bind_some,
    skipSpace_cons (rfl : isSpace ':' = false), readOne]
  cases fields with
  | nil => simp [writeFields, skipSpace_cons (rfl : isSpace '\x7d' = false)]
  | cons next fields =>
      rcases next with ⟨nextKey, nextValue⟩
      simp only [writeFields, List.length_cons, List.length_append] at enough
      have read := readFields_write nextKey nextValue fields readableFields.1 readableFields.2 fuel
        (by omega) rest
      rw [← readFields_space] at read
      simp only [writeFields, List.cons_append, List.append_assoc] at read ⊢
      simp only [skipSpace_cons (rfl : isSpace ',' = false), read, Option.bind_some]
      simp
termination_by fuel

end

end Read

end JsonText

/-- `json.loads(json.dumps(value))` is the value. -/
theorem loads_dumps {readFloat : String → PyFloat} {value : Json}
    (readable : JsonText.Readable readFloat value) :
    loads readFloat (dumps value) = some value := by
  have read := JsonText.readValue_write value readable ((JsonText.write value).length + 1)
    (Nat.le_succ _) [] (by simp [JsonText.EndsToken])
  rw [List.append_nil] at read
  simp only [loads, dumps, String.toList_ofList, read]
  rfl

end Foundation
