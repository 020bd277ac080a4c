import McpPortal.Foundation.PyJson

/-!
# JSON text with lone surrogates

What the interpreter's `json` reads: an escape of a lone surrogate denotes that code point, and the
constants `NaN`, `Infinity` and `-Infinity` are numbers. An object keeps every field of its text,
in order. Reading a text fails on an integer of too many digits wherever it stands, also in a
field that a later one of the same name replaces.
-/

namespace Foundation

/-- The value is true in a condition. -/
def PyJson.truthy : PyJson → Bool
  | .null => false
  | .bool value => value
  | .int value => value ≠ 0
  | .float value => value.value ≠ 0
  | .str value => !value.isEmpty
  | .arr items => !items.isEmpty
  | .obj fields => !fields.isEmpty

/-- What the last field of a name holds. -/
def lastField? (fields : PyJsonObject) (name : String) : Option PyJson :=
  (fields.reverse.find? fun field => field.1 = codePoints name).map (·.2)

namespace JsonText

/-- The rest of a text that begins in this way. -/
def after? (beginning : String) (text : CodePoints) : Option CodePoints :=
  if (codePoints beginning).isPrefixOf text then some (text.drop beginning.length) else none

def skipPoints (text : CodePoints) : CodePoints :=
  text.dropWhile fun point => codePoints " \t\n\r" |>.contains point

/-- The code unit that four hexadecimal digits denote. -/
def readUnit : CodePoints → Option (Nat × CodePoints)
  | first :: second :: third :: fourth :: rest => do
      let digits ← [first, second, third, fourth].mapM fun point =>
        point.toChar?.bind hexValue?
      return (digits.foldl (fun unit digit => 16 * unit + digit) 0, rest)
  | _ => none

/-- What follows `\u`. An escaped low surrogate is combined with a high one before it. -/
def readUnicodePoint (text : CodePoints) : Option (CodePoint × CodePoints) := do
  let (unit, rest) ← readUnit text
  match (after? "\\u" rest).bind readUnit with
  | some (low, afterLow) =>
      if (0xd800 ≤ unit ∧ unit ≤ 0xdbff) ∧ 0xdc00 ≤ low ∧ low ≤ 0xdfff then
        return (← CodePoint.ofNat? (0x10000 + (unit - 0xd800) * 0x400 + (low - 0xdc00)), afterLow)
      else return (← CodePoint.ofNat? unit, rest)
  | none => return (← CodePoint.ofNat? unit, rest)

def escaped : List (Char × Char) :=
  [('"', '"'), ('\\', '\\'), ('/', '/'), ('b', '\x08'), ('f', '\x0c'), ('n', '\n'), ('r', '\r'),
    ('t', '\t')]

/-- What follows a backslash. -/
def readEscapePoint : CodePoints → Option (CodePoint × CodePoints)
  | [] => none
  | mark :: rest =>
      if mark = .ofChar 'u' then readUnicodePoint rest
      else
        (escaped.find? fun escape => mark = .ofChar escape.1).map fun escape =>
          (.ofChar escape.2, rest)

/-- The code points up to the closing quote. -/
def readPoints : Nat → CodePoints → Option (CodePoints × CodePoints)
  | 0, _ => none
  | _ + 1, [] => none
  | fuel + 1, point :: rest =>
      if point = .ofChar '"' then some ([], rest)
      else if point = .ofChar '\\' then do
        let (decoded, rest) ← readEscapePoint rest
        let (others, rest) ← readPoints fuel rest
        return (decoded :: others, rest)
      else if point.val < 0x20 then none
      else do
        let (others, rest) ← readPoints fuel rest
        return (point :: others, rest)

def isNumberPoint (point : CodePoint) : Bool :=
  point.toChar?.any isNumberChar

section Read

variable (readFloat : String → PyFloat)

def readPyNumber (token : List Char) : Option PyJson :=
  if isNatLiteral (unsigned token) then some (.int (readInt token))
  else if isFloatLiteral token then some (.float (readFloat (String.ofList token)))
  else none

/-- The constants of which a value may consist. -/
def constants : List (String × PyJson) :=
  [("null", .null), ("true", .bool true), ("false", .bool false), ("NaN", .float (readFloat "NaN")),
    ("Infinity", .float (readFloat "Infinity")), ("-Infinity", .float (readFloat "-Infinity"))]

/-- A constant or a number. -/
def readScalar (text : CodePoints) : Option (PyJson × CodePoints) :=
  match (constants readFloat).findSome? fun constant =>
      (after? constant.1 text).map fun rest => (constant.2, rest) with
  | some read => some read
  | none => do
      let value ← readPyNumber readFloat ((text.takeWhile isNumberPoint).filterMap (·.toChar?))
      return (value, text.dropWhile isNumberPoint)

mutual

def readPy : Nat → CodePoints → Option (PyJson × CodePoints)
  | 0, _ => none
  | fuel + 1, text =>
      let text := skipPoints text
      match after? "\"" text, after? "[" text, after? "\x7b" text with
      | some rest, _, _ => do
          let (points, rest) ← readPoints (rest.length + 1) rest
          return (.str points, rest)
      | none, some rest, _ =>
          match after? "]" (skipPoints rest) with
          | some rest => some (.arr [], rest)
          | none => do
              let (items, rest) ← readPyItems fuel rest
              return (.arr items, rest)
      | none, none, some rest =>
          match after? "\x7d" (skipPoints rest) with
          | some rest => some (.obj [], rest)
          | none => do
              let (fields, rest) ← readPyFields fuel rest
              return (.obj fields, rest)
      | none, none, none => readScalar readFloat text

/-- The items of a non-empty array, and the closing bracket. -/
def readPyItems : Nat → CodePoints → Option (List PyJson × CodePoints)
  | 0, _ => none
  | fuel + 1, text => do
      let (item, rest) ← readPy fuel text
      let rest := skipPoints rest
      match after? "," rest with
      | some rest => do
          let (items, rest) ← readPyItems fuel rest
          return (item :: items, rest)
      | none => return ([item], ← after? "]" rest)

/-- The fields of a non-empty object, and the closing brace. -/
def readPyFields : Nat → CodePoints → Option (PyJsonObject × CodePoints)
  | 0, _ => none
  | fuel + 1, text => do
      let rest ← after? "\"" (skipPoints text)
      let (name, rest) ← readPoints (rest.length + 1) rest
      let rest ← after? ":" (skipPoints rest)
      let (value, rest) ← readPy fuel rest
      let rest := skipPoints rest
      match after? "," rest with
      | some rest => do
          let (fields, rest) ← readPyFields fuel rest
          return ((name, value) :: fields, rest)
      | none => return ([(name, value)], ← after? "\x7d" rest)

end

/-- The value of a JSON text, with integers of any length. -/
def parse (text : CodePoints) : Option PyJson :=
  match readPy readFloat (text.length + 1) text with
  | some (value, rest) => if (skipPoints rest).isEmpty then some value else none
  | none => none

end Read

end JsonText

/-- `json.loads(text)`, with all fields of its objects; `none` stands for a `ValueError`. -/
def loadsPoints (readFloat : String → PyFloat) (text : CodePoints) : Option PyJson :=
  (JsonText.parse readFloat text).filter fun value => !value.hasLongInt

end Foundation
