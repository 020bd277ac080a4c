import McpPortal.Foundation.JsonRoundTrip

/-!
# Indented JSON text

`dumpsIndented` is the interpreter's `json.dumps` with an indentation of two spaces: every item
and every field on a line of its own, and empty lists and objects closed at once. Readers skip
the line breaks, so reading inverts writing as it does without them.
-/

namespace Foundation

namespace JsonText

/-- The line break before an item of a depth. -/
def lineBreak (depth : Nat) : List Char :=
  '\n' :: List.replicate (2 * depth) ' '

mutual

def writeIndented (depth : Nat) : Json → List Char
  | .arr (item :: rest) =>
      '[' :: lineBreak (depth + 1) ++ writeIndented (depth + 1) item ++
        writeIndentedItems depth rest
  | .obj ((key, value) :: rest) =>
      '\x7b' :: lineBreak (depth + 1) ++ writeString key ++ ':' :: ' ' ::
        writeIndented (depth + 1) value ++ writeIndentedFields depth rest
  | .arr [] => ['[', ']']
  | .obj [] => ['\x7b', '\x7d']
  | .null => write .null
  | .bool value => write (.bool value)
  | .int value => write (.int value)
  | .float value => write (.float value)
  | .str value => write (.str value)

def writeIndentedItems (depth : Nat) : List Json → List Char
  | [] => lineBreak depth ++ [']']
  | item :: rest =>
      ',' :: lineBreak (depth + 1) ++ writeIndented (depth + 1) item ++
        writeIndentedItems depth rest

def writeIndentedFields (depth : Nat) : List (String × Json) → List Char
  | [] => lineBreak depth ++ ['\x7d']
  | (key, value) :: rest =>
      ',' :: lineBreak (depth + 1) ++ writeString key ++ ':' :: ' ' ::
        writeIndented (depth + 1) value ++ writeIndentedFields depth rest

end

end JsonText

/-- `json.dumps(value, indent=2)`. -/
def dumpsIndented (value : Json) : String :=
  String.ofList (JsonText.writeIndented 0 value)

namespace JsonText

theorem skipSpace_lineBreak (depth : Nat) (rest : List Char) :
    skipSpace (lineBreak depth ++ rest) = skipSpace rest := by
  have spaces : ∀ count, skipSpace (List.replicate count ' ' ++ rest) = skipSpace rest := by
    intro count
    induction count with
    | zero => rfl
    | succ count ih => exact ih
  exact spaces (2 * depth)

section Read

variable {readFloat : String → PyFloat}

theorem readValue_lineBreak (depth fuel : Nat) (rest : List Char) :
    readValue readFloat fuel (lineBreak depth ++ rest) = readValue readFloat fuel rest := by
  cases fuel with
  | zero => rfl
  | succ fuel => simp only [readValue, skipSpace_lineBreak]

theorem readItems_lineBreak (depth fuel : Nat) (rest : List Char) :
    readItems readFloat fuel (lineBreak depth ++ rest) = readItems readFloat fuel rest := by
  cases fuel with
  | zero => rfl
  | succ fuel => simp only [readItems, readValue_lineBreak]

theorem readFields_lineBreak (depth fuel : Nat) (rest : List Char) :
    readFields readFloat fuel (lineBreak depth ++ rest) = readFields readFloat fuel rest := by
  cases fuel with
  | zero => rfl
  | succ fuel => simp only [readFields, skipSpace_lineBreak]

/-- Indentation does not change how a value starts. -/
theorem writeIndented_head (depth : Nat) {value : Json} (readable : Readable readFloat value) :
    ∃ char rest, writeIndented depth value = char :: rest ∧ isSpace char = false ∧ char ≠ ']' := by
  cases value with
  | arr items =>
      cases items with
      | nil => exact ⟨'[', _, rfl, rfl, by decide⟩
      | cons item rest => exact ⟨'[', _, rfl, rfl, by decide⟩
  | obj fields =>
      cases fields with
      | nil => exact ⟨'\x7b', _, rfl, rfl, by decide⟩
      | cons field rest => exact ⟨'\x7b', _, rfl, rfl, by decide⟩
  | null => exact write_head readable
  | bool value => exact write_head readable
  | int value => exact write_head readable
  | float value => exact write_head readable
  | str value => exact write_head readable

theorem endsToken_lineBreak (depth : Nat) (rest : List Char) :
    EndsToken (lineBreak depth ++ rest) := by
  rintro _ ⟨⟩
  rfl

theorem endsToken_writeIndentedItems (depth : Nat) (items : List Json) (rest : List Char) :
    EndsToken (writeIndentedItems depth items ++ rest) := by
  cases items with
  | nil =>
      rw [writeIndentedItems, List.append_assoc]
      exact endsToken_lineBreak depth _
  | cons item items =>
      rintro _ ⟨⟩
      rfl

theorem endsToken_writeIndentedFields (depth : Nat) (fields : List (String × Json))
    (rest : List Char) : EndsToken (writeIndentedFields depth fields ++ rest) := by
  cases fields with
  | nil =>
      rw [writeIndentedFields, List.append_assoc]
      exact endsToken_lineBreak depth _
  | cons field fields =>
      rintro _ ⟨⟩
      rfl

theorem length_writeIndentedItems_pos (depth : Nat) (items : List Json) :
    0 < (writeIndentedItems depth items).length := by
  cases items <;> simp [writeIndentedItems]

theorem length_writeIndentedFields_pos (depth : Nat) (fields : List (String × Json)) :
    0 < (writeIndentedFields depth fields).length := by
  cases fields <;> simp [writeIndentedFields]

mutual

/-- Fuel for as many steps as there are characters is enough, whatever the depth. -/
theorem readValue_writeIndented (value : Json) (readable : Readable readFloat value)
    (depth fuel : Nat) (enough : (writeIndented depth value).length ≤ fuel) (rest : List Char)
    (ends : EndsToken rest) :
    readValue readFloat fuel (writeIndented depth value ++ rest) = some (value, rest) := by
  rcases writeIndented_head depth readable with ⟨char, others, head, _⟩
  have positive : fuel ≠ 0 := by
    rw [head, List.length_cons] at enough
    omega
  rcases Nat.exists_eq_succ_of_ne_zero positive with ⟨fuel, rfl⟩
  cases value with
  | null => exact readValue_write .null readable _ enough rest ends
  | bool value => exact readValue_write (.bool value) readable _ enough rest ends
  | int value => exact readValue_write (.int value) readable _ enough rest ends
  | float value => exact readValue_write (.float value) readable _ enough rest ends
  | str value => exact readValue_write (.str value) readable _ enough rest ends
  | arr items =>
      cases items with
      | nil => rfl
      | cons item items =>
          rcases writeIndented_head (depth + 1) readable.1 with
            ⟨first, _, itemHead, itemSolid, notClosing⟩
          simp only [writeIndented, List.length_cons, List.length_append] at enough
          have read := readItems_writeIndented item items readable.1 readable.2 depth fuel
            (by omega) rest
          simp only [writeIndented, List.cons_append, List.append_assoc] at read ⊢
          rw [readValue, skipSpace_cons rfl]
          simp only [readItems_lineBreak, read, skipSpace_lineBreak]
          rw [itemHead, List.cons_append, skipSpace_cons itemSolid]
          split
          case h_1 closing =>
            rw [List.cons.injEq] at closing
            exact absurd closing.1 notClosing
          case h_2 => rfl
  | obj fields =>
      cases fields with
      | nil => rfl
      | cons field fields =>
          rcases field with ⟨key, value⟩
          simp only [writeIndented, List.length_cons, List.length_append] at enough
          have read := readFields_writeIndented key value fields readable.2.1 readable.2.2 depth
            fuel (by omega) rest
          have unique := Dict.ofList_of_nodup readable.1
          simp only [writeIndented, List.cons_append, List.append_assoc] at read ⊢
          rw [readValue, skipSpace_cons rfl]
          simp only [readFields_lineBreak, read, skipSpace_lineBreak]
          simp only [writeString, List.cons_append, skipSpace_cons (rfl : isSpace '"' = false),
            Option.bind_eq_bind, Option.bind_some, unique]
          rfl
termination_by fuel

theorem readItems_writeIndented (item : Json) (items : List Json)
    (readable : Readable readFloat item) (readableItems : ReadableItems readFloat items)
    (depth fuel : Nat) (enough : (writeIndented (depth + 1) item).length +
      (writeIndentedItems depth items).length ≤ fuel) (rest : List Char) :
    readItems readFloat fuel
        (writeIndented (depth + 1) item ++ writeIndentedItems depth items ++ rest)
      = some (item :: items, rest) := by
  have positive := length_writeIndentedItems_pos depth items
  rcases Nat.exists_eq_succ_of_ne_zero (by omega : fuel ≠ 0) with ⟨fuel, rfl⟩
  rw [List.append_assoc, readItems,
    readValue_writeIndented item readable (depth + 1) fuel (by omega) _
      (endsToken_writeIndentedItems depth items rest)]
  cases items with
  | nil =>
      simp only [writeIndentedItems, List.append_assoc, Option.bind_eq_bind, Option.bind_some,
        skipSpace_lineBreak]
      rfl
  | cons next items =>
      simp only [writeIndentedItems, List.length_cons, List.length_append] at enough
      have read := readItems_writeIndented next items readableItems.1 readableItems.2 depth fuel
        (by omega) rest
      rw [List.append_assoc] at read
      simp only [writeIndentedItems, List.cons_append, List.append_assoc,
        skipSpace_cons (rfl : isSpace ',' = false), readItems_lineBreak, read,
        Option.bind_eq_bind, Option.bind_some]
      rfl
termination_by fuel

theorem readFields_writeIndented (key : String) (value : Json) (fields : List (String × Json))
    (readable : Readable readFloat value) (readableFields : ReadableFields readFloat fields)
    (depth fuel : Nat) (enough : (writeString key).length +
      (writeIndented (depth + 1) value).length + 2 +
        (writeIndentedFields depth fields).length ≤ fuel) (rest : List Char) :
    readFields readFloat fuel
        (writeString key ++ ':' :: ' ' :: writeIndented (depth + 1) value ++
          writeIndentedFields depth fields ++ rest)
      = some ((key, value) :: fields, rest) := by
  rcases Nat.exists_eq_succ_of_ne_zero (by omega : fuel ≠ 0) with ⟨fuel, rfl⟩
  have positive := length_writeIndentedFields_pos depth fields
  have readOne := readValue_writeIndented value readable (depth + 1) fuel (by omega) _
    (endsToken_writeIndentedFields depth fields rest)
  rw [← readValue_space] at readOne
  rcases readString_writeString key
    (':' :: ' ' :: writeIndented (depth + 1) value ++ writeIndentedFields depth fields ++ rest)
    with ⟨body, text_eq, readKey⟩
  simp only [List.cons_append, List.append_assoc] at text_eq readKey ⊢
  rw [text_eq, readFields, skipSpace_cons rfl]
  simp only [readKey, Option.bind_eq_bind, Option.bind_some,
    skipSpace_cons (rfl : isSpace ':' = false), readOne]
  cases fields with
  | nil =>
      simp only [writeIndentedFields, List.append_assoc, skipSpace_lineBreak]
      simp [skipSpace_cons (rfl : isSpace '\x7d' = false)]
  | cons next fields =>
      rcases next with ⟨nextKey, nextValue⟩
      simp only [writeIndentedFields, List.length_cons, List.length_append] at enough
      have read := readFields_writeIndented nextKey nextValue fields readableFields.1
        readableFields.2 depth fuel (by omega) rest
      simp only [List.append_assoc, List.cons_append] at read
      simp only [writeIndentedFields, List.cons_append, List.append_assoc,
        skipSpace_cons (rfl : isSpace ',' = false), readFields_lineBreak, read, Option.bind_some]
      simp
termination_by fuel

end

end Read

end JsonText

/-- `json.loads(json.dumps(value, indent=2) + "\n")` is the value. -/
theorem loads_dumpsIndented {readFloat : String → PyFloat} {value : Json}
    (readable : JsonText.Readable readFloat value) :
    loads readFloat (dumpsIndented value ++ "\n") = some value := by
  have isText : (dumpsIndented value ++ "\n").toList = JsonText.writeIndented 0 value ++ ['\n'] := by
    simp [dumpsIndented]
  have read := JsonText.readValue_writeIndented value readable 0
    ((JsonText.writeIndented 0 value ++ ['\n']).length + 1) (by simp; omega) ['\n'] (by
      rintro _ ⟨⟩
      rfl)
  simp only [loads, isText, read]
  rfl

end Foundation
