import McpPortal.Foundation.JsonRoundTrip
import McpPortal.Foundation.PyText

/-!
# Answering a query

A selection set names fields of an object, and for those that hold objects the fields of these.
Its answer is cut down to what is selected, list item by list item, in the order of the selection.
-/

namespace Foundation

/-- A selected field, with its arguments as they are written. -/
inductive SelectedField where
  | field (name arguments : String) (selections : List SelectedField)

namespace SelectedField

/-- A field that no selection set follows. -/
abbrev leaf (name : String) : SelectedField :=
  .field name "" []

/-- A field without arguments. -/
abbrev object (name : String) (selections : List SelectedField) : SelectedField :=
  .field name "" selections

mutual

/-- The words of a selected field in a query. -/
def words : SelectedField → List String
  | .field name arguments [] => splitWords (name ++ arguments)
  | .field name arguments (first :: rest) =>
      splitWords (name ++ arguments) ++ "\x7b" :: wordsAll (first :: rest) ++ ["\x7d"]

def wordsAll : List SelectedField → List String
  | [] => []
  | first :: rest => words first ++ wordsAll rest

end

def cutObject (cut : JsonObject → JsonObject) : Json → Json
  | .obj fields => .obj (cut fields)
  | other => other

/-- What is left of a value whose objects are cut down; a list is cut down item by item. -/
def cutDown (cut : JsonObject → JsonObject) : Json → Json
  | .arr items => .arr (items.map (cutObject cut))
  | value => cutObject cut value

mutual

def answer : SelectedField → JsonObject → String × Json
  | .field name _ selections, fields =>
      (name, cutDown (fun own => answerAll selections own) ((Dict.get? fields name).getD .null))

def answerAll : List SelectedField → JsonObject → JsonObject
  | [], _ => []
  | first :: rest, fields => answer first fields :: answerAll rest fields

end

def name : SelectedField → String
  | .field name _ _ => name

mutual

/-- No selection set names a field twice. -/
def Distinct : SelectedField → Prop
  | .field _ _ selections => DistinctAll selections

def DistinctAll : List SelectedField → Prop
  | [] => True
  | first :: rest => Distinct first ∧ first.name ∉ rest.map name ∧ DistinctAll rest

end

theorem keys_answerAll (selections : List SelectedField) (fields : JsonObject) :
    Dict.keys (answerAll selections fields) = selections.map name := by
  induction selections with
  | nil => rfl
  | cons first rest ih =>
      rw [answerAll, Dict.keys_cons, List.map_cons, ih]
      cases first
      rfl

theorem nodup_of_distinctAll {selections : List SelectedField} (distinct : DistinctAll selections) :
    (selections.map name).Nodup := by
  induction selections with
  | nil => exact List.nodup_nil
  | cons first rest ih =>
      rw [List.map_cons, List.nodup_cons]
      exact ⟨distinct.2.1, ih distinct.2.2⟩

section Readable

open JsonText

variable {readFloat : String → PyFloat}

theorem readable_cutDown {cut : JsonObject → JsonObject}
    (cuts : ∀ fields, Readable readFloat (.obj fields) → Readable readFloat (.obj (cut fields)))
    {value : Json} (readable : Readable readFloat value) :
    Readable readFloat (cutDown cut value) := by
  have ofObject : ∀ value, Readable readFloat value → Readable readFloat (cutObject cut value) := by
    intro value readable
    cases value with
    | obj fields => exact cuts fields readable
    | _ => exact readable
  cases value with
  | arr items =>
      apply readableItems_iff.mpr
      intro item itemMem
      rcases List.mem_map.mp itemMem with ⟨own, ownMem, rfl⟩
      exact ofObject own (readableItems_iff.mp readable own ownMem)
  | _ => exact ofObject _ readable

mutual

theorem readable_answer (selected : SelectedField) (distinct : Distinct selected)
    {fields : JsonObject} (readable : Readable readFloat (.obj fields)) :
    Readable readFloat (answer selected fields).2 := by
  cases selected with
  | field name arguments selections =>
      have found : Readable readFloat ((Dict.get? fields name).getD .null) := by
        cases isField : Dict.get? fields name with
        | none => trivial
        | some value => exact readableFields_iff.mp readable.2 _ (Dict.mem_of_get? isField)
      apply readable_cutDown _ found
      intro own ownReadable
      exact readable_answerAll selections distinct ownReadable

/-- An answer of a text can be written as a text. -/
theorem readable_answerAll (selections : List SelectedField) (distinct : DistinctAll selections)
    {fields : JsonObject} (readable : Readable readFloat (.obj fields)) :
    Readable readFloat (.obj (answerAll selections fields)) := by
  refine ⟨keys_answerAll selections fields ▸ nodup_of_distinctAll distinct, ?_⟩
  cases selections with
  | nil => trivial
  | cons first rest =>
      exact ⟨readable_answer first distinct.1 readable,
        (readable_answerAll rest distinct.2.2 readable).2⟩

end

end Readable

end SelectedField

end Foundation
