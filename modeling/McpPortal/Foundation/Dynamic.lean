import Mathlib.Data.List.Dedup
import Mathlib.Data.List.Sort
import McpPortal.Foundation.Json

/-!
# Dynamic data

What the built-in constructors make of decoded data whose type nobody has checked:
iteration, sets, and dictionaries built from another value. A failing conversion
raises one of the interpreter's own exceptions, next to those a module defines.
-/

namespace Foundation

universe u v

/-- An exception of a module's own, or one raised by a built-in operation. -/
inductive PyException (Error : Type u) where
  | raised (error : Error)
  | typeError
  | valueError
  | attributeError
  | keyError
  | indexError
  | assertionError
  deriving DecidableEq

/-- `except Error as exc: raise Other(...) from exc`. -/
def PyException.map {Error : Type u} {Other : Type v} (translate : Error → Other) :
    PyException Error → PyException Other
  | .raised error => .raised (translate error)
  | .typeError => .typeError
  | .valueError => .valueError
  | .attributeError => .attributeError
  | .keyError => .keyError
  | .indexError => .indexError
  | .assertionError => .assertionError

namespace Json

/-- The items of `iter(value)`, when the value can be iterated over. -/
def iterate? : Json → Option (List Json)
  | .arr items => some items
  | .obj fields => some ((Dict.keys fields).map .str)
  | .str text => some (text.toList.map fun char => .str (String.singleton char))
  | _ => none

/-- Lists and dictionaries cannot be hashed. -/
def hashable : Json → Bool
  | .arr _ => false
  | .obj _ => false
  | _ => true

end Json

/-- `sorted({item for item in items if items.count(item) > 1})`. -/
def sortedRepeats (items : List String) : List String :=
  (items.dedup.filter fun item => decide (1 < items.count item)).insertionSort (· ≤ ·)

theorem sortedRepeats_eq_nil_iff {items : List String} : sortedRepeats items = [] ↔ items.Nodup := by
  have unsorted : sortedRepeats items = [] ↔ ∀ item ∈ items, ¬1 < items.count item := by
    rw [sortedRepeats, ← List.length_eq_zero_iff, List.length_insertionSort,
      List.length_eq_zero_iff, List.filter_eq_nil_iff]
    simp only [List.mem_dedup, decide_eq_true_eq]
  rw [unsorted, List.nodup_iff_count_le_one]
  refine forall_congr' fun item => ?_
  constructor
  · intro notRepeated
    by_cases present : item ∈ items
    · exact Nat.le_of_not_lt (notRepeated present)
    · rw [List.count_eq_zero_of_not_mem present]
      exact Nat.zero_le 1
  · intro atMostOnce _
    omega

/-- Items with distinct keys are sorted alike, whatever order they came in. -/
theorem insertionSort_of_perm {Item : Type u} {key : Item → String} {left right : List Item}
    (perm : left.Perm right) (unique : (left.map key).Nodup) :
    (left.insertionSort fun first second => key first ≤ key second) =
      right.insertionSort fun first second => key first ≤ key second := by
  have total : Std.Total fun first second : Item => key first ≤ key second :=
    ⟨fun first second => String.le_total (key first) (key second)⟩
  have transitive : IsTrans Item fun first second => key first ≤ key second :=
    ⟨fun _ _ _ first second => String.le_trans first second⟩
  have samePerm := (List.perm_insertionSort (fun first second => key first ≤ key second) left).trans
    (perm.trans (List.perm_insertionSort (fun first second => key first ≤ key second) right).symm)
  apply samePerm.eq_of_pairwise
  · intro first second firstMem secondMem below above
    rw [List.mem_insertionSort] at firstMem secondMem
    exact List.inj_on_of_nodup_map unique firstMem (perm.mem_iff.mpr secondMem)
      (String.le_antisymm below above)
  · exact List.pairwise_insertionSort _ _
  · exact List.pairwise_insertionSort _ _

theorem sortedRepeats_of_perm {left right : List String} (perm : left.Perm right) :
    sortedRepeats left = sortedRepeats right := by
  have sameCounts : (fun item => decide (1 < left.count item)) =
      fun item => decide (1 < right.count item) := by
    funext item
    rw [perm.count_eq]
  have sameRepeats : (left.dedup.filter fun item => decide (1 < left.count item)).Perm
      (right.dedup.filter fun item => decide (1 < right.count item)) := by
    rw [sameCounts]
    exact perm.dedup.filter _
  apply @insertionSort_of_perm _ id _ _ sameRepeats
  rw [List.map_id]
  exact (List.nodup_dedup left).filter _

section Conversions

variable {Error : Type}

def iterate (value : Json) : Except (PyException Error) (List Json) :=
  match value.iterate? with
  | some items => .ok items
  | none => .error .typeError

/-- `str(value)`. -/
def strOf (isPrintable : Char → Bool) (value : Json) : Except (PyException Error) String :=
  if value.hasLongInt then .error .valueError else .ok (value.text isPrintable)

theorem strOf_eq_ok {isPrintable : Char → Bool} {value : Json} {text : String} :
    (strOf isPrintable value : Except (PyException Error) String) = .ok text ↔
      value.hasLongInt = false ∧ value.text isPrintable = text := by
  unfold strOf
  cases value.hasLongInt <;> simp

theorem strOf_eq_error {isPrintable : Char → Bool} {value : Json} {error : PyException Error}
    (failed : strOf isPrintable value = .error error) :
    value.hasLongInt = true ∧ error = .valueError := by
  unfold strOf at failed
  split at failed
  case isTrue long =>
    cases failed
    exact ⟨long, rfl⟩
  case isFalse => cases failed

@[simp]
theorem strOf_str (isPrintable : Char → Bool) (text : String) :
    (strOf isPrintable (.str text) : Except (PyException Error) String) = .ok text := rfl

/-- The strings in `set(value)`. -/
def stringsOfSet (value : Json) : Except (PyException Error) (List String) := do
  let items ← iterate value
  if items.all Json.hashable then return items.filterMap Json.string? else throw .typeError

/-- One item of the sequence a dictionary is built from. A key that is no string
does not belong to a JSON object and is refused. -/
def dictItem (item : Json) : Except (PyException Error) (String × Json) :=
  match item.iterate? with
  | none => .error .typeError
  | some [.str key, value] => .ok (key, value)
  | some [_, _] => .error .typeError
  | some _ => .error .valueError

/-- `dict(value)`. -/
def toDict (value : Json) : Except (PyException Error) JsonObject :=
  match value with
  | .obj fields => .ok fields
  | other => do
      let items ← iterate other
      let pairs ← items.mapM dictItem
      return Dict.ofList pairs

end Conversions

end Foundation
