import McpPortal.Sources.RefWalk

/-!
# Places in a document

A place is named by the keys and positions on the way to it. What a walk leaves at a
place that no reference hides is what it makes of the value there.
-/

namespace McpPortal

open Foundation

/-- One step into a value. -/
inductive PathSegment where
  | field (key : String)
  | item (index : Nat)
  deriving DecidableEq

def child : Json → PathSegment → Option Json
  | .obj fields, .field key => Dict.get? fields key
  | .arr items, .item index => items[index]?
  | _, _ => none

/-- The value at a path. -/
def valueAt : List PathSegment → Json → Option Json
  | [], value => some value
  | segment :: path, value => (child value segment).bind (valueAt path)

def isReference : Json → Bool
  | .obj fields => (refOf? fields).isSome
  | _ => false

/-- The value at a path on which no object is a reference. -/
def standsAt : List PathSegment → Json → Option Json
  | [], value => some value
  | segment :: path, value =>
      if isReference value then none else (child value segment).bind (standsAt path)

/-- The part is the value, or within one of its items or fields. -/
inductive Within (part : Json) : Json → Prop
  | here : Within part part
  | item {items : List Json} {item : Json} (itemMem : item ∈ items) (within : Within part item) :
      Within part (.arr items)
  | field {fields : JsonObject} {key : String} {value : Json} (fieldMem : (key, value) ∈ fields)
      (within : Within part value) : Within part (.obj fields)

theorem Within.trans {inner middle outer : Json} (first : Within inner middle)
    (second : Within middle outer) : Within inner outer := by
  induction second with
  | here => exact first
  | item itemMem _ ih => exact .item itemMem ih
  | field fieldMem _ ih => exact .field fieldMem ih

theorem within_of_child {value inside : Json} {segment : PathSegment}
    (present : child value segment = some inside) : Within inside value := by
  cases value with
  | obj fields =>
      cases segment with
      | field key => exact .field (Dict.mem_of_get? present) .here
      | item index => cases present
  | arr items =>
      cases segment with
      | field key => cases present
      | item index => exact .item (List.mem_of_getElem? present) .here
  | _ => cases segment <;> cases present

/-- What is at a path is within the value. -/
theorem within_of_valueAt {path : List PathSegment} {value inside : Json}
    (present : valueAt path value = some inside) : Within inside value := by
  induction path generalizing value with
  | nil =>
      cases present
      exact .here
  | cons segment path ih =>
      rcases Option.bind_eq_some_iff.mp present with ⟨next, isNext, below⟩
      exact (ih below).trans (within_of_child isNext)

section Walked

variable {related : String → Json → Prop}

theorem WalkedItems.get? {items result : List Json} (walked : WalkedItems related items result)
    {index : Nat} {item : Json} (present : items[index]? = some item) :
    ∃ value, result[index]? = some value ∧ Walked related item value := by
  induction items generalizing index result with
  | nil => cases present
  | cons first rest ih =>
      rcases walked with ⟨value, walkedFirst, others, later, rfl⟩
      cases index with
      | zero =>
          cases present
          exact ⟨value, rfl, walkedFirst⟩
      | succ index => exact ih later present

theorem WalkedFields.get? {fields result : List (String × Json)}
    (walked : WalkedFields related fields result) {key : String} {value : Json}
    (present : Dict.get? fields key = some value) :
    ∃ left, Dict.get? result key = some left ∧ Walked related value left := by
  induction fields generalizing result with
  | nil => cases present
  | cons field rest ih =>
      rcases walked with ⟨left, walkedFirst, others, later, rfl⟩
      rw [Dict.get?_cons] at present
      rw [Dict.get?_cons]
      split at present
      case isTrue same =>
        cases present
        rw [if_pos same]
        exact ⟨left, rfl, walkedFirst⟩
      case isFalse different =>
        rw [if_neg different]
        exact ih later present

theorem WalkedFields.keys {fields result : List (String × Json)}
    (walked : WalkedFields related fields result) : Dict.keys result = Dict.keys fields := by
  induction fields generalizing result with
  | nil =>
      cases walked
      rfl
  | cons field rest ih =>
      rcases walked with ⟨_, _, others, later, rfl⟩
      rw [Dict.keys_cons, Dict.keys_cons, ih later]

theorem Walked.child {node result value : Json} (walked : Walked related node result)
    (noReference : isReference node = false) {segment : PathSegment}
    (present : McpPortal.child node segment = some value) :
    ∃ left, McpPortal.child result segment = some left ∧ Walked related value left := by
  cases node with
  | obj fields =>
      rw [isReference, Option.isSome_eq_false_iff, Option.isNone_iff_eq_none] at noReference
      simp only [Walked, noReference] at walked
      rcases walked with ⟨walkedFields, walked, rfl⟩
      cases segment with
      | field key => exact walked.get? present
      | item index => cases present
  | arr items =>
      rcases walked with ⟨walkedItems, walked, rfl⟩
      cases segment with
      | field key => cases present
      | item index => exact walked.get? present
  | _ => cases segment <;> cases present

/-- A walk leaves at a place what it makes of the value there. -/
theorem Walked.at {path : List PathSegment} {node result value : Json}
    (walked : Walked related node result) (stands : standsAt path node = some value) :
    ∃ left, valueAt path result = some left ∧ Walked related value left := by
  induction path generalizing node result with
  | nil =>
      cases stands
      exact ⟨result, rfl, walked⟩
  | cons segment path ih =>
      rw [standsAt] at stands
      split at stands
      · cases stands
      case isFalse notReference =>
        rcases Option.bind_eq_some_iff.mp stands with ⟨inner, present, below⟩
        rcases walked.child (Bool.eq_false_iff.mpr notReference) present with
          ⟨leftInner, presentLeft, walkedInner⟩
        rcases ih walkedInner below with ⟨left, found, walkedValue⟩
        refine ⟨left, ?_, walkedValue⟩
        rw [valueAt, presentLeft, Option.bind_some, found]

mutual

/-- A value without references is left as it is. -/
theorem Walked.eq_of_refsOf {node result : Json} (walked : Walked related node result)
    (none : refsOf node = []) : result = node := by
  cases node with
  | obj fields =>
      cases isRef : refOf? fields with
      | some ref => simp only [refsOf, isRef, List.cons_ne_nil] at none
      | none =>
          simp only [Walked, refsOf, isRef] at walked none
          rcases walked with ⟨values, walked, rfl⟩
          rw [WalkedFields.eq_of_refsOf walked none]
  | arr items =>
      rcases walked with ⟨values, walked, rfl⟩
      rw [WalkedItems.eq_of_refsOf walked none]
  | _ => exact (Eq.symm walked)

theorem WalkedItems.eq_of_refsOf {items result : List Json}
    (walked : WalkedItems related items result) (none : refsOfItems items = []) :
    result = items := by
  cases items with
  | nil => exact Eq.symm walked
  | cons item rest =>
      rcases List.append_eq_nil_iff.mp none with ⟨first, later⟩
      rcases walked with ⟨value, walkedFirst, others, walkedRest, rfl⟩
      rw [walkedFirst.eq_of_refsOf first, WalkedItems.eq_of_refsOf walkedRest later]

theorem WalkedFields.eq_of_refsOf {fields result : List (String × Json)}
    (walked : WalkedFields related fields result) (none : refsOfFields fields = []) :
    result = fields := by
  cases fields with
  | nil => exact Eq.symm walked
  | cons field rest =>
      rcases List.append_eq_nil_iff.mp none with ⟨first, later⟩
      rcases walked with ⟨value, walkedFirst, others, walkedRest, rfl⟩
      rw [walkedFirst.eq_of_refsOf first, WalkedFields.eq_of_refsOf walkedRest later]

end

end Walked

end McpPortal
