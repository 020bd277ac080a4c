import Mathlib.Data.List.Perm.Subperm
import McpPortal.Foundation.Json

/-!
# Equality of decoded data

Decoded objects have distinct field names at every level. Such a value is `==` to
itself, and objects that are `==` have the same field names, with values that are.
-/

namespace Foundation

namespace Json

mutual

/-- The field names of every object in the value are distinct. -/
def Distinct : Json → Prop
  | .arr items => DistinctItems items
  | .obj fields => (Dict.keys fields).Nodup ∧ DistinctFields fields
  | _ => True

def DistinctItems : List Json → Prop
  | [] => True
  | item :: rest => Distinct item ∧ DistinctItems rest

def DistinctFields : List (String × Json) → Prop
  | [] => True
  | (_, value) :: rest => Distinct value ∧ DistinctFields rest

end

mutual

theorem pyEq_self (value : Json) (distinct : Distinct value) : pyEq value value = true := by
  cases value with
  | null => rfl
  | bool value => simp [pyEq, number?]
  | int value => simp [pyEq, number?]
  | float value => simp [pyEq, number?]
  | str value => simp [pyEq]
  | arr items =>
      rw [pyEq]
      exact pyEqItems_self items distinct
  | obj fields =>
      rw [pyEq, Bool.and_eq_true, decide_eq_true_eq]
      refine ⟨rfl, pyEqFields_self fields distinct.2 fields ?_⟩
      intro key value fieldMem
      exact (Dict.get?_eq_some_iff distinct.1).mpr fieldMem

theorem pyEqItems_self (items : List Json) (distinct : DistinctItems items) :
    pyEqItems items items = true := by
  cases items with
  | nil => rfl
  | cons item rest =>
      rw [pyEqItems, Bool.and_eq_true]
      exact ⟨pyEq_self item distinct.1, pyEqItems_self rest distinct.2⟩

/-- Fields that are found in an object equal those of the object. -/
theorem pyEqFields_self (fields : List (String × Json)) (distinct : DistinctFields fields)
    (all : JsonObject) (within : ∀ key value, (key, value) ∈ fields →
      Dict.get? all key = some value) : pyEqFields fields all = true := by
  cases fields with
  | nil => rfl
  | cons field rest =>
      rcases field with ⟨key, value⟩
      have found := within key value List.mem_cons_self
      rw [pyEqFields, found, Bool.and_eq_true]
      refine ⟨pyEq_self value distinct.1, pyEqFields_self rest distinct.2 all ?_⟩
      intro otherKey other otherMem
      exact within otherKey other (List.mem_cons_of_mem _ otherMem)

end

theorem pyEqFields_iff {fields all : JsonObject} :
    pyEqFields fields all = true ↔ ∀ key value, (key, value) ∈ fields →
      ∃ other, Dict.get? all key = some other ∧ pyEq value other = true := by
  induction fields with
  | nil => simp [pyEqFields]
  | cons field rest ih =>
      rcases field with ⟨key, value⟩
      rw [pyEqFields, Bool.and_eq_true, ih]
      constructor
      · rintro ⟨first, later⟩ otherKey other otherMem
        rcases List.mem_cons.mp otherMem with same | restMem
        · cases same
          split at first
          case h_1 right found => exact ⟨right, found, first⟩
          case h_2 => cases first
        · exact later otherKey other restMem
      · intro found
        rcases found key value List.mem_cons_self with ⟨right, isRight, same⟩
        refine ⟨by rw [isRight]; exact same, ?_⟩
        intro otherKey other otherMem
        exact found otherKey other (List.mem_cons_of_mem _ otherMem)

section Objects

variable {left right : JsonObject} (same : pyEq (.obj left) (.obj right) = true)
  (distinct : (Dict.keys left).Nodup)
include same distinct

/-- Equal objects have the same field names. -/
theorem keys_perm_of_pyEq : (Dict.keys left).Perm (Dict.keys right) := by
  rw [pyEq, Bool.and_eq_true, decide_eq_true_eq, pyEqFields_iff] at same
  have within : Dict.keys left ⊆ Dict.keys right := by
    intro key keyMem
    rcases List.mem_map.mp keyMem with ⟨⟨_, value⟩, fieldMem, rfl⟩
    rcases same.2 _ value fieldMem with ⟨other, found, _⟩
    exact List.mem_map.mpr ⟨_, Dict.mem_of_get? found, rfl⟩
  apply (List.Nodup.subperm distinct within).perm_of_length_le
  simp only [Dict.keys, List.length_map, same.1]
  exact Nat.le_refl _

/-- A field is in both of two equal objects, with equal values, or in neither. -/
theorem get?_of_pyEq (key : String) :
    (Dict.get? left key = none ∧ Dict.get? right key = none) ∨
      ∃ value other, Dict.get? left key = some value ∧ Dict.get? right key = some other ∧
        pyEq value other = true := by
  have sameKeys := keys_perm_of_pyEq same distinct
  rw [pyEq, Bool.and_eq_true, pyEqFields_iff] at same
  cases found : Dict.get? left key with
  | none =>
      left
      rw [Dict.get?_eq_none_iff] at found ⊢
      exact ⟨rfl, fun present => found (sameKeys.mem_iff.mpr present)⟩
  | some value =>
      right
      rcases same.2 key value (Dict.mem_of_get? found) with ⟨other, isOther, equal⟩
      exact ⟨value, other, rfl, isOther, equal⟩

end Objects

theorem pyEq_str_iff {value : Json} {text : String} :
    pyEq value (.str text) = true ↔ value = .str text := by
  cases value <;> simp [pyEq, number?]

theorem pyEq_arr_iff {value : Json} {items : List Json} :
    pyEq value (.arr items) = true ↔ ∃ lefts, value = .arr lefts ∧ pyEqItems lefts items = true := by
  cases value <;> simp [pyEq, number?]

theorem pyEq_obj_iff {value : Json} {fields : JsonObject} :
    pyEq value (.obj fields) = true ↔
      ∃ lefts, value = .obj lefts ∧ pyEq (.obj lefts) (.obj fields) = true := by
  cases value <;> simp [pyEq, number?]

theorem pyEqItems_iff_forall₂ {lefts rights : List Json} :
    pyEqItems lefts rights = true ↔
      List.Forall₂ (fun left right => pyEq left right = true) lefts rights := by
  induction lefts generalizing rights with
  | nil => cases rights <;> simp [pyEqItems]
  | cons left rest ih => cases rights <;> simp [pyEqItems, ih]

theorem str_pyEq_iff {text : String} {value : Json} :
    pyEq (.str text) value = true ↔ value = .str text := by
  cases value <;> simp [pyEq, eq_comm]

theorem null_pyEq_iff {value : Json} : pyEq .null value = true ↔ value = .null := by
  cases value <;> simp [pyEq]

theorem exists_items_of_pyEq {items : List Json} {value : Json}
    (same : pyEq (.arr items) value = true) :
    ∃ others, value = .arr others ∧
      List.Forall₂ (fun item other => pyEq item other = true) items others := by
  cases value with
  | arr others => exact ⟨others, rfl, pyEqItems_iff_forall₂.mp same⟩
  | _ => cases same

/-- Every field is in both objects, with equal values, or in neither. -/
def SameFields (left right : JsonObject) : Prop :=
  ∀ key, Option.Rel (fun value other => pyEq value other = true)
    (Dict.get? left key) (Dict.get? right key)

/-- What equals an object is an object with the same fields, in any order. -/
theorem exists_fields_of_pyEq {left : JsonObject} {value : Json}
    (same : pyEq (.obj left) value = true) (distinct : (Dict.keys left).Nodup) :
    ∃ right, value = .obj right ∧ SameFields left right := by
  cases value with
  | obj right =>
      refine ⟨right, rfl, ?_⟩
      intro key
      rcases get?_of_pyEq same distinct key with
        ⟨absent, absentToo⟩ | ⟨own, other, found, foundToo, equal⟩
      · rw [absent, absentToo]
        exact .none
      · rw [found, foundToo]
        exact .some equal
  | _ => cases same

section SameFields

variable {left right : JsonObject} (same : SameFields left right) {key : String}
include same

theorem SameFields.exists_get? {value : Json} (found : Dict.get? left key = some value) :
    ∃ other, Dict.get? right key = some other ∧ pyEq value other = true := by
  have related := same key
  rw [found] at related
  cases isOther : Dict.get? right key with
  | none =>
      rw [isOther] at related
      cases related
  | some other =>
      rw [isOther] at related
      cases related with
      | some equal => exact ⟨other, rfl, equal⟩

theorem SameFields.get?_str {text : String} (found : Dict.get? left key = some (.str text)) :
    Dict.get? right key = some (.str text) := by
  rcases same.exists_get? found with ⟨other, isOther, equal⟩
  rw [isOther, str_pyEq_iff.mp equal]

theorem SameFields.get?_null (found : Dict.get? left key = some .null) :
    Dict.get? right key = some .null := by
  rcases same.exists_get? found with ⟨other, isOther, equal⟩
  rw [isOther, null_pyEq_iff.mp equal]

theorem SameFields.get?_none (absent : Dict.get? left key = none) :
    Dict.get? right key = none := by
  have related := same key
  rw [absent] at related
  cases isOther : Dict.get? right key with
  | none => rfl
  | some other =>
      rw [isOther] at related
      cases related

end SameFields

theorem distinct_of_get? {fields : JsonObject} (distinct : Distinct (.obj fields)) {key : String}
    {value : Json} (found : Dict.get? fields key = some value) : Distinct value := by
  have fieldMem := Dict.mem_of_get? found
  have everywhere : DistinctFields fields := distinct.2
  clear distinct found
  induction fields with
  | nil => cases fieldMem
  | cons field rest ih =>
      rcases field with ⟨otherKey, other⟩
      rcases List.mem_cons.mp fieldMem with same | restMem
      · cases same
        exact everywhere.1
      · exact ih restMem everywhere.2

end Json

end Foundation
