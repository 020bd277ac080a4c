import McpPortal.Foundation.Dynamic
import McpPortal.Foundation.Fallible
import McpPortal.Foundation.JsonEq

/-!
# Dictionaries with keys of any type

A list or a dictionary cannot be hashed; every other value can be a dictionary's key.
Two such values are the same key when they are `==`, so `1`, `1.0` and `True` are one
key. A key is kept in the spelling it was first assigned with.
-/

namespace Foundation

/-- What the hash and the equality of a key depend on. -/
inductive HashKey where
  | none
  | number (value : Rat)
  | text (value : String)
  deriving DecidableEq

namespace Json

def hashKey? : Json → Option HashKey
  | .null => some .none
  | .str text => some (.text text)
  | .arr _ => none
  | .obj _ => none
  | value => value.number?.map .number

theorem hashable_iff {value : Json} : value.hashable = true ↔ ∃ key, value.hashKey? = some key := by
  cases value <;> simp [hashable, hashKey?, number?]

/-- Equal values are the same key, or none. -/
theorem hashKey?_of_pyEq {left right : Json} (same : pyEq left right = true) :
    left.hashKey? = right.hashKey? := by
  cases right with
  | str text => rw [pyEq_str_iff.mp same]
  | arr items =>
      rcases pyEq_arr_iff.mp same with ⟨lefts, rfl, _⟩
      rfl
  | obj fields =>
      rcases pyEq_obj_iff.mp same with ⟨lefts, rfl, _⟩
      rfl
  | _ => cases left <;> simp_all [pyEq, hashKey?, number?]

end Json

/-- A value that can be a key. -/
structure DictKey where
  value : Json
  key : HashKey
  hashes : value.hashKey? = some key

namespace DictKey

def ofText (text : String) : DictKey where
  value := .str text
  key := .text text
  hashes := rfl

@[simp]
theorem key_ofText (text : String) : (ofText text).key = .text text := rfl

/-- A number is no text. -/
theorem key_ne_text {key : DictKey} (long : key.value.hasLongInt = true) (text : String) :
    key.key ≠ .text text := by
  rcases key with ⟨value, key, hashes⟩
  cases value with
  | int value =>
      cases hashes
      exact HashKey.noConfusion
  | arr items => cases hashes
  | obj fields => cases hashes
  | _ => cases long

end DictKey

/-- A dictionary by what its keys are the same by, with the keys as they were assigned. -/
abbrev PyDict (Value : Type) := List (HashKey × (DictKey × Value))

namespace PyDict

variable {Value : Type}

/-- `dict[key] = value`. -/
def assign (entries : PyDict Value) (key : DictKey) (value : Value) : PyDict Value :=
  match Dict.get? entries key.key with
  | some (spelling, _) => Dict.insert entries key.key (spelling, value)
  | none => Dict.insert entries key.key (key, value)

/-- Assignments one after another. -/
def assignAll (entries : PyDict Value) (assignments : List (DictKey × Value)) : PyDict Value :=
  assignments.foldl (fun entries assignment => assign entries assignment.1 assignment.2) entries

/-- The items of the dictionary. -/
def items (entries : PyDict Value) : List (DictKey × Value) :=
  entries.map (·.2)

/-- `list(dict)`. -/
def keys (entries : PyDict Value) : List DictKey :=
  entries.map (·.2.1)

/-- The entries are found by distinct keys, which are those of their spellings. -/
structure Spelled (entries : PyDict Value) : Prop where
  distinct : (Dict.keys entries).Nodup
  spelled : ∀ entry ∈ entries, entry.2.1.key = entry.1

theorem Spelled.insert {entries : PyDict Value} (own : Spelled entries) {key spelling : DictKey}
    (same : spelling.key = key.key) (value : Value) :
    Spelled (Dict.insert entries key.key (spelling, value)) where
  distinct := Dict.nodup_keys_insert key.key (spelling, value) own.distinct
  spelled := by
    intro entry entryMem
    rcases Dict.mem_insert_cases entryMem with rfl | present
    · exact same
    · exact own.spelled entry present

theorem Spelled.assign {entries : PyDict Value} (own : Spelled entries) (key : DictKey)
    (value : Value) : Spelled (assign entries key value) := by
  unfold PyDict.assign
  split
  case h_1 spelling _ found => exact own.insert (own.spelled _ (Dict.mem_of_get? found)) value
  case h_2 => exact own.insert rfl value

theorem spelled_assignAll (assignments : List (DictKey × Value)) {entries : PyDict Value}
    (own : Spelled entries) : Spelled (assignAll entries assignments) := by
  induction assignments generalizing entries with
  | nil => exact own
  | cons assignment rest ih => exact ih (own.assign assignment.1 assignment.2)

theorem Spelled.nodup_keys {entries : PyDict Value} (own : Spelled entries) :
    (entries.keys.map (·.key)).Nodup := by
  have sameKeys : entries.keys.map (·.key) = Dict.keys entries := by
    rw [keys, List.map_map, Dict.keys]
    exact List.map_congr_left own.spelled
  rw [sameKeys]
  exact own.distinct

end PyDict

/-- The order of two texts, or of two numbers. -/
def HashKey.before : HashKey → HashKey → Bool
  | .text left, .text right => left ≤ right
  | .number left, .number right => left ≤ right
  | _, _ => false

def HashKey.isText : HashKey → Bool
  | .text _ => true
  | _ => false

def HashKey.isNumber : HashKey → Bool
  | .number _ => true
  | _ => false

/-- Texts can be ordered and numbers can; a single value needs no order. -/
def HashKey.sortable (keys : List HashKey) : Bool :=
  keys.length ≤ 1 || keys.all isText || keys.all isNumber

section Conversions

variable {Error : Type}

/-- `hash(value)`. -/
def hashed (value : Json) : Except (PyException Error) DictKey :=
  match hashes : value.hashKey? with
  | some key => .ok { value, key, hashes }
  | none => .error .typeError

/-- `sorted(items)` of distinct hashable items. -/
def sortedItems {Item : Type} (key : Item → HashKey) (items : List Item) :
    Except (PyException Error) (List Item) :=
  if HashKey.sortable (items.map key) then
    .ok (items.insertionSort fun left right => (key left).before (key right))
  else .error .typeError

/-- One item of the sequence a dictionary is built from. -/
def pairOf (item : Json) : Except (PyException Error) (DictKey × Json) :=
  match item.iterate? with
  | none => .error .typeError
  | some [key, value] => do
      let key ← hashed key
      return (key, value)
  | some _ => .error .valueError

/-- `dict(value)`. -/
def dictOf (value : Json) : Except (PyException Error) (PyDict Json) :=
  match value with
  | .obj fields => .ok (fields.map fun field => (.text field.1, .ofText field.1, field.2))
  | other => do
      let items ← iterate other
      let pairs ← items.mapM pairOf
      return PyDict.assignAll [] pairs

variable {value : Json} {error : PyException Error}

theorem hashed_of_some {key : HashKey} (hashes : value.hashKey? = some key) :
    hashed value = (.ok ⟨value, key, hashes⟩ : Except (PyException Error) DictKey) := by
  unfold hashed
  split
  case h_1 other _ =>
    cases hashes.symm.trans ‹value.hashKey? = some other›
    rfl
  case h_2 unhashable => cases hashes.symm.trans unhashable

theorem hashed_of_none (unhashable : value.hashKey? = none) :
    hashed value = (.error .typeError : Except (PyException Error) DictKey) := by
  unfold hashed
  split
  case h_1 key _ => cases unhashable.symm.trans ‹value.hashKey? = some key›
  case h_2 => rfl

theorem hashed_eq_error (failed : hashed value = .error error) : error = .typeError := by
  cases hashes : value.hashKey? with
  | none =>
      rw [hashed_of_none hashes] at failed
      cases failed
      rfl
  | some key =>
      rw [hashed_of_some hashes] at failed
      cases failed

theorem exists_hashed_iff :
    (∃ key, hashed value = (.ok key : Except (PyException Error) DictKey)) ↔
      value.hashable = true := by
  rw [Json.hashable_iff]
  cases hashes : value.hashKey? with
  | none => simp [hashed_of_none hashes]
  | some key => simp [hashed_of_some hashes]

section Sorted

variable {Item : Type} {key : Item → HashKey} {items sorted : List Item}

theorem sortedItems_ok_iff :
    (∃ sorted, sortedItems key items = (.ok sorted : Except (PyException Error) _)) ↔
      HashKey.sortable (items.map key) = true := by
  unfold sortedItems
  cases HashKey.sortable (items.map key) <;> simp

theorem perm_of_sortedItems
    (ran : sortedItems key items = (.ok sorted : Except (PyException Error) _)) :
    sorted.Perm items := by
  unfold sortedItems at ran
  split at ran
  · cases ran
    exact List.perm_insertionSort _ _
  · cases ran

end Sorted

/-- A dictionary, or a sequence of pairs whose first component can be hashed. -/
def Json.ConvertsToDict (value : Json) : Prop :=
  (∃ fields, value = .obj fields) ∨
    ∃ items, value.iterate? = some items ∧
      ∀ item ∈ items, ∃ key entry, item.iterate? = some [key, entry] ∧ key.hashable = true

theorem iterate_eq_ok {items : List Json} :
    iterate value = (.ok items : Except (PyException Error) _) ↔ value.iterate? = some items := by
  unfold iterate
  cases value.iterate? <;> simp

theorem iterate_eq_error (failed : iterate value = .error error) : error = .typeError := by
  unfold iterate at failed
  split at failed
  · cases failed
  · cases failed
    rfl

theorem exists_pairOf_iff {item : Json} :
    (∃ pair, pairOf item = (.ok pair : Except (PyException Error) _)) ↔
      ∃ key entry, item.iterate? = some [key, entry] ∧ key.hashable = true := by
  unfold pairOf
  split
  case h_1 notIterable => simp [notIterable]
  case h_2 key entry isPair =>
    simp only [bind_eq_ok, pure_eq_ok, isPair, Option.some.injEq]
    constructor
    · rintro ⟨_, hashedKey, hashes, _⟩
      exact ⟨key, entry, rfl, exists_hashed_iff.mp ⟨hashedKey, hashes⟩⟩
    · rintro ⟨_, _, same, hashable⟩
      cases same
      have hashes : ∃ hashedKey,
          hashed key = (.ok hashedKey : Except (PyException Error) DictKey) :=
        exists_hashed_iff.mpr hashable
      rcases hashes with ⟨hashedKey, hashes⟩
      exact ⟨_, hashedKey, hashes, rfl⟩
  case h_3 items notPair isItems =>
    simp only [reduceCtorEq, exists_false, false_iff, not_exists, not_and]
    intro key entry same
    cases isItems.symm.trans same
    exact absurd rfl (notPair key entry)

theorem exists_dictOf_iff :
    (∃ entries, dictOf value = (.ok entries : Except (PyException Error) _)) ↔
      value.ConvertsToDict := by
  unfold dictOf
  split
  case h_1 fields => simp [Json.ConvertsToDict]
  case h_2 notObject =>
    have converts : (∃ entries, (do
          let items ← iterate value
          let pairs ← items.mapM pairOf
          return PyDict.assignAll [] pairs) =
          (.ok entries : Except (PyException Error) (PyDict Json))) ↔
        ∃ items, value.iterate? = some items ∧
          ∃ pairs, items.mapM pairOf = (.ok pairs : Except (PyException Error) _) := by
      simp only [bind_eq_ok, iterate_eq_ok, pure_eq_ok]
      constructor
      · rintro ⟨_, items, iterates, pairs, converted, _⟩
        exact ⟨items, iterates, pairs, converted⟩
      · rintro ⟨items, iterates, pairs, converted⟩
        exact ⟨_, items, iterates, pairs, converted, rfl⟩
    rw [converts]
    simp only [exists_mapM_eq_ok_iff, exists_pairOf_iff, Json.ConvertsToDict]
    constructor
    · rintro ⟨items, iterates, pairs⟩
      exact Or.inr ⟨items, iterates, pairs⟩
    · rintro (⟨fields, isObject⟩ | ⟨items, iterates, pairs⟩)
      · exact absurd isObject (notObject fields)
      · exact ⟨items, iterates, pairs⟩

theorem pairOf_eq_error {item : Json} (failed : pairOf item = .error error) :
    error = .typeError ∨ error = .valueError := by
  unfold pairOf at failed
  split at failed
  · cases failed
    exact Or.inl rfl
  · rcases bind_eq_error.mp failed with unhashed | ⟨_, _, converted⟩
    · exact Or.inl (hashed_eq_error unhashed)
    · cases converted
  · cases failed
    exact Or.inr rfl

theorem dictOf_eq_error (failed : dictOf value = .error error) :
    error = .typeError ∨ error = .valueError := by
  unfold dictOf at failed
  split at failed
  · cases failed
  · rcases bind_eq_error.mp failed with notIterable | ⟨items, _, later⟩
    · exact Or.inl (iterate_eq_error notIterable)
    · rcases bind_eq_error.mp later with unpaired | ⟨_, _, converted⟩
      · rcases mapM_eq_error unpaired with ⟨item, _, itemFailed⟩
        exact pairOf_eq_error itemFailed
      · cases converted

/-- The keys of a dictionary are texts, or distinct. -/
theorem count_keys_dictOf_le {entries : PyDict Json} {key : DictKey}
    (converted : dictOf value = (.ok entries : Except (PyException Error) _))
    (keyMem : key ∈ entries.keys) (long : key.value.hasLongInt = true) :
    (entries.keys.map (·.key)).count key.key ≤ 1 := by
  unfold dictOf at converted
  split at converted
  case h_1 fields =>
    cases converted
    rcases List.mem_map.mp keyMem with ⟨entry, entryMem, rfl⟩
    rcases List.mem_map.mp entryMem with ⟨field, _, rfl⟩
    cases long
  case h_2 =>
    rcases bind_eq_ok.mp converted with ⟨items, _, later⟩
    rcases bind_eq_ok.mp later with ⟨pairs, _, same⟩
    cases same
    have noEntries : PyDict.Spelled ([] : PyDict Json) := ⟨List.nodup_nil, nofun⟩
    exact List.nodup_iff_count_le_one.mp (PyDict.spelled_assignAll pairs noEntries).nodup_keys _

end Conversions

end Foundation
