import Mathlib.Data.List.Induction
import Mathlib.Data.List.Basic
import Mathlib.Data.List.Dedup
import Mathlib.Data.List.Nodup

/-!
# Insertion-ordered dictionaries

A dictionary is the list of its entries in insertion order. Assigning to a key
that is present keeps the key's position, as the interpreter's `dict` does, so
equality of dictionaries as lists also compares iteration order.
-/

namespace Foundation

universe u v

namespace Dict

variable {Key : Type u} {Value : Type v} [DecidableEq Key]

/-- `dict.get(key)`. -/
def get? : List (Key × Value) → Key → Option Value
  | [], _ => none
  | (present, value) :: rest, key => if present = key then some value else get? rest key

/-- `dict[key] = value`. -/
def insert (entries : List (Key × Value)) (key : Key) (value : Value) : List (Key × Value) :=
  match entries with
  | [] => [(key, value)]
  | (present, old) :: rest =>
      if present = key then (key, value) :: rest else (present, old) :: insert rest key value

/-- `list(dict)`. -/
def keys (entries : List (Key × Value)) : List Key :=
  entries.map Prod.fst

/-- The dictionary comprehension `{key(x): value(x) for x in items}`. -/
def ofList (items : List (Key × Value)) : List (Key × Value) :=
  items.foldl (fun entries item => insert entries item.1 item.2) []

omit [DecidableEq Key] in
@[simp]
theorem keys_nil : keys ([] : List (Key × Value)) = [] := rfl

omit [DecidableEq Key] in
@[simp]
theorem keys_cons (entry : Key × Value) (rest : List (Key × Value)) :
    keys (entry :: rest) = entry.1 :: keys rest := rfl

@[simp]
theorem get?_nil (key : Key) : get? ([] : List (Key × Value)) key = none := rfl

theorem get?_cons (present key : Key) (value : Value) (rest : List (Key × Value)) :
    get? ((present, value) :: rest) key = if present = key then some value else get? rest key :=
  rfl

@[simp]
theorem get?_insert_self (entries : List (Key × Value)) (key : Key) (value : Value) :
    get? (insert entries key value) key = some value := by
  induction entries with
  | nil => simp [insert, get?]
  | cons entry rest ih =>
      rcases entry with ⟨present, old⟩
      by_cases same : present = key
      · simp [insert, get?, same]
      · simp [insert, get?, same, ih]

theorem get?_insert_of_ne {key other : Key} (entries : List (Key × Value)) (value : Value)
    (different : key ≠ other) :
    get? (insert entries key value) other = get? entries other := by
  induction entries with
  | nil => simp [insert, get?, different]
  | cons entry rest ih =>
      rcases entry with ⟨present, old⟩
      by_cases same : present = key
      · subst present
        simp [insert, get?, different]
      · simp [insert, get?, same, ih]

theorem get?_insert (entries : List (Key × Value)) (key other : Key) (value : Value) :
    get? (insert entries key value) other =
      if key = other then some value else get? entries other := by
  by_cases same : key = other
  · subst other
    simp
  · simp [same, get?_insert_of_ne entries value same]

theorem mem_keys_insert {entries : List (Key × Value)} {key other : Key} {value : Value} :
    other ∈ keys (insert entries key value) ↔ other = key ∨ other ∈ keys entries := by
  induction entries with
  | nil => simp [insert]
  | cons entry rest ih =>
      rcases entry with ⟨present, old⟩
      by_cases same : present = key
      · simp [insert, same]
      · simp only [insert, same, if_false, keys_cons, List.mem_cons, ih]
        tauto

theorem nodup_keys_insert {entries : List (Key × Value)} (key : Key) (value : Value)
    (unique : (keys entries).Nodup) : (keys (insert entries key value)).Nodup := by
  induction entries with
  | nil => simp [insert]
  | cons entry rest ih =>
      rcases entry with ⟨present, old⟩
      simp only [keys_cons, List.nodup_cons] at unique
      by_cases same : present = key
      · subst present
        simpa [insert] using unique
      · have absent : present ∉ keys (insert rest key value) := by
          rw [mem_keys_insert]
          rintro (equal | present)
          · exact same equal
          · exact unique.1 present
        simpa [insert, same] using And.intro absent (ih unique.2)

theorem get?_isSome_iff {entries : List (Key × Value)} {key : Key} :
    (get? entries key).isSome ↔ key ∈ keys entries := by
  induction entries with
  | nil => simp
  | cons entry rest ih =>
      rcases entry with ⟨present, value⟩
      by_cases same : present = key
      · simp [get?, same]
      · simp only [get?, same, if_false, keys_cons, List.mem_cons, ih]
        constructor
        · exact Or.inr
        · rintro (equal | later)
          · exact absurd equal.symm same
          · exact later

theorem mem_of_get? {entries : List (Key × Value)} {key : Key} {value : Value}
    (found : get? entries key = some value) : (key, value) ∈ entries := by
  induction entries with
  | nil => simp at found
  | cons entry rest ih =>
      rcases entry with ⟨present, other⟩
      by_cases same : present = key
      · simp only [get?, same, if_true, Option.some.injEq] at found
        simp [same, found]
      · simp only [get?, same, if_false] at found
        exact List.mem_cons_of_mem _ (ih found)

/-- In a dictionary the entry of a key is the one found by looking the key up. -/
theorem get?_eq_some_iff {entries : List (Key × Value)} (unique : (keys entries).Nodup)
    {key : Key} {value : Value} :
    get? entries key = some value ↔ (key, value) ∈ entries := by
  refine ⟨mem_of_get?, fun present => ?_⟩
  induction entries with
  | nil => simp at present
  | cons entry rest ih =>
      rcases entry with ⟨first, other⟩
      simp only [keys_cons, List.nodup_cons] at unique
      rcases List.mem_cons.mp present with equal | later
      · simp only [Prod.mk.injEq] at equal
        simp [get?, equal.1, equal.2]
      · have different : first ≠ key := by
          rintro rfl
          exact unique.1 (List.mem_map.mpr ⟨_, later, rfl⟩)
        simpa [get?, different] using ih unique.2 later

/-- Assigning to a key that is present leaves the keys as they are. -/
theorem keys_insert_of_mem {entries : List (Key × Value)} {key : Key} {value : Value}
    (present : key ∈ keys entries) : keys (insert entries key value) = keys entries := by
  induction entries with
  | nil => cases present
  | cons entry rest ih =>
      rcases entry with ⟨first, old⟩
      by_cases same : first = key
      · simp [insert, same]
      · have later : key ∈ keys rest := by
          rcases List.mem_cons.mp present with equal | later
          · exact absurd equal.symm same
          · exact later
        simp [insert, same, ih later]

/-- Looking a key up does not depend on the order of the entries. -/
theorem get?_of_perm {left right : List (Key × Value)} (perm : left.Perm right)
    (unique : (keys left).Nodup) (key : Key) : get? left key = get? right key := by
  have rightUnique : (keys right).Nodup := (perm.map Prod.fst).nodup_iff.mp unique
  apply Option.ext
  intro value
  rw [get?_eq_some_iff unique, get?_eq_some_iff rightUnique, perm.mem_iff]

theorem mem_insert_cases {entries : List (Key × Value)} {key : Key} {value : Value}
    {entry : Key × Value} (present : entry ∈ insert entries key value) :
    entry = (key, value) ∨ entry ∈ entries := by
  induction entries with
  | nil => simpa [insert] using present
  | cons first rest ih =>
      rcases first with ⟨firstKey, old⟩
      by_cases same : firstKey = key
      · simp only [insert, same, if_true, List.mem_cons] at present ⊢
        tauto
      · simp only [insert, same, if_false, List.mem_cons] at present ⊢
        rcases present with equal | later
        · exact Or.inr (Or.inl equal)
        · rcases ih later with equal | old
          · exact Or.inl equal
          · exact Or.inr (Or.inr old)

section OfList

theorem nodup_keys_foldl_insert (items entries : List (Key × Value))
    (unique : (keys entries).Nodup) :
    (keys (items.foldl (fun entries item => insert entries item.1 item.2) entries)).Nodup := by
  induction items generalizing entries with
  | nil => exact unique
  | cons item rest ih => exact ih _ (nodup_keys_insert _ _ unique)

theorem nodup_keys_ofList (items : List (Key × Value)) : (keys (ofList items)).Nodup :=
  nodup_keys_foldl_insert items [] List.nodup_nil

theorem mem_keys_foldl_insert {items entries : List (Key × Value)} {key : Key} :
    key ∈ keys (items.foldl (fun entries item => insert entries item.1 item.2) entries) ↔
      key ∈ keys items ∨ key ∈ keys entries := by
  induction items generalizing entries with
  | nil => simp
  | cons item rest ih =>
      rw [List.foldl_cons, ih, mem_keys_insert, keys_cons, List.mem_cons]
      tauto

theorem mem_keys_ofList {items : List (Key × Value)} {key : Key} :
    key ∈ keys (ofList items) ↔ key ∈ keys items := by
  rw [ofList, mem_keys_foldl_insert]
  simp

theorem mem_of_mem_foldl_insert {items entries : List (Key × Value)} {entry : Key × Value}
    (present : entry ∈ items.foldl (fun entries item => insert entries item.1 item.2) entries) :
    entry ∈ items ∨ entry ∈ entries := by
  induction items generalizing entries with
  | nil => exact Or.inr present
  | cons item rest ih =>
      rcases ih present with later | inserted
      · exact Or.inl (List.mem_cons_of_mem _ later)
      · rcases mem_insert_cases inserted with equal | old
        · exact Or.inl (equal ▸ List.mem_cons_self)
        · exact Or.inr old

theorem mem_of_mem_ofList {items : List (Key × Value)} {entry : Key × Value}
    (present : entry ∈ ofList items) : entry ∈ items := by
  simpa using mem_of_mem_foldl_insert present

/-- The keys that result from an assignment do not depend on the values. -/
theorem keys_insert_congr {left right : List (Key × Value)} (same : keys left = keys right)
    (key : Key) (value other : Value) :
    keys (insert left key value) = keys (insert right key other) := by
  induction left generalizing right with
  | nil =>
      cases right with
      | nil => rfl
      | cons => cases same
  | cons entry rest ih =>
      rcases entry with ⟨present, old⟩
      cases right with
      | nil => cases same
      | cons entry others =>
          rcases entry with ⟨otherPresent, otherOld⟩
          simp only [keys_cons, List.cons.injEq] at same
          rcases same with ⟨rfl, sameRest⟩
          by_cases here : present = key
          · simp [insert, here, sameRest]
          · simp [insert, here, ih sameRest]

/-- A key that is new goes to the end. -/
theorem insert_of_notMem {entries : List (Key × Value)} {key : Key} {value : Value}
    (absent : key ∉ keys entries) : insert entries key value = entries ++ [(key, value)] := by
  induction entries with
  | nil => rfl
  | cons entry rest ih =>
      simp only [keys_cons, List.mem_cons, not_or] at absent
      simp [insert, Ne.symm absent.1, ih absent.2]

theorem insert_of_mem {entries : List (Key × Value)} {key : Key} {value : Value}
    (present : key ∈ keys entries) (unique : (keys entries).Nodup) :
    insert entries key value =
      entries.map fun entry => if entry.1 = key then (key, value) else entry := by
  induction entries with
  | nil => cases present
  | cons entry rest ih =>
      rcases entry with ⟨first, old⟩
      simp only [keys_cons, List.nodup_cons, List.mem_cons] at present unique
      by_cases same : first = key
      · subst first
        have others : ∀ other ∈ rest, (if other.1 = key then (key, value) else other) = other := by
          intro other otherMem
          apply if_neg
          rintro rfl
          exact unique.1 (List.mem_map_of_mem otherMem)
        simp [insert, List.map_congr_left others]
      · have later := ih (present.resolve_left (Ne.symm same)) unique.2
        simp [insert, same, later]

theorem foldl_insert_of_nodup {items entries : List (Key × Value)}
    (unique : (keys (entries ++ items)).Nodup) :
    items.foldl (fun entries item => insert entries item.1 item.2) entries = entries ++ items := by
  induction items generalizing entries with
  | nil => simp
  | cons item rest ih =>
      have absent : item.1 ∉ keys entries := by
        simp only [keys, List.map_append, List.map_cons, List.nodup_append, List.mem_cons] at unique
        intro present
        exact unique.2.2 item.1 present item.1 (Or.inl rfl) rfl
      rw [List.foldl_cons, insert_of_notMem absent, ih (by simpa [keys] using unique)]
      simp

/-- A list of entries with distinct keys already is the dictionary it builds. -/
theorem ofList_of_nodup {items : List (Key × Value)} (unique : (keys items).Nodup) :
    ofList items = items := by
  have appended : (keys ([] ++ items)).Nodup := unique
  exact foldl_insert_of_nodup appended

/--
All assignments can be read back, and no two keys fall together under `fold`, exactly when
assignments to keys that fall together are the same.
-/
theorem ofList_unambiguous_iff {Class : Type*} (fold : Key → Class) {items : List (Key × Value)} :
    (((keys (ofList items)).map fold).Nodup ∧
        ∀ item ∈ items, get? (ofList items) item.1 = some item.2) ↔
      ∀ first ∈ items, ∀ second ∈ items, fold first.1 = fold second.1 → first = second := by
  constructor
  · rintro ⟨distinct, readBack⟩ first firstMem second secondMem same
    have firstKey := mem_keys_ofList.mpr (List.mem_map_of_mem firstMem)
    have secondKey := mem_keys_ofList.mpr (List.mem_map_of_mem secondMem)
    have key_eq := List.inj_on_of_nodup_map distinct firstKey secondKey same
    have found := readBack first firstMem
    rw [key_eq, readBack second secondMem] at found
    exact Prod.ext key_eq (Option.some.inj found).symm
  · intro agree
    constructor
    · refine List.Nodup.map_on ?_ (nodup_keys_ofList items)
      intro left leftMem right rightMem same
      rcases List.mem_map.mp (mem_keys_ofList.mp leftMem) with ⟨first, firstMem, rfl⟩
      rcases List.mem_map.mp (mem_keys_ofList.mp rightMem) with ⟨second, secondMem, rfl⟩
      rw [agree first firstMem second secondMem same]
    · intro item itemMem
      have isKey := mem_keys_ofList.mpr (List.mem_map_of_mem itemMem)
      rcases Option.isSome_iff_exists.mp (get?_isSome_iff.mpr isKey) with ⟨value, found⟩
      have assigned := mem_of_mem_ofList (mem_of_get? found)
      have item_eq := agree _ assigned item itemMem rfl
      rw [found, ← item_eq]

end OfList

/-- If only the key that is set satisfies a condition on keys, its entry is the only one. -/
theorem filter_insert {entries : List (Key × Value)} {key : Key} {value : Value}
    (selected : Key → Bool) (keySelected : selected key = true)
    (others : ∀ other ∈ keys entries, selected other = false) :
    (insert entries key value).filter (fun entry => selected entry.1) = [(key, value)] := by
  have absent : key ∉ keys entries := by
    intro present
    rw [others key present] at keySelected
    cases keySelected
  have noneBefore : entries.filter (fun entry => selected entry.1) = [] := by
    rw [List.filter_eq_nil_iff]
    intro entry entryMem
    rw [others entry.1 (List.mem_map_of_mem entryMem)]
    exact Bool.false_ne_true
  rw [insert_of_notMem absent, List.filter_append, noneBefore]
  simp [keySelected]

/-- A filter on keys keeps the entries of the keys it selects. -/
theorem get?_filter (selected : Key → Bool) (entries : List (Key × Value)) (key : Key) :
    get? (entries.filter fun entry => selected entry.1) key =
      if selected key then get? entries key else none := by
  induction entries with
  | nil => simp
  | cons entry rest ih =>
      rcases entry with ⟨first, value⟩
      by_cases same : first = key
      · subst first
        by_cases isSelected : selected key = true
        · simp [isSelected, get?]
        · simpa [isSelected] using ih
      · by_cases isSelected : selected first = true
        · simpa [isSelected, get?, same] using ih
        · simpa [isSelected, get?, same] using ih

/-- The entries whose value is present. -/
def present (entries : List (Key × Option Value)) : List (Key × Value) :=
  entries.filterMap fun entry => entry.2.map fun value => (entry.1, value)

omit [DecidableEq Key] in
theorem mem_present {entries : List (Key × Option Value)} {key : Key} {value : Value} :
    (key, value) ∈ present entries ↔ (key, some value) ∈ entries := by
  simp [present]

omit [DecidableEq Key] in
theorem keys_present_sublist (entries : List (Key × Option Value)) :
    (keys (present entries)).Sublist (keys entries) := by
  induction entries with
  | nil => exact List.Sublist.refl _
  | cons entry rest ih =>
      rcases entry with ⟨key, _ | value⟩
      · exact ih.cons key
      · exact ih.cons_cons key

theorem get?_eq_none_iff {entries : List (Key × Value)} {key : Key} :
    get? entries key = none ↔ key ∉ keys entries := by
  rw [← Option.not_isSome_iff_eq_none, get?_isSome_iff]

theorem get?_present {entries : List (Key × Option Value)} (unique : (keys entries).Nodup)
    (key : Key) : get? (present entries) key = (get? entries key).join := by
  induction entries with
  | nil => rfl
  | cons entry rest ih =>
      rcases entry with ⟨first, value⟩
      rw [keys_cons, List.nodup_cons] at unique
      have later := ih unique.2
      cases value with
      | some value =>
          rw [get?_cons]
          simp only [present, List.filterMap_cons, Option.map_some, get?_cons]
          split
          · rfl
          · exact later
      | none =>
          rw [get?_cons]
          simp only [present, List.filterMap_cons, Option.map_none]
          split
          case isTrue same =>
            subst first
            have absent : key ∉ keys (present rest) :=
              fun found => unique.1 ((keys_present_sublist rest).mem found)
            exact get?_eq_none_iff.mpr absent
          case isFalse => exact later

/-- Looking up all keys gives all values. -/
theorem filterMap_get?_keys {entries : List (Key × Value)} (unique : (keys entries).Nodup) :
    (keys entries).filterMap (get? entries) = entries.map (·.2) := by
  have found : ∀ entry ∈ entries, get? entries entry.1 = some entry.2 := by
    intro entry entryMem
    exact (get?_eq_some_iff unique).mpr entryMem
  rw [keys, List.filterMap_map, ← List.filterMap_eq_map]
  exact List.filterMap_congr found

section IndexBy

variable {key : Value → Key} {items : List Value}

/-- The dictionary comprehension `{key(x): x for x in items}`. -/
def indexBy (key : Value → Key) (items : List Value) : List (Key × Value) :=
  ofList (items.map fun item => (key item, item))

omit [DecidableEq Key] in
theorem keys_map_key (key : Value → Key) (items : List Value) :
    keys (items.map fun item => (key item, item)) = items.map key := by
  rw [keys, List.map_map]
  rfl

theorem nodup_keys_indexBy (key : Value → Key) (items : List Value) :
    (keys (indexBy key items)).Nodup :=
  nodup_keys_ofList _

theorem mem_keys_indexBy {wanted : Key} :
    wanted ∈ keys (indexBy key items) ↔ wanted ∈ items.map key := by
  rw [indexBy, mem_keys_ofList, keys_map_key]

theorem indexBy_of_nodup (unique : (items.map key).Nodup) :
    indexBy key items = items.map fun item => (key item, item) := by
  apply ofList_of_nodup
  rw [keys_map_key]
  exact unique

theorem get?_indexBy_eq_none_iff {wanted : Key} :
    get? (indexBy key items) wanted = none ↔ wanted ∉ items.map key := by
  rw [get?_eq_none_iff, mem_keys_indexBy]

/-- Of items with distinct keys, the one with a key is the one found under it. -/
theorem get?_indexBy_eq_some_iff (unique : (items.map key).Nodup) {wanted : Key} {item : Value} :
    get? (indexBy key items) wanted = some item ↔ item ∈ items ∧ key item = wanted := by
  rw [get?_eq_some_iff (nodup_keys_indexBy key items), indexBy_of_nodup unique, List.mem_map]
  constructor
  · rintro ⟨found, foundMem, entry⟩
    cases entry
    exact ⟨foundMem, rfl⟩
  · rintro ⟨itemMem, rfl⟩
    exact ⟨item, itemMem, rfl⟩

theorem indexBy_concat (item : Value) :
    indexBy key (items ++ [item]) = insert (indexBy key items) (key item) item := by
  simp only [indexBy, ofList, List.map_append, List.map_cons, List.map_nil, List.foldl_append,
    List.foldl_cons, List.foldl_nil]

/-- Of several items with a key, the last one is found under it. -/
theorem get?_indexBy (wanted : Key) :
    get? (indexBy key items) wanted =
      items.reverse.find? fun item => decide (key item = wanted) := by
  induction items using List.reverseRecOn with
  | nil => rfl
  | append_singleton rest item ih =>
      rw [indexBy_concat, get?_insert, ih, List.reverse_append, List.reverse_singleton,
        List.singleton_append, List.find?_cons]
      by_cases isKey : key item = wanted
      · simp [isKey]
      · simp [isKey]

/-- No item was lost exactly if the keys are distinct. -/
theorem length_indexBy_eq_iff :
    (indexBy key items).length = items.length ↔ (items.map key).Nodup := by
  have sameKeys : (keys (indexBy key items)).Perm (items.map key).dedup := by
    rw [List.perm_ext_iff_of_nodup (nodup_keys_indexBy key items) (List.nodup_dedup _)]
    intro wanted
    rw [mem_keys_indexBy, List.mem_dedup]
  have length : (indexBy key items).length = (items.map key).dedup.length := by
    rw [← sameKeys.length_eq, keys, List.length_map]
  rw [length, ← List.dedup_eq_self]
  constructor
  · intro full
    apply (List.dedup_sublist (items.map key)).eq_of_length
    rw [full, List.length_map]
  · intro unchanged
    rw [unchanged, List.length_map]

end IndexBy

end Dict

end Foundation
