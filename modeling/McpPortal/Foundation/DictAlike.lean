import Mathlib.Data.List.Forall2
import McpPortal.Foundation.Hashed

/-!
# Dictionaries side by side

Two dictionaries are alike if they have the same keys in the same order, one spelled in a way that
tells them apart, and values that are alike. Lookups and assignments keep them alike. A dictionary
with texts as keys so stands for one with keys of any type.
-/

namespace Foundation

universe u v w x

namespace Dict

variable {Key : Type u} {Spelled : Type v} {Left : Type w} {Right : Type x}

/-- The entries of two dictionaries, one by one. -/
def Alike (spell : Key → Spelled) (same : Key → Left → Right → Prop)
    (left : List (Spelled × Left)) (right : List (Key × Right)) : Prop :=
  List.Forall₂ (fun first second => first.1 = spell second.1 ∧ same second.1 first.2 second.2)
    left right

variable {spell : Key → Spelled} {same : Key → Left → Right → Prop}
  {left : List (Spelled × Left)} {right : List (Key × Right)}

theorem Alike.nil : Alike spell same [] [] :=
  List.Forall₂.nil

theorem Alike.keys (alike : Alike spell same left right) :
    Dict.keys left = (Dict.keys right).map spell := by
  induction alike with
  | nil => rfl
  | cons entry _ ih => rw [keys_cons, keys_cons, List.map_cons, ih, entry.1]

variable [DecidableEq Key] [DecidableEq Spelled]

theorem Alike.get? (alike : Alike spell same left right) (apart : Function.Injective spell)
    (key : Key) : Option.Rel (same key) (Dict.get? left (spell key)) (Dict.get? right key) := by
  induction alike with
  | nil => exact .none
  | @cons first second left right entry _ ih =>
      rw [get?_cons, get?_cons, entry.1]
      by_cases isKey : second.1 = key
      · rw [if_pos (congrArg spell isKey), if_pos isKey]
        exact .some (isKey ▸ entry.2)
      · rw [if_neg (fun spelled => isKey (apart spelled)), if_neg isKey]
        exact ih

theorem Alike.insert (alike : Alike spell same left right) (apart : Function.Injective spell)
    {key : Key} {value : Left} {valueToo : Right} (values : same key value valueToo) :
    Alike spell same (Dict.insert left (spell key) value) (Dict.insert right key valueToo) := by
  induction alike with
  | nil => exact .cons ⟨rfl, values⟩ .nil
  | @cons first second left right entry later ih =>
      rcases first with ⟨spelled, old⟩
      rcases second with ⟨present, oldToo⟩
      cases entry.1
      unfold Dict.insert
      by_cases isKey : present = key
      · rw [if_pos (congrArg spell isKey), if_pos isKey]
        exact .cons ⟨rfl, values⟩ later
      · rw [if_neg (fun spelled => isKey (apart spelled)), if_neg isKey]
        exact .cons entry ih

omit [DecidableEq Spelled] in
theorem get?_mapped (convert : Right → Left) (entries : List (Key × Right)) (key : Key) :
    Dict.get? (entries.map fun entry => (entry.1, convert entry.2)) key =
      (Dict.get? entries key).map convert := by
  induction entries with
  | nil => rfl
  | cons entry rest ih =>
      rw [List.map_cons, get?_cons, get?_cons, ih]
      split <;> rfl

omit [DecidableEq Spelled] in
theorem insert_mapped (convert : Right → Left) (entries : List (Key × Right)) (key : Key)
    (value : Right) :
    Dict.insert (entries.map fun entry => (entry.1, convert entry.2)) key (convert value) =
      (Dict.insert entries key value).map fun entry => (entry.1, convert entry.2) := by
  induction entries with
  | nil => rfl
  | cons entry rest ih =>
      rw [List.map_cons]
      unfold Dict.insert
      split
      · rw [List.map_cons]
      · rw [List.map_cons, ih]

omit [DecidableEq Spelled] in
/-- A dictionary of converted values is the dictionary, converted. -/
theorem ofList_mapped (convert : Right → Left) (items : List (Key × Right)) :
    Dict.ofList (items.map fun entry => (entry.1, convert entry.2)) =
      (Dict.ofList items).map fun entry => (entry.1, convert entry.2) := by
  have grows (entries : List (Key × Right)) :
      (items.map fun entry => (entry.1, convert entry.2)).foldl
          (fun entries entry => Dict.insert entries entry.1 entry.2)
          (entries.map fun entry => (entry.1, convert entry.2)) =
        (items.foldl (fun entries entry => Dict.insert entries entry.1 entry.2) entries).map
          fun entry => (entry.1, convert entry.2) := by
    induction items generalizing entries with
    | nil => rfl
    | cons item rest ih =>
        rw [List.map_cons, List.foldl_cons, List.foldl_cons, insert_mapped]
        exact ih _
  exact grows []

end Dict

theorem HashKey.text_injective : Function.Injective HashKey.text := by
  intro left right same
  cases same
  rfl

namespace PyDict

variable {Left : Type} {Right : Type v}

/-- A dictionary whose keys are the texts of another one. -/
abbrev OfTexts (same : Left → Right → Prop) (entries : PyDict Left)
    (fields : List (String × Right)) : Prop :=
  Dict.Alike HashKey.text (fun key entry value => entry.1 = DictKey.ofText key ∧ same entry.2 value)
    entries fields

variable {same : Left → Right → Prop} {entries : PyDict Left} {fields : List (String × Right)}

theorem OfTexts.keys (ofTexts : OfTexts same entries fields) :
    entries.keys = (Dict.keys fields).map DictKey.ofText := by
  induction ofTexts with
  | nil => rfl
  | cons entry _ ih =>
      rw [PyDict.keys, List.map_cons, Dict.keys_cons, List.map_cons, entry.2.1]
      exact congrArg _ ih

theorem OfTexts.assign (ofTexts : OfTexts same entries fields) {key : String} {value : Left}
    {valueToo : Right} (values : same value valueToo) :
    OfTexts same (entries.assign (.ofText key) value) (Dict.insert fields key valueToo) := by
  have found := ofTexts.get? HashKey.text_injective key
  unfold PyDict.assign
  rw [DictKey.key_ofText]
  generalize Dict.get? entries (.text key) = known at found
  generalize Dict.get? fields key = knownToo at found
  cases found with
  | none => exact ofTexts.insert HashKey.text_injective ⟨rfl, values⟩
  | some isKey => exact ofTexts.insert HashKey.text_injective ⟨isKey.1, values⟩

theorem OfTexts.assignAll (ofTexts : OfTexts same entries fields)
    {assignments : List (DictKey × Left)} {assigned : List (String × Right)}
    (pairs : List.Forall₂ (fun left right => left.1 = DictKey.ofText right.1 ∧
      same left.2 right.2) assignments assigned) :
    OfTexts same (entries.assignAll assignments)
      (assigned.foldl (fun fields field => Dict.insert fields field.1 field.2) fields) := by
  unfold PyDict.assignAll
  induction pairs generalizing entries fields with
  | nil => exact ofTexts
  | @cons left right _ _ pair _ ih =>
      rw [List.foldl_cons, List.foldl_cons]
      apply ih
      rw [pair.1]
      exact ofTexts.assign pair.2

theorem OfTexts.items (ofTexts : OfTexts same entries fields) :
    List.Forall₂ (fun left right => left.1 = DictKey.ofText right.1 ∧ same left.2 right.2)
      entries.items fields := by
  rw [PyDict.items, List.forall₂_map_left_iff]
  exact ofTexts.imp fun _ _ entry => entry.2

end PyDict

theorem HashKey.sortable_texts (texts : List String) :
    HashKey.sortable (texts.map HashKey.text) = true := by
  have allTexts : (texts.map HashKey.text).all HashKey.isText = true := by
    rw [List.all_eq_true]
    intro key keyMem
    rcases List.mem_map.mp keyMem with ⟨text, _, rfl⟩
    rfl
  rw [HashKey.sortable, allTexts, Bool.or_true, Bool.true_or]

theorem sortedItems_ofTexts {Error : Type} (texts : List String) :
    (sortedItems DictKey.key (texts.map DictKey.ofText) :
        Except (PyException Error) (List DictKey)) =
      .ok ((texts.insertionSort (· ≤ ·)).map DictKey.ofText) := by
  have keys : (texts.map DictKey.ofText).map DictKey.key = texts.map HashKey.text :=
    List.map_map
  rw [sortedItems, keys, if_pos (HashKey.sortable_texts texts)]
  congr 1
  symm
  apply List.map_insertionSort
  intro left _ right _
  exact (decide_eq_true_iff).symm

/-- `dict` of an object has the texts of the object as keys. -/
theorem ofTexts_fields (fields : JsonObject) :
    PyDict.OfTexts Eq (fields.map fun field => (.text field.1, .ofText field.1, field.2))
      fields := by
  rw [PyDict.OfTexts, Dict.Alike, List.forall₂_map_left_iff, List.forall₂_same]
  intro field _
  exact ⟨rfl, rfl, rfl⟩

end Foundation
