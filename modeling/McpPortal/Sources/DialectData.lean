import McpPortal.Foundation.Fallible
import McpPortal.Foundation.JsonEq
import McpPortal.Sources.Dialect

/-!
# What the conversion makes of data

Examples and enumerated values are converted like schemas. A value is left as it is if no dictionary
within it has a field that the conversion drops or renames. The conversion only raises where null
cannot be put next to a type.
-/

namespace McpPortal

open Foundation

mutual

/-- No dictionary within the value has a field that the conversion drops or renames. -/
def Untouched : Json → Prop
  | .obj fields => FieldsUntouched fields
  | .arr items => ItemsUntouched items
  | _ => True

def ItemsUntouched : List Json → Prop
  | [] => True
  | item :: rest => Untouched item ∧ ItemsUntouched rest

def FieldsUntouched : List (String × Json) → Prop
  | [] => True
  | (key, value) :: rest =>
      (key ≠ "example" ∧ isConsumed key value = false) ∧ Untouched value ∧ FieldsUntouched rest

end

/-- A text, or a list of texts. -/
def IsTypeNames : Json → Prop
  | .str _ => True
  | .arr items => ∃ names : List String, items = names.map .str
  | _ => False

mutual

/-- No dictionary within the value is nullable and has a type that is no text or list of texts. -/
def TypesNamed : Json → Prop
  | .obj fields =>
      (isTrue fields "nullable" = true → ∀ base, Dict.get? fields "type" = some base →
        IsTypeNames base) ∧ FieldsTypesNamed fields
  | .arr items => ItemsTypesNamed items
  | _ => True

def ItemsTypesNamed : List Json → Prop
  | [] => True
  | item :: rest => TypesNamed item ∧ ItemsTypesNamed rest

def FieldsTypesNamed : List (String × Json) → Prop
  | [] => True
  | (_, value) :: rest => TypesNamed value ∧ FieldsTypesNamed rest

end

section Fields

variable {Error : Type} {fields assigned : List (String × Json)} {key : String}

/-- No example takes the key. -/
def Untaken (fields : List (String × Json)) (key : String) : Prop :=
  key ≠ "example" ∧ (key = "examples" → "example" ∉ Dict.keys fields)

theorem Untaken.rest {field : String × Json} {rest : List (String × Json)}
    (untaken : Untaken (field :: rest) key) : Untaken rest key :=
  ⟨untaken.1, fun isExamples present =>
    untaken.2 isExamples (List.mem_cons_of_mem field.1 present)⟩

/-- What is under a key of the converted object, when the first value was there before the
fields were assigned and the second is that of the schema. -/
inductive FieldLeft (Error : Type) (key : String) (before : Option Json) :
    Option Json → Option Json → Prop
  | absent : FieldLeft Error key before none before
  | consumed {value : Json} (consumed : isConsumed key value = true) :
      FieldLeft Error key before (some value) before
  | converted {value converted : Json}
      (converts : (convert30Schema value : Except (PyException Error) Json) = .ok converted) :
      FieldLeft Error key before (some value) (some converted)

theorem FieldLeft.eq_of_absent {before after : Option Json}
    (left : FieldLeft Error key before none after) : after = before := by
  cases left
  rfl

/-- The assignments put under a key what its value is converted to. -/
theorem fieldLeft_assigned (untaken : Untaken fields key) (unique : (Dict.keys fields).Nodup)
    (ran : (convertFields fields : Except (PyException Error) _) = .ok assigned)
    (entries : List (String × Json)) :
    FieldLeft Error key (Dict.get? entries key) (Dict.get? fields key)
      (Dict.get? (assigned.foldl (fun entries item => Dict.insert entries item.1 item.2) entries)
        key) := by
  induction fields generalizing assigned entries with
  | nil =>
      cases ran
      exact .absent
  | cons field rest ih =>
      rcases field with ⟨first, value⟩
      rw [Dict.keys_cons, List.nodup_cons] at unique
      have later := fun {assigned} => @ih assigned untaken.rest unique.2
      rw [Dict.get?_cons]
      rw [convertFields] at ran
      by_cases isKey : first = key
      · subst first
        rw [if_pos rfl]
        have unassigned {assigned : List (String × Json)}
            (ran : (convertFields rest : Except (PyException Error) _) = .ok assigned)
            (entries : List (String × Json)) :
            Dict.get? (assigned.foldl (fun entries item => Dict.insert entries item.1 item.2)
              entries) key = Dict.get? entries key := by
          have left := later ran entries
          rw [Dict.get?_eq_none_iff.mpr unique.1] at left
          exact left.eq_of_absent
        split at ran
        case isTrue consumed =>
          rw [unassigned ran]
          exact .consumed consumed
        case isFalse =>
          simp only [bind_eq_ok, pure_eq_ok] at ran
          rcases ran with ⟨converted, converts, others, ranRest, rfl⟩
          rw [if_neg untaken.1, List.foldl_cons, unassigned ranRest, Dict.get?_insert_self]
          exact .converted converts
      · rw [if_neg isKey]
        split at ran
        · exact later ran entries
        · simp only [bind_eq_ok, pure_eq_ok] at ran
          rcases ran with ⟨converted, _, others, ranRest, rfl⟩
          rw [List.foldl_cons]
          have elsewhere : Dict.get? (Dict.insert entries
              (if first = "example" then ("examples", Json.arr [converted])
                else (first, converted)).1
              (if first = "example" then ("examples", Json.arr [converted])
                else (first, converted)).2) key = Dict.get? entries key := by
            rw [Dict.get?_insert_of_ne]
            split
            case isTrue isSample =>
              rintro rfl
              exact untaken.2 rfl (isSample ▸ List.mem_cons_self)
            case isFalse => exact isKey
          rw [← elsewhere]
          exact later ranRest _

theorem fieldLeft_ofList (untaken : Untaken fields key) (unique : (Dict.keys fields).Nodup)
    (ran : (convertFields fields : Except (PyException Error) _) = .ok assigned) :
    FieldLeft Error key none (Dict.get? fields key) (Dict.get? (Dict.ofList assigned) key) :=
  fieldLeft_assigned untaken unique ran []

end Fields

section Untouched

variable {Error : Type}

theorem finishSchema_of_no_flags {schema out : JsonObject}
    (noFlags : ∀ key ∈ ["nullable", "exclusiveMinimum", "exclusiveMaximum"],
      isTrue schema key = false) :
    (finishSchema schema out : Except (PyException Error) JsonObject) = .ok out := by
  have unmoved (out : JsonObject) (exclusive inclusive : String)
      (isFlag : exclusive ∈ ["nullable", "exclusiveMinimum", "exclusiveMaximum"]) :
      moveBound exclusive inclusive schema out = out := by
    unfold moveBound
    split
    · rw [noFlags exclusive isFlag, if_neg Bool.false_ne_true]
    · rfl
  have notNullable := noFlags "nullable" (by simp)
  rw [finishSchema, admitNull, notNullable, if_neg Bool.false_ne_true, pure_bind,
    unmoved out "exclusiveMinimum" "minimum" (by simp),
    unmoved out "exclusiveMaximum" "maximum" (by simp)]
  rfl

/-- A flag that is set is a field that the conversion drops. -/
theorem FieldsUntouched.no_flags {fields : List (String × Json)}
    (untouched : FieldsUntouched fields) {key : String}
    (isFlag : key ∈ ["nullable", "exclusiveMinimum", "exclusiveMaximum"]) :
    isTrue fields key = false := by
  induction fields with
  | nil => rfl
  | cons field rest ih =>
      rcases field with ⟨name, value⟩
      have later := ih untouched.2.2
      unfold isTrue at later ⊢
      rw [Dict.get?_cons]
      by_cases isKey : name = key
      · subst isKey
        rw [if_pos rfl]
        cases value with
        | bool flag =>
            have kept : isConsumed name (.bool flag) = false := untouched.1.2
            rw [isConsumed, decide_eq_false_iff_not] at kept
            exact absurd isFlag kept
        | _ => rfl
      · rw [if_neg isKey]
        exact later

mutual

theorem convert30Schema_of_untouched (value : Json) (untouched : Untouched value)
    (distinct : Json.Distinct value) :
    (convert30Schema value : Except (PyException Error) Json) = .ok value := by
  cases value with
  | obj fields =>
      have assigns := convertFields_of_untouched fields untouched distinct.2
      have finishes : (finishSchema fields fields : Except (PyException Error) JsonObject) =
          .ok fields := finishSchema_of_no_flags fun _ => untouched.no_flags
      rw [convert30Schema, assigns]
      simp only [bind_eq_ok, Except.ok.injEq, exists_eq_left', pure_eq_ok,
        Dict.ofList_of_nodup distinct.1]
      exact ⟨fields, finishes, rfl⟩
  | arr items =>
      rw [convert30Schema, convertItems_of_untouched items untouched distinct]
      rfl
  | _ => rfl

theorem convertItems_of_untouched (items : List Json) (untouched : ItemsUntouched items)
    (distinct : Json.DistinctItems items) :
    (convertItems items : Except (PyException Error) (List Json)) = .ok items := by
  cases items with
  | nil => rfl
  | cons item rest =>
      rw [convertItems, convert30Schema_of_untouched item untouched.1 distinct.1,
        convertItems_of_untouched rest untouched.2 distinct.2]
      rfl

theorem convertFields_of_untouched (fields : List (String × Json))
    (untouched : FieldsUntouched fields) (distinct : Json.DistinctFields fields) :
    (convertFields fields : Except (PyException Error) _) = .ok fields := by
  cases fields with
  | nil => rfl
  | cons field rest =>
      rcases field with ⟨key, value⟩
      rcases untouched with ⟨⟨notExample, kept⟩, value_untouched, rest_untouched⟩
      rw [convertFields, kept, if_neg Bool.false_ne_true,
        convert30Schema_of_untouched value value_untouched distinct.1,
        convertFields_of_untouched rest rest_untouched distinct.2]
      simp only [if_neg notExample, bind_eq_ok, Except.ok.injEq, exists_eq_left', pure_eq_ok]

end

end Untouched

section Raises

variable {Error : Type}

theorem convertItems_strings (names : List String) :
    (convertItems (names.map .str) : Except (PyException Error) (List Json)) =
      .ok (names.map .str) := by
  induction names with
  | nil => rfl
  | cons name rest ih =>
      simp only [List.map_cons, convertItems, convert30Schema, ih]
      rfl

theorem convert30Schema_of_isTypeNames {base : Json} (named : IsTypeNames base) :
    (convert30Schema base : Except (PyException Error) Json) = .ok base := by
  cases base with
  | str text => rfl
  | arr items =>
      rcases named with ⟨names, rfl⟩
      rw [convert30Schema, convertItems_strings]
      rfl
  | _ => exact absurd named id

/-- Null can be put next to the names of types. -/
theorem exists_typesWithNull {base : Json} (named : IsTypeNames base) :
    ∃ types, (typesWithNull base : Except (PyException Error) Json) = .ok types := by
  cases base with
  | str text => exact ⟨_, rfl⟩
  | arr items =>
      rcases named with ⟨names, rfl⟩
      simp only [typesWithNull, Json.mapM_string?_map_str]
      exact ⟨_, rfl⟩
  | _ => exact absurd named id

theorem exists_finishSchema {fields assigned : JsonObject} (unique : (Dict.keys fields).Nodup)
    (ran : (convertFields fields : Except (PyException Error) _) = .ok assigned)
    (named : isTrue fields "nullable" = true → ∀ base, Dict.get? fields "type" = some base →
      IsTypeNames base) :
    ∃ out, (finishSchema fields (Dict.ofList assigned) :
      Except (PyException Error) JsonObject) = .ok out := by
  have admits : ∃ out, (admitNull fields (Dict.ofList assigned) :
      Except (PyException Error) JsonObject) = .ok out := by
    unfold admitNull
    split
    case isFalse => exact ⟨_, rfl⟩
    case isTrue nullable =>
      have left := @fieldLeft_ofList Error fields assigned "type" ⟨by decide, nofun⟩ unique ran
      split
      case h_2 => exact ⟨_, rfl⟩
      case h_1 base typed =>
        rw [typed] at left
        generalize found : Dict.get? fields "type" = before at left
        cases left with
        | @converted declared _ converts =>
            have names := named nullable declared found
            cases converts.symm.trans (convert30Schema_of_isTypeNames names)
            rcases @exists_typesWithNull Error _ names with ⟨types, widens⟩
            exact ⟨_, bind_eq_ok.mpr ⟨types, widens, rfl⟩⟩
  rcases admits with ⟨out, admitted⟩
  exact ⟨_, bind_eq_ok.mpr ⟨out, admitted, rfl⟩⟩

mutual

/-- Where the types of nullable dictionaries are names, the conversion raises nothing. -/
theorem exists_convert30Schema (value : Json) (named : TypesNamed value)
    (distinct : Json.Distinct value) :
    ∃ converted, (convert30Schema value : Except (PyException Error) Json) = .ok converted := by
  cases value with
  | obj fields =>
      rcases exists_convertFields fields named.2 distinct.2 with ⟨assigned, assigns⟩
      rcases exists_finishSchema distinct.1 assigns named.1 with ⟨out, finishes⟩
      rw [convert30Schema]
      exact ⟨_, bind_eq_ok.mpr ⟨assigned, assigns, bind_eq_ok.mpr ⟨out, finishes, rfl⟩⟩⟩
  | arr items =>
      rcases exists_convertItems items named distinct with ⟨converted, converts⟩
      rw [convert30Schema, converts]
      exact ⟨_, rfl⟩
  | _ => exact ⟨_, rfl⟩

theorem exists_convertItems (items : List Json) (named : ItemsTypesNamed items)
    (distinct : Json.DistinctItems items) :
    ∃ converted, (convertItems items : Except (PyException Error) (List Json)) =
      .ok converted := by
  cases items with
  | nil => exact ⟨_, rfl⟩
  | cons item rest =>
      rcases exists_convert30Schema item named.1 distinct.1 with ⟨converted, converts⟩
      rcases exists_convertItems rest named.2 distinct.2 with ⟨others, convertsRest⟩
      rw [convertItems, converts, convertsRest]
      exact ⟨_, rfl⟩

theorem exists_convertFields (fields : List (String × Json)) (named : FieldsTypesNamed fields)
    (distinct : Json.DistinctFields fields) :
    ∃ assigned, (convertFields fields : Except (PyException Error) _) = .ok assigned := by
  cases fields with
  | nil => exact ⟨_, rfl⟩
  | cons field rest =>
      rcases field with ⟨key, value⟩
      rcases exists_convertFields rest named.2 distinct.2 with ⟨others, convertsRest⟩
      rw [convertFields]
      split
      · exact ⟨others, convertsRest⟩
      · rcases exists_convert30Schema value named.1 distinct.1 with ⟨converted, converts⟩
        rw [converts, convertsRest]
        exact ⟨_, rfl⟩

end

end Raises

end McpPortal
