import McpPortal.Foundation.JsonSchema
import McpPortal.Sources.DialectData

/-!
# What the conversion of 3.0 schemas preserves

A schema built from the usual 3.0 keywords means after the conversion, read as JSON
Schema 2020-12, what it meant before. The conversion is also applied to data and to
names that are no keywords, and loses an exclusive bound under `nullable` without a
type: `Survives` excludes just these.
-/

namespace McpPortal

open Foundation JsonSchema

mutual

/-- A schema of the 3.0 dialect. -/
def IsSchema30 : Json → Prop
  | .obj fields => (Dict.keys fields).Nodup ∧ Keywords30 fields
  | _ => False

def Keywords30 : List (String × Json) → Prop
  | [] => True
  | (key, value) :: rest => Keyword30 key value ∧ Keywords30 rest

/-- A keyword with a value of its kind; an example or an enumerated value is any value, in whose
dictionaries no key is there twice. -/
def Keyword30 (key : String) : Json → Prop
  | .obj fields =>
      (key = "properties" ∧ (Dict.keys fields).Nodup ∧ PropertySchemas fields) ∨
        (key = "items" ∧ (Dict.keys fields).Nodup ∧ Keywords30 fields) ∨
        (key = "example" ∧ Json.Distinct (.obj fields))
  | .arr items =>
      ((key = "allOf" ∨ key = "anyOf" ∨ key = "oneOf") ∧ Schemas30 items) ∨
        (key = "required" ∧ ∃ names : List String, items = names.map .str) ∨
        ((key = "enum" ∨ key = "example") ∧ Json.DistinctItems items)
  | .str _ => key = "type" ∨ key = "example"
  | .bool _ =>
      key = "nullable" ∨ key = "exclusiveMinimum" ∨ key = "exclusiveMaximum" ∨ key = "example"
  | .int _ => key = "minimum" ∨ key = "maximum" ∨ key = "example"
  | .float _ => key = "minimum" ∨ key = "maximum" ∨ key = "example"
  | .null => key = "example"

def PropertySchemas : List (String × Json) → Prop
  | [] => True
  | (_, schema) :: rest => IsSchema30 schema ∧ PropertySchemas rest

def Schemas30 : List Json → Prop
  | [] => True
  | schema :: rest => IsSchema30 schema ∧ Schemas30 rest

end

/-- An exclusive bound is not next to `nullable` without a type. -/
def KeepsBounds (schema : JsonObject) : Prop :=
  isTrue schema "nullable" = true → Dict.get? schema "type" = none →
    (isTrue schema "exclusiveMinimum" = true → Dict.get? schema "minimum" = none) ∧
      (isTrue schema "exclusiveMaximum" = true → Dict.get? schema "maximum" = none)

mutual

/-- No property is named `example`, no enumerated value has a field that is rewritten, no nullable
part of an example has a type that names none, and no exclusive bound is lost. -/
def Survives : Json → Prop
  | .obj fields => KeepsBounds fields ∧ KeywordsSurvive fields
  | _ => True

def KeywordsSurvive : List (String × Json) → Prop
  | [] => True
  | (key, value) :: rest => KeywordSurvives key value ∧ KeywordsSurvive rest

def KeywordSurvives (key : String) : Json → Prop
  | .obj fields =>
      if key = "properties" then "example" ∉ Dict.keys fields ∧ PropertiesSurvive fields
      else if key = "items" then KeepsBounds fields ∧ KeywordsSurvive fields
      else key = "example" → TypesNamed (.obj fields)
  | .arr items =>
      if key = "allOf" ∨ key = "anyOf" ∨ key = "oneOf" then SchemasSurvive items
      else if key = "enum" then ItemsUntouched items
      else key = "example" → ItemsTypesNamed items
  | _ => True

def PropertiesSurvive : List (String × Json) → Prop
  | [] => True
  | (_, schema) :: rest => Survives schema ∧ PropertiesSurvive rest

def SchemasSurvive : List Json → Prop
  | [] => True
  | schema :: rest => Survives schema ∧ SchemasSurvive rest

end

section Keywords

variable {same : Json → Json → Bool} {siblings : JsonObject} {given : Json}

def flagKeywords : List String :=
  ["nullable", "exclusiveMinimum", "exclusiveMaximum"]

/-- The keywords that the end of the conversion rewrites. -/
def rewrittenKeywords : List String :=
  ["type", "minimum", "maximum"]

/-- What a keyword's value is converted to says in 2020-12 what the value said in 3.0. -/
def SameMeaning (same : Json → Json → Bool) (key : String) (value converted : Json) : Prop :=
  if key ∈ rewrittenKeywords then converted = value
  else ∀ siblings others given, holds same .openApi30 siblings key value given =
    holds same .draft202012 others key converted given

/-- The fields of a schema and the assignments its conversion makes. -/
inductive Corresponds (same : Json → Json → Bool) :
    List (String × Json) → List (String × Json) → Prop
  | nil : Corresponds same [] []
  | flag {key : String} {value : Bool} {fields out : List (String × Json)}
      (isFlag : key ∈ flagKeywords) (later : Corresponds same fields out) :
      Corresponds same ((key, .bool value) :: fields) out
  | sample {value converted : Json} {fields out : List (String × Json)}
      (later : Corresponds same fields out) :
      Corresponds same (("example", value) :: fields) (("examples", converted) :: out)
  | keyword {key : String} {value converted : Json} {fields out : List (String × Json)}
      (noFlag : key ∉ flagKeywords) (noSample : key ≠ "example" ∧ key ≠ "examples")
      (meaning : SameMeaning same key value converted) (later : Corresponds same fields out) :
      Corresponds same ((key, value) :: fields) ((key, converted) :: out)

theorem holds_flag {key : String} (isFlag : key ∈ flagKeywords) (value : Bool) :
    holds same .openApi30 siblings key (.bool value) given = true := by
  simp only [flagKeywords, List.mem_cons, List.not_mem_nil, or_false] at isFlag
  rcases isFlag with rfl | rfl | rfl <;> simp [holds, leafHolds]

theorem holds_sample (reading : Reading) {key : String}
    (isSample : key = "example" ∨ key = "examples") (value : Json) :
    holds same reading siblings key value given = true := by
  rcases isSample with rfl | rfl <;> cases value <;> simp [holds, leafHolds]

/-- If every keyword says the same, so do the fields as a whole. -/
theorem forall_holds_iff {fields out : List (String × Json)} {all : JsonObject}
    (corresponds : Corresponds same fields out) (rewrite : String × Json → String × Json)
    (within : fields ⊆ all)
    (samples : ∀ value, rewrite ("examples", value) = ("examples", value))
    (agree : ∀ key value converted, (key, value) ∈ all → SameMeaning same key value converted →
      holds same .draft202012 [] (rewrite (key, converted)).1 (rewrite (key, converted)).2 given =
        holds same .openApi30 siblings key value given) :
    (∀ field ∈ out,
        holds same .draft202012 [] (rewrite field).1 (rewrite field).2 given = true) ↔
      ∀ field ∈ fields, holds same .openApi30 siblings field.1 field.2 given = true := by
  induction corresponds with
  | nil => simp
  | flag isFlag _ ih =>
      rw [List.forall_mem_cons, ih (fun _ present => within (List.mem_cons_of_mem _ present))]
      simp only [holds_flag isFlag, true_and]
  | sample _ ih =>
      rw [List.forall_mem_cons, List.forall_mem_cons,
        ih (fun _ present => within (List.mem_cons_of_mem _ present)), samples]
      simp only [holds_sample .draft202012 (Or.inr rfl), holds_sample .openApi30 (Or.inl rfl)]
  | keyword _ _ meaning _ ih =>
      rw [List.forall_mem_cons, List.forall_mem_cons,
        ih (fun _ present => within (List.mem_cons_of_mem _ present)),
        agree _ _ _ (within List.mem_cons_self) meaning]

/-- The rewritten keywords keep their values until the end of the conversion. -/
theorem Corresponds.get?_rewritten {fields out : List (String × Json)}
    (corresponds : Corresponds same fields out) {key : String} (rewritten : key ∈ rewrittenKeywords) :
    Dict.get? out key = Dict.get? fields key := by
  induction corresponds with
  | nil => rfl
  | @flag flagKey _ _ _ isFlag _ ih =>
      have different : flagKey ≠ key := by
        rintro rfl
        revert isFlag rewritten
        simp only [flagKeywords, rewrittenKeywords, List.mem_cons, List.not_mem_nil, or_false]
        rintro (rfl | rfl | rfl) <;> decide
      rw [Dict.get?_cons, if_neg different, ih]
  | sample _ ih =>
      have different : "example" ≠ key ∧ "examples" ≠ key := by
        constructor
        all_goals
          rintro rfl
          revert rewritten
          decide
      rw [Dict.get?_cons, Dict.get?_cons, if_neg different.1, if_neg different.2, ih]
  | @keyword other _ _ _ _ _ _ meaning _ ih =>
      rw [Dict.get?_cons, Dict.get?_cons, ih]
      by_cases isKey : other = key
      · subst other
        rw [SameMeaning, if_pos rewritten] at meaning
        rw [meaning]
      · rw [if_neg isKey, if_neg isKey]

theorem Corresponds.mem_keys {fields out : List (String × Json)}
    (corresponds : Corresponds same fields out) {key : String} (present : key ∈ Dict.keys out) :
    (key = "examples" ∧ "example" ∈ Dict.keys fields) ∨
      (key ∈ Dict.keys fields ∧ key ∉ flagKeywords ∧ key ≠ "example" ∧ key ≠ "examples") := by
  induction corresponds with
  | nil => cases present
  | flag _ _ ih =>
      rcases ih present with ⟨isSample, sampled⟩ | ⟨inFields, others⟩
      · exact Or.inl ⟨isSample, List.mem_cons_of_mem _ sampled⟩
      · exact Or.inr ⟨List.mem_cons_of_mem _ inFields, others⟩
  | sample _ ih =>
      rcases List.mem_cons.mp present with rfl | later
      · exact Or.inl ⟨rfl, List.mem_cons_self⟩
      · rcases ih later with ⟨isSample, sampled⟩ | ⟨inFields, others⟩
        · exact Or.inl ⟨isSample, List.mem_cons_of_mem _ sampled⟩
        · exact Or.inr ⟨List.mem_cons_of_mem _ inFields, others⟩
  | keyword noFlag noSample _ _ ih =>
      rcases List.mem_cons.mp present with rfl | later
      · exact Or.inr ⟨List.mem_cons_self, noFlag, noSample⟩
      · rcases ih later with ⟨isSample, sampled⟩ | ⟨inFields, others⟩
        · exact Or.inl ⟨isSample, List.mem_cons_of_mem _ sampled⟩
        · exact Or.inr ⟨List.mem_cons_of_mem _ inFields, others⟩

theorem Corresponds.nodup_keys {fields out : List (String × Json)}
    (corresponds : Corresponds same fields out) (unique : (Dict.keys fields).Nodup) :
    (Dict.keys out).Nodup := by
  induction corresponds with
  | nil => exact List.nodup_nil
  | flag _ _ ih =>
      rw [Dict.keys_cons, List.nodup_cons] at unique
      exact ih unique.2
  | sample later ih =>
      rw [Dict.keys_cons, List.nodup_cons] at unique ⊢
      refine ⟨?_, ih unique.2⟩
      intro present
      rcases later.mem_keys present with ⟨_, sampled⟩ | ⟨_, _, _, notSamples⟩
      · exact unique.1 sampled
      · exact notSamples rfl
  | keyword _ noSample _ later ih =>
      rw [Dict.keys_cons, List.nodup_cons] at unique ⊢
      refine ⟨?_, ih unique.2⟩
      intro present
      rcases later.mem_keys present with ⟨isSample, _⟩ | ⟨inFields, _⟩
      · exact noSample.2 isSample
      · exact unique.1 inFields

end Keywords

section Finish

variable {schema out : JsonObject} {exclusive inclusive : String}

/-- Where a field goes when a bound is moved. -/
def movedField (exclusive inclusive : String) (schema : JsonObject) (field : String × Json) :
    String × Json :=
  if isTrue schema exclusive = true ∧ field.1 = inclusive then (exclusive, field.2) else field

theorem mem_moveBound (unique : (Dict.keys out).Nodup) (fresh : exclusive ∉ Dict.keys out)
    {field : String × Json} :
    field ∈ moveBound exclusive inclusive schema out ↔
      ∃ old ∈ out, movedField exclusive inclusive schema old = field := by
  have untouched : (∀ old ∈ out, movedField exclusive inclusive schema old = old) →
      (field ∈ out ↔ ∃ old ∈ out, movedField exclusive inclusive schema old = field) := by
    intro same
    constructor
    · intro present
      exact ⟨field, present, same field present⟩
    · rintro ⟨old, oldMem, rfl⟩
      rwa [same old oldMem]
  unfold moveBound
  cases found : Dict.get? out inclusive with
  | none =>
      apply untouched
      intro old oldMem
      unfold movedField
      rw [if_neg]
      rintro ⟨_, rfl⟩
      exact Dict.get?_eq_none_iff.mp found (List.mem_map_of_mem oldMem)
  | some limit =>
      by_cases flagged : isTrue schema exclusive = true
      · have freshOthers : exclusive ∉ Dict.keys (out.filter fun field => field.1 ≠ inclusive) := by
          intro present
          rcases List.mem_map.mp present with ⟨old, oldMem, rfl⟩
          exact fresh (List.mem_map_of_mem (List.mem_of_mem_filter oldMem))
        have moved : (inclusive, limit) ∈ out := Dict.mem_of_get? found
        simp only [movedField, flagged, if_true, true_and]
        rw [Dict.insert_of_notMem freshOthers, List.mem_append, List.mem_filter, decide_eq_true_eq,
          List.mem_singleton]
        constructor
        · rintro (⟨present, other⟩ | rfl)
          · exact ⟨field, present, if_neg other⟩
          · exact ⟨(inclusive, limit), moved, if_pos rfl⟩
        · rintro ⟨⟨key, value⟩, oldMem, rfl⟩
          split
          case isTrue isBound =>
            subst isBound
            cases found.symm.trans ((Dict.get?_eq_some_iff unique).mpr oldMem)
            exact Or.inr rfl
          case isFalse other => exact Or.inl ⟨oldMem, other⟩
      · simp only [if_neg flagged]
        apply untouched
        intro old _
        simp [movedField, flagged]

theorem mem_keys_moveBound (unique : (Dict.keys out).Nodup) (fresh : exclusive ∉ Dict.keys out)
    {key : String} (present : key ∈ Dict.keys (moveBound exclusive inclusive schema out)) :
    key = exclusive ∨ key ∈ Dict.keys out := by
  rcases List.mem_map.mp present with ⟨field, fieldMem, rfl⟩
  rcases (mem_moveBound unique fresh).mp fieldMem with ⟨old, oldMem, rfl⟩
  unfold movedField
  split
  · exact Or.inl rfl
  · exact Or.inr (List.mem_map_of_mem oldMem)

theorem nodup_keys_moveBound (unique : (Dict.keys out).Nodup) :
    (Dict.keys (moveBound exclusive inclusive schema out)).Nodup := by
  unfold moveBound
  split
  · split
    · apply Dict.nodup_keys_insert
      exact unique.sublist (List.filter_sublist.map Prod.fst)
    · exact unique
  · exact unique

/-- Where a field goes when null is put next to the type. -/
def retypedField (types : Json) (field : String × Json) : String × Json :=
  if field.1 = "type" then ("type", types) else field

theorem mem_insert_type (unique : (Dict.keys out).Nodup) {base types : Json}
    (typed : Dict.get? out "type" = some base) {field : String × Json} :
    field ∈ Dict.insert out "type" types ↔ ∃ old ∈ out, retypedField types old = field := by
  have present : "type" ∈ Dict.keys out := List.mem_map_of_mem (Dict.mem_of_get? typed)
  rw [Dict.insert_of_mem present unique, List.mem_map]
  rfl

theorem typesWithNull_str (Error : Type) (type : String) :
    ∃ names : List String,
      (typesWithNull (.str type) : Except (PyException Error) Json) = .ok (.arr (names.map .str)) ∧
        ∀ name, name ∈ names ↔ name = "null" ∨ name = type := by
  refine ⟨["null", type].dedup.insertionSort (· ≤ ·), rfl, ?_⟩
  intro name
  rw [List.mem_insertionSort, List.mem_dedup, List.mem_cons, List.mem_singleton]

theorem hasType_null (given : Json) : hasType "null" given = isNull given := by
  cases given <;> simp [hasType, isNull]

theorem typeHolds_names {names : List String} {type : String} {given : Json}
    (members : ∀ name, name ∈ names ↔ name = "null" ∨ name = type) :
    typeHolds (.arr (names.map .str)) given = (typeHolds (.str type) given || isNull given) := by
  rw [Bool.eq_iff_iff, Bool.or_eq_true, ← hasType_null]
  simp [typeHolds, Json.string?, members, or_comm]

end Finish

section Schema

variable {same : Json → Json → Bool} {fields out : JsonObject} {Error : Type}

/-- Where a field goes at the end of the conversion, after what happens to the type. -/
def boundedField (schema : JsonObject) (field : String × Json) : String × Json :=
  movedField "exclusiveMaximum" "maximum" schema
    (movedField "exclusiveMinimum" "minimum" schema field)

theorem forall_mem_bounded {typed : JsonObject} (unique : (Dict.keys typed).Nodup)
    (noFlags : ∀ key ∈ flagKeywords, key ∉ Dict.keys typed) {holdsOf : String × Json → Prop} :
    (∀ field ∈ moveBound "exclusiveMaximum" "maximum" fields
        (moveBound "exclusiveMinimum" "minimum" fields typed), holdsOf field) ↔
      ∀ field ∈ typed, holdsOf (boundedField fields field) := by
  have noMinimum := noFlags "exclusiveMinimum" (by decide)
  have noMaximum : "exclusiveMaximum" ∉
      Dict.keys (moveBound "exclusiveMinimum" "minimum" fields typed) := by
    intro present
    rcases mem_keys_moveBound unique noMinimum present with same | present
    · revert same
      decide
    · exact noFlags "exclusiveMaximum" (by decide) present
  simp only [mem_moveBound (nodup_keys_moveBound unique) noMaximum,
    mem_moveBound unique noMinimum, forall_exists_index, and_imp, forall_apply_eq_imp_iff₂,
    boundedField]

theorem SameMeaning.eq {key : String} {value converted : Json}
    (meaning : SameMeaning same key value converted) (rewritten : key ∈ rewrittenKeywords) :
    converted = value := by
  rwa [SameMeaning, if_pos rewritten] at meaning

theorem SameMeaning.holds {key : String} {value converted : Json}
    (meaning : SameMeaning same key value converted) (kept : key ∉ rewrittenKeywords)
    (siblings others : JsonObject) (given : Json) :
    holds same .draft202012 others key converted given =
      holds same .openApi30 siblings key value given := by
  rw [SameMeaning, if_neg kept] at meaning
  exact (meaning siblings others given).symm

theorem isTrue_eq_flag (schema : JsonObject) (key : String) : isTrue schema key = flag schema key :=
  rfl

theorem holds_bounded_minimum (limit given : Json) :
    holds same .draft202012 [] (boundedField fields ("minimum", limit)).1
        (boundedField fields ("minimum", limit)).2 given =
      holds same .openApi30 fields "minimum" limit given := by
  cases flagged : flag fields "exclusiveMinimum" with
  | false =>
      simp [boundedField, movedField, isTrue_eq_flag, flagged, holds_minimum, sharpens]
  | true =>
      simp [boundedField, movedField, isTrue_eq_flag, flagged, holds_minimum, sharpens,
        holds_draft_exclusiveMinimum]

theorem holds_bounded_maximum (limit given : Json) :
    holds same .draft202012 [] (boundedField fields ("maximum", limit)).1
        (boundedField fields ("maximum", limit)).2 given =
      holds same .openApi30 fields "maximum" limit given := by
  cases flagged : flag fields "exclusiveMaximum" with
  | false =>
      simp [boundedField, movedField, isTrue_eq_flag, flagged, holds_maximum, sharpens]
  | true =>
      simp [boundedField, movedField, isTrue_eq_flag, flagged, holds_maximum, sharpens,
        holds_draft_exclusiveMaximum]

theorem boundedField_of_other {key : String} {value : Json} (noMinimum : key ≠ "minimum")
    (noMaximum : key ≠ "maximum") : boundedField fields (key, value) = (key, value) := by
  simp [boundedField, movedField, noMinimum, noMaximum]

theorem holds_bounded {given : Json} {key : String} {value converted : Json}
    (untyped : key ≠ "type") (meaning : SameMeaning same key value converted) :
    holds same .draft202012 [] (boundedField fields (key, converted)).1
        (boundedField fields (key, converted)).2 given =
      holds same .openApi30 fields key value given := by
  by_cases isMinimum : key = "minimum"
  · subst isMinimum
    cases meaning.eq (by decide)
    exact holds_bounded_minimum value given
  · by_cases isMaximum : key = "maximum"
    · subst isMaximum
      cases meaning.eq (by decide)
      exact holds_bounded_maximum value given
    · have kept : key ∉ rewrittenKeywords := by
        simp [rewrittenKeywords, untyped, isMinimum, isMaximum]
      rw [boundedField_of_other isMinimum isMaximum]
      exact meaning.holds kept fields [] given

theorem finishSchema_eq (schema out : JsonObject) :
    (finishSchema schema out : Except (PyException Error) JsonObject) =
      (admitNull schema out).map fun typed =>
        moveBound "exclusiveMaximum" "maximum" schema
          (moveBound "exclusiveMinimum" "minimum" schema typed) := by
  unfold finishSchema
  cases (admitNull schema out : Except (PyException Error) JsonObject) <;> rfl

/-- Without `nullable` next to nothing, the converted keywords say what the keywords said. -/
theorem valid_of_typed {typed : JsonObject} {retype : String × Json → String × Json}
    (corresponds : Corresponds same fields out) (unique : (Dict.keys typed).Nodup)
    (noFlags : ∀ key ∈ flagKeywords, key ∉ Dict.keys typed)
    (mem_typed : ∀ field, field ∈ typed ↔ ∃ old ∈ out, retype old = field) (given : Json)
    (others : ∀ key value, key ≠ "type" → retype (key, value) = (key, value))
    (types : ∀ base, Dict.get? fields "type" = some base →
      holds same .draft202012 [] (boundedField fields (retype ("type", base))).1
          (boundedField fields (retype ("type", base))).2 given =
        holds same .openApi30 fields "type" base given)
    (fieldsUnique : (Dict.keys fields).Nodup) :
    valid same .draft202012 (.obj (moveBound "exclusiveMaximum" "maximum" fields
        (moveBound "exclusiveMinimum" "minimum" fields typed))) given =
      allHold same .openApi30 fields fields given := by
  rw [Bool.eq_iff_iff, valid_draft_eq_true, allHold_eq_true]
  simp only [holds_draft []]
  rw [forall_mem_bounded unique noFlags]
  simp only [mem_typed, forall_exists_index, and_imp, forall_apply_eq_imp_iff₂]
  apply forall_holds_iff corresponds (fun field => boundedField fields (retype field))
    (List.Subset.refl _)
  · intro value
    rw [others "examples" value (by decide), boundedField_of_other (by decide) (by decide)]
  · intro key value converted fieldMem meaning
    by_cases isType : key = "type"
    · subst isType
      cases meaning.eq (by decide)
      exact types value ((Dict.get?_eq_some_iff fieldsUnique).mpr fieldMem)
    · rw [others key converted isType]
      exact holds_bounded isType meaning

/-- A bound that is flagged exclusive is not there, so nothing is moved out of place. -/
theorem KeepsBounds.unmoved (keeps : KeepsBounds fields)
    (nullable : isTrue fields "nullable" = true) (untyped : Dict.get? fields "type" = none)
    {key : String} {value : Json} (fieldMem : (key, value) ∈ fields)
    (unique : (Dict.keys fields).Nodup) (converted : Json) :
    boundedField fields (key, converted) = (key, converted) := by
  have found := (Dict.get?_eq_some_iff unique).mpr fieldMem
  rcases keeps nullable untyped with ⟨noMinimum, noMaximum⟩
  have minimum : ¬(isTrue fields "exclusiveMinimum" = true ∧ key = "minimum") := by
    rintro ⟨flagged, rfl⟩
    cases (noMinimum flagged).symm.trans found
  have maximum : ¬(isTrue fields "exclusiveMaximum" = true ∧ key = "maximum") := by
    rintro ⟨flagged, rfl⟩
    cases (noMaximum flagged).symm.trans found
  simp [boundedField, movedField, minimum, maximum]

/-- Null next to all the rest: a choice between the converted schema and null. -/
theorem valid_wrapped (out : JsonObject) (given : Json) :
    valid same .draft202012
        (.obj [("anyOf", .arr [.obj out, .obj [("type", .str "null")]])]) given =
      (valid same .draft202012 (.obj out) given || isNull given) := by
  have isNullSchema : valid same .draft202012 (.obj [("type", .str "null")]) given =
      isNull given := by
    simp [valid, allHold, holds_type, typeHolds, hasType_null, admitsNull]
  rw [Bool.eq_iff_iff, valid_draft_eq_true]
  simp only [List.mem_singleton, forall_eq, holds, countValid, isNullSchema]
  cases valid same .draft202012 (.obj out) given <;> cases isNull given <;> simp

/-- The bounds are moved in a schema of converted keywords. -/
def boundsMoved (schema out : JsonObject) : JsonObject :=
  moveBound "exclusiveMaximum" "maximum" schema (moveBound "exclusiveMinimum" "minimum" schema out)

theorem Corresponds.noFlags (corresponds : Corresponds same fields out) :
    ∀ key ∈ flagKeywords, key ∉ Dict.keys out := by
  intro key isFlag present
  rcases corresponds.mem_keys present with ⟨rfl, _⟩ | ⟨_, noFlag, _⟩
  · revert isFlag
    decide
  · exact noFlag isFlag

theorem valid_of_notNullable (corresponds : Corresponds same fields out)
    (unique : (Dict.keys fields).Nodup) (notNullable : isTrue fields "nullable" = false)
    (given : Json) :
    valid same .openApi30 (.obj fields) given =
      valid same .draft202012 (.obj (boundsMoved fields out)) given := by
  have notAdmitted : admitsNull .openApi30 fields given = false := by
    simp [admitsNull, ← isTrue_eq_flag, notNullable]
  have unchanged : ∀ field, field ∈ out ↔ ∃ old ∈ out, id old = field := by simp
  rw [valid_obj, notAdmitted, Bool.false_or]
  symm
  refine valid_of_typed corresponds (corresponds.nodup_keys unique) corresponds.noFlags unchanged
    given (fun _ _ _ => rfl) ?_ unique
  intro base _
  simp [boundedField_of_other, holds_type, ← isTrue_eq_flag, notNullable]

theorem valid_of_untyped (corresponds : Corresponds same fields out)
    (unique : (Dict.keys fields).Nodup) (keeps : KeepsBounds fields)
    (nullable : isTrue fields "nullable" = true) (untyped : Dict.get? fields "type" = none)
    (given : Json) :
    valid same .openApi30 (.obj fields) given =
      valid same .draft202012
        (.obj [("anyOf", .arr [.obj out, .obj [("type", .str "null")]])]) given := by
  have admitted : admitsNull .openApi30 fields given = isNull given := by
    simp [admitsNull, ← isTrue_eq_flag, nullable, untyped]
  have unwrapped : valid same .draft202012 (.obj out) given =
      allHold same .openApi30 fields fields given := by
    rw [Bool.eq_iff_iff, valid_draft_eq_true, allHold_eq_true]
    simp only [holds_draft []]
    apply forall_holds_iff corresponds id (List.Subset.refl _) (fun _ => rfl)
    intro key value converted fieldMem meaning
    have noType : key ≠ "type" := by
      rintro rfl
      exact Dict.get?_eq_none_iff.mp untyped (List.mem_map_of_mem fieldMem)
    rw [id, ← holds_bounded noType meaning, keeps.unmoved nullable untyped fieldMem unique]
  rw [valid_wrapped, unwrapped, valid_obj, admitted, Bool.or_comm]

theorem valid_of_typeWithNull (corresponds : Corresponds same fields out)
    (unique : (Dict.keys fields).Nodup) (nullable : isTrue fields "nullable" = true)
    {type : String} (typed : Dict.get? fields "type" = some (.str type)) {names : List String}
    (members : ∀ name, name ∈ names ↔ name = "null" ∨ name = type) (given : Json) :
    valid same .openApi30 (.obj fields) given =
      valid same .draft202012
        (.obj (boundsMoved fields (Dict.insert out "type" (.arr (names.map .str))))) given := by
  have notAdmitted : admitsNull .openApi30 fields given = false := by
    simp [admitsNull, typed]
  have typeKept : Dict.get? out "type" = some (.str type) := by
    rw [corresponds.get?_rewritten (by decide), typed]
  have outUnique := corresponds.nodup_keys unique
  have noFlags : ∀ key ∈ flagKeywords,
      key ∉ Dict.keys (Dict.insert out "type" (.arr (names.map .str))) := by
    intro key isFlag present
    rcases Dict.mem_keys_insert.mp present with rfl | present
    · revert isFlag
      decide
    · exact corresponds.noFlags key isFlag present
  rw [valid_obj, notAdmitted, Bool.false_or]
  symm
  refine valid_of_typed corresponds (Dict.nodup_keys_insert _ _ outUnique) noFlags
    (fun _ => mem_insert_type outUnique typeKept) given ?_ ?_ unique
  · intro key value other
    exact if_neg other
  · intro base isBase
    cases typed.symm.trans isBase
    simp only [retypedField, if_true]
    rw [boundedField_of_other (by decide) (by decide), holds_type, holds_type,
      typeHolds_names members]
    simp [← isTrue_eq_flag, nullable]

/-- What the end of the conversion makes of a schema whose keywords are converted. -/
theorem valid_finishSchema (corresponds : Corresponds same fields out)
    (unique : (Dict.keys fields).Nodup) (keeps : KeepsBounds fields)
    (named : ∀ base, Dict.get? fields "type" = some base → ∃ type, base = .str type) :
    ∃ final, (finishSchema fields (Dict.ofList out) : Except (PyException Error) JsonObject) =
        .ok final ∧
      ∀ given, valid same .openApi30 (.obj fields) given =
        valid same .draft202012 (.obj final) given := by
  have typeKept : Dict.get? out "type" = Dict.get? fields "type" :=
    corresponds.get?_rewritten (by decide)
  rw [Dict.ofList_of_nodup (corresponds.nodup_keys unique), finishSchema_eq, admitNull, typeKept]
  cases nullable : isTrue fields "nullable" with
  | false =>
      refine ⟨boundsMoved fields out, rfl, ?_⟩
      exact valid_of_notNullable corresponds unique nullable
  | true =>
      cases typed : Dict.get? fields "type" with
      | none =>
          refine ⟨[("anyOf", .arr [.obj out, .obj [("type", .str "null")]])], rfl, ?_⟩
          exact valid_of_untyped corresponds unique keeps nullable typed
      | some base =>
          rcases named base typed with ⟨type, rfl⟩
          rcases typesWithNull_str Error type with ⟨names, sorted, members⟩
          refine ⟨boundsMoved fields (Dict.insert out "type" (.arr (names.map .str))), ?_, ?_⟩
          · simp only [if_true, sorted]
            rfl
          · exact valid_of_typeWithNull corresponds unique nullable typed members

end Schema

section Conversion

theorem Keywords30.mem {fields : List (String × Json)} (keywords : Keywords30 fields)
    {field : String × Json} (present : field ∈ fields) : Keyword30 field.1 field.2 := by
  induction fields with
  | nil => cases present
  | cons first rest ih =>
      rcases List.mem_cons.mp present with rfl | later
      · exact keywords.1
      · exact ih keywords.2 later

theorem Keyword30.named {base : Json} (keyword : Keyword30 "type" base) :
    ∃ type, base = .str type := by
  cases base <;> simp [Keyword30] at keyword ⊢

theorem Keyword30.flagged {key : String} {value : Json} (keyword : Keyword30 key value)
    (isFlag : key ∈ flagKeywords) : ∃ flag, value = .bool flag := by
  simp only [flagKeywords, List.mem_cons, List.not_mem_nil, or_false] at isFlag
  cases value <;> simp [Keyword30] at keyword ⊢ <;> rcases isFlag with rfl | rfl | rfl <;>
    simp at keyword

theorem Keyword30.notSamples {key : String} {value : Json} (keyword : Keyword30 key value) :
    key ≠ "examples" := by
  rintro rfl
  cases value <;> simp [Keyword30] at keyword

/-- A map of properties holds schemas, so its conversion ends without a rewrite. -/
theorem isTrue_properties {fields : List (String × Json)} (schemas : PropertySchemas fields)
    (key : String) : isTrue fields key = false := by
  induction fields with
  | nil => rfl
  | cons field rest ih =>
      rcases field with ⟨name, schema⟩
      have later := ih schemas.2
      cases schema with
      | obj inner =>
          by_cases isKey : name = key
          · simp [isTrue, Dict.get?_cons, isKey]
          · simpa [isTrue, Dict.get?_cons, isKey] using later
      | _ => exact absurd schemas.1 id

variable (same : Json → Json → Bool)

/-- Converting raises nothing and keeps what is valid. -/
def Preserves (schema : Json) : Prop :=
  ∃ final, (convert30Schema schema : Except (PyException Unit) Json) = .ok (.obj final) ∧
    ∀ given, valid same .openApi30 schema given = valid same .draft202012 (.obj final) given

/-- The fields are converted one by one, keyword by keyword. -/
def PreservesKeywords (fields : List (String × Json)) : Prop :=
  ∃ out, (convertFields fields : Except (PyException Unit) _) = .ok out ∧
    Corresponds same fields out

variable {same}

theorem PreservesKeywords.object {fields : JsonObject} (converts : PreservesKeywords same fields)
    (unique : (Dict.keys fields).Nodup) (keywords : Keywords30 fields)
    (keeps : KeepsBounds fields) : Preserves same (.obj fields) := by
  rcases converts with ⟨out, converted, corresponds⟩
  have named : ∀ base, Dict.get? fields "type" = some base → ∃ type, base = .str type := by
    intro base found
    exact (keywords.mem (Dict.mem_of_get? found)).named
  rcases valid_finishSchema corresponds unique keeps named with ⟨final, finished, means⟩
  refine ⟨final, ?_, means⟩
  simp only [convert30Schema, converted, bind_eq_ok, pure_eq_ok, Except.ok.injEq,
    exists_eq_left']
  exact ⟨final, finished, rfl⟩

theorem convert30Schema_arr {Error : Type} {items converted : List Json}
    (converts : (convertItems items : Except (PyException Error) (List Json)) = .ok converted) :
    (convert30Schema (.arr items) : Except (PyException Error) Json) = .ok (.arr converted) := by
  simp only [convert30Schema, converts, bind_eq_ok, pure_eq_ok, Except.ok.injEq, exists_eq_left']

/-- A keyword without schemas below it that is left as it is means the same. -/
theorem sameMeaning_leaf {key : String} {items : List Json}
    (isLeaf : key = "required" ∨ key = "enum") :
    SameMeaning same key (.arr items) (.arr items) := by
  rcases isLeaf with rfl | rfl
  · rw [SameMeaning, if_neg (by decide)]
    intro siblings others given
    simp [holds, leafHolds]
  · rw [SameMeaning, if_neg (by decide)]
    intro siblings others given
    simp [holds, leafHolds]

variable (same)

mutual

theorem preserves_schema (schema : Json) (isSchema : IsSchema30 schema)
    (survives : Survives schema) : Preserves same schema := by
  cases schema with
  | obj fields =>
      exact (preserves_keywords fields isSchema.2 survives.2).object isSchema.1 isSchema.2 survives.1
  | _ => exact absurd isSchema id

theorem preserves_keywords (fields : List (String × Json)) (keywords : Keywords30 fields)
    (survive : KeywordsSurvive fields) : PreservesKeywords same fields := by
  cases fields with
  | nil => exact ⟨[], rfl, .nil⟩
  | cons field rest =>
      rcases field with ⟨key, value⟩
      rcases preserves_keywords rest keywords.2 survive.2 with ⟨out, rest_eq, corresponds⟩
      by_cases isFlag : key ∈ flagKeywords
      · rcases keywords.1.flagged isFlag with ⟨flag, rfl⟩
        refine ⟨out, ?_, .flag isFlag corresponds⟩
        have consumed : isConsumed key (.bool flag) = true := decide_eq_true isFlag
        rw [convertFields, if_pos consumed, rest_eq]
      · have notConsumed : ¬isConsumed key value = true := by
          intro consumed
          unfold isConsumed at consumed
          split at consumed
          · exact isFlag (of_decide_eq_true consumed)
          · cases consumed
        rcases preserves_keyword key value keywords.1 survive.1 isFlag with
          ⟨converted, value_eq, meaning⟩
        by_cases isSample : key = "example"
        · subst isSample
          refine ⟨("examples", .arr [converted]) :: out, ?_, .sample corresponds⟩
          simp only [convertFields, if_neg notConsumed, value_eq, rest_eq, bind_eq_ok, pure_eq_ok,
            Except.ok.injEq, exists_eq_left', if_true]
        · refine ⟨(key, converted) :: out, ?_, ?_⟩
          · simp only [convertFields, if_neg notConsumed, value_eq, rest_eq, bind_eq_ok,
              pure_eq_ok, Except.ok.injEq, exists_eq_left', if_neg isSample]
          · have notSamples : key ≠ "examples" := keywords.1.notSamples
            exact .keyword isFlag ⟨isSample, notSamples⟩ (meaning isSample) corresponds

theorem preserves_keyword (key : String) (value : Json) (keyword : Keyword30 key value)
    (survives : KeywordSurvives key value) (noFlag : key ∉ flagKeywords) :
    ∃ converted, (convert30Schema value : Except (PyException Unit) Json) = .ok converted ∧
      (key ≠ "example" → SameMeaning same key value converted) := by
  cases value with
  | obj fields =>
      rcases keyword with ⟨rfl, unique, schemas⟩ | ⟨rfl, unique, keywords⟩ | ⟨rfl, distinct⟩
      · simp only [KeywordSurvives, if_true] at survives
        rcases preserves_properties fields schemas survives.2 survives.1 with
          ⟨out, converted, sameKeys, means⟩
        refine ⟨.obj out, ?_, fun _ => ?_⟩
        · rw [← sameKeys] at unique
          simp only [convert30Schema, converted, bind_eq_ok, pure_eq_ok, Except.ok.injEq,
            exists_eq_left', Dict.ofList_of_nodup unique,
            finishSchema_of_no_flags fun key _ => isTrue_properties schemas key]
        · rw [SameMeaning, if_neg (by decide)]
          intro siblings others given
          simp only [holds, if_true, means]
      · simp only [KeywordSurvives, if_true, String.reduceEq, if_false] at survives
        rcases (preserves_keywords fields keywords survives.2).object unique keywords survives.1
          with ⟨converted, converts, means⟩
        refine ⟨.obj converted, converts, fun _ => ?_⟩
        rw [SameMeaning, if_neg (by decide)]
        intro siblings others given
        simp only [holds, if_true, String.reduceEq, if_false, ← valid_obj, means]
      · simp only [KeywordSurvives, String.reduceEq, if_false] at survives
        have converts := @exists_convert30Schema Unit (.obj fields) (survives trivial) distinct
        rcases converts with ⟨converted, converts⟩
        exact ⟨converted, converts, fun other => absurd rfl other⟩
  | arr items =>
      rcases keyword with ⟨combines, schemas⟩ | ⟨rfl, names, rfl⟩ | ⟨rfl | rfl, distinct⟩
      · simp only [KeywordSurvives, if_pos combines] at survives
        rcases preserves_schemas items schemas survives with ⟨out, converts, length, means⟩
        refine ⟨.arr out, convert30Schema_arr converts, fun _ => ?_⟩
        rcases combines with rfl | rfl | rfl
        all_goals
          rw [SameMeaning, if_neg (by decide)]
          intro siblings others given
          simp [holds, means, length]
      · exact ⟨_, convert30Schema_arr (convertItems_strings names),
          fun _ => sameMeaning_leaf (Or.inl rfl)⟩
      · simp only [KeywordSurvives, String.reduceEq, or_self, if_false, if_true] at survives
        have converts := @convertItems_of_untouched Unit items survives distinct
        exact ⟨.arr items, convert30Schema_arr converts, fun _ => sameMeaning_leaf (Or.inr rfl)⟩
      · simp only [KeywordSurvives, String.reduceEq, or_self, if_false] at survives
        rcases @exists_convertItems Unit items (survives trivial) distinct with
          ⟨converted, converts⟩
        exact ⟨.arr converted, convert30Schema_arr converts, fun other => absurd rfl other⟩
  | bool flag =>
      rcases keyword with rfl | rfl | rfl | rfl
      · exact absurd (by decide) noFlag
      · exact absurd (by decide) noFlag
      · exact absurd (by decide) noFlag
      · exact ⟨_, rfl, fun other => absurd rfl other⟩
  | str text =>
      rcases keyword with rfl | rfl
      · exact ⟨_, rfl, fun _ => rfl⟩
      · exact ⟨_, rfl, fun other => absurd rfl other⟩
  | null => exact ⟨_, rfl, fun other => absurd keyword other⟩
  | int limit =>
      rcases keyword with rfl | rfl | rfl
      · exact ⟨_, rfl, fun _ => rfl⟩
      · exact ⟨_, rfl, fun _ => rfl⟩
      · exact ⟨_, rfl, fun other => absurd rfl other⟩
  | float limit =>
      rcases keyword with rfl | rfl | rfl
      · exact ⟨_, rfl, fun _ => rfl⟩
      · exact ⟨_, rfl, fun _ => rfl⟩
      · exact ⟨_, rfl, fun other => absurd rfl other⟩

theorem preserves_properties (fields : List (String × Json)) (schemas : PropertySchemas fields)
    (survive : PropertiesSurvive fields) (noExample : "example" ∉ Dict.keys fields) :
    ∃ out, (convertFields fields : Except (PyException Unit) _) = .ok out ∧
      Dict.keys out = Dict.keys fields ∧
      ∀ given, propertiesHold same .openApi30 fields given =
        propertiesHold same .draft202012 out given := by
  cases fields with
  | nil => exact ⟨[], rfl, rfl, fun _ => by simp only [propertiesHold]⟩
  | cons field rest =>
      rcases field with ⟨name, schema⟩
      rw [Dict.keys_cons, List.mem_cons, not_or] at noExample
      rcases preserves_schema schema schemas.1 survive.1 with ⟨converted, schema_eq, means⟩
      rcases preserves_properties rest schemas.2 survive.2 noExample.2 with
        ⟨out, rest_eq, sameKeys, restMeans⟩
      have notConsumed : ¬isConsumed name schema = true := by
        cases schema with
        | obj inner => simp [isConsumed]
        | _ => exact absurd schemas.1 id
      refine ⟨(name, .obj converted) :: out, ?_, ?_, ?_⟩
      · simp only [convertFields, if_neg notConsumed, schema_eq, rest_eq, bind_eq_ok, pure_eq_ok,
          Except.ok.injEq, exists_eq_left', if_neg (Ne.symm noExample.1)]
      · rw [Dict.keys_cons, Dict.keys_cons, sameKeys]
      · intro given
        simp only [propertiesHold, restMeans, means]

theorem preserves_schemas (items : List Json) (schemas : Schemas30 items)
    (survive : SchemasSurvive items) :
    ∃ out, (convertItems items : Except (PyException Unit) _) = .ok out ∧
      out.length = items.length ∧
      ∀ given, countValid same .openApi30 items given =
        countValid same .draft202012 out given := by
  cases items with
  | nil => exact ⟨[], rfl, rfl, fun _ => by simp only [countValid]⟩
  | cons schema rest =>
      rcases preserves_schema schema schemas.1 survive.1 with ⟨converted, schema_eq, means⟩
      rcases preserves_schemas rest schemas.2 survive.2 with ⟨out, rest_eq, sameLength, restMeans⟩
      refine ⟨.obj converted :: out, ?_, ?_, ?_⟩
      · simp only [convertItems, schema_eq, rest_eq, bind_eq_ok, pure_eq_ok, Except.ok.injEq,
          exists_eq_left']
      · rw [List.length_cons, List.length_cons, sameLength]
      · intro given
        simp only [countValid, restMeans, means]

end

/-- The conversion raises nothing, and an instance is valid under the converted schema, read as
2020-12, just when it is under the schema in the 3.0 reading. -/
def PreservesMeaning (schema : Json) : Prop :=
  ∃ converted, (convert30Schema schema : Except (PyException Unit) Json) = .ok converted ∧
    ∀ given, valid same .openApi30 schema given = true ↔
      valid same .draft202012 converted given = true

theorem convert30Schema_preservesMeaning (schema : Json) (isSchema : IsSchema30 schema)
    (survives : Survives schema) : PreservesMeaning same schema := by
  rcases preserves_schema same schema isSchema survives with ⟨final, converts, means⟩
  refine ⟨.obj final, converts, fun given => ?_⟩
  rw [means given]

end Conversion

/-- An amount above zero or null, and a note of two kinds; a property may be named as a
keyword is. -/
def transferSchema : Json :=
  .obj
    [ ("type", .str "object"),
      ("required", .arr [.str "amount"]),
      ("properties", .obj
        [ ("amount", .obj
            [ ("type", .str "integer"), ("nullable", .bool true), ("minimum", .int 0),
              ("exclusiveMinimum", .bool true), ("example", .int 5) ]),
          ("nullable", .obj
            [ ("nullable", .bool true),
              ("anyOf", .arr [.obj [("type", .str "string")], .obj [("enum", .arr [.int 1])]]) ]) ]) ]

theorem convert30Schema_preservesMeaning_transfer : PreservesMeaning Json.pyEq transferSchema := by
  apply convert30Schema_preservesMeaning
  · simp [transferSchema, IsSchema30, Keywords30, Keyword30, PropertySchemas, Schemas30,
      Json.DistinctItems, Json.Distinct, Dict.keys]
    exact ⟨["amount"], rfl⟩
  · simp [transferSchema, Survives, KeywordsSurvive, KeywordSurvives, PropertiesSurvive,
      SchemasSurvive, KeepsBounds, ItemsUntouched, Untouched, isTrue, Dict.get?, Dict.keys]

def openBound : Json :=
  .obj [("nullable", .bool true), ("minimum", .int 5), ("exclusiveMinimum", .bool true)]

def sampleProperty : Json :=
  .obj [("properties", .obj [("example", .obj [("type", .str "string")])])]

def sampleValue : Json :=
  .obj [("enum", .arr [.obj [("example", .int 1)]])]

/-- The bound becomes inclusive, the property is no longer checked, the value is no longer one
of those enumerated. -/
theorem convert30Schema_changes_meaning :
    (IsSchema30 openBound ∧ ¬PreservesMeaning Json.pyEq openBound) ∧
      (IsSchema30 sampleProperty ∧ ¬PreservesMeaning Json.pyEq sampleProperty) ∧
      (IsSchema30 sampleValue ∧ ¬PreservesMeaning Json.pyEq sampleValue) := by
  refine ⟨⟨?_, ?_⟩, ⟨?_, ?_⟩, ⟨?_, ?_⟩⟩
  · simp [openBound, IsSchema30, Keywords30, Keyword30, Dict.keys]
  · rintro ⟨converted, converts, means⟩
    cases converts
    exact absurd (means (.int 5)) (by decide +kernel)
  · simp [sampleProperty, IsSchema30, Keywords30, Keyword30, PropertySchemas, Dict.keys]
  · rintro ⟨converted, converts, means⟩
    cases converts
    exact absurd (means (.obj [("example", .int 5)])) (by decide +kernel)
  · simp [sampleValue, IsSchema30, Keywords30, Keyword30, Json.DistinctItems, Json.Distinct,
      Json.DistinctFields, Dict.keys]
  · rintro ⟨converted, converts, means⟩
    cases converts
    exact absurd (means (.obj [("example", .int 1)])) (by decide +kernel)

end McpPortal
