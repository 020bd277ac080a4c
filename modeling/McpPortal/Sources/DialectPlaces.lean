import McpPortal.Sources.DialectMeaning
import McpPortal.Sources.Places

/-!
# What the conversion leaves at a place

The conversion keeps a schema under its key, unless the key is one it rewrites, or puts
it within the choice between the schema around it and null. Whatever is converted, null
is accepted after the conversion if it was accepted before.
-/

namespace McpPortal

open Foundation JsonSchema

mutual

/-- No dictionary within the value has a key twice. -/
def DistinctKeys : Json → Prop
  | .obj fields => (Dict.keys fields).Nodup ∧ FieldsDistinct fields
  | .arr items => ItemsDistinct items
  | _ => True

def ItemsDistinct : List Json → Prop
  | [] => True
  | item :: rest => DistinctKeys item ∧ ItemsDistinct rest

def FieldsDistinct : List (String × Json) → Prop
  | [] => True
  | (_, value) :: rest => DistinctKeys value ∧ FieldsDistinct rest

end

theorem FieldsDistinct.of_mem {fields : List (String × Json)} (distinct : FieldsDistinct fields)
    {key : String} {value : Json} (fieldMem : (key, value) ∈ fields) : DistinctKeys value := by
  induction fields with
  | nil => cases fieldMem
  | cons field rest ih =>
      rcases List.mem_cons.mp fieldMem with rfl | later
      · exact distinct.1
      · exact ih distinct.2 later

theorem ItemsDistinct.of_mem {items : List Json} (distinct : ItemsDistinct items) {item : Json}
    (itemMem : item ∈ items) : DistinctKeys item := by
  induction items with
  | nil => cases itemMem
  | cons first rest ih =>
      rcases List.mem_cons.mp itemMem with rfl | later
      · exact distinct.1
      · exact ih distinct.2 later

theorem DistinctKeys.within {part value : Json} (distinct : DistinctKeys value)
    (within : Within part value) : DistinctKeys part := by
  induction within with
  | here => exact distinct
  | item itemMem _ ih => exact ih (ItemsDistinct.of_mem distinct itemMem)
  | field fieldMem _ ih => exact ih (distinct.2.of_mem fieldMem)

section Finish

variable {Error : Type} {schema out final : JsonObject} {key : String}

/-- The keys the end of the conversion touches, given the flags of the schema. -/
def rewrites (schema : JsonObject) (key : String) : Bool :=
  (isTrue schema "nullable" && key = "type") ||
    (isTrue schema "exclusiveMinimum" && (key = "minimum" || key = "exclusiveMinimum")) ||
    (isTrue schema "exclusiveMaximum" && (key = "maximum" || key = "exclusiveMaximum"))

/-- The object that has the fields of a converted schema. -/
def fieldsLeft (schema final : JsonObject) : JsonObject :=
  if isTrue schema "nullable" = true ∧ Dict.get? schema "type" = none then
    match Dict.get? final "anyOf" with
    | some (.arr (.obj inner :: _)) => inner
    | _ => []
  else final

theorem get?_moveBound {exclusive inclusive : String}
    (unmoved : isTrue schema exclusive = true → key ≠ inclusive ∧ key ≠ exclusive) :
    Dict.get? (moveBound exclusive inclusive schema out) key = Dict.get? out key := by
  unfold moveBound
  split
  · split
    case isTrue flagged =>
      rcases unmoved flagged with ⟨notInclusive, notExclusive⟩
      have kept := Dict.get?_filter (fun other => decide (other ≠ inclusive)) out key
      rw [Dict.get?_insert_of_ne _ _ (Ne.symm notExclusive), kept,
        if_pos (decide_eq_true notInclusive)]
    case isFalse => rfl
  · rfl

theorem get?_boundsMoved (untouched : rewrites schema key = false) :
    Dict.get? (boundsMoved schema out) key = Dict.get? out key := by
  simp only [rewrites, Bool.or_eq_false_iff, Bool.and_eq_false_iff, decide_eq_false_iff_not]
    at untouched
  rw [boundsMoved, get?_moveBound, get?_moveBound]
  · intro flagged
    simpa [flagged] using untouched.1.2
  · intro flagged
    simpa [flagged] using untouched.2

/-- The fields that the end of the conversion does not touch are kept. -/
theorem get?_fieldsLeft
    (finished : (finishSchema schema out : Except (PyException Error) JsonObject) = .ok final)
    (sameTyped : Dict.get? schema "type" = none ↔ Dict.get? out "type" = none)
    (untouched : rewrites schema key = false) :
    Dict.get? (fieldsLeft schema final) key = Dict.get? out key := by
  rw [finishSchema_eq] at finished
  rcases map_eq_ok.mp finished with ⟨typed, admitted, rfl⟩
  change Dict.get? (fieldsLeft schema (boundsMoved schema typed)) key = _
  unfold admitNull at admitted
  split at admitted
  case isTrue nullable =>
    split at admitted
    case h_1 base typedOut =>
      rcases bind_eq_ok.mp admitted with ⟨types, _, collected⟩
      cases collected
      have notType : "type" ≠ key := by
        rintro rfl
        simp [rewrites, nullable] at untouched
      have typedSchema : Dict.get? schema "type" ≠ none := by
        rw [Ne, sameTyped, typedOut]
        exact Option.some_ne_none base
      rw [fieldsLeft, if_neg (fun both => typedSchema both.2), get?_boundsMoved untouched,
        Dict.get?_insert_of_ne _ _ notType]
    case h_2 untyped =>
      cases admitted
      rw [fieldsLeft, if_pos ⟨nullable, sameTyped.mpr untyped⟩]
      rfl
  case isFalse notNullable =>
    cases admitted
    rw [fieldsLeft, if_neg (fun both => notNullable both.1), get?_boundsMoved untouched]

end Finish

/-- What the conversion leaves of a part; a key it rewrites or an example takes has nothing left. -/
def childLeft (before after : Json) (segment : PathSegment) : Option Json :=
  match before, after, segment with
  | .obj fields, .obj final, .field key =>
      if rewrites fields key || key = "example" ||
          (key = "examples" && "example" ∈ Dict.keys fields) then none
      else Dict.get? (fieldsLeft fields final) key
  | .arr _, .arr final, .item index => final[index]?
  | _, _, _ => none

/-- What the conversion leaves at a place of a value. -/
def leftAt : List PathSegment → Json → Json → Option Json
  | [], _, after => some after
  | segment :: path, before, after => do
      let inside ← child before segment
      let left ← childLeft before after segment
      leftAt path inside left

section Places

variable {Error : Type}

theorem convertItems_get? {items out : List Json} {index : Nat} {item left : Json}
    (ran : (convertItems items : Except (PyException Error) (List Json)) = .ok out)
    (present : items[index]? = some item) (found : out[index]? = some left) :
    (convert30Schema item : Except (PyException Error) Json) = .ok left := by
  induction items generalizing out index with
  | nil => cases present
  | cons first rest ih =>
      simp only [convertItems, bind_eq_ok, pure_eq_ok] at ran
      rcases ran with ⟨converted, converts, others, ranRest, rfl⟩
      cases index with
      | zero =>
          cases present
          cases found
          exact converts
      | succ index => exact ih ranRest present found

/-- The keys of the schema are typed before and after. -/
theorem typed_iff {fields assigned : List (String × Json)} (unique : (Dict.keys fields).Nodup)
    (ran : (convertFields fields : Except (PyException Error) _) = .ok assigned) :
    Dict.get? fields "type" = none ↔ Dict.get? (Dict.ofList assigned) "type" = none := by
  have untaken : Untaken fields "type" := ⟨by decide, fun isExamples => absurd isExamples (by decide)⟩
  have left := fieldLeft_ofList untaken unique ran
  generalize Dict.get? fields "type" = before, Dict.get? (Dict.ofList assigned) "type" = after at left
  cases left with
  | absent => exact Iff.rfl
  | @consumed value consumed => cases value <;> cases consumed
  | converted _ => simp

theorem childLeft_converted {before after inside left : Json} {segment : PathSegment}
    (distinct : DistinctKeys before)
    (ran : (convert30Schema before : Except (PyException Error) Json) = .ok after)
    (present : child before segment = some inside)
    (kept : childLeft before after segment = some left) :
    (convert30Schema inside : Except (PyException Error) Json) = .ok left := by
  cases before with
  | obj fields =>
      cases segment with
      | item index => cases present
      | field key =>
          simp only [convert30Schema, bind_eq_ok, pure_eq_ok] at ran
          rcases ran with ⟨assigned, assigns, final, finished, rfl⟩
          rw [childLeft] at kept
          split at kept
          · cases kept
          case isFalse notTaken =>
            simp only [Bool.or_eq_true, Bool.and_eq_true, decide_eq_true_eq, not_or, not_and,
              Bool.not_eq_true] at notTaken
            rcases notTaken with ⟨⟨untouched, notExample⟩, notExamples⟩
            rw [get?_fieldsLeft finished (typed_iff distinct.1 assigns) untouched] at kept
            have left := fieldLeft_ofList ⟨notExample, notExamples⟩ distinct.1 assigns
            rw [child] at present
            rw [present, kept] at left
            cases left with
            | converted converts => exact converts
  | arr items =>
      cases segment with
      | field key => cases present
      | item index =>
          simp only [convert30Schema, bind_eq_ok, pure_eq_ok] at ran
          rcases ran with ⟨out, converts, rfl⟩
          exact convertItems_get? converts present kept
  | _ => cases segment <;> cases present

/-- At a place stands what the value there is converted to. -/
theorem leftAt_converted {path : List PathSegment} {before after inside left : Json}
    (distinct : DistinctKeys before)
    (ran : (convert30Schema before : Except (PyException Error) Json) = .ok after)
    (present : valueAt path before = some inside) (kept : leftAt path before after = some left) :
    (convert30Schema inside : Except (PyException Error) Json) = .ok left := by
  induction path generalizing before after with
  | nil =>
      cases present
      cases kept
      exact ran
  | cons segment path ih =>
      rcases Option.bind_eq_some_iff.mp present with ⟨next, isNext, below⟩
      rw [leftAt, isNext, Option.bind_eq_bind, Option.bind_some] at kept
      rcases Option.bind_eq_some_iff.mp kept with ⟨nextLeft, isLeft, keptBelow⟩
      exact ih (distinct.within (within_of_child isNext))
        (childLeft_converted distinct ran isNext isLeft) below keptBelow

end Places

section Null

variable {same : Json → Json → Bool} {Error : Type}

/-- The keywords that may reject null. -/
def nullKeywords : List String :=
  ["type", "allOf", "anyOf", "oneOf", "enum"]

theorem lowerHolds_null (strict : Bool) (limit : Json) : lowerHolds strict limit .null = true := by
  unfold lowerHolds
  cases amount? limit <;> rfl

theorem upperHolds_null (strict : Bool) (limit : Json) : upperHolds strict limit .null = true := by
  unfold upperHolds
  cases amount? limit <;> rfl

theorem requiredHolds_null (names : Json) : requiredHolds names .null = true := by
  cases names <;> rfl

theorem propertiesHold_null (reading : Reading) (properties : List (String × Json)) :
    propertiesHold same reading properties .null = true := by
  induction properties with
  | nil => rw [propertiesHold]
  | cons property rest ih =>
      rcases property with ⟨name, schema⟩
      rw [propertiesHold, ih]
      rfl

theorem leafHolds_null (reading : Reading) (siblings : JsonObject) {key : String} (value : Json)
    (tolerant : key ∉ nullKeywords) : leafHolds same reading siblings key value .null = true := by
  simp only [nullKeywords, List.mem_cons, List.not_mem_nil, or_false, not_or] at tolerant
  simp [leafHolds, tolerant, lowerHolds_null, upperHolds_null, requiredHolds_null]

theorem holds_null (reading : Reading) (siblings : JsonObject) {key : String} (value : Json)
    (tolerant : key ∉ nullKeywords) : holds same reading siblings key value .null = true := by
  have leaf : leafHolds same reading siblings key value .null = true :=
    leafHolds_null reading siblings value tolerant
  simp only [nullKeywords, List.mem_cons, List.not_mem_nil, or_false, not_or] at tolerant
  cases value <;> simp [holds, tolerant, leaf, propertiesHold_null, itemsOf]

/-- An object accepts null if the keywords that may reject it do not. -/
theorem allHold_null_iff {fields : JsonObject} (unique : (Dict.keys fields).Nodup)
    (reading : Reading) (siblings : JsonObject) :
    allHold same reading siblings fields .null = true ↔
      ∀ key ∈ nullKeywords, ∀ value, Dict.get? fields key = some value →
        holds same reading siblings key value .null = true := by
  rw [allHold_eq_true]
  constructor
  · intro all key _ value found
    exact all (key, value) (Dict.mem_of_get? found)
  · rintro tolerate ⟨key, value⟩ fieldMem
    by_cases mayReject : key ∈ nullKeywords
    · exact tolerate key mayReject value ((Dict.get?_eq_some_iff unique).mpr fieldMem)
    · exact holds_null reading siblings value mayReject

variable {Error : Type}

theorem string?_converted {item converted : Json}
    (ran : (convert30Schema item : Except (PyException Error) Json) = .ok converted) :
    converted.string? = item.string? := by
  cases item with
  | obj fields =>
      simp only [convert30Schema, bind_eq_ok, pure_eq_ok] at ran
      rcases ran with ⟨_, _, _, _, rfl⟩
      rfl
  | arr items =>
      simp only [convert30Schema, bind_eq_ok, pure_eq_ok] at ran
      rcases ran with ⟨_, _, rfl⟩
      rfl
  | _ =>
      cases ran
      rfl

theorem isNull_converted {item converted : Json}
    (ran : (convert30Schema item : Except (PyException Error) Json) = .ok converted) :
    isNull converted = isNull item := by
  cases item with
  | obj fields =>
      simp only [convert30Schema, bind_eq_ok, pure_eq_ok] at ran
      rcases ran with ⟨_, _, _, _, rfl⟩
      rfl
  | arr items =>
      simp only [convert30Schema, bind_eq_ok, pure_eq_ok] at ran
      rcases ran with ⟨_, _, rfl⟩
      rfl
  | _ =>
      cases ran
      rfl

/-- A test of items that the conversion does not change. -/
theorem any_converted {test : Json → Bool} {items converted : List Json}
    (unchanged : ∀ item left, item ∈ items →
      (convert30Schema item : Except (PyException Error) Json) = .ok left → test left = test item)
    (ran : (convertItems items : Except (PyException Error) (List Json)) = .ok converted) :
    converted.any test = items.any test := by
  induction items generalizing converted with
  | nil =>
      cases ran
      rfl
  | cons first rest ih =>
      simp only [convertItems, bind_eq_ok, pure_eq_ok] at ran
      rcases ran with ⟨left, converts, others, ranRest, rfl⟩
      rw [List.any_cons, List.any_cons, unchanged first left List.mem_cons_self converts,
        ih (fun item left itemMem => unchanged item left (List.mem_cons_of_mem first itemMem))
          ranRest]

theorem typeHolds_converted {types converted given : Json}
    (ran : (convert30Schema types : Except (PyException Error) Json) = .ok converted) :
    typeHolds converted given = typeHolds types given := by
  cases types with
  | obj fields =>
      simp only [convert30Schema, bind_eq_ok, pure_eq_ok] at ran
      rcases ran with ⟨_, _, _, _, rfl⟩
      rfl
  | arr items =>
      simp only [convert30Schema, bind_eq_ok, pure_eq_ok] at ran
      rcases ran with ⟨out, converts, rfl⟩
      apply any_converted _ converts
      intro item left _ itemConverts
      rw [string?_converted itemConverts]
  | _ =>
      cases ran
      rfl

theorem typeHolds_withNull (names : List String) :
    typeHolds (.arr ((("null" :: names).dedup.insertionSort (· ≤ ·)).map .str)) .null = true := by
  simp only [typeHolds, List.any_map, List.any_eq_true, Function.comp]
  refine ⟨"null", ?_, rfl⟩
  simp [List.mem_insertionSort]

/-- The types that have null added to them hold of null. -/
theorem typeHolds_typesWithNull {base types : Json}
    (ran : (typesWithNull base : Except (PyException Error) Json) = .ok types) :
    typeHolds types .null = true := by
  unfold typesWithNull at ran
  split at ran
  all_goals
    dsimp only at ran
    split at ran
    · cases ran
      exact typeHolds_withNull _
    · cases ran

/-- A keyword that may reject null does so before and after the conversion, or neither. -/
def SameOfNull (same : Json → Json → Bool) (key : String) (value converted : Json) : Prop :=
  ∀ siblings, isTrue siblings "nullable" = false ∨ key ≠ "type" →
    holds same .draft202012 [] key converted .null = holds same .openApi30 siblings key value .null

/-- A keyword that may reject null is converted in its place. -/
theorem fieldLeft_nullKeyword {fields assigned : JsonObject} {key : String}
    (mayReject : key ∈ nullKeywords) (unique : (Dict.keys fields).Nodup)
    (ran : (convertFields fields : Except (PyException Error) _) = .ok assigned) :
    (Dict.get? fields key = none ∧ Dict.get? (Dict.ofList assigned) key = none) ∨
      ∃ value converted, Dict.get? fields key = some value ∧
        (convert30Schema value : Except (PyException Error) Json) = .ok converted ∧
        Dict.get? (Dict.ofList assigned) key = some converted := by
  have noSample : key ≠ "example" ∧ key ≠ "examples" ∧
      key ∉ ["nullable", "exclusiveMinimum", "exclusiveMaximum"] := by
    revert key
    decide
  have left := fieldLeft_ofList ⟨noSample.1, fun isExamples => absurd isExamples noSample.2.1⟩
    unique ran
  generalize Dict.get? fields key = before, Dict.get? (Dict.ofList assigned) key = after at left
  cases left with
  | absent => exact Or.inl ⟨rfl, rfl⟩
  | @consumed value consumed =>
      cases value with
      | bool flag => exact absurd (of_decide_eq_true consumed) noSample.2.2
      | _ => cases consumed
  | converted converts => exact Or.inr ⟨_, _, rfl, converts, rfl⟩

theorem get?_boundsMoved_nullKeyword {schema out : JsonObject} {key : String}
    (mayReject : key ∈ nullKeywords) :
    Dict.get? (boundsMoved schema out) key = Dict.get? out key := by
  have noBound : (key ≠ "minimum" ∧ key ≠ "exclusiveMinimum") ∧
      key ≠ "maximum" ∧ key ≠ "exclusiveMaximum" := by
    revert key
    decide
  rw [boundsMoved, get?_moveBound fun _ => noBound.2, get?_moveBound fun _ => noBound.1]

/-- The converted object accepts null if its keywords that may reject it do not. -/
theorem valid_null_iff_of_typed {fields assigned typed : JsonObject}
    (unique : (Dict.keys fields).Nodup) (typedUnique : (Dict.keys typed).Nodup)
    (typedNull : isTrue fields "nullable" = true → Dict.get? fields "type" ≠ none)
    (ran : (convertFields fields : Except (PyException Error) _) = .ok assigned)
    (keywords : ∀ key ∈ nullKeywords, ∀ value converted, Dict.get? fields key = some value →
      (convert30Schema value : Except (PyException Error) Json) = .ok converted →
      SameOfNull same key value converted)
    (kept : ∀ key ∈ nullKeywords, isTrue fields "nullable" = false ∨ key ≠ "type" →
      Dict.get? typed key = Dict.get? (Dict.ofList assigned) key)
    (retyped : isTrue fields "nullable" = true →
      ∃ types, Dict.get? typed "type" = some types ∧ typeHolds types .null = true) :
    valid same .draft202012 (.obj (boundsMoved fields typed)) .null =
      valid same .openApi30 (.obj fields) .null := by
  have noneAdmitted : admitsNull .openApi30 fields .null = false := by
    rw [admitsNull, ← isTrue_eq_flag]
    cases nullable : isTrue fields "nullable" with
    | false => rfl
    | true => simp [typedNull nullable]
  have movedUnique : (Dict.keys (boundsMoved fields typed)).Nodup :=
    nodup_keys_moveBound (nodup_keys_moveBound typedUnique)
  rw [valid_obj, valid_obj, noneAdmitted, Bool.false_or]
  rw [show admitsNull .draft202012 (boundsMoved fields typed) .null = false from rfl, Bool.false_or,
    Bool.eq_iff_iff, allHold_null_iff movedUnique, allHold_null_iff unique]
  refine forall₂_congr fun key mayReject => ?_
  rw [get?_boundsMoved_nullKeyword mayReject]
  simp only [holds_draft []]
  by_cases widened : isTrue fields "nullable" = true ∧ key = "type"
  · rcases widened with ⟨nullable, rfl⟩
    rcases retyped nullable with ⟨types, found, holdsNull⟩
    rw [found]
    constructor
    · intro _ value _
      rw [holds_type, ← isTrue_eq_flag, nullable]
      simp [isNull]
    · rintro _ value ⟨⟩
      rw [holds_type, holdsNull, Bool.true_or]
  · have narrow : isTrue fields "nullable" = false ∨ key ≠ "type" := by
      cases nullable : isTrue fields "nullable" with
      | false => exact Or.inl rfl
      | true => exact Or.inr fun isType => widened ⟨nullable, isType⟩
    rw [kept key mayReject narrow]
    rcases fieldLeft_nullKeyword mayReject unique ran with
      ⟨absent, noneLeft⟩ | ⟨value, converted, found, converts, left⟩
    · rw [absent, noneLeft]
      simp
    · rw [found, left]
      simp only [Option.some.injEq, forall_eq']
      rw [keywords key mayReject value converted found converts fields narrow]

/-- An object accepts null after the conversion if it did before. -/
theorem valid_null_of_keywords {fields assigned final : JsonObject}
    (unique : (Dict.keys fields).Nodup)
    (ran : (convertFields fields : Except (PyException Error) _) = .ok assigned)
    (finished : (finishSchema fields (Dict.ofList assigned) :
      Except (PyException Error) JsonObject) = .ok final)
    (keywords : ∀ key ∈ nullKeywords, ∀ value converted, Dict.get? fields key = some value →
      (convert30Schema value : Except (PyException Error) Json) = .ok converted →
      SameOfNull same key value converted) :
    valid same .draft202012 (.obj final) .null = valid same .openApi30 (.obj fields) .null := by
  rw [finishSchema_eq] at finished
  rcases map_eq_ok.mp finished with ⟨typed, admitted, rfl⟩
  change valid same .draft202012 (.obj (boundsMoved fields typed)) .null = _
  have outUnique := Dict.nodup_keys_ofList assigned
  unfold admitNull at admitted
  split at admitted
  case isTrue nullable =>
    split at admitted
    case h_1 base typedOut =>
      rcases bind_eq_ok.mp admitted with ⟨types, widened, collected⟩
      cases collected
      refine valid_null_iff_of_typed unique (Dict.nodup_keys_insert "type" types outUnique) ?_ ran
        keywords ?_ ?_
      · rw [Ne, typed_iff unique ran, typedOut]
        exact fun _ => Option.some_ne_none base
      · rintro key _ (notNullable | notType)
        · cases nullable.symm.trans notNullable
        · rw [Dict.get?_insert_of_ne _ _ (Ne.symm notType)]
      · intro _
        exact ⟨types, Dict.get?_insert_self _ _ _, typeHolds_typesWithNull widened⟩
    case h_2 untyped =>
      cases admitted
      have accepted : valid same .openApi30 (.obj fields) .null = true := by
        rw [valid_obj, admitsNull, ← isTrue_eq_flag, nullable, (typed_iff unique ran).mpr untyped]
        rfl
      rw [accepted]
      exact (valid_wrapped (Dict.ofList assigned) .null).trans (Bool.or_true _)
  case isFalse notNullable =>
    cases admitted
    refine valid_null_iff_of_typed unique outUnique ?_ ran keywords ?_ ?_
    · exact fun nullable => absurd nullable notNullable
    · exact fun _ _ _ => rfl
    · exact fun nullable => absurd nullable notNullable

theorem sameOfNull_type {types converted : Json}
    (ran : (convert30Schema types : Except (PyException Error) Json) = .ok converted) :
    SameOfNull same "type" types converted := by
  rintro siblings (notNullable | notType)
  · rw [holds_type, holds_type, typeHolds_converted ran, ← isTrue_eq_flag siblings, notNullable]
    simp
  · exact absurd rfl notType

theorem length_convertItems {items out : List Json}
    (ran : (convertItems items : Except (PyException Error) (List Json)) = .ok out) :
    out.length = items.length := by
  induction items generalizing out with
  | nil =>
      cases ran
      rfl
  | cons first rest ih =>
      simp only [convertItems, bind_eq_ok, pure_eq_ok] at ran
      rcases ran with ⟨_, _, others, ranRest, rfl⟩
      rw [List.length_cons, List.length_cons, ih ranRest]

/-- A keyword whose value is no list does not reject null, if it is not `type`. -/
theorem holds_null_of_not_arr (reading : Reading) (siblings : JsonObject) {key : String}
    {value : Json} (notType : key ≠ "type") (noList : ∀ items, value ≠ .arr items) :
    holds same reading siblings key value .null = true := by
  by_cases mayReject : key ∈ nullKeywords
  · simp only [nullKeywords, List.mem_cons, List.not_mem_nil, or_false, notType, false_or]
      at mayReject
    rcases mayReject with rfl | rfl | rfl | rfl <;>
      cases value <;> simp_all [holds, leafHolds, enumHolds]
  · exact holds_null reading siblings value mayReject

/-- An enumeration has null if it had null before. -/
theorem sameOfNull_enum (nullAlone : ∀ value, same value .null = isNull value)
    {items out : List Json}
    (ran : (convertItems items : Except (PyException Error) (List Json)) = .ok out) :
    SameOfNull same "enum" (.arr items) (.arr out) := by
  intro siblings _
  have enumerated : out.any (fun item => same item .null) = items.any fun item => same item .null := by
    apply any_converted _ ran
    intro item left _ converts
    rw [nullAlone, nullAlone, isNull_converted converts]
  simpa [holds, leafHolds, enumHolds] using enumerated

mutual

/-- What accepts null before the conversion accepts it afterwards, and nothing else does. -/
theorem valid_null_converted (nullAlone : ∀ value, same value .null = isNull value)
    {schema converted : Json} (distinct : DistinctKeys schema)
    (ran : (convert30Schema schema : Except (PyException Error) Json) = .ok converted) :
    valid same .draft202012 converted .null = valid same .openApi30 schema .null := by
  cases schema with
  | obj fields =>
      simp only [convert30Schema, bind_eq_ok, pure_eq_ok] at ran
      rcases ran with ⟨assigned, assigns, final, finished, rfl⟩
      exact valid_null_of_keywords distinct.1 assigns finished fun key mayReject value converted =>
        keywords_null_converted nullAlone fields distinct.2 key value converted mayReject
  | arr items =>
      simp only [convert30Schema, bind_eq_ok, pure_eq_ok] at ran
      rcases ran with ⟨out, _, rfl⟩
      simp only [valid]
  | _ =>
      cases ran
      simp only [valid]
termination_by structural schema

theorem keywords_null_converted (nullAlone : ∀ value, same value .null = isNull value)
    (fields : List (String × Json)) (distinct : FieldsDistinct fields)
    (key : String) (value converted : Json) (mayReject : key ∈ nullKeywords)
    (found : Dict.get? fields key = some value)
    (ran : (convert30Schema value : Except (PyException Error) Json) = .ok converted) :
    SameOfNull same key value converted := by
  cases fields with
  | nil => cases found
  | cons field rest =>
      rw [Dict.get?_cons] at found
      split at found
      · cases found
        exact keyword_null_converted nullAlone key field.2 converted mayReject distinct.1 ran
      · exact keywords_null_converted nullAlone rest distinct.2 key value converted mayReject found ran
termination_by structural fields

theorem keyword_null_converted (nullAlone : ∀ value, same value .null = isNull value)
    (key : String) (value converted : Json)
    (mayReject : key ∈ nullKeywords) (distinct : DistinctKeys value)
    (ran : (convert30Schema value : Except (PyException Error) Json) = .ok converted) :
    SameOfNull same key value converted := by
  by_cases isType : key = "type"
  · subst isType
    exact sameOfNull_type ran
  cases value with
  | arr items =>
      simp only [convert30Schema, bind_eq_ok, pure_eq_ok] at ran
      rcases ran with ⟨out, converts, rfl⟩
      have counts := items_null_converted nullAlone items out distinct converts
      have lengths := length_convertItems converts
      simp only [nullKeywords, List.mem_cons, List.not_mem_nil, or_false, isType, false_or]
        at mayReject
      rcases mayReject with rfl | rfl | rfl | rfl
      case inr.inr.inr => exact sameOfNull_enum nullAlone converts
      all_goals
        intro siblings _
        simp [holds, counts, lengths]
  | obj fields =>
      simp only [convert30Schema, bind_eq_ok, pure_eq_ok] at ran
      rcases ran with ⟨_, _, _, _, rfl⟩
      intro siblings _
      rw [holds_null_of_not_arr _ _ isType (by simp), holds_null_of_not_arr _ _ isType (by simp)]
  | _ =>
      cases ran
      intro siblings _
      rw [holds_null_of_not_arr _ _ isType (by simp), holds_null_of_not_arr _ _ isType (by simp)]
termination_by structural value

theorem items_null_converted (nullAlone : ∀ value, same value .null = isNull value)
    (items out : List Json) (distinct : ItemsDistinct items)
    (ran : (convertItems items : Except (PyException Error) (List Json)) = .ok out) :
    countValid same .draft202012 out .null = countValid same .openApi30 items .null := by
  cases items with
  | nil =>
      cases ran
      simp only [countValid]
  | cons first rest =>
      simp only [convertItems, bind_eq_ok, pure_eq_ok] at ran
      rcases ran with ⟨left, converts, others, ranRest, rfl⟩
      rw [countValid, countValid, valid_null_converted nullAlone distinct.1 converts,
        items_null_converted nullAlone rest others distinct.2 ranRest]
termination_by structural items

end

end Null

end McpPortal
