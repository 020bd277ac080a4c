import McpPortal.Foundation.ObjectKeywords
import McpPortal.Sources.FlattenStable

/-!
# What flattening loses

A flattened body passes on its properties and the names it requires. The keywords it warns
about are all that could ask more of an object, but for `enum` and `const`.
-/

namespace McpPortal

open Foundation
open Foundation.JsonSchema

/-- `DROPPED_BODY_KEYWORDS`. -/
def droppedBodyKeywords : List String :=
  [ "oneOf", "anyOf", "allOf", "not", "if", "then", "else", "additionalProperties",
    "unevaluatedProperties", "patternProperties", "propertyNames", "dependentRequired",
    "dependentSchemas", "minProperties", "maxProperties" ]

/-- `unsupported_body_keywords`. -/
def unsupportedBodyKeywords (body : Option BodySpec) : Flatten (List String) :=
  match body with
  | none => return []
  | some body => do
      match ← bodyProperties body with
      | none => return []
      | some _ => return droppedBodyKeywords.filter (· ∈ Dict.keys body.schema)

/-- The properties of the schema have names of their own, and it requires a list of names. -/
structure DeclaresFields (schema : JsonObject) : Prop where
  properties : ∀ properties, Dict.get? schema "properties" = some properties →
    ∃ fields, properties = .obj fields ∧ (Dict.keys fields).Nodup
  required : ∀ required, Dict.get? schema "required" = some required →
    ∃ names : List String, required = .arr (names.map .str)

section Flattened

variable {meaning : Meaning} {body : BodySpec}

/-- The properties a well-formed schema declares, and the names it requires. -/
theorem DeclaresFields.declared (declares : DeclaresFields body.schema) :
    ∃ (fields : JsonObject) (names : List String), (Dict.keys fields).Nodup ∧
      body.declaredProperties = .obj fields ∧ body.declaredRequired = .arr (names.map .str) := by
  have properties : ∃ fields, (Dict.keys fields).Nodup ∧ body.declaredProperties = .obj fields := by
    unfold BodySpec.declaredProperties
    cases found : Dict.get? body.schema "properties" with
    | none => exact ⟨[], List.nodup_nil, rfl⟩
    | some properties =>
        rcases declares.properties properties found with ⟨fields, rfl, unique⟩
        exact ⟨fields, unique, rfl⟩
  have required : ∃ names : List String, body.declaredRequired = .arr (names.map .str) := by
    unfold BodySpec.declaredRequired
    cases found : Dict.get? body.schema "required" with
    | none => exact ⟨[], rfl⟩
    | some required => exact declares.required required found
  rcases properties with ⟨fields, unique, isProperties⟩
  rcases required with ⟨names, isRequired⟩
  exact ⟨fields, names, unique, isProperties, isRequired⟩

/-- The published schema of a body and nothing else. -/
def flattenedSchema (fields : JsonObject) (names : List String) : JsonObject :=
  let schema := [("type", Json.str "object"), ("properties", .obj fields)]
  if names.isEmpty then schema else schema ++ [("required", .arr (names.map .str))]

theorem buildInputSchema_flattened (method path : String)
    (supported : body.contentType ∈ supportedContentTypes) (isFlattened : body.isFlattened = true)
    {fields : JsonObject} {names : List String} (unique : (Dict.keys fields).Nodup)
    (isProperties : body.declaredProperties = .obj fields)
    (isRequired : body.declaredRequired = .arr (names.map .str)) :
    buildInputSchema { method, path, body := some body } = .ok (flattenedSchema fields names) := by
  have lifts : bodyProperties body = .ok (some fields) := by
    simp only [bodyProperties, isFlattened, if_true, isProperties]
    rfl
  have named : bodyNames { method, path, body := some body } = .ok (Dict.keys fields) := by
    simp only [bodyNames, lifts]
    rfl
  have checked : checkContentType (some body) = .ok () := by
    rw [checkContentType, if_neg (not_not.mpr supported)]
    rfl
  have resolves : resolveArgNames { method, path, body := some body } =
      .ok { method, path, body := some body } :=
    resolveArgNames_of_distinct checked named unique
  have lifted : fields.foldl (fun entries entry => Dict.insert entries entry.1 entry.2) [] =
      fields := Dict.ofList_of_nodup unique
  have listed : iterate body.declaredRequired = (.ok (names.map .str) : Flatten (List Json)) := by
    rw [isRequired]
    rfl
  have added : addBody [] [] (some body) = .ok (fields, names.map .str) := by
    simp only [addBody, lifts, listed, lifted, bind, Except.bind, List.nil_append]
    rfl
  have built : buildInputSchema { method, path, body := some body } =
      (do
        let added ← addBody [] [] (some body)
        let schema := [("type", Json.str "object"), ("properties", .obj added.1)]
        return if added.2.isEmpty then schema else schema ++ [("required", .arr added.2)]) := by
    rw [buildInputSchema, resolves]
    rfl
  rw [built, added]
  simp only [flattenedSchema, bind, Except.bind, List.isEmpty_map]
  rfl

/-- What is declared is asked by the properties and the required names alone. -/
theorem meetsDeclared_iff {schema object fields : JsonObject} {names : List String}
    (isProperties : (Dict.get? schema "properties").getD (.obj []) = .obj fields)
    (isRequired : (Dict.get? schema "required").getD (.arr []) = .arr (names.map .str)) :
    MeetsDeclared meaning schema object ↔
      PropertiesAccept meaning object (.obj fields) ∧
        requiredHolds (.arr (names.map .str)) (.obj object) = true := by
  unfold MeetsDeclared
  apply and_congr
  · cases found : Dict.get? schema "properties" with
    | none =>
        rw [found, Option.getD_none] at isProperties
        cases isProperties
        simp [PropertiesAccept]
    | some properties =>
        rw [found, Option.getD_some] at isProperties
        subst isProperties
        simp
  · cases found : Dict.get? schema "required" with
    | none =>
        rw [found, Option.getD_none] at isRequired
        have nothing : names = [] := by simpa using isRequired
        simp [nothing, requiredHolds]
    | some required =>
        rw [found, Option.getD_some] at isRequired
        subst isRequired
        simp

/-- The keywords of a published schema. -/
theorem get?_flattenedSchema (fields : JsonObject) (names : List String) :
    Dict.get? (flattenedSchema fields names) "type" = some (.str "object") ∧
      (Dict.get? (flattenedSchema fields names) "properties").getD (.obj []) = .obj fields ∧
      (Dict.get? (flattenedSchema fields names) "required").getD (.arr []) =
        .arr (names.map .str) ∧
      ∀ key, key ∉ ["type", "properties", "required"] →
        Dict.get? (flattenedSchema fields names) key = none := by
  cases names with
  | nil =>
      refine ⟨rfl, rfl, rfl, ?_⟩
      intro key other
      rw [Dict.get?_eq_none_iff]
      simp only [List.mem_cons, List.not_mem_nil, or_false, not_or] at other
      simp [flattenedSchema, Dict.keys, other]
  | cons name rest =>
      refine ⟨rfl, rfl, rfl, ?_⟩
      intro key other
      rw [Dict.get?_eq_none_iff]
      simpa [flattenedSchema, Dict.keys] using other

theorem validObject_flattenedSchema_iff {object fields : JsonObject} {names : List String} :
    ValidObject meaning (flattenedSchema fields names) object ↔
      PropertiesAccept meaning object (.obj fields) ∧
        requiredHolds (.arr (names.map .str)) (.obj object) = true := by
  rcases get?_flattenedSchema fields names with ⟨isObject, properties, required, nothingElse⟩
  have noFurther : ∀ key ∈ furtherObjectKeywords,
      Dict.get? (flattenedSchema fields names) key = none := by
    intro key further
    apply nothingElse
    rintro published
    simp only [List.mem_cons, List.not_mem_nil, or_false] at published
    rcases published with rfl | rfl | rfl <;> simp [furtherObjectKeywords] at further
  have enumerated : MeetsEnumerated meaning (flattenedSchema fields names) object := by
    constructor
    · intro values found
      rw [nothingElse "enum" (by simp)] at found
      cases found
    · intro value found
      rw [nothingElse "const" (by simp)] at found
      cases found
  rw [validObject_iff isObject noFurther, meetsDeclared_iff properties required,
    and_iff_left enumerated]

theorem type_of_isFlattened (isFlattened : body.isFlattened = true) :
    Dict.get? body.schema "type" = some (.str "object") := by
  simp only [BodySpec.isFlattened, Bool.and_eq_true] at isFlattened
  cases found : Dict.get? body.schema "type" with
  | none => simp [found] at isFlattened
  | some type => cases type <;> simp_all

/-- A body without a warning has none of the further keywords. -/
theorem noFurther_of_silent {fields : JsonObject}
    (lifts : bodyProperties body = .ok (some fields))
    (silent : unsupportedBodyKeywords (some body) = .ok []) :
    ∀ key ∈ furtherObjectKeywords, Dict.get? body.schema key = none := by
  simp only [unsupportedBodyKeywords, lifts, bind, Except.bind, pure, Except.pure,
    Except.ok.injEq, List.filter_eq_nil_iff, decide_eq_true_eq] at silent
  intro key further
  rw [Dict.get?_eq_none_iff]
  apply silent
  simp only [furtherObjectKeywords, List.mem_cons, List.not_mem_nil, or_false] at further
  simp only [droppedBodyKeywords, List.mem_cons, List.not_mem_nil, or_false]
  tauto

/--
A flattened body that is not warned about accepts the objects its tool schema accepts, but
for those that meet what it declares and are not among the values it enumerates.
-/
theorem flattened_valid_iff (meaning : Meaning) (body : BodySpec) (method path : String)
    (supported : body.contentType ∈ supportedContentTypes) (isFlattened : body.isFlattened = true)
    (declares : DeclaresFields body.schema)
    (silent : unsupportedBodyKeywords (some body) = .ok []) :
    ∃ schema, buildInputSchema { method, path, body := some body } = .ok schema ∧
      ∀ object, (ValidObject meaning body.schema object ↔ ValidObject meaning schema object) ↔
        (MeetsEnumerated meaning body.schema object ∨
          ¬MeetsDeclared meaning body.schema object) := by
  rcases declares.declared with ⟨fields, names, unique, isProperties, isRequired⟩
  have lifts : bodyProperties body = .ok (some fields) := by
    simp only [bodyProperties, isFlattened, if_true, isProperties]
    rfl
  refine ⟨flattenedSchema fields names, buildInputSchema_flattened method path supported
    isFlattened unique isProperties isRequired, ?_⟩
  intro object
  rw [validObject_flattenedSchema_iff, ← meetsDeclared_iff isProperties isRequired,
    validObject_iff (type_of_isFlattened isFlattened) (noFurther_of_silent lifts silent)]
  tauto

/-- A body that may be sent with one of two amounts. -/
def amountBody : BodySpec where
  contentType := "application/json"
  schema :=
    [ ("type", .str "object"),
      ("properties", .obj [("amount", .obj [("type", .str "integer")])]),
      ("required", .arr [.str "amount"]),
      ("enum", .arr [.obj [("amount", .int 1)], .obj [("amount", .int 2)]]) ]

/-- The meaning of the schemas below the top by `JsonSchema.valid`. -/
def plainMeaning : Meaning where
  accepts schema value := valid Json.pyEq .draft202012 schema value = true
  same left right := Json.pyEq left right = true
  constrains _ _ _ := True

theorem declaresFields_amountBody : DeclaresFields amountBody.schema := by
  constructor
  · intro properties found
    cases found
    exact ⟨_, rfl, by decide⟩
  · intro required found
    cases found
    exact ⟨["amount"], rfl⟩

/-- An amount that is enumerated is accepted in either form. -/
theorem flattened_valid_iff_amount :
    ∃ schema, buildInputSchema { method := "POST", path := "/pay", body := some amountBody } =
        .ok schema ∧
      (ValidObject plainMeaning amountBody.schema [("amount", .int 2)] ↔
        ValidObject plainMeaning schema [("amount", .int 2)]) := by
  rcases flattened_valid_iff plainMeaning amountBody "POST" "/pay" (by decide) (by decide)
    declaresFields_amountBody (by decide) with ⟨schema, built, lossless⟩
  refine ⟨schema, built, (lossless _).mpr (Or.inl ⟨?_, ?_⟩)⟩
  · intro values found items isItems
    cases found
    cases isItems
    refine ⟨.obj [("amount", .int 2)], by simp, ?_⟩
    show Json.pyEq _ _ = true
    decide
  · intro value found
    cases found

/-- An amount that is not enumerated passes the tool schema, and nothing warned of it. -/
theorem flattened_valid_notEnumerated :
    unsupportedBodyKeywords (some amountBody) = .ok [] ∧
      ∃ schema, buildInputSchema { method := "POST", path := "/pay", body := some amountBody } =
          .ok schema ∧
        ¬(ValidObject plainMeaning amountBody.schema [("amount", .int 3)] ↔
          ValidObject plainMeaning schema [("amount", .int 3)]) := by
  have built : buildInputSchema { method := "POST", path := "/pay", body := some amountBody } =
      .ok (flattenedSchema [("amount", .obj [("type", .str "integer")])] ["amount"]) :=
    buildInputSchema_flattened "POST" "/pay" (by decide) (by decide) (by decide) rfl rfl
  refine ⟨by decide, _, built, ?_⟩
  intro lossless
  have published : ValidObject plainMeaning
      (flattenedSchema [("amount", .obj [("type", .str "integer")])] ["amount"])
      [("amount", .int 3)] := by
    rw [validObject_flattenedSchema_iff]
    refine ⟨?_, by decide⟩
    intro fields isFields name subschema value found given
    cases isFields
    have isAmount := Dict.mem_of_get? found
    simp only [List.mem_singleton, Prod.mk.injEq] at isAmount
    rcases isAmount with ⟨rfl, rfl⟩
    cases given
    show valid Json.pyEq .draft202012 _ _ = true
    simp [valid_obj, admitsNull, allHold, holds_type, typeHolds, hasType]
  have enumerated := lossless.mpr published "enum" _ rfl
  rcases enumerated _ rfl with ⟨item, itemMem, same⟩
  simp only [List.mem_cons, List.not_mem_nil, or_false] at itemMem
  have isEqual : Json.pyEq item (.obj [("amount", .int 3)]) = true := same
  rcases itemMem with rfl | rfl
  · exact absurd isEqual (by decide)
  · exact absurd isEqual (by decide)

end Flattened

end McpPortal
