import Mathlib.Data.List.Count
import McpPortal.Foundation.DictAlike
import McpPortal.Foundation.Lockstep
import McpPortal.Sources.Unchecked

/-!
# Records whose names are texts

The pipeline of configured bindings and the one of unchecked records embed the same code. Where the
names of a record are texts and its schemas are objects, both raise the same or come to the same
operation.
-/

namespace McpPortal

open Foundation

def FlattenError.unchecked : FlattenError → Unchecked.FlattenError
  | .unsupportedContentType contentType => .unsupportedContentType (.str contentType)
  | .repeatedPlaceholders path repeated => .repeatedPlaceholders path repeated
  | .optionalPathParameter arg wireName => .optionalPathParameter (.str arg) (.str wireName)
  | .sharedWireName first second wireName =>
      .sharedWireName (.str first) (.str second) (.str wireName)
  | .unmatchedPlaceholders path unmatched => .unmatchedPlaceholders path unmatched
  | .unplacedParameters path unplaced => .unplacedParameters path (unplaced.map .str)
  | .argumentCollision name first second => .argumentCollision (.str name) first second

/-- The text of the error is the same. -/
theorem FlattenError.message_unchecked (isPrintable : Char → Bool) (error : FlattenError) :
    error.unchecked.message isPrintable = error.message isPrintable := by
  cases error <;> rfl

def Parameter.unchecked (parameter : Parameter) : Unchecked.Parameter where
  arg := .ofText parameter.arg
  location := parameter.location
  wireName := .ofText parameter.wireName
  required := parameter.required
  schema := .obj parameter.schema
  explode := .bool parameter.explode

def BodySpec.unchecked (body : BodySpec) : Unchecked.BodySpec where
  contentType := .ofText body.contentType
  schema := .obj body.schema

def HttpBinding.unchecked (binding : HttpBinding) : Unchecked.HttpBinding where
  method := binding.method
  path := binding.path
  parameters := binding.parameters.map (·.unchecked)
  body := binding.body.map (·.unchecked)

@[simp]
theorem HttpBinding.unchecked_body (binding : HttpBinding) :
    binding.unchecked.body = binding.body.map (·.unchecked) := rfl

@[simp]
theorem HttpBinding.unchecked_parameters (binding : HttpBinding) :
    binding.unchecked.parameters = binding.parameters.map (·.unchecked) := rfl

/-- The body has the default mode, and its properties are an object if they are lifted. -/
structure BodySpec.IsPlain (body : BodySpec) : Prop where
  flattens : body.mode = .flatten
  listed : body.isFlattened = true → ∃ fields, body.declaredProperties = .obj fields

/-- The unchecked computation raises what the checked one raises, or their values are alike. -/
def Alongside {Left Right : Type} (alike : Left → Right → Prop) (left : Unchecked.Flatten Left)
    (right : Flatten Right) : Prop :=
  Agree alike left (right.mapError (.map FlattenError.unchecked))

section Alongside

variable {Left Right Left' Right' Item Item' : Type} {alike : Left → Right → Prop}
  {alike' : Left' → Right' → Prop} {left : Unchecked.Flatten Left} {right : Flatten Right}

theorem Alongside.outcomes (alongside : Alongside alike left right) :
    (∃ error, left = .error (error.map FlattenError.unchecked) ∧ right = .error error) ∨
      ∃ value valueToo, left = .ok value ∧ right = .ok valueToo ∧ alike value valueToo := by
  rcases Agree.outcomes alongside with
    ⟨error, isLeft, isRight⟩ | ⟨value, valueToo, isLeft, isRight, same⟩
  · rcases mapError_eq_error.mp isRight with ⟨problem, raised, rfl⟩
    exact Or.inl ⟨problem, isLeft, raised⟩
  · exact Or.inr ⟨value, valueToo, isLeft, mapError_eq_ok.mp isRight, same⟩

theorem Alongside.ok {value : Left} {valueToo : Right} (same : alike value valueToo) :
    Alongside alike (.ok value) (.ok valueToo) :=
  Agree.ok same

theorem Alongside.error (problem : PyException FlattenError) :
    Alongside alike (.error (problem.map FlattenError.unchecked)) (.error problem) :=
  Agree.error _

/-- The message of an error about texts can be printed. -/
theorem Alongside.refused (problem : FlattenError) :
    Alongside alike (Unchecked.refuse problem.unchecked) (.error (.raised problem)) := by
  have printable : problem.unchecked.printed.any Json.hasLongInt = false := by
    cases problem with
    | unplacedParameters path unplaced =>
        simp [FlattenError.unchecked, Unchecked.FlattenError.printed, Json.hasLongInt]
    | _ => rfl
  rw [Unchecked.refuse, printable]
  exact .error (.raised problem)

theorem Alongside.bind {next : Left → Unchecked.Flatten Left'} {nextToo : Right → Flatten Right'}
    (alongside : Alongside alike left right)
    (continues : ∀ {value valueToo}, alike value valueToo →
      Alongside alike' (next value) (nextToo valueToo)) :
    Alongside alike' (left >>= next) (right >>= nextToo) := by
  rcases alongside.outcomes with ⟨error, rfl, rfl⟩ | ⟨value, valueToo, rfl, rfl, same⟩
  · exact .error error
  · exact continues same

theorem Alongside.foldlM {step : Left → Item' → Unchecked.Flatten Left}
    {stepToo : Right → Item → Flatten Right} (convert : Item → Item') (items : List Item)
    (keeps : ∀ item {value valueToo}, alike value valueToo →
      Alongside alike (step value (convert item)) (stepToo valueToo item))
    {value : Left} {valueToo : Right} (same : alike value valueToo) :
    Alongside alike ((items.map convert).foldlM step value) (items.foldlM stepToo valueToo) := by
  induction items generalizing value valueToo with
  | nil => exact .ok same
  | cons item rest ih =>
      rw [List.map_cons, List.foldlM_cons, List.foldlM_cons]
      exact (keeps item same).bind ih

end Alongside

/-- The same arguments for the same wire names. -/
abbrev DeclaredAlike : Unchecked.Declared → List (String × String) → Prop :=
  Dict.Alike HashKey.text fun _ arg text => arg = DictKey.ofText text

section Template

theorem pathParameters_unchecked (parameters : List Parameter) :
    Unchecked.pathParameters (parameters.map (·.unchecked)) =
      (pathParameters parameters).map (·.unchecked) := by
  rw [Unchecked.pathParameters, pathParameters, List.filter_map]
  rfl

theorem alongside_declarePath (parameter : Parameter) {declared : Unchecked.Declared}
    {declaredToo : List (String × String)} (same : DeclaredAlike declared declaredToo) :
    Alongside DeclaredAlike (Unchecked.declarePath declared parameter.unchecked)
      (declarePath declaredToo parameter) := by
  have found := same.get? HashKey.text_injective parameter.wireName
  unfold Unchecked.declarePath declarePath Unchecked.declareName
  change Alongside _ (if !parameter.required then _ else _) _
  split
  · exact .refused (.optionalPathParameter parameter.arg parameter.wireName)
  · change Option.Rel _ (Dict.get? declared parameter.unchecked.wireName.key) _ at found
    generalize Dict.get? declared parameter.unchecked.wireName.key = known at found
    generalize Dict.get? declaredToo parameter.wireName = knownToo at found
    cases found with
    | none => exact .ok (same.insert HashKey.text_injective rfl)
    | @some _ first isArg =>
        rw [isArg]
        exact .refused (.sharedWireName first parameter.arg parameter.wireName)

theorem mem_keys_iff {declared : Unchecked.Declared} {declaredToo : List (String × String)}
    (same : DeclaredAlike declared declaredToo) (name : String) :
    HashKey.text name ∈ Dict.keys declared ↔ name ∈ Dict.keys declaredToo := by
  rw [same.keys, List.mem_map_of_injective HashKey.text_injective]

theorem mem_placeholderKeys_iff (path name : String) :
    HashKey.text name ∈ Unchecked.placeholderKeys path ↔ name ∈ pathPlaceholders path := by
  rw [Unchecked.placeholderKeys, List.mem_map_of_injective HashKey.text_injective]

theorem unplaced_ofTexts (path : String) {declared : Unchecked.Declared}
    {declaredToo : List (String × String)} (same : DeclaredAlike declared declaredToo) :
    (declared.filter fun entry =>
        decide (entry.1 ∉ Unchecked.placeholderKeys path)).map (·.2) =
      ((declaredToo.filter fun entry =>
        decide (entry.1 ∉ pathPlaceholders path)).map (·.2)).map DictKey.ofText := by
  induction same with
  | nil => rfl
  | @cons first second _ _ entry _ ih =>
      have samePlaced : decide (first.1 ∉ Unchecked.placeholderKeys path) =
          decide (second.1 ∉ pathPlaceholders path) := by
        rw [entry.1, decide_eq_decide, mem_placeholderKeys_iff]
      rw [List.filter_cons, List.filter_cons, samePlaced]
      split
      · rw [List.map_cons, List.map_cons, List.map_cons, ih, entry.2]
      · exact ih

theorem alongside_checkPathTemplate (binding : HttpBinding) :
    Alongside Eq (Unchecked.checkPathTemplate binding.unchecked) (checkPathTemplate binding) := by
  generalize isUnchecked : binding.unchecked = unchecked
  have samePath : unchecked.path = binding.path := isUnchecked ▸ rfl
  have sameParameters : unchecked.parameters = binding.parameters.map (·.unchecked) :=
    isUnchecked ▸ rfl
  unfold Unchecked.checkPathTemplate checkPathTemplate
  rw [samePath, sameParameters, pathParameters_unchecked]
  simp only [Unchecked.refuse_bind]
  split
  · exact .refused (.repeatedPlaceholders _ _)
  · apply Alongside.bind (Alongside.foldlM _ _ alongside_declarePath Dict.Alike.nil)
    intro declared declaredToo same
    simp only [mem_keys_iff same]
    split
    · exact .refused (.unmatchedPlaceholders _ _)
    · rw [unplaced_ofTexts binding.path same, sortedItems_ofTexts]
      generalize (declaredToo.filter fun entry =>
        decide (entry.1 ∉ pathPlaceholders binding.path)) = unplaced
      by_cases allPlaced : unplaced = []
      · rw [allPlaced]
        exact .ok rfl
      · have nonempty : (((unplaced.map (·.2)).insertionSort (· ≤ ·)).map DictKey.ofText).isEmpty =
            false := by
          rw [List.isEmpty_map, List.isEmpty_eq_false_iff, ne_eq, ← List.length_eq_zero_iff,
            List.length_insertionSort, List.length_map, List.length_eq_zero_iff]
          exact allPlaced
        rw [if_pos allPlaced]
        change Alongside Eq (if (!List.isEmpty _) = true then _ else _) _
        rw [nonempty, Bool.not_false, if_pos rfl, List.map_map]
        exact .refused (.unplacedParameters _ _)

end Template

section Names

variable {isPrintable : Char → Bool}

theorem mem_supportedContentTypes_iff (contentType : String) :
    HashKey.text contentType ∈ supportedContentTypes.map HashKey.text ↔
      contentType ∈ supportedContentTypes := by
  rw [List.mem_map_of_injective HashKey.text_injective]

theorem alongside_checkContentType (body : Option BodySpec) :
    Alongside Eq (Unchecked.checkContentType (body.map (·.unchecked))) (checkContentType body) := by
  cases body with
  | none => exact .ok rfl
  | some body =>
      dsimp only [Unchecked.checkContentType, checkContentType, Option.map_some, BodySpec.unchecked,
        DictKey.key_ofText]
      simp only [mem_supportedContentTypes_iff]
      split
      · exact .refused (.unsupportedContentType body.contentType)
      · exact .ok rfl

/-- Nothing is lifted, or the same properties are. -/
abbrev LiftedAlike : Option (PyDict Json) → Option JsonObject → Prop :=
  Option.Rel (PyDict.OfTexts Eq)

theorem isFlattened_iff {body : BodySpec} (flattens : body.mode = .flatten) :
    body.isFlattened = true ↔ (Unchecked.field body.schema "type").string? = some "object" := by
  unfold BodySpec.isFlattened Unchecked.field
  rw [flattens]
  cases Dict.get? body.schema "type" with
  | none => simp [Json.string?]
  | some type => cases type <;> simp [Json.string?]

theorem alongside_bodyProperties {body : BodySpec} (plain : body.IsPlain) :
    Alongside LiftedAlike (Unchecked.bodyProperties body.unchecked) (bodyProperties body) := by
  change Alongside _
    (if (Unchecked.field body.schema "type").string? = some "object" then _ else _) _
  unfold bodyProperties
  by_cases flattened : body.isFlattened = true
  · rcases plain.listed flattened with ⟨fields, isObject⟩
    rw [if_pos ((isFlattened_iff plain.flattens).mp flattened), if_pos flattened]
    have same : Unchecked.objectField body.schema "properties" = .obj fields := isObject
    rw [same, isObject]
    exact .ok (.some (ofTexts_fields fields))
  · rw [if_neg (fun typed => flattened ((isFlattened_iff plain.flattens).mpr typed)),
      if_neg flattened]
    exact .ok .none

theorem alongside_bodyNames {binding : HttpBinding} (plain : ∀ body ∈ binding.body, body.IsPlain) :
    Alongside (fun names texts => names = texts.map DictKey.ofText)
      (Unchecked.bodyNames binding.unchecked.body) (bodyNames binding) := by
  unfold bodyNames Unchecked.bodyNames
  rw [HttpBinding.unchecked_body]
  cases isBody : binding.body with
  | none => exact .ok rfl
  | some body =>
      apply (alongside_bodyProperties (plain body isBody)).bind
      intro lifted liftedToo same
      cases same with
      | none => exact .ok rfl
      | some ofTexts => exact .ok ofTexts.keys

theorem nameCount_unchecked (parameters : List Parameter) (names : List String) (name : String) :
    Unchecked.nameCount (parameters.map (·.unchecked)) (names.map DictKey.ofText) (.text name) =
      nameCount parameters names name := by
  have args : (parameters.map (·.unchecked)).map (·.arg.key) =
      (parameters.map (·.arg)).map HashKey.text := by
    rw [List.map_map, List.map_map]
    rfl
  have keys : (names.map DictKey.ofText).map (·.key) = names.map HashKey.text := List.map_map
  rw [Unchecked.nameCount, nameCount, args, keys,
    List.count_map_of_injective _ _ HashKey.text_injective,
    List.count_map_of_injective _ _ HashKey.text_injective]

theorem renameParameter_unchecked (parameters : List Parameter) (names : List String)
    (parameter : Parameter) :
    Unchecked.renameParameter isPrintable (parameters.map (·.unchecked)) (names.map DictKey.ofText)
        parameter.unchecked = .ok (renameParameter parameters names parameter).unchecked := by
  have sameCount : Unchecked.nameCount (parameters.map (·.unchecked)) (names.map DictKey.ofText)
      parameter.unchecked.arg.key = nameCount parameters names parameter.arg :=
    nameCount_unchecked parameters names parameter.arg
  unfold Unchecked.renameParameter renameParameter
  rw [sameCount]
  split <;> rfl

/-- The same places for the same names. -/
abbrev SeenAlike : List (HashKey × String) → List (String × String) → Prop :=
  Dict.Alike HashKey.text fun _ place placeToo => place = placeToo

theorem alongside_claimNames (entries : List (String × String)) {seen : List (HashKey × String)}
    {seenToo : List (String × String)} (same : SeenAlike seen seenToo) :
    Alongside (fun _ _ => True)
      ((entries.map fun entry => (DictKey.ofText entry.1, entry.2)).foldlM Unchecked.claimName seen)
      (claimNames seenToo entries) := by
  induction entries generalizing seen seenToo with
  | nil => exact .ok trivial
  | cons entry rest ih =>
      rcases entry with ⟨name, place⟩
      have found := same.get? HashKey.text_injective name
      rw [List.map_cons, List.foldlM_cons]
      unfold Unchecked.claimName claimNames
      dsimp only [DictKey.key_ofText]
      generalize Dict.get? seen (.text name) = known at found
      generalize Dict.get? seenToo name = knownToo at found
      cases found with
      | none => exact ih (same.insert HashKey.text_injective rfl)
      | @some _ first isPlace =>
          rw [isPlace]
          exact .refused (.argumentCollision name first place)

theorem alongside_resolveArgNames {binding : HttpBinding}
    (plain : ∀ body ∈ binding.body, body.IsPlain) :
    Alongside (fun resolved resolvedToo =>
        resolved = resolvedToo.unchecked ∧ resolvedToo.body = binding.body)
      (Unchecked.resolveArgNames isPrintable binding.unchecked) (resolveArgNames binding) := by
  unfold Unchecked.resolveArgNames resolveArgNames
  apply (alongside_checkContentType binding.body).bind
  intro _ _ _
  apply (alongside_bodyNames plain).bind
  rintro _ names rfl
  have renamed : binding.unchecked.parameters.mapM (Unchecked.renameParameter isPrintable
      binding.unchecked.parameters (names.map DictKey.ofText)) =
        .ok ((binding.parameters.map (renameParameter binding.parameters names)).map
          (·.unchecked)) := by
    rw [mapM_eq_ok_iff_forall₂, HttpBinding.unchecked_parameters, List.map_map,
      List.forall₂_map_left_iff, List.forall₂_map_right_iff, List.forall₂_same]
    intro parameter _
    exact renameParameter_unchecked binding.parameters names parameter
  dsimp only
  rw [renamed, sortedItems_ofTexts]
  generalize binding.parameters.map (renameParameter binding.parameters names) = parameters
  have claims := alongside_claimNames
    ((parameters.map fun parameter => (parameter.arg, parameter.location.value)) ++
      (names.insertionSort (· ≤ ·)).map fun name => (name, "body")) Dict.Alike.nil
  rw [List.map_append, List.foldlM_append, List.map_map, List.map_map] at claims
  change Alongside _ (List.foldlM _ _ _ >>= fun seen => List.foldlM _ seen _ >>= fun _ => .ok _) _
  rw [← bind_assoc, List.map_map, List.map_map]
  apply claims.bind
  intro _ _ _
  exact .ok ⟨rfl, rfl⟩

end Names

/-- What an unchecked property is as a value. -/
inductive Unchecked.Property.Is : Unchecked.Property → Json → Prop
  | schema {entries : PyDict Json} {fields : JsonObject} (ofTexts : entries.OfTexts Eq fields) :
      Is (.schema entries) (.obj fields)
  | lifted (value : Json) : Is (.lifted value) value

/-- The same properties are published, and the same names are required. -/
structure Unchecked.InputSchema.Is (schema : Unchecked.InputSchema) (properties : JsonObject)
    (required : List Json) : Prop where
  properties : schema.properties.OfTexts Unchecked.Property.Is properties
  required : schema.required = required

section Schema

variable {isPrintable : Char → Bool}

theorem mapM_parameterProperty (parameters : List Parameter) :
    ∃ properties, (parameters.map (·.unchecked)).mapM Unchecked.parameterProperty = .ok properties ∧
      List.Forall₂ (fun property field => property.1 = DictKey.ofText field.1 ∧
        Unchecked.Property.Is property.2 field.2) properties
          (parameters.map fun parameter => (parameter.arg, Json.obj parameter.schema)) := by
  refine ⟨parameters.map fun parameter => (.ofText parameter.arg, .schema
    (parameter.schema.map fun field => (.text field.1, .ofText field.1, field.2))), ?_, ?_⟩
  · rw [mapM_eq_ok_iff_forall₂, List.forall₂_map_left_iff, List.forall₂_map_right_iff,
      List.forall₂_same]
    intro parameter _
    rfl
  · rw [List.forall₂_map_left_iff, List.forall₂_map_right_iff, List.forall₂_same]
    intro parameter _
    exact ⟨rfl, .schema (ofTexts_fields parameter.schema)⟩

theorem alongside_iterate (value : Json) : Alongside Eq (iterate value) (iterate value) := by
  unfold iterate
  cases value.iterate? with
  | none => exact .error .typeError
  | some items => exact .ok rfl

theorem alongside_addBody {body : Option BodySpec} (plain : ∀ own ∈ body, own.IsPlain)
    {schema : Unchecked.InputSchema} {properties : JsonObject} {required : List Json}
    (same : schema.Is properties required) :
    Alongside (fun schema added => schema.Is added.1 added.2)
      (Unchecked.addBody schema (body.map (·.unchecked))) (addBody properties required body) := by
  cases body with
  | none => exact .ok same
  | some body =>
      apply (alongside_bodyProperties (plain body rfl)).bind
      intro lifted liftedToo alike
      cases alike with
      | none =>
          refine .ok ⟨?_, ?_⟩
          · exact same.properties.assign (.schema (ofTexts_fields body.schema))
          · dsimp only
            rw [same.required]
      | some ofTexts =>
          apply (alongside_iterate body.declaredRequired).bind
          rintro names _ rfl
          refine .ok ⟨?_, ?_⟩
          · apply same.properties.assignAll
            rw [List.forall₂_map_left_iff]
            exact ofTexts.items.imp fun _ field isField =>
              ⟨isField.1, isField.2 ▸ .lifted field.2⟩
          · dsimp only
            rw [same.required]

/-- The document of an input schema is published with its type. -/
def publishedSchema (properties : JsonObject) (required : List Json) : JsonObject :=
  let schema := [("type", .str "object"), ("properties", .obj properties)]
  if required.isEmpty then schema else schema ++ [("required", .arr required)]

/-- An unchecked input schema is this object. -/
def Unchecked.InputSchema.Published (schema : Unchecked.InputSchema) (published : JsonObject) :
    Prop :=
  ∃ properties required, schema.Is properties required ∧
    published = publishedSchema properties required

theorem alongside_buildInputSchema {binding : HttpBinding}
    (plain : ∀ body ∈ binding.body, body.IsPlain) :
    Alongside Unchecked.InputSchema.Published
      (Unchecked.buildInputSchema isPrintable binding.unchecked) (buildInputSchema binding) := by
  unfold Unchecked.buildInputSchema buildInputSchema
  apply (alongside_resolveArgNames plain).bind
  rintro _ resolved ⟨rfl, sameBody⟩
  rcases mapM_parameterProperty resolved.parameters with ⟨properties, mapped, pairs⟩
  rw [HttpBinding.unchecked_parameters, mapped]
  have plainToo : ∀ body ∈ resolved.body, body.IsPlain := sameBody ▸ plain
  have required : ((resolved.parameters.map (·.unchecked)).filter (·.required)).map
      (·.arg.value) = (resolved.parameters.filter (·.required)).map fun parameter =>
        Json.str parameter.arg := by
    rw [List.filter_map, List.map_map]
    rfl
  have start : Unchecked.InputSchema.Is
      { properties := PyDict.assignAll [] properties
        required := ((resolved.parameters.map (·.unchecked)).filter (·.required)).map
          (·.arg.value) }
      (Dict.ofList (resolved.parameters.map fun parameter =>
        (parameter.arg, Json.obj parameter.schema)))
      ((resolved.parameters.filter (·.required)).map fun parameter => Json.str parameter.arg) :=
    ⟨PyDict.OfTexts.assignAll Dict.Alike.nil pairs, required⟩
  change Alongside _ (Unchecked.addBody _ (resolved.body.map (·.unchecked)))
    (addBody _ _ resolved.body >>= _)
  rcases (alongside_addBody plainToo start).outcomes with
    ⟨error, isLeft, isRight⟩ | ⟨schema, own, isLeft, isRight, same⟩
  · rw [isLeft, isRight]
    exact .error error
  · rw [isLeft, isRight]
    exact .ok ⟨own.1, own.2, same, rfl⟩

theorem alongside_flattenBinding {binding : HttpBinding}
    (plain : ∀ body ∈ binding.body, body.IsPlain) :
    Alongside (fun flattened flattenedToo => flattened.1 = flattenedToo.1.unchecked ∧
        flattened.2.Published flattenedToo.2)
      (Unchecked.flattenBinding isPrintable binding.unchecked) (flattenBinding binding) := by
  unfold Unchecked.flattenBinding flattenBinding
  apply (alongside_checkPathTemplate binding).bind
  intro _ _ _
  apply (alongside_resolveArgNames plain).bind
  rintro _ resolved ⟨rfl, _⟩
  apply (alongside_buildInputSchema plain).bind
  intro schema schemaToo same
  exact .ok ⟨rfl, same⟩

end Schema

def RawParameter.unchecked (raw : RawParameter) : Unchecked.RawParameter where
  name := .ofText raw.name
  location := raw.location
  required := raw.required
  schema := .obj raw.schema
  explode := .bool raw.explode

def RawBody.unchecked (body : RawBody) : Unchecked.RequestBody where
  contentType := .ofText body.contentType
  schema := .obj body.schema

def RawOperation.unchecked (raw : RawOperation) : Unchecked.RawOperation where
  method := raw.method
  path := raw.path
  operationId := raw.operationId.map .str
  summary := raw.summary
  description := raw.description
  tags := raw.tags.map .str
  parameters := raw.parameters.map (·.unchecked)
  requestBody := raw.requestBody.map (·.unchecked)
  extensions := raw.extensions

/-- The operation is an unchecked one whose names are texts. -/
structure Operation.Checks (operation : Operation) (unchecked : Unchecked.Operation) : Prop where
  id : unchecked.id = .str operation.id
  upstream : unchecked.upstream = operation.upstream
  name : unchecked.name = operation.name
  title : unchecked.title = operation.title
  description : unchecked.description = operation.description
  groupTags : unchecked.groupTags = operation.groupTags.map .str
  effect : unchecked.effect = operation.effect
  sensitivity : unchecked.sensitivity = operation.sensitivity
  inputSchema : unchecked.inputSchema.Published operation.inputSchema
  binding : ∃ binding, operation.binding = .http binding ∧ unchecked.binding = binding.unchecked

section Build

variable {unicode : PyUnicode} (raw : RawOperation)

theorem binding_unchecked : raw.unchecked.binding unicode = (raw.binding unicode).unchecked := by
  simp only [Unchecked.RawOperation.binding, RawOperation.binding, RawOperation.unchecked,
    HttpBinding.unchecked, List.map_map, Option.map_map]
  rfl

theorem id_unchecked : raw.unchecked.id unicode = .str (raw.id unicode) := by
  unfold Unchecked.RawOperation.id RawOperation.id
  change orElse (raw.operationId.map .str) _ = _
  cases raw.operationId with
  | none => rfl
  | some id =>
      rw [textOr_some]
      change (if (Json.str id).truthy = true then Json.str id else _) = _
      by_cases isEmpty : id = ""
      · subst id
        rfl
      · rw [if_neg isEmpty, if_pos (by simp [Json.truthy, isEmpty])]

theorem describedBy_unchecked :
    raw.unchecked.describedBy unicode = raw.describedBy unicode := by
  unfold Unchecked.RawOperation.describedBy RawOperation.describedBy
  rw [id_unchecked]
  rfl

theorem titledBy_unchecked (description : String) :
    raw.unchecked.titledBy unicode description = raw.titledBy unicode description := by
  unfold Unchecked.RawOperation.titledBy RawOperation.titledBy
  rw [id_unchecked]
  have sameLine : (if description = "" then Json.str (raw.id unicode)
      else Json.str (firstLine description "")) =
        .str (firstLine description (raw.id unicode)) := by
    unfold firstLine
    split <;> rfl
  dsimp only
  rw [sameLine]
  rfl

theorem alongside_strOf (isPrintable : Char → Bool) (value : Json) :
    Alongside Eq (strOf isPrintable value) (strOf isPrintable value) := by
  unfold strOf
  split
  · exact .error .valueError
  · exact .ok rfl

theorem alongside_nameOverride :
    Alongside Eq (raw.unchecked.nameOverride unicode) (raw.nameOverride unicode) := by
  apply (alongside_strOf unicode.isPrintable _).bind
  rintro name _ rfl
  exact .ok rfl

theorem flag_unchecked (extension : String) :
    raw.unchecked.flag extension = raw.flag extension := by
  unfold Unchecked.RawOperation.flag RawOperation.flag Unchecked.field
  change ((Dict.get? raw.extensions extension).getD .null).truthy = _
  cases Dict.get? raw.extensions extension with
  | none => rfl
  | some value =>
      change value.truthy = (if value.truthy = true then value else .bool false).truthy
      cases truthy : value.truthy with
      | true => rw [if_pos rfl, truthy]
      | false => rfl

theorem namesDenylisted_unchecked (credentialHeaders : List String) (parameters : List Parameter) :
    Unchecked.namesDenylisted unicode credentialHeaders (parameters.map (·.unchecked)) =
      .ok (parameters.any fun param =>
        param.location = .header && isDenylisted unicode param.wireName credentialHeaders) := by
  induction parameters with
  | nil => rfl
  | cons parameter rest ih =>
      rw [List.map_cons, List.any_cons, Unchecked.namesDenylisted]
      change (if parameter.location = .header then
        if isDenylisted unicode parameter.wireName credentialHeaders = true then _ else _
      else _) = _
      rw [ih]
      by_cases isHeader : parameter.location = .header
      · rw [if_pos isHeader]
        by_cases denylisted : isDenylisted unicode parameter.wireName credentialHeaders = true
        · rw [if_pos denylisted]
          simp [isHeader, denylisted]
        · rw [if_neg denylisted]
          simp [denylisted]
      · rw [if_neg isHeader]
        simp [isHeader]

theorem alongside_operation (upstreamKey : String) (derivedEffect : Effect)
    {flattened : Unchecked.HttpBinding × Unchecked.InputSchema} {resolved : HttpBinding}
    {inputSchema : JsonObject} (isBinding : flattened.1 = resolved.unchecked)
    (published : flattened.2.Published inputSchema) :
    Alongside (fun unchecked operation => operation.Checks unchecked)
      (raw.unchecked.operation unicode upstreamKey derivedEffect flattened)
      (raw.operation unicode upstreamKey derivedEffect resolved inputSchema) := by
  unfold Unchecked.RawOperation.operation RawOperation.operation
  rw [describedBy_unchecked]
  apply (alongside_strOf unicode.isPrintable _).bind
  rintro description _ rfl
  rw [titledBy_unchecked]
  apply (alongside_strOf unicode.isPrintable _).bind
  rintro title _ rfl
  apply (alongside_nameOverride raw).bind
  rintro name _ rfl
  refine .ok ?_
  constructor
  case id => exact id_unchecked raw
  case sensitivity =>
    change (if raw.unchecked.flag "x-mcp-sensitive" = true then _ else _) = _
    rw [flag_unchecked]
  case inputSchema => exact published
  case binding => exact ⟨resolved, rfl, isBinding⟩
  all_goals rfl

/-- An unchecked record whose names are texts is built as the checked one is, or raises the same. -/
theorem alongside_build {raw : RawOperation}
    (plain : ∀ body ∈ (raw.binding unicode).body, body.IsPlain) (upstreamKey : String)
    (credentialHeaders : List String) :
    Alongside (Option.Rel fun unchecked operation => operation.Checks unchecked)
      (Unchecked.build unicode upstreamKey credentialHeaders raw.unchecked)
      (OpenApiSource.build unicode upstreamKey credentialHeaders raw) := by
  have sameMethod : (raw.binding unicode).unchecked.method = (raw.binding unicode).method := rfl
  unfold Unchecked.build OpenApiSource.build
  dsimp only
  rw [flag_unchecked, binding_unchecked, HttpBinding.unchecked_parameters,
    namesDenylisted_unchecked, sameMethod]
  split
  · exact .ok .none
  · change Alongside _ (if List.any _ _ = true then _ else _) _
    split
    · exact .ok .none
    · cases effectForMethod unicode (raw.binding unicode).method with
      | error _ => exact .ok .none
      | ok derivedEffect =>
          dsimp only
          rcases (alongside_flattenBinding plain).outcomes with
            ⟨error, isLeft, isRight⟩ | ⟨flattened, own, isLeft, isRight, same⟩
          · rw [isLeft, isRight]
            cases error with
            | raised _ => exact .ok .none
            | typeError => exact .error .typeError
            | valueError => exact .error .valueError
            | attributeError => exact .error .attributeError
            | keyError => exact .error .keyError
            | indexError => exact .error .indexError
            | assertionError => exact .error .assertionError
          · rw [isLeft, isRight]
            apply (alongside_operation raw upstreamKey derivedEffect same.1 same.2).bind
            intro unchecked operation checks
            exact .ok (.some checks)

end Build

end McpPortal
