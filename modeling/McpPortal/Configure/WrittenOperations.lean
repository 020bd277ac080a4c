import McpPortal.Configure.Introspected
import McpPortal.Configure.Render

/-!
# Reading what was written for a document's operation

An entry has texts where a document has values of any type. What is written for an operation is
accepted if its id, its tags and its argument names are texts, a wire name is a text or null, its
schemas have texts as keys, and `explode` can be read as a boolean.
-/

namespace McpPortal

open Foundation

namespace PyConfigure

/-- `dict(schema)`, if its keys are texts. -/
def schemaFields? (schema : Json) : Option JsonObject :=
  match (dictOf schema : Running (PyDict Json)) with
  | .ok entries => textFields? entries
  | .error _ => none

/-- A parameter of a document can be read back. -/
structure WritableParameter (param : Unchecked.Parameter) : Prop where
  arg : ∃ text, param.arg.value = .str text
  wireName : param.wireName.value = .null ∨ ∃ text, param.wireName.value = .str text
  schema : ∃ fields, schemaFields? param.schema = some fields
  explode : ∃ value, Validator.bool param.explode = some value

/-- The operation of a decision can be read back. -/
structure WritableOperation (op : Unchecked.Operation) : Prop where
  id : ∃ text, op.id = .str text
  groupTags : ∀ tag ∈ op.groupTags, ∃ text, tag = .str text
  parameters : ∀ param ∈ op.binding.parameters, WritableParameter param

def DecidedOperation.Writable : DecidedOperation → Prop
  | .recorded _ => True
  | .introspected op => WritableOperation op

/-- The text that a value is. -/
def textOf (value : Json) : String :=
  value.string?.getD ""

/-- The parameter that is read back. -/
def checkedParameter (param : Unchecked.Parameter) : Parameter where
  arg := textOf param.arg.value
  location := param.location
  wireName := textOf param.wireName.value
  required := param.required
  schema := (schemaFields? param.schema).getD []
  explode := (Validator.bool param.explode).getD false

def checkedBody (body : Unchecked.BodySpec) : BodySpec where
  contentType := textOf body.contentType.value
  schema := (schemaFields? body.schema).getD []

def checkedBinding (binding : Unchecked.HttpBinding) : HttpBinding where
  method := binding.method
  path := binding.path
  parameters := binding.parameters.map checkedParameter
  body := binding.body.map checkedBody

/-- The operation that is read back. Its input schema is not written. -/
def DecidedOperation.checked : DecidedOperation → Operation
  | .recorded operation => operation
  | .introspected op => {
      id := textOf op.id
      upstream := op.upstream
      name := op.name
      title := op.title
      description := op.description
      groupTags := op.groupTags.map textOf
      effect := op.effect
      sensitivity := op.sensitivity
      inputSchema := []
      binding := .http (checkedBinding op.binding) }

def Decision.checked (decision : Decision) : OperationDecision :=
  decision.recorded decision.operation.checked

/-- The entry of a parameter. A wire name that is null is left to the argument name. -/
def parameterEntry (param : Unchecked.Parameter) : ParameterEntry :=
  { renderedParameter (checkedParameter param) with wireName := param.wireName.value.string? }

def bindingEntry (binding : Unchecked.HttpBinding) : HttpBindingEntry :=
  { renderedBinding (checkedBinding binding) with
    parameters := binding.parameters.map parameterEntry }

section Reading

theorem textOf_of_string? {value : Json} {text : String} (isText : value.string? = some text) :
    textOf value = text := by
  rw [textOf, isText]
  rfl

theorem string?_eq_some_iff {value : Json} {text : String} :
    value.string? = some text ↔ value = .str text := by
  cases value <;> simp [Json.string?]

theorem nullableString_eq_some_iff {value : Json} {read : Option String} :
    Validator.nullable Validator.string value = some read ↔
      (value = .null ∨ ∃ text, value = .str text) ∧ read = value.string? := by
  cases value <;> simp [Validator.nullable, Validator.string, Json.string?, eq_comm]

theorem readTags_iff {tags : List Json} {read : List String} :
    Validator.list Validator.string (.arr tags) = some read ↔
      (∀ tag ∈ tags, ∃ text, tag = .str text) ∧ read = tags.map textOf := by
  change tags.mapM Json.string? = some read ↔ _
  induction tags generalizing read with
  | nil => simp [eq_comm]
  | cons tag rest ih =>
      simp only [List.mapM_cons, Option.bind_eq_bind, Option.bind_eq_some_iff, Option.pure_def,
        Option.some.injEq, List.forall_mem_cons, List.map_cons]
      constructor
      · rintro ⟨text, isText, others, later, rfl⟩
        rcases ih.mp later with ⟨texts, rfl⟩
        refine ⟨⟨⟨text, string?_eq_some_iff.mp isText⟩, texts⟩, ?_⟩
        rw [textOf_of_string? isText]
      · rintro ⟨⟨⟨text, rfl⟩, texts⟩, rfl⟩
        exact ⟨text, rfl, rest.map textOf, ih.mpr ⟨texts, rfl⟩, rfl⟩

theorem renderParameter_eq_ok {param : Unchecked.Parameter} {rendered : Option Json}
    (ran : renderParameter param = .ok rendered) :
    rendered = (schemaFields? param.schema).map fun schema => .obj
      [ ("arg", param.arg.value),
        ("in", .str param.location.value),
        ("wire_name", param.wireName.value),
        ("required", .bool param.required),
        ("schema", .obj schema),
        ("style", .str ParamStyle.form.value),
        ("explode", param.explode) ] := by
  simp only [renderParameter, bind_eq_ok, pure_eq_ok] at ran
  rcases ran with ⟨schema, converted, rfl⟩
  rw [schemaFields?, converted]

theorem readParameter_iff {param : Unchecked.Parameter} {rendered : Option Json}
    (ran : renderParameter param = .ok rendered) {entry : ParameterEntry} :
    rendered.bind ParameterEntry.modelValidate = some entry ↔
      WritableParameter param ∧ entry = parameterEntry param := by
  rw [renderParameter_eq_ok ran]
  have fields (schema : JsonObject) : ParameterEntry.modelValidate (.obj
      [ ("arg", param.arg.value),
        ("in", .str param.location.value),
        ("wire_name", param.wireName.value),
        ("required", .bool param.required),
        ("schema", .obj schema),
        ("style", .str ParamStyle.form.value),
        ("explode", param.explode) ]) = some entry ↔
      ∃ arg wireName explode, param.arg.value = .str arg ∧
        Validator.nullable Validator.string param.wireName.value = some wireName ∧
        Validator.bool param.explode = some explode ∧
        { arg, location := param.location, wireName, required := param.required, schema,
          style := .form, explode } = entry := by
    simp [ParameterEntry.modelValidate, Validator.underAlias, Validator.onlyFields,
      Validator.required, Validator.withDefault, Validator.bool, namedValue, objectValue,
      Dict.get?, Dict.keys, Validator.string, string?_eq_some_iff, Option.bind_eq_some_iff]
  constructor
  · intro read
    rcases Option.bind_eq_some_iff.mp read with ⟨json, isJson, validates⟩
    rcases Option.map_eq_some_iff.mp isJson with ⟨schema, isSchema, rfl⟩
    rcases (fields schema).mp validates with ⟨arg, wireName, explode, isArg, named, exploded, rfl⟩
    rcases nullableString_eq_some_iff.mp named with ⟨nullable, rfl⟩
    refine ⟨⟨⟨arg, isArg⟩, nullable, ⟨schema, isSchema⟩, ⟨explode, exploded⟩⟩, ?_⟩
    simp only [parameterEntry, renderedParameter, checkedParameter, isArg, isSchema, exploded]
    rfl
  · rintro ⟨⟨⟨arg, isArg⟩, nullable, ⟨schema, isSchema⟩, ⟨explode, exploded⟩⟩, rfl⟩
    rw [isSchema]
    refine (fields schema).mpr ⟨arg, _, explode, isArg,
      nullableString_eq_some_iff.mpr ⟨nullable, rfl⟩, exploded, ?_⟩
    simp only [parameterEntry, renderedParameter, checkedParameter, isArg, isSchema, exploded]
    rfl

section ReadAll

variable {Item Entry Error : Type} {render : Item → Except Error (Option Json)}
  {validate : Validator Entry} {Writable : Item → Prop} {entryOf : Item → Entry}

/-- All that is rendered can be read back if each item can. -/
theorem readAll_iff {items : List Item}
    (reads : ∀ item ∈ items, ∀ rendered, render item = .ok rendered → ∀ entry,
      rendered.bind validate = some entry ↔ Writable item ∧ entry = entryOf item)
    {rendered : List (Option Json)} (ran : items.mapM render = .ok rendered)
    {entries : List Entry} :
    (rendered.mapM id).bind (fun values => values.mapM validate) = some entries ↔
      (∀ item ∈ items, Writable item) ∧ entries = items.map entryOf := by
  rw [mapM_eq_ok_iff_forall₂] at ran
  induction ran generalizing entries with
  | nil => simp [eq_comm]
  | @cons item first items rest renders _ ih =>
      have read := reads item List.mem_cons_self first renders
      have readRest := @ih fun other otherMem => reads other (List.mem_cons_of_mem _ otherMem)
      simp only [List.mapM_cons, id_eq, Option.bind_eq_bind, Option.pure_def,
        Option.bind_eq_some_iff, Option.some.injEq, List.forall_mem_cons,
        List.map_cons] at read readRest ⊢
      constructor
      · rintro ⟨_, ⟨value, isValue, values, areValues, rfl⟩, validates⟩
        simp only [List.mapM_cons, Option.bind_eq_bind, Option.pure_def, Option.bind_eq_some_iff,
          Option.some.injEq] at validates
        rcases validates with ⟨entry, isEntry, others, areOthers, rfl⟩
        rcases (read entry).mp ⟨value, isValue, isEntry⟩ with ⟨writable, rfl⟩
        rcases (readRest).mp ⟨values, areValues, areOthers⟩ with ⟨writableRest, rfl⟩
        exact ⟨⟨writable, writableRest⟩, rfl⟩
      · rintro ⟨⟨writable, writableRest⟩, rfl⟩
        rcases (read _).mpr ⟨writable, rfl⟩ with ⟨value, isValue, isEntry⟩
        rcases readRest.mpr ⟨writableRest, rfl⟩ with ⟨values, areValues, areOthers⟩
        refine ⟨value :: values, ⟨value, isValue, values, areValues, rfl⟩, ?_⟩
        simp only [List.mapM_cons, isEntry, areOthers, Option.bind_eq_bind, Option.bind_some,
          Option.pure_def]

end ReadAll

section Binding

/-- A body whose content type is a text, and whose schema is an object. -/
def ReadableBody (body : Option Unchecked.BodySpec) : Prop :=
  ∀ spec ∈ body, (∃ text, spec.contentType.value = .str text) ∧ ∃ schema, spec.schema = .obj schema

theorem schemaFields?_obj (fields : JsonObject) : schemaFields? (.obj fields) = some fields := by
  change ((fields.map _).map _).mapM _ = _
  rw [List.map_map]
  induction fields with
  | nil => rfl
  | cons field rest ih =>
      rw [List.map_cons, List.mapM_cons, ih]
      rfl

theorem renderBody_eq_ok {body : Option Unchecked.BodySpec} {rendered : Option JsonObject}
    (readable : ReadableBody body) (ran : renderBody body = .ok rendered) :
    rendered = some (match body.map checkedBody with
      | some spec => [("body", McpPortal.renderBody spec)]
      | none => []) := by
  cases body with
  | none =>
      cases ran
      rfl
  | some spec =>
      rcases readable spec rfl with ⟨⟨text, isText⟩, schema, isSchema⟩
      simp only [renderBody, bind_eq_ok, pure_eq_ok] at ran
      rcases ran with ⟨entries, converted, rfl⟩
      have isFields : textFields? entries = some schema := by
        have fields := schemaFields?_obj schema
        rwa [← isSchema, schemaFields?, converted] at fields
      rw [isFields]
      simp only [Option.map_some, checkedBody, isSchema, schemaFields?_obj, isText]
      rfl

theorem readBinding_iff {binding : Unchecked.HttpBinding} (readable : ReadableBody binding.body)
    {rendered : Option Json} (ran : renderBinding binding = .ok rendered) {entry : BindingEntry} :
    rendered.bind BindingEntry.modelValidate = some entry ↔
      (∀ param ∈ binding.parameters, WritableParameter param) ∧
        entry = .http (bindingEntry binding) := by
  simp only [renderBinding, bind_eq_ok, pure_eq_ok] at ran
  rcases ran with ⟨parameters, ranParameters, body, ranBody, rfl⟩
  have read := @readAll_iff _ _ _ renderParameter ParameterEntry.modelValidate WritableParameter
    parameterEntry _ (fun param _ rendered renders entry => readParameter_iff renders) _
    ranParameters
  rw [renderBody_eq_ok readable ranBody]
  have fields (values : List Json) : BindingEntry.modelValidate (.obj
      ([("method", .str binding.method), ("path", .str binding.path),
        ("parameters", .arr values)] ++
        match binding.body.map checkedBody with
        | some spec => [("body", McpPortal.renderBody spec)]
        | none => [])) = some entry ↔
      ∃ entries, values.mapM ParameterEntry.modelValidate = some entries ∧
        .http { renderedBinding (checkedBinding binding) with parameters := entries } = entry := by
    cases isBody : binding.body with
    | none =>
        simp [BindingEntry.modelValidate, HttpBindingEntry.modelValidate, Validator.onlyFields,
          Validator.required, Validator.withDefault, Validator.list, Dict.get?, Dict.keys,
          renderedBinding, checkedBinding, isBody, Option.bind_eq_some_iff]
    | some spec =>
        have nonNull : McpPortal.renderBody (checkedBody spec) ≠ .null := by
          simp [McpPortal.renderBody]
        simp [BindingEntry.modelValidate, HttpBindingEntry.modelValidate, Validator.onlyFields,
          Validator.required, Validator.withDefault, Validator.list, Dict.get?, Dict.keys,
          renderedBinding, checkedBinding, isBody, Option.bind_eq_some_iff,
          Validator.nullable_of_ne_null nonNull, modelValidate_renderBody]
  constructor
  · intro validated
    rcases Option.bind_eq_some_iff.mp validated with ⟨json, isJson, validates⟩
    rcases Option.bind_eq_some_iff.mp isJson with ⟨values, areValues, made⟩
    cases made
    rcases (fields values).mp validates with ⟨entries, areEntries, rfl⟩
    have readable : (parameters.mapM id).bind
        (fun values => values.mapM ParameterEntry.modelValidate) = some entries := by
      rw [areValues]
      exact areEntries
    rcases read.mp readable with ⟨writable, rfl⟩
    exact ⟨writable, rfl⟩
  · rintro ⟨writable, rfl⟩
    rcases Option.bind_eq_some_iff.mp (read.mpr ⟨writable, rfl⟩) with
      ⟨values, areValues, areEntries⟩
    rw [areValues]
    exact (fields values).mpr ⟨_, areEntries, rfl⟩

end Binding

section Operations

/-- An operation that a source has built from a document. -/
structure FromDocument (op : Unchecked.Operation) : Prop where
  named : op.name = "" ∨ isToolName op.name = true
  readable : ReadableBody op.binding.body

/-- The entry of an operation of a document. -/
def introspectedEntry (decision : Decision) (op : Unchecked.Operation) : OperationEntry :=
  { renderedEntry decision.checked (checkedBinding op.binding) with
    binding := .http (bindingEntry op.binding) }

theorem readIntrospected_iff {decision : Decision} {op : Unchecked.Operation}
    (isOperation : decision.operation = .introspected op) (fromDocument : FromDocument op)
    {rendered : Option Json} (ran : renderIntrospected decision op = .ok rendered)
    {entry : OperationEntry} :
    rendered.bind OperationEntry.modelValidate = some entry ↔
      WritableOperation op ∧ entry = introspectedEntry decision op := by
  simp only [renderIntrospected, bind_eq_ok, pure_eq_ok] at ran
  rcases ran with ⟨binding, ranBinding, rfl⟩
  have read := @readBinding_iff op.binding fromDocument.readable _ ranBinding
  have unnamed : isToolName "" = false := rfl
  have fields (value : Json) : OperationEntry.modelValidate (.obj
      ([("id", op.id),
        ("upstream", .str op.upstream),
        ("description", .str op.description),
        ("title", .str op.title),
        ("group_tags", .arr op.groupTags),
        ("effect", .str decision.effect.value),
        ("sensitivity", .str decision.sensitivity.value),
        ("binding", value)] ++
        if op.name = "" then [] else [("name", .str op.name)])) = some entry ↔
      ∃ id, op.id = .str id ∧
        ∃ tags, Validator.list Validator.string (.arr op.groupTags) = some tags ∧
        ∃ bound, BindingEntry.modelValidate value = some bound ∧
          { id, upstream := op.upstream, description := op.description, title := some op.title,
            name := toolName? op.name, groupTags := tags, effect := some decision.effect,
            sensitivity := some decision.sensitivity, binding := bound } = entry := by
    rcases fromDocument.named with empty | wellFormed
    · simp [empty, OperationEntry.modelValidate, Validator.onlyFields, Validator.required,
        Validator.withDefault, Validator.nullable, Dict.get?, Dict.keys, effectValue,
        sensitivityValue, toolName?, unnamed, Option.bind_eq_some_iff, Validator.string,
        string?_eq_some_iff]
    · have nonempty : op.name ≠ "" := by
        intro empty
        rw [empty, unnamed] at wellFormed
        cases wellFormed
      simp [nonempty, OperationEntry.modelValidate, Validator.onlyFields, Validator.required,
        Validator.withDefault, Validator.nullable, Dict.get?, Dict.keys, effectValue,
        sensitivityValue, toolName?, toolNameValue, wellFormed, Option.bind_eq_some_iff,
        Validator.string, string?_eq_some_iff]
  have isEntry {id : String} (isId : op.id = .str id) : introspectedEntry decision op =
      { id, upstream := op.upstream, description := op.description, title := some op.title,
        name := toolName? op.name, groupTags := op.groupTags.map textOf,
        effect := some decision.effect, sensitivity := some decision.sensitivity,
        binding := .http (bindingEntry op.binding) } := by
    simp only [introspectedEntry, renderedEntry, Decision.checked, Decision.recorded, isOperation,
      DecidedOperation.checked, isId]
    rfl
  constructor
  · intro validated
    rcases Option.bind_eq_some_iff.mp validated with ⟨json, isJson, validates⟩
    rcases Option.map_eq_some_iff.mp isJson with ⟨value, isValue, rfl⟩
    rcases (fields value).mp validates with ⟨id, isId, tags, areTags, bound, isBound, rfl⟩
    rcases readTags_iff.mp areTags with ⟨texts, rfl⟩
    rw [isValue] at read
    rcases read.mp isBound with ⟨writable, rfl⟩
    exact ⟨⟨⟨id, isId⟩, texts, writable⟩, (isEntry isId).symm⟩
  · rintro ⟨⟨⟨id, isId⟩, texts, writable⟩, rfl⟩
    rcases Option.bind_eq_some_iff.mp (read.mpr ⟨writable, rfl⟩) with ⟨value, isValue, isBound⟩
    rw [isValue]
    exact (fields value).mpr
      ⟨id, isId, _, readTags_iff.mpr ⟨texts, rfl⟩, _, isBound, (isEntry isId).symm⟩

/-- A recorded HTTP operation with a name that can be declared, or an operation of a document. -/
def DecidedOperation.Renderable : DecidedOperation → Prop
  | .recorded operation =>
      (∃ binding, operation.binding = .http binding) ∧ HasToolName operation
  | .introspected op => FromDocument op

/-- The entry of a decision. -/
def Decision.entry (decision : Decision) : OperationEntry :=
  match decision.operation with
  | .recorded operation =>
      match operation.binding with
      | .http binding => renderedEntry decision.checked binding
      -- no entry is written for the other protocol
      | .graphQl _ => renderedEntry decision.checked { method := "", path := "" }
  | .introspected op => introspectedEntry decision op

theorem readDecision_iff {unicode : PyUnicode} {decision : Decision}
    (renderable : decision.operation.Renderable) {rendered : Option Json}
    (ran : renderDecision unicode decision = .ok rendered) {entry : OperationEntry} :
    rendered.bind OperationEntry.modelValidate = some entry ↔
      decision.operation.Writable ∧ entry = decision.entry := by
  rcases decision with ⟨operation, exposed, effect, sensitivity, require⟩
  cases operation with
  | introspected op => exact readIntrospected_iff rfl renderable ran
  | recorded operation =>
      rcases renderable with ⟨⟨binding, bound⟩, named⟩
      simp only [renderDecision, McpPortal.renderDecision, Decision.recorded, bound, bind_eq_ok,
        mapError_eq_ok, pure_eq_ok] at ran
      rcases ran with ⟨_, rfl, rfl⟩
      rw [Option.bind_some, modelValidate_renderEntry _ binding named]
      simp only [DecidedOperation.Writable, Decision.entry, bound, Option.some.injEq, true_and]
      exact eq_comm

end Operations

end Reading

end PyConfigure

end McpPortal
