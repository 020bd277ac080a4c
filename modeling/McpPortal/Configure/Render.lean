import McpPortal.Config.Loader
import McpPortal.Config.OperationEntry
import McpPortal.Configure.Decisions

/-!
# Rendering the configuration file

The exposed decisions become the entries of `operations[]`, in the order of their
ids. `renderEntry` builds the data that is written, `renderedEntry` is the entry
that this data validates to.
-/

namespace McpPortal

open Foundation

def renderParameter (param : Parameter) : Json :=
  .obj
    [ ("arg", .str param.arg),
      ("in", .str param.location.value),
      ("wire_name", .str param.wireName),
      ("required", .bool param.required),
      ("schema", .obj param.schema),
      ("style", .str param.style.value),
      ("explode", .bool param.explode) ]

def renderBody (body : BodySpec) : Json :=
  .obj
    [ ("content_type", .str body.contentType),
      ("mode", .str body.mode.value),
      ("schema", .obj body.schema) ]

def renderBinding (binding : HttpBinding) : Json :=
  .obj ([ ("method", .str binding.method),
      ("path", .str binding.path),
      ("parameters", .arr (binding.parameters.map renderParameter)) ] ++
    match binding.body with
    | some body => [("body", renderBody body)]
    | none => [])

/-- The entry of an exposed operation with an HTTP binding. -/
def renderEntry (decision : OperationDecision) (binding : HttpBinding) : Json :=
  let op := decision.operation
  .obj ([ ("id", .str op.id),
      ("upstream", .str op.upstream),
      ("description", .str op.description),
      ("title", .str op.title),
      ("group_tags", .arr (op.groupTags.map .str)),
      ("effect", .str decision.effect.value),
      ("sensitivity", .str decision.sensitivity.value),
      ("binding", renderBinding binding) ] ++
    if op.name = "" then [] else [("name", .str op.name)])

section Render

variable (unicode : PyUnicode)

def graphqlRenderError (id : String) : ConfigError where
  message := "operation " ++ reprString unicode.isPrintable id ++
    " uses a GraphQL binding; `configure` cannot render GraphQL operations yet — " ++
    "hand-author it in 'operations[]' with 'protocol: graphql' instead"

def renderDecision (decision : OperationDecision) : Except ConfigError Json :=
  match decision.operation.binding with
  | .http binding => return renderEntry decision binding
  | .graphQl _ => throw (graphqlRenderError unicode decision.operation.id)

def sortedById (decisions : List OperationDecision) : List OperationDecision :=
  decisions.insertionSort fun left right => left.operation.id ≤ right.operation.id

/-- `render_config(...)["operations"]`. -/
def renderOperations (decisions : List OperationDecision) : Except ConfigError (List Json) :=
  ((sortedById decisions).filter (·.exposed)).mapM (renderDecision unicode)

end Render

/-- The id of what is written for an operation. -/
def renderedId : Json → Option String
  | .obj fields => (Dict.get? fields "id").bind Json.string?
  | _ => none

theorem renderedId_renderEntry (decision : OperationDecision) (binding : HttpBinding) :
    renderedId (renderEntry decision binding) = some decision.operation.id := rfl

def renderedParameter (param : Parameter) : ParameterEntry where
  arg := param.arg
  location := param.location
  wireName := some param.wireName
  required := param.required
  schema := param.schema
  style := param.style
  explode := param.explode

def renderedBody (body : BodySpec) : BodyEntry where
  contentType := body.contentType
  mode := body.mode
  schema := body.schema

def renderedBinding (binding : HttpBinding) : HttpBindingEntry where
  method := binding.method
  path := binding.path
  parameters := binding.parameters.map renderedParameter
  body := binding.body.map renderedBody

/-- A text as an explicit tool name, if it can be one. -/
def toolName? (text : String) : Option ToolName :=
  if wellFormed : isToolName text = true then some { text, wellFormed } else none

def renderedEntry (decision : OperationDecision) (binding : HttpBinding) : OperationEntry where
  id := decision.operation.id
  upstream := decision.operation.upstream
  description := decision.operation.description
  title := some decision.operation.title
  name := toolName? decision.operation.name
  groupTags := decision.operation.groupTags
  effect := some decision.effect
  sensitivity := some decision.sensitivity
  binding := .http (renderedBinding binding)

/-- A name that is generated, or can be declared. -/
def HasToolName (operation : Operation) : Prop :=
  operation.name = "" ∨ isToolName operation.name = true

theorem modelValidate_renderParameter (param : Parameter) :
    ParameterEntry.modelValidate (renderParameter param) = some (renderedParameter param) := by
  simp [renderParameter, renderedParameter, ParameterEntry.modelValidate, Validator.underAlias,
    Validator.onlyFields, Validator.required, Validator.withDefault, Validator.nullable,
    Validator.bool, namedValue, objectValue, Dict.get?, Dict.keys]

theorem modelValidate_renderBody (body : BodySpec) :
    BodyEntry.modelValidate (renderBody body) = some (renderedBody body) := by
  simp [renderBody, renderedBody, BodyEntry.modelValidate, Validator.underAlias,
    Validator.onlyFields, Validator.required, Validator.withDefault, namedValue, objectValue,
    Dict.get?, Dict.keys]

theorem modelValidate_renderBinding (binding : HttpBinding) :
    BindingEntry.modelValidate (renderBinding binding) =
      some (.http (renderedBinding binding)) := by
  have parameters : Validator.list ParameterEntry.modelValidate
      (.arr (binding.parameters.map renderParameter)) =
        some (binding.parameters.map renderedParameter) :=
    Validator.list_arr_map_of fun param _ => modelValidate_renderParameter param
  cases hasBody : binding.body with
  | none =>
      simp [renderBinding, renderedBinding, hasBody, BindingEntry.modelValidate,
        HttpBindingEntry.modelValidate, Validator.onlyFields, Validator.required,
        Validator.withDefault, Dict.get?, Dict.keys, parameters]
  | some body =>
      have nonNull : renderBody body ≠ .null := by simp [renderBody]
      simp [renderBinding, renderedBinding, hasBody, BindingEntry.modelValidate,
        HttpBindingEntry.modelValidate, Validator.onlyFields, Validator.required,
        Validator.withDefault, Dict.get?, Dict.keys, parameters,
        Validator.nullable_of_ne_null nonNull, modelValidate_renderBody]

/-- What is written for an operation is accepted when it is read. -/
theorem modelValidate_renderEntry (decision : OperationDecision) (binding : HttpBinding)
    (named : HasToolName decision.operation) :
    OperationEntry.modelValidate (renderEntry decision binding) =
      some (renderedEntry decision binding) := by
  have tags := Validator.list_strings decision.operation.groupTags
  have bound := modelValidate_renderBinding binding
  have unnamed : isToolName "" = false := rfl
  rcases named with empty | wellFormed
  · simp [renderEntry, renderedEntry, empty, OperationEntry.modelValidate, Validator.onlyFields,
      Validator.required, Validator.withDefault, Validator.nullable, Dict.get?, Dict.keys, tags,
      bound, effectValue, sensitivityValue, toolName?, unnamed]
  · have nonempty : decision.operation.name ≠ "" := by
      intro empty
      rw [empty, unnamed] at wellFormed
      cases wellFormed
    simp [renderEntry, renderedEntry, nonempty, OperationEntry.modelValidate, Validator.onlyFields,
      Validator.required, Validator.withDefault, Validator.nullable, Dict.get?, Dict.keys, tags,
      bound, effectValue, sensitivityValue, toolName?, toolNameValue, wellFormed]

section Written

variable (unicode : PyUnicode)

/-- The entries that the rendered operations are read back as. -/
def writtenEntries (decisions : List OperationDecision) : Option (List OperationEntry) :=
  match renderOperations unicode decisions with
  | .ok rendered => rendered.mapM OperationEntry.modelValidate
  | .error _ => none

/-- The decisions that are written, in the order of the file. -/
def writtenDecisions (decisions : List OperationDecision) : List OperationDecision :=
  (sortedById decisions).filter (·.exposed)

theorem mem_writtenDecisions {decisions : List OperationDecision} {decision : OperationDecision} :
    decision ∈ writtenDecisions decisions ↔ decision ∈ decisions ∧ decision.exposed = true := by
  rw [writtenDecisions, List.mem_filter, sortedById, List.mem_insertionSort]

/-- The rendered ids are those of the exposed decisions. -/
theorem renderedId_iff {unicode : PyUnicode} {decisions : List OperationDecision}
    {rendered : List Json} (ran : renderOperations unicode decisions = .ok rendered) (id : String) :
    (∃ entry ∈ rendered, renderedId entry = some id) ↔
      ∃ decision ∈ decisions, decision.exposed = true ∧ decision.operation.id = id := by
  have related : List.Forall₂ (fun decision entry => renderDecision unicode decision = .ok entry)
      (writtenDecisions decisions) rendered := mapM_eq_ok_iff_forall₂.mp ran
  have sameId {decision : OperationDecision} {entry : Json}
      (renders : renderDecision unicode decision = .ok entry) :
      renderedId entry = some decision.operation.id := by
    unfold renderDecision at renders
    split at renders
    · cases renders
      exact renderedId_renderEntry decision _
    · cases renders
  constructor
  · rintro ⟨entry, entryMem, isId⟩
    rcases exists_left_of_forall₂ related entryMem with ⟨decision, decisionMem, renders⟩
    rcases mem_writtenDecisions.mp decisionMem with ⟨present, exposed⟩
    exact ⟨decision, present, exposed, Option.some.inj ((sameId renders).symm.trans isId)⟩
  · rintro ⟨decision, present, exposed, rfl⟩
    rcases exists_right_of_forall₂ related (mem_writtenDecisions.mpr ⟨present, exposed⟩) with
      ⟨entry, entryMem, renders⟩
    exact ⟨entry, entryMem, sameId renders⟩

/-- A decision on an HTTP operation with a name that can be declared. -/
def Renderable (decision : OperationDecision) : Prop :=
  (∃ binding, decision.operation.binding = .http binding) ∧ HasToolName decision.operation

def IsWritten (decision : OperationDecision) (entry : OperationEntry) : Prop :=
  ∃ binding, decision.operation.binding = .http binding ∧ entry = renderedEntry decision binding

variable {unicode}

theorem mapM_renderDecision {decisions : List OperationDecision}
    (renderable : ∀ decision ∈ decisions, Renderable decision) :
    ∃ rendered, decisions.mapM (renderDecision unicode) = .ok rendered ∧
      ∃ entries, rendered.mapM OperationEntry.modelValidate = some entries ∧
        List.Forall₂ IsWritten decisions entries := by
  induction decisions with
  | nil => exact ⟨[], rfl, [], rfl, .nil⟩
  | cons decision rest ih =>
      rcases renderable decision List.mem_cons_self with ⟨⟨binding, bound⟩, named⟩
      rcases ih fun other otherMem => renderable other (List.mem_cons_of_mem _ otherMem) with
        ⟨rendered, rest_eq, entries, entries_eq, written⟩
      have first : renderDecision unicode decision = .ok (renderEntry decision binding) := by
        simp only [renderDecision, bound]
        rfl
      refine ⟨renderEntry decision binding :: rendered, ?_,
        renderedEntry decision binding :: entries, ?_, .cons ⟨binding, bound, rfl⟩ written⟩
      · simp only [List.mapM_cons, first, rest_eq]
        rfl
      · simp only [List.mapM_cons, modelValidate_renderEntry decision binding named, entries_eq]
        rfl

/-- HTTP operations are rendered, and every entry is read back. -/
theorem exists_writtenEntries {decisions : List OperationDecision}
    (renderable : ∀ decision ∈ decisions, decision.exposed = true → Renderable decision) :
    ∃ entries, writtenEntries unicode decisions = some entries ∧
      List.Forall₂ IsWritten (writtenDecisions decisions) entries := by
  have written : ∀ decision ∈ writtenDecisions decisions, Renderable decision := by
    intro decision decisionMem
    rcases mem_writtenDecisions.mp decisionMem with ⟨present, exposed⟩
    exact renderable decision present exposed
  rcases @mapM_renderDecision unicode _ written with
    ⟨rendered, rendered_eq, entries, entries_eq, isWritten⟩
  refine ⟨entries, ?_, isWritten⟩
  have ran : renderOperations unicode decisions = .ok rendered := rendered_eq
  rw [writtenEntries, ran]
  exact entries_eq

theorem IsWritten.unique {decision : OperationDecision} {left right : OperationEntry}
    (isLeft : IsWritten decision left) (isRight : IsWritten decision right) : left = right := by
  rcases isLeft with ⟨_, bound, rfl⟩
  rcases isRight with ⟨_, boundToo, rfl⟩
  cases bound.symm.trans boundToo
  rfl

/-- The entries are those of the exposed decisions. -/
theorem mem_writtenEntries {decisions : List OperationDecision} {entries : List OperationEntry}
    (written : List.Forall₂ IsWritten (writtenDecisions decisions) entries)
    {entry : OperationEntry} :
    entry ∈ entries ↔
      ∃ decision ∈ decisions, decision.exposed = true ∧ IsWritten decision entry := by
  constructor
  · intro entryMem
    rcases exists_left_of_forall₂ written entryMem with ⟨decision, decisionMem, isWritten⟩
    rcases mem_writtenDecisions.mp decisionMem with ⟨present, exposed⟩
    exact ⟨decision, present, exposed, isWritten⟩
  · rintro ⟨decision, present, exposed, isWritten⟩
    rcases exists_right_of_forall₂ written (mem_writtenDecisions.mpr ⟨present, exposed⟩) with
      ⟨other, otherMem, otherWritten⟩
    exact isWritten.unique otherWritten ▸ otherMem

end Written

end McpPortal
