import McpPortal.Configure.HandWritten
import McpPortal.Configure.WrittenOperations
import McpPortal.Sources.FlattenAgree

/-!
# Entries that can be served

The entry of an exposed operation, if it is accepted, is built again unless a path parameter
without a wire name has been renamed: the entry then leaves its wire name to the new argument
name, which no placeholder has. What is built differs from the operation in its texts and schemas
only.
-/

namespace McpPortal

open Foundation

/-- The binding that the entry of an operation stands for. -/
def writtenBinding (unicode : PyUnicode) (binding : HttpBinding) : HttpBinding :=
  (renderedBinding binding).httpBinding unicode

/-- An operation that was flattened, or is recorded with a body that lists dictionaries. -/
structure Deployable (unicode : PyUnicode) (op : Operation) (binding : HttpBinding) : Prop where
  bound : op.binding = .http binding
  named : HasToolName op
  upperMethod : unicode.upper binding.method = binding.method
  exposedMethod : ∃ effect, effectForMethod unicode binding.method = .ok effect
  settled : Unchecked.Settled binding.looked ∨
    ((∃ body ∈ binding.body, body.ListsDictionaries) ∧
      ∀ param ∈ binding.parameters, KeepsWireName param)

/-- The written entry of the binding is flattened as well. -/
structure StaysFlattened (unicode : PyUnicode) (binding : HttpBinding) : Prop where
  placeholders : ∀ param ∈ pathParameters binding.parameters, KeepsWireName param
  dictionaries : ∀ body ∈ binding.body, body.ListsDictionaries →
    ∃ flattened, Unchecked.flattenBinding unicode.isPrintable binding.looked = .ok flattened

section Written

variable {unicode : PyUnicode} {binding : HttpBinding}

def writtenParameter (param : Parameter) : Parameter :=
  { param with wireName := textOr (some param.wireName) param.arg }

theorem writtenParameter_of_keeps {param : Parameter} (keeps : KeepsWireName param) :
    writtenParameter param = param := by
  have written := parameter_renderedParameter keeps
  exact written

theorem writtenBinding_eq (upperMethod : unicode.upper binding.method = binding.method) :
    writtenBinding unicode binding =
      { binding with parameters := binding.parameters.map writtenParameter } := by
  rcases binding with ⟨method, path, parameters, body⟩
  have sameParameters : (parameters.map renderedParameter).map (·.parameter) =
      parameters.map writtenParameter := List.map_map
  have sameBody : (body.map renderedBody).map (·.bodySpec) = body := by cases body <;> rfl
  simp only [writtenBinding, HttpBindingEntry.httpBinding, renderedBinding, sameParameters,
    sameBody] at upperMethod ⊢
  rw [upperMethod]

theorem pathParameters_written (parameters : List Parameter) :
    pathParameters (parameters.map writtenParameter) =
      (pathParameters parameters).map writtenParameter := by
  rw [pathParameters, pathParameters, List.filter_map]
  rfl

/-- An accepted template is accepted again just if no path parameter loses its wire name. -/
theorem templateMatches_written_iff (accepted : TemplateMatches binding) :
    TemplateMatches { binding with parameters := binding.parameters.map writtenParameter } ↔
      ∀ param ∈ pathParameters binding.parameters, KeepsWireName param := by
  constructor
  · intro acceptedAgain param paramMem unstated
    have isPlaceholder : "" ∈ pathPlaceholders binding.path := by
      rw [accepted.placed, ← unstated]
      exact List.mem_map_of_mem paramMem
    have stillPlaced := (acceptedAgain.placed "").mp isPlaceholder
    simp only [pathParameters_written, List.map_map] at stillPlaced
    rcases List.mem_map.mp stillPlaced with ⟨other, otherMem, isEmpty⟩
    have otherEmpty : other.wireName = "" ∧ other.arg = "" := by
      simp only [Function.comp_apply, writtenParameter, textOr_some] at isEmpty
      by_cases unstatedToo : other.wireName = ""
      · rw [if_pos unstatedToo] at isEmpty
        exact ⟨unstatedToo, isEmpty⟩
      · rw [if_neg unstatedToo] at isEmpty
        exact absurd isEmpty unstatedToo
    have same : param = other :=
      List.inj_on_of_nodup_map accepted.distinct paramMem otherMem
        (unstated.trans otherEmpty.1.symm)
    rw [same]
    exact otherEmpty.2
  · intro keeps
    have sameOnPath : pathParameters (binding.parameters.map writtenParameter) =
        pathParameters binding.parameters := by
      rw [pathParameters_written]
      conv_rhs => rw [← List.map_id (pathParameters binding.parameters)]
      apply List.map_congr_left
      intro param paramMem
      exact writtenParameter_of_keeps (keeps param paramMem)
    refine ⟨?_, ?_, ?_, accepted.once⟩
    · rw [sameOnPath]
      exact accepted.required
    · rw [sameOnPath]
      exact accepted.distinct
    · rw [sameOnPath]
      exact accepted.placed

theorem templateMatches_of_accepted
    (accepted : Unchecked.checkPathTemplate binding.looked = .ok ()) :
    TemplateMatches binding := by
  have accepted : Unchecked.checkPathTemplate binding.unchecked = .ok () := accepted
  rcases (alongside_checkPathTemplate binding).outcomes with
    ⟨error, isLeft, _⟩ | ⟨_, _, _, isRight, _⟩
  · cases accepted.symm.trans isLeft
  · exact checkPathTemplate_ok isRight

theorem settled_written (settled : Unchecked.Settled binding.looked)
    (keeps : ∀ param ∈ pathParameters binding.parameters, KeepsWireName param) :
    Unchecked.Settled
      { binding with parameters := binding.parameters.map writtenParameter }.looked := by
  refine settled.congr rfl ?_ ?_ (not_schemaUnreadable_looked _) settled.supported
    (fun names read => ⟨names, read, .refl _⟩) settled.listed
  · rw [looked_parameters, looked_parameters, pathParameters_unchecked, pathParameters_unchecked,
      pathParameters_written, List.map_map, List.map_map, List.map_map]
    apply List.map_congr_left
    intro param paramMem
    rw [Function.comp_apply, Function.comp_apply, writtenParameter_of_keeps (keeps param paramMem)]
    rfl
  · rw [looked_parameters, looked_parameters, List.map_map, List.map_map, List.map_map]
    rfl

/-- What is written for a deployable operation is flattened just if it stays so. -/
theorem Deployable.exists_flattened_iff {op : Operation}
    (deployable : Deployable unicode op binding) :
    (∃ flattened, Unchecked.flattenBinding unicode.isPrintable
      (writtenBinding unicode binding).looked = .ok flattened) ↔
        StaysFlattened unicode binding := by
  rw [writtenBinding_eq deployable.upperMethod]
  rcases deployable.settled with settled | ⟨⟨body, isBody, lists⟩, keeps⟩
  · constructor
    · rintro ⟨flattened, ran⟩
      simp only [Unchecked.flattenBinding, bind_eq_ok] at ran
      rcases ran with ⟨_, accepted, _⟩
      have template := templateMatches_of_accepted accepted
      have matched := templateMatches_of_accepted settled.accepted
      exact ⟨(templateMatches_written_iff matched).mp template,
        fun _ _ _ => settled.exists_flattened _⟩
    · intro stays
      exact (settled_written settled stays.placeholders).exists_flattened _
  · have unchanged : binding.parameters.map writtenParameter = binding.parameters := by
      conv_rhs => rw [← List.map_id binding.parameters]
      apply List.map_congr_left
      intro param paramMem
      exact writtenParameter_of_keeps (keeps param paramMem)
    rw [unchanged]
    constructor
    · intro flattens
      exact ⟨fun param paramMem => keeps param (List.mem_of_mem_filter paramMem),
        fun _ _ _ => flattens⟩
    · intro stays
      exact stays.dictionaries body isBody lists

/-- An operation apart from its texts, its schemas and its arguments. -/
def Operation.facts (op : Operation) : Operation :=
  { op with
    title := ""
    description := ""
    inputSchema := []
    binding :=
      match op.binding with
      | .http binding => .http { method := binding.method, path := binding.path }
      | .graphQl binding => .graphQl binding }

/-- The operation of a decision, with the effect and sensitivity it is pinned to. -/
def OperationDecision.pinned (decision : OperationDecision) : Operation :=
  { decision.operation with
    effect := decision.effect
    sensitivity := decision.sensitivity }

/-- The entry that an operation is pinned by. -/
def PinsEntry (unicode : PyUnicode) (decision : OperationDecision) (binding : HttpBinding)
    (entry : OperationEntry) : Prop :=
  ∃ bindingEntry : HttpBindingEntry,
    bindingEntry.httpBinding unicode = writtenBinding unicode binding ∧
      entry = { renderedEntry decision binding with binding := .http bindingEntry }

section Built

variable {decision : OperationDecision} {entry : OperationEntry}

theorem Deployable.facts_of_build (deployable : Deployable unicode decision.operation binding)
    (pins : PinsEntry unicode decision binding entry) {built : Option Operation}
    (builds : PyExplicit.build unicode entry = .ok built) :
    ∃ op, built = some op ∧ op.facts = decision.pinned.facts := by
  rcases pins with ⟨bindingEntry, same, rfl⟩
  rcases deployable.exposedMethod with ⟨derived, exposed⟩
  have sameMethod : (writtenBinding unicode binding).method = binding.method :=
    deployable.upperMethod
  simp only [PyExplicit.build, renderedEntry, PyExplicit.buildHttpEntry, same, sameMethod, exposed,
    bind_eq_ok, mapError_eq_ok, pure_eq_ok] at builds
  rcases builds with ⟨flattened, _, rfl⟩
  refine ⟨_, rfl, ?_⟩
  have samePath : (writtenBinding unicode binding).path = binding.path := rfl
  simp only [Operation.facts, OperationEntry.operation, OperationDecision.pinned,
    toolName?_getD deployable.named, Option.getD_some, HttpBinding.withArgs, sameMethod, samePath,
    deployable.bound]

theorem Deployable.exists_build_iff (deployable : Deployable unicode decision.operation binding)
    (pins : PinsEntry unicode decision binding entry) :
    (∃ built, PyExplicit.build unicode entry = .ok built) ↔ StaysFlattened unicode binding := by
  rw [← deployable.exists_flattened_iff]
  rcases pins with ⟨bindingEntry, same, rfl⟩
  rcases deployable.exposedMethod with ⟨derived, exposed⟩
  have sameMethod : (writtenBinding unicode binding).method = binding.method :=
    deployable.upperMethod
  simp only [PyExplicit.build, renderedEntry, PyExplicit.buildHttpEntry, same, sameMethod, exposed,
    bind_eq_ok, mapError_eq_ok, pure_eq_ok]
  constructor
  · rintro ⟨_, flattened, ran, _⟩
    exact ⟨flattened, ran⟩
  · rintro ⟨flattened, ran⟩
    exact ⟨_, flattened, ran, rfl⟩

end Built

end Written

namespace PyConfigure

section Entries

variable {unicode : PyUnicode}

theorem httpBinding_bindingEntry (binding : Unchecked.HttpBinding) :
    (bindingEntry binding).httpBinding unicode =
      writtenBinding unicode (checkedBinding binding) := by
  have sameParameter : ∀ param : Unchecked.Parameter,
      (parameterEntry param).parameter =
        (renderedParameter (checkedParameter param)).parameter := by
    intro param
    have sameName (name : Option String) (arg : String) :
        textOr name arg = textOr (some (name.getD "")) arg := by
      cases name <;> rfl
    simp only [ParameterEntry.parameter, parameterEntry, renderedParameter, checkedParameter]
    rw [sameName]
    rfl
  have sameParameters : (binding.parameters.map parameterEntry).map (·.parameter) =
      ((binding.parameters.map checkedParameter).map renderedParameter).map (·.parameter) := by
    rw [List.map_map, List.map_map, List.map_map]
    exact List.map_congr_left fun param _ => sameParameter param
  simp only [writtenBinding, HttpBindingEntry.httpBinding, bindingEntry, renderedBinding,
    checkedBinding, sameParameters]

/-- The entry of a decision pins the operation that is read back. -/
theorem pinsEntry_entry {decision : Decision} (renderable : decision.operation.Renderable) :
    ∃ binding, decision.operation.checked.binding = .http binding ∧
      PinsEntry unicode decision.checked binding decision.entry := by
  rcases decision with ⟨operation, exposed, effect, sensitivity, require⟩
  cases operation with
  | introspected op => exact ⟨_, rfl, bindingEntry op.binding, httpBinding_bindingEntry _, rfl⟩
  | recorded operation =>
      rcases renderable.1 with ⟨binding, bound⟩
      refine ⟨binding, bound, renderedBinding binding, rfl, ?_⟩
      simp only [Decision.entry, bound]
      rfl

end Entries

section Sources

variable {unicode : PyUnicode}

/-- An operation that the document of some upstream offers. -/
def IsOffered (unicode : PyUnicode) (config : McpPortalConfig) (op : Unchecked.Operation) : Prop :=
  ∃ key ∈ Dict.keys config.upstreams, ∃ raw,
    Unchecked.build unicode key (credentialHeadersFor unicode config) raw = .ok (some op)

/-- What is known of an operation that was built from a document. -/
structure Introspected (unicode : PyUnicode) (op : Unchecked.Operation) : Prop
    extends FromDocument op where
  settled : Unchecked.Settled op.binding
  upperMethod : unicode.upper op.binding.method = op.binding.method
  exposedMethod : ∃ effect, effectForMethod unicode op.binding.method = .ok effect

theorem readableBody_of_settled {binding : Unchecked.HttpBinding}
    (settled : Unchecked.Settled binding) : ReadableBody binding.body := by
  intro spec isBody
  rcases settled.apart with ⟨names, read, _⟩
  rw [Option.mem_def.mp isBody] at read
  exact ⟨⟨_, Unchecked.value_of_key_text (settled.supported spec isBody)⟩,
    Unchecked.isObject_of_bodyNames read⟩

theorem IsOffered.introspected {config : McpPortalConfig} {op : Unchecked.Operation}
    (offered : IsOffered unicode config op) : Introspected unicode op := by
  rcases offered with ⟨key, _, raw, builds⟩
  rcases Unchecked.made_of_build builds with ⟨_, effect, flattened, hasEffect, flattens, made⟩
  have settled := Unchecked.settled_of_flattenBinding flattens
  simp only [Unchecked.flattenBinding, bind_eq_ok, pure_eq_ok] at flattens
  rcases flattens with ⟨_, _, resolved, resolves, _, _, rfl⟩
  rcases Unchecked.resolveArgNames_eq_ok_iff.mp resolves with ⟨_, names, _, _, _, _, isResolved⟩
  have method : resolved.method = unicode.upper raw.method := by
    rw [isResolved]
    rfl
  simp only [Unchecked.RawOperation.operation, bind_eq_ok, pure_eq_ok] at made
  rcases made with ⟨_, _, _, _, name, overridden, rfl⟩
  refine
    { named := ?_
      readable := readableBody_of_settled settled
      settled
      upperMethod := by rw [method, unicode.upperIdem]
      exposedMethod := ⟨effect, by rw [method]; exact hasEffect⟩ }
  simp only [Unchecked.RawOperation.nameOverride, bind_eq_ok, pure_eq_ok] at overridden
  rcases overridden with ⟨text, _, rfl⟩
  by_cases wellFormed : isToolName text = true
  · rw [if_pos wellFormed]
    exact Or.inr wellFormed
  · rw [if_neg wellFormed]
    exact Or.inl rfl

theorem IsOffered.upstream {config : McpPortalConfig} {op : Unchecked.Operation}
    (offered : IsOffered unicode config op) : op.upstream ∈ Dict.keys config.upstreams := by
  rcases offered with ⟨key, keyMem, raw, builds⟩
  rw [(Unchecked.build_eq_some builds).2.2.2.2.1]
  exact keyMem

theorem ofText_of_value {key : DictKey} {text : String} (isText : key.value = .str text) :
    DictKey.ofText text = key := by
  rcases key with ⟨value, hash, hashes⟩
  cases isText
  cases hashes
  rfl

theorem looked_checkedBody {spec : Unchecked.BodySpec}
    (readable : (∃ text, spec.contentType.value = .str text) ∧
      ∃ schema, spec.schema = .obj schema) :
    (checkedBody spec).looked = spec := by
  rcases spec with ⟨contentType, schema⟩
  rcases readable with ⟨⟨text, isText⟩, fields, isFields⟩
  cases isFields
  dsimp only at isText
  simp only [checkedBody, BodySpec.looked, isText, schemaFields?_obj, Option.getD_some]
  rw [textOf_of_string? rfl, ofText_of_value isText]
  rfl

/-- What is read back of a writable operation is settled as well. -/
theorem settled_checked {binding : Unchecked.HttpBinding} (settled : Unchecked.Settled binding)
    (writable : ∀ param ∈ binding.parameters, WritableParameter param) :
    Unchecked.Settled (checkedBinding binding).looked := by
  have sameBody : (checkedBinding binding).looked.body = binding.body := by
    change (binding.body.map checkedBody).map BodySpec.looked = binding.body
    cases isBody : binding.body with
    | none => rfl
    | some spec =>
        rw [Option.map_some, Option.map_some,
          looked_checkedBody (readableBody_of_settled settled spec isBody)]
  have parameters : (checkedBinding binding).looked.parameters =
      binding.parameters.map fun param => (checkedParameter param).unchecked := by
    rw [looked_parameters]
    exact List.map_map
  refine settled.congr rfl ?_ ?_ (not_schemaUnreadable_looked _) (sameBody ▸ settled.supported)
    (fun names read => ⟨names, sameBody ▸ read, .refl _⟩) (sameBody ▸ settled.listed)
  · have onPath : Unchecked.pathParameters (checkedBinding binding).looked.parameters =
        (Unchecked.pathParameters binding.parameters).map fun param =>
          (checkedParameter param).unchecked := by
      rw [parameters, Unchecked.pathParameters, Unchecked.pathParameters, List.filter_map]
      rfl
    rw [onPath, List.map_map]
    apply List.map_congr_left
    intro param paramMem
    have placed := List.filter_eq_nil_iff.mp
      (Unchecked.checkPathTemplate_eq_ok_iff.mp settled.accepted).2 param paramMem
    rw [decide_eq_true_eq, not_not] at placed
    rcases List.mem_map.mp placed with ⟨name, _, isName⟩
    have isText := Unchecked.value_of_key_text isName.symm
    change (param.location, param.required, HashKey.text (textOf param.wireName.value)) =
      (param.location, param.required, param.wireName.key)
    rw [isText, textOf_of_string? rfl, isName]
  · rw [parameters, List.map_map]
    apply List.map_congr_left
    intro param paramMem
    rcases (writable param paramMem).arg with ⟨text, isText⟩
    change HashKey.text (textOf param.arg.value) = param.arg.key
    rw [isText, textOf_of_string? rfl, ← ofText_of_value isText]
    rfl

theorem Introspected.deployable {op : Unchecked.Operation} (introspected : Introspected unicode op)
    (writable : WritableOperation op) :
    Deployable unicode (DecidedOperation.introspected op).checked (checkedBinding op.binding) where
  bound := rfl
  named := introspected.named
  upperMethod := introspected.upperMethod
  exposedMethod := introspected.exposedMethod
  settled := Or.inl (settled_checked introspected.settled writable.parameters)

end Sources

end PyConfigure

/-- The schemas of the entry's body are dictionaries. -/
def HttpBindingEntry.Decoded (binding : HttpBindingEntry) : Prop :=
  ∀ body ∈ binding.body, Json.Distinct (.obj body.schema)

/-- A recorded operation with the binding of an offered one. -/
theorem Deployable.of_records {unicode : PyUnicode} {entry : OperationEntry}
    {bindingEntry : HttpBindingEntry} {operation : Operation} {offered : Unchecked.HttpBinding}
    (records : Records unicode (entry, bindingEntry) operation) (decoded : bindingEntry.Decoded)
    (same : PyConfigure.sameBinding (bindingEntry.httpBinding unicode) offered = true)
    (settled : Unchecked.Settled offered)
    (exposed : ∃ effect, effectForMethod unicode offered.method = .ok effect) :
    Deployable unicode operation (bindingEntry.httpBinding unicode) := by
  have named : HasToolName operation :=
    (@renderable_recordedDecision _ _ _ none records).2
  have bound : operation.binding = .http (bindingEntry.httpBinding unicode) := by
    simp only [Records, entryOperation, bind_eq_ok, pure_eq_ok] at records
    rcases records with ⟨_, _, rfl⟩
    rfl
  have distinct : ∀ body ∈ (bindingEntry.httpBinding unicode).body,
      Json.Distinct (.obj body.schema) := by
    intro body isBody
    rcases Option.map_eq_some_iff.mp isBody with ⟨bodyEntry, isEntry, rfl⟩
    exact decoded bodyEntry isEntry
  have sameMethod : (bindingEntry.httpBinding unicode).method = offered.method := by
    simp only [PyConfigure.sameBinding, Bool.and_eq_true, decide_eq_true_eq] at same
    exact same.1.1.1.1
  refine
    { bound, named
      upperMethod := unicode.upperIdem bindingEntry.method
      exposedMethod := sameMethod ▸ exposed
      settled := ?_ }
  by_cases plain : ∀ body ∈ (bindingEntry.httpBinding unicode).body, ¬body.ListsDictionaries
  · exact Or.inl (settled_of_sameBinding settled same distinct plain)
  · push Not at plain
    refine Or.inr ⟨plain, ?_⟩
    intro param paramMem unstated
    rcases List.mem_map.mp paramMem with ⟨paramEntry, _, rfl⟩
    simp only [ParameterEntry.parameter] at unstated ⊢
    by_cases stated : textOr paramEntry.wireName "" = ""
    · rwa [textOr_of_eq stated] at unstated
    · rw [textOr_of_ne stated] at unstated
      exact absurd unstated stated

end McpPortal
