import McpPortal.Configure.Render
import McpPortal.Foundation.JsonRoundTrip
import McpPortal.Sources.FlattenStable
import McpPortal.Sources.OpenApi

/-!
# Pinned operations

An entry that `configure` has written for an introspected operation is built into
that operation. An operation is pinnable if every field of it survives: its method
is in upper case, its wire names are not empty, its name can be declared, and its
title is what an entry without a title would get, if it is empty.
-/

namespace McpPortal

open Foundation

/-- A parameter's wire name is not one the entry would leave to its argument name. -/
def KeepsWireName (param : Parameter) : Prop :=
  param.wireName = "" → param.arg = ""

/-- An operation with a flattened HTTP binding that an entry can hold as it is. -/
structure Pinnable (unicode : PyUnicode) (op : Operation) (binding : HttpBinding) : Prop where
  bound : op.binding = .http binding
  flattened : flattenBinding binding = .ok (binding, op.inputSchema)
  upperMethod : unicode.upper binding.method = binding.method
  exposedMethod : ∃ effect, effectForMethod unicode binding.method = .ok effect
  wireNames : ∀ param ∈ binding.parameters, KeepsWireName param
  named : HasToolName op
  titled : op.title = "" → firstLine op.description op.id = ""

variable {unicode : PyUnicode}

theorem parameter_renderedParameter {param : Parameter} (keeps : KeepsWireName param) :
    (renderedParameter param).parameter = param := by
  rcases param with ⟨arg, location, wireName, required, schema, style, explode⟩
  by_cases empty : wireName = ""
  · have sameArg : arg = "" := keeps empty
    simp [renderedParameter, ParameterEntry.parameter, textOr, empty, sameArg]
  · simp [renderedParameter, ParameterEntry.parameter, textOr, empty]

theorem httpBinding_renderedBinding {binding : HttpBinding}
    (upperMethod : unicode.upper binding.method = binding.method)
    (wireNames : ∀ param ∈ binding.parameters, KeepsWireName param) :
    (renderedBinding binding).httpBinding unicode = binding := by
  rcases binding with ⟨method, path, parameters, body⟩
  have sameParameters : (parameters.map renderedParameter).map (·.parameter) = parameters := by
    rw [List.map_map]
    conv_rhs => rw [← List.map_id parameters]
    apply List.map_congr_left
    intro param paramMem
    exact parameter_renderedParameter (wireNames param paramMem)
  have sameBody : (body.map renderedBody).map (·.bodySpec) = body := by cases body <;> rfl
  simp only [HttpBindingEntry.httpBinding, renderedBinding, sameParameters, sameBody] at upperMethod ⊢
  rw [upperMethod]

/-- The name an entry declares is the operation's. -/
theorem toolName?_getD {op : Operation} (named : HasToolName op) :
    ((toolName? op.name).map (·.text)).getD "" = op.name := by
  rcases named with empty | wellFormed
  · rw [empty]
    rfl
  · simp [toolName?, wellFormed]

/-- The entry of a decision that keeps the operation's effect and sensitivity is built into the
operation. -/
theorem Pinnable.build_renderedEntry {decision : OperationDecision} {binding : HttpBinding}
    (pinnable : Pinnable unicode decision.operation binding)
    (sameEffect : decision.effect = decision.operation.effect)
    (sameSensitivity : decision.sensitivity = decision.operation.sensitivity) :
    ExplicitSource.build unicode (renderedEntry decision binding) =
      .ok (some decision.operation) := by
  have sameBinding := httpBinding_renderedBinding pinnable.upperMethod pinnable.wireNames
  have sameTitle : textOr (some decision.operation.title)
      (firstLine decision.operation.description decision.operation.id) =
        decision.operation.title := by
    by_cases empty : decision.operation.title = ""
    · rw [empty, pinnable.titled empty]
      rfl
    · exact if_neg empty
  rcases pinnable.exposedMethod with ⟨derivedEffect, exposed⟩
  simp only [ExplicitSource.build, renderedEntry, buildHttpEntry, sameBinding, exposed,
    pinnable.flattened]
  simp only [Except.mapError, pure, Except.pure, bind, Except.bind, OperationEntry.operation,
    toolName?_getD pinnable.named, sameTitle, Option.getD_some, sameEffect, sameSensitivity,
    ← pinnable.bound]

section Introspected

/-- The interpreter prints a float as something. -/
def IsPrinted : Json → Prop
  | .float value => value.repr ≠ ""
  | _ => True

/-- What the records of a document are assumed to be besides being of the right types. -/
structure RawOperation.Named (raw : RawOperation) : Prop where
  names : ∀ param ∈ raw.parameters, param.name ≠ ""
  printedTitle : ∀ title ∈ Dict.get? raw.extensions "x-mcp-title", IsPrinted title
  printedSummary : ∀ summary ∈ raw.summary, IsPrinted summary

theorem Json.text_ne_empty {isPrintable : Char → Bool} {value : Json} (printed : IsPrinted value)
    (truthy : value.truthy = true) : value.text isPrintable ≠ "" := by
  cases value with
  | null => cases truthy
  | bool value => cases value <;> simp [Json.text, Json.repr]
  | int value =>
      intro empty
      have token := JsonText.numberToken_int (fun repr => { value := 0, repr }) value
      have noText : toString value = "" := empty
      rw [noText] at token
      exact token.nonempty rfl
  | float value => exact printed
  | str text => simpa [Json.truthy] using truthy
  | arr items => simp [Json.text, Json.repr]
  | obj fields => simp [Json.text, Json.repr]

/-- What is chosen before a fallback has a text. -/
theorem text_orElse_eq_empty {isPrintable : Char → Bool} {value : Option Json} {fallback : Json}
    (printed : ∀ given ∈ value, IsPrinted given)
    (empty : (orElse value fallback).text isPrintable = "") :
    fallback.text isPrintable = "" := by
  unfold orElse at empty
  split at empty
  case h_2 => exact empty
  case h_1 given =>
    split at empty
    case isFalse => exact empty
    case isTrue truthy => exact absurd empty (Json.text_ne_empty (printed given rfl) truthy)

variable {upstreamKey : String} {credentialHeaders : List String} {raw : RawOperation}
  {op : Operation}

theorem hasToolName_nameOverride {op : Operation} (named : raw.nameOverride unicode = .ok op.name) :
    HasToolName op := by
  simp only [RawOperation.nameOverride, bind_eq_ok, pure_eq_ok] at named
  rcases named with ⟨name, _, isName⟩
  split at isName
  case isTrue wellFormed => exact Or.inr (isName ▸ wellFormed)
  case isFalse => exact Or.inl isName.symm

/-- An operation that was yielded for a record. -/
theorem OpenApiSource.build_eq_some
    (built : OpenApiSource.build unicode upstreamKey credentialHeaders raw = .ok (some op)) :
    ∃ effect resolved inputSchema,
      effectForMethod unicode (raw.binding unicode).method = .ok effect ∧
        flattenBinding (raw.binding unicode) = .ok (resolved, inputSchema) ∧
        raw.operation unicode upstreamKey effect resolved inputSchema = .ok op := by
  simp only [OpenApiSource.build] at built
  split at built
  · cases built
  · split at built
    · cases built
    · split at built
      · cases built
      case h_2 effect derived =>
        split at built
        · cases built
        · cases built
        case h_3 resolved inputSchema flattened =>
          rcases map_eq_ok.mp built with ⟨own, made, same⟩
          cases same
          exact ⟨effect, resolved, inputSchema, derived, flattened, made⟩

/-- Whatever the source yields can be pinned. -/
theorem OpenApiSource.exists_pinnable (named : raw.Named)
    (built : OpenApiSource.build unicode upstreamKey credentialHeaders raw = .ok (some op)) :
    ∃ binding, Pinnable unicode op binding := by
  rcases OpenApiSource.build_eq_some built with
    ⟨effect, resolved, inputSchema, derived, flattened, made⟩
  rcases RawOperation.operation_eq_ok.mp made with ⟨_, _, _, _, titled, overridden, rfl⟩
  rcases resolveArgNames_ok (flattenBinding_ok flattened).2.1 with ⟨names, _, isResolved⟩
  change resolved = _ at isResolved
  have method : resolved.method = unicode.upper raw.method := by rw [isResolved]; rfl
  refine ⟨resolved, ?_⟩
  refine
    { bound := rfl
      flattened := flattenBinding_resolved flattened
      upperMethod := by rw [method, unicode.upperIdem]
      exposedMethod := ⟨effect, by rw [method]; exact derived⟩
      wireNames := ?_
      named := hasToolName_nameOverride overridden
      titled := ?_ }
  · intro param paramMem isEmpty
    rw [isResolved] at paramMem
    rcases List.mem_map.mp paramMem with ⟨original, originalMem, rfl⟩
    rcases List.mem_map.mp originalMem with ⟨declared, declaredMem, rfl⟩
    rw [renameParameter_wireName] at isEmpty
    exact absurd isEmpty (named.names declared declaredMem)
  · intro isEmpty
    have noTitle := (strOf_eq_ok.mp titled).2.trans isEmpty
    have noSummary := text_orElse_eq_empty named.printedTitle noTitle
    exact text_orElse_eq_empty named.printedSummary noSummary

/--
An introspected operation that is exposed with its own effect and sensitivity is
written as one entry, and the entry is accepted and built into the operation. Its
argument names are resolved, and resolving names again never changes them.
-/
theorem pinned_isIntrospected (unicode : PyUnicode) (upstreamKey : String)
    (credentialHeaders : List String) (raw : RawOperation) (op : Operation) (named : raw.Named)
    (built : OpenApiSource.build unicode upstreamKey credentialHeaders raw = .ok (some op))
    (decision : OperationDecision) (decides : decision.operation = op)
    (exposed : decision.exposed = true) (sameEffect : decision.effect = op.effect)
    (sameSensitivity : decision.sensitivity = op.sensitivity) :
    (∃ written entry, renderOperations unicode [decision] = .ok [written] ∧
      OperationEntry.modelValidate written = some entry ∧
      ExplicitSource.build unicode entry = .ok (some op)) ∧
    ∀ binding resolved, resolveArgNames binding = .ok resolved →
      resolveArgNames resolved = .ok resolved := by
  subst decides
  refine ⟨?_, fun _ _ => resolveArgNames_resolved⟩
  rcases OpenApiSource.exists_pinnable named built with ⟨binding, pinnable⟩
  refine ⟨renderEntry decision binding, renderedEntry decision binding, ?_, ?_, ?_⟩
  · simp [renderOperations, sortedById, exposed, renderDecision, pinnable.bound, pure, Except.pure,
      bind, Except.bind]
  · exact modelValidate_renderEntry decision binding pinnable.named
  · exact pinnable.build_renderedEntry sameEffect sameSensitivity

private def tagUserRecord : RawOperation where
  method := "put"
  path := "/users/{id}/tags"
  operationId := some "tagUser"
  description := some (.str "Tag a user")
  tags := ["users"]
  parameters :=
    [ { name := "id", location := .path, required := true, schema := [("type", .str "string")],
        explode := true },
      { name := "id", location := .query, required := false, schema := [], explode := false } ]

/-- Two parameters are called `id`, and stay apart. -/
theorem pinned_isIntrospected_tagUser :
    ∃ op, OpenApiSource.build asciiTables "crm" [] tagUserRecord = .ok (some op) ∧
      ∃ written entry,
        renderOperations asciiTables
            [{ operation := op, exposed := true, effect := op.effect, sensitivity := op.sensitivity,
               require := none }] = .ok [written] ∧
          OperationEntry.modelValidate written = some entry ∧
          ExplicitSource.build asciiTables entry = .ok (some op) := by
  refine ⟨_, rfl, ?_⟩
  refine (pinned_isIntrospected asciiTables "crm" [] tagUserRecord _ ?_ rfl _ rfl rfl rfl rfl).1
  refine ⟨?_, ?_, ?_⟩ <;> simp [tagUserRecord]

end Introspected

end McpPortal
