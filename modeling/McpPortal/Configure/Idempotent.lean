import McpPortal.Configure.Accounting
import McpPortal.Configure.HandWritten
import McpPortal.Foundation.JsonEq

/-!
# A second run

What a first survey has accepted is written in the order of the ids. A second run
over the same operations reconstructs the decisions in this order, finds nothing
new, removed or changed, asks nothing, and writes the same entries.
-/

namespace McpPortal

open Foundation

/-- The schemas of a binding are decoded objects. -/
def HttpBinding.HasDistinctKeys (binding : HttpBinding) : Prop :=
  (∀ param ∈ binding.parameters, Json.Distinct (.obj param.schema)) ∧
    ∀ body ∈ binding.body, Json.Distinct (.obj body.schema)

theorem sameParameter_self {param : Parameter} (distinct : Json.Distinct (.obj param.schema)) :
    sameParameter param param = true := by
  simp [sameParameter, Json.pyEq_self _ distinct]

theorem sameBinding_self {binding : HttpBinding} (distinct : binding.HasDistinctKeys) :
    sameBinding binding binding = true := by
  have parameters : (binding.parameters.zip binding.parameters).all
      (fun pair => sameParameter pair.1 pair.2) = true := by
    rw [List.all_eq_true]
    rintro ⟨left, right⟩ pairMem
    have same : left = right := by
      rw [List.zip_eq_zipWith, List.zipWith_self, List.mem_map] at pairMem
      rcases pairMem with ⟨param, _, pair⟩
      cases pair
      rfl
    subst right
    exact sameParameter_self (distinct.1 left (List.of_mem_zip pairMem).1)
  have body : sameBody binding.body binding.body = true := by
    cases hasBody : binding.body with
    | none => rfl
    | some body => simp [sameBody, Json.pyEq_self _ (distinct.2 body hasBody)]
  simp [sameBinding, parameters, body]

section Introspected

variable {unicode : PyUnicode}

/-- The schemas of a record are decoded objects, its parameters have names, and the interpreter
prints its texts. -/
structure RawOperation.WellFormed (raw : RawOperation) : Prop extends raw.Named where
  distinctParameters : ∀ param ∈ raw.parameters, Json.Distinct (.obj param.schema)
  distinctBody : ∀ body ∈ raw.requestBody, Json.Distinct (.obj body.schema)

/-- An operation that the source yields for a record of some document. -/
def IsIntrospected (unicode : PyUnicode) (op : Operation) : Prop :=
  ∃ upstreamKey credentialHeaders raw, RawOperation.WellFormed raw ∧
    OpenApiSource.build unicode upstreamKey credentialHeaders raw = .ok (some op)

theorem renameParameter_schema (parameters : List Parameter) (names : List String)
    (parameter : Parameter) :
    (renameParameter parameters names parameter).schema = parameter.schema := by
  unfold renameParameter
  split <;> rfl

theorem IsIntrospected.pinnable {op : Operation} (introspected : IsIntrospected unicode op) :
    ∃ binding, Pinnable unicode op binding ∧ binding.HasDistinctKeys := by
  rcases introspected with ⟨upstreamKey, credentialHeaders, raw, wellFormed, built⟩
  rcases OpenApiSource.exists_pinnable wellFormed.toNamed built with ⟨binding, pinnable⟩
  refine ⟨binding, pinnable, ?_⟩
  rcases OpenApiSource.build_eq_some built with ⟨_, resolved, _, _, flattened, made⟩
  rcases RawOperation.operation_eq_ok.mp made with ⟨_, _, _, _, _, _, rfl⟩
  cases pinnable.bound
  rcases resolveArgNames_ok (flattenBinding_ok flattened).2.1 with ⟨names, _, isResolved⟩
  change binding = _ at isResolved
  rw [isResolved]
  constructor
  · intro param paramMem
    rcases List.mem_map.mp paramMem with ⟨original, originalMem, rfl⟩
    rcases List.mem_map.mp originalMem with ⟨declared, declaredMem, rfl⟩
    rw [renameParameter_schema]
    exact wellFormed.distinctParameters declared declaredMem
  · intro body bodyMem
    rcases Option.map_eq_some_iff.mp bodyMem with ⟨declared, declaredMem, rfl⟩
    exact wellFormed.distinctBody declared declaredMem

end Introspected

section Written

variable {unicode : PyUnicode}

/-- Recording the entry of a decision brings the decision back, as far as it is written. -/
structure Restores (unicode : PyUnicode) (decision : OperationDecision) (operation : Operation) :
    Prop where
  id : operation.id = decision.operation.id
  binding : operation.binding = decision.operation.binding
  rendered : ∀ policy, renderDecision unicode (recordedDecision operation policy) =
    renderDecision unicode decision

theorem Pinnable.restores {decision : OperationDecision} {binding : HttpBinding}
    (pinnable : Pinnable unicode decision.operation binding)
    (titled : decision.operation.title ≠ "") :
    ∃ operation, Records unicode (renderedEntry decision binding, renderedBinding binding) operation ∧
      Restores unicode decision operation := by
  have sameBinding := httpBinding_renderedBinding pinnable.upperMethod pinnable.wireNames
  have sameName := toolName?_getD pinnable.named
  have sameTitle : textOr (some decision.operation.title) decision.operation.description =
      decision.operation.title := if_neg titled
  refine ⟨
    { decision.operation with
      effect := decision.effect
      sensitivity := decision.sensitivity
      inputSchema := [] }, ?_, rfl, rfl, ?_⟩
  · simp only [Records, entryOperation, renderedEntry, entryEffect, sameName, sameTitle,
      Option.getD_some, pinnable.bound]
    simp only [HttpBindingEntry.httpBinding] at sameBinding
    rw [sameBinding]
    rfl
  · intro policy
    simp only [renderDecision, recordedDecision, pinnable.bound]
    rfl

/-- The written entries are recorded one by one. -/
theorem exists_restored {decisions : List OperationDecision} {entries : List OperationEntry}
    (written : List.Forall₂ IsWritten decisions entries)
    (pinnable : ∀ decision ∈ decisions, ∃ binding, Pinnable unicode decision.operation binding)
    (titled : ∀ decision ∈ decisions, decision.operation.title ≠ "") :
    ∃ recorded, List.Forall₂ (Records unicode) (httpEntries entries) recorded ∧
      List.Forall₂ (Restores unicode) decisions recorded := by
  induction written with
  | nil => exact ⟨[], .nil, .nil⟩
  | @cons decision entry rest entries isWritten _ ih =>
      rcases ih (fun other otherMem => pinnable other (List.mem_cons_of_mem _ otherMem))
        (fun other otherMem => titled other (List.mem_cons_of_mem _ otherMem)) with
        ⟨recorded, records, restores⟩
      rcases pinnable decision List.mem_cons_self with ⟨binding, isPinnable⟩
      rcases isWritten with ⟨found, isBinding, rfl⟩
      cases isBinding.symm.trans isPinnable.bound
      rcases isPinnable.restores (titled decision List.mem_cons_self) with
        ⟨operation, recordsFirst, restoresFirst⟩
      have kept : httpEntries (renderedEntry decision binding :: entries) =
          (renderedEntry decision binding, renderedBinding binding) :: httpEntries entries := rfl
      exact ⟨operation :: recorded, kept ▸ .cons recordsFirst records,
        .cons restoresFirst restores⟩

theorem ids_of_restores {decisions : List OperationDecision} {recorded : List Operation}
    (restores : List.Forall₂ (Restores unicode) decisions recorded) :
    recorded.map (·.id) = decisionIds decisions := by
  induction restores with
  | nil => rfl
  | cons first _ ih => rw [List.map_cons, ih, first.id, decisionIds, decisionIds, List.map_cons]

theorem mapM_renderDecision_restored {decisions : List OperationDecision}
    {recorded : List Operation} (restores : List.Forall₂ (Restores unicode) decisions recorded)
    (policy : Option PolicyConfig) :
    (recorded.map fun operation => recordedDecision operation policy).mapM
        (renderDecision unicode) = decisions.mapM (renderDecision unicode) := by
  induction restores with
  | nil => rfl
  | cons first _ ih => rw [List.map_cons, List.mapM_cons, List.mapM_cons, first.rendered policy, ih]

end Written

section Unchanged

variable {previous : List (String × OperationDecision)} {current : List Operation}

theorem splitChanged_of_same {currentById : List (String × Operation)} {ids : List String}
    (same : ∀ id ∈ ids, sameRecorded previous currentById id = some true) :
    splitChanged previous currentById ids = some ([], ids) := by
  induction ids with
  | nil => rfl
  | cons id rest ih =>
      simp only [splitChanged, same id List.mem_cons_self,
        ih fun other otherMem => same other (List.mem_cons_of_mem _ otherMem)]
      rfl

theorem sortedIds_of_sorted {ids : List String} (sorted : ids.Pairwise (· ≤ ·)) :
    sortedIds ids = ids := sorted.insertionSort_eq

/-- Recorded operations in the order of their ids that all are as before are reported unchanged. -/
theorem diffOperationIds_of_same (sorted : (Dict.keys previous).Pairwise (· ≤ ·))
    (sameIds : ∀ id, id ∈ Dict.keys previous ↔ id ∈ current.map (·.id))
    (same : ∀ id ∈ Dict.keys previous,
      sameRecorded previous (operationsById current) id = some true) :
    diffOperationIds previous current = some { unchanged := Dict.keys previous } := by
  have noneNew : (Dict.keys (operationsById current)).filter
      (fun id => decide (id ∉ Dict.keys previous)) = [] := by
    rw [List.filter_eq_nil_iff]
    intro id idMem
    simpa [sameIds] using mem_keys_operationsById.mp idMem
  have noneRemoved : (Dict.keys previous).filter
      (fun id => decide (id ∉ Dict.keys (operationsById current))) = [] := by
    rw [List.filter_eq_nil_iff]
    intro id idMem
    simpa [mem_keys_operationsById] using (sameIds id).mp idMem
  have allBoth : (Dict.keys previous).filter
      (fun id => decide (id ∈ Dict.keys (operationsById current))) = Dict.keys previous := by
    rw [List.filter_eq_self]
    intro id idMem
    exact decide_eq_true (mem_keys_operationsById.mpr ((sameIds id).mp idMem))
  simp only [diffOperationIds, noneNew, noneRemoved, allBoth, sortedIds_of_sorted sorted,
    splitChanged_of_same same]
  rfl

end Unchanged

section SecondRun

variable {unicode : PyUnicode} {decisions : List OperationDecision}

theorem sorted_writtenDecisions (decisions : List OperationDecision) :
    (decisionIds (writtenDecisions decisions)).Pairwise (· ≤ ·) := by
  rw [decisionIds, List.pairwise_map]
  exact (List.pairwise_insertionSort _ decisions).sublist List.filter_sublist

theorem perm_writtenDecisions (accepted : ∀ decision ∈ decisions, decision.exposed = true) :
    (writtenDecisions decisions).Perm decisions := by
  have all : writtenDecisions decisions = sortedById decisions := by
    rw [writtenDecisions, List.filter_eq_self]
    intro decision decisionMem
    exact accepted decision ((List.mem_insertionSort _).mp decisionMem)
  rw [all]
  exact List.perm_insertionSort _ decisions

/-- Recorded operations in the order of their ids are written in this order. -/
theorem renderOperations_recorded {recorded : List Operation}
    (sorted : (recorded.map (·.id)).Pairwise (· ≤ ·)) (policy : Option PolicyConfig) :
    renderOperations unicode (recorded.map fun operation => recordedDecision operation policy) =
      (recorded.map fun operation => recordedDecision operation policy).mapM
        (renderDecision unicode) := by
  have inOrder : sortedById (recorded.map fun operation => recordedDecision operation policy) =
      recorded.map fun operation => recordedDecision operation policy := by
    apply List.Pairwise.insertionSort_eq
    rw [List.pairwise_map] at sorted ⊢
    exact sorted
  have allExposed : (recorded.map fun operation => recordedDecision operation policy).filter
      (·.exposed) = recorded.map fun operation => recordedDecision operation policy := by
    rw [List.filter_eq_self]
    intro decision decisionMem
    rcases List.mem_map.mp decisionMem with ⟨_, _, rfl⟩
    rfl
  rw [renderOperations, inOrder, allExposed]

/-- What a run reports, asks and writes when it is given the recorded decisions. -/
structure ChangesNothing (unicode : PyUnicode) (current : List Operation)
    (previous : List (String × OperationDecision)) (rendered : List Json) : Prop where
  exists_report : ∃ report : ReconcileReport, report.new = [] ∧ report.removed = [] ∧
    report.changed = [] ∧ ∀ (State : Type) (prompter : Prompter State) (state : State),
      surveyReported prompter current previous report state = ([], state) ∧
        ∃ decisions, runReconcile prompter current previous state = some (decisions, report) ∧
          renderOperations unicode decisions = .ok rendered

/-- Recorded operations that are the current ones change nothing. -/
theorem changesNothing {recorded current : List Operation} {policy : Option PolicyConfig}
    {rendered : List Json} (unique : (recorded.map (·.id)).Nodup)
    (sorted : (recorded.map (·.id)).Pairwise (· ≤ ·))
    (sameIds : ∀ id, id ∈ recorded.map (·.id) ↔ id ∈ current.map (·.id))
    (same : ∀ operation ∈ recorded, ∃ now, Dict.get? (operationsById current) operation.id = some now ∧
      compareBindings operation now = some true)
    (renders : (recorded.map fun operation => recordedDecision operation policy).mapM
      (renderDecision unicode) = .ok rendered) :
    ChangesNothing unicode current ((Dict.indexBy (·.id) recorded).map (recordOperation policy))
      rendered := by
  have keys : Dict.keys ((Dict.indexBy (·.id) recorded).map (recordOperation policy)) =
      recorded.map (·.id) := by
    rw [keys_map_recordOperation, Dict.indexBy_of_nodup unique, Dict.keys_map_key]
  have values : ((Dict.indexBy (·.id) recorded).map (recordOperation policy)).map (·.2) =
      recorded.map fun operation => recordedDecision operation policy := by
    rw [Dict.indexBy_of_nodup unique, List.map_map, List.map_map]
    rfl
  have reported : diffOperationIds ((Dict.indexBy (·.id) recorded).map (recordOperation policy))
      current = some { unchanged := recorded.map (·.id) } := by
    rw [diffOperationIds_of_same (keys ▸ sorted) (keys ▸ sameIds), keys]
    intro id idMem
    rw [keys] at idMem
    rcases List.mem_map.mp idMem with ⟨operation, operationMem, rfl⟩
    rcases same operation operationMem with ⟨now, isNow, sameBindings⟩
    have recordedAs : Dict.get? ((Dict.indexBy (·.id) recorded).map (recordOperation policy))
        operation.id = some (recordedDecision operation policy) := by
      rw [Dict.get?_eq_some_iff (keys ▸ unique), Dict.indexBy_of_nodup unique, List.map_map]
      exact List.mem_map.mpr ⟨operation, operationMem, rfl⟩
    simp only [sameRecorded, recordedAs, isNow]
    exact sameBindings
  refine ⟨{ unchanged := recorded.map (·.id) }, rfl, rfl, rfl, fun State prompter state => ?_⟩
  have nothingAsked : surveyReported prompter current
      ((Dict.indexBy (·.id) recorded).map (recordOperation policy))
      { unchanged := recorded.map (·.id) } state = ([], state) := rfl
  refine ⟨nothingAsked, recorded.map fun operation => recordedDecision operation policy, ?_, ?_⟩
  · have kept : (recorded.map (·.id)).filterMap
        (Dict.get? ((Dict.indexBy (·.id) recorded).map (recordOperation policy))) =
          recorded.map fun operation => recordedDecision operation policy := by
      rw [← keys, Dict.filterMap_get?_keys (keys ▸ unique), values]
    simp only [runReconcile, reported, Option.bind_eq_bind, Option.bind_some, kept, nothingAsked,
      List.append_nil]
    rfl
  · rw [renderOperations_recorded sorted, renders]

/-- A first survey that accepts all operations writes entries that are read back, and a run over a
configuration with these entries and the same operations, in any order, changes nothing. -/
theorem secondRun_changesNothing (unicode : PyUnicode) {First : Type} (first : Prompter First)
    (start : First) (operations current : List Operation)
    (introspected : ∀ op ∈ operations, IsIntrospected unicode op)
    (distinct : (operations.map (·.id)).Nodup) (titled : ∀ op ∈ operations, op.title ≠ "")
    (accepted : ∀ decision ∈ (runSurvey first [] operations start).1, decision.exposed = true)
    (sameOperations : current.Perm operations) :
    ∃ rendered entries,
      renderOperations unicode (runSurvey first [] operations start).1 = .ok rendered ∧
        rendered.mapM OperationEntry.modelValidate = some entries ∧
        ∀ (config : McpPortalConfig) (policy : Option PolicyConfig), config.operations = entries →
          ∃ previous, decisionsFromConfig unicode config policy = .ok previous ∧
            ChangesNothing unicode current previous rendered := by
  have decided := @perm_runSurvey First first [] operations start
  have surveyed : ∀ decision ∈ writtenDecisions (runSurvey first [] operations start).1,
      decision.operation ∈ operations := by
    intro decision decisionMem
    have present := (mem_writtenDecisions.mp decisionMem).1
    exact decided.mem_iff.mp (List.mem_map_of_mem present)
  have pinnable : ∀ decision ∈ writtenDecisions (runSurvey first [] operations start).1,
      ∃ binding, Pinnable unicode decision.operation binding := by
    intro decision decisionMem
    rcases (introspected _ (surveyed decision decisionMem)).pinnable with ⟨binding, isPinnable, _⟩
    exact ⟨binding, isPinnable⟩
  have renderable : ∀ decision ∈ writtenDecisions (runSurvey first [] operations start).1,
      Renderable decision := by
    intro decision decisionMem
    rcases pinnable decision decisionMem with ⟨binding, isPinnable⟩
    exact ⟨⟨binding, isPinnable.bound⟩, isPinnable.named⟩
  rcases @mapM_renderDecision unicode _ renderable with
    ⟨rendered, renders, entries, readBack, written⟩
  refine ⟨rendered, entries, renders, readBack, ?_⟩
  rintro config policy rfl
  rcases exists_restored written pinnable
      (fun decision decisionMem => titled _ (surveyed decision decisionMem)) with
    ⟨recorded, records, restores⟩
  have recordedIds := ids_of_restores restores
  have writtenIds : (recorded.map (·.id)).Perm (operations.map (·.id)) := by
    rw [recordedIds]
    have operationIds := decided.map (·.id)
    rw [List.map_map] at operationIds
    exact ((perm_writtenDecisions accepted).map (·.operation.id)).trans operationIds
  have unique := writtenIds.nodup_iff.mpr distinct
  refine ⟨(Dict.indexBy (·.id) recorded).map (recordOperation policy), ?_, ?_⟩
  · rw [decisionsFromConfig_eq, configuredOperations_eq_ok_iff.mpr ⟨recorded, records, rfl⟩]
    rfl
  · apply changesNothing unique (recordedIds ▸ sorted_writtenDecisions _)
    · intro id
      rw [writtenIds.mem_iff, (sameOperations.map (·.id)).mem_iff]
    · intro operation operationMem
      rcases exists_left_of_forall₂ restores operationMem with ⟨decision, decisionMem, restored⟩
      have isCurrent := sameOperations.mem_iff.mpr (surveyed decision decisionMem)
      refine ⟨decision.operation, ?_, ?_⟩
      · have currentDistinct : (current.map (·.id)).Nodup :=
          (sameOperations.map (·.id)).nodup_iff.mpr distinct
        exact (Dict.get?_indexBy_eq_some_iff currentDistinct).mpr ⟨isCurrent, restored.id.symm⟩
      · rcases (introspected _ (surveyed decision decisionMem)).pinnable with
          ⟨binding, isPinnable, distinctKeys⟩
        simp only [compareBindings, restored.binding, isPinnable.bound, sameBinding_self distinctKeys]
    · rw [mapM_renderDecision_restored restores, renders]

end SecondRun

section Books

private def listBooksRecord : RawOperation where
  method := "get"
  path := "/books"
  operationId := some "listBooks"
  summary := some (.str "List books")
  tags := ["shelf"]
  parameters :=
    [ { name := "limit", location := .query, required := false,
        schema := [("type", .str "integer")], explode := true } ]

private def borrowBookRecord : RawOperation where
  method := "post"
  path := "/books/\x7bid\x7d/loans"
  operationId := some "borrowBook"
  summary := some (.str "Borrow a book")
  tags := ["desk", "shelf"]
  parameters :=
    [ { name := "id", location := .path, required := true, schema := [("type", .str "string")],
        explode := true } ]
  requestBody := some
    { contentType := "application/json"
      schema :=
        [ ("type", .str "object"),
          ("properties", .obj [("id", .obj [("type", .str "integer")])]) ] }

private def listBooks : Operation where
  id := "listBooks"
  upstream := "library"
  name := ""
  title := "List books"
  description := "List books"
  groupTags := ["shelf"]
  effect := .readOnly
  sensitivity := .normal
  inputSchema :=
    [ ("type", .str "object"),
      ("properties", .obj [("limit", .obj [("type", .str "integer")])]) ]
  binding := .http
    { method := "GET"
      path := "/books"
      parameters :=
        [ { arg := "limit", location := .query, wireName := "limit", required := false,
            schema := [("type", .str "integer")] } ] }

private def borrowBook : Operation where
  id := "borrowBook"
  upstream := "library"
  name := ""
  title := "Borrow a book"
  description := "Borrow a book"
  groupTags := ["desk", "shelf"]
  effect := .action
  sensitivity := .normal
  inputSchema :=
    [ ("type", .str "object"),
      ("properties", .obj
        [("path_id", .obj [("type", .str "string")]), ("id", .obj [("type", .str "integer")])]),
      ("required", .arr [.str "path_id"]) ]
  binding := .http
    { method := "POST"
      path := "/books/\x7bid\x7d/loans"
      parameters :=
        [ { arg := "path_id", location := .path, wireName := "id", required := true,
            schema := [("type", .str "string")] } ]
      body := some
        { contentType := "application/json"
          schema :=
            [ ("type", .str "object"),
              ("properties", .obj [("id", .obj [("type", .str "integer")])]) ] } }

private theorem introspected_books :
    ∀ op ∈ [listBooks, borrowBook], IsIntrospected asciiTables op := by
  intro op opMem
  rcases List.mem_cons.mp opMem with rfl | opMem
  · refine ⟨"library", [], listBooksRecord, ⟨⟨?_, ?_, ?_⟩, ?_, ?_⟩, rfl⟩
    all_goals
      simp [listBooksRecord, IsPrinted, Json.Distinct, Json.DistinctFields, Dict.keys]
  · rw [List.mem_singleton.mp opMem]
    refine ⟨"library", [], borrowBookRecord, ⟨⟨?_, ?_, ?_⟩, ?_, ?_⟩, rfl⟩
    all_goals
      simp [borrowBookRecord, IsPrinted, Json.Distinct, Json.DistinctFields, Dict.keys]

theorem secondRun_changesNothing_books :
    ∃ rendered entries,
      renderOperations asciiTables
          (runSurvey Prompter.proposing [] [listBooks, borrowBook] ()).1 = .ok rendered ∧
        rendered.mapM OperationEntry.modelValidate = some entries ∧
        ∀ (config : McpPortalConfig) (policy : Option PolicyConfig), config.operations = entries →
          ∃ previous, decisionsFromConfig asciiTables config policy = .ok previous ∧
            ChangesNothing asciiTables [borrowBook, listBooks] previous rendered :=
  secondRun_changesNothing asciiTables Prompter.proposing () _ _ introspected_books (by decide)
    (by decide) (by decide) (List.Perm.swap _ _ _)

end Books

end McpPortal
