import McpPortal.Configure.Reconcile
import McpPortal.Configure.SurveyAuthorization

/-!
# Reconciling and the existing policy

When every configured operation is reported unchanged, the decisions are the
recorded ones and those of the survey of new operations. A recorded decision
remembers the type and actions of the first detail the policy requires and nothing
else, so what comes back is equivalent exactly as long as this, together with the
kept rules, says as much as the rules that are dropped, and no more than the
policy did.
-/

namespace McpPortal

open Foundation

section Recorded

variable (unicode : PyUnicode)

/-- One iteration of `configuredOperations`. -/
def configureEntry (operations : List (String × Operation)) (entry : OperationEntry) :
    Except UnsupportedMethod (List (String × Operation)) :=
  match entry.binding with
  | .graphQl _ => .ok operations
  | .http binding => do
      let operation ← entryOperation unicode entry binding
      return Dict.insert operations entry.id operation

/-- The HTTP operations of a configuration by id, as its entries describe them. -/
def configuredOperations (config : McpPortalConfig) :
    Except UnsupportedMethod (List (String × Operation)) :=
  config.operations.foldlM (configureEntry unicode) []

/-- Recording an operation along with its id. -/
def recordOperation (policy : Option PolicyConfig) (entry : String × Operation) :
    String × OperationDecision :=
  (entry.1, recordedDecision entry.2 policy)

theorem insert_map_recordOperation (policy : Option PolicyConfig)
    (operations : List (String × Operation)) (id : String) (operation : Operation) :
    Dict.insert (operations.map (recordOperation policy)) id (recordedDecision operation policy) =
      (Dict.insert operations id operation).map (recordOperation policy) := by
  induction operations with
  | nil => rfl
  | cons entry rest ih =>
      simp only [List.map_cons, recordOperation, Dict.insert] at ih ⊢
      split
      · rfl
      · rw [ih]
        rfl

theorem foldlM_recordEntry (policy : Option PolicyConfig) (entries : List OperationEntry)
    (operations : List (String × Operation)) :
    entries.foldlM (recordEntry unicode policy) (operations.map (recordOperation policy)) =
      (entries.foldlM (configureEntry unicode) operations).map
        (List.map (recordOperation policy)) := by
  induction entries generalizing operations with
  | nil => rfl
  | cons entry rest ih =>
      simp only [List.foldlM_cons]
      cases binding : entry.binding with
      | graphQl _ =>
          simp only [recordEntry, configureEntry, binding]
          exact ih operations
      | http binding' =>
          simp only [recordEntry, configureEntry, binding]
          cases entryOperation unicode entry binding' with
          | error error => rfl
          | ok operation =>
              simp only [bind, Except.bind, pure, Except.pure] at ih ⊢
              rw [insert_map_recordOperation]
              exact ih _

/-- The recorded decisions are the configured operations with what the policy requires. -/
theorem decisionsFromConfig_eq (config : McpPortalConfig) (policy : Option PolicyConfig) :
    decisionsFromConfig unicode config policy =
      (configuredOperations unicode config).map (List.map (recordOperation policy)) :=
  foldlM_recordEntry unicode policy config.operations []

end Recorded

section Configured

variable {unicode : PyUnicode}

theorem entryOperation_id {entry : OperationEntry} {binding : HttpBindingEntry}
    {operation : Operation} (built : entryOperation unicode entry binding = .ok operation) :
    operation.id = entry.id := by
  simp only [entryOperation, bind, Except.bind] at built
  cases effect : entryEffect unicode entry.effect binding.method with
  | error error => simp [effect] at built
  | ok effect' =>
      simp only [effect, pure, Except.pure, Except.ok.injEq] at built
      rw [← built]

/-- Ids are distinct, and each stands before the operation that has it. -/
structure IndexedById (operations : List (String × Operation)) : Prop where
  unique : (Dict.keys operations).Nodup
  named : ∀ entry ∈ operations, entry.2.id = entry.1

theorem IndexedById.insert {operations : List (String × Operation)}
    (indexed : IndexedById operations) {id : String} {operation : Operation}
    (named : operation.id = id) : IndexedById (Dict.insert operations id operation) := by
  refine ⟨Dict.nodup_keys_insert id operation indexed.unique, ?_⟩
  intro entry entryMem
  rcases Dict.mem_insert_cases entryMem with rfl | old
  · exact named
  · exact indexed.named entry old

theorem indexedById_foldlM {entries : List OperationEntry}
    {start operations : List (String × Operation)} (indexed : IndexedById start)
    (built : entries.foldlM (configureEntry unicode) start = .ok operations) :
    IndexedById operations := by
  induction entries generalizing start with
  | nil =>
      cases built
      exact indexed
  | cons entry rest ih =>
      simp only [List.foldlM_cons] at built
      cases binding : entry.binding with
      | graphQl _ =>
          simp only [configureEntry, binding] at built
          exact ih indexed built
      | http binding' =>
          simp only [configureEntry, binding] at built
          cases operation : entryOperation unicode entry binding' with
          | error error => simp [operation, bind, Except.bind] at built
          | ok operation' =>
              simp only [operation, bind, Except.bind, pure, Except.pure] at built
              exact ih (indexed.insert (entryOperation_id operation)) built

theorem indexedById_configuredOperations {config : McpPortalConfig}
    {operations : List (String × Operation)}
    (configured : configuredOperations unicode config = .ok operations) :
    IndexedById operations :=
  indexedById_foldlM ⟨by simp, by simp⟩ configured

end Configured

theorem indexedById_operationsById (current : List Operation) :
    IndexedById (operationsById current) := by
  refine ⟨Dict.nodup_keys_ofList _, ?_⟩
  intro entry entryMem
  rcases List.mem_map.mp (Dict.mem_of_mem_ofList entryMem) with ⟨operation, _, rfl⟩
  rfl

theorem mem_keys_operationsById {current : List Operation} {id : String} :
    id ∈ Dict.keys (operationsById current) ↔ id ∈ current.map (·.id) := by
  rw [operationsById, Dict.mem_keys_ofList]
  simp [Dict.keys]

theorem keys_map_recordOperation (policy : Option PolicyConfig)
    (operations : List (String × Operation)) :
    Dict.keys (operations.map (recordOperation policy)) = Dict.keys operations := by
  simp [Dict.keys, recordOperation]

section NoOp

variable {State : Type} {prompter : Prompter State} {policy : PolicyConfig}
  {operations : List (String × Operation)} {current : List Operation} {state : State}
  {decisions : List OperationDecision} {report : ReconcileReport}

/-- The current operations that are not configured, in the order of the survey. -/
def newOperations (operations : List (String × Operation)) (current : List Operation) :
    List Operation :=
  (sortedIds ((Dict.keys (operationsById current)).filter fun id =>
    decide (id ∉ Dict.keys operations))).filterMap (Dict.get? (operationsById current))

/-- A report in which every configured operation is unchanged. -/
theorem report_of_allUnchanged
    (reported : diffOperationIds (operations.map (recordOperation policy)) current = some report)
    (allUnchanged : ∀ entry ∈ operations, entry.1 ∈ report.unchanged) :
    report.changed = [] ∧
      (∀ id, id ∈ report.unchanged ↔ id ∈ Dict.keys operations) ∧
      (∀ id ∈ Dict.keys operations, id ∈ Dict.keys (operationsById current)) ∧
      report.new = sortedIds ((Dict.keys (operationsById current)).filter fun id =>
        decide (id ∉ Dict.keys operations)) := by
  simp only [diffOperationIds, keys_map_recordOperation, Option.bind_eq_bind,
    Option.bind_eq_some_iff] at reported
  rcases reported with ⟨⟨changed, unchanged⟩, compared, result⟩
  cases result
  have split := mem_splitChanged compared
  simp only [mem_sortedIds, List.mem_filter, decide_eq_true_eq] at split
  have configured : ∀ id ∈ Dict.keys operations, id ∈ unchanged := by
    intro id idMem
    rcases List.mem_map.mp idMem with ⟨entry, entryMem, rfl⟩
    exact allUnchanged entry entryMem
  refine ⟨?_, ?_, ?_, rfl⟩
  · rw [List.eq_nil_iff_forall_not_mem]
    intro id idChanged
    rcases (split id).1.mp idChanged with ⟨⟨idMem, _⟩, different⟩
    rcases (split id).2.mp (configured id idMem) with ⟨_, equal⟩
    rw [equal] at different
    cases different
  · intro id
    exact ⟨fun idUnchanged => ((split id).2.mp idUnchanged).1.1, configured id⟩
  · intro id idMem
    exact ((split id).2.mp (configured id idMem)).1.2

theorem mem_filterMap_get? {recorded : List (String × OperationDecision)} {ids : List String}
    {decision : OperationDecision} (unique : (Dict.keys recorded).Nodup)
    (listed : ∀ id, id ∈ ids ↔ id ∈ Dict.keys recorded) :
    decision ∈ ids.filterMap (Dict.get? recorded) ↔ ∃ id, (id, decision) ∈ recorded := by
  rw [List.mem_filterMap]
  constructor
  · rintro ⟨id, _, found⟩
    exact ⟨id, Dict.mem_of_get? found⟩
  · rintro ⟨id, recordedMem⟩
    refine ⟨id, (listed id).mpr (List.mem_map_of_mem recordedMem), ?_⟩
    exact (Dict.get?_eq_some_iff unique).mpr recordedMem

/-- The decisions are the recorded ones and those of the survey of new operations. -/
theorem mem_decisions_iff (indexed : IndexedById operations)
    (ran : runReconcile prompter current (operations.map (recordOperation (some policy))) state =
      some (decisions, report))
    (allUnchanged : ∀ entry ∈ operations, entry.1 ∈ report.unchanged)
    (decision : OperationDecision) :
    decision ∈ decisions ↔
      (∃ entry ∈ operations, decision = recordedDecision entry.2 (some policy)) ∨
        decision ∈ (runSurvey prompter [] (newOperations operations current) state).1 := by
  simp only [runReconcile, Option.bind_eq_bind, Option.bind_eq_some_iff] at ran
  rcases ran with ⟨report', reported, result⟩
  cases result
  rcases report_of_allUnchanged reported allUnchanged with ⟨noneChanged, unchanged, _, new⟩
  have unique : (Dict.keys (operations.map (recordOperation (some policy)))).Nodup := by
    rw [keys_map_recordOperation]
    exact indexed.unique
  have recorded : decision ∈ report.unchanged.filterMap
      (Dict.get? (operations.map (recordOperation (some policy)))) ↔
      ∃ entry ∈ operations, decision = recordedDecision entry.2 (some policy) := by
    rw [mem_filterMap_get? unique (by simpa only [keys_map_recordOperation] using unchanged)]
    constructor
    · rintro ⟨id, recordedMem⟩
      rcases List.mem_map.mp recordedMem with ⟨entry, entryMem, equal⟩
      cases equal
      exact ⟨entry, entryMem, rfl⟩
    · rintro ⟨entry, entryMem, rfl⟩
      exact ⟨entry.1, List.mem_map.mpr ⟨entry, entryMem, rfl⟩⟩
  have surveyed : toSurvey current report = newOperations operations current := by
    rw [toSurvey, noneChanged, List.append_nil, new, newOperations]
  have noDefaults : surveyDefaults (operations.map (recordOperation (some policy))) report = [] := by
    rw [surveyDefaults, noneChanged]
    rfl
  rw [List.mem_append, recorded, surveyReported, surveyed, noDefaults]
  split
  case isTrue nothing =>
    rw [List.isEmpty_iff.mp nothing]
    rfl
  case isFalse => rfl

theorem mem_newOperations {operation : Operation} :
    operation ∈ newOperations operations current ↔
      (operation.id, operation) ∈ operationsById current ∧
        operation.id ∉ Dict.keys operations := by
  have indexed := indexedById_operationsById current
  simp only [newOperations, List.mem_filterMap, mem_sortedIds, List.mem_filter, decide_eq_true_eq]
  constructor
  · rintro ⟨id, ⟨_, notConfigured⟩, found⟩
    have present := Dict.mem_of_get? found
    have named : operation.id = id := indexed.named _ present
    rw [named]
    exact ⟨present, notConfigured⟩
  · rintro ⟨present, notConfigured⟩
    refine ⟨operation.id, ⟨List.mem_map_of_mem present, notConfigured⟩, ?_⟩
    exact (Dict.get?_eq_some_iff indexed.unique).mpr present

theorem mem_surveyed_operation {operation : Operation} :
    (∃ decision ∈ (runSurvey prompter [] (newOperations operations current) state).1,
        decision.operation = operation) ↔ operation ∈ newOperations operations current := by
  have surveyed := operations_runSurvey prompter [] (newOperations operations current) state
  have sorted := List.mem_insertionSort (r := fun left right => tagFor left ≤ tagFor right)
    (x := operation) (l := newOperations operations current)
  rw [← surveyed, List.mem_map] at sorted
  exact sorted

/-- The decided ids are those of the fresh introspection. -/
theorem mem_decisionIds_iff (indexed : IndexedById operations)
    (ran : runReconcile prompter current (operations.map (recordOperation (some policy))) state =
      some (decisions, report))
    (allUnchanged : ∀ entry ∈ operations, entry.1 ∈ report.unchanged) (id : String) :
    id ∈ decisionIds decisions ↔ id ∈ current.map (·.id) := by
  have decided := mem_decisions_iff indexed ran allUnchanged
  have found : ∀ id ∈ Dict.keys operations, id ∈ Dict.keys (operationsById current) := by
    simp only [runReconcile, Option.bind_eq_bind, Option.bind_eq_some_iff] at ran
    rcases ran with ⟨report', reported, result⟩
    cases result
    exact (report_of_allUnchanged reported allUnchanged).2.2.1
  rw [← mem_keys_operationsById, decisionIds, List.mem_map]
  constructor
  · rintro ⟨decision, decisionMem, rfl⟩
    rcases (decided decision).mp decisionMem with ⟨entry, entryMem, rfl⟩ | surveyed
    · have named := indexed.named entry entryMem
      simp only [recordedDecision, named]
      exact found entry.1 (List.mem_map_of_mem entryMem)
    · have isNew := mem_surveyed_operation.mp ⟨decision, surveyed, rfl⟩
      exact List.mem_map_of_mem (mem_newOperations.mp isNew).1
  · intro present
    by_cases configured : id ∈ Dict.keys operations
    · rcases List.mem_map.mp configured with ⟨entry, entryMem, rfl⟩
      refine ⟨recordedDecision entry.2 (some policy), ?_, indexed.named entry entryMem⟩
      exact (decided _).mpr (Or.inl ⟨entry, entryMem, rfl⟩)
    · rcases List.mem_map.mp present with ⟨⟨key, operation⟩, entryMem, rfl⟩
      have named : operation.id = key :=
        (indexedById_operationsById current).named _ entryMem
      subst key
      have isNew := mem_newOperations.mpr ⟨entryMem, configured⟩
      rcases mem_surveyed_operation.mpr isNew with ⟨decision, surveyed, rfl⟩
      exact ⟨decision, (decided decision).mpr (Or.inr surveyed), rfl⟩

/-- What the rules generated for recorded and for new operations require of an operation:
of a configured one, the type and actions of the first detail the policy requires of it,
and of a new one, what its survey attached. -/
def Regenerates (policy : PolicyConfig) (operations : List (String × Operation))
    (current : List Operation) (surveyed : List OperationDecision) (operation : Operation)
    (detail : AuthorizationDetail) : Prop :=
  let foreignIds := foreignIdShapedIds (current.map (·.id)) (some policy)
  (∃ entry ∈ operations, entry.1 ∉ foreignIds ∧ fnmatch operation.id entry.1 = true ∧
      ∃ first ∈ (PolicyEngine.required policy entry.2).head?,
        detail = { type := first.type, actions := first.actions }) ∨
    ∃ decision ∈ surveyed, decision.exposed = true ∧ decision.operation.id ∉ foreignIds ∧
      fnmatch operation.id decision.operation.id = true ∧
      ∃ require ∈ decision.require, detail = require.detail

theorem foreignIdShapedIds_congr {left right : List String}
    (same : ∀ id, id ∈ left ↔ id ∈ right) (existing : Option PolicyConfig) :
    foreignIdShapedIds left existing = foreignIdShapedIds right existing := by
  have sameShape : configureId? left = configureId? right := by
    funext rule
    simp only [configureId?, same]
  rw [foreignIdShapedIds, foreignIdShapedIds, foreignRules_congr same, sameShape]

theorem generatedDemands_iff_regenerates (indexed : IndexedById operations)
    (ran : runReconcile prompter current (operations.map (recordOperation (some policy))) state =
      some (decisions, report))
    (allUnchanged : ∀ entry ∈ operations, entry.1 ∈ report.unchanged) (operation : Operation)
    (detail : AuthorizationDetail) :
    detail ∈ generatedDemands decisions (some policy) operation ↔
      Regenerates policy operations current
        (runSurvey prompter [] (newOperations operations current) state).1 operation detail := by
  have decided := mem_decisions_iff indexed ran allUnchanged
  have sameForeign := foreignIdShapedIds_congr (mem_decisionIds_iff indexed ran allUnchanged)
    (some policy)
  simp only [generatedDemands, Set.mem_ofPred_eq, mem_generatedRequirements, decided,
    Regenerates, sameForeign]
  constructor
  · rintro ⟨_, require, ⟨decision, ⟨entry, entryMem, rfl⟩ | surveyed, rfl, exposed, required,
      regenerated⟩, applies, rfl⟩
    · left
      have named := indexed.named entry entryMem
      simp only [recordedDecision, named] at regenerated applies
      simp only [recordedDecision, requireFor, Option.map_eq_some_iff] at required
      rcases required with ⟨first, firstMem, rfl⟩
      exact ⟨entry, entryMem, regenerated, applies, first, firstMem, rfl⟩
    · right
      exact ⟨decision, surveyed, exposed, regenerated, applies, require, required, rfl⟩
  · rintro (⟨entry, entryMem, regenerated, applies, first, firstMem, rfl⟩ |
      ⟨decision, surveyed, exposed, regenerated, applies, require, required, rfl⟩)
    · have named := indexed.named entry entryMem
      refine ⟨entry.1, { type := first.type, actions := first.actions },
        ⟨recordedDecision entry.2 (some policy), Or.inl ⟨entry, entryMem, rfl⟩, named, rfl, ?_,
          regenerated⟩, applies, rfl⟩
      simp only [recordedDecision, requireFor, Option.map_eq_some_iff]
      exact ⟨first, firstMem, rfl⟩
    · exact ⟨_, require, ⟨decision, Or.inr surveyed, rfl, exposed, required, regenerated⟩, applies,
        rfl⟩

/-- Loading what was rendered answers every call of the operation as before. -/
def SameAnswers (decisions : List OperationDecision) (policy : PolicyConfig)
    (operation : Operation) : Prop :=
  ∃ rendered, PolicyConfig.modelValidate (renderPolicy decisions (some policy)) = some rendered ∧
    ∀ principal, (PolicyEngine.evaluate rendered operation principal).allowed =
      (PolicyEngine.evaluate policy operation principal).allowed

theorem sameAnswers_iff_admits {operation : Operation} :
    SameAnswers decisions policy operation ↔
      ∀ grants ∈ PolicyEngine.presentable,
        (PolicyEngine.guard (renderedPolicy decisions (some policy)) operation).Admits grants ↔
          (PolicyEngine.guard policy operation).Admits grants := by
  rw [← PolicyEngine.forall_principal_iff]
  simp only [SameAnswers, modelValidate_renderPolicy, Option.some.injEq, exists_eq_left']
  apply forall_congr'
  intro principal
  rw [Bool.eq_iff_iff, PolicyEngine.allowed_iff_admits, PolicyEngine.allowed_iff_admits]

/-- Whatever a dropped rule requires of the operation, a kept or a generated rule requires. -/
def NothingLost (policy : PolicyConfig) (operations : List (String × Operation))
    (current : List Operation) (surveyed : List OperationDecision) (operation : Operation) : Prop :=
  ∀ rule ∈ policy.rules, isConfigureOwned (current.map (·.id)) rule = true →
    ruleMatches operation rule.spec = true → ∀ detail ∈ rule.details,
      KeptRuleRequires (current.map (·.id)) (some policy) operation detail ∨
        ∃ stronger, Regenerates policy operations current surveyed operation stronger ∧
          coversOne detail stronger = true

/-- Whatever a generated rule requires of the operation, the policy requires already. -/
def NothingAdded (policy : PolicyConfig) (operations : List (String × Operation))
    (current : List Operation) (surveyed : List OperationDecision) (operation : Operation) : Prop :=
  ∀ detail, Regenerates policy operations current surveyed operation detail →
    ∃ stronger ∈ PolicyEngine.required policy operation, coversOne detail stronger = true

theorem sameAnswers_iff (indexed : IndexedById operations)
    (ran : runReconcile prompter current (operations.map (recordOperation (some policy))) state =
      some (decisions, report))
    (allUnchanged : ∀ entry ∈ operations, entry.1 ∈ report.unchanged) (operation : Operation) :
    SameAnswers decisions policy operation ↔
      NothingLost policy operations current
          (runSurvey prompter [] (newOperations operations current) state).1 operation ∧
        NothingAdded policy operations current
          (runSurvey prompter [] (newOperations operations current) state).1 operation := by
  have generated := generatedDemands_iff_regenerates indexed ran allUnchanged operation
  have sameKept : keptDemands (decisionIds decisions) (some policy) operation =
      keptDemands (current.map (·.id)) (some policy) operation := by
    rw [keptDemands, keptDemands, foreignRules_congr (mem_decisionIds_iff indexed ran allUnchanged)]
  have added : (keptDemands (current.map (·.id)) (some policy) operation ∪
      generatedDemands decisions (some policy) operation ⊆
        lowerClosure (PolicyEngine.guard policy operation).demands) ↔
      NothingAdded policy operations current
        (runSurvey prompter [] (newOperations operations current) state).1 operation := by
    have kept : keptDemands (current.map (·.id)) (some policy) operation ⊆
        lowerClosure (PolicyEngine.guard policy operation).demands := by
      rw [demands_policy (current.map (·.id))]
      exact Set.subset_union_left.trans subset_lowerClosure
    rw [Set.union_subset_iff]
    constructor
    · rintro ⟨_, covered⟩ detail regenerated
      exact mem_lowerClosure.mp (covered ((generated detail).mpr regenerated))
    · intro covered
      refine ⟨kept, fun detail detailMem => ?_⟩
      exact mem_lowerClosure.mpr (covered detail ((generated detail).mp detailMem))
  have lost : (PolicyEngine.guard policy operation).demands ⊆
      lowerClosure (keptDemands (current.map (·.id)) (some policy) operation ∪
        generatedDemands decisions (some policy) operation) ↔
      NothingLost policy operations current
        (runSurvey prompter [] (newOperations operations current) state).1 operation := by
    have covers_iff : ∀ detail, detail ∈ lowerClosure
        (keptDemands (current.map (·.id)) (some policy) operation ∪
          generatedDemands decisions (some policy) operation) ↔
        KeptRuleRequires (current.map (·.id)) (some policy) operation detail ∨
          ∃ stronger, Regenerates policy operations current
            (runSurvey prompter [] (newOperations operations current) state).1 operation stronger ∧
            coversOne detail stronger = true := by
      intro detail
      rw [lowerClosure_union, LowerSet.mem_sup_iff, mem_lowerClosure_keptDemands]
      simp only [mem_lowerClosure, generated, le_iff_coversOne]
    rw [demands_policy (current.map (·.id)), Set.union_subset_iff]
    constructor
    · rintro ⟨_, covered⟩ rule ruleMem owned applies detail required
      exact (covers_iff detail).mp (covered ⟨rule, ruleMem, owned, applies, required⟩)
    · intro covered
      refine ⟨Set.subset_union_left.trans subset_lowerClosure, ?_⟩
      rintro detail ⟨rule, ruleMem, owned, applies, required⟩
      exact (covers_iff detail).mpr (covered rule ruleMem owned applies detail required)
  have sameDefault :
      (PolicyEngine.guard (renderedPolicy decisions (some policy)) operation).openByDefault ↔
        (PolicyEngine.guard policy operation).openByDefault := Iff.rfl
  rw [sameAnswers_iff_admits, Guard.agree_iff sameDefault PolicyEngine.empty_presentable
    (PolicyEngine.demands_presentable _ _) (PolicyEngine.demands_presentable _ _),
    demands_renderedPolicy, sameKept, added, lost, and_comm]

end NoOp

/-- `run_reconcile` on the decisions that `decisions_from_config` reconstructs. -/
def reconcileConfig {State : Type} (unicode : PyUnicode) (prompter : Prompter State)
    (config : McpPortalConfig) (policy : PolicyConfig) (current : List Operation) (state : State) :
    Option (List OperationDecision × ReconcileReport) :=
  match decisionsFromConfig unicode config (some policy) with
  | .error _ => none
  | .ok previous => runReconcile prompter current previous state

/--
When a reconcile reports every configured operation unchanged, the policy it renders
answers every call of an operation as before exactly when no requirement is lost
with the dropped rules and none is added by the generated ones.
-/
theorem reconcile_sameAnswers_iff {State : Type} (unicode : PyUnicode) (prompter : Prompter State)
    (config : McpPortalConfig) (policy : PolicyConfig) (current : List Operation) (state : State)
    (operations : List (String × Operation)) (decisions : List OperationDecision)
    (report : ReconcileReport)
    (configured : configuredOperations unicode config = .ok operations)
    (reconciled : reconcileConfig unicode prompter config policy current state =
      some (decisions, report))
    (allUnchanged : ∀ entry ∈ operations, entry.1 ∈ report.unchanged) (operation : Operation) :
    SameAnswers decisions policy operation ↔
      NothingLost policy operations current
          (runSurvey prompter [] (newOperations operations current) state).1 operation ∧
        NothingAdded policy operations current
          (runSurvey prompter [] (newOperations operations current) state).1 operation := by
  apply sameAnswers_iff (indexedById_configuredOperations configured) _ allUnchanged
  rw [reconcileConfig, decisionsFromConfig_eq, configured] at reconciled
  exact reconciled

section Charge

private def chargeEntry : OperationEntry where
  id := "charge"
  upstream := "billing"
  description := "Charge a card"
  groupTags := ["billing"]
  binding := .http { method := "post", path := "/charge" }

private def chargeUpstream : UpstreamConfig where
  baseUrl := some { text := "https://billing.test" }
  positive := positive_defaultLimits

private def chargeConfig : McpPortalConfig where
  mode := .configured
  unsafeModeRequiresAcknowledgement := configured_is_safe
  unauthenticatedHttpIsGuarded := stdio_is_guarded _
  server := { name := "portal" }
  upstreams := [("billing", chargeUpstream)]
  operations := [chargeEntry]

private def chargeOperation : Operation where
  id := "charge"
  upstream := "billing"
  name := ""
  title := "Charge a card"
  description := "Charge a card"
  groupTags := ["billing"]
  effect := .action
  sensitivity := .normal
  inputSchema := []
  binding := .http { method := "POST", path := "/charge" }

private def byTag : PolicyRule where
  spec := { tags := ["billing"] }
  require := some (.ofType "billing")

private def byId : PolicyRule where
  spec := { ids := ["charge"] }
  require := some (.ofType "charge")

private def proposeDefaults : Prompter Unit where
  confirm state _ proposed := (proposed, state)
  text state _ proposed := (proposed, state)

private theorem configured_charge :
    configuredOperations asciiTables chargeConfig = .ok [("charge", chargeOperation)] := by
  rfl

private theorem reconciled_charge (policy : PolicyConfig) :
    reconcileConfig asciiTables proposeDefaults chargeConfig policy [chargeOperation] () =
      some ([recordedDecision chargeOperation (some policy)], { unchanged := ["charge"] }) := by
  rfl

/-- Of a rule on the tag and a rule on the id, only the first one's detail comes back. -/
theorem reconcile_loosens_charge :
    let policy : PolicyConfig := .ofRules [byTag, byId]
    configuredOperations asciiTables chargeConfig = .ok [("charge", chargeOperation)] ∧
      reconcileConfig asciiTables proposeDefaults chargeConfig policy [chargeOperation] () =
        some ([recordedDecision chargeOperation (some policy)], { unchanged := ["charge"] }) ∧
      ¬SameAnswers [recordedDecision chargeOperation (some policy)] policy chargeOperation := by
  intro policy
  refine ⟨configured_charge, reconciled_charge policy, ?_⟩
  rintro ⟨rendered, loaded, same⟩
  rw [modelValidate_renderPolicy, Option.some.injEq] at loaded
  subst rendered
  exact absurd (same { identity := "clerk", authorizationDetails := [{ type := "billing" }] })
    (by decide)

/-- A single rule on the id comes back as it was. -/
theorem reconcile_sameAnswers_iff_charge :
    SameAnswers [recordedDecision chargeOperation (some (.ofRules [byId]))] (.ofRules [byId])
      chargeOperation := by
  rw [reconcile_sameAnswers_iff asciiTables proposeDefaults chargeConfig (.ofRules [byId])
    [chargeOperation] () [("charge", chargeOperation)] _ { unchanged := ["charge"] }
    configured_charge (reconciled_charge _) (by decide) chargeOperation]
  have kept : PolicyEngine.required (.ofRules [byId]) chargeOperation = [{ type := "charge" }] := by
    decide
  constructor
  · intro rule ruleMem _ _ detail required
    rw [List.mem_singleton] at ruleMem
    subst rule
    have same : detail = { type := "charge" } := List.mem_singleton.mp required
    subst detail
    right
    refine ⟨{ type := "charge" }, Or.inl ?_, by decide⟩
    refine ⟨("charge", chargeOperation), List.mem_singleton_self _, by decide, by decide, ?_⟩
    exact ⟨{ type := "charge" }, by rw [kept]; rfl, rfl⟩
  · rintro detail (⟨entry, entryMem, _, _, first, firstMem, rfl⟩ | ⟨decision, surveyed, _⟩)
    · rw [List.mem_singleton] at entryMem
      subst entry
      rw [kept] at firstMem
      cases firstMem
      exact ⟨{ type := "charge" }, by rw [kept]; exact List.mem_singleton_self _, by decide⟩
    · cases surveyed

end Charge

end McpPortal
