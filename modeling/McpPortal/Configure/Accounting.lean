import McpPortal.Configure.Recorded
import McpPortal.Configure.Run
import McpPortal.Configure.Transcript

/-!
# What becomes of every recorded operation

A reconciliation decides each introspected operation once. What is recorded and was
not introspected is reported removed. Only entries that are not recorded at all, and
those of upstreams that are not introspected, are not accounted for.
-/

namespace McpPortal

open Foundation

section Report

variable {previous : List (String × OperationDecision)} {current : List Operation}
  {report : ReconcileReport}

theorem perm_splitChanged {currentById : List (String × Operation)}
    {ids changed unchanged : List String}
    (compared : splitChanged previous currentById ids = some (changed, unchanged)) :
    (changed ++ unchanged).Perm ids := by
  induction ids generalizing changed unchanged with
  | nil =>
      cases compared
      exact .nil
  | cons id rest ih =>
      simp only [splitChanged, Option.bind_eq_bind, Option.bind_eq_some_iff] at compared
      rcases compared with ⟨same, _, ⟨restChanged, restUnchanged⟩, restCompared, result⟩
      have later := ih restCompared
      cases same with
      | true =>
          cases result
          exact List.perm_middle.trans (later.cons id)
      | false =>
          cases result
          exact later.cons id

/-- Each id is reported once, by whether it is recorded and whether it was introspected. -/
structure Reports (previous : List (String × OperationDecision)) (current : List Operation)
    (report : ReconcileReport) : Prop where
  new : ∀ id, id ∈ report.new ↔ id ∈ current.map (·.id) ∧ id ∉ Dict.keys previous
  removed : ∀ id, id ∈ report.removed ↔ id ∈ Dict.keys previous ∧ id ∉ current.map (·.id)
  both : ∀ id, id ∈ report.changed ++ report.unchanged ↔
    id ∈ Dict.keys previous ∧ id ∈ current.map (·.id)
  unchanged : ∀ id ∈ report.unchanged,
    sameRecorded previous (operationsById current) id = some true
  once : (report.new ++ (report.changed ++ report.unchanged)).Nodup

theorem reports_diffOperationIds (unique : (Dict.keys previous).Nodup)
    (reported : diffOperationIds previous current = some report) :
    Reports previous current report := by
  simp only [diffOperationIds, Option.bind_eq_bind, Option.bind_eq_some_iff] at reported
  rcases reported with ⟨⟨changed, unchanged⟩, compared, result⟩
  cases result
  have sorted (ids : List String) : (sortedIds ids).Perm ids := List.perm_insertionSort _ ids
  have split := (perm_splitChanged compared).trans (sorted _)
  have currentUnique : (Dict.keys (operationsById current)).Nodup := Dict.nodup_keys_indexBy _ current
  refine
    { new := fun id => ?_
      removed := fun id => ?_
      both := fun id => ?_
      unchanged := fun id idMem => (((mem_splitChanged compared) id).2.mp idMem).2
      once := ?_ }
  · rw [mem_sortedIds, List.mem_filter, mem_keys_operationsById, decide_eq_true_eq]
  · rw [mem_sortedIds, List.mem_filter, decide_eq_true_eq, mem_keys_operationsById]
  · rw [split.mem_iff, List.mem_filter, decide_eq_true_eq, mem_keys_operationsById]
  · rw [((sorted _).append split).nodup_iff, List.nodup_append]
    refine ⟨currentUnique.filter _, unique.filter _, ?_⟩
    rintro id isNew other isBoth rfl
    have notRecorded := (List.mem_filter.mp isNew).2
    exact of_decide_eq_true notRecorded (List.mem_filter.mp isBoth).1

end Report

section Decisions

variable {State : Type} {prompter : Prompter State} {previous : List (String × OperationDecision)}
  {current : List Operation} {report : ReconcileReport} {state : State}
  {decisions : List OperationDecision}

theorem report_eq (ran : runReconcile prompter current previous state = some (decisions, report)) :
    diffOperationIds previous current = some report := by
  simp only [runReconcile, Option.bind_eq_bind, Option.bind_eq_some_iff] at ran
  rcases ran with ⟨report', reported, result⟩
  cases result
  exact reported

theorem map_filterMap_get? {Value : Type} {entries : List (String × Value)} {name : Value → String}
    (named : ∀ entry ∈ entries, name entry.2 = entry.1) {ids : List String}
    (known : ∀ id ∈ ids, id ∈ Dict.keys entries) :
    (ids.filterMap (Dict.get? entries)).map name = ids := by
  induction ids with
  | nil => rfl
  | cons id rest ih =>
      have present := known id List.mem_cons_self
      rcases Option.isSome_iff_exists.mp (Dict.get?_isSome_iff.mpr present) with ⟨value, found⟩
      have isNamed : name value = id := named (id, value) (Dict.mem_of_get? found)
      rw [List.filterMap_cons_some found, List.map_cons, isNamed,
        ih fun other otherMem => known other (List.mem_cons_of_mem _ otherMem)]

/-- The operations of a survey are decided in some order. -/
theorem perm_runSurvey (defaults : List (String × OperationDecision)) (operations : List Operation)
    (state : State) :
    ((runSurvey prompter defaults operations state).1.map (·.operation)).Perm operations := by
  rw [operations_runSurvey]
  exact List.perm_insertionSort _ _

theorem perm_surveyReported :
    ((surveyReported prompter current previous report state).1.map (·.operation)).Perm
      (toSurvey current report) := by
  unfold surveyReported
  split
  case isTrue nothing =>
    rw [List.isEmpty_iff.mp nothing]
    exact .nil
  case isFalse => exact perm_runSurvey _ _ _

/-- Each introspected operation is decided, once. -/
theorem perm_decisionIds (indexed : IndexedById (previous.map fun entry => (entry.1, entry.2.operation)))
    (reports : Reports previous current report)
    (ran : runReconcile prompter current previous state = some (decisions, report)) :
    (decisionIds decisions).Perm (report.new ++ (report.changed ++ report.unchanged)) := by
  simp only [runReconcile, Option.bind_eq_bind, Option.bind_eq_some_iff] at ran
  rcases ran with ⟨report', _, result⟩
  cases result
  have named : ∀ entry ∈ previous, entry.2.operation.id = entry.1 := by
    intro entry entryMem
    exact indexed.named (entry.1, entry.2.operation) (List.mem_map.mpr ⟨entry, entryMem, rfl⟩)
  have recorded : (report.unchanged.filterMap (Dict.get? previous)).map (·.operation.id) =
      report.unchanged := by
    apply map_filterMap_get? named
    intro id idMem
    exact ((reports.both id).mp (List.mem_append_right _ idMem)).1
  have surveyed : ((surveyReported prompter current previous report state).1.map
      (·.operation.id)).Perm (report.new ++ report.changed) := by
    have operations :=
      (@perm_surveyReported State prompter previous current report state).map (·.id)
    rw [List.map_map] at operations
    have ids : (toSurvey current report).map (·.id) = report.new ++ report.changed := by
      apply map_filterMap_get? (indexedById_operationsById current).named
      intro id idMem
      rw [mem_keys_operationsById]
      rcases List.mem_append.mp idMem with isNew | isChanged
      · exact ((reports.new id).mp isNew).1
      · exact ((reports.both id).mp (List.mem_append_left _ isChanged)).2
    rw [ids] at operations
    exact operations
  rw [decisionIds, List.map_append, recorded, ← List.append_assoc]
  exact List.perm_append_comm.trans (surveyed.append_right _)

/-- Whatever is not exposed is an operation that was surveyed, and declined. -/
theorem declined_of_notExposed {prompter : Prompter State} {recorded : Transcript × State}
    (exposed : ∀ entry ∈ previous, entry.2.exposed = true)
    (ran : runReconcile prompter.recording current previous recorded = some (decisions, report))
    {decision : OperationDecision} (decisionMem : decision ∈ decisions)
    (notExposed : decision.exposed = false) :
    Declined (surveyReported prompter.recording current previous report recorded).2.1
      decision.operation.id := by
  simp only [runReconcile, Option.bind_eq_bind, Option.bind_eq_some_iff] at ran
  rcases ran with ⟨report', _, result⟩
  cases result
  rcases List.mem_append.mp decisionMem with recordedMem | surveyedMem
  · rcases List.mem_filterMap.mp recordedMem with ⟨id, _, found⟩
    have isExposed := exposed (id, decision) (Dict.mem_of_get? found)
    rw [isExposed] at notExposed
    cases notExposed
  · unfold surveyReported at surveyedMem ⊢
    split at surveyedMem
    case isTrue => cases surveyedMem
    case isFalse nonempty =>
      rw [if_neg nonempty]
      exact (runSurvey_recording _ recorded).2 decision surveyedMem notExposed

/-- Only introspected operations are declined. -/
theorem mem_of_declined {prompter : Prompter State} {state : State} {id : String}
    (declined : Declined
      (surveyReported prompter.recording current previous report ([], state)).2.1 id) :
    id ∈ current.map (·.id) := by
  rcases declined with ⟨effect, asked⟩
  unfold surveyReported at asked
  split at asked
  case isTrue => cases asked
  case isFalse =>
    rcases (runSurvey_recording (surveyDefaults previous report) ([], state)).1.2 _ asked with
      before | isAbout
    · cases before
    · rcases List.mem_map.mp isAbout with ⟨op, opMem, rfl⟩
      rcases List.mem_filterMap.mp opMem with ⟨surveyedId, _, found⟩
      have entryMem := Dict.mem_of_get? found
      have isNamed : op.id = surveyedId :=
        (indexedById_operationsById current).named _ entryMem
      rw [isNamed, ← mem_keys_operationsById]
      exact List.mem_map_of_mem entryMem

end Decisions

section Accounts

variable {State : Type}

/-- A run decides the operations that were introspected. -/
theorem mem_decisionIds_runConfigure {unicode : PyUnicode} {prompter : Prompter State}
    {loaded : LoadedConfig} {current : List Operation} {state : State} {run : ConfigureRun State}
    (ran : runConfigure unicode prompter loaded current state = .ok run) (id : String) :
    id ∈ decisionIds run.decisions ↔ id ∈ current.map (·.id) := by
  by_cases unconfigured : loaded.config.operations = []
  · rcases runConfigure_surveyed ran unconfigured with ⟨decided, _⟩
    have sameIds := (@perm_runSurvey State prompter [] current state).map (·.id)
    rw [List.map_map] at sameIds
    rw [decisionIds, decided]
    exact sameIds.mem_iff
  · rcases runConfigure_reconciled ran unconfigured with
      ⟨previous, report, recorded, reconciled, _⟩
    rw [decisionsFromConfig_eq, map_eq_ok] at recorded
    rcases recorded with ⟨operations, configuredAs, rfl⟩
    have indexed := indexedById_configuredOperations configuredAs
    have sameKeys := keys_map_recordOperation loaded.policy operations
    have reports := reports_diffOperationIds (sameKeys ▸ indexed.unique) (report_eq reconciled)
    have asRecorded : IndexedById ((operations.map (recordOperation loaded.policy)).map
        fun entry => (entry.1, entry.2.operation)) := by
      rw [List.map_map]
      exact (List.map_id operations).symm ▸ indexed
    rw [(perm_decisionIds asRecorded reports reconciled).mem_iff, List.mem_append, reports.new,
      reports.both]
    tauto

/-- What becomes of the entries, and of the introspected operations. -/
structure Accounts (config : McpPortalConfig) (current : List Operation)
    (run : ConfigureRun (Transcript × State)) (report : ReconcileReport) : Prop where
  accounted : ∀ entry ∈ config.operations,
    (∃ rendered ∈ run.operations, renderedId rendered = some entry.id) ∨
      Declined run.state.1 entry.id ∨ entry.id ∈ report.removed
  removed : ∀ entry ∈ config.operations, entry.id ∈ report.removed →
    entry.upstream ∈ introspectedUpstreams config
  disjoint : [report.new, report.removed, report.changed, report.unchanged].Pairwise List.Disjoint
  decidedOnce : ∀ op ∈ current, (decisionIds run.decisions).count op.id = 1

/-- An entry that was not introspected is recorded under its id, and its upstream was asked. -/
def AccountedFor (config : McpPortalConfig) (current : List Operation) : Prop :=
  ∀ entry ∈ config.operations, entry.id ∉ current.map (·.id) →
    (∃ other ∈ config.operations, other.id = entry.id ∧
      ∃ binding, other.binding = .http binding) ∧
      entry.upstream ∈ introspectedUpstreams config

theorem Reports.disjoint {previous : List (String × OperationDecision)} {current : List Operation}
    {report : ReconcileReport} (reports : Reports previous current report) :
    [report.new, report.removed, report.changed, report.unchanged].Pairwise List.Disjoint := by
  have once := List.nodup_append'.mp reports.once
  have compared := List.nodup_append'.mp once.2.1
  have apart := List.disjoint_append_right.mp once.2.2
  have removedApart : ∀ id ∈ report.removed, id ∉ report.new ++ (report.changed ++ report.unchanged) := by
    intro id isRemoved present
    rcases List.mem_append.mp present with isNew | isBoth
    · exact ((reports.removed id).mp isRemoved).2 ((reports.new id).mp isNew).1
    · exact ((reports.removed id).mp isRemoved).2 ((reports.both id).mp isBoth).2
  have newRemoved : List.Disjoint report.new report.removed := by
    intro id isNew isRemoved
    exact removedApart id isRemoved (List.mem_append_left _ isNew)
  have removedChanged : List.Disjoint report.removed report.changed := by
    intro id isRemoved isChanged
    exact removedApart id isRemoved
      (List.mem_append_right _ (List.mem_append_left _ isChanged))
  have removedUnchanged : List.Disjoint report.removed report.unchanged := by
    intro id isRemoved isUnchanged
    exact removedApart id isRemoved
      (List.mem_append_right _ (List.mem_append_right _ isUnchanged))
  simp [newRemoved, apart.1, apart.2, removedChanged, removedUnchanged, compared.2.2]

/-- Every entry is accounted for just if each one that was not introspected is recorded and belongs
to an upstream that was asked; the rest of the account is always right. -/
theorem runConfigure_accounts_iff (unicode : PyUnicode) (prompter : Prompter State)
    (loaded : LoadedConfig) (current : List Operation) (state : State)
    (run : ConfigureRun (Transcript × State)) (configured : loaded.config.operations ≠ [])
    (distinct : (current.map (·.id)).Nodup)
    (ran : runConfigure unicode prompter.recording loaded current ([], state) = .ok run) :
    (∃ report, run.report = some report ∧ Accounts loaded.config current run report) ↔
      AccountedFor loaded.config current := by
  rcases runConfigure_reconciled ran configured with
    ⟨previous, report, recorded, reconciled, isReport, isState, rendered, _⟩
  rw [decisionsFromConfig_eq, map_eq_ok] at recorded
  rcases recorded with ⟨operations, configuredAs, rfl⟩
  have indexed := indexedById_configuredOperations configuredAs
  have sameKeys := keys_map_recordOperation loaded.policy operations
  have reports := reports_diffOperationIds (sameKeys ▸ indexed.unique) (report_eq reconciled)
  have asRecorded : IndexedById ((operations.map (recordOperation loaded.policy)).map
      fun entry => (entry.1, entry.2.operation)) := by
    rw [List.map_map]
    exact (List.map_id operations).symm ▸ indexed
  have decided := perm_decisionIds asRecorded reports reconciled
  have sameIds : (decisionIds run.decisions).Perm (current.map (·.id)) := by
    rw [List.perm_ext_iff_of_nodup (decided.nodup_iff.mpr reports.once) distinct]
    intro id
    rw [decided.mem_iff, List.mem_append, reports.new, reports.both]
    tauto
  have isRecorded (id : String) : id ∈ Dict.keys (operations.map (recordOperation loaded.policy)) ↔
      ∃ other ∈ loaded.config.operations, other.id = id ∧ ∃ binding, other.binding = .http binding := by
    rw [sameKeys, keys_configuredOperations configuredAs]
  constructor
  · rintro ⟨report', isReport', accounts⟩ entry entryMem notIntrospected
    cases isReport.symm.trans isReport'
    have isRemoved : entry.id ∈ report.removed := by
      rcases accounts.accounted entry entryMem with written | declined | isRemoved
      · rcases (renderedId_iff rendered entry.id).mp written with ⟨decision, decisionMem, _, isId⟩
        have present : entry.id ∈ decisionIds run.decisions :=
          List.mem_map.mpr ⟨decision, decisionMem, isId⟩
        exact absurd (sameIds.mem_iff.mp present) notIntrospected
      · rw [isState] at declined
        exact absurd (mem_of_declined declined) notIntrospected
      · exact isRemoved
    exact ⟨(isRecorded entry.id).mp ((reports.removed entry.id).mp isRemoved).1,
      accounts.removed entry entryMem isRemoved⟩
  · intro accountedFor
    refine ⟨report, isReport, ?_, ?_, reports.disjoint, ?_⟩
    · intro entry entryMem
      by_cases introspected : entry.id ∈ current.map (·.id)
      · rcases List.mem_map.mp (sameIds.mem_iff.mpr introspected) with ⟨decision, decisionMem, isId⟩
        cases isExposed : decision.exposed with
        | true =>
            exact Or.inl ((renderedId_iff rendered entry.id).mpr
              ⟨decision, decisionMem, isExposed, isId⟩)
        | false =>
            have allExposed : ∀ entry ∈ operations.map (recordOperation loaded.policy),
                entry.2.exposed = true := by
              intro entry entryMem
              rcases List.mem_map.mp entryMem with ⟨_, _, rfl⟩
              rfl
            have declined := declined_of_notExposed allExposed reconciled decisionMem isExposed
            rw [← isState, isId] at declined
            exact Or.inr (Or.inl declined)
      · have recorded := (isRecorded entry.id).mpr (accountedFor entry entryMem introspected).1
        exact Or.inr (Or.inr ((reports.removed entry.id).mpr ⟨recorded, introspected⟩))
    · intro entry entryMem isRemoved
      exact (accountedFor entry entryMem ((reports.removed entry.id).mp isRemoved).2).2
    · intro op opMem
      have present := sameIds.mem_iff.mpr (List.mem_map_of_mem opMem)
      exact List.count_eq_one_of_mem (sameIds.nodup_iff.mpr distinct) present

end Accounts

section Orders

private def shopUpstream : UpstreamConfig where
  introspection := some { openapi := some { file := some "shop.yaml" } }
  positive := positive_defaultLimits

private def stockUpstream : UpstreamConfig where
  baseUrl := some { text := "https://stock.test" }
  positive := positive_defaultLimits

private def orderEntry (id upstream : String) : OperationEntry where
  id
  upstream
  description := "An order"
  binding := .http { method := "get", path := "/orders" }

private def searchEntry : OperationEntry where
  id := "search"
  upstream := "shop"
  description := "Search"
  binding := .graphQl { operationType := .query, document := "\x7b search \x7d" }

private def shopConfig (entries : List OperationEntry)
    (known : ∀ entry ∈ entries, entry.upstream ∈ ["shop", "stock"]) : LoadedConfig where
  config :=
    { mode := .introspectSafe
      unsafeModeRequiresAcknowledgement := introspectSafe_is_safe
      unauthenticatedHttpIsGuarded := stdio_is_guarded _
      server := { name := "portal" }
      upstreams := [("shop", shopUpstream), ("stock", stockUpstream)]
      operations := entries
      operationsReferenceKnownUpstreams := known }

private def listOrders : Operation where
  id := "listOrders"
  upstream := "shop"
  name := ""
  title := "An order"
  description := "An order"
  groupTags := []
  effect := .readOnly
  sensitivity := .normal
  inputSchema := []
  binding := .http { method := "GET", path := "/orders" }

theorem runConfigure_accounts_iff_orders :
    ∃ run, runConfigure asciiTables Prompter.proposing.recording
        (shopConfig [orderEntry "listOrders" "shop", orderEntry "oldOrders" "shop"] (by decide))
        [listOrders] ([], ()) = .ok run ∧
      ∃ report, run.report = some report ∧
        Accounts (shopConfig [orderEntry "listOrders" "shop", orderEntry "oldOrders" "shop"]
          (by decide)).config [listOrders] run report := by
  refine ⟨_, rfl, ?_⟩
  rw [runConfigure_accounts_iff asciiTables Prompter.proposing _ [listOrders] () _ (by simp [shopConfig])
    (by decide) rfl]
  intro entry entryMem _
  refine ⟨⟨entry, entryMem, rfl, ?_⟩, ?_⟩
  · rcases List.mem_cons.mp entryMem with rfl | entryMem
    · exact ⟨_, rfl⟩
    · rw [List.mem_singleton.mp entryMem]
      exact ⟨_, rfl⟩
  · rcases List.mem_cons.mp entryMem with rfl | entryMem
    · decide
    · rw [List.mem_singleton.mp entryMem]
      decide

/-- A GraphQL entry is lost without a trace, and an entry of an upstream that is not introspected
is reported removed. -/
theorem runConfigure_loses_search :
    (∃ run, runConfigure asciiTables Prompter.proposing.recording
        (shopConfig [orderEntry "listOrders" "shop", searchEntry] (by decide))
        [listOrders] ([], ()) = .ok run ∧
      ¬∃ report, run.report = some report ∧
        Accounts (shopConfig [orderEntry "listOrders" "shop", searchEntry] (by decide)).config
          [listOrders] run report) ∧
      ∃ run, runConfigure asciiTables Prompter.proposing.recording
          (shopConfig [orderEntry "listOrders" "shop", orderEntry "count" "stock"] (by decide))
          [listOrders] ([], ()) = .ok run ∧
        ¬∃ report, run.report = some report ∧
          Accounts (shopConfig [orderEntry "listOrders" "shop", orderEntry "count" "stock"]
            (by decide)).config [listOrders] run report := by
  refine ⟨⟨_, rfl, ?_⟩, _, rfl, ?_⟩
  · rintro ⟨report, isReport, accounts⟩
    cases isReport
    rcases accounts.accounted searchEntry (List.mem_cons_of_mem _ List.mem_cons_self) with
      ⟨rendered, renderedMem, isId⟩ | ⟨effect, asked⟩ | isRemoved
    · rw [List.mem_singleton.mp renderedMem] at isId
      exact absurd isId (by decide)
    · cases asked
    · cases isRemoved
  · rintro ⟨report, isReport, accounts⟩
    cases isReport
    have isIntrospected := accounts.removed (orderEntry "count" "stock")
      (List.mem_cons_of_mem _ List.mem_cons_self) List.mem_cons_self
    exact absurd isIntrospected (by decide)

end Orders

end McpPortal
