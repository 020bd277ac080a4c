import McpPortal.Configure.Accounting
import McpPortal.Configure.Deployable
import McpPortal.Configure.IntrospectedRuns
import McpPortal.Configure.RenderedConfig
import McpPortal.Published
import McpPortal.Sources.Merge

/-!
# Serving what was configured

The written configuration is validated, its entries are built and merged, and the
tools are named. All of this succeeds just if each exposed operation can be read
back, the ids are distinct, those that are selected have distinct names, and each
entry is flattened.
-/

namespace McpPortal

open Foundation

section Facts

variable {unicode : PyUnicode} {suffix : String → String}

theorem facts_applyRule (op : Operation) (rule : ClassificationRule) :
    (applyRule op rule).facts = applyRule op.facts rule := by
  have sameMatch : specMatches op.facts rule.spec = specMatches op rule.spec := rfl
  simp only [applyRule, sameMatch]
  split <;> rfl

theorem facts_foldl_applyRule (rules : List ClassificationRule) (op : Operation) :
    (rules.foldl applyRule op).facts = rules.foldl applyRule op.facts := by
  induction rules generalizing op with
  | nil => rfl
  | cons rule rest ih => rw [List.foldl_cons, List.foldl_cons, ih, facts_applyRule]

theorem map_facts_classify (operations : List Operation) (rules : List ClassificationRule) :
    (classify operations rules).map Operation.facts =
      classify (operations.map Operation.facts) rules := by
  simp only [classify, List.map_map]
  apply List.map_congr_left
  intro op _
  exact facts_foldl_applyRule rules op

theorem map_facts_select (isPrintable : Char → Bool) (operations : List Operation)
    (selection : SelectionConfig) :
    ((select isPrintable operations selection).1).map Operation.facts =
      (select isPrintable (operations.map Operation.facts) selection).1 := by
  simp only [select, List.filter_map]
  rfl

theorem baseName_facts (options : NamingOptions) (op : Operation) :
    baseName unicode suffix op.facts options = baseName unicode suffix op options := by
  rcases op with ⟨id, upstream, name, title, description, groupTags, effect, sensitivity, schema,
    binding⟩
  rcases options with ⟨strategy, _, _⟩
  cases strategy <;> cases binding
  all_goals
    simp only [baseName, Operation.facts]
    congr

theorem cappedName_facts (options : NamingOptions) (op : Operation) :
    cappedName unicode suffix options op.facts = cappedName unicode suffix options op := by
  rw [cappedName, cappedName, baseName_facts]

theorem publishedName_facts (options : NamingOptions) (selected : List Operation) (op : Operation) :
    publishedName unicode suffix options (selected.map Operation.facts) op.facts =
      publishedName unicode suffix options selected op := by
  have unnamed : (selected.map Operation.facts).filter (fun op => decide (op.name = "")) =
      (selected.filter fun op => op.name = "").map Operation.facts := by
    rw [List.filter_map]
    rfl
  have sameName : op.facts.name = op.name := rfl
  have sameId : op.facts.id = op.id := rfl
  simp only [publishedName, generatedName, unnamed, List.map_map, Function.comp_def,
    cappedName_facts, sameName, sameId]

theorem map_publishedName_facts (options : NamingOptions) (selected : List Operation) :
    (selected.map Operation.facts).map
        (publishedName unicode suffix options (selected.map Operation.facts)) =
      selected.map (publishedName unicode suffix options selected) := by
  rw [List.map_map]
  apply List.map_congr_left
  intro op _
  exact publishedName_facts options selected op

end Facts

section Conditions

variable (unicode : PyUnicode) (suffix : String → String)

/-- The exposed operations, as they are read back. -/
def exposedOperations (decisions : List PyConfigure.Decision) : List Operation :=
  (decisions.filter (·.exposed)).map (·.checked.pinned)

/-- Those that the classification and the selection of the configuration leave. -/
def selectedTools (config : McpPortalConfig) (operations : List Operation) : List Operation :=
  (select unicode.isPrintable (classify operations config.classification) config.selection).1

/-- The operations have distinct ids, and those that are left have distinct names. -/
structure NamedApart (config : McpPortalConfig) (operations : List Operation) : Prop where
  ids : (operations.map (·.id)).Nodup
  names : ((selectedTools unicode config operations).map
    (publishedName unicode suffix (namingOptions config)
      (selectedTools unicode config operations))).Nodup

/-- What makes the decisions of a run servable. -/
structure Servable (config : McpPortalConfig) (decisions : List PyConfigure.Decision) : Prop where
  writable : ∀ decision ∈ decisions, decision.exposed = true → decision.operation.Writable
  namedApart : NamedApart unicode suffix config (exposedOperations decisions)
  staysFlattened : ∀ decision ∈ decisions, decision.exposed = true → ∀ binding,
    decision.operation.checked.binding = .http binding → StaysFlattened unicode binding

/-- The entries of a configuration are built and merged, and the tool set is named. -/
def Serves (config : McpPortalConfig) : Prop :=
  ∃ explicit merged toolset, PyExplicit.operations unicode config = .ok explicit ∧
    mergeOperations [] explicit = .ok merged ∧
    buildToolset unicode suffix merged config = .ok toolset

/-- The written configuration is accepted, and the tool set is built from it. -/
def ServesRendered (config : McpPortalConfig) (operations : List (Option Json))
    (baseUrls : List (String × String)) : Prop :=
  ∃ written rendered, operations.mapM id = some written ∧
    config.validateRendered written baseUrls = some rendered ∧ Serves unicode suffix rendered

end Conditions

section Order

variable {unicode : PyUnicode} {suffix : String → String} {left right : List Operation}

theorem publishedName_congr (perm : left.Perm right) (options : NamingOptions) :
    publishedName unicode suffix options left = publishedName unicode suffix options right := by
  funext op
  have sameCount (name : String) :
      ((left.filter fun op => op.name = "").map (cappedName unicode suffix options)).count name =
        ((right.filter fun op => op.name = "").map
          (cappedName unicode suffix options)).count name :=
    ((perm.filter _).map _).count_eq name
  simp only [publishedName, generatedName, sameCount]

theorem selectedTools_perm (perm : left.Perm right) (config : McpPortalConfig) :
    (selectedTools unicode config left).Perm (selectedTools unicode config right) :=
  (perm.map _).filter _

/-- The order of the operations does not matter for their names. -/
theorem NamedApart.of_perm {config : McpPortalConfig} (perm : left.Perm right)
    (apart : NamedApart unicode suffix config left) : NamedApart unicode suffix config right where
  ids := (perm.map _).nodup_iff.mp apart.ids
  names := by
    have tools : (selectedTools unicode config left).Perm (selectedTools unicode config right) :=
      selectedTools_perm perm config
    rw [← publishedName_congr tools]
    exact (tools.map _).nodup_iff.mp apart.names

end Order

section Entries

variable {unicode : PyUnicode} {suffix : String → String}

theorem mergeOperations_nil_iff {explicit merged : List Operation} :
    mergeOperations [] explicit = .ok merged ↔ (explicit.map (·.id)).Nodup ∧ merged = explicit := by
  constructor
  · intro ran
    rcases mergeOperations_ok ran with ⟨unique, rfl⟩
    exact ⟨unique, by simp⟩
  · rintro ⟨unique, rfl⟩
    have noRepeats : sortedRepeats (merged.map (·.id)) = [] := sortedRepeats_eq_nil_iff.mpr unique
    simp [mergeOperations, noRepeats, Dict.indexBy_of_nodup unique, Function.comp_def, pure,
      Except.pure]

/-- The entry pins the operation of a decision that can be deployed. -/
def Deploys (unicode : PyUnicode) (decision : OperationDecision) (entry : OperationEntry) : Prop :=
  ∃ binding, Deployable unicode decision.operation binding ∧
    PinsEntry unicode decision binding entry

section Configured

variable {config : McpPortalConfig} {decisions : List OperationDecision}
  (deploys : List.Forall₂ (Deploys unicode) decisions config.operations)
include deploys

theorem exists_explicit_iff :
    (∃ explicit, PyExplicit.operations unicode config = .ok explicit) ↔
      ∀ decision ∈ decisions, ∀ binding, decision.operation.binding = .http binding →
        StaysFlattened unicode binding := by
  rw [PyExplicit.exists_operations_iff]
  constructor
  · intro built decision decisionMem binding bound
    rcases exists_right_of_forall₂ deploys decisionMem with
      ⟨entry, entryMem, other, deployable, pins⟩
    cases bound.symm.trans deployable.bound
    exact (deployable.exists_build_iff pins).mp (built entry entryMem)
  · intro stays entry entryMem
    rcases exists_left_of_forall₂ deploys entryMem with
      ⟨decision, decisionMem, binding, deployable, pins⟩
    apply (deployable.exists_build_iff pins).mpr
    exact stays decision decisionMem binding deployable.bound

/-- What the entries are built into, apart from texts, schemas and arguments. -/
theorem facts_of_operations {explicit : List Operation}
    (ran : PyExplicit.operations unicode config = .ok explicit) :
    explicit.map Operation.facts = (decisions.map (·.pinned)).map Operation.facts := by
  simp only [PyExplicit.operations, bind_eq_ok, pure_eq_ok] at ran
  rcases ran with ⟨built, ran, rfl⟩
  rw [mapM_eq_ok_iff_forall₂] at ran
  generalize config.operations = entries at deploys ran
  induction deploys generalizing built with
  | nil =>
      cases ran
      rfl
  | @cons decision entry _ _ first _ ih =>
      rcases List.forall₂_cons_left_iff.mp ran with ⟨value, others, builds, later, rfl⟩
      rcases first with ⟨binding, deployable, pins⟩
      rcases deployable.facts_of_build pins builds with ⟨op, rfl, sameFacts⟩
      have kept : (some op :: others).filterMap id = op :: others.filterMap id := rfl
      rw [kept, List.map_cons, List.map_cons, List.map_cons, sameFacts, ih others later]

end Configured

/-- Operations that are alike are named apart alike. -/
theorem namedApart_congr {config : McpPortalConfig} {left right : List Operation}
    (same : left.map Operation.facts = right.map Operation.facts) :
    NamedApart unicode suffix config left ↔ NamedApart unicode suffix config right := by
  have sameIds : left.map (·.id) = right.map (·.id) := by
    have ids := congrArg (List.map Operation.id) same
    rwa [List.map_map, List.map_map] at ids
  have sameTools : (selectedTools unicode config left).map Operation.facts =
      (selectedTools unicode config right).map Operation.facts := by
    simp only [selectedTools, map_facts_select, map_facts_classify, same]
  have sameNames : (selectedTools unicode config left).map (publishedName unicode suffix
        (namingOptions config) (selectedTools unicode config left)) =
      (selectedTools unicode config right).map (publishedName unicode suffix
        (namingOptions config) (selectedTools unicode config right)) := by
    rw [← map_publishedName_facts, sameTools, map_publishedName_facts]
  constructor
  · rintro ⟨ids, names⟩
    exact ⟨sameIds ▸ ids, sameNames ▸ names⟩
  · rintro ⟨ids, names⟩
    exact ⟨sameIds ▸ ids, sameNames ▸ names⟩

theorem namedApart_of_same {left right : McpPortalConfig}
    (sameRules : left.classification = right.classification)
    (sameSelection : left.selection = right.selection) (sameNaming : left.naming = right.naming)
    {operations : List Operation} :
    NamedApart unicode suffix left operations ↔ NamedApart unicode suffix right operations := by
  have sameTools : selectedTools unicode left operations =
      selectedTools unicode right operations := by
    rw [selectedTools, selectedTools, sameRules, sameSelection]
  have sameOptions : namingOptions left = namingOptions right := by
    rw [namingOptions, namingOptions, sameNaming]
  constructor
  · rintro ⟨ids, names⟩
    exact ⟨ids, sameOptions ▸ sameTools ▸ names⟩
  · rintro ⟨ids, names⟩
    exact ⟨ids, sameOptions ▸ sameTools ▸ names⟩

/-- A tool set is built from operations with distinct ids if the selected ones have distinct
names. -/
theorem exists_toolset_iff (digest : IsDigest suffix) {config : McpPortalConfig}
    (isConfigured : config.mode = .configured) {explicit : List Operation} :
    (explicit.map (·.id)).Nodup ∧
        (∃ toolset, buildToolset unicode suffix explicit config = .ok toolset) ↔
      NamedApart unicode suffix config explicit := by
  have isSelected : (selectedOperations unicode explicit config).1 =
      selectedTools unicode config explicit := by
    simp [selectedOperations, applyModePosture, isConfigured, selectedTools]
  rw [exists_buildToolset_iff digest isSelected]
  constructor
  · rintro ⟨unique, _, names⟩
    exact ⟨unique, names⟩
  · rintro ⟨unique, names⟩
    refine ⟨unique, ?_, names⟩
    have selectedIds : (selectedTools unicode config explicit).map (·.id) =
        ((explicit.filter fun op =>
          (keep config.selection (config.classification.foldl applyRule op)).1).map (·.id)) := by
      simp only [selectedTools, select, classify, List.filter_map, List.map_map]
      apply List.map_congr_left
      intro op _
      rcases foldl_applyRule config.classification op with ⟨_, _, applied⟩
      simp only [Function.comp_apply, applied]
    rw [selectedIds]
    exact unique.sublist (List.filter_sublist.map _)

theorem serves_iff (digest : IsDigest suffix) {config : McpPortalConfig}
    (isConfigured : config.mode = .configured) {decisions : List OperationDecision}
    (deploys : List.Forall₂ (Deploys unicode) decisions config.operations) :
    Serves unicode suffix config ↔
      NamedApart unicode suffix config (decisions.map (·.pinned)) ∧
        ∀ decision ∈ decisions, ∀ binding, decision.operation.binding = .http binding →
          StaysFlattened unicode binding := by
  rw [← exists_explicit_iff deploys]
  constructor
  · rintro ⟨explicit, merged, toolset, ran, merges, built⟩
    rcases mergeOperations_nil_iff.mp merges with ⟨unique, rfl⟩
    have apart := (exists_toolset_iff digest isConfigured).mp ⟨unique, toolset, built⟩
    exact ⟨(namedApart_congr (facts_of_operations deploys ran)).mp apart, merged, ran⟩
  · rintro ⟨apart, explicit, ran⟩
    have named := (namedApart_congr (facts_of_operations deploys ran)).mpr apart
    rcases (exists_toolset_iff digest isConfigured).mpr named with ⟨unique, toolset, built⟩
    exact ⟨explicit, explicit, toolset, ran, mergeOperations_nil_iff.mpr ⟨unique, rfl⟩, built⟩

end Entries

namespace PyConfigure

/-- A decision that is rendered for a known upstream and, once read back, can be deployed. -/
structure IsDeployable (unicode : PyUnicode) (config : McpPortalConfig) (decision : Decision) :
    Prop where
  renderable : decision.operation.Renderable
  deploys : decision.operation.Writable →
    ∃ binding, Deployable unicode decision.operation.checked binding
  known : decision.operation.checked.upstream ∈ Dict.keys config.upstreams

section Rendered

variable {unicode : PyUnicode} {suffix : String → String} {config : McpPortalConfig}
  {baseUrls : List (String × String)}

theorem entries_of_validateRendered {values : List Json} {rendered : McpPortalConfig}
    (validates : config.validateRendered values baseUrls = some rendered) :
    ∃ entries, values.mapM OperationEntry.modelValidate = some entries := by
  simp only [McpPortalConfig.validateRendered, Option.bind_eq_bind, Option.bind_eq_some_iff]
    at validates
  rcases validates with ⟨entries, read, _⟩
  exact ⟨entries, read⟩

theorem upstream_entry {decision : Decision} (renderable : decision.operation.Renderable) :
    decision.entry.upstream = decision.operation.checked.upstream := by
  rcases @pinsEntry_entry asciiTables decision renderable with ⟨_, _, _, _, isEntry⟩
  rw [isEntry]
  rfl

theorem servesRendered_iff (digest : IsDigest suffix) {documentUrl : String → String}
    {decisions : List Decision} {operations : List (Option Json)}
    (resolved : resolvedBaseUrls unicode documentUrl config = .ok baseUrls)
    (rendered : renderOperations unicode decisions = .ok operations)
    (deployable : ∀ decision ∈ decisions, IsDeployable unicode config decision) :
    ServesRendered unicode suffix config operations baseUrls ↔
      Servable unicode suffix config decisions := by
  simp only [renderOperations, bind_eq_ok] at rendered
  rcases rendered with ⟨ordered, sorts, ran⟩
  have perm : (ordered.filter (·.exposed)).Perm (decisions.filter (·.exposed)) :=
    (perm_of_sortedItems sorts).filter _
  have mem_written {decision : Decision} : decision ∈ ordered.filter (·.exposed) ↔
      decision ∈ decisions ∧ decision.exposed = true :=
    perm.mem_iff.trans List.mem_filter
  generalize ordered.filter (·.exposed) = written at ran perm mem_written
  have read := @readAll_iff _ _ _ (renderDecision unicode) OperationEntry.modelValidate
    (fun decision => decision.operation.Writable) Decision.entry written
    (fun decision decisionMem _ renders _ =>
      readDecision_iff (deployable decision (mem_written.mp decisionMem).1).renderable renders)
    operations ran
  by_cases writable : ∀ decision ∈ written, decision.operation.Writable
  · rcases Option.bind_eq_some_iff.mp (read.mpr ⟨writable, rfl⟩) with
      ⟨values, areValues, areEntries⟩
    have known : ∀ entry ∈ written.map Decision.entry,
        entry.upstream ∈ Dict.keys config.upstreams := by
      intro entry entryMem
      rcases List.mem_map.mp entryMem with ⟨decision, decisionMem, rfl⟩
      have isDeployable := deployable decision (mem_written.mp decisionMem).1
      rw [upstream_entry isDeployable.renderable]
      exact isDeployable.known
    rcases exists_validateRendered resolved areEntries known with
      ⟨accepted, isAccepted, isConfigured, areOperations, sameRules, sameSelection, sameNaming⟩
    have deploys : List.Forall₂ (Deploys unicode) (written.map (·.checked)) accepted.operations := by
      rw [areOperations, List.forall₂_map_left_iff, List.forall₂_map_right_iff,
        List.forall₂_same]
      intro decision decisionMem
      have isDeployable := deployable decision (mem_written.mp decisionMem).1
      rcases isDeployable.deploys (writable decision decisionMem) with ⟨binding, deploys⟩
      rcases pinsEntry_entry isDeployable.renderable with ⟨other, bound, pins⟩
      cases bound.symm.trans deploys.bound
      exact ⟨binding, deploys, pins⟩
    have sameNames (tools : List Operation) : NamedApart unicode suffix accepted tools ↔
        NamedApart unicode suffix config tools :=
      namedApart_of_same sameRules sameSelection sameNaming
    have samePinned : ((written.map (·.checked)).map (·.pinned)).Perm
        (exposedOperations decisions) := by
      rw [List.map_map]
      exact perm.map _
    constructor
    · rintro ⟨values', other, areValues', isOther, served⟩
      cases areValues.symm.trans areValues'
      cases isAccepted.symm.trans isOther
      rcases (serves_iff digest isConfigured deploys).mp served with ⟨apart, stays⟩
      refine ⟨?_, ((sameNames _).mp apart).of_perm samePinned, ?_⟩
      · intro decision present exposed
        exact writable decision (mem_written.mpr ⟨present, exposed⟩)
      · intro decision present exposed
        exact stays decision.checked (List.mem_map_of_mem (mem_written.mpr ⟨present, exposed⟩))
    · intro servable
      refine ⟨values, accepted, areValues, isAccepted, ?_⟩
      refine (serves_iff digest isConfigured deploys).mpr
        ⟨(sameNames _).mpr (servable.namedApart.of_perm samePinned.symm), ?_⟩
      intro decision decisionMem
      rcases List.mem_map.mp decisionMem with ⟨own, ownMem, rfl⟩
      rcases mem_written.mp ownMem with ⟨present, exposed⟩
      exact servable.staysFlattened own present exposed
  · constructor
    · rintro ⟨values, accepted, areValues, validates, _⟩
      rcases entries_of_validateRendered validates with ⟨entries, areEntries⟩
      have readBack : (operations.mapM id).bind
          (fun values => values.mapM OperationEntry.modelValidate) = some entries := by
        rw [areValues]
        exact areEntries
      exact absurd (read.mp readBack).1 writable
    · intro servable
      refine absurd (fun decision decisionMem => ?_) writable
      rcases mem_written.mp decisionMem with ⟨present, exposed⟩
      exact servable.writable decision present exposed

end Rendered

section Run

variable {State : Type} {unicode : PyUnicode} {prompter : Prompter State}
  {sortedByTag : List Unchecked.Operation → Running (List Unchecked.Operation)}
  {loaded : LoadedConfig} {introspected : List Unchecked.Operation} {state : State}
  {run : ConfigureRun State} {decision : Decision}

theorem isDeployable_of_decides
    (offered : ∀ op ∈ introspected, IsOffered unicode loaded.config op)
    (decides : Decides introspected decision) : IsDeployable unicode loaded.config decision := by
  rcases decides with ⟨op, opMem, isOperation⟩
  have isIntrospected := (offered op opMem).introspected
  constructor
  · rw [isOperation]
    exact isIntrospected.toFromDocument
  · rw [isOperation]
    exact fun writable => ⟨_, isIntrospected.deployable writable⟩
  · rw [isOperation]
    exact (offered op opMem).upstream

/-- An unchanged decision is recorded, with the binding of an introspected operation. -/
theorem isDeployable_of_keeps {operations : List (String × Operation)}
    (offered : ∀ op ∈ introspected, IsOffered unicode loaded.config op)
    (decoded : ∀ entry ∈ httpEntries loaded.config.operations, entry.2.Decoded)
    (configured : configuredOperations unicode loaded.config = .ok operations)
    (keeps : Keeps introspected (operations.map (recordOperation loaded.policy)) decision) :
    IsDeployable unicode loaded.config decision := by
  rcases keeps with ⟨id, recorded, found, rfl, op, opMem, same⟩
  rcases List.mem_map.mp (Dict.mem_of_get? found) with
    ⟨⟨key, operation⟩, operationMem, isRecorded⟩
  cases isRecorded
  have isIntrospected := (offered op opMem).introspected
  have listed := (Dict.get?_eq_some_iff (indexedById_configuredOperations configured).unique).mpr
    operationMem
  rcases (get?_configuredOperations configured _ operation).mp listed with
    ⟨⟨entry, bindingEntry⟩, recorded, records⟩
  rcases mem_httpEntries.mp (mem_of_recordedEntry recorded).1 with ⟨entryMem, _⟩
  have bound : operation.binding = .http (bindingEntry.httpBinding unicode) := by
    have recordsAs := records
    simp only [Records, entryOperation, bind_eq_ok, pure_eq_ok] at recordsAs
    rcases recordsAs with ⟨_, _, rfl⟩
    rfl
  simp only [compareBindings, recordedDecision, bound, pure_eq_ok] at same
  have deployable := Deployable.of_records records
    (decoded (entry, bindingEntry) (mem_of_recordedEntry recorded).1) same isIntrospected.settled
    isIntrospected.exposedMethod
  refine ⟨⟨⟨_, bound⟩, deployable.named⟩, fun _ => ⟨_, deployable⟩, ?_⟩
  change operation.upstream ∈ _
  rw [upstream_of_records records]
  exact loaded.config.operationsReferenceKnownUpstreams entry entryMem

theorem isDeployable_of_runConfigure (permutes : Permutes sortedByTag)
    (offered : ∀ op ∈ introspected, IsOffered unicode loaded.config op)
    (decoded : ∀ entry ∈ httpEntries loaded.config.operations, entry.2.Decoded)
    (ran : runConfigure unicode prompter sortedByTag loaded introspected state = .ok run) :
    ∀ decision ∈ run.decisions, IsDeployable unicode loaded.config decision := by
  intro decision decisionMem
  rcases decided_of_runConfigure permutes ran decision decisionMem with
    decides | ⟨operations, configured, keeps⟩
  · exact isDeployable_of_decides offered decides
  · exact isDeployable_of_keeps offered decoded configured keeps

end Run

section Lists

private def itemsUpstream : UpstreamConfig where
  introspection := some { openapi := some { file := some "items.yaml" } }
  positive := positive_defaultLimits

private def listsConfig : LoadedConfig where
  config :=
    { mode := .introspectSafe
      unsafeModeRequiresAcknowledgement := introspectSafe_is_safe
      unauthenticatedHttpIsGuarded := stdio_is_guarded _
      server := { name := "portal" }
      upstreams := [("crm", itemsUpstream), ("shop", itemsUpstream)] }

private def documentUrlOf (key : String) : String :=
  "https://" ++ key ++ ".test"

private def listRecord (operationId : String) : Unchecked.RawOperation where
  method := "get"
  path := "/items"
  operationId := some (.str operationId)

private def listOperation (id upstream : String) : Unchecked.Operation where
  id := .str id
  upstream
  name := ""
  title := id
  description := id
  groupTags := []
  effect := .readOnly
  sensitivity := .normal
  inputSchema := { properties := [], required := [] }
  binding := { method := "GET", path := "/items" }

private def acceptingAll : Prompter Unit where
  confirm := fun state _ proposed => (proposed, state)
  text := fun state _ proposed => (proposed, state)

/-- The order of tags that are texts. -/
private def sortedByText (operations : List Unchecked.Operation) :
    Running (List Unchecked.Operation) :=
  return operations.insertionSort fun left right => textOf (tagFor left) ≤ textOf (tagFor right)

private theorem permutes_sortedByText : Permutes sortedByText := by
  intro operations sorted ran
  rw [sortedByText, pure_eq_ok] at ran
  subst sorted
  exact List.perm_insertionSort _ _

private def zeroSuffix (_ : String) : String := "000000"

private theorem isDigest_zeroSuffix : IsDigest zeroSuffix := by
  have allDigits : ∀ digit ∈ "000000".toList, isSlugChar digit = true := by simp [isSlugChar]
  exact ⟨fun _ char charMem => Or.inl (allDigits char charMem), fun _ => by rw [zeroSuffix]; decide⟩

private theorem resolvedBaseUrls_listsConfig :
    resolvedBaseUrls asciiTables documentUrlOf listsConfig.config =
      .ok [("crm", "https://crm.test"), ("shop", "https://shop.test")] := by
  decide +kernel

private theorem isOffered_lists {operations : List Unchecked.Operation}
    (listed : ∀ op ∈ operations, op = listOperation "list" "crm" ∨
      op = listOperation "list" "shop" ∨ op = listOperation "listItems" "shop") :
    ∀ op ∈ operations, IsOffered asciiTables listsConfig.config op := by
  intro op opMem
  rcases listed op opMem with rfl | rfl | rfl
  · exact ⟨"crm", by decide, listRecord "list", rfl⟩
  · exact ⟨"shop", by decide, listRecord "list", rfl⟩
  · exact ⟨"shop", by decide, listRecord "listItems", rfl⟩

/-- Operations without tags, arguments and bodies stay flattened. -/
private theorem servable_lists {operations : List Unchecked.Operation} {run : ConfigureRun Unit}
    (ran : runConfigure asciiTables acceptingAll sortedByText listsConfig operations () = .ok run)
    (listed : ∀ op ∈ operations, ∃ id upstream, op = listOperation id upstream)
    (apart : NamedApart asciiTables zeroSuffix listsConfig.config
      (exposedOperations run.decisions)) :
    Servable asciiTables zeroSuffix listsConfig.config run.decisions := by
  have decided : ∀ decision ∈ run.decisions, ∃ id upstream,
      decision.operation = .introspected (listOperation id upstream) := by
    intro decision decisionMem
    rcases decided_of_runConfigure permutes_sortedByText ran decision decisionMem with
      ⟨op, opMem, isOperation⟩ | ⟨recorded, configured, _, _, found, _⟩
    · rcases listed op opMem with ⟨id, upstream, rfl⟩
      exact ⟨id, upstream, isOperation⟩
    · cases configured
      cases found
  refine ⟨?_, apart, ?_⟩
  · intro decision decisionMem _
    rcases decided decision decisionMem with ⟨id, upstream, isOperation⟩
    rw [isOperation]
    refine ⟨⟨id, rfl⟩, ?_, ?_⟩
    · intro tag tagMem
      cases tagMem
    · intro param paramMem
      cases paramMem
  · intro decision decisionMem _ binding bound
    rcases decided decision decisionMem with ⟨id, upstream, isOperation⟩
    rw [isOperation] at bound
    cases bound
    constructor
    · intro param paramMem
      cases paramMem
    · intro body isBody
      cases isBody

end Lists

end PyConfigure

end McpPortal
