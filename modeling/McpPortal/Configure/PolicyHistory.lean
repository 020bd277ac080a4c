import McpPortal.Configure.PolicyText
import McpPortal.Foundation.Machine
import McpPortal.Introspect

/-!
# The policy file over many runs

`configure` is run again and again over one policy file, each time with a configuration, with
descriptions of the upstreams and with answers of its own. The results are about the foreign rules
of the first file: all but those of the shape that `configure` generates for a managed id, which
may also have been written by hand and be dropped. The foreign rules are still there after the
last run, and an operation that no managed id matches as a pattern is decided about as before.
-/

namespace McpPortal

open Foundation

/-- No managed id, read as a pattern, names the operation. -/
def Unmanaged (managed : List String) (operation : Operation) : Prop :=
  ∀ id ∈ managed, fnmatch operation.id id = false

/-- A later policy has the foreign rules of the initial one, and only generated ones besides. -/
structure Continues (managed : List String) (initial policy : PolicyConfig) : Prop where
  defaults : policy.defaults = initial.defaults
  kept : (foreignRules managed (some initial)).Sublist policy.rules
  origin : ∀ rule ∈ policy.rules,
    rule ∈ initial.rules ∨ ∃ id ∈ managed, ∃ require, rule = generatedRule id require
  elsewhere : ∀ operation, Unmanaged managed operation →
    matchingRules operation policy.rules = matchingRules operation initial.rules

section Continues

variable {managed : List String} {initial middle policy : PolicyConfig}

theorem foreignRules_some (ids : List String) (policy : PolicyConfig) :
    foreignRules ids (some policy) =
      policy.rules.filter fun rule => !isConfigureOwned ids rule := rfl

theorem Continues.refl (policy : PolicyConfig) : Continues managed policy policy where
  defaults := rfl
  kept := List.filter_sublist
  origin _ ruleMem := Or.inl ruleMem
  elsewhere _ _ := rfl

theorem Continues.trans (first : Continues managed initial middle)
    (later : Continues managed middle policy) : Continues managed initial policy := by
  refine ⟨later.defaults.trans first.defaults, ?_, ?_, ?_⟩
  · have foreign := first.kept.filter fun rule => !isConfigureOwned managed rule
    rw [foreignRules_some, List.filter_filter] at foreign
    simp only [Bool.and_self] at foreign
    exact foreign.trans later.kept
  · intro rule ruleMem
    rcases later.origin rule ruleMem with earlier | generated
    · exact first.origin rule earlier
    · exact Or.inr generated
  · intro operation unmanaged
    exact (later.elsewhere operation unmanaged).trans (first.elsewhere operation unmanaged)

/-- Calls of operations that are not managed are decided as before. -/
theorem Continues.evaluate_eq (continues : Continues managed initial policy)
    {operation : Operation} (unmanaged : Unmanaged managed operation) (principal : Principal) :
    PolicyEngine.evaluate policy operation principal =
      PolicyEngine.evaluate initial operation principal := by
  have sameRules := continues.elsewhere operation unmanaged
  have required : PolicyEngine.required policy operation =
      PolicyEngine.required initial operation := congrArg accumulatedDetails sameRules
  have carry : PolicyEngine.carry policy operation = PolicyEngine.carry initial operation := by
    rw [PolicyEngine.carry, sameRules]
    rfl
  simp only [PolicyEngine.evaluate, required, carry, continues.defaults]

/-- An allowed call, of any operation, covers what the foreign rules require of it. -/
theorem Continues.covers_of_allowed (continues : Continues managed initial policy)
    {operation : Operation} {principal : Principal}
    (allowed : (PolicyEngine.evaluate policy operation principal).allowed = true)
    {rule : PolicyRule} (foreign : rule ∈ foreignRules managed (some initial))
    (applies : ruleMatches operation rule.spec = true) {detail : AuthorizationDetail}
    (detailMem : detail ∈ rule.details) :
    covers detail principal.authorizationDetails = true := by
  have required : detail ∈ PolicyEngine.required policy operation :=
    PolicyEngine.mem_required.mpr ⟨rule, continues.kept.mem foreign, applies, detailMem⟩
  rcases PolicyEngine.allowed_iff.mp allowed with ⟨nothing, _⟩ | ⟨_, covered⟩
  · rw [nothing] at required
    cases required
  · exact covered detail required

end Continues

section Written

variable {managed : List String} {decisions : List OperationDecision} {policy : PolicyConfig}

/-- A rule that is owned by a run names one of its ids alone. -/
theorem ids_of_isConfigureOwned {ids : List String} {rule : PolicyRule}
    (owned : isConfigureOwned ids rule = true) : ∃ id ∈ ids, rule.spec = { ids := [id] } := by
  have shaped := (Bool.and_eq_true _ _ ▸ owned).1
  rcases Option.isSome_iff_exists.mp shaped with ⟨id, isId⟩
  unfold configureId? at isId
  split at isId
  case h_1 only isSpec =>
    split at isId
    case isTrue present => exact ⟨only, present, isSpec⟩
    case isFalse => cases isId
  case h_2 => cases isId

/-- What is owned by a run is owned by one that manages more. -/
theorem isConfigureOwned_mono {ids : List String} (managedToo : ∀ id ∈ ids, id ∈ managed)
    {rule : PolicyRule} (owned : isConfigureOwned ids rule = true) :
    isConfigureOwned managed rule = true := by
  rcases ids_of_isConfigureOwned owned with ⟨id, present, isSpec⟩
  have within := (Bool.and_eq_true _ _ ▸ owned).2
  have shaped : configureId? managed rule = some id := by
    unfold configureId?
    rw [isSpec]
    exact if_pos (managedToo id present)
  rw [isConfigureOwned, shaped, within]
  rfl

theorem not_ruleMatches_of_unmanaged {operation : Operation}
    (unmanaged : Unmanaged managed operation) {id : String} (present : id ∈ managed) :
    ruleMatches operation { ids := [id] } = false := by
  simp [ruleMatches, unmanaged id present]

theorem foreignRules_sublist_of_mono {ids : List String}
    (managedToo : ∀ id ∈ ids, id ∈ managed) :
    (foreignRules managed (some policy)).Sublist (foreignRules ids (some policy)) := by
  apply List.monotone_filter_right
  intro rule foreign
  rw [Bool.not_eq_true'] at foreign ⊢
  by_contra owned
  rw [Bool.not_eq_false] at owned
  rw [isConfigureOwned_mono managedToo owned] at foreign
  cases foreign

/-- Foreign rules are all that applies to an operation that is not managed. -/
theorem matchingRules_foreignRules {ids : List String} (managedToo : ∀ id ∈ ids, id ∈ managed)
    {operation : Operation} (unmanaged : Unmanaged managed operation) :
    matchingRules operation (foreignRules ids (some policy)) =
      matchingRules operation policy.rules := by
  rw [matchingRules, foreignRules_some, List.filter_filter, matchingRules]
  apply List.filter_congr
  intro rule _
  cases owned : isConfigureOwned ids rule with
  | false => simp
  | true =>
      rcases ids_of_isConfigureOwned owned with ⟨id, present, isSpec⟩
      rw [isSpec, not_ruleMatches_of_unmanaged unmanaged (managedToo id present)]
      rfl

/-- A policy continues into what a run renders from it, whatever the decisions. -/
theorem continues_renderedPolicy (managedToo : ∀ id ∈ decisionIds decisions, id ∈ managed) :
    Continues managed policy (renderedPolicy decisions (some policy)) := by
  have generatedFor : ∀ {rule : PolicyRule},
      rule ∈ (generatedRequirements decisions (some policy)).map
        (fun generated => generatedRule generated.1 generated.2) →
      ∃ id ∈ managed, ∃ require, rule = generatedRule id require := by
    intro rule ruleMem
    rcases List.mem_map.mp ruleMem with ⟨⟨id, require⟩, generated, rfl⟩
    rcases mem_generatedRequirements.mp generated with ⟨decision, decisionMem, rfl, _⟩
    exact ⟨_, managedToo _ (List.mem_map_of_mem decisionMem), require, rfl⟩
  refine ⟨rfl, ?_, ?_, ?_⟩
  · exact (foreignRules_sublist_of_mono managedToo).trans (List.sublist_append_left _ _)
  · intro rule ruleMem
    rcases List.mem_append.mp ruleMem with foreign | generated
    · rcases mem_foreignRules.mp foreign with ⟨_, ⟨⟩, present, _⟩
      exact Or.inl present
    · exact Or.inr (generatedFor generated)
  · intro operation unmanaged
    have noneGenerated : matchingRules operation
        ((generatedRequirements decisions (some policy)).map
          fun generated => generatedRule generated.1 generated.2) = [] := by
      rw [matchingRules, List.filter_eq_nil_iff]
      intro rule ruleMem
      rcases generatedFor ruleMem with ⟨id, present, require, rfl⟩
      rw [generatedRule, not_ruleMatches_of_unmanaged unmanaged present]
      exact Bool.false_ne_true
    have split : (renderedPolicy decisions (some policy)).rules =
        foreignRules (decisionIds decisions) (some policy) ++
          (generatedRequirements decisions (some policy)).map
            fun generated => generatedRule generated.1 generated.2 := rfl
    rw [split, matchingRules, List.filter_append]
    change matchingRules operation _ ++ matchingRules operation _ = _
    rw [noneGenerated, List.append_nil, matchingRules_foreignRules managedToo unmanaged]

end Written

/-- One run: the configuration, which refers to the policy file, what is read from outside, and
the operator at the start. -/
structure ConfigureCall (Operator : Type) where
  config : McpPortalConfig
  secrets : List (String × String)
  descriptions : Descriptions
  operator : Operator

namespace PolicyHistory

variable {Operator : Type} (unicode : PyUnicode) (prompter : Prompter Operator)
  (format : TextFormat) (target : PurePath) (configPath : String)

/-- `_run_configure`, by what becomes of the text of the policy file. A run that fails before its
first write leaves the text as it is, and so does one whose operator declines that write. -/
def configure (text : String) (call : ConfigureCall Operator) : String :=
  match format.loadPolicy text with
  | none => text
  | some policy =>
      match introspectUpstreams unicode call.descriptions call.config with
      | .error _ => text
      | .ok introspected =>
          let loaded : LoadedConfig :=
            { config := call.config, secrets := call.secrets, policy := some policy }
          match runConfigure unicode prompter loaded introspected.operations call.operator with
          | .error _ => text
          | .ok run =>
              match (confirmWrites prompter target.text configPath run.state).1 with
              | .nothing => text
              | _ => format.render text run.policy

/-- One run after the other. -/
def machine (initial : String) : Machine String (ConfigureCall Operator) where
  start := initial
  step text call := some (configure unicode prompter format target configPath text call)

/-- Whatever the run introspects has a managed id. -/
def Manages (managed : List String) (call : ConfigureCall Operator) : Prop :=
  ∀ introspected, introspectUpstreams unicode call.descriptions call.config = .ok introspected →
    ∀ op ∈ introspected.operations, op.id ∈ managed

variable {unicode prompter format target configPath}

/-- A run leaves the text, or writes what it has rendered from the policy in it. -/
theorem configure_cases (text : String) (call : ConfigureCall Operator) :
    configure unicode prompter format target configPath text call = text ∨
      ∃ policy introspected run loaded, format.loadPolicy text = some policy ∧
        introspectUpstreams unicode call.descriptions call.config = .ok introspected ∧
        loaded.policy = some policy ∧
        runConfigure unicode prompter loaded introspected.operations call.operator = .ok run ∧
        configure unicode prompter format target configPath text call =
          format.render text run.policy := by
  unfold configure
  cases loads : format.loadPolicy text with
  | none => exact Or.inl rfl
  | some policy =>
      cases introspects : introspectUpstreams unicode call.descriptions call.config with
      | error => exact Or.inl rfl
      | ok introspected =>
          let loaded : LoadedConfig :=
            { config := call.config, secrets := call.secrets, policy := some policy }
          cases ran : runConfigure unicode prompter loaded introspected.operations
              call.operator with
          | error =>
              left
              simp only [loaded] at ran
              simp only [ran]
          | ok run =>
              simp only [loaded] at ran
              simp only [ran]
              cases (confirmWrites prompter target.text configPath run.state).1 with
              | nothing => exact Or.inl rfl
              | policyOnly => exact Or.inr ⟨policy, introspected, run, loaded, rfl, rfl, rfl, ran, rfl⟩
              | both => exact Or.inr ⟨policy, introspected, run, loaded, rfl, rfl, rfl, ran, rfl⟩

theorem reached_configure {initial text : String} {condition : String → ConfigureCall Operator → Prop}
    (before : (machine unicode prompter format target configPath initial).ReachedWithin condition text)
    {call : ConfigureCall Operator} (meets : condition text call) :
    (machine unicode prompter format target configPath initial).ReachedWithin condition
      (configure unicode prompter format target configPath text call) :=
  .step call before meets rfl

/-- A run continues the policy of a file. -/
theorem continues_configure (faithful : format.Faithful target) {managed : List String}
    {text : String} {policy : PolicyConfig} (loads : format.loadPolicy text = some policy)
    {call : ConfigureCall Operator} (manages : Manages unicode managed call) :
    ∃ written, format.loadPolicy
        (configure unicode prompter format target configPath text call) = some written ∧
      Continues managed policy written := by
  rcases @configure_cases _ unicode prompter format target configPath text call with
    same | ⟨loadedPolicy, introspected, run, loaded, loadsToo, introspects, isLoaded, ran, written⟩
  · rw [same]
    exact ⟨policy, loads, .refl policy⟩
  · cases loads.symm.trans loadsToo
    rw [written, runConfigure_policy ran, isLoaded, loadPolicy_render faithful loads]
    refine ⟨_, rfl, continues_renderedPolicy ?_⟩
    intro id idMem
    rw [mem_decisionIds_runConfigure ran] at idMem
    rcases List.mem_map.mp idMem with ⟨op, opMem, rfl⟩
    exact manages introspected introspects op opMem

/-- Any number of runs continue the policy that the file had at first. -/
theorem continues_of_reachedWithin (faithful : format.Faithful target) {managed : List String}
    {initial text : String} {policy : PolicyConfig} (loads : format.loadPolicy initial = some policy)
    (reached : (machine unicode prompter format target configPath initial).ReachedWithin
      (fun _ call => Manages unicode managed call) text) :
    ∃ written, format.loadPolicy text = some written ∧ Continues managed policy written := by
  induction reached with
  | start => exact ⟨policy, loads, .refl policy⟩
  | step call before manages stepped ih =>
      rcases ih with ⟨middle, loadsMiddle, continues⟩
      cases stepped
      rcases continues_configure faithful loadsMiddle manages with ⟨written, loadsAfter, later⟩
      exact ⟨written, loadsAfter, continues.trans later⟩

section Refunds

/-- What is tagged `money` needs a detail. -/
private def moneyRule : PolicyRule where
  spec := { tags := ["money"] }
  require := some (.ofType "money")

private def moneyPolicy : PolicyConfig :=
  .ofRules [moneyRule]

private def refundOperation : Operation where
  id := "refund"
  upstream := "till"
  name := "refund"
  title := "Refund"
  description := "Refund."
  groupTags := ["money"]
  effect := .action
  sensitivity := .normal
  inputSchema := [("type", .str "object")]
  binding := .http { method := "POST", path := "/refund" }

/-- The operator exposes operations one by one, with a requirement of their own. -/
private def requiring : Prompter Unit where
  confirm
    | _, .exposeAll _ _, _ => (false, ())
    | _, _, _ => (true, ())
  text _ _ _ := ("refund", ())

private def tillCall : ConfigureCall Unit where
  config :=
    { mode := .introspectSafe
      unsafeModeRequiresAcknowledgement := introspectSafe_is_safe
      unauthenticatedHttpIsGuarded := stdio_is_guarded _
      server := { name := "portal" }
      upstreams :=
        [ ("till",
            { introspection := some { openapi := some { file := some "till.yaml" } }
              positive := positive_defaultLimits }) ] }
  secrets := []
  descriptions :=
    { document := fun _ _ _ => return {
        baseUrl := "https://till.example"
        operations := return [refundOperation] }
      schema := fun _ _ => return [] }
  operator := ()

private def noFloats (text : String) : PyFloat where
  value := 0
  repr := text

private theorem introspects_till : ∃ introspected,
    introspectUpstreams asciiTables tillCall.descriptions tillCall.config = .ok introspected ∧
      introspected.operations = [refundOperation] := by
  have isUrl : matchesHttpUrl (textOr none "https://till.example") = true := by decide +kernel
  simp [introspectUpstreams, tillCall, introspectUpstream, isUrl, bind, Except.bind, pure,
    Except.pure]

private theorem manages_tillCall : Manages asciiTables ["refund"] tillCall := by
  intro introspected introspects op opMem
  rcases introspects_till with ⟨known, isKnown, isRefund⟩
  cases isKnown.symm.trans introspects
  rw [isRefund, List.mem_singleton] at opMem
  rw [opMem]
  exact List.mem_singleton_self _

private def moneyFile : TextFormat :=
  jsonFormat noFloats

private theorem faithful_moneyFile : moneyFile.Faithful (.ofText "policy.json") :=
  faithful_jsonFormat noFloats (by decide)

private def moneyText : String :=
  moneyFile.render "" (renderPolicy [] (some moneyPolicy))

private theorem loadPolicy_moneyText : moneyFile.loadPolicy moneyText = some moneyPolicy := by
  have decoded : moneyFile.decode moneyText = some (renderPolicy [] (some moneyPolicy)) :=
    decode_render_jsonFormat noFloats "" [] (some moneyPolicy)
  rw [TextFormat.loadPolicy, decoded, Option.bind_some, modelValidate_renderPolicy]
  decide +kernel

private def tillDecision : OperationDecision where
  operation := refundOperation
  exposed := true
  effect := .action
  sensitivity := .sensitive
  require := some { type := "refund" }

private def atTill (text : String) : String :=
  configure asciiTables requiring moneyFile (.ofText "policy.json") "portal.yaml" text tillCall

private theorem loadPolicy_atTill {text : String} {policy : PolicyConfig}
    (loads : moneyFile.loadPolicy text = some policy) :
    moneyFile.loadPolicy (atTill text) = some (renderedPolicy [tillDecision] (some policy)) := by
  have written : atTill text = moneyFile.render text (renderPolicy [tillDecision] (some policy)) := by
    rcases introspects_till with ⟨introspected, introspects, isRefund⟩
    simp only [atTill, configure, loads, introspects, isRefund]
    rfl
  rw [written, loadPolicy_render faithful_moneyFile loads]

end Refunds

end PolicyHistory

end McpPortal
