import McpPortal.Configure.Accounting
import McpPortal.Configure.PolicyPaths
import McpPortal.Configure.SurveyAuthorization

/-!
# What becomes of the policy file that is overwritten

A run keeps the rules of the policy that the configuration refers to. It writes them over the
file at the policy path, whose own rules are lost where they are not among them. Both are one
file if the configuration refers to a policy and no other path was given.
-/

namespace McpPortal

open Foundation

/-- A policy file that loads. -/
structure PolicyFile where
  fields : JsonObject
  policy : PolicyConfig
  valid : PolicyConfig.modelValidate (.obj fields) = some policy

/-- `for key, value in data.items(): doc[key] = value`. -/
def overwriteKeys (doc : JsonObject) : Json → JsonObject
  | .obj data => data.foldl (fun doc item => Dict.insert doc item.1 item.2) doc
  | _ => doc

/-- The data of the text that `render_text` gives. -/
def renderTextData (path : PurePath) (existing : Option JsonObject) (data : Json) : Json :=
  match existing with
  | some doc => if yamlSuffixes.contains path.suffix then .obj (overwriteKeys doc data) else data
  | none => data

/-- `load_config(path).policy`, given what loads from absolute paths; `none` if it does not. -/
def loadedPolicy {File : Type} (paths : ProcessPaths File)
    (policies : PurePath → Option PolicyFile) (configPath : PurePath) : Option String → Option (Option PolicyConfig)
  | none => some none
  | some file =>
      (policies (loadedPolicyPath file (paths.baseDir configPath))).map fun read => some read.policy

/-- The rules of a policy that are not owned are kept in order, and so is the default. -/
def KeepsForeignRules (ids : List String) (existing : PolicyConfig) (written : Json) : Prop :=
  ∃ policy, PolicyConfig.modelValidate written = some policy ∧
    (foreignRules ids (some existing)).Sublist policy.rules ∧
    policy.defaults.unmatched = existing.defaults.unmatched

/-- Without a reference no default is written, and that of a YAML file stays. -/
def UnmatchedKept (isYaml : Prop) (existing : PolicyConfig) : Option PolicyConfig → Prop
  | some policy => policy.defaults.unmatched = existing.defaults.unmatched
  | none => isYaml ∨ existing.defaults.unmatched = .allow

/-- What the existing policy has in common with the one that the configuration refers to. -/
structure KeptByReference (ids : List String) (isYaml : Prop) (existing : PolicyConfig)
    (referenced : Option PolicyConfig) : Prop where
  rules : (foreignRules ids (some existing)).Sublist (foreignRules ids referenced)
  unmatched : UnmatchedKept isYaml existing referenced

section Merge

variable {decisions : List OperationDecision} {existing referenced : Option PolicyConfig}

/-- A generated rule is one that `configure` owns. -/
theorem isConfigureOwned_generatedRule {ids : List String} {id : String} (managed : id ∈ ids)
    (require : RequiredDetail) : isConfigureOwned ids (generatedRule id require) = true := by
  have shaped : configureId? ids (generatedRule id require) = some id := if_pos managed
  rw [isConfigureOwned, shaped]
  rfl

theorem filter_renderedRules :
    ((renderedRules decisions referenced).filter fun rule =>
        !isConfigureOwned (decisionIds decisions) rule) =
      foreignRules (decisionIds decisions) referenced := by
  have kept : ∀ rule ∈ foreignRules (decisionIds decisions) referenced,
      (!isConfigureOwned (decisionIds decisions) rule) = true := by
    intro rule ruleMem
    rcases mem_foreignRules.mp ruleMem with ⟨_, _, _, foreign⟩
    simp [foreign]
  have dropped : ∀ rule ∈ (generatedRequirements decisions referenced).map
      (fun generated => generatedRule generated.1 generated.2),
      ¬ (!isConfigureOwned (decisionIds decisions) rule) = true := by
    intro rule ruleMem
    rcases List.mem_map.mp ruleMem with ⟨⟨id, require⟩, generated, rfl⟩
    rcases mem_generatedRequirements.mp generated with ⟨decision, decisionMem, isId, _⟩
    have managed : id ∈ decisionIds decisions := isId ▸ List.mem_map_of_mem decisionMem
    simp [isConfigureOwned_generatedRule managed]
  rw [renderedRules, List.filter_append, List.filter_eq_self.mpr kept,
    List.filter_eq_nil_iff.mpr dropped, List.append_nil]

/-- Foreign rules are kept only among the foreign rules of the policy that was loaded. -/
theorem foreignRules_sublist_renderedRules :
    (foreignRules (decisionIds decisions) existing).Sublist (renderedRules decisions referenced) ↔
      (foreignRules (decisionIds decisions) existing).Sublist
        (foreignRules (decisionIds decisions) referenced) := by
  constructor
  · intro kept
    have foreign := kept.filter fun rule => !isConfigureOwned (decisionIds decisions) rule
    rw [filter_renderedRules] at foreign
    have unchanged : ((foreignRules (decisionIds decisions) existing).filter fun rule =>
        !isConfigureOwned (decisionIds decisions) rule) =
          foreignRules (decisionIds decisions) existing := by
      cases existing <;> simp [foreignRules]
    rwa [unchanged] at foreign
  · intro kept
    exact kept.trans (List.sublist_append_left _ _)

/-- The validation of a policy by its fields. -/
theorem modelValidate_of_fields {fields : JsonObject} {defaults : PolicyDefaults}
    {rules : List PolicyRule}
    (only : Validator.onlyFields ["version", "defaults", "rules"] fields = true)
    (version : Validator.required fields "version" versionValue = some ())
    (defaultsRead : Validator.withDefault fields "defaults" PolicyDefaults.modelValidate {} =
      some defaults)
    (rulesRead : Validator.withDefault fields "rules" (Validator.list PolicyRule.modelValidate) [] =
      some rules)
    (requireLess : defaults.unmatched = .deny → ∀ rule ∈ rules, rule.require ≠ none) :
    PolicyConfig.modelValidate (.obj fields) =
      some { defaults, rules, requireLessRuleForbiddenUnderDeny := requireLess } := by
  simp only [PolicyConfig.modelValidate, only, version, defaultsRead, rulesRead, Bool.not_true,
    Bool.false_eq_true, if_false, Option.bind_eq_bind, Option.bind_some]
  exact dif_pos requireLess

/-- What a policy validates from. -/
theorem fields_of_modelValidate {fields : JsonObject} {policy : PolicyConfig}
    (valid : PolicyConfig.modelValidate (.obj fields) = some policy) :
    Validator.onlyFields ["version", "defaults", "rules"] fields = true ∧
      Validator.withDefault fields "defaults" PolicyDefaults.modelValidate {} =
        some policy.defaults := by
  rw [PolicyConfig.modelValidate] at valid
  split at valid
  · cases valid
  case isFalse only =>
    simp only [Option.bind_eq_bind, Option.bind_eq_some_iff] at valid
    rcases valid with ⟨_, _, defaults, defaultsRead, rules, _, built⟩
    split at built
    · cases built
      exact ⟨by simpa using only, defaultsRead⟩
    · cases built

/-- The default of what is written. -/
def writtenUnmatched (isYaml : Prop) [Decidable isYaml] (existing : PolicyConfig) :
    Option PolicyConfig → Unmatched
  | some policy => policy.defaults.unmatched
  | none => if isYaml then existing.defaults.unmatched else .allow

/-- The data of the rendered rules. -/
def renderedRuleData (decisions : List OperationDecision) (existing : Option PolicyConfig) : Json :=
  .arr ((foreignRules (decisionIds decisions) existing).map (·.modelDump) ++
    (generatedRequirements decisions existing).map fun (id, require) =>
      generatedRuleData id require)

/-- The rendered fields, written over those of a policy file, validate to the rendered rules. -/
theorem modelValidate_overwriteKeys (decisions : List OperationDecision) (file : PolicyFile)
    (referenced : Option PolicyConfig) :
    ∃ policy, PolicyConfig.modelValidate
        (.obj (overwriteKeys file.fields (renderPolicy decisions referenced))) = some policy ∧
      policy.rules = renderedRules decisions referenced ∧
      policy.defaults.unmatched = writtenUnmatched True file.policy referenced := by
  rcases fields_of_modelValidate file.valid with ⟨only, defaults⟩
  have version : versionValue (.str "1") = some () := rfl
  have rules : Validator.list PolicyRule.modelValidate (renderedRuleData decisions referenced) =
      some (renderedRules decisions referenced) := modelValidate_rules decisions referenced
  have onlyVersion : Validator.onlyFields ["version", "defaults", "rules"]
      (Dict.insert file.fields "version" (.str "1")) = true :=
    Validator.onlyFields_insert (by decide) _ only
  have onlyRules : Validator.onlyFields ["version", "defaults", "rules"]
      (Dict.insert (Dict.insert file.fields "version" (.str "1")) "rules"
        (renderedRuleData decisions referenced)) = true :=
    Validator.onlyFields_insert (by decide) _ onlyVersion
  cases referenced with
  | none =>
      have overwritten : overwriteKeys file.fields (renderPolicy decisions none) =
          Dict.insert (Dict.insert file.fields "version" (.str "1")) "rules"
            (renderedRuleData decisions none) := rfl
      have requireLess : file.policy.defaults.unmatched = .deny →
          ∀ rule ∈ renderedRules decisions none, rule.require ≠ none := by
        intro _ rule ruleMem
        rcases mem_renderedRules.mp ruleMem with foreign | ⟨_, _, _, rfl⟩
        · cases foreign
        · simp [generatedRule]
      rw [overwritten]
      refine ⟨_, modelValidate_of_fields onlyRules ?_ ?_ ?_ requireLess, rfl, rfl⟩
      · simp [Validator.required, Dict.get?_insert, version]
      · simpa [Validator.withDefault, Dict.get?_insert] using defaults
      · simpa [Validator.withDefault, Dict.get?_insert] using rules
  | some policy =>
      have overwritten : overwriteKeys file.fields (renderPolicy decisions (some policy)) =
          Dict.insert (Dict.insert (Dict.insert file.fields "version" (.str "1")) "rules"
            (renderedRuleData decisions (some policy))) "defaults"
              (.obj [("unmatched", .str policy.defaults.unmatched.value)]) := rfl
      have written : PolicyDefaults.modelValidate
          (.obj [("unmatched", .str policy.defaults.unmatched.value)]) = some policy.defaults := by
        rcases policy.defaults with ⟨unmatched⟩
        cases unmatched <;> rfl
      rw [overwritten]
      refine ⟨_, modelValidate_of_fields (Validator.onlyFields_insert (by decide) _ onlyRules)
        ?_ ?_ ?_ (renderedRules_require decisions (some policy)), rfl, rfl⟩
      · simp [Validator.required, Dict.get?_insert, version]
      · simp [Validator.withDefault, written]
      · simpa [Validator.withDefault, Dict.get?_insert] using rules

theorem modelValidate_renderTextData (target : PurePath) (decisions : List OperationDecision)
    (file : PolicyFile) (referenced : Option PolicyConfig) :
    ∃ policy, PolicyConfig.modelValidate
        (renderTextData target (some file.fields) (renderPolicy decisions referenced)) =
          some policy ∧
      policy.rules = renderedRules decisions referenced ∧
      policy.defaults.unmatched =
        writtenUnmatched (target.suffix ∈ yamlSuffixes) file.policy referenced := by
  by_cases isYaml : target.suffix ∈ yamlSuffixes
  · simpa [renderTextData, isYaml, writtenUnmatched] using
      modelValidate_overwriteKeys decisions file referenced
  · refine ⟨renderedPolicy decisions referenced, ?_, rfl, ?_⟩
    · simpa [renderTextData, isYaml] using modelValidate_renderPolicy decisions referenced
    · cases referenced with
      | none => simp [writtenUnmatched, isYaml, renderedPolicy, unmatchedDefault]
      | some policy => rfl

end Merge

section Runs

variable {File State : Type} (paths : ProcessPaths File)
  (policies : PurePath → Option PolicyFile) (configText : String)
  (argument reference : Option String)

/-- The path a run writes the policy to. -/
def overwrittenPath : PurePath :=
  policyPath paths (.ofText configText) argument reference

/-- A policy file at the path to be written is kept by the policy that the reference leads to. -/
def ReferenceKeepsOverwritten (ids : List String) : Prop :=
  ∀ existing ∈ policies (paths.absolute (overwrittenPath paths configText argument reference)),
    ∀ referenced ∈ loadedPolicy paths policies (.ofText configText) reference,
      KeptByReference ids
        ((overwrittenPath paths configText argument reference).suffix ∈ yamlSuffixes)
        existing.policy referenced

variable {paths policies configText argument reference}

theorem keepsForeignRules_renderTextData_iff (target : PurePath)
    (decisions : List OperationDecision) (existing : PolicyFile)
    (referenced : Option PolicyConfig) :
    KeepsForeignRules (decisionIds decisions) existing.policy
        (renderTextData target (some existing.fields) (renderPolicy decisions referenced)) ↔
      KeptByReference (decisionIds decisions) (target.suffix ∈ yamlSuffixes) existing.policy
        referenced := by
  rcases modelValidate_renderTextData target decisions existing referenced with
    ⟨policy, validated, rules, unmatched⟩
  have unmatchedKept : policy.defaults.unmatched = existing.policy.defaults.unmatched ↔
      UnmatchedKept (target.suffix ∈ yamlSuffixes) existing.policy referenced := by
    rw [unmatched]
    cases referenced with
    | some policy => rfl
    | none =>
        by_cases isYaml : target.suffix ∈ yamlSuffixes <;>
          simp [writtenUnmatched, UnmatchedKept, isYaml, eq_comm]
  constructor
  · rintro ⟨other, otherValidated, kept, sameUnmatched⟩
    rw [validated] at otherValidated
    cases otherValidated
    rw [rules] at kept
    exact ⟨foreignRules_sublist_renderedRules.mp kept, unmatchedKept.mp sameUnmatched⟩
  · intro keptByReference
    refine ⟨policy, validated, ?_, unmatchedKept.mpr keptByReference.unmatched⟩
    rw [rules]
    exact foreignRules_sublist_renderedRules.mpr keptByReference.rules

theorem KeptByReference.congr {left right : List String} (same : ∀ id, id ∈ left ↔ id ∈ right)
    {isYaml : Prop} {existing : PolicyConfig} {referenced : Option PolicyConfig} :
    KeptByReference left isYaml existing referenced ↔
      KeptByReference right isYaml existing referenced := by
  constructor
  · rintro ⟨rules, unmatched⟩
    exact ⟨by rwa [foreignRules_congr same, foreignRules_congr same] at rules, unmatched⟩
  · rintro ⟨rules, unmatched⟩
    exact ⟨by rwa [foreignRules_congr same, foreignRules_congr same], unmatched⟩

/-- The policy that the configuration refers to keeps its own rules. -/
theorem referenceKeepsOverwritten_of_samePath (ids : List String) {file : String}
    (referred : reference = some file)
    (samePath : loadedPolicyPath file (paths.baseDir (.ofText configText)) =
      paths.absolute (overwrittenPath paths configText argument reference)) :
    ReferenceKeepsOverwritten paths policies configText argument reference ids := by
  intro existing present referenced loads
  subst referred
  rw [Option.mem_def, loadedPolicy, samePath, Option.mem_def.mp present] at loads
  cases loads
  exact ⟨List.Sublist.refl _, rfl⟩

/-- Without another path, the policy is written where it is read. -/
theorem loadedPolicyPath_overwritten (file : String) :
    loadedPolicyPath file (paths.baseDir (.ofText configText)) =
      paths.absolute (overwrittenPath paths configText none (some file)) := by
  have absolute : (overwrittenPath paths configText none (some file)).isAbsolute = true :=
    isAbsolute_defaultPolicyPath (paths.resolve_isAbsolute _) (some file)
  rw [ProcessPaths.absolute, resolvedAgainst_of_isAbsolute absolute]
  rfl

/-- The rules of an overwritten policy file survive exactly when the policy that the configuration
refers to has them. -/
theorem runConfigure_keepsOverwritten_iff {unicode : PyUnicode} {prompter : Prompter State}
    {loaded : LoadedConfig} {introspected : List Operation} {state : State}
    {run : ConfigureRun State}
    (loads : loadedPolicy paths policies (.ofText configText) reference = some loaded.policy)
    (ran : runConfigure unicode prompter loaded introspected state = .ok run) :
    (∀ existing ∈ policies (paths.absolute (overwrittenPath paths configText argument reference)),
      KeepsForeignRules (decisionIds run.decisions) existing.policy
        (renderTextData (overwrittenPath paths configText argument reference)
          (some existing.fields) run.policy)) ↔
      ReferenceKeepsOverwritten paths policies configText argument reference
        (introspected.map (·.id)) := by
  have sameIds := mem_decisionIds_runConfigure ran
  rw [runConfigure_policy ran]
  simp only [ReferenceKeepsOverwritten, loads, Option.mem_def, Option.some.injEq, forall_eq',
    keepsForeignRules_renderTextData_iff, KeptByReference.congr sameIds]

end Runs

/-- Whatever is tagged `payments` requires an authorization detail. -/
private def paymentsRule : PolicyRule where
  spec := { tags := ["payments"] }
  require := some
    { authorizationDetails := [{ type := "payment", nonEmptyWhenPresent := by simp }]
      nonEmpty := List.cons_ne_nil _ _ }

private def paymentsPolicy : PolicyFile where
  fields := [("version", .str "1"), ("rules", .arr [paymentsRule.modelDump])]
  policy := .ofRules [paymentsRule]
  valid := by rfl

/-- The only policy file is `/srv/policy.yaml`. -/
private def srvPolicies (path : PurePath) : Option PolicyFile :=
  if path = .ofText "/srv/policy.yaml" then some paymentsPolicy else none

private theorem isAbsolute_srv : (PurePath.ofText "/srv").isAbsolute = true := by decide

private def inSrv : ProcessPaths PurePath :=
  plainPaths (.ofText "/srv") isAbsolute_srv (PurePath.wellFormed_ofText _)

private def paymentsConfig (policy : Option PolicyConfig) : LoadedConfig where
  config :=
    { mode := .introspectSafe
      unsafeModeRequiresAcknowledgement := introspectSafe_is_safe
      unauthenticatedHttpIsGuarded := stdio_is_guarded _
      server := { name := "portal" }
      upstreams := [] }
  policy

theorem runConfigure_keepsOverwritten_iff_payments :
    (∀ existing ∈ srvPolicies (inSrv.absolute
        (overwrittenPath inSrv "portal.yaml" none (some "policy.yaml"))),
      KeepsForeignRules (decisionIds []) existing.policy
        (renderTextData (overwrittenPath inSrv "portal.yaml" none (some "policy.yaml"))
          (some existing.fields) (renderPolicy [] (some paymentsPolicy.policy)))) ↔
      ReferenceKeepsOverwritten inSrv srvPolicies "portal.yaml" none (some "policy.yaml") [] :=
  @runConfigure_keepsOverwritten_iff PurePath Unit inSrv srvPolicies "portal.yaml" none
    (some "policy.yaml") asciiTables .proposing (paymentsConfig (some paymentsPolicy.policy)) [] ()
    { decisions := [], report := none, operations := [],
      policy := renderPolicy [] (some paymentsPolicy.policy), state := () } (by rfl) (by rfl)

/-- A configuration without a reference gets an empty policy, written over the one next to it. -/
theorem not_keepsForeignRules_payments :
    ∃ run, runConfigure asciiTables .proposing (paymentsConfig none) [] () = .ok run ∧
      loadedPolicy inSrv srvPolicies (.ofText "portal.yaml") none = some none ∧
      srvPolicies (inSrv.absolute (overwrittenPath inSrv "portal.yaml" none none)) =
        some paymentsPolicy ∧
      ¬ KeepsForeignRules (decisionIds run.decisions) paymentsPolicy.policy
        (renderTextData (overwrittenPath inSrv "portal.yaml" none none)
          (some paymentsPolicy.fields) run.policy) := by
  refine ⟨{ decisions := [], report := none, operations := [], policy := renderPolicy [] none,
            state := () }, by rfl, rfl, by rfl, ?_⟩
  rintro ⟨policy, validated, kept, _⟩
  have written : PolicyConfig.modelValidate (renderTextData
      (overwrittenPath inSrv "portal.yaml" none none) (some paymentsPolicy.fields)
      (renderPolicy [] none)) = some .empty := by rfl
  rw [written] at validated
  cases validated
  exact absurd kept.length_le (by decide)

end McpPortal
