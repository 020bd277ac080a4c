import McpPortal.Config.PolicyFile
import McpPortal.Configure.Decisions
import McpPortal.Policy.Engine

/-!
# Rendering the policy file

A rule of the existing policy is regenerated only if `configure` owns it: it
matches one managed id and nothing else, and its content fits a `RequiredDetail`.
Every other rule is foreign and written back as it is. An id whose foreign rule
has the shape of a generated one gets no generated rule.

`renderPolicy` builds the data that is written. `renderedPolicy` is the policy
that this data validates to.
-/

namespace McpPortal

open Foundation

/-- `not value`, of an optional list. -/
def isAbsent (values : Option (List String)) : Bool :=
  values.getD [] = []

/-- `_within_required_detail_shape`. -/
def withinRequiredDetailShape (rule : PolicyRule) : Bool :=
  if rule.outbound.carry then false
  else
    match rule.require with
    | none => true
    | some require =>
        match require.authorizationDetails with
        | [detail] =>
            isAbsent detail.locations && isAbsent detail.datatypes &&
              detail.identifier.getD "" = "" && isAbsent detail.privileges
        | _ => false

/-- `_matches_configure_id_shape`, with the id that is matched. -/
def configureId? (decisionIds : List String) (rule : PolicyRule) : Option String :=
  match rule.spec with
  | { ids := [id], tags := [], upstream := [], effect := [], sensitivity := [] } =>
      if id ∈ decisionIds then some id else none
  | _ => none

def isConfigureOwned (decisionIds : List String) (rule : PolicyRule) : Bool :=
  (configureId? decisionIds rule).isSome && withinRequiredDetailShape rule

def decisionIds (decisions : List OperationDecision) : List String :=
  decisions.map (·.operation.id)

/-- The rules that are written back as they are. -/
def foreignRules (ids : List String) (existing : Option PolicyConfig) : List PolicyRule :=
  match existing with
  | none => []
  | some policy => policy.rules.filter fun rule => !isConfigureOwned ids rule

def foreignIdShapedIds (ids : List String) (existing : Option PolicyConfig) : List String :=
  (foreignRules ids existing).filterMap (configureId? ids)

/-- The requirement of a decision that gets a generated rule. -/
def generatedRequire? (foreignIds : List String) (decision : OperationDecision) :
    Option RequiredDetail :=
  if !decision.exposed then none
  else if decision.operation.id ∈ foreignIds then none
  else decision.require

def generatedRequirements (decisions : List OperationDecision) (existing : Option PolicyConfig) :
    List (String × RequiredDetail) :=
  let foreignIds := foreignIdShapedIds (decisionIds decisions) existing
  decisions.filterMap fun decision =>
    (generatedRequire? foreignIds decision).map fun require => (decision.operation.id, require)

/-- The data of a generated rule. -/
def generatedRuleData (id : String) (require : RequiredDetail) : Json :=
  let detail :=
    ("type", .str require.type) ::
      if require.actions.isEmpty then [] else [("actions", .arr (require.actions.map .str))]
  .obj
    [ ("match", .obj [("ids", .arr [.str id])]),
      ("require", .obj [("authorization_details", .arr [.obj detail])]) ]

def unmatchedDefault (existing : Option PolicyConfig) : Unmatched :=
  (existing.map fun policy => policy.defaults.unmatched).getD .allow

def renderPolicy (decisions : List OperationDecision) (existing : Option PolicyConfig) : Json :=
  let foreign := (foreignRules (decisionIds decisions) existing).map (·.modelDump)
  let owned := (generatedRequirements decisions existing).map fun (id, require) =>
    generatedRuleData id require
  let result := [("version", .str "1"), ("rules", .arr (foreign ++ owned))]
  match existing with
  | none => .obj result
  | some policy =>
      .obj (result ++ [("defaults", .obj [("unmatched", .str policy.defaults.unmatched.value)])])

/-- The requirement a generated rule states. -/
def RequiredDetail.requirement (require : RequiredDetail) : AuthorizationDetailRequirement where
  type := require.type
  actions := if require.actions.isEmpty then none else some require.actions
  nonEmptyWhenPresent := by
    cases actions : require.actions <;> simp

def generatedRule (id : String) (require : RequiredDetail) : PolicyRule where
  spec := { ids := [id] }
  require := some
    { authorizationDetails := [require.requirement]
      nonEmpty := List.cons_ne_nil _ _ }

def renderedRules (decisions : List OperationDecision) (existing : Option PolicyConfig) :
    List PolicyRule :=
  foreignRules (decisionIds decisions) existing ++
    (generatedRequirements decisions existing).map fun (id, require) => generatedRule id require

theorem mem_foreignRules {ids : List String} {existing : Option PolicyConfig} {rule : PolicyRule} :
    rule ∈ foreignRules ids existing ↔
      ∃ policy ∈ existing, rule ∈ policy.rules ∧ isConfigureOwned ids rule = false := by
  cases existing <;> simp [foreignRules]

theorem mem_generatedRequirements {decisions : List OperationDecision}
    {existing : Option PolicyConfig} {id : String} {require : RequiredDetail} :
    (id, require) ∈ generatedRequirements decisions existing ↔
      ∃ decision ∈ decisions, decision.operation.id = id ∧ decision.exposed = true ∧
        decision.require = some require ∧
        id ∉ foreignIdShapedIds (decisionIds decisions) existing := by
  simp only [generatedRequirements, List.mem_filterMap, Option.map_eq_some_iff, Prod.mk.injEq]
  constructor
  · rintro ⟨decision, decisionMem, _, generated, rfl, rfl⟩
    cases exposed : decision.exposed with
    | false => simp [generatedRequire?, exposed] at generated
    | true =>
        by_cases foreign :
            decision.operation.id ∈ foreignIdShapedIds (decisionIds decisions) existing
        · simp [generatedRequire?, exposed, foreign] at generated
        · simp only [generatedRequire?, exposed, foreign, Bool.not_true, Bool.false_eq_true,
            if_false] at generated
          exact ⟨decision, decisionMem, rfl, exposed, generated, foreign⟩
  · rintro ⟨decision, decisionMem, rfl, exposed, required, regenerated⟩
    refine ⟨decision, decisionMem, require, ?_, rfl, rfl⟩
    simp [generatedRequire?, exposed, regenerated, required]

theorem mem_renderedRules {decisions : List OperationDecision} {existing : Option PolicyConfig}
    {rule : PolicyRule} :
    rule ∈ renderedRules decisions existing ↔
      rule ∈ foreignRules (decisionIds decisions) existing ∨
        ∃ id require, (id, require) ∈ generatedRequirements decisions existing ∧
          generatedRule id require = rule := by
  simp [renderedRules]

theorem renderedRules_require (decisions : List OperationDecision)
    (existing : Option PolicyConfig) (closed : unmatchedDefault existing = .deny) :
    ∀ rule ∈ renderedRules decisions existing, rule.require ≠ none := by
  intro rule ruleMem
  rcases mem_renderedRules.mp ruleMem with foreign | ⟨_, _, _, rfl⟩
  · rcases mem_foreignRules.mp foreign with ⟨policy, rfl, kept, _⟩
    exact policy.requireLessRuleForbiddenUnderDeny closed rule kept
  · simp [generatedRule]

/-- What the rendered data validates to. -/
def renderedPolicy (decisions : List OperationDecision) (existing : Option PolicyConfig) :
    PolicyConfig where
  defaults := { unmatched := unmatchedDefault existing }
  rules := renderedRules decisions existing
  requireLessRuleForbiddenUnderDeny := renderedRules_require decisions existing

theorem modelValidate_generatedRuleData (id : String) (require : RequiredDetail) :
    PolicyRule.modelValidate (generatedRuleData id require) = some (generatedRule id require) := by
  have written : generatedRuleData id require = .obj
      [ ("match", .obj [("ids", .arr [.str id])]),
        ("require", RequireConfig.modelDump
          { authorizationDetails := [require.requirement], nonEmpty := List.cons_ne_nil _ _ }) ] := by
    rcases require with ⟨type, _ | ⟨action, rest⟩⟩ <;> rfl
  have spec : PolicyMatchSpec.modelValidate (.obj [("ids", .arr [.str id])])
      = some { ids := [id] } := rfl
  have only (match_ require : Json) : Validator.onlyFields ["match", "require", "outbound"]
      [("match", match_), ("require", require)] = true := rfl
  rw [written]
  simp only [PolicyRule.modelValidate, only, Validator.required, Validator.withDefault, Dict.get?,
    if_true, if_false, String.reduceEq, spec, Option.bind_eq_bind, Option.bind_some, Bool.not_true,
    Bool.false_eq_true]
  rw [Validator.nullable_of_ne_null (by simp [RequireConfig.modelDump])]
  simp only [RequireConfig.modelValidate_modelDump, Option.map_some, Option.bind_some]
  rfl

/-- The rules that are written validate to the rendered rules. -/
theorem modelValidate_rules (decisions : List OperationDecision) (existing : Option PolicyConfig) :
    Validator.list PolicyRule.modelValidate
        (.arr ((foreignRules (decisionIds decisions) existing).map (·.modelDump) ++
          (generatedRequirements decisions existing).map fun (id, require) =>
            generatedRuleData id require)) =
      some (renderedRules decisions existing) := by
  apply Validator.list_arr_append
  · exact Validator.list_arr_map fun rule _ => rule.modelValidate_modelDump
  · exact Validator.list_arr_map_of fun generated _ =>
      modelValidate_generatedRuleData generated.1 generated.2

/-- Whatever was decided, the rendered policy is accepted when it is loaded. -/
theorem modelValidate_renderPolicy (decisions : List OperationDecision)
    (existing : Option PolicyConfig) :
    PolicyConfig.modelValidate (renderPolicy decisions existing) =
      some (renderedPolicy decisions existing) := by
  have rules := modelValidate_rules decisions existing
  have valid := renderedRules_require decisions existing
  have version : versionValue (.str "1") = some () := rfl
  cases existing with
  | none =>
      have only (version rules : Json) : Validator.onlyFields ["version", "defaults", "rules"]
          [("version", version), ("rules", rules)] = true := rfl
      simp only [renderPolicy, PolicyConfig.modelValidate, only, Validator.required,
        Validator.withDefault, Dict.get?, if_true, if_false, String.reduceEq, version, rules,
        Option.bind_eq_bind, Option.bind_some, Bool.not_true, Bool.false_eq_true]
      exact dif_pos valid
  | some policy =>
      have only (version rules defaults : Json) :
          Validator.onlyFields ["version", "defaults", "rules"]
            [("version", version), ("rules", rules), ("defaults", defaults)] = true := rfl
      have defaults : PolicyDefaults.modelValidate
          (.obj [("unmatched", .str policy.defaults.unmatched.value)]) = some policy.defaults := by
        rcases policy.defaults with ⟨unmatched⟩
        cases unmatched <;> rfl
      simp only [renderPolicy, PolicyConfig.modelValidate, only, Validator.required,
        Validator.withDefault, Dict.get?, if_true, if_false, String.reduceEq, version, rules,
        defaults, List.cons_append, List.nil_append, Option.bind_eq_bind, Option.bind_some,
        Bool.not_true, Bool.false_eq_true]
      exact dif_pos valid

end McpPortal
