import McpPortal.Configure.Write

/-!
# What rendering does to authorization

For one operation, the existing policy demands what its kept rules demand and what
its dropped rules demand. The rendered policy demands the former, and what the
generated rules that match the operation demand. Both have the same default, so
comparing them is a comparison of guards, and the principals that matter are those
presenting nothing and those presenting exactly what one policy demands.
-/

namespace McpPortal

open Foundation

namespace PolicyEngine

/-- The sets of details a principal can present. -/
def presentable : Set (Set AuthorizationDetail) :=
  {grants | ∃ details : List AuthorizationDetail, grants = {detail | detail ∈ details}}

theorem empty_presentable : ∅ ∈ presentable :=
  ⟨[], by simp⟩

theorem demands_presentable (policy : PolicyConfig) (operation : Operation) :
    (guard policy operation).demands ∈ presentable :=
  ⟨required policy operation, rfl⟩

theorem forall_principal_iff {motive : Set AuthorizationDetail → Prop} :
    (∀ principal : Principal, motive {detail | detail ∈ principal.authorizationDetails}) ↔
      ∀ grants ∈ presentable, motive grants := by
  constructor
  · rintro holds _ ⟨details, rfl⟩
    exact holds { identity := "", authorizationDetails := details }
  · intro holds principal
    exact holds _ ⟨principal.authorizationDetails, rfl⟩

end PolicyEngine

/-- What the rules that are written back demand of the operation. -/
def keptDemands (ids : List String) (existing : Option PolicyConfig) (operation : Operation) :
    Set AuthorizationDetail :=
  {detail | ∃ rule ∈ foreignRules ids existing,
    ruleMatches operation rule.spec = true ∧ detail ∈ rule.details}

/-- What the rules that are not written back demand of the operation. -/
def droppedDemands (ids : List String) (policy : PolicyConfig) (operation : Operation) :
    Set AuthorizationDetail :=
  {detail | ∃ rule ∈ policy.rules, isConfigureOwned ids rule = true ∧
    ruleMatches operation rule.spec = true ∧ detail ∈ rule.details}

/-- What the generated rules demand of the operation. -/
def generatedDemands (decisions : List OperationDecision) (existing : Option PolicyConfig)
    (operation : Operation) : Set AuthorizationDetail :=
  {detail | ∃ id require, (id, require) ∈ generatedRequirements decisions existing ∧
    fnmatch operation.id id = true ∧ detail = require.detail}

@[simp]
theorem details_generatedRule (id : String) (require : RequiredDetail) :
    (generatedRule id require).details = [require.detail] := by
  rcases require with ⟨type, _ | ⟨action, rest⟩⟩ <;> rfl

@[simp]
theorem ruleMatches_generatedRule (operation : Operation) (id : String)
    (require : RequiredDetail) :
    ruleMatches operation (generatedRule id require).spec = fnmatch operation.id id := by
  simp [ruleMatches, generatedRule]

theorem demands_renderedPolicy (decisions : List OperationDecision)
    (existing : Option PolicyConfig) (operation : Operation) :
    (PolicyEngine.guard (renderedPolicy decisions existing) operation).demands =
      keptDemands (decisionIds decisions) existing operation ∪
        generatedDemands decisions existing operation := by
  ext detail
  simp only [PolicyEngine.guard, Set.mem_ofPred_eq, PolicyEngine.mem_required, renderedPolicy,
    mem_renderedRules, Set.mem_union, keptDemands, generatedDemands]
  constructor
  · rintro ⟨rule, foreign | ⟨id, require, generated, rfl⟩, applies, demanded⟩
    · exact Or.inl ⟨rule, foreign, applies, demanded⟩
    · rw [ruleMatches_generatedRule] at applies
      rw [details_generatedRule, List.mem_singleton] at demanded
      exact Or.inr ⟨id, require, generated, applies, demanded⟩
  · rintro (⟨rule, foreign, applies, demanded⟩ | ⟨id, require, generated, applies, rfl⟩)
    · exact ⟨rule, Or.inl foreign, applies, demanded⟩
    · refine ⟨generatedRule id require, Or.inr ⟨id, require, generated, rfl⟩, ?_, ?_⟩
      · rw [ruleMatches_generatedRule, applies]
      · rw [details_generatedRule, List.mem_singleton]

theorem mem_keptDemands {ids : List String} {policy : PolicyConfig} {operation : Operation}
    {detail : AuthorizationDetail} :
    detail ∈ keptDemands ids (some policy) operation ↔
      ∃ rule ∈ policy.rules, isConfigureOwned ids rule = false ∧
        ruleMatches operation rule.spec = true ∧ detail ∈ rule.details := by
  simp [keptDemands, mem_foreignRules, and_assoc]

theorem demands_policy (ids : List String) (policy : PolicyConfig) (operation : Operation) :
    (PolicyEngine.guard policy operation).demands =
      keptDemands ids (some policy) operation ∪ droppedDemands ids policy operation := by
  ext detail
  simp only [PolicyEngine.guard, Set.mem_ofPred_eq, PolicyEngine.mem_required, Set.mem_union,
    mem_keptDemands, droppedDemands]
  constructor
  · rintro ⟨rule, ruleMem, applies, demanded⟩
    cases owned : isConfigureOwned ids rule with
    | false => exact Or.inl ⟨rule, ruleMem, owned, applies, demanded⟩
    | true => exact Or.inr ⟨rule, ruleMem, owned, applies, demanded⟩
  · rintro (⟨rule, ruleMem, _, applies, demanded⟩ | ⟨rule, ruleMem, _, applies, demanded⟩)
    · exact ⟨rule, ruleMem, applies, demanded⟩
    · exact ⟨rule, ruleMem, applies, demanded⟩

theorem openByDefault_renderedPolicy (decisions : List OperationDecision)
    (existing : Option PolicyConfig) (operation : Operation) :
    (PolicyEngine.guard (renderedPolicy decisions existing) operation).openByDefault ↔
      unmatchedDefault existing = .allow := Iff.rfl

/-- Loading what was rendered gives a policy that lets no principal call the
operation unless one of its details covers `demand`. -/
def Enforces (decisions : List OperationDecision) (existing : Option PolicyConfig)
    (operation : Operation) (demand : AuthorizationDetail) : Prop :=
  ∃ policy, PolicyConfig.modelValidate (renderPolicy decisions existing) = some policy ∧
    ∀ principal : Principal, covers demand principal.authorizationDetails = false →
      (PolicyEngine.evaluate policy operation principal).allowed = false

theorem enforces_iff_forces {decisions : List OperationDecision} {existing : Option PolicyConfig}
    {operation : Operation} {demand : AuthorizationDetail} :
    Enforces decisions existing operation demand ↔
      ∀ grants ∈ PolicyEngine.presentable,
        (PolicyEngine.guard (renderedPolicy decisions existing) operation).Admits grants →
          demand ∈ lowerClosure grants := by
  rw [← PolicyEngine.forall_principal_iff]
  simp only [Enforces, modelValidate_renderPolicy, Option.some.injEq, exists_eq_left',
    ← PolicyEngine.allowed_iff_admits, ← covers_iff_mem_lowerClosure]
  apply forall_congr'
  intro principal
  cases covers demand principal.authorizationDetails <;> simp

/-- Some kept rule that matches the operation requires at least `demand`. -/
def KeptRuleRequires (ids : List String) (existing : Option PolicyConfig) (operation : Operation)
    (demand : AuthorizationDetail) : Prop :=
  ∃ rule ∈ foreignRules ids existing, ruleMatches operation rule.spec = true ∧
    ∃ stronger ∈ rule.details, coversOne demand stronger = true

instance (ids : List String) (existing : Option PolicyConfig) (operation : Operation)
    (demand : AuthorizationDetail) : Decidable (KeptRuleRequires ids existing operation demand) :=
  inferInstanceAs (Decidable (∃ rule ∈ foreignRules ids existing,
    ruleMatches operation rule.spec = true ∧ ∃ stronger ∈ rule.details,
      coversOne demand stronger = true))

/-- Some decision with a generated rule that matches the operation requires at least `demand`. -/
def GeneratedRuleRequires (decisions : List OperationDecision) (existing : Option PolicyConfig)
    (operation : Operation) (demand : AuthorizationDetail) : Prop :=
  ∃ decision ∈ decisions, decision.exposed = true ∧
    decision.operation.id ∉ foreignIdShapedIds (decisionIds decisions) existing ∧
    fnmatch operation.id decision.operation.id = true ∧
    ∃ require ∈ decision.require, coversOne demand require.detail = true

/-- Nothing is required of the operation, and the default denies it. -/
def DeniedByDefault (decisions : List OperationDecision) (existing : Option PolicyConfig)
    (operation : Operation) : Prop :=
  unmatchedDefault existing = .deny ∧
    (∀ rule ∈ foreignRules (decisionIds decisions) existing,
      ruleMatches operation rule.spec = true → rule.details = []) ∧
    ∀ decision ∈ decisions, decision.exposed = true → decision.require ≠ none →
      fnmatch operation.id decision.operation.id = true →
        decision.operation.id ∈ foreignIdShapedIds (decisionIds decisions) existing

theorem mem_lowerClosure_keptDemands {ids : List String} {existing : Option PolicyConfig}
    {operation : Operation} {demand : AuthorizationDetail} :
    demand ∈ lowerClosure (keptDemands ids existing operation) ↔
      KeptRuleRequires ids existing operation demand := by
  simp only [mem_lowerClosure, keptDemands, Set.mem_ofPred_eq, KeptRuleRequires,
    le_iff_coversOne]
  constructor
  · rintro ⟨stronger, ⟨rule, kept, applies, required⟩, covered⟩
    exact ⟨rule, kept, applies, stronger, required, covered⟩
  · rintro ⟨rule, kept, applies, stronger, required, covered⟩
    exact ⟨stronger, ⟨rule, kept, applies, required⟩, covered⟩

theorem mem_lowerClosure_generatedDemands {decisions : List OperationDecision}
    {existing : Option PolicyConfig} {operation : Operation} {demand : AuthorizationDetail} :
    demand ∈ lowerClosure (generatedDemands decisions existing operation) ↔
      GeneratedRuleRequires decisions existing operation demand := by
  simp only [mem_lowerClosure, generatedDemands, Set.mem_ofPred_eq, GeneratedRuleRequires,
    mem_generatedRequirements, le_iff_coversOne]
  constructor
  · rintro ⟨_, ⟨id, require, ⟨decision, decisionMem, rfl, exposed, required, regenerated⟩, applies,
      rfl⟩, covered⟩
    exact ⟨decision, decisionMem, exposed, regenerated, applies, require, required, covered⟩
  · rintro ⟨decision, decisionMem, exposed, regenerated, applies, require, required, covered⟩
    exact ⟨_, ⟨_, require, ⟨decision, decisionMem, rfl, exposed, required, regenerated⟩, applies,
      rfl⟩, covered⟩

theorem keptDemands_eq_empty_iff {ids : List String} {existing : Option PolicyConfig}
    {operation : Operation} :
    keptDemands ids existing operation = ∅ ↔
      ∀ rule ∈ foreignRules ids existing, ruleMatches operation rule.spec = true →
        rule.details = [] := by
  simp only [keptDemands, Set.eq_empty_iff_forall_notMem, Set.mem_ofPred_eq, not_exists, not_and,
    List.eq_nil_iff_forall_not_mem]
  constructor
  · intro empty rule kept applies detail
    exact empty detail rule kept applies
  · intro empty detail rule kept applies
    exact empty rule kept applies detail

theorem generatedDemands_eq_empty_iff {decisions : List OperationDecision}
    {existing : Option PolicyConfig} {operation : Operation} :
    generatedDemands decisions existing operation = ∅ ↔
      ∀ decision ∈ decisions, decision.exposed = true → decision.require ≠ none →
        fnmatch operation.id decision.operation.id = true →
          decision.operation.id ∈ foreignIdShapedIds (decisionIds decisions) existing := by
  simp only [generatedDemands, Set.eq_empty_iff_forall_notMem, Set.mem_ofPred_eq,
    mem_generatedRequirements]
  constructor
  · intro empty decision decisionMem exposed required applies
    rcases Option.ne_none_iff_exists'.mp required with ⟨require, stored⟩
    by_contra regenerated
    exact empty require.detail
      ⟨_, require, ⟨decision, decisionMem, rfl, exposed, stored, regenerated⟩, applies, rfl⟩
  · rintro suppressed _ ⟨_, require, ⟨decision, decisionMem, rfl, exposed, stored, regenerated⟩,
      applies, rfl⟩
    apply regenerated
    exact suppressed decision decisionMem exposed (by simp [stored]) applies

theorem enforces_iff {decisions : List OperationDecision} {existing : Option PolicyConfig}
    {operation : Operation} {demand : AuthorizationDetail} :
    Enforces decisions existing operation demand ↔
      KeptRuleRequires (decisionIds decisions) existing operation demand ∨
        GeneratedRuleRequires decisions existing operation demand ∨
        DeniedByDefault decisions existing operation := by
  rw [enforces_iff_forces, Guard.forces_iff PolicyEngine.empty_presentable
    (PolicyEngine.demands_presentable _ _), demands_renderedPolicy, openByDefault_renderedPolicy,
    lowerClosure_union, LowerSet.mem_sup_iff, mem_lowerClosure_keptDemands,
    mem_lowerClosure_generatedDemands, Set.union_empty_iff, keptDemands_eq_empty_iff,
    generatedDemands_eq_empty_iff, DeniedByDefault]
  have closed : ¬unmatchedDefault existing = .allow ↔ unmatchedDefault existing = .deny := by
    cases unmatchedDefault existing <;> simp
  rw [closed]
  tauto

/-- Every requirement recorded with an exposed operation is enforced on it. -/
def EnforcesRequirements (decisions : List OperationDecision) (existing : Option PolicyConfig) :
    Prop :=
  ∀ decision ∈ decisions, decision.exposed = true → ∀ require ∈ decision.require,
    Enforces decisions existing decision.operation require.detail

/--
A recorded requirement is enforced exactly when a kept rule or a generated rule
that matches the operation requires as much, or nothing is required of it and the
default denies it. The decision's own rule counts only if its id, read as a
pattern, matches itself, and no foreign rule of that shape suppresses it.
-/
theorem enforcesRequirements_iff (decisions : List OperationDecision)
    (existing : Option PolicyConfig) :
    EnforcesRequirements decisions existing ↔
      ∀ decision ∈ decisions, decision.exposed = true → ∀ require ∈ decision.require,
        KeptRuleRequires (decisionIds decisions) existing decision.operation require.detail ∨
          GeneratedRuleRequires decisions existing decision.operation require.detail ∨
          DeniedByDefault decisions existing decision.operation := by
  simp only [EnforcesRequirements, enforces_iff]

section Bracketed

private def bracketedOperation : Operation where
  id := "pay[1]"
  upstream := "billing"
  name := ""
  title := ""
  description := ""
  groupTags := []
  effect := .action
  sensitivity := .normal
  inputSchema := []
  binding := .http { method := "POST", path := "/pay" }

private def bracketedDecision : OperationDecision where
  operation := bracketedOperation
  exposed := true
  effect := .action
  sensitivity := .normal
  require := some { type := "payment" }

/-- The id `pay[1]` is not matched by the pattern it is written as. -/
theorem enforcesRequirements_fails_for_bracketed_id :
    (decisionIds [bracketedDecision]).Nodup ∧ ¬EnforcesRequirements [bracketedDecision] none := by
  refine ⟨by decide, fun enforced => ?_⟩
  rcases enforced bracketedDecision (by simp) rfl _ rfl with ⟨policy, loaded, denied⟩
  rw [modelValidate_renderPolicy, Option.some.injEq] at loaded
  subst policy
  exact absurd (denied { identity := "anyone", authorizationDetails := [] } rfl) (by decide)

end Bracketed

end McpPortal
