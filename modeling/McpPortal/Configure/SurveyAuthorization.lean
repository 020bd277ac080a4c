import McpPortal.Configure.Authorization
import McpPortal.Configure.Survey

/-!
# A first survey and the existing policy

Accepting every group attaches no requirement, so the rendered policy consists of
the kept rules alone. It is no looser than the existing one exactly as long as the
dropped rules demanded nothing that the kept ones do not.
-/

namespace McpPortal

open Foundation

theorem isConfigureOwned_congr {left right : List String} (same : ∀ id, id ∈ left ↔ id ∈ right)
    (rule : PolicyRule) : isConfigureOwned left rule = isConfigureOwned right rule := by
  simp only [isConfigureOwned, configureId?, same]

theorem foreignRules_congr {left right : List String} (same : ∀ id, id ∈ left ↔ id ∈ right)
    (existing : Option PolicyConfig) : foreignRules left existing = foreignRules right existing := by
  simp only [foreignRules, isConfigureOwned_congr same]

/-- Rendering decisions without requirements generates no rule. -/
theorem generatedDemands_of_require_none {decisions : List OperationDecision}
    (undemanding : ∀ decision ∈ decisions, decision.require = none)
    (existing : Option PolicyConfig) (operation : Operation) :
    generatedDemands decisions existing operation = ∅ := by
  rw [generatedDemands_eq_empty_iff]
  intro decision decisionMem _ required
  exact absurd (undemanding decision decisionMem) required

section FirstSurvey

variable {State : Type} {prompter : Prompter State} {operations : List Operation} {state : State}

theorem decisionIds_of_acceptsEveryGroup (accepts : AcceptsEveryGroup prompter) (id : String) :
    id ∈ decisionIds (runSurvey prompter [] operations state).1 ↔
      id ∈ operations.map (·.id) := by
  rw [runSurvey_of_acceptsEveryGroup [] accepts, decisionIds, List.map_map]
  simp [acceptedDecision]

theorem require_of_acceptsEveryGroup (accepts : AcceptsEveryGroup prompter) :
    ∀ decision ∈ (runSurvey prompter [] operations state).1, decision.require = none := by
  rw [runSurvey_of_acceptsEveryGroup [] accepts]
  intro decision decisionMem
  rcases List.mem_map.mp decisionMem with ⟨operation, _, rfl⟩
  simp [acceptedDecision, defaultFor]

/-- Loading what was rendered lets nobody call the operation who could not before. -/
def NoLooser (decisions : List OperationDecision) (policy : PolicyConfig)
    (operation : Operation) : Prop :=
  ∃ rendered, PolicyConfig.modelValidate (renderPolicy decisions (some policy)) = some rendered ∧
    ∀ principal, (PolicyEngine.evaluate rendered operation principal).allowed = true →
      (PolicyEngine.evaluate policy operation principal).allowed = true

theorem noLooser_iff_admits {decisions : List OperationDecision} {policy : PolicyConfig}
    {operation : Operation} :
    NoLooser decisions policy operation ↔
      ∀ grants ∈ PolicyEngine.presentable,
        (PolicyEngine.guard (renderedPolicy decisions (some policy)) operation).Admits grants →
          (PolicyEngine.guard policy operation).Admits grants := by
  rw [← PolicyEngine.forall_principal_iff]
  simp only [NoLooser, modelValidate_renderPolicy, Option.some.injEq, exists_eq_left',
    PolicyEngine.allowed_iff_admits]

/-- Whatever a dropped rule requires of the operation, a kept rule requires as well. -/
def KeptRulesSuffice (ids : List String) (policy : PolicyConfig) (operation : Operation) : Prop :=
  ∀ rule ∈ policy.rules, isConfigureOwned ids rule = true →
    ruleMatches operation rule.spec = true → ∀ detail ∈ rule.details,
      KeptRuleRequires ids (some policy) operation detail

instance (ids : List String) (policy : PolicyConfig) (operation : Operation) :
    Decidable (KeptRulesSuffice ids policy operation) :=
  inferInstanceAs (Decidable (∀ rule ∈ policy.rules, isConfigureOwned ids rule = true →
    ruleMatches operation rule.spec = true → ∀ detail ∈ rule.details,
      KeptRuleRequires ids (some policy) operation detail))

/-- No kept rule requires anything of the operation, and the default denies it. -/
def ClosedWithoutDropped (ids : List String) (policy : PolicyConfig) (operation : Operation) :
    Prop :=
  policy.defaults.unmatched = .deny ∧
    ∀ rule ∈ foreignRules ids (some policy), ruleMatches operation rule.spec = true →
      rule.details = []

theorem subset_lowerClosure_keptDemands_iff {ids : List String} {policy : PolicyConfig}
    {operation : Operation} :
    (PolicyEngine.guard policy operation).demands ⊆
        lowerClosure (keptDemands ids (some policy) operation) ↔
      KeptRulesSuffice ids policy operation := by
  rw [demands_policy ids, Set.union_subset_iff]
  constructor
  · rintro ⟨_, implied⟩ rule ruleMem owned applies detail required
    exact mem_lowerClosure_keptDemands.mp (implied ⟨rule, ruleMem, owned, applies, required⟩)
  · intro suffices_
    refine ⟨subset_lowerClosure, ?_⟩
    rintro detail ⟨rule, ruleMem, owned, applies, required⟩
    exact mem_lowerClosure_keptDemands.mpr (suffices_ rule ruleMem owned applies detail required)

theorem demands_firstSurvey (accepts : AcceptsEveryGroup prompter) (policy : PolicyConfig)
    (operation : Operation) :
    (PolicyEngine.guard (renderedPolicy (runSurvey prompter [] operations state).1 (some policy))
        operation).demands =
      keptDemands (operations.map (·.id)) (some policy) operation := by
  have sameIds : ∀ id, id ∈ decisionIds (runSurvey prompter [] operations state).1 ↔
      id ∈ operations.map (·.id) := decisionIds_of_acceptsEveryGroup accepts
  rw [demands_renderedPolicy,
    generatedDemands_of_require_none (require_of_acceptsEveryGroup accepts), Set.union_empty,
    keptDemands, keptDemands, foreignRules_congr sameIds]

theorem noLooser_iff (accepts : AcceptsEveryGroup prompter) (policy : PolicyConfig)
    (operation : Operation) :
    NoLooser (runSurvey prompter [] operations state).1 policy operation ↔
      KeptRulesSuffice (operations.map (·.id)) policy operation ∨
        ClosedWithoutDropped (operations.map (·.id)) policy operation := by
  have kept : (PolicyEngine.guard
      (renderedPolicy (runSurvey prompter [] operations state).1 (some policy)) operation).demands =
      keptDemands (operations.map (·.id)) (some policy) operation :=
    demands_firstSurvey accepts policy operation
  have fewer : (PolicyEngine.guard
      (renderedPolicy (runSurvey prompter [] operations state).1 (some policy)) operation).demands ⊆
      (PolicyEngine.guard policy operation).demands := by
    rw [kept, demands_policy (operations.map (·.id))]
    exact Set.subset_union_left
  have closed : ¬unmatchedDefault (some policy) = .allow ↔ policy.defaults.unmatched = .deny := by
    change ¬policy.defaults.unmatched = .allow ↔ policy.defaults.unmatched = .deny
    cases policy.defaults.unmatched <;> simp
  rw [noLooser_iff_admits, Guard.no_looser_iff fewer Iff.rfl PolicyEngine.empty_presentable
    (PolicyEngine.demands_presentable _ _), kept, subset_lowerClosure_keptDemands_iff,
    keptDemands_eq_empty_iff, openByDefault_renderedPolicy, closed, ClosedWithoutDropped, and_comm]

/--
A first survey accepted wholesale loosens no operation exactly when, for each, the
kept rules require whatever the dropped ones do, or require nothing of an
operation that the default denies.
-/
theorem firstSurvey_noLooser_iff (accepts : AcceptsEveryGroup prompter)
    (operations : List Operation) (state : State) (policy : PolicyConfig) :
    (∀ operation ∈ operations,
        NoLooser (runSurvey prompter [] operations state).1 policy operation) ↔
      ∀ operation ∈ operations,
        KeptRulesSuffice (operations.map (·.id)) policy operation ∨
          ClosedWithoutDropped (operations.map (·.id)) policy operation := by
  apply forall₂_congr
  intro operation _
  exact noLooser_iff accepts policy operation

end FirstSurvey

section HandWritten

private def refundOperation : Operation where
  id := "refund"
  upstream := "billing"
  name := ""
  title := ""
  description := ""
  groupTags := ["billing"]
  effect := .action
  sensitivity := .normal
  inputSchema := []
  binding := .http { method := "POST", path := "/refund" }

private def refundPolicy : PolicyConfig where
  rules :=
    [ { spec := { ids := ["refund"] }
        require := some (.ofType "refund") } ]
  requireLessRuleForbiddenUnderDeny := requires_of_allow

private def acceptAll : Prompter Unit where
  confirm state _ _ := (true, state)
  text state _ proposed := (proposed, state)

/-- The hand-written rule for `refund` has the shape of a generated one, and is lost. -/
theorem firstSurvey_loosens_refund :
    AcceptsEveryGroup acceptAll ∧
      ¬∀ operation ∈ [refundOperation],
        NoLooser (runSurvey acceptAll [] [refundOperation] ()).1 refundPolicy operation := by
  refine ⟨fun _ _ _ => rfl, fun noLooser => ?_⟩
  rcases noLooser refundOperation List.mem_cons_self with ⟨rendered, loaded, kept⟩
  rw [modelValidate_renderPolicy, Option.some.injEq] at loaded
  subst rendered
  exact absurd (kept { identity := "anyone", authorizationDetails := [] } (by decide)) (by decide)

private def refundByTag : PolicyConfig where
  rules :=
    [ { spec := { ids := ["refund"] }
        require := some (.ofType "refund") },
      { spec := { tags := ["billing"] }
        require := some {
          authorizationDetails :=
            [{ type := "refund", actions := some ["approve"], nonEmptyWhenPresent := by decide }]
          nonEmpty := List.cons_ne_nil _ _ } } ]
  requireLessRuleForbiddenUnderDeny := requires_of_allow

/-- A stronger rule on the tag makes up for the rule that is lost. -/
theorem firstSurvey_noLooser_iff_refund :
    NoLooser (runSurvey acceptAll [] [refundOperation] ()).1 refundByTag refundOperation := by
  refine (firstSurvey_noLooser_iff (fun _ _ _ => rfl) [refundOperation] () refundByTag).mpr ?_
    refundOperation List.mem_cons_self
  intro operation operationMem
  rw [List.mem_singleton] at operationMem
  subst operation
  exact Or.inl (by decide)

end HandWritten

end McpPortal
