import McpPortal.App
import McpPortal.Configure.Accounting
import McpPortal.Configure.SurveyAuthorization
import McpPortal.Sources.Explicit

/-!
# A run of which only the policy is written

The policy is rendered for the operations that are now exposed and written first.
When the configuration is not written after it, the operations that were exposed
before are guarded by the new policy. It has lost the rules that `configure` owns,
except for those that it generates again.
-/

namespace McpPortal

open Foundation

section Guarded

variable {ids : List String} {decisions : List OperationDecision}
  {existing : Option PolicyConfig} {operation : Operation}

theorem demands_existing (ids : List String) (existing : Option PolicyConfig)
    (operation : Operation) :
    (PolicyEngine.guard (existing.getD .empty) operation).demands =
      keptDemands ids existing operation ∪ droppedDemands ids (existing.getD .empty) operation := by
  cases existing with
  | none => simp [PolicyEngine.guard, PolicyEngine.required, matchingRules, accumulatedDetails,
      keptDemands, droppedDemands, foreignRules]
  | some policy => exact demands_policy ids policy operation

/-- The previous policy requires something of the operation, or allows it by default. -/
def OpenedBefore (policy : PolicyConfig) (operation : Operation) : Prop :=
  (∃ rule ∈ policy.rules, ruleMatches operation rule.spec = true ∧ rule.details ≠ []) ∨
    policy.defaults.unmatched = .allow

instance (policy : PolicyConfig) (operation : Operation) :
    Decidable (OpenedBefore policy operation) :=
  inferInstanceAs (Decidable ((∃ rule ∈ policy.rules,
    ruleMatches operation rule.spec = true ∧ rule.details ≠ []) ∨
      policy.defaults.unmatched = .allow))

theorem openedBefore_iff {policy : PolicyConfig} :
    OpenedBefore policy operation ↔
      (PolicyEngine.guard policy operation).demands.Nonempty ∨
        (PolicyEngine.guard policy operation).openByDefault := by
  apply or_congr_left
  simp only [Set.Nonempty, PolicyEngine.guard, Set.mem_ofPred_eq, PolicyEngine.mem_required]
  constructor
  · rintro ⟨rule, ruleMem, applies, demanding⟩
    rcases List.exists_mem_of_ne_nil _ demanding with ⟨detail, required⟩
    exact ⟨detail, rule, ruleMem, applies, required⟩
  · rintro ⟨detail, rule, ruleMem, applies, required⟩
    exact ⟨rule, ruleMem, applies, List.ne_nil_of_mem required⟩

/-- Whatever a dropped rule requires of the operation, a kept rule requires as well, or the rule of
an operation that was decided to be exposed with a requirement. -/
def DroppedRulesReplaced (ids : List String) (decisions : List OperationDecision)
    (existing : Option PolicyConfig) (operation : Operation) : Prop :=
  ∀ rule ∈ (existing.getD .empty).rules, isConfigureOwned ids rule = true →
    ruleMatches operation rule.spec = true → ∀ detail ∈ rule.details,
      KeptRuleRequires ids existing operation detail ∨
        GeneratedRuleRequires decisions existing operation detail

theorem droppedRulesReplaced_iff (sameIds : ∀ id, id ∈ decisionIds decisions ↔ id ∈ ids) :
    DroppedRulesReplaced ids decisions existing operation ↔
      (PolicyEngine.guard (existing.getD .empty) operation).demands ⊆
        lowerClosure (PolicyEngine.guard (renderedPolicy decisions existing) operation).demands := by
  have sameKept : keptDemands (decisionIds decisions) existing operation =
      keptDemands ids existing operation := by
    rw [keptDemands, keptDemands, foreignRules_congr sameIds]
  rw [demands_existing ids, demands_renderedPolicy, sameKept, lowerClosure_union]
  constructor
  · rintro replaced detail (kept | ⟨rule, ruleMem, owned, applies, required⟩)
    · exact Or.inl (subset_lowerClosure kept)
    · rcases replaced rule ruleMem owned applies detail required with kept | generated
      · exact Or.inl (mem_lowerClosure_keptDemands.mpr kept)
      · exact Or.inr (mem_lowerClosure_generatedDemands.mpr generated)
  · intro implied rule ruleMem owned applies detail required
    have dropped : detail ∈ droppedDemands ids (existing.getD .empty) operation :=
      ⟨rule, ruleMem, owned, applies, required⟩
    rcases implied (Or.inr dropped) with kept | generated
    · exact Or.inl (mem_lowerClosure_keptDemands.mp kept)
    · exact Or.inr (mem_lowerClosure_generatedDemands.mp generated)

/-- The rendered policy lets nobody call the operation whom the existing one turns away. -/
theorem rendered_stricter_iff (sameIds : ∀ id, id ∈ decisionIds decisions ↔ id ∈ ids) :
    (∀ principal,
        (PolicyEngine.evaluate (renderedPolicy decisions existing) operation principal).allowed =
            true →
          (PolicyEngine.evaluate (existing.getD .empty) operation principal).allowed = true) ↔
      (DroppedRulesReplaced ids decisions existing operation ∧
          OpenedBefore (existing.getD .empty) operation) ∨
        DeniedByDefault decisions existing operation := by
  have sameDefault :
      (PolicyEngine.guard (renderedPolicy decisions existing) operation).openByDefault ↔
        (PolicyEngine.guard (existing.getD .empty) operation).openByDefault := by
    cases existing <;> exact Iff.rfl
  have closed : ¬unmatchedDefault existing = .allow ↔ unmatchedDefault existing = .deny := by
    cases unmatchedDefault existing <;> simp
  simp only [PolicyEngine.allowed_iff_admits]
  rw [PolicyEngine.forall_principal_iff (motive := fun grants =>
      (PolicyEngine.guard (renderedPolicy decisions existing) operation).Admits grants →
        (PolicyEngine.guard (existing.getD .empty) operation).Admits grants),
    Guard.stricter_iff sameDefault PolicyEngine.empty_presentable
      (PolicyEngine.demands_presentable _ _), droppedRulesReplaced_iff sameIds, openedBefore_iff,
    demands_renderedPolicy, Set.union_empty_iff, keptDemands_eq_empty_iff,
    generatedDemands_eq_empty_iff, openByDefault_renderedPolicy, closed, DeniedByDefault,
    and_comm (b := unmatchedDefault existing = .deny)]

end Guarded

/-- What the policy reference of the configuration on disk is loaded to. -/
def ConfigureRun.policyOnDisk {State : Type} (run : ConfigureRun State) (loaded : LoadedConfig) :
    Written → Option PolicyConfig
  | .nothing => some loaded.effectivePolicy
  | .policyOnly => PolicyConfig.modelValidate run.policy
  | .both => PolicyConfig.modelValidate run.policy

/-- "Require a RAR entry?" was answered "no". -/
def GaveUpRequirement (transcript : Transcript) (id : String) : Prop :=
  (Question.requireDetail id, false) ∈ transcript

/-- Loading what is on disk lets nobody call the operation whom the previous policy turned away. -/
def NotLooserOnDisk {State : Type} (run : ConfigureRun State) (loaded : LoadedConfig)
    (written : Written) (operation : Operation) : Prop :=
  ∃ policy, run.policyOnDisk loaded written = some policy ∧
    ∀ principal, (PolicyEngine.evaluate policy operation principal).allowed = true →
      (PolicyEngine.evaluate loaded.effectivePolicy operation principal).allowed = true

section Run

variable {State : Type}

theorem policy_runConfigure {unicode : PyUnicode} {prompter : Prompter State}
    {loaded : LoadedConfig} {introspected : List Operation} {state : State}
    {run : ConfigureRun State}
    (ran : runConfigure unicode prompter loaded introspected state = .ok run) :
    run.policy = renderPolicy run.decisions loaded.policy := by
  by_cases unconfigured : loaded.config.operations = []
  · rcases runConfigure_surveyed ran unconfigured with ⟨_, _, _, _, written⟩
    exact written
  · rcases runConfigure_reconciled ran unconfigured with ⟨_, _, _, _, _, _, _, written⟩
    exact written

/--
With only the policy written, an operation that is still exposed is guarded as
before exactly when every rule that was dropped is replaced and the previous policy
did not deny it by default, or the new one denies it by default.
-/
theorem halfConfirmed_notLooser_iff (unicode : PyUnicode) (prompter : Prompter State)
    (loaded : LoadedConfig) (introspected : List Operation) (state : State)
    (run : ConfigureRun (Transcript × State)) (policyPath configPath : String)
    (ran : runConfigure unicode prompter.recording loaded introspected ([], state) = .ok run)
    (half : (confirmWrites prompter.recording policyPath configPath run.state).1 = .policyOnly) :
    (∀ entry ∈ loaded.config.operations, ∀ op,
        ExplicitSource.build unicode entry = .ok (some op) →
        ¬GaveUpRequirement (confirmWrites prompter.recording policyPath configPath run.state).2.1
          op.id →
        NotLooserOnDisk run loaded
          (confirmWrites prompter.recording policyPath configPath run.state).1 op) ↔
      ∀ entry ∈ loaded.config.operations, ∀ op,
        ExplicitSource.build unicode entry = .ok (some op) →
        ¬GaveUpRequirement (confirmWrites prompter.recording policyPath configPath run.state).2.1
          op.id →
        (DroppedRulesReplaced (introspected.map (·.id)) run.decisions loaded.policy op ∧
            OpenedBefore loaded.effectivePolicy op) ∨
          DeniedByDefault run.decisions loaded.policy op := by
  have sameIds := mem_decisionIds_runConfigure ran
  have onDisk : run.policyOnDisk loaded .policyOnly =
      some (renderedPolicy run.decisions loaded.policy) := by
    rw [ConfigureRun.policyOnDisk, policy_runConfigure ran, modelValidate_renderPolicy]
  simp only [half, NotLooserOnDisk, onDisk, Option.some.injEq, exists_eq_left']
  apply forall₂_congr
  intro entry _
  apply forall₃_congr
  intro op _ _
  exact rendered_stricter_iff sameIds

end Run

section Refunds

private def refundUpstream : UpstreamConfig where
  baseUrl := some { text := "https://shop.test" }
  positive := positive_defaultLimits

private def refundEntry : OperationEntry where
  id := "refund"
  upstream := "shop"
  description := "Refund an order"
  effect := some .action
  binding := .http { method := "POST", path := "/refund" }

private def shopRefundRule : PolicyRule where
  spec := { ids := ["refund"] }
  require := some (.ofType "refund")

private def refundsLoaded : LoadedConfig where
  config :=
    { mode := .configured
      unsafeModeRequiresAcknowledgement := configured_is_safe
      unauthenticatedHttpIsGuarded := stdio_is_guarded _
      server := { name := "portal" }
      upstreams := [("shop", refundUpstream)]
      operations := [refundEntry]
      operationsReferenceKnownUpstreams := by decide }
  policy := some (.ofRules [shopRefundRule])

private def refundAt (path : String) : Operation where
  id := "refund"
  upstream := "shop"
  name := ""
  title := "Refund an order"
  description := "Refund an order"
  groupTags := []
  effect := .action
  sensitivity := .normal
  inputSchema := []
  binding := .http { method := "POST", path }

/-- Declines every operation, and to write anything but the policy. -/
private def declineAll : Prompter Unit where
  confirm state question _ :=
    match question with
    | .write path => (path = "policy.yaml", state)
    | _ => (false, state)
  text state _ proposed := (proposed, state)

/-- An unchanged operation gets its rule back. -/
theorem halfConfirmed_notLooser_iff_refund :
    ∃ run, runConfigure asciiTables declineAll.recording refundsLoaded [refundAt "/refund"]
        ([], ()) = .ok run ∧
      (confirmWrites declineAll.recording "policy.yaml" "config.yaml" run.state).1 = .policyOnly ∧
      ∀ entry ∈ refundsLoaded.config.operations, ∀ op,
        ExplicitSource.build asciiTables entry = .ok (some op) →
        ¬GaveUpRequirement
          (confirmWrites declineAll.recording "policy.yaml" "config.yaml" run.state).2.1 op.id →
        NotLooserOnDisk run refundsLoaded
          (confirmWrites declineAll.recording "policy.yaml" "config.yaml" run.state).1 op := by
  refine ⟨_, rfl, rfl, ?_⟩
  refine (halfConfirmed_notLooser_iff asciiTables declineAll refundsLoaded [refundAt "/refund"] ()
    _ "policy.yaml" "config.yaml" rfl rfl).mpr ?_
  intro entry entryMem op built _
  rw [List.mem_singleton.mp entryMem] at built
  cases built
  left
  refine ⟨?_, by decide⟩
  intro rule ruleMem _ _ detail required
  rw [List.mem_singleton.mp ruleMem] at required
  rw [List.mem_singleton.mp required]
  right
  exact ⟨_, List.mem_singleton_self _, rfl, by decide, by decide, _, rfl, by decide⟩

/-- A changed operation that is declined loses its rule, and the configuration still exposes it. -/
theorem halfConfirmed_loosens_refund :
    ∃ run, runConfigure asciiTables declineAll.recording refundsLoaded [refundAt "/orders/refund"]
        ([], ()) = .ok run ∧
      (confirmWrites declineAll.recording "policy.yaml" "config.yaml" run.state).1 = .policyOnly ∧
      ¬∀ entry ∈ refundsLoaded.config.operations, ∀ op,
        ExplicitSource.build asciiTables entry = .ok (some op) →
        ¬GaveUpRequirement
          (confirmWrites declineAll.recording "policy.yaml" "config.yaml" run.state).2.1 op.id →
        NotLooserOnDisk run refundsLoaded
          (confirmWrites declineAll.recording "policy.yaml" "config.yaml" run.state).1 op := by
  refine ⟨_, rfl, rfl, fun notLooser => ?_⟩
  have kept : ¬GaveUpRequirement
      [(.write "config.yaml", false), (.write "policy.yaml", true),
        (.expose "refund" .action, false), (.exposeAll 1 ungroupedTag, false)] "refund" := by
    simp [GaveUpRequirement]
  rcases notLooser refundEntry List.mem_cons_self _ rfl kept with ⟨policy, onDisk, stricter⟩
  have rendered := (modelValidate_renderPolicy _ refundsLoaded.policy).symm.trans onDisk
  cases rendered
  exact absurd (stricter { identity := "anyone", authorizationDetails := [] } (by decide))
    (by decide)

end Refunds

end McpPortal
