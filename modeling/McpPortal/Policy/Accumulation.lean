import McpPortal.Policy.Engine

/-!
# Accumulation is order-free and monotone

Every fact about a decision is a fact about which rules are in the policy and
which details are presented, never about their order or repetition. More details
only help the caller, and more rules only restrict it, except that a first
requirement takes an operation out of the reach of the default.
-/

namespace McpPortal

open Foundation

namespace PolicyEngine

variable {policy changed : PolicyConfig} {operation : Operation}

theorem required_subset (more : policy.rules ⊆ changed.rules) :
    required policy operation ⊆ required changed operation := by
  intro detail detailMem
  rcases mem_required.mp detailMem with ⟨rule, ruleMem, applies, ruleDetail⟩
  exact mem_required.mpr ⟨rule, more ruleMem, applies, ruleDetail⟩

theorem carry_subset (more : policy.rules ⊆ changed.rules) :
    carry policy operation ⊆ carry changed operation := by
  intro detail detailMem
  rcases mem_carry.mp detailMem with ⟨rule, ruleMem, applies, carried, ruleDetail⟩
  exact mem_carry.mpr ⟨rule, more ruleMem, applies, carried, ruleDetail⟩

/-- A rule without `require` contributes nothing to an operation's requirements. -/
theorem required_subset_of_added {rule : PolicyRule} (requireLess : rule.require = none)
    (added : ∀ other ∈ changed.rules, other = rule ∨ other ∈ policy.rules) :
    required changed operation ⊆ required policy operation := by
  intro detail detailMem
  rcases mem_required.mp detailMem with ⟨other, otherMem, applies, ruleDetail⟩
  rcases added other otherMem with rfl | old
  · simp [PolicyRule.details, requireLess] at ruleDetail
  · exact mem_required.mpr ⟨other, old, applies, ruleDetail⟩

theorem guard_congr (sameDefaults : changed.defaults = policy.defaults)
    (fewer : required changed operation ⊆ required policy operation)
    (more : required policy operation ⊆ required changed operation) :
    guard changed operation = guard policy operation := by
  apply Guard.ext
  · exact Set.Subset.antisymm fewer more
  · simp only [guard, sameDefaults]

variable {principal presented : Principal}

theorem allowed_congr (sameGuard : guard changed operation = guard policy operation)
    (sameDetails : ∀ detail, detail ∈ presented.authorizationDetails ↔
      detail ∈ principal.authorizationDetails) :
    (evaluate changed operation presented).allowed =
      (evaluate policy operation principal).allowed := by
  have grants : {detail | detail ∈ presented.authorizationDetails} =
      {detail | detail ∈ principal.authorizationDetails} :=
    Set.ext sameDetails
  rw [Bool.eq_iff_iff, allowed_iff_admits, allowed_iff_admits, sameGuard, grants]

theorem covers_congr
    (sameDetails : ∀ detail, detail ∈ presented.authorizationDetails ↔
      detail ∈ principal.authorizationDetails) (required : AuthorizationDetail) :
    covers required presented.authorizationDetails =
      covers required principal.authorizationDetails := by
  rw [Bool.eq_iff_iff]
  simp [covers, sameDetails]

theorem allowed_of_more_details
    (more : principal.authorizationDetails ⊆ presented.authorizationDetails)
    (allowed : (evaluate policy operation principal).allowed = true) :
    (evaluate policy operation presented).allowed = true := by
  rw [allowed_iff_admits] at allowed ⊢
  exact Guard.admits_mono more allowed

/-- Where something is required already, or the default is `allow`, rules only restrict. -/
theorem denied_of_more_rules (sameDefaults : changed.defaults = policy.defaults)
    (more : policy.rules ⊆ changed.rules)
    (settled : required policy operation ≠ [] ∨ policy.defaults.unmatched = .allow)
    (denied : (evaluate policy operation principal).allowed = false) :
    (evaluate changed operation principal).allowed = false := by
  rw [Bool.eq_false_iff] at denied ⊢
  intro allowed
  apply denied
  rw [allowed_iff_admits] at allowed ⊢
  have moreDemands : (guard policy operation).demands ⊆ (guard changed operation).demands :=
    fun detail detailMem => required_subset more detailMem
  apply Guard.admits_of_admits_more moreDemands _ _ allowed
  · simp only [guard, sameDefaults, imp_self]
  · rcases settled with something | openDefault
    · left
      rcases List.exists_mem_of_ne_nil _ something with ⟨detail, detailMem⟩
      exact ⟨detail, detailMem⟩
    · exact Or.inr openDefault

/--
Permuting or duplicating rules or presented details changes a decision at most in
the order and repetition of what it lists; presenting more details keeps an allow;
adding a rule keeps a deny unless it is the default's, and keeps every answer if
the rule requires nothing.
-/
theorem accumulation_order_free_and_monotone (policy changed : PolicyConfig)
    (operation : Operation) (principal presented : Principal)
    (sameDefaults : changed.defaults = policy.defaults) :
    ((∀ rule, rule ∈ changed.rules ↔ rule ∈ policy.rules) →
      (∀ detail, detail ∈ presented.authorizationDetails ↔
        detail ∈ principal.authorizationDetails) →
      (evaluate changed operation presented).allowed =
          (evaluate policy operation principal).allowed ∧
        (∀ detail, detail ∈ (evaluate changed operation presented).missing ↔
          detail ∈ (evaluate policy operation principal).missing) ∧
        ∀ detail, detail ∈ (evaluate changed operation presented).carry ↔
          detail ∈ (evaluate policy operation principal).carry) ∧
    (principal.authorizationDetails ⊆ presented.authorizationDetails →
      (evaluate policy operation principal).allowed = true →
      (evaluate policy operation presented).allowed = true) ∧
    ∀ rule, (∀ other, other ∈ changed.rules ↔ other = rule ∨ other ∈ policy.rules) →
      (required policy operation ≠ [] ∨ policy.defaults.unmatched = .allow →
        (evaluate policy operation principal).allowed = false →
        (evaluate changed operation principal).allowed = false) ∧
      (rule.require = none →
        (evaluate changed operation principal).allowed =
          (evaluate policy operation principal).allowed) := by
  refine ⟨?_, allowed_of_more_details, ?_⟩
  · intro sameRules sameDetails
    have fewer : changed.rules ⊆ policy.rules := fun rule => (sameRules rule).mp
    have more : policy.rules ⊆ changed.rules := fun rule => (sameRules rule).mpr
    have sameRequired : ∀ detail, detail ∈ required changed operation ↔
        detail ∈ required policy operation :=
      fun detail => ⟨fun present => required_subset fewer present,
        fun present => required_subset more present⟩
    refine ⟨?_, ?_, ?_⟩
    · apply allowed_congr _ sameDetails
      exact guard_congr sameDefaults (required_subset fewer) (required_subset more)
    · intro detail
      rw [mem_missing, mem_missing, sameRequired, covers_congr sameDetails]
    · intro detail
      rw [carry_evaluate, carry_evaluate]
      exact ⟨fun present => carry_subset fewer present, fun present => carry_subset more present⟩
  · intro rule added
    have more : policy.rules ⊆ changed.rules :=
      fun other otherMem => (added other).mpr (Or.inr otherMem)
    refine ⟨denied_of_more_rules sameDefaults more, ?_⟩
    intro requireLess
    apply allowed_congr _ (fun _ => Iff.rfl)
    apply guard_congr sameDefaults _ (required_subset more)
    exact required_subset_of_added requireLess fun other => (added other).mp

section Billing

private def payInvoice : Operation where
  id := "pay"
  upstream := "billing"
  name := "pay"
  title := ""
  description := ""
  groupTags := ["billing"]
  effect := .action
  sensitivity := .normal
  inputSchema := []
  binding := .http { method := "POST", path := "/pay" }

private def payRule : PolicyRule where
  spec := { tags := ["billing"] }
  require := some (.ofType "payment")

private def openRule : PolicyRule where
  spec := { ids := ["*"] }

private def payer : Principal where
  identity := "payer"
  authorizationDetails := [{ type := "payment" }]

private def auditor : Principal where
  identity := "auditor"
  authorizationDetails := [{ type := "audit" }]

/-- Swapping the rules, repeating one of them, and presenting more. -/
theorem accumulation_order_free_and_monotone_pay :
    let billing : PolicyConfig := .ofRules [payRule, openRule]
    let reordered : PolicyConfig := .ofRules [openRule, payRule, payRule]
    let repeated := { payer with authorizationDetails := [{ type := "payment" }, { type := "payment" }] }
    (evaluate reordered payInvoice repeated).allowed = (evaluate billing payInvoice payer).allowed ∧
      (evaluate billing payInvoice repeated).allowed = true ∧
      (evaluate reordered payInvoice auditor).allowed = false ∧
      (evaluate reordered payInvoice payer).allowed = (evaluate billing payInvoice payer).allowed := by
  intro billing reordered repeated
  have payerCase := accumulation_order_free_and_monotone billing reordered payInvoice payer
    repeated rfl
  have auditorCase := accumulation_order_free_and_monotone billing reordered payInvoice auditor
    auditor rfl
  have sameRules : ∀ rule, rule ∈ reordered.rules ↔ rule ∈ billing.rules := by
    intro rule
    simp [reordered, billing, or_comm]
  have added : ∀ rule ∈ billing.rules, ∀ other, other ∈ reordered.rules ↔
      other = rule ∨ other ∈ billing.rules := by
    intro rule ruleMem other
    rw [sameRules]
    constructor
    · exact Or.inr
    · rintro (rfl | present)
      · exact ruleMem
      · exact present
  refine ⟨(payerCase.1 sameRules (by simp [repeated, payer])).1, ?_, ?_, ?_⟩
  · exact payerCase.2.1 (by simp [repeated, payer]) (by decide)
  · exact (auditorCase.2.2 payRule (added payRule (by simp [billing]))).1 (Or.inr rfl) (by decide)
  · exact (payerCase.2.2 openRule (added openRule (by simp [billing]))).2 rfl

end Billing

end PolicyEngine

end McpPortal
