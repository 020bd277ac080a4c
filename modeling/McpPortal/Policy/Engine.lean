import McpPortal.Auth.Principal
import McpPortal.Config.Policy
import McpPortal.Foundation.Glob

/-!
# Rule matching, requirement accumulation, and the decision

A rule matches an operation on id globs, tags, upstream, effect and sensitivity;
an empty list matches everything. The requirements of all matching rules
accumulate, and every one of them has to be covered by a single detail of the
principal. With nothing required the policy's default decides.
-/

namespace McpPortal

open Foundation

structure PolicyDecision where
  allowed : Bool
  missing : List AuthorizationDetail := []
  carry : List AuthorizationDetail := []
  deriving DecidableEq

/-- `_matches`. -/
def ruleMatches (op : Operation) (spec : PolicyMatchSpec) : Bool :=
  if !spec.ids.isEmpty && !spec.ids.any (fun pattern => fnmatch op.id pattern) then false
  else if !spec.tags.isEmpty && !spec.tags.any (fun tag => decide (tag ∈ op.groupTags)) then false
  else if !spec.upstream.isEmpty && decide (op.upstream ∉ spec.upstream) then false
  else if !spec.effect.isEmpty && decide (op.effect ∉ spec.effect) then false
  else !(!spec.sensitivity.isEmpty && decide (op.sensitivity ∉ spec.sensitivity))

def matchingRules (op : Operation) (rules : List PolicyRule) : List PolicyRule :=
  rules.filter fun rule => ruleMatches op rule.spec

/-- The detail a requirement stands for: a list left out requires nothing. -/
def AuthorizationDetailRequirement.detail (requirement : AuthorizationDetailRequirement) :
    AuthorizationDetail where
  type := requirement.type
  actions := requirement.actions.getD []
  locations := requirement.locations.getD []
  datatypes := requirement.datatypes.getD []
  identifier := requirement.identifier
  privileges := requirement.privileges.getD []

/-- The details one rule requires. -/
def PolicyRule.details (rule : PolicyRule) : List AuthorizationDetail :=
  match rule.require with
  | none => []
  | some require => require.authorizationDetails.map (·.detail)

def accumulatedDetails (rules : List PolicyRule) : List AuthorizationDetail :=
  rules.flatMap (·.details)

namespace PolicyEngine

/-- Every detail required of a call of the operation. -/
def required (policy : PolicyConfig) (operation : Operation) : List AuthorizationDetail :=
  accumulatedDetails (matchingRules operation policy.rules)

/-- The details that travel to the outbound credential of an allowed call. -/
def carry (policy : PolicyConfig) (operation : Operation) : List AuthorizationDetail :=
  accumulatedDetails ((matchingRules operation policy.rules).filter fun rule => rule.outbound.carry)

def evaluate (policy : PolicyConfig) (operation : Operation) (principal : Principal) :
    PolicyDecision :=
  let required := required policy operation
  let carry := carry policy operation
  if required.isEmpty then
    { allowed := policy.defaults.unmatched = .allow, carry }
  else
    let missing := required.filter fun detail => !covers detail principal.authorizationDetails
    { allowed := missing.isEmpty, missing, carry }

end PolicyEngine

theorem mem_accumulatedDetails {rules : List PolicyRule} {detail : AuthorizationDetail} :
    detail ∈ accumulatedDetails rules ↔ ∃ rule ∈ rules, detail ∈ rule.details := by
  simp [accumulatedDetails]

theorem mem_matchingRules {op : Operation} {rules : List PolicyRule} {rule : PolicyRule} :
    rule ∈ matchingRules op rules ↔ rule ∈ rules ∧ ruleMatches op rule.spec = true := by
  simp [matchingRules]

namespace PolicyEngine

theorem mem_required {policy : PolicyConfig} {operation : Operation}
    {detail : AuthorizationDetail} :
    detail ∈ required policy operation ↔
      ∃ rule ∈ policy.rules, ruleMatches operation rule.spec = true ∧ detail ∈ rule.details := by
  simp [required, mem_accumulatedDetails, mem_matchingRules, and_assoc]

theorem mem_carry {policy : PolicyConfig} {operation : Operation}
    {detail : AuthorizationDetail} :
    detail ∈ carry policy operation ↔
      ∃ rule ∈ policy.rules, ruleMatches operation rule.spec = true ∧
        rule.outbound.carry = true ∧ detail ∈ rule.details := by
  simp [carry, mem_accumulatedDetails, mem_matchingRules, and_assoc]

/-- Whatever is carried was also required. -/
theorem required_of_carry {policy : PolicyConfig} {operation : Operation}
    {detail : AuthorizationDetail} (carried : detail ∈ carry policy operation) :
    detail ∈ required policy operation := by
  rcases mem_carry.mp carried with ⟨rule, ruleMem, applies, _, detailMem⟩
  exact mem_required.mpr ⟨rule, ruleMem, applies, detailMem⟩

theorem evaluate_of_required_nil {policy : PolicyConfig} {operation : Operation}
    (principal : Principal) (nothing : required policy operation = []) :
    evaluate policy operation principal =
      { allowed := policy.defaults.unmatched = .allow, carry := carry policy operation } := by
  simp [evaluate, nothing]

theorem evaluate_of_required_ne_nil {policy : PolicyConfig} {operation : Operation}
    (principal : Principal) (something : required policy operation ≠ []) :
    evaluate policy operation principal =
      { allowed := (required policy operation).all fun detail =>
          covers detail principal.authorizationDetails
        missing := (required policy operation).filter fun detail =>
          !covers detail principal.authorizationDetails
        carry := carry policy operation } := by
  simp only [evaluate, List.isEmpty_iff, something, if_false, PolicyDecision.mk.injEq, and_true]
  rw [Bool.eq_iff_iff]
  simp [List.filter_eq_nil_iff]

@[simp]
theorem carry_evaluate (policy : PolicyConfig) (operation : Operation) (principal : Principal) :
    (evaluate policy operation principal).carry = carry policy operation := by
  by_cases nothing : required policy operation = []
  · rw [evaluate_of_required_nil principal nothing]
  · rw [evaluate_of_required_ne_nil principal nothing]

theorem mem_missing {policy : PolicyConfig} {operation : Operation} {principal : Principal}
    {detail : AuthorizationDetail} :
    detail ∈ (evaluate policy operation principal).missing ↔
      detail ∈ required policy operation ∧
        covers detail principal.authorizationDetails = false := by
  by_cases nothing : required policy operation = []
  · simp [evaluate_of_required_nil principal nothing, nothing]
  · simp [evaluate_of_required_ne_nil principal nothing]

/-- The decision spelled out: every requirement of every matching rule is covered by one
presented detail, or no matching rule requires anything and the default is `allow`. -/
theorem allowed_iff {policy : PolicyConfig} {operation : Operation} {principal : Principal} :
    (evaluate policy operation principal).allowed = true ↔
      (required policy operation = [] ∧ policy.defaults.unmatched = .allow) ∨
        (required policy operation ≠ [] ∧ ∀ detail ∈ required policy operation,
          covers detail principal.authorizationDetails = true) := by
  by_cases nothing : required policy operation = []
  · simp [evaluate_of_required_nil principal nothing, nothing]
  · simp [evaluate_of_required_ne_nil principal nothing, nothing]

/-- The policy as a guard on the operation. -/
def guard (policy : PolicyConfig) (operation : Operation) : Guard AuthorizationDetail where
  demands := {detail | detail ∈ required policy operation}
  openByDefault := policy.defaults.unmatched = .allow

/-- The decision is the guard's. -/
theorem allowed_iff_admits {policy : PolicyConfig} {operation : Operation}
    {principal : Principal} :
    (evaluate policy operation principal).allowed = true ↔
      (guard policy operation).Admits {detail | detail ∈ principal.authorizationDetails} := by
  have undemanding : (guard policy operation).demands = ∅ ↔ required policy operation = [] := by
    simp [guard, Set.eq_empty_iff_forall_notMem, List.eq_nil_iff_forall_not_mem]
  simp only [allowed_iff, Guard.Admits, Set.nonempty_iff_ne_empty, ne_eq, undemanding,
    covers_iff_mem_lowerClosure]
  rfl

end PolicyEngine

end McpPortal
