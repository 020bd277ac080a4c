import McpPortal.Foundation.Json
import McpPortal.Operations

/-!
# The policy file

The validated shape of the authorization policy. Each structure carries what its
validators check, so a value of `PolicyConfig` is a policy the loader accepted:
no requirement list is empty while appearing to require something, and no rule
lacks a requirement while unmatched operations are denied.
-/

namespace McpPortal

open Foundation

theorem nonEmptyWhenPresent_absent :
    ∀ value ∈ [(none : Option (List String)), none, none, none], value ≠ some [] := by decide

/-- One required detail. A list that is present is not empty. -/
structure AuthorizationDetailRequirement where
  type : String
  actions : Option (List String) := none
  locations : Option (List String) := none
  datatypes : Option (List String) := none
  identifier : Option String := none
  privileges : Option (List String) := none
  nonEmptyWhenPresent :
    ∀ value ∈ [actions, locations, datatypes, privileges], value ≠ some []
  deriving DecidableEq

structure RequireConfig where
  authorizationDetails : List AuthorizationDetailRequirement
  nonEmpty : authorizationDetails ≠ []
  deriving DecidableEq

/-- One detail of a type, without conditions. -/
abbrev RequireConfig.ofType (type : String) : RequireConfig where
  authorizationDetails := [{ type, nonEmptyWhenPresent := nonEmptyWhenPresent_absent }]
  nonEmpty := List.cons_ne_nil _ _

structure PolicyOutboundConfig where
  carry : Bool := false
  deriving DecidableEq

structure PolicyMatchSpec where
  ids : List String := []
  tags : List String := []
  upstream : List String := []
  effect : List Effect := []
  sensitivity : List Sensitivity := []
  deriving DecidableEq

structure PolicyRule where
  spec : PolicyMatchSpec
  require : Option RequireConfig := none
  outbound : PolicyOutboundConfig := {}
  deriving DecidableEq

inductive Unmatched where
  | allow
  | deny
  deriving DecidableEq

structure PolicyDefaults where
  unmatched : Unmatched := .allow
  deriving DecidableEq

/-- Where unmatched operations are allowed, a rule may require nothing. -/
theorem requires_of_allow {rules : List PolicyRule} :
    ({} : PolicyDefaults).unmatched = .deny → ∀ rule ∈ rules, rule.require ≠ none := by
  intro isDeny
  cases isDeny

/-- A policy that passed validation. -/
structure PolicyConfig where
  defaults : PolicyDefaults := {}
  rules : List PolicyRule := []
  requireLessRuleForbiddenUnderDeny :
    defaults.unmatched = .deny → ∀ rule ∈ rules, rule.require ≠ none
  deriving DecidableEq

/-- A policy that allows unmatched operations. -/
abbrev PolicyConfig.ofRules (rules : List PolicyRule) : PolicyConfig where
  rules
  requireLessRuleForbiddenUnderDeny := requires_of_allow

/-- The policy of a configuration that names none. -/
abbrev PolicyConfig.empty : PolicyConfig :=
  .ofRules []

end McpPortal
