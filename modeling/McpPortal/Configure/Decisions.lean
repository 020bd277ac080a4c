import McpPortal.Auth.Rar
import McpPortal.Operations

/-!
# Decisions of a configure run

What a survey or a reconcile pass produces, independent of how it was gathered.
-/

namespace McpPortal

/-- The requirement an operator can attach to an operation. -/
structure RequiredDetail where
  type : String
  actions : List String := []
  deriving DecidableEq

/-- The detail a principal has to cover. -/
def RequiredDetail.detail (required : RequiredDetail) : AuthorizationDetail where
  type := required.type
  actions := required.actions

/-- One operation's confirmed exposure, with the effect and sensitivity it is pinned to. -/
structure OperationDecision where
  operation : Operation
  exposed : Bool
  effect : Effect
  sensitivity : Sensitivity
  require : Option RequiredDetail

end McpPortal
