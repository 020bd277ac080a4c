import McpPortal.Auth.Rar
import McpPortal.Operations

/-!
# The transport interface

What a tool call hands to a transport, and the ways a transport can answer.
-/

namespace McpPortal

open Foundation

/-- The arguments of one `execute`. -/
structure Execution where
  operation : Operation
  arguments : JsonObject
  carry : List AuthorizationDetail := []
  subjectToken : Option String := none
  subjectTokenExpiresAt : Option Int := none

/-- The fields of a response that a tool result is made of. -/
structure ToolCallResult where
  status : Nat
  text : String
  deriving DecidableEq

/-- What `execute` raises. The HTTP client's timeouts are among its request errors. -/
inductive TransportFailure where
  | requestBuildError (message : String)
  | timeout
  | requestError (message : String)
  | outboundError (message : String)
  | other
  deriving DecidableEq

abbrev Transporting := Except TransportFailure

end McpPortal
