import McpPortal.Foundation.Traced
import McpPortal.Policy.Engine
import McpPortal.Registry
import McpPortal.Transports.Base

/-!
# Tools and tool calls

An operation is published as a tool, and a call of a tool is checked against the
tool set, the input schema and the policy before a transport executes it. The
validator of JSON schemas and the transports are arguments.
-/

namespace McpPortal

open Foundation

structure ToolAnnotations where
  title : String
  readOnlyHint : Bool
  destructiveHint : Bool
  idempotentHint : Bool
  openWorldHint : Bool
  deriving DecidableEq

structure Tool where
  name : String
  title : String
  description : String
  inputSchema : JsonObject
  annotations : ToolAnnotations

/-- `_ANNOTATIONS`: read-only, destructive, idempotent. -/
def effectHints : Effect → Bool × Bool × Bool
  | .readOnly => (true, false, true)
  | .idempotentWrite => (false, true, true)
  | .action => (false, true, false)

def annotationsFor (operation : Operation) : ToolAnnotations :=
  let (readOnly, destructive, idempotent) := effectHints operation.effect
  { title := operation.title
    readOnlyHint := readOnly
    destructiveHint := destructive
    idempotentHint := idempotent
    openWorldHint := true }

def toMcpTool (operation : Operation) : Tool where
  name := operation.name
  title := operation.title
  description := operation.description
  inputSchema := operation.inputSchema
  annotations := annotationsFor operation

structure CallToolResult where
  text : String
  isError : Bool
  deriving DecidableEq

/-- `_error`. -/
def errorResult (message : String) : CallToolResult where
  text := message
  isError := true

/-- A step from an instance to the part of it that is invalid. -/
inductive PathStep where
  | field (name : String)
  | item (index : Nat)

def PathStep.text : PathStep → String
  | .field name => name
  | .item index => toString index

/-- What `jsonschema.validate` does; it raises when the schema itself is not one. -/
inductive Validation where
  | valid
  | invalid (absolutePath : List PathStep) (message : String)
  | raised

abbrev Validator := JsonObject → JsonObject → Validation

/-- What a call raises instead of returning a result. -/
inductive CallException where
  | validator
  | transport
  | config (error : ConfigError)

abbrev CallOutcome := Except CallException CallToolResult

/-- The transports belong to upstreams. The principal is the one of calls that name none. -/
structure ToolInvoker (Adapter : Type) where
  toolset : ToolSet
  transports : List (String × Adapter)
  policy : PolicyConfig
  principal : Principal := { identity := "local", authorizationDetails := [] }

namespace ToolInvoker

variable {Adapter : Type}

def tools (invoker : ToolInvoker Adapter) : List Tool :=
  invoker.toolset.operations.map toMcpTool

section Call

variable (isPrintable : Char → Bool)

def unknownTool (name : String) : CallToolResult :=
  errorResult ("unknown tool " ++ reprString isPrintable name)

def invalidArguments (name : String) (absolutePath : List PathStep) (message : String) :
    CallToolResult :=
  let field := joinWith "." (absolutePath.map (·.text))
  let place := if field = "" then "" else " at " ++ field
  errorResult ("invalid arguments for " ++ reprString isPrintable name ++ place ++ ": " ++ message)

/-- Only the missing requirement types are named, nothing the principal holds. -/
def authorizationDenied (name : String) (decision : PolicyDecision) : CallToolResult :=
  let types := joinWith ", " (decision.missing.map (·.type))
  let missing := if types = "" then "policy default is deny" else types
  errorResult ("authorization denied for " ++ reprString isPrintable name ++ ": missing " ++ missing)

def noTransport (upstream : String) : CallToolResult :=
  errorResult ("no transport configured for upstream " ++ reprString isPrintable upstream)

/-- A response outside the 2xx range is an error result with the upstream's own text. -/
def resultOf (name upstream : String) : Transporting ToolCallResult → CallOutcome
  | .ok response =>
      .ok { text := response.text, isError := !(200 ≤ response.status && response.status < 300) }
  | .error (.requestBuildError message) => .ok (invalidArguments isPrintable name [] message)
  | .error .timeout =>
      .ok (errorResult ("upstream " ++ reprString isPrintable upstream ++ " timed out"))
  | .error (.requestError message) =>
      .ok (errorResult
        ("upstream " ++ reprString isPrintable upstream ++ " request failed: " ++ message))
  | .error (.outboundError _) =>
      .ok (errorResult
        ("outbound credential acquisition failed for upstream " ++
          reprString isPrintable upstream))
  | .error .other => .error .transport

variable (validate : Validator) (execute : Adapter → Execution → Transporting ToolCallResult)

/-- `principal if principal is not None else self._principal`. -/
def effectivePrincipal (invoker : ToolInvoker Adapter) (principal : Option Principal) : Principal :=
  principal.getD invoker.principal

/-- The checks of a call, in order, and the execution that follows when all of them pass. -/
def call (invoker : ToolInvoker Adapter) (name : String) (arguments : Option JsonObject)
    (principal : Option Principal) : Traced Execution CallOutcome :=
  match Dict.get? invoker.toolset.byName name with
  | none => .silent (.ok (unknownTool isPrintable name))
  | some operation =>
      let args := arguments.getD []
      match validate args operation.inputSchema with
      | .raised => .silent (.error .validator)
      | .invalid absolutePath message =>
          .silent (.ok (invalidArguments isPrintable name absolutePath message))
      | .valid =>
          let caller := invoker.effectivePrincipal principal
          let decision := PolicyEngine.evaluate invoker.policy operation caller
          if !decision.allowed then
            .silent (.ok (authorizationDenied isPrintable name decision))
          else
            match Dict.get? invoker.transports operation.upstream with
            | none => .silent (.ok (noTransport isPrintable operation.upstream))
            | some transport =>
                let execution : Execution :=
                  { operation
                    arguments := args
                    carry := decision.carry
                    subjectToken := caller.subjectToken
                    subjectTokenExpiresAt := caller.subjectTokenExpiresAt }
                .act execution
                  (resultOf isPrintable name operation.upstream (execute transport execution))

end Call

/-- An execution of a call of `name` for `caller` that passed every check. -/
structure Admits (validate : Validator) (invoker : ToolInvoker Adapter) (name : String)
    (arguments : Option JsonObject) (caller : Principal) (execution : Execution) : Prop where
  routed : Dict.get? invoker.toolset.byName name = some execution.operation
  given : execution.arguments = arguments.getD []
  validated : validate execution.arguments execution.operation.inputSchema = .valid
  allowed : (PolicyEngine.evaluate invoker.policy execution.operation caller).allowed = true
  carried : execution.carry =
    (PolicyEngine.evaluate invoker.policy execution.operation caller).carry
  subjectToken : execution.subjectToken = caller.subjectToken
  subjectTokenExpiresAt : execution.subjectTokenExpiresAt = caller.subjectTokenExpiresAt

theorem call_guarded (isPrintable : Char → Bool) (validate : Validator)
    (execute : Adapter → Execution → Transporting ToolCallResult) (invoker : ToolInvoker Adapter)
    (name : String) (arguments : Option JsonObject) (principal : Option Principal) :
    (invoker.call isPrintable validate execute name arguments principal).Guarded
      (invoker.Admits validate name arguments (invoker.effectivePrincipal principal)) := by
  unfold call
  split
  · exact Traced.guarded_silent _
  case h_2 operation routed =>
    dsimp only
    split
    · exact Traced.guarded_silent _
    · exact Traced.guarded_silent _
    case h_3 validated =>
      split
      · exact Traced.guarded_silent _
      case isFalse allowed =>
        split
        · exact Traced.guarded_silent _
        · apply Traced.guarded_act
          constructor
          · exact routed
          · rfl
          · exact validated
          · simpa using allowed
          · rfl
          · rfl
          · rfl

/-- Under safe introspection every tool is announced as one that only reads. -/
theorem tools_introspectSafe {unicode : PyUnicode} {suffix : String → String}
    {operations : List Operation} {config : McpPortalConfig} {invoker : ToolInvoker Adapter}
    (built : buildToolset unicode suffix operations config = .ok invoker.toolset)
    (safe : config.mode = .introspectSafe) :
    ∀ tool ∈ invoker.tools, tool.annotations.readOnlyHint = true := by
  intro tool toolMem
  rcases List.mem_map.mp toolMem with ⟨op, opMem, rfl⟩
  have readOnly := (buildToolset_introspectSafe built safe op opMem).1
  simp [toMcpTool, annotationsFor, effectHints, readOnly]

/-- A name is routed to the one tool that is published under it. -/
theorem exists_tool_of_routed (invoker : ToolInvoker Adapter) {name : String} {op : Operation}
    (routed : Dict.get? invoker.toolset.byName name = some op) :
    toMcpTool op ∈ invoker.tools ∧ (toMcpTool op).name = name ∧
      ∀ tool ∈ invoker.tools, tool.name = name → tool = toMcpTool op := by
  have published := invoker.toolset.get?_byName_iff.mp routed
  refine ⟨List.mem_map_of_mem published.1, published.2, ?_⟩
  intro tool toolMem sameName
  rcases List.mem_map.mp toolMem with ⟨other, otherMem, rfl⟩
  have otherRouted := invoker.toolset.get?_byName_iff.mpr ⟨otherMem, sameName⟩
  rw [routed] at otherRouted
  cases otherRouted
  rfl

end ToolInvoker

end McpPortal
