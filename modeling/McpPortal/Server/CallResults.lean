import McpPortal.App
import McpPortal.Server.CalledOperation
import McpPortal.Transports.PyExchange
import McpPortal.Transports.PyRequestAgreement

/-!
# When a tool call ends in a result

A call is checked, executed, and turned into a result by whatever its handlers catch. The schema
validator, the credential sources and the HTTP client are given from outside. What no handler
catches leaves the call: an input schema that is none, an id or a tag that a rule cannot be matched
against, a value that cannot be encoded, a time that is no float, a URL or a header that the client
refuses, and the odd header or charset of a response.
-/

namespace McpPortal

open Foundation

namespace PyCall

/-- A step from an instance to the part of it that is invalid. -/
inductive PathStep where
  | field (name : CodePoints)
  | item (index : Nat)

def PathStep.text : PathStep → CodePoints
  | .field name => name
  | .item index => codePoints (toString index)

/-- What `jsonschema.validate` does; it raises when the schema itself is not one. -/
inductive Validation where
  | valid
  | invalid (absolutePath : List PathStep) (message : String)
  | raised

/-- It takes any text. -/
structure CallToolResult where
  text : CodePoints
  isError : Bool
  deriving DecidableEq

/-- What a credential source may raise. -/
inductive CredentialFailure where
  | outboundError (message : String)
  | timeout
  | requestError (message : String)

def CredentialFailure.raised : CredentialFailure → CallRaised
  | .outboundError message => .outboundError message
  | .timeout => .timeout
  | .requestError message => .requestError message

/-- What a call meets outside. -/
structure Outside where
  validate : PyJsonObject → PublishedSchema → Validation
  acquire : CredentialSource → List AuthorizationDetail → Option String → Option Int →
    Except CredentialFailure (Option Credential)
  client : HttpClient
  wire : WireText
  attempts : Nat → WireAttempt
  started : Rat

section Execute

variable (isPrintable : Char → Bool) (outside : Outside) (operation : CalledOperation)
  (arguments : PyJsonObject) (carry : List AuthorizationDetail) (caller : Principal)

def acquireCredential (settings : TransportSettings) : Calling (Option Credential) :=
  (outside.acquire settings.credentialSource carry caller.subjectToken
    caller.subjectTokenExpiresAt).mapError CredentialFailure.raised

/-- `HttpTransport.execute`. -/
def executeHttp (settings : TransportSettings) : Calling MappedResponse :=
  match operation.binding with
  | .graphQl _ => throw (.interpreter .assertionError)
  | .http binding => do
      let credential ← acquireCredential outside carry caller settings
      let request ← buildRequest isPrintable binding settings.baseUrl arguments credential
      sendRequest outside.client outside.wire outside.attempts settings.upstream outside.started
        (HttpTransport.map outside.wire settings.upstream) operation.effect request

/-- `GraphQlTransport.execute`. -/
def executeGraphql (settings : TransportSettings) : Calling MappedResponse :=
  match operation.binding with
  | .http _ => throw (.interpreter .assertionError)
  | .graphQl binding => do
      let credential ← acquireCredential outside carry caller settings
      let request ← buildGraphqlRequest binding settings.baseUrl arguments credential
      sendRequest outside.client outside.wire outside.attempts settings.upstream outside.started
        (GraphQlTransport.map outside.wire settings.upstream) operation.effect request

def execute (adapter : TransportAdapter) : Calling MappedResponse :=
  match adapter with
  | .http settings => executeHttp isPrintable outside operation arguments carry caller settings
  | .graphQl settings => executeGraphql outside operation arguments carry caller settings
  | .protocolRouting settings =>
      match operation.binding with
      | .graphQl _ => executeGraphql outside operation arguments carry caller settings
      | .http _ => executeHttp isPrintable outside operation arguments carry caller settings

end Execute

section Results

variable (isPrintable : Char → Bool) (name : CodePoints)

/-- `_error`. -/
def errorResult (message : CodePoints) : CallToolResult where
  text := message
  isError := true

def unknownTool : CallToolResult :=
  errorResult (codePoints ("unknown tool " ++ reprPoints isPrintable name))

def invalidArguments (absolutePath : List PathStep) (message : String) : CallToolResult :=
  let field := joinPoints (codePoints ".") (absolutePath.map (·.text))
  let place := if field = [] then [] else codePoints " at " ++ field
  errorResult (codePoints ("invalid arguments for " ++ reprPoints isPrintable name) ++ place ++
    codePoints (": " ++ message))

/-- Only the missing requirement types are named, nothing the principal holds. -/
def authorizationDenied (decision : PolicyDecision) : CallToolResult :=
  let types := joinWith ", " (decision.missing.map (·.type))
  let missing := if types = "" then "policy default is deny" else types
  errorResult (codePoints ("authorization denied for " ++ reprPoints isPrintable name ++
    ": missing " ++ missing))

def noTransport (upstream : String) : CallToolResult :=
  errorResult (codePoints
    ("no transport configured for upstream " ++ reprString isPrintable upstream))

/-- A response outside the 2xx range is an error result with the upstream's own text. -/
def resultOfResponse (response : MappedResponse) : CallToolResult where
  text := codePoints response.text
  isError := !(200 ≤ response.status && response.status < 300)

/-- The handlers of a call. -/
def resultOfRaised (upstream : String) : CallRaised → Calling CallToolResult
  | .interpreter (.raised error) =>
      return invalidArguments isPrintable name [] (error.message isPrintable)
  | .timeout =>
      return errorResult (codePoints ("upstream " ++ reprString isPrintable upstream ++ " timed out"))
  | .requestError message =>
      return errorResult (codePoints
        ("upstream " ++ reprString isPrintable upstream ++ " request failed: " ++ message))
  | .outboundError _ =>
      return errorResult (codePoints ("outbound credential acquisition failed for upstream " ++
        reprString isPrintable upstream))
  | raised => throw raised

end Results

/-- What a call reads of an invoker. -/
structure Invoker where
  byName : List (String × CalledOperation)
  transports : List (String × TransportAdapter)
  policy : PolicyConfig
  principal : Principal

/-- The invoker of checked operations. -/
def Invoker.ofChecked (invoker : ToolInvoker TransportAdapter) : Invoker where
  byName := invoker.toolset.byName.map fun entry => (entry.1, .ofChecked entry.2)
  transports := invoker.transports
  policy := invoker.policy
  principal := invoker.principal

section Call

variable (isPrintable : Char → Bool) (outside : Outside) (invoker : Invoker) (name : CodePoints)
  (arguments : Option PyJsonObject) (principal : Option Principal)

/-- The operation of a name. -/
def routed : Option CalledOperation :=
  name.toText?.bind (Dict.get? invoker.byName)

/-- What an allowed call comes to. -/
def resultOf (operation : CalledOperation) (carry : List AuthorizationDetail) :
    Calling CallToolResult :=
  match Dict.get? invoker.transports operation.upstream with
  | none => return noTransport isPrintable operation.upstream
  | some adapter =>
      match execute isPrintable outside operation (arguments.getD []) carry
          (principal.getD invoker.principal) adapter with
      | .ok response => return resultOfResponse response
      | .error raised => resultOfRaised isPrintable name operation.upstream raised

/-- `ToolInvoker.call`. -/
def call : Calling CallToolResult :=
  match routed invoker name with
  | none => return unknownTool isPrintable name
  | some operation =>
      match outside.validate (arguments.getD []) operation.inputSchema with
      | .raised => throw .schemaError
      | .invalid absolutePath message =>
          return invalidArguments isPrintable name absolutePath message
      | .valid => do
          -- outside the handlers
          let decision ← evaluate operation invoker.policy (principal.getD invoker.principal)
          if !decision.allowed then return authorizationDenied isPrintable name decision
          else resultOf isPrintable outside invoker name arguments principal operation decision.carry

end Call

section Answers

variable (isPrintable : Char → Bool) (outside : Outside)

/-- The adapter is one for the protocol of the binding. -/
def Serves : TransportAdapter → CalledBinding → Prop
  | .http _, .http _ => True
  | .graphQl _, .graphQl _ => True
  | .protocolRouting _, _ => True
  | _, _ => False

/-- The request of an operation. -/
def requestOf (operation : CalledOperation) (baseUrl : String) (arguments : PyJsonObject)
    (credential : Option Credential) : Calling PreparedRequest :=
  match operation.binding with
  | .http binding => buildRequest isPrintable binding baseUrl arguments credential
  | .graphQl binding => buildGraphqlRequest binding baseUrl arguments credential

/-- The arguments can be encoded as the binding does it. -/
def ArgumentsEncode (binding : CalledBinding) (arguments : PyJsonObject) : Prop :=
  match binding with
  | .http binding => RequestEncodes isPrintable arguments binding
  | .graphQl binding => anyLongField (graphqlVariables binding arguments) = false

/-- A request is built of the arguments. -/
def ArgumentsBuild (binding : CalledBinding) (arguments : PyJsonObject) : Prop :=
  match binding with
  | .http binding => RequestBuilds isPrintable arguments binding
  | .graphQl binding => anyLongField (graphqlVariables binding arguments) = false

def urlOf (binding : CalledBinding) (baseUrl : String) (arguments : PyJsonObject) : String :=
  match binding with
  | .http binding => sentUrl isPrintable arguments binding baseUrl
  | .graphQl _ => baseUrl

def headersOf (binding : CalledBinding) (arguments : PyJsonObject) (credential : Option Credential) :
    List (String × CodePoints) :=
  match binding with
  | .http binding => sentHeaders isPrintable arguments binding credential
  | .graphQl _ => attachCredential [("Content-Type", codePoints "application/json")] credential

/-- The arguments can be encoded, and what is built of them can be sent in time and is answered. -/
structure RequestAnswers (operation : CalledOperation) (settings : TransportSettings)
    (arguments : PyJsonObject) (credential : Option Credential) : Prop where
  encodes : ArgumentsEncode isPrintable operation.binding arguments
  timeout : ArgumentsBuild isPrintable operation.binding arguments →
    settings.upstream.timeoutMs < floatLimit * 1000
  url : ArgumentsBuild isPrintable operation.binding arguments →
    outside.client.refusesUrl (urlOf isPrintable operation.binding settings.baseUrl arguments) =
      false
  headers : ArgumentsBuild isPrintable operation.binding arguments →
    ∀ header ∈ headersOf isPrintable operation.binding arguments credential,
      isAscii (codePoints header.1) = true ∧ isAscii header.2 = true
  responses : ArgumentsBuild isPrintable operation.binding arguments →
    ExchangeSafe outside.wire outside.attempts settings.upstream outside.started
      (attemptCount operation.effect)

structure ExecutionAnswers (operation : CalledOperation) (arguments : PyJsonObject)
    (carry : List AuthorizationDetail) (caller : Principal) (adapter : TransportAdapter) :
    Prop where
  serves : Serves adapter operation.binding
  request : ∀ credential, outside.acquire adapter.settings.credentialSource carry
      caller.subjectToken caller.subjectTokenExpiresAt = .ok credential →
    RequestAnswers isPrintable outside operation adapter.settings arguments credential

variable (invoker : Invoker) (name : CodePoints) (arguments : Option PyJsonObject)
  (principal : Option Principal)

/-- The arguments of a call are valid for the operation of its name. -/
structure Valid (operation : CalledOperation) : Prop where
  routed : routed invoker name = some operation
  valid : outside.validate (arguments.getD []) operation.inputSchema = .valid

/-- A call that passes the checks is executed by an adapter. -/
structure Executes (operation : CalledOperation) (decision : PolicyDecision)
    (adapter : TransportAdapter) : Prop extends Valid outside invoker name arguments operation where
  decided : evaluate operation invoker.policy (principal.getD invoker.principal) = .ok decision
  allowed : decision.allowed = true
  found : Dict.get? invoker.transports operation.upstream = some adapter

/-- The input schema is one, no rule raises, and the execution of a call that passes the checks is
answered. -/
structure CallAnswers : Prop where
  schema : ∀ operation, routed invoker name = some operation →
    outside.validate (arguments.getD []) operation.inputSchema ≠ .raised
  rules : ∀ operation, Valid outside invoker name arguments operation →
    ∀ rule ∈ invoker.policy.rules, ¬RuleRaises operation rule.spec
  execution : ∀ operation decision adapter,
    Executes outside invoker name arguments principal operation decision adapter →
      ExecutionAnswers isPrintable outside operation (arguments.getD []) decision.carry
        (principal.getD invoker.principal) adapter

end Answers

section Outcome

variable {isPrintable : Char → Bool} {outside : Outside} {operation : CalledOperation}
  {arguments : PyJsonObject} {carry : List AuthorizationDetail} {caller : Principal}

theorem uncaught_buildGraphqlRequest {binding : GraphQlBinding} {endpoint : String}
    {credential : Option Credential} :
    Uncaught CallRaised.isCaught (buildGraphqlRequest binding endpoint arguments credential) ↔
      anyLongField (graphqlVariables binding arguments) = true := by
  simp [buildGraphqlRequest, uncaught_dumps, PyJson.hasLongInt, anyLongField]

theorem uncaught_acquireCredential {settings : TransportSettings} :
    ¬Uncaught CallRaised.isCaught (acquireCredential outside carry caller settings) := by
  unfold acquireCredential
  cases outside.acquire settings.credentialSource carry caller.subjectToken
      caller.subjectTokenExpiresAt with
  | ok credential => simp [Except.mapError]
  | error failure =>
      cases failure <;> simp [Except.mapError, CredentialFailure.raised, CallRaised.isCaught]

theorem acquireCredential_eq_ok {settings : TransportSettings} {credential : Option Credential} :
    acquireCredential outside carry caller settings = .ok credential ↔
      outside.acquire settings.credentialSource carry caller.subjectToken
        caller.subjectTokenExpiresAt = .ok credential := mapError_eq_ok

theorem uncaught_requestOf {baseUrl : String} {credential : Option Credential} :
    Uncaught CallRaised.isCaught
        (requestOf isPrintable operation baseUrl arguments credential) ↔
      ¬ArgumentsEncode isPrintable operation.binding arguments := by
  unfold requestOf ArgumentsEncode
  cases operation.binding with
  | http binding => exact uncaught_buildRequest
  | graphQl binding => simp [uncaught_buildGraphqlRequest]

theorem exists_requestOf_eq_ok {baseUrl : String} {credential : Option Credential} :
    (∃ request, requestOf isPrintable operation baseUrl arguments credential = .ok request) ↔
      ArgumentsBuild isPrintable operation.binding arguments := by
  unfold requestOf ArgumentsBuild
  cases operation.binding with
  | http binding => exact exists_buildRequest_eq_ok
  | graphQl binding =>
      have dumped := @exists_dumps_eq_ok (.obj
        [ (codePoints "query", .str (codePoints binding.document)),
          (codePoints "variables", .obj (graphqlVariables binding arguments)) ])
      have long : (PyJson.obj
          [ (codePoints "query", .str (codePoints binding.document)),
            (codePoints "variables", .obj (graphqlVariables binding arguments)) ]).hasLongInt =
          anyLongField (graphqlVariables binding arguments) := by
        simp [PyJson.hasLongInt, anyLongField]
      rw [long] at dumped
      simp only [buildGraphqlRequest, bind_eq_ok, pure_eq_ok, ← dumped]
      constructor
      · rintro ⟨_, body, built, _⟩
        exact ⟨body, built⟩
      · rintro ⟨body, built⟩
        exact ⟨_, body, built, rfl⟩

/-- The URL and the headers of a request that is built. -/
theorem requestOf_sends {baseUrl : String} {credential : Option Credential}
    {request : PreparedRequest}
    (built : requestOf isPrintable operation baseUrl arguments credential = .ok request) :
    request.url = urlOf isPrintable operation.binding baseUrl arguments ∧
      request.headers = headersOf isPrintable operation.binding arguments credential := by
  unfold requestOf at built
  unfold urlOf headersOf
  cases isBinding : operation.binding with
  | http binding =>
      rw [isBinding] at built
      exact buildRequest_sends built
  | graphQl binding =>
      simp only [isBinding, buildGraphqlRequest, bind_eq_ok, pure_eq_ok] at built
      rcases built with ⟨body, _, rfl⟩
      exact ⟨rfl, rfl⟩

/-- Plain arguments of a checked operation make the request that the transports prepare of them as
plain strings. -/
theorem requestOf_ofJson {operation : Operation} {fields : JsonObject}
    (short : anyLongField (ofJsonFields fields) = false) (baseUrl : String)
    (credential : Option Credential) :
    requestOf isPrintable (.ofChecked operation) baseUrl (ofJsonFields fields) credential =
      mirrored PreparedRequest.inPoints
        (operationRequest isPrintable operation baseUrl fields credential) := by
  unfold requestOf operationRequest CalledOperation.ofChecked
  cases operation.binding with
  | http binding => exact buildRequest_ofJson short binding baseUrl credential
  | graphQl binding => exact buildGraphqlRequest_ofJson short binding baseUrl credential

/-- A transport maps any response that has a text. -/
theorem map_eq_none_iff (wire : WireText) (upstream : UpstreamConfig) (response : UpstreamResponse) :
    (HttpTransport.map wire upstream response = none ↔ response.text = none) ∧
      (GraphQlTransport.map wire upstream response = none ↔ response.text = none) :=
  ⟨Option.map_eq_none_iff, Option.map_eq_none_iff⟩

/-- A request is sent and answered by what is built of the arguments. -/
theorem requestAnswers_iff {settings : TransportSettings} {credential : Option Credential} :
    RequestAnswers isPrintable outside operation settings arguments credential ↔
      ArgumentsEncode isPrintable operation.binding arguments ∧
        ∀ request, requestOf isPrintable operation settings.baseUrl arguments credential =
            .ok request →
          settings.upstream.timeoutMs < floatLimit * 1000 ∧ Sendable outside.client request ∧
            ExchangeSafe outside.wire outside.attempts settings.upstream outside.started
              (attemptCount operation.effect) := by
  constructor
  · intro answers
    refine ⟨answers.encodes, fun request built => ?_⟩
    have builds := exists_requestOf_eq_ok.mp ⟨request, built⟩
    rcases requestOf_sends built with ⟨url, headers⟩
    refine ⟨answers.timeout builds, ?_, answers.responses builds⟩
    constructor
    · rw [url]
      exact answers.url builds
    · rw [headers]
      exact answers.headers builds
  · rintro ⟨encodes, each⟩
    constructor
    · exact encodes
    · intro builds
      rcases exists_requestOf_eq_ok.mpr builds with ⟨request, built⟩
      exact (each request built).1
    · intro builds
      rcases exists_requestOf_eq_ok.mpr builds with ⟨request, built⟩
      have sendable := (each request built).2.1
      exact (requestOf_sends built).1 ▸ sendable.url
    · intro builds
      rcases exists_requestOf_eq_ok.mpr builds with ⟨request, built⟩
      have sendable := (each request built).2.1
      exact (requestOf_sends built).2 ▸ sendable.headers
    · intro builds
      rcases exists_requestOf_eq_ok.mpr builds with ⟨request, built⟩
      exact (each request built).2.2

/-- Both transports send the request of the operation, and map a response that has a text. -/
theorem execute_of_serves {adapter : TransportAdapter}
    (serves : Serves adapter operation.binding) :
    ∃ map : ResponseMap, (∀ response, map response = none ↔ response.text = none) ∧
      execute isPrintable outside operation arguments carry caller adapter = (do
        let credential ← acquireCredential outside carry caller adapter.settings
        let request ← requestOf isPrintable operation adapter.settings.baseUrl arguments credential
        sendRequest outside.client outside.wire outside.attempts adapter.settings.upstream
          outside.started map operation.effect request) := by
  have readsHttp settings := fun response =>
    (map_eq_none_iff outside.wire settings response).1
  have readsGraphql settings := fun response =>
    (map_eq_none_iff outside.wire settings response).2
  cases adapter with
  | http settings =>
      cases bound : operation.binding with
      | graphQl binding => simp [Serves, bound] at serves
      | http binding =>
          refine ⟨_, readsHttp settings.upstream, ?_⟩
          simp only [execute, executeHttp, requestOf, bound, TransportAdapter.settings]
  | graphQl settings =>
      cases bound : operation.binding with
      | http binding => simp [Serves, bound] at serves
      | graphQl binding =>
          refine ⟨_, readsGraphql settings.upstream, ?_⟩
          simp only [execute, executeGraphql, requestOf, bound, TransportAdapter.settings]
  | protocolRouting settings =>
      cases bound : operation.binding with
      | http binding =>
          refine ⟨_, readsHttp settings.upstream, ?_⟩
          simp only [execute, executeHttp, requestOf, bound, TransportAdapter.settings]
      | graphQl binding =>
          refine ⟨_, readsGraphql settings.upstream, ?_⟩
          simp only [execute, executeGraphql, requestOf, bound, TransportAdapter.settings]

theorem execute_of_not_serves {adapter : TransportAdapter}
    (notServes : ¬Serves adapter operation.binding) :
    execute isPrintable outside operation arguments carry caller adapter =
      throw (.interpreter .assertionError) := by
  cases adapter with
  | http settings =>
      cases bound : operation.binding with
      | graphQl binding => simp only [execute, executeHttp, bound]
      | http binding => simp [Serves, bound] at notServes
  | graphQl settings =>
      cases bound : operation.binding with
      | http binding => simp only [execute, executeGraphql, bound]
      | graphQl binding => simp [Serves, bound] at notServes
  | protocolRouting settings => exact absurd trivial notServes

theorem uncaught_execute {adapter : TransportAdapter} :
    Uncaught CallRaised.isCaught
        (execute isPrintable outside operation arguments carry caller adapter) ↔
      ¬ExecutionAnswers isPrintable outside operation arguments carry caller adapter := by
  by_cases serves : Serves adapter operation.binding
  · rcases @execute_of_serves isPrintable outside operation arguments carry caller adapter serves
      with ⟨map, reads, steps⟩
    have answers : ExecutionAnswers isPrintable outside operation arguments carry caller adapter ↔
        ∀ credential, outside.acquire adapter.settings.credentialSource carry caller.subjectToken
            caller.subjectTokenExpiresAt = .ok credential →
          RequestAnswers isPrintable outside operation adapter.settings arguments credential :=
      ⟨fun answers => answers.request, fun each => ⟨serves, each⟩⟩
    rw [steps, answers, uncaught_bind]
    simp only [uncaught_acquireCredential, false_or, acquireCredential_eq_ok]
    push Not
    apply exists_congr
    intro credential
    apply and_congr_right
    intro _
    rw [uncaught_bind, uncaught_requestOf, requestAnswers_iff]
    by_cases encodes : ArgumentsEncode isPrintable operation.binding arguments
    · simp only [encodes, not_true, false_or, true_and, uncaught_sendRequest reads]
      push Not
      rfl
    · simp [encodes]
  · have notAnswers : ¬ExecutionAnswers isPrintable outside operation arguments carry caller
        adapter := fun answers => serves answers.serves
    rw [execute_of_not_serves serves]
    simp [notAnswers, CallRaised.isCaught]

/-- The handlers turn an exception into a result or let it pass. -/
theorem resultOfRaised_returns_iff {name : CodePoints} {upstream : String} {raised : CallRaised} :
    (∃ result, resultOfRaised isPrintable name upstream raised = .ok result) ↔
      raised.isCaught = true := by
  cases raised with
  | interpreter exception =>
      cases exception <;> simp [resultOfRaised, CallRaised.isCaught, pure, Except.pure]
  | _ => simp [resultOfRaised, CallRaised.isCaught, pure, Except.pure]

theorem returns_of_execute_iff {name : CodePoints} {upstream : String}
    {execution : Calling MappedResponse} :
    (∃ result, (match execution with
      | .ok response => return resultOfResponse response
      | .error raised => resultOfRaised isPrintable name upstream raised) =
        (.ok result : Calling CallToolResult)) ↔
      ¬Uncaught CallRaised.isCaught execution := by
  cases execution with
  | ok response => simp [pure, Except.pure]
  | error raised => simp [resultOfRaised_returns_iff]

end Outcome

variable {isPrintable : Char → Bool} {outside : Outside} {invoker : Invoker} {name : CodePoints}
  {arguments : Option PyJsonObject} {principal : Option Principal}

theorem resultOf_returns_iff {operation : CalledOperation} {carry : List AuthorizationDetail} :
    (∃ result, resultOf isPrintable outside invoker name arguments principal operation carry =
        .ok result) ↔
      ∀ adapter, Dict.get? invoker.transports operation.upstream = some adapter →
        ExecutionAnswers isPrintable outside operation (arguments.getD []) carry
          (principal.getD invoker.principal) adapter := by
  unfold resultOf
  cases Dict.get? invoker.transports operation.upstream with
  | none => simp [pure, Except.pure]
  | some adapter =>
      simp only [returns_of_execute_iff, uncaught_execute, not_not, Option.some.injEq,
        forall_eq']

/-- What is asked of a call whose name has an operation. -/
theorem callAnswers_iff_of_routed {operation : CalledOperation}
    (isRouted : routed invoker name = some operation) :
    CallAnswers isPrintable outside invoker name arguments principal ↔
      outside.validate (arguments.getD []) operation.inputSchema ≠ .raised ∧
        (outside.validate (arguments.getD []) operation.inputSchema = .valid →
          (∀ rule ∈ invoker.policy.rules, ¬RuleRaises operation rule.spec) ∧
            ∀ decision,
              evaluate operation invoker.policy (principal.getD invoker.principal) =
                .ok decision → decision.allowed = true →
              ∃ result, resultOf isPrintable outside invoker name arguments principal operation
                decision.carry = .ok result) := by
  simp only [resultOf_returns_iff]
  constructor
  · intro answers
    refine ⟨answers.schema operation isRouted, fun valid => ?_⟩
    refine ⟨answers.rules operation ⟨isRouted, valid⟩, ?_⟩
    intro decision decided allowed adapter found
    exact answers.execution operation decision adapter ⟨⟨isRouted, valid⟩, decided, allowed, found⟩
  · rintro ⟨schema, later⟩
    constructor
    · intro other otherRouted
      cases isRouted.symm.trans otherRouted
      exact schema
    · intro other valid
      cases isRouted.symm.trans valid.routed
      exact (later valid.valid).1
    · intro other decision adapter executes
      cases isRouted.symm.trans executes.routed
      exact (later executes.valid).2 decision executes.decided executes.allowed adapter
        executes.found

/-- In an application every operation has an adapter for its protocol. -/
theorem buildApp_serves {unicode : PyUnicode} {suffix : String → String}
    {introspect : IntrospectUpstreams} {loaded : LoadedConfig} {app : App} {operation : Operation}
    {adapter : TransportAdapter} (built : buildApp unicode suffix introspect loaded = .ok app)
    (published : operation ∈ app.invoker.toolset.operations)
    (found : Dict.get? app.invoker.transports operation.upstream = some adapter) :
    Serves adapter (.ofChecked operation.binding) := by
  simp only [buildApp, bind_eq_ok, pure_eq_ok] at built
  rcases built with ⟨introspected, _, _, _, toolset, _, _, _, transports, made, rfl⟩
  rcases mem_of_mapM_eq_ok made (Dict.mem_of_get? found) with ⟨upstream, _, wired⟩
  simp only [transportFor, bind_eq_ok, pure_eq_ok, Prod.mk.injEq] at wired
  rcases wired with ⟨source, _, sameKey, rfl⟩
  have own : operation ∈ toolset.operations.filter fun op => op.upstream = upstream.1 :=
    List.mem_filter.mpr ⟨published, decide_eq_true sameKey.symm⟩
  unfold adapterFor
  cases isBinding : operation.binding with
  | http binding =>
      have hasHttp : (toolset.operations.filter fun op => op.upstream = upstream.1).any
          (fun op => op.binding.isHttp) = true :=
        List.any_eq_true.mpr ⟨operation, own, by rw [isBinding]; rfl⟩
      simp only [hasHttp, Bool.true_and]
      split
      · trivial
      · trivial
  | graphQl binding =>
      have hasGraphQl : (toolset.operations.filter fun op => op.upstream = upstream.1).any
          (fun op => !op.binding.isHttp) = true :=
        List.any_eq_true.mpr ⟨operation, own, by rw [isBinding]; rfl⟩
      simp only [hasGraphQl, Bool.and_true]
      split <;> trivial

section Items

/-- A path with one placeholder, as an entry of the configuration declares it. -/
private def itemEntry : OperationEntry where
  id := "getItem"
  upstream := "shop"
  description := "One item."
  name := some { text := "get_item" }
  binding := .http {
    method := "GET"
    path := "/items/{id}"
    parameters := [{ arg := "id", location := .path, required := true }] }

private def shopConfig : LoadedConfig where
  config := {
    mode := .configured
    unsafeModeRequiresAcknowledgement := configured_is_safe
    unauthenticatedHttpIsGuarded := stdio_is_guarded _
    server := { name := "portal" }
    upstreams := [("shop", { baseUrl := some { text := "https://catalog.test" }, positive := positive_defaultLimits })]
    operations := [itemEntry] }

private def shopApp : Loading App :=
  buildApp asciiTables (fun _ => "111111")
    (fun _ => return { operations := [], resolvedBaseUrl := fun _ => "" }) shopConfig

private def shopWire : WireText where
  isDigit := Char.isDigit
  decimal char := if char.isDigit then some (char.toNat - '0'.toNat) else none
  decimalOfDigit := @decimal_of_isDigit
  decode bytes := String.ofList (bytes.map fun byte => Char.ofNat byte.toNat)
  decodeJson _ := none
  readFloat text := { value := 0, repr := text }

/-- Every string is a valid `id`, and the upstream answers. -/
private def shop : Outside where
  validate _ _ := .valid
  acquire _ _ _ _ := .ok none
  client := { refusesUrl := fun _ => false }
  wire := shopWire
  attempts _ := { outcome := .responded { status := 200 }, duration := 1, drawn := 1 }
  started := 0

/-- The decoded `"\ud800"`. -/
private def loneSurrogate : CodePoints := [⟨0xd800, by decide⟩]

private def itemCall (app : App) : Calling CallToolResult :=
  call asciiTables.isPrintable shop (.ofChecked app.invoker) (codePoints "get_item")
    (some [(codePoints "id", .str loneSurrogate)]) none

private def raisesEncodeError : Calling CallToolResult → Bool
  | .error .unicodeEncodeError => true
  | _ => false

end Items

end PyCall

end McpPortal
