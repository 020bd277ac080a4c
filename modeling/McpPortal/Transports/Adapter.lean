import McpPortal.Transports.Base
import McpPortal.Transports.GraphQl

/-!
# The transports of an upstream

A transport asks its credential source for a credential, prepares the request of
the operation and sends it. An upstream with operations of both protocols gets a
transport that chooses by the binding. Acquiring a token and sending a prepared
request, with its retries, are arguments.
-/

namespace McpPortal

open Foundation

inductive CredentialSource where
  | static (credential : Option Credential)
  | clientCredentials (outbound : OutboundConfig) (secrets : List (String × String))
      (upstreamKey : String)
  | tokenExchange (outbound : OutboundConfig) (clientSecret upstreamKey : String)

/-- What `HttpTransport` and `GraphQlTransport` are constructed with. -/
structure TransportSettings where
  upstream : UpstreamConfig
  baseUrl : String
  credentialSource : CredentialSource

/-- `_ProtocolRoutingTransport` is the one for both protocols. -/
inductive TransportAdapter where
  | http (settings : TransportSettings)
  | graphQl (settings : TransportSettings)
  | protocolRouting (settings : TransportSettings)

/-- The outside: token endpoints behind the token cache, and the upstreams. -/
structure Network where
  acquireToken : CredentialSource → List AuthorizationDetail → Option String → Option Int →
    Transporting String
  send : UpstreamConfig → Effect → PreparedRequest → Transporting ToolCallResult

def noSubjectToken : String :=
  "token_exchange requires an inbound 'subject_token'; this should have " ++
    "been rejected at startup for a transport/auth combination with no " ++
    "inbound token to exchange"

section Execute

variable (isPrintable : Char → Bool) (network : Network)

def CredentialSource.get (source : CredentialSource) (execution : Execution) :
    Transporting (Option Credential) :=
  let bearer := do
    let token ← network.acquireToken source execution.carry execution.subjectToken
      execution.subjectTokenExpiresAt
    return some (bearerCredential token)
  match source with
  | .static credential => return credential
  | .clientCredentials .. => bearer
  | .tokenExchange .. =>
      if execution.subjectToken = none then throw (.outboundError noSubjectToken) else bearer

/-- A request that cannot be built is an error of the arguments. -/
def buildFailure : PyException RequestBuildError → TransportFailure
  | .raised error => .requestBuildError (error.message isPrintable)
  | _ => .other

/-- What both transports do with a request they can prepare. -/
def TransportSettings.execute (settings : TransportSettings) (execution : Execution)
    (prepare : Option Credential → Build PreparedRequest) : Transporting ToolCallResult := do
  let credential ← settings.credentialSource.get network execution
  let request ← (prepare credential).mapError (buildFailure isPrintable)
  network.send settings.upstream execution.operation.effect request

def HttpTransport.execute (settings : TransportSettings) (execution : Execution) :
    Transporting ToolCallResult :=
  match execution.operation.binding with
  | .http binding =>
      settings.execute isPrintable network execution fun credential =>
        buildRequest isPrintable binding settings.baseUrl execution.arguments credential
  | .graphQl _ => throw .other

def GraphQlTransport.execute (settings : TransportSettings) (execution : Execution) :
    Transporting ToolCallResult :=
  match execution.operation.binding with
  | .graphQl binding =>
      settings.execute isPrintable network execution fun credential =>
        return buildGraphqlRequest binding settings.baseUrl execution.arguments credential
  | .http _ => throw .other

namespace TransportAdapter

def execute (adapter : TransportAdapter) (execution : Execution) : Transporting ToolCallResult :=
  match adapter with
  | .http settings => HttpTransport.execute isPrintable network settings execution
  | .graphQl settings => GraphQlTransport.execute isPrintable network settings execution
  | .protocolRouting settings =>
      match execution.operation.binding with
      | .graphQl _ => GraphQlTransport.execute isPrintable network settings execution
      | .http _ => HttpTransport.execute isPrintable network settings execution

def settings : TransportAdapter → TransportSettings
  | .http settings => settings
  | .graphQl settings => settings
  | .protocolRouting settings => settings

end TransportAdapter

end Execute

variable {isPrintable : Char → Bool} {network : Network} {execution : Execution}
  {response : ToolCallResult}

/-- A response answers the request that was prepared of the execution and its credential. -/
structure Answers (isPrintable : Char → Bool) (network : Network) (settings : TransportSettings)
    (execution : Execution) (response : ToolCallResult) : Prop where
  sent : ∃ credential request,
    settings.credentialSource.get network execution = .ok credential ∧
      operationRequest isPrintable execution.operation settings.baseUrl execution.arguments
        credential = .ok request ∧
      network.send settings.upstream execution.operation.effect request = .ok response

theorem answers_of_execute {settings : TransportSettings}
    {prepare : Option Credential → Build PreparedRequest}
    (prepares : ∀ credential, prepare credential =
      operationRequest isPrintable execution.operation settings.baseUrl execution.arguments
        credential)
    (ran : settings.execute isPrintable network execution prepare = .ok response) :
    Answers isPrintable network settings execution response := by
  simp only [TransportSettings.execute, bind_eq_ok, mapError_eq_ok] at ran
  rcases ran with ⟨credential, acquired, request, prepared, answered⟩
  exact ⟨credential, request, acquired, prepares credential ▸ prepared, answered⟩

theorem HttpTransport.answers {settings : TransportSettings}
    (ran : HttpTransport.execute isPrintable network settings execution = .ok response) :
    Answers isPrintable network settings execution response := by
  unfold HttpTransport.execute at ran
  split at ran
  case h_1 binding isHttp =>
    apply answers_of_execute _ ran
    intro credential
    rw [operationRequest, isHttp]
  case h_2 => cases ran

theorem GraphQlTransport.answers {settings : TransportSettings}
    (ran : GraphQlTransport.execute isPrintable network settings execution = .ok response) :
    Answers isPrintable network settings execution response := by
  unfold GraphQlTransport.execute at ran
  split at ran
  case h_1 binding isGraphQl =>
    apply answers_of_execute _ ran
    intro credential
    rw [operationRequest, isGraphQl]
  case h_2 => cases ran

/-- Whichever protocol an operation is bound to, its own request is what is sent. -/
theorem TransportAdapter.answers {adapter : TransportAdapter}
    (ran : adapter.execute isPrintable network execution = .ok response) :
    Answers isPrintable network adapter.settings execution response := by
  cases adapter with
  | http settings => exact HttpTransport.answers ran
  | graphQl settings => exact GraphQlTransport.answers ran
  | protocolRouting settings =>
      simp only [TransportAdapter.execute] at ran
      split at ran
      · exact GraphQlTransport.answers ran
      · exact HttpTransport.answers ran

end McpPortal
