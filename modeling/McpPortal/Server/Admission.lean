import McpPortal.Auth.Inbound
import McpPortal.Auth.TokenIsolation
import McpPortal.Server.CallResults
import McpPortal.Server.Handlers

/-!
# What a call does between its awaits

A tool call over HTTP waits for a verification key, for a credential and for its upstream. Each
function it passes through is cut here where it waits, and put together again it is the function
that answers at once.
-/

namespace McpPortal

open Foundation

section Verify

variable (unicode : PyUnicode) {Key : Type} (pyjwt : PyJwt Key) (verifier : JwtTokenVerifier)

namespace JwtTokenVerifier

/-- The algorithm of a header and the `kid` it names, if both and the type are accepted. -/
def wantedOf (header : JsonObject) (alg : Json) : Option (String × String) := do
  let algorithm ← alg.string?
  guard (algorithm ∈ verifier.allowedAlgorithms)
  let typ ← ((Dict.get? header "typ").getD (.str "")).string?
  guard (unicode.lower typ ∈ acceptedTyp)
  let kid ← ((Dict.get? header "kid").getD .null).string?
  return (algorithm, kid)

/-- `verify_token` up to `key_for`. -/
def wantedKey (token : String) : Verifying (Option (String × String)) := do
  match pyjwt.getUnverifiedHeader token with
  | none => return none
  | some header =>
      let alg := (Dict.get? header "alg").getD .null
      if !alg.hashable then throw .typeError
      return wantedOf unicode verifier header alg

/-- The claims that a key gives, if they pass every check. -/
def claimsUnder (token algorithm : String) (jwk : Option JsonObject) : Option JsonObject := do
  let jwk ← jwk
  let key ← pyjwt.keyFromDict jwk algorithm
  let claims ← pyjwt.decode (verifier.decodeRequest token key algorithm)
  guard (hasDetails claims)
  guard (verifier.requiredScopes.all (· ∈ scopesFromClaims unicode claims))
  return claims

/-- The rest of `verify_token`. -/
def verifyUnder (token algorithm : String) (jwk : Option JsonObject) :
    Verifying (Option VerifiedToken) :=
  match claimsUnder unicode pyjwt verifier token algorithm jwk with
  | none => return none
  | some claims => some <$> accessToken unicode verifier token claims

theorem acceptedClaims_eq (keyFor : String → Option JsonObject) (token : String)
    (header : JsonObject) (alg : Json) :
    acceptedClaims unicode pyjwt keyFor verifier token header alg =
      (wantedOf unicode verifier header alg).bind fun wanted =>
        claimsUnder unicode pyjwt verifier token wanted.1 (keyFor wanted.2) := by
  simp only [acceptedClaims, wantedOf, claimsUnder, Option.bind_eq_bind, Option.bind_assoc,
    Option.pure_def, Option.bind_some]

theorem verifyToken_eq (keyFor : String → Option JsonObject) (token : String) :
    verifyToken unicode pyjwt keyFor verifier token = (do
      match ← wantedKey unicode pyjwt verifier token with
      | none => return none
      | some wanted => verifyUnder unicode pyjwt verifier token wanted.1 (keyFor wanted.2)) := by
  unfold verifyToken wantedKey
  cases pyjwt.getUnverifiedHeader token with
  | none => rfl
  | some header =>
      simp only [acceptedClaims_eq]
      cases ((Dict.get? header "alg").getD .null).hashable with
      | false => rfl
      | true =>
          cases wantedOf unicode verifier header ((Dict.get? header "alg").getD .null) with
          | none => rfl
          | some wanted => rfl

/-- A key is asked for under an accepted algorithm only. -/
theorem allowed_of_wantedKey {unicode : PyUnicode} {pyjwt : PyJwt Key}
    {verifier : JwtTokenVerifier} {token algorithm kid : String}
    (wanted : wantedKey unicode pyjwt verifier token = .ok (some (algorithm, kid))) :
    algorithm ∈ verifier.allowedAlgorithms := by
  unfold wantedKey at wanted
  dsimp only at wanted
  split at wanted
  · cases wanted
  case h_2 header _ =>
    split at wanted
    · cases wanted
    · have named := Except.ok.inj wanted
      simp only [wantedOf, Option.bind_eq_bind, Option.bind_eq_some_iff, Option.guard_eq_some',
        Option.pure_def, Option.some.injEq, Prod.mk.injEq] at named
      rcases named with ⟨_, _, _, allowed, _, _, _, _, _, _, rfl, _⟩
      exact allowed

end JwtTokenVerifier

end Verify

/-- An execution that awaits its transport, for the call of a name. -/
structure Job where
  name : String
  adapter : TransportAdapter
  execution : Execution

/-- What the checks of a call come to. -/
inductive Admission where
  | answers (outcome : CallOutcome)
  | executes (job : Job)

section Admit

variable (isPrintable : Char → Bool) (validate : Validator)

/-- `ToolInvoker.call` up to `execute`. -/
def ToolInvoker.admission (invoker : ToolInvoker TransportAdapter) (name : String)
    (arguments : Option JsonObject) (principal : Option Principal) : Admission :=
  match Dict.get? invoker.toolset.byName name with
  | none => .answers (.ok (unknownTool isPrintable name))
  | some operation =>
      let args := arguments.getD []
      match validate args operation.inputSchema with
      | .raised => .answers (.error .validator)
      | .invalid absolutePath message =>
          .answers (.ok (invalidArguments isPrintable name absolutePath message))
      | .valid =>
          let caller := invoker.effectivePrincipal principal
          let decision := PolicyEngine.evaluate invoker.policy operation caller
          if !decision.allowed then
            .answers (.ok (authorizationDenied isPrintable name decision))
          else
            match Dict.get? invoker.transports operation.upstream with
            | none => .answers (.ok (noTransport isPrintable operation.upstream))
            | some adapter =>
                .executes {
                  name
                  adapter
                  execution :=
                    { operation
                      arguments := args
                      carry := decision.carry
                      subjectToken := caller.subjectToken
                      subjectTokenExpiresAt := caller.subjectTokenExpiresAt } }

/-- `on_call_tool` up to `execute`. -/
def admitCall (app : App) (config : McpPortalConfig) (accessToken : Option AccessToken)
    (request : CallToolRequest) : Admission :=
  match config.server.transport with
  | .stdio => app.invoker.admission isPrintable validate request.name request.arguments none
  | .http =>
      match principalForRequest config accessToken with
      | .error error => .answers (.error (.config error))
      | .ok none => .answers (.ok (deniedResult isPrintable request.name))
      | .ok (some principal) =>
          app.invoker.admission isPrintable validate request.name request.arguments (some principal)

/-- The outcome that the answer of the transport makes. -/
def Job.outcome (job : Job) (answer : Transporting ToolCallResult) : CallOutcome :=
  ToolInvoker.resultOf isPrintable job.name job.execution.operation.upstream answer

/-- What is left of a call once its execution is answered. -/
def Admission.traced (network : Network) : Admission → Traced Execution CallOutcome
  | .answers outcome => .silent outcome
  | .executes job =>
      .act job.execution
        (job.outcome isPrintable (job.adapter.execute isPrintable network job.execution))

variable (network : Network)

theorem ToolInvoker.call_eq_admission (invoker : ToolInvoker TransportAdapter) (name : String)
    (arguments : Option JsonObject) (principal : Option Principal) :
    invoker.call isPrintable validate (TransportAdapter.execute isPrintable network) name arguments
        principal =
      (invoker.admission isPrintable validate name arguments principal).traced isPrintable network := by
  unfold ToolInvoker.call ToolInvoker.admission
  cases Dict.get? invoker.toolset.byName name with
  | none => rfl
  | some operation =>
      simp only
      cases validate (arguments.getD []) operation.inputSchema with
      | raised => rfl
      | invalid absolutePath message => rfl
      | valid =>
          simp only
          split
          · rfl
          · cases Dict.get? invoker.transports operation.upstream <;> rfl

theorem onCallTool_eq_admitCall (app : App) (config : McpPortalConfig)
    (accessToken : Option AccessToken) (request : CallToolRequest) :
    onCallTool isPrintable validate network app config accessToken request =
      (admitCall isPrintable validate app config accessToken request).traced isPrintable
        network := by
  unfold onCallTool admitCall
  cases config.server.transport with
  | stdio => exact ToolInvoker.call_eq_admission ..
  | http =>
      simp only [httpOnCallTool]
      cases principalForRequest config accessToken with
      | error error => rfl
      | ok principal =>
          cases principal with
          | none => rfl
          | some principal => exact ToolInvoker.call_eq_admission ..

/-- A job is for the named call, by the adapter of its upstream. -/
theorem ToolInvoker.admit_executes {invoker : ToolInvoker TransportAdapter} {name : String}
    {arguments : Option JsonObject} {principal : Option Principal} {job : Job}
    (admitted : invoker.admission isPrintable validate name arguments principal = .executes job) :
    job.name = name ∧
      Dict.get? invoker.transports job.execution.operation.upstream = some job.adapter := by
  unfold ToolInvoker.admission at admitted
  split at admitted
  · cases admitted
  · dsimp only at admitted
    split at admitted
    · cases admitted
    · cases admitted
    · split at admitted
      · cases admitted
      · split at admitted
        · cases admitted
        case h_2 adapter found =>
          cases admitted
          exact ⟨rfl, found⟩

end Admit

section Mediation

variable {unicode : PyUnicode} {suffix : String → String} {introspect : IntrospectUpstreams}
  {loaded : LoadedConfig} {app : App}

/-- A call that comes to an execution was published, validated and authorized. -/
theorem mediated_of_admitCall (validate : Validator)
    (built : buildApp unicode suffix introspect loaded = .ok app)
    {accessToken : Option AccessToken} {request : CallToolRequest} {job : Job}
    (admitted : admitCall unicode.isPrintable validate app loaded.config accessToken request =
      .executes job) :
    Mediated validate loaded app accessToken request job.execution ∧ job.name = request.name ∧
      Dict.get? app.invoker.transports job.execution.operation.upstream = some job.adapter := by
  have silent : Network :=
    { acquireToken := fun _ _ _ _ => .error .other, send := fun _ _ _ => .error .other }
  have guarded := onCallTool_guarded validate silent built accessToken request
  rw [onCallTool_eq_admitCall, admitted] at guarded
  refine ⟨guarded.2 job.execution (List.mem_singleton_self _), ?_⟩
  unfold admitCall at admitted
  split at admitted
  · exact ToolInvoker.admit_executes _ _ admitted
  · split at admitted
    · cases admitted
    · cases admitted
    · exact ToolInvoker.admit_executes _ _ admitted

end Mediation

/-- What a credential source asks the token cache for, unless it has its credential. -/
def CredentialSource.demand (source : CredentialSource) (execution : Execution) :
    Option Credential ⊕ CredentialRequest :=
  match source with
  | .static credential => .inl credential
  | .clientCredentials outbound _ upstreamKey =>
      .inr (.clientCredentials { outbound, upstreamKey } execution.carry)
  | .tokenExchange outbound _ upstreamKey =>
      .inr (.tokenExchange
        { tokenEndpoint := (outbound.tokenEndpoint.map (·.text)).getD ""
          scopes := outbound.scopes
          upstreamKey }
        execution.carry execution.subjectToken execution.subjectTokenExpiresAt)

section Execute

variable (isPrintable : Char → Bool) (network : Network)

theorem CredentialSource.get_of_static {source : CredentialSource} {execution : Execution}
    {credential : Option Credential} (has : source.demand execution = .inl credential) :
    source.get network execution = .ok credential := by
  cases source with
  | static _ =>
      cases has
      rfl
  | clientCredentials => cases has
  | tokenExchange => cases has

/-- A token of the cache becomes the credential. -/
theorem CredentialSource.get_of_acquired {source : CredentialSource} {execution : Execution}
    {request : CredentialRequest} {token : String}
    (asks : source.demand execution = .inr request) (hasKey : request.HasKey)
    (acquired : network.acquireToken source execution.carry execution.subjectToken
      execution.subjectTokenExpiresAt = .ok token) :
    source.get network execution = .ok (some (bearerCredential token)) := by
  cases source with
  | static => cases asks
  | clientCredentials outbound secrets upstreamKey =>
      simp only [get, acquired]
      rfl
  | tokenExchange outbound clientSecret upstreamKey =>
      cases asks
      have given : execution.subjectToken ≠ none := hasKey rfl
      simp only [get, acquired, if_neg given]
      rfl

/-- A failure to acquire a token is that of the source. -/
theorem CredentialSource.get_of_failed {source : CredentialSource} {execution : Execution}
    {request : CredentialRequest} {failure : TransportFailure}
    (asks : source.demand execution = .inr request) (hasKey : request.HasKey)
    (failed : network.acquireToken source execution.carry execution.subjectToken
      execution.subjectTokenExpiresAt = .error failure) :
    source.get network execution = .error failure := by
  cases source with
  | static => cases asks
  | clientCredentials outbound secrets upstreamKey =>
      simp only [get, failed]
      rfl
  | tokenExchange outbound clientSecret upstreamKey =>
      cases asks
      have given : execution.subjectToken ≠ none := hasKey rfl
      simp only [get, failed, if_neg given]
      rfl

/-- Without a subject token there is nothing to exchange. -/
theorem CredentialSource.get_of_not_hasKey {source : CredentialSource} {execution : Execution}
    {request : CredentialRequest} (asks : source.demand execution = .inr request)
    (hasNot : ¬request.HasKey) :
    source.get network execution = .error (.outboundError noSubjectToken) := by
  cases source with
  | static => cases asks
  | clientCredentials =>
      cases asks
      exact absurd (fun isExchange => by cases isExchange) hasNot
  | tokenExchange outbound clientSecret upstreamKey =>
      cases asks
      have missing : execution.subjectToken = none := by
        by_contra given
        exact hasNot fun _ => given
      simp only [get, missing, if_true]
      rfl

instance (adapter : TransportAdapter) (binding : PyCall.CalledBinding) :
    Decidable (PyCall.Serves adapter binding) := by
  cases adapter <;> cases binding <;> unfold PyCall.Serves <;> infer_instance

/-- A transport for the protocol of the operation executes it, and no other does. -/
theorem TransportAdapter.execute_eq (adapter : TransportAdapter) (execution : Execution) :
    adapter.execute isPrintable network execution =
      if PyCall.Serves adapter (.ofChecked execution.operation.binding) then
        adapter.settings.execute isPrintable network execution fun credential =>
          operationRequest isPrintable execution.operation adapter.settings.baseUrl
            execution.arguments credential
      else throw .other := by
  cases adapter with
  | http settings =>
      cases isBinding : execution.operation.binding <;>
        simp [execute, HttpTransport.execute, operationRequest, isBinding, PyCall.CalledBinding.ofChecked,
          PyCall.Serves, TransportAdapter.settings]
  | graphQl settings =>
      cases isBinding : execution.operation.binding <;>
        simp [execute, GraphQlTransport.execute, operationRequest, isBinding, PyCall.CalledBinding.ofChecked,
          PyCall.Serves, TransportAdapter.settings]
  | protocolRouting settings =>
      cases isBinding : execution.operation.binding <;>
        simp [execute, HttpTransport.execute, GraphQlTransport.execute, operationRequest,
          isBinding, PyCall.Serves, TransportAdapter.settings]

end Execute

end McpPortal
