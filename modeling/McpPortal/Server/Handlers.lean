import McpPortal.App

/-!
# Serving tool calls

The stdio server hands every call to the invoker. The HTTP server first resolves
the calling principal of the request: the local one when inbound authentication is
disabled, else the one of the access token the request was authorized with. A call
without such a principal is denied.

Complete mediation is the main result: whatever is called by whomever, a transport
executes at most once, and only what the tool set, the schema and the policy admit
for the principal in effect.
-/

namespace McpPortal

open Foundation

/-- The parameters of a `tools/call` request. -/
structure CallToolRequest where
  name : String
  arguments : Option JsonObject := none

/-- `_principal_for_request`; `none` denies. -/
def principalForRequest (config : McpPortalConfig) (accessToken : Option AccessToken) :
    Except ConfigError (Option Principal) :=
  if !config.inbound.enabled then some <$> localPrincipal config.localPrincipal
  else
    match accessToken with
    | none => return none
    | some accessToken => return principalFromAccessToken accessToken

section Serve

variable (isPrintable : Char → Bool) (validate : Validator) (network : Network)

/-- The caller learns that it was denied, never why. -/
def deniedResult (name : String) : CallToolResult :=
  errorResult ("authorization denied for " ++ reprString isPrintable name)

def App.call (app : App) (request : CallToolRequest) (principal : Option Principal) :
    Traced Execution CallOutcome :=
  app.invoker.call isPrintable validate (TransportAdapter.execute isPrintable network)
    request.name request.arguments principal

/-- `on_call_tool` of the stdio server. -/
def stdioOnCallTool (app : App) (request : CallToolRequest) : Traced Execution CallOutcome :=
  app.call isPrintable validate network request none

/-- `on_call_tool` of the HTTP server. -/
def httpOnCallTool (app : App) (config : McpPortalConfig) (accessToken : Option AccessToken)
    (request : CallToolRequest) : Traced Execution CallOutcome :=
  match principalForRequest config accessToken with
  | .error error => .silent (.error (.config error))
  | .ok none => .silent (.ok (deniedResult isPrintable request.name))
  | .ok (some principal) => app.call isPrintable validate network request (some principal)

/-- The handler of the transport the configuration names. -/
def onCallTool (app : App) (config : McpPortalConfig) (accessToken : Option AccessToken)
    (request : CallToolRequest) : Traced Execution CallOutcome :=
  match config.server.transport with
  | .stdio => stdioOnCallTool isPrintable validate network app request
  | .http => httpOnCallTool isPrintable validate network app config accessToken request

end Serve

/-- Requests carry a verified access token. -/
def McpPortalConfig.authenticates (config : McpPortalConfig) : Prop :=
  config.server.transport = .http ∧ config.inbound.enabled = true

/-- The principal in effect: of the token where requests carry one, else the local one. -/
inductive InEffect (config : McpPortalConfig) (accessToken : Option AccessToken) :
    Principal → Prop where
  | asserted {details : List AuthorizationDetail} (unauthenticated : ¬config.authenticates)
      (parsed : parseAuthorizationDetails
        (.arr (config.localPrincipal.authorizationDetails.map .obj)) = .ok details) :
      InEffect config accessToken { identity := "local", authorizationDetails := details }
  | verified {token : AccessToken} {details : List AuthorizationDetail}
      (authenticated : config.authenticates) (presented : accessToken = some token)
      (parsed : parseAuthorizationDetails (rawTokenDetails token) = .ok details) :
      InEffect config accessToken
        { identity := tokenIdentity token
          authorizationDetails := details
          subjectToken := some token.token
          subjectTokenExpiresAt := token.expiresAt }

/-- Every detail of every matching rule is covered by one single detail of the principal,
and where no matching rule requires anything the default allows. -/
structure Authorized (policy : PolicyConfig) (operation : Operation) (principal : Principal) :
    Prop where
  covered : ∀ rule ∈ policy.rules, ruleMatches operation rule.spec = true →
    ∀ required ∈ rule.details, ∃ presented ∈ principal.authorizationDetails,
      coversOne required presented = true
  allowedByDefault : (∀ rule ∈ policy.rules, ruleMatches operation rule.spec = true →
    rule.details = []) → policy.defaults.unmatched = .allow

/-- An execution that a call may lead to. -/
structure Mediated (validate : Validator) (loaded : LoadedConfig) (app : App)
    (accessToken : Option AccessToken) (request : CallToolRequest) (execution : Execution) :
    Prop where
  published : ∃ tool ∈ app.invoker.tools, tool.name = request.name ∧
    tool = toMcpTool execution.operation ∧
    execution.operation ∈ app.invoker.toolset.operations ∧
    validate execution.arguments tool.inputSchema = .valid
  given : execution.arguments = request.arguments.getD []
  authorized : ∃ principal, InEffect loaded.config accessToken principal ∧
    Authorized loaded.effectivePolicy execution.operation principal ∧
    execution.carry =
      (PolicyEngine.evaluate loaded.effectivePolicy execution.operation principal).carry ∧
    execution.subjectToken = principal.subjectToken ∧
    execution.subjectTokenExpiresAt = principal.subjectTokenExpiresAt

theorem authorized_iff_allowed {policy : PolicyConfig} {operation : Operation}
    {principal : Principal} :
    Authorized policy operation principal ↔
      (PolicyEngine.evaluate policy operation principal).allowed = true := by
  have nothing_iff : PolicyEngine.required policy operation = [] ↔
      ∀ rule ∈ policy.rules, ruleMatches operation rule.spec = true → rule.details = [] := by
    simp only [List.eq_nil_iff_forall_not_mem, PolicyEngine.mem_required, not_exists, not_and]
    exact ⟨fun nothing rule ruleMem applies detail => nothing detail rule ruleMem applies,
      fun nothing detail rule ruleMem applies => nothing rule ruleMem applies detail⟩
  rw [PolicyEngine.allowed_iff]
  constructor
  · rintro ⟨covered, allowedByDefault⟩
    by_cases nothing : PolicyEngine.required policy operation = []
    · exact Or.inl ⟨nothing, allowedByDefault (nothing_iff.mp nothing)⟩
    · refine Or.inr ⟨nothing, ?_⟩
      intro detail required
      rcases PolicyEngine.mem_required.mp required with ⟨rule, ruleMem, applies, detailMem⟩
      exact List.any_eq_true.mpr (covered rule ruleMem applies detail detailMem)
  · rintro (⟨nothing, allowedByDefault⟩ | ⟨something, covered⟩)
    · refine ⟨?_, fun _ => allowedByDefault⟩
      intro rule ruleMem applies required detailMem
      rw [nothing_iff.mp nothing rule ruleMem applies] at detailMem
      cases detailMem
    · refine ⟨?_, fun nothing => absurd (nothing_iff.mpr nothing) something⟩
      intro rule ruleMem applies required detailMem
      have needed := PolicyEngine.mem_required.mpr ⟨rule, ruleMem, applies, detailMem⟩
      exact List.any_eq_true.mp (covered required needed)

section Mediation

variable {unicode : PyUnicode} {suffix : String → String} {introspect : IntrospectUpstreams}
  {loaded : LoadedConfig} {app : App}

/-- There is at most one principal in effect. -/
theorem InEffect.unique {config : McpPortalConfig} {accessToken : Option AccessToken}
    {first second : Principal} (firstInEffect : InEffect config accessToken first)
    (secondInEffect : InEffect config accessToken second) : first = second := by
  cases firstInEffect with
  | asserted unauthenticated parsed =>
      cases secondInEffect with
      | asserted _ alsoParsed =>
          rw [parsed] at alsoParsed
          cases alsoParsed
          rfl
      | verified authenticated => exact absurd authenticated unauthenticated
  | verified authenticated presented parsed =>
      cases secondInEffect with
      | asserted unauthenticated => exact absurd authenticated unauthenticated
      | verified _ alsoPresented alsoParsed =>
          rw [presented] at alsoPresented
          cases alsoPresented
          rw [parsed] at alsoParsed
          cases alsoParsed
          rfl

theorem inEffect_of_localPrincipal {config : McpPortalConfig} {accessToken : Option AccessToken}
    {principal : Principal} (unauthenticated : ¬config.authenticates)
    (built : localPrincipal config.localPrincipal = .ok principal) :
    InEffect config accessToken principal := by
  rcases localPrincipal_ok built with ⟨details, parsed, rfl⟩
  exact .asserted unauthenticated parsed

/-- The principal the HTTP handler resolves is the one in effect. -/
theorem inEffect_of_principalForRequest {config : McpPortalConfig}
    {accessToken : Option AccessToken} {principal : Principal}
    (overHttp : config.server.transport = .http)
    (resolved : principalForRequest config accessToken = .ok (some principal)) :
    InEffect config accessToken principal := by
  unfold principalForRequest at resolved
  split at resolved
  case isTrue disabled =>
    cases built : localPrincipal config.localPrincipal with
    | error error =>
        rw [built] at resolved
        cases resolved
    | ok local_ =>
        rw [built] at resolved
        cases resolved
        apply inEffect_of_localPrincipal _ built
        rintro ⟨_, enabled⟩
        rw [enabled] at disabled
        cases disabled
  case isFalse notDisabled =>
    have enabled : config.inbound.enabled = true := by simpa using notDisabled
    split at resolved
    · cases resolved
    case h_2 token =>
      rcases principalFromAccessToken_eq_some (Except.ok.inj resolved) with ⟨details, parsed, rfl⟩
      exact .verified ⟨overHttp, enabled⟩ rfl parsed

/-- What the invoker admits for the principal in effect is mediated. -/
theorem mediated_of_admits {validate : Validator} {accessToken : Option AccessToken}
    {request : CallToolRequest} {principal : Principal} {execution : Execution}
    (samePolicy : app.invoker.policy = loaded.effectivePolicy)
    (inEffect : InEffect loaded.config accessToken principal)
    (admitted : app.invoker.Admits validate request.name request.arguments principal execution) :
    Mediated validate loaded app accessToken request execution := by
  have routed := app.invoker.exists_tool_of_routed admitted.routed
  have allowed := admitted.allowed
  have carried := admitted.carried
  rw [samePolicy] at allowed carried
  constructor
  · refine ⟨toMcpTool execution.operation, routed.1, routed.2.1, rfl, ?_, admitted.validated⟩
    exact (app.invoker.toolset.get?_byName_iff.mp admitted.routed).1
  · exact admitted.given
  · refine ⟨principal, inEffect, authorized_iff_allowed.mpr allowed, carried, ?_, ?_⟩
    · exact admitted.subjectToken
    · exact admitted.subjectTokenExpiresAt

theorem onCallTool_guarded (validate : Validator) (network : Network)
    (built : buildApp unicode suffix introspect loaded = .ok app)
    (accessToken : Option AccessToken) (request : CallToolRequest) :
    (onCallTool unicode.isPrintable validate network app loaded.config accessToken request).Guarded
      (Mediated validate loaded app accessToken request) := by
  rcases buildApp_ok built with ⟨samePolicy, resolvedPrincipal, _⟩
  have guarded (principal : Option Principal) := app.invoker.call_guarded unicode.isPrintable
    validate (TransportAdapter.execute unicode.isPrintable network) request.name request.arguments
    principal
  unfold onCallTool
  split
  case h_1 overStdio =>
    apply (guarded none).mono
    intro execution admitted
    apply mediated_of_admits samePolicy _ admitted
    rw [appPrincipal, overStdio] at resolvedPrincipal
    apply inEffect_of_localPrincipal _ (mapError_eq_ok.mp resolvedPrincipal)
    rintro ⟨overHttp, _⟩
    rw [overStdio] at overHttp
    cases overHttp
  case h_2 overHttp =>
    unfold httpOnCallTool
    split
    · exact Traced.guarded_silent _
    · exact Traced.guarded_silent _
    case h_3 principal resolved =>
      apply (guarded (some principal)).mono
      intro execution admitted
      apply mediated_of_admits samePolicy _ admitted
      exact inEffect_of_principalForRequest overHttp resolved

/-- Where requests are authenticated, one without a token or with malformed details is denied. -/
theorem onCallTool_denied (validate : Validator) (network : Network)
    {accessToken : Option AccessToken} (authenticated : loaded.config.authenticates)
    (unusable : ∀ token, accessToken = some token → ¬WellFormedDetails (rawTokenDetails token))
    (request : CallToolRequest) :
    onCallTool unicode.isPrintable validate network app loaded.config accessToken request =
      .silent (.ok (deniedResult unicode.isPrintable request.name)) := by
  have nobody : principalForRequest loaded.config accessToken = .ok none := by
    cases accessToken with
    | none => simp [principalForRequest, authenticated.2, pure, Except.pure]
    | some token =>
        have malformed := principalFromAccessToken_eq_none_iff.mpr (unusable token rfl)
        simp [principalForRequest, authenticated.2, malformed, pure, Except.pure]
  rw [onCallTool, authenticated.1]
  simp only [httpOnCallTool, nobody]

/--
Complete mediation: every call makes at most one execution, which was published,
validated, and authorized for the principal in effect, whose decision and token it
carries. An authenticated server denies a request without a usable token.
-/
theorem onCallTool_mediated (built : buildApp unicode suffix introspect loaded = .ok app)
    (validate : Validator) (network : Network) (accessToken : Option AccessToken)
    (request : CallToolRequest) :
    let answer :=
      onCallTool unicode.isPrintable validate network app loaded.config accessToken request
    answer.actions.length ≤ 1 ∧
      (∀ execution ∈ answer.actions,
        Mediated validate loaded app accessToken request execution) ∧
      (loaded.config.authenticates →
        (∀ token, accessToken = some token → ¬WellFormedDetails (rawTokenDetails token)) →
        answer.actions = [] ∧
          answer.result = .ok (deniedResult unicode.isPrintable request.name)) := by
  have guarded := onCallTool_guarded validate network built accessToken request
  refine ⟨guarded.1, guarded.2, ?_⟩
  intro authenticated unusable
  rw [onCallTool_denied validate network authenticated unusable request]
  exact ⟨rfl, rfl⟩

section Transfers

private def transfers : LoadedConfig where
  config :=
    { mode := .configured
      unsafeModeRequiresAcknowledgement := configured_is_safe
      unauthenticatedHttpIsGuarded := by decide
      server := { name := "portal", transport := .http }
      upstreams :=
        [ ("bank",
            { baseUrl := some { text := "https://bank.example" }
              positive := positive_defaultLimits }) ]
      operations :=
        [ { id := "transfer"
            upstream := "bank"
            description := "Transfer."
            binding := .http { method := "POST", path := "/transfers" } } ]
      inbound := .issuedBy { text := "https://login.example" } "https://portal.example" }
  policy := some (.ofRules
    [ { spec := { ids := ["transfer"] }
        require := some (.ofType "payment")
        outbound := { carry := true } } ])

private def payer : AccessToken where
  token := "token"
  clientId := "client"
  claims := some [("authorization_details", .arr [.obj [("type", .str "payment")]])]

private def requiredPresent : Validator := fun arguments schema =>
  match ((Dict.get? schema "required").bind Json.strings?).getD [] |>.find? fun name =>
      name ∉ Dict.keys arguments with
  | none => .valid
  | some name => .invalid [] ("'" ++ name ++ "' is a required property")

private def answering : Network where
  acquireToken _ _ _ _ := .error .timeout
  send _ _ _ := .ok { status := 200, text := "done" }

private def noIntrospection : IntrospectUpstreams := fun _ => .error .assertionError

/-- The call of a holder of the required detail is executed, with the detail carried. -/
theorem onCallTool_mediated_transfer :
    ∃ app, buildApp asciiTables (fun _ => "000000") noIntrospection transfers = .ok app ∧
      let answer := onCallTool asciiTables.isPrintable requiredPresent answering app
        transfers.config (some payer) { name := "transfer" }
      answer.actions.map (·.carry) = [[{ type := "payment" }]] ∧
        answer.result.toOption = some { text := "done", isError := false } ∧
        ∀ execution ∈ answer.actions, Mediated requiredPresent transfers app (some payer)
          { name := "transfer" } execution := by
  cases built : buildApp asciiTables (fun _ => "000000") noIntrospection transfers with
  | error error =>
      have started : (buildApp asciiTables (fun _ => "000000") noIntrospection
        transfers).isOk = true := by decide +kernel
      rw [built] at started
      cases started
  | ok app =>
      have executed : (buildApp asciiTables (fun _ => "000000") noIntrospection
          transfers).toOption.map (fun app =>
            let answer := onCallTool asciiTables.isPrintable requiredPresent answering app
              transfers.config (some payer) { name := "transfer" }
            (answer.actions.map (·.carry), answer.result.toOption)) =
          some ([[{ type := "payment" }]], some { text := "done", isError := false }) := by
        decide +kernel
      rw [built] at executed
      have mediated := onCallTool_mediated built requiredPresent answering (some payer)
        { name := "transfer" }
      have pairs := Prod.mk.inj (Option.some.inj executed)
      exact ⟨app, rfl, pairs.1, pairs.2, mediated.2.1⟩

end Transfers

/-- However many calls are made, by whomever, each execution belongs to one of them. -/
theorem session_mediated (built : buildApp unicode suffix introspect loaded = .ok app)
    (validate : Validator) (network : Network)
    (calls : List (Option AccessToken × CallToolRequest)) :
    let served := Traced.session (fun call : Option AccessToken × CallToolRequest =>
      onCallTool unicode.isPrintable validate network app loaded.config call.1 call.2) calls
    served.actions.length ≤ calls.length ∧
      ∀ execution ∈ served.actions, ∃ call ∈ calls,
        Mediated validate loaded app call.1 call.2 execution := by
  apply Traced.guarded_session
  intro call
  exact onCallTool_guarded validate network built call.1 call.2

end Mediation

end McpPortal
