import McpPortal.Auth.JwksKeys
import McpPortal.Server.Admission
import McpPortal.Transports.Sending

/-!
# The server and its calls

Any number of tool calls share the key set of the identity provider and the token cache. A call
runs without interruption until it waits: for its verification key, for a token, for the response
of its upstream, or for the time of the next attempt. What answers from outside, and when, is left
open.
-/

namespace McpPortal

open Foundation

namespace Service

/-- Names one tool call, in both caches too. -/
abbrev CallId := Nat

/-- A request as it arrives, with the text of its bearer token. -/
structure Arrival where
  bearer : Option String := none
  request : CallToolRequest

/-- One attempt at the request of a job. The attempts of a job start with the first. -/
structure Sent where
  call : CallId
  job : Job
  credential : Option Credential
  request : PreparedRequest
  attempt : Nat
  started : Rat
  sentAt : Rat

/-- The attempt that follows. -/
def Sent.again (sent : Sent) (now : Rat) : Sent :=
  { sent with attempt := sent.attempt + 1, sentAt := now }

/-- Where a call is. -/
inductive Stage where
  | idle
  | verifying (token algorithm : String) (request : CallToolRequest)
  | acquiring (job : Job)
  | sending (sent : Sent)
  | pausing (sent : Sent)
  | unauthorized
  | raised
  | answered (outcome : CallOutcome)

/-- The attempt whose outcome or successor a call waits for. -/
def Stage.sent? : Stage → Option Sent
  | .sending sent => some sent
  | .pausing sent => some sent
  | _ => none

/-- The two caches and the calls, with the replies that brought keys and all that was sent. -/
structure State where
  keys : JwksCache.State := {}
  credentials : Acquire.State := {}
  arrivals : CallId → Option Arrival := fun _ => none
  stages : CallId → Stage := fun _ => .idle
  keyReplies : List JwksCache.Reply := []
  sent : List Sent := []

/-- What comes from outside. -/
inductive Action where
  | arrive (call : CallId) (arrival : Arrival)
  | keyLockTaken (call : CallId)
  | keysReplied (call : CallId) (reply : JwksCache.Reply)
  | tokenLockTaken (call : CallId)
  | tokenReplied (call : CallId) (reply : TokenReply)
  | tokenFailed (call : CallId) (failure : TransportFailure)
  | attempted (call : CallId) (outcome : Outcome) (drawn : Rat)
  | attemptFailed (call : CallId) (message : String)
  | woken (call : CallId)
  | tick (elapsed : Rat)

/-- What a server is built of, and the libraries it calls. The middleware of the SDK may still
turn a verified token away. -/
structure Portal (Key : Type) where
  unicode : PyUnicode
  validate : Validator
  pyjwt : PyJwt Key
  hash : PyHash
  parseFloat : String → Except String Rat
  wallOffset : Rat
  wire : WireText
  middleware : Rat → VerifiedToken → Bool
  loaded : LoadedConfig
  app : App

variable {Key : Type} (portal : Portal Key)

namespace Portal

def config : McpPortalConfig := portal.loaded.config

def isPrintable : Char → Bool := portal.unicode.isPrintable

def world : Acquire.World where
  isPrintable := portal.isPrintable
  hash := portal.hash
  parseFloat := portal.parseFloat
  wallOffset := portal.wallOffset

/-- The verifier that `_InboundVerifier` resolves to. -/
def verifier : JwtTokenVerifier where
  issuer := (portal.config.inbound.issuer.map (·.text)).getD ""
  audience := portal.config.inbound.audience.getD ""
  algorithms := portal.config.inbound.algorithms
  requiredScopes := portal.config.inbound.requiredScopes
  leewayS := portal.config.inbound.leewayS.value

/-- What the transport of an operation maps its responses with. -/
def map (job : Job) : ResponseMap :=
  match job.execution.operation.binding with
  | .http _ => HttpTransport.map portal.wire job.adapter.settings.upstream
  | .graphQl _ => GraphQlTransport.map portal.wire job.adapter.settings.upstream

/-- What `execute` returns or raises once no attempt follows. -/
def resultOf (job : Job) (outcome : Outcome) : Transporting ToolCallResult :=
  (outcome.result (portal.map job)).map MappedResponse.toolResult

/-- What a fetch raises of a reply that it cannot use. -/
def mintFailure : TokenRaised → TransportFailure
  | .outbound error => .outboundError (error.message portal.isPrintable)
  | _ => .other

end Portal

instance (config : McpPortalConfig) : Decidable config.authenticates := by
  unfold McpPortalConfig.authenticates
  infer_instance

namespace State

variable (state : State)

def setStage (call : CallId) (stage : Stage) : State :=
  { state with stages := Function.update state.stages call stage }

/-- `time.monotonic()`. -/
def now : Rat := state.credentials.tracked.state.now

/-- What `ToolInvoker.call` makes of the end of an execution. -/
def answer (call : CallId) (job : Job) (result : Transporting ToolCallResult) : State :=
  state.setStage call (.answered (job.outcome portal.isPrintable result))

/-- `self._client.request(...)`. -/
def send (sent : Sent) : State :=
  { state with sent := sent :: state.sent }.setStage sent.call (.sending sent)

/-- With its credential a transport builds the request, and sends it if that succeeds and the
timeout is a float. -/
def prepare (call : CallId) (job : Job) (credential : Option Credential) : State :=
  match operationRequest portal.isPrintable job.execution.operation job.adapter.settings.baseUrl
      job.execution.arguments credential with
  | .error raised => state.answer portal call job (.error (buildFailure portal.isPrintable raised))
  | .ok request =>
      match secondsOf job.adapter.settings.upstream.timeoutMs with
      | .error _ => state.answer portal call job (.error .other)
      | .ok _ =>
          state.send
            { call, job, credential, request, attempt := 0, started := state.now
              sentAt := state.now }

/-- Where the token cache has left a call. A request without a key has not reached it. -/
def acquired (call : CallId) (job : Job) (failure : TransportFailure) : State :=
  match state.credentials.tracked.state.calls call with
  | .returned token => state.prepare portal call job (some (bearerCredential token))
  | .failed => state.answer portal call job (.error failure)
  | .idle => state.answer portal call job (.error (.outboundError noSubjectToken))
  | _ => state.setStage call (.acquiring job)

/-- `execute` of the adapter. -/
def execute (call : CallId) (job : Job) : Option State :=
  if ¬PyCall.Serves job.adapter (.ofChecked job.execution.operation.binding) then
    some (state.answer portal call job (.error .other))
  else
    match job.adapter.settings.credentialSource.demand job.execution with
    | .inl credential => some (state.prepare portal call job credential)
    | .inr request =>
        (Acquire.step portal.world state.credentials (.get call request)).map fun credentials =>
          { state with credentials }.acquired portal call job .other

/-- `on_call_tool`, with the token the request was authorized with. -/
def onCallTool (call : CallId) (accessToken : Option AccessToken) (request : CallToolRequest) :
    Option State :=
  match admitCall portal.isPrintable portal.validate portal.app portal.config accessToken
      request with
  | .answers outcome => some (state.setStage call (.answered outcome))
  | .executes job => state.execute portal call job

/-- Where the key set has left the verification of a token. -/
def keyed (call : CallId) (token algorithm : String) (request : CallToolRequest) : Option State :=
  match state.keys.calls call with
  | .returned jwk =>
      match portal.verifier.verifyUnder portal.unicode portal.pyjwt token algorithm jwk with
      | .error _ => some (state.setStage call .raised)
      | .ok none => some (state.setStage call .unauthorized)
      | .ok (some verified) =>
          if portal.middleware state.now verified then
            state.onCallTool portal call (some verified.toAccessToken) request
          else some (state.setStage call .unauthorized)
  | .raised => some (state.setStage call .raised)
  | _ => some (state.setStage call (.verifying token algorithm request))

/-- A request up to its first await. -/
def arrive (call : CallId) (arrival : Arrival) : Option State :=
  let state := { state with arrivals := Function.update state.arrivals call (some arrival) }
  if ¬portal.config.authenticates then state.onCallTool portal call none arrival.request
  else
    match arrival.bearer with
    | none => some (state.setStage call .unauthorized)
    | some token =>
        match portal.verifier.wantedKey portal.unicode portal.pyjwt token with
        | .error _ => some (state.setStage call .raised)
        | .ok none => some (state.setStage call .unauthorized)
        | .ok (some (algorithm, kid)) =>
            (JwksCache.step state.keys (.start call kid)).bind fun keys =>
              { state with keys }.keyed portal call token algorithm arrival.request

/-- The end of an attempt: its outcome is final, or the next attempt is paused for. -/
def attempted (sent : Sent) (outcome : Outcome) (drawn : Rat) : State :=
  let upstream := sent.job.adapter.settings.upstream
  let result := portal.resultOf sent.job outcome
  if !outcome.isRetryable ||
      sent.attempt + 1 = attemptCount sent.job.execution.operation.effect then
    state.answer portal sent.call sent.job result
  else
    match upstream.waitForRetry portal.wire sent.started state.now sent.attempt outcome.response?
        drawn with
    | .spent => state.answer portal sent.call sent.job result
    | .raises _ => state.answer portal sent.call sent.job (.error .other)
    | .sleeps _ => state.setStage sent.call (.pausing sent)

end State

def step (state : State) : Action → Option State
  | .arrive call arrival =>
      match state.arrivals call with
      | some _ => none
      | none => state.arrive portal call arrival
  | .keyLockTaken call =>
      match state.stages call with
      | .verifying token algorithm request =>
          (JwksCache.step state.keys (.resume call)).bind fun keys =>
            { state with keys }.keyed portal call token algorithm request
      | _ => none
  | .keysReplied call reply =>
      match state.stages call with
      | .verifying token algorithm request =>
          (JwksCache.step state.keys (.replied call reply)).bind fun keys =>
            { state with keys, keyReplies := reply :: state.keyReplies }.keyed portal call token
              algorithm request
      | _ => none
  | .tokenLockTaken call =>
      match state.stages call with
      | .acquiring job =>
          (Acquire.step portal.world state.credentials (.resume call)).map fun credentials =>
            { state with credentials }.acquired portal call job .other
      | _ => none
  | .tokenReplied call reply =>
      match state.stages call, state.credentials.requestOf call with
      | .acquiring job, some request =>
          let failure :=
            match request.mint portal.parseFloat (state.now + portal.wallOffset) reply with
            | .error raised => portal.mintFailure raised
            | .ok _ => .other
          (Acquire.step portal.world state.credentials (.replied call reply)).map fun credentials =>
            { state with credentials }.acquired portal call job failure
      | _, _ => none
  | .tokenFailed call failure =>
      match state.stages call with
      | .acquiring job =>
          (Acquire.step portal.world state.credentials (.unanswered call)).map fun credentials =>
            { state with credentials }.acquired portal call job failure
      | _ => none
  | .attempted call outcome drawn =>
      match state.stages call with
      | .sending sent => some (state.attempted portal sent outcome drawn)
      | _ => none
  | .attemptFailed call message =>
      match state.stages call with
      | .sending sent => some (state.answer portal call sent.job (.error (.requestError message)))
      | _ => none
  | .woken call =>
      match state.stages call with
      | .pausing sent => some (state.send (sent.again state.now))
      | _ => none
  | .tick elapsed =>
      (JwksCache.step state.keys (.tick elapsed)).bind fun keys =>
        (Acquire.step portal.world state.credentials (.tick elapsed)).map fun credentials =>
          { state with keys, credentials }

def machine : Machine State Action where
  start := {}
  step := step portal

end Service

end McpPortal
