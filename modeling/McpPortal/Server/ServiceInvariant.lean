import McpPortal.Auth.AcquireSteps
import McpPortal.Auth.JwksProgress
import McpPortal.Auth.TokenProgress
import McpPortal.Server.Service

/-!
# What holds of every call

A call in a stage was admitted for its own caller, whose token a key of the identity provider
vouches for, and is entitled to the credential that its requests carry. Its attempts so far are
those of one loop. What a call goes on to is shown here for each function it passes through.
-/

namespace McpPortal

open Foundation

namespace Service

variable {Key : Type} (portal : Portal Key)

/-- The token decodes under a key that one of the replies lists, and passes every check. -/
structure Vouched (replies : List JwksCache.Reply) (token : String) (verified : VerifiedToken) :
    Prop where
  decodes : ∃ algorithm kid jwk key claims,
    (∃ reply ∈ replies, reply.Provides kid jwk) ∧
      algorithm ∈ portal.config.inbound.algorithms ∧ algorithm ≠ "none" ∧
      portal.pyjwt.keyFromDict jwk algorithm = some key ∧
      portal.pyjwt.decode (portal.verifier.decodeRequest token key algorithm) = some claims ∧
      (∀ scope ∈ portal.config.inbound.requiredScopes,
        scope ∈ scopesFromClaims portal.unicode claims) ∧
      portal.verifier.accessToken portal.unicode token claims = .ok verified

/-- Whom a call is made by: anyone where nothing is authenticated, else the holder of its token. -/
inductive Caller (replies : List JwksCache.Reply) (arrival : Arrival) : Option AccessToken → Prop
  | anyone (open_ : ¬portal.config.authenticates) : Caller replies arrival none
  | bearer {token : String} {verified : VerifiedToken} (closed : portal.config.authenticates)
      (presented : arrival.bearer = some token) (vouched : Vouched portal replies token verified) :
      Caller replies arrival (some verified.toAccessToken)

/-- The job was admitted for the request of the call and its own caller. -/
def Assigned (state : State) (call : CallId) (job : Job) : Prop :=
  ∃ arrival accessToken, state.arrivals call = some arrival ∧
    Caller portal state.keyReplies arrival accessToken ∧
    admitCall portal.isPrintable portal.validate portal.app portal.config accessToken
      arrival.request = .executes job

/-- The credential is the configured one of the upstream, or of a token that the cache has returned
to this call. -/
def Entitled (state : State) (call : CallId) (job : Job) (credential : Option Credential) : Prop :=
  match job.adapter.settings.credentialSource.demand job.execution with
  | .inl own => credential = own
  | .inr request => ∃ token, credential = some (bearerCredential token) ∧ request.HasKey ∧
      state.credentials.requestOf call = some request ∧
      state.credentials.calls call = .returned token

structure Justified (state : State) (sent : Sent) : Prop where
  assigned : Assigned portal state sent.call sent.job
  serves : PyCall.Serves sent.job.adapter (.ofChecked sent.job.execution.operation.binding)
  built : operationRequest portal.isPrintable sent.job.execution.operation
    sent.job.adapter.settings.baseUrl sent.job.execution.arguments sent.credential =
      .ok sent.request
  entitled : Entitled state sent.call sent.job sent.credential

/-- What was sent for a call, latest first. -/
def State.logOf (state : State) (call : CallId) : List Sent :=
  state.sent.filter fun sent => sent.call = call

def Sent.tries (sent : Sent) : Nat :=
  attemptCount sent.job.execution.operation.effect

/-- The attempts so far, of which this is the last. -/
structure Trying (state : State) (sent : Sent) : Prop where
  logged : (state.logOf sent.call).length = sent.attempt + 1
  same : ∀ other ∈ state.logOf sent.call, other.job = sent.job ∧ other.request = sent.request
  within : sent.attempt < sent.tries

/-- A call sends one request, and only so often. -/
def Thrifty (state : State) (call : CallId) : Prop :=
  ∀ first ∈ state.logOf call, (state.logOf call).length ≤ first.tries ∧
    ∀ second ∈ state.logOf call, second.job = first.job ∧ second.request = first.request

/-- The network as a job meets it: its upstream is sent to as its transport does it, or the
connection fails, and the tokens are of this kind. -/
structure Meets (job : Job) (Gets : String → Prop) (network : Network) : Prop where
  sends : ∀ effect request,
    (∃ message, network.send job.adapter.settings.upstream effect request =
      .error (.requestError message)) ∨
      ∃ attempts started, network.send job.adapter.settings.upstream effect request =
        ((sendAll portal.wire attempts job.adapter.settings.upstream request started effect).result
          (portal.map job)).map MappedResponse.toolResult
  acquires : ∀ {source carry subjectToken expiresAt token},
    network.acquireToken source carry subjectToken expiresAt = .ok token → Gets token

/-- The handler comes to the same outcome for the call when it is the only one. -/
def Alone (state : State) (call : CallId) (Gets : Job → String → Prop) (outcome : CallOutcome) :
    Prop :=
  ∃ arrival accessToken network, state.arrivals call = some arrival ∧
    Caller portal state.keyReplies arrival accessToken ∧
    (∀ job, admitCall portal.isPrintable portal.validate portal.app portal.config accessToken
      arrival.request = .executes job → Meets portal job (Gets job) network) ∧
    (McpPortal.onCallTool portal.isPrintable portal.validate network portal.app portal.config
      accessToken arrival.request).result = outcome

/-- The cache has returned the token to the call, for the request that the job makes. -/
def Returned (state : State) (call : CallId) (job : Job) (token : String) : Prop :=
  ∃ request, job.adapter.settings.credentialSource.demand job.execution = .inr request ∧
    request.HasKey ∧ state.credentials.requestOf call = some request ∧
    state.credentials.calls call = .returned token

/-- With these attempts the loop over all attempts ends as it does from this one on. -/
def Unrolled (sent : Sent) (attempts : Nat → Attempt) : Prop :=
  ∀ later : Nat → Attempt, (∀ attempt < sent.attempt, later attempt = attempts attempt) →
    (sendAll portal.wire later sent.job.adapter.settings.upstream sent.request sent.started
        sent.job.execution.operation.effect).ending =
      (sendFrom portal.wire later sent.job.adapter.settings.upstream sent.request sent.started
        (sent.tries - 1 - sent.attempt) sent.attempt sent.sentAt).ending

/-- The end of the attempt pays for another one. -/
structure Repeats (sent : Sent) (made : Attempt) : Prop where
  retryable : made.outcome.isRetryable = true
  more : sent.attempt + 1 < sent.tries
  funded : ∃ delay, sent.job.adapter.settings.upstream.waitForRetry portal.wire sent.started
    (sent.sentAt + made.duration) sent.attempt made.outcome.response? made.drawn = .sleeps delay

/-- What holds of a call in a stage. -/
def Placed (state : State) (call : CallId) : Stage → Prop
  | .idle => state.logOf call = []
  | .verifying token algorithm request =>
      state.logOf call = [] ∧ state.credentials.requestOf call = none ∧
        state.credentials.calls call = .idle ∧ portal.config.authenticates ∧
        ∃ arrival kid, state.arrivals call = some arrival ∧ arrival.bearer = some token ∧
          arrival.request = request ∧
          portal.verifier.wantedKey portal.unicode portal.pyjwt token =
            .ok (some (algorithm, kid)) ∧
          (state.keys.calls call = .waiting kid ∨ ∃ now, state.keys.calls call = .fetching kid now)
  | .acquiring job =>
      state.logOf call = [] ∧ Assigned portal state call job ∧
        PyCall.Serves job.adapter (.ofChecked job.execution.operation.binding) ∧
        (state.credentials.calls call).IsPending ∧
        ∃ request, job.adapter.settings.credentialSource.demand job.execution = .inr request ∧
          request.HasKey ∧ state.credentials.requestOf call = some request
  | .sending sent => sent.call = call ∧ sent ∈ state.logOf call ∧ Trying state sent ∧
      ∃ attempts, Unrolled portal sent attempts
  | .pausing sent => sent.call = call ∧ sent ∈ state.logOf call ∧ Trying state sent ∧
      ∃ attempts made, Unrolled portal sent attempts ∧ Repeats portal sent made
  | .unauthorized => state.logOf call = []
  | .raised => state.logOf call = []
  | .answered outcome =>
      Thrifty state call ∧ Alone portal state call (Returned state call) outcome

/-- A call waits in a cache only while its stage says so. -/
def Beside (state : State) (call : CallId) : Stage → Prop
  | .verifying _ _ _ => ¬(state.credentials.calls call).IsPending
  | .acquiring _ => ¬(state.keys.calls call).IsPending
  | _ => ¬(state.credentials.calls call).IsPending ∧ ¬(state.keys.calls call).IsPending

/-- The states agree in what concerns a call. -/
structure Agrees (call : CallId) (before after : State) : Prop where
  arrival : after.arrivals call = before.arrivals call
  key : after.keys.calls call = before.keys.calls call
  request : after.credentials.requestOf call = before.credentials.requestOf call
  credential : after.credentials.calls call = before.credentials.calls call
  log : after.logOf call = before.logOf call
  replies : ∀ reply ∈ before.keyReplies, reply ∈ after.keyReplies

structure Coherent (state : State) : Prop where
  requested : Acquire.Requested portal.world state.credentials
  provided : ∀ {kid jwk}, Dict.get? state.keys.keys kid = some jwk →
    ∃ reply ∈ state.keyReplies, reply.Provides kid jwk
  fresh : ∀ {call}, state.arrivals call = none → state.stages call = .idle ∧
    state.keys.calls call = .idle ∧ state.credentials.requestOf call = none ∧
      state.credentials.calls call = .idle
  placed : ∀ call, Placed portal state call (state.stages call)
  beside : ∀ call, Beside state call (state.stages call)
  justified : ∀ sent ∈ state.sent, Justified portal state sent

section Frames

variable {portal} {before after : State} {call : CallId}

theorem Vouched.mono {replies more : List JwksCache.Reply} {token : String}
    {verified : VerifiedToken} (vouched : Vouched portal replies token verified)
    (kept : ∀ reply ∈ replies, reply ∈ more) : Vouched portal more token verified := by
  rcases vouched.decodes with
    ⟨algorithm, kid, jwk, key, claims, ⟨reply, replyMem, provides⟩, decodes⟩
  exact ⟨algorithm, kid, jwk, key, claims, ⟨reply, kept reply replyMem, provides⟩, decodes⟩

theorem Caller.mono {replies more : List JwksCache.Reply} {arrival : Arrival}
    {accessToken : Option AccessToken} (caller : Caller portal replies arrival accessToken)
    (kept : ∀ reply ∈ replies, reply ∈ more) : Caller portal more arrival accessToken := by
  cases caller with
  | anyone open_ => exact .anyone open_
  | bearer closed presented vouched => exact .bearer closed presented (vouched.mono kept)

theorem Assigned.agrees {job : Job} (assigned : Assigned portal before call job)
    (agrees : Agrees call before after) : Assigned portal after call job := by
  rcases assigned with ⟨arrival, accessToken, arrived, caller, admitted⟩
  exact ⟨arrival, accessToken, agrees.arrival ▸ arrived, caller.mono agrees.replies, admitted⟩

theorem Entitled.agrees {job : Job} {credential : Option Credential}
    (entitled : Entitled before call job credential) (agrees : Agrees call before after) :
    Entitled after call job credential := by
  unfold Entitled at entitled ⊢
  rwa [agrees.request, agrees.credential]

theorem Justified.agrees {sent : Sent} (justified : Justified portal before sent)
    (agrees : Agrees sent.call before after) : Justified portal after sent :=
  ⟨justified.assigned.agrees agrees, justified.serves, justified.built,
    justified.entitled.agrees agrees⟩

theorem Trying.agrees {sent : Sent} (trying : Trying before sent)
    (agrees : Agrees sent.call before after) : Trying after sent := by
  rcases trying with ⟨logged, same, within⟩
  rw [← agrees.log] at logged same
  exact ⟨logged, same, within⟩

theorem Returned.agrees {job : Job} {token : String} (returned : Returned before call job token)
    (agrees : Agrees call before after) : Returned after call job token := by
  unfold Returned at returned ⊢
  rwa [agrees.request, agrees.credential]

/-- The tokens of a call may be said to be more than what they are known to be. -/
theorem Alone.mono {Gets GetsToo : Job → String → Prop} {outcome : CallOutcome}
    (alone : Alone portal before call Gets outcome) (agrees : Agrees call before after)
    (kept : ∀ job token, Gets job token → GetsToo job token) :
    Alone portal after call GetsToo outcome := by
  rcases alone with ⟨arrival, accessToken, network, arrived, caller, meets, comes⟩
  refine ⟨arrival, accessToken, network, agrees.arrival ▸ arrived, caller.mono agrees.replies, ?_,
    comes⟩
  intro job admitted
  have met := meets job admitted
  exact ⟨met.sends, fun acquired => kept job _ (met.acquires acquired)⟩

theorem Placed.agrees {stage : Stage} (placed : Placed portal before call stage)
    (agrees : Agrees call before after) : Placed portal after call stage := by
  cases stage with
  | idle => exact agrees.log.trans placed
  | unauthorized => exact agrees.log.trans placed
  | raised => exact agrees.log.trans placed
  | verifying token algorithm request =>
      unfold Placed at placed ⊢
      rwa [agrees.log, agrees.request, agrees.credential, agrees.arrival, agrees.key]
  | acquiring job =>
      rcases placed with ⟨silent, assigned, serves, pending, asks⟩
      refine ⟨agrees.log.trans silent, assigned.agrees agrees, serves, ?_, ?_⟩
      · rwa [agrees.credential]
      · rwa [agrees.request]
  | sending sent =>
      rcases placed with ⟨rfl, logged, trying, unrolled⟩
      exact ⟨rfl, agrees.log ▸ logged, trying.agrees agrees, unrolled⟩
  | pausing sent =>
      rcases placed with ⟨rfl, logged, trying, unrolled⟩
      exact ⟨rfl, agrees.log ▸ logged, trying.agrees agrees, unrolled⟩
  | answered outcome =>
      rcases placed with ⟨thrifty, alone⟩
      refine ⟨?_, alone.mono agrees fun _ _ returned => returned.agrees agrees⟩
      unfold Thrifty at thrifty ⊢
      rwa [agrees.log]

theorem Beside.agrees {stage : Stage} (beside : Beside before call stage)
    (agrees : Agrees call before after) : Beside after call stage := by
  cases stage <;> unfold Beside at beside ⊢ <;> rwa [agrees.credential, agrees.key] at *

theorem mem_logOf {state : State} {sent : Sent} :
    sent ∈ state.logOf call ↔ sent ∈ state.sent ∧ sent.call = call := by
  rw [State.logOf, List.mem_filter, decide_eq_true_iff]

/-- A step that moves one call keeps the invariant if it does so for that call. -/
theorem Coherent.advance (coherent : Coherent portal before) (call : CallId)
    (others : ∀ other, other ≠ call →
      Agrees other before after ∧ after.stages other = before.stages other)
    (requested : Acquire.Requested portal.world after.credentials)
    (provided : ∀ {kid jwk}, Dict.get? after.keys.keys kid = some jwk →
      ∃ reply ∈ after.keyReplies, reply.Provides kid jwk)
    (arrived : after.arrivals call ≠ none) (placed : Placed portal after call (after.stages call))
    (beside : Beside after call (after.stages call))
    (justified : ∀ sent ∈ after.logOf call, Justified portal after sent) :
    Coherent portal after := by
  refine ⟨requested, provided, ?_, ?_, ?_, ?_⟩
  · intro other absent
    by_cases same : other = call
    · rw [same] at absent
      exact absurd absent arrived
    · rcases others other same with ⟨agrees, stage⟩
      rw [agrees.arrival] at absent
      rw [stage, agrees.key, agrees.request, agrees.credential]
      exact coherent.fresh absent
  · intro other
    by_cases same : other = call
    · rwa [same]
    · rcases others other same with ⟨agrees, stage⟩
      rw [stage]
      exact (coherent.placed other).agrees agrees
  · intro other
    by_cases same : other = call
    · rwa [same]
    · rcases others other same with ⟨agrees, stage⟩
      rw [stage]
      exact (coherent.beside other).agrees agrees
  · intro sent sentMem
    by_cases same : sent.call = call
    · exact justified sent (mem_logOf.mpr ⟨sentMem, same⟩)
    · have agrees := (others sent.call same).1
      have logged : sent ∈ after.logOf sent.call := mem_logOf.mpr ⟨sentMem, rfl⟩
      rw [agrees.log] at logged
      exact (coherent.justified sent (mem_logOf.mp logged).1).agrees agrees

end Frames

/-- The call stops in a stage, or sends its request for the first time. -/
inductive Goes (state : State) (call : CallId) : State → Prop
  | stops {stage : Stage} (isStop : stage.sent? = none) (placed : Placed portal state call stage)
      (beside : Beside state call stage) : Goes state call (state.setStage call stage)
  | sends {sent : Sent} (isCall : sent.call = call) (isFirst : sent.attempt = 0)
      (atOnce : sent.sentAt = sent.started)
      (timed : ∃ timeout, secondsOf sent.job.adapter.settings.upstream.timeoutMs = .ok timeout)
      (justified : Justified portal state sent)
      (beside : Beside state call (.sending sent)) : Goes state call (state.send sent)

section Goes

variable {portal} {state next : State} {call : CallId}

theorem agrees_setStage (other : CallId) (stage : Stage) :
    Agrees other state (state.setStage call stage) :=
  ⟨rfl, rfl, rfl, rfl, rfl, fun _ replyMem => replyMem⟩

theorem stages_setStage_of_ne {other : CallId} (different : other ≠ call) (stage : Stage) :
    (state.setStage call stage).stages other = state.stages other :=
  Function.update_of_ne different ..

theorem stages_setStage (stage : Stage) : (state.setStage call stage).stages call = stage :=
  Function.update_self ..

theorem logOf_send (sent : Sent) (other : CallId) :
    (state.send sent).logOf other =
      if sent.call = other then sent :: state.logOf other else state.logOf other := by
  simp only [State.send, State.setStage, State.logOf, List.filter_cons, decide_eq_true_eq]

theorem agrees_send {sent : Sent} {other : CallId} (different : other ≠ sent.call) :
    Agrees other state (state.send sent) := by
  refine ⟨rfl, rfl, rfl, rfl, ?_, fun _ replyMem => replyMem⟩
  rw [logOf_send, if_neg different.symm]

theorem attemptCount_pos (effect : Effect) : 0 < attemptCount effect := by
  cases effect <;> decide

/-- Nothing is unrolled yet when the loop starts. -/
theorem unrolled_first {sent : Sent} (isFirst : sent.attempt = 0)
    (atOnce : sent.sentAt = sent.started)
    (timed : ∃ timeout, secondsOf sent.job.adapter.settings.upstream.timeoutMs = .ok timeout)
    (attempts : Nat → Attempt) : Unrolled portal sent attempts := by
  rcases timed with ⟨timeout, isTimeout⟩
  intro later _
  rw [sendAll, isTimeout, isFirst, atOnce, Nat.sub_zero]
  rfl

theorem Goes.others (goes : Goes portal state call next) {other : CallId}
    (different : other ≠ call) :
    Agrees other state next ∧ next.stages other = state.stages other := by
  cases goes with
  | stops => exact ⟨agrees_setStage .., stages_setStage_of_ne different _⟩
  | sends isCall =>
      subst isCall
      exact ⟨agrees_send different, Function.update_of_ne different ..⟩

theorem Goes.caches (goes : Goes portal state call next) :
    next.credentials = state.credentials ∧ next.keys = state.keys ∧
      next.arrivals = state.arrivals ∧ next.keyReplies = state.keyReplies := by
  cases goes <;> exact ⟨rfl, rfl, rfl, rfl⟩

theorem Goes.placed (goes : Goes portal state call next) (silent : state.logOf call = []) :
    Placed portal next call (next.stages call) := by
  cases goes with
  | stops _ placed =>
      rw [stages_setStage]
      exact placed.agrees (agrees_setStage ..)
  | @sends sent isCall isFirst atOnce timed justified _ =>
      subst isCall
      have logged : (state.send sent).logOf sent.call = [sent] := by
        rw [logOf_send, if_pos rfl, silent]
      have isStage : (state.send sent).stages sent.call = .sending sent := stages_setStage _
      rw [isStage]
      refine ⟨rfl, ?_, ⟨?_, ?_, ?_⟩, fun _ => { outcome := .timedOut, duration := 0, drawn := 0 },
        unrolled_first isFirst atOnce timed _⟩
      · rw [logged]
        exact List.mem_singleton_self _
      · rw [logged, isFirst]
        rfl
      · intro other otherMem
        rw [logged, List.mem_singleton] at otherMem
        rw [otherMem]
        exact ⟨rfl, rfl⟩
      · rw [isFirst]
        exact attemptCount_pos _

theorem Goes.beside (goes : Goes portal state call next) :
    Beside next call (next.stages call) := by
  cases goes with
  | stops _ _ beside =>
      rw [stages_setStage]
      exact beside.agrees (agrees_setStage ..)
  | @sends sent isCall _ _ _ _ beside =>
      subst isCall
      have isStage : (state.send sent).stages sent.call = .sending sent := stages_setStage _
      rw [isStage]
      exact beside

theorem Goes.justified (goes : Goes portal state call next) (silent : state.logOf call = []) :
    ∀ sent ∈ next.logOf call, Justified portal next sent := by
  cases goes with
  | stops =>
      intro sent sentMem
      have before : sent ∈ state.logOf call := sentMem
      rw [silent] at before
      cases before
  | @sends first isCall isFirst atOnce _ justified _ =>
      subst isCall
      intro sent sentMem
      rw [logOf_send, if_pos rfl, silent, List.mem_singleton] at sentMem
      subst sentMem
      have sameCaller : Assigned portal (state.send sent) sent.call sent.job := justified.assigned
      exact ⟨sameCaller, justified.serves, justified.built, justified.entitled⟩

end Goes

/-- The outside as one call has met it. -/
def met (acquired : Transporting String)
    (send : UpstreamConfig → Effect → PreparedRequest → Transporting ToolCallResult) : Network where
  acquireToken _ _ _ _ := acquired
  send := send

/-- Nothing is reached. -/
def unreachable : UpstreamConfig → Effect → PreparedRequest → Transporting ToolCallResult :=
  fun _ _ _ => .error (.requestError "")

theorem meets_unreachable (job : Job) {Gets : String → Prop} {acquired : Transporting String}
    (gets : ∀ {token}, acquired = .ok token → Gets token) :
    Meets portal job Gets (met acquired unreachable) :=
  ⟨fun _ _ => Or.inl ⟨_, rfl⟩, gets⟩

/-- What the transport would have sent with these attempts. -/
def Portal.sending (job : Job) (attempts : Nat → Attempt) (started : Rat) :
    UpstreamConfig → Effect → PreparedRequest → Transporting ToolCallResult :=
  fun _ effect request =>
    ((sendAll portal.wire attempts job.adapter.settings.upstream request started effect).result
      (portal.map job)).map MappedResponse.toolResult

theorem meets_sending (job : Job) (attempts : Nat → Attempt) (started : Rat)
    {Gets : String → Prop} {acquired : Transporting String}
    (gets : ∀ {token}, acquired = .ok token → Gets token) :
    Meets portal job Gets (met acquired (portal.sending job attempts started)) :=
  ⟨fun _ _ => Or.inr ⟨attempts, started, rfl⟩, gets⟩

/-- A failed fetch gives no token. -/
theorem gets_error {Gets : String → Prop} {failure : TransportFailure} {token : String}
    (acquired : (.error failure : Transporting String) = .ok token) : Gets token := by
  cases acquired

section Continues

variable {portal} {state next : State} {call : CallId} {job : Job}

/-- An answer of the transport is an outcome of the handler. -/
theorem Assigned.alone (assigned : Assigned portal state call job) {network : Network}
    (meets : Meets portal job (Returned state call job) network)
    {result : Transporting ToolCallResult}
    (ran : job.adapter.execute portal.isPrintable network job.execution = result) :
    Alone portal state call (Returned state call) (job.outcome portal.isPrintable result) := by
  rcases assigned with ⟨arrival, accessToken, arrived, caller, admitted⟩
  refine ⟨arrival, accessToken, network, arrived, caller, ?_, ?_⟩
  · intro other alsoAdmitted
    cases admitted.symm.trans alsoAdmitted
    exact meets
  · rw [onCallTool_eq_admitCall, admitted, ← ran]
    rfl

/-- The cache returns what the call is entitled to. -/
theorem Entitled.exists_acquired {credential : Option Credential}
    (entitled : Entitled state call job credential) :
    ∃ acquired, (∀ {token}, acquired = .ok token → Returned state call job token) ∧ ∀ send,
      job.adapter.settings.credentialSource.get (met acquired send) job.execution =
        .ok credential := by
  unfold Entitled at entitled
  split at entitled
  case h_1 own has =>
    subst entitled
    exact ⟨.error .other, gets_error, fun send => CredentialSource.get_of_static _ has⟩
  case h_2 request asks =>
    rcases entitled with ⟨token, rfl, hasKey, isRequest, returned⟩
    refine ⟨.ok token, ?_, fun send => CredentialSource.get_of_acquired _ asks hasKey rfl⟩
    rintro _ ⟨⟩
    exact ⟨request, asks, hasKey, isRequest, returned⟩

/-- What the transport answers once it has its credential. -/
theorem execute_of_get {network : Network} {credential : Option Credential}
    (serves : PyCall.Serves job.adapter (.ofChecked job.execution.operation.binding))
    (got : job.adapter.settings.credentialSource.get network job.execution = .ok credential) :
    job.adapter.execute portal.isPrintable network job.execution =
      ((operationRequest portal.isPrintable job.execution.operation job.adapter.settings.baseUrl
        job.execution.arguments credential).mapError (buildFailure portal.isPrintable)).bind
          fun request => network.send job.adapter.settings.upstream
            job.execution.operation.effect request := by
  rw [TransportAdapter.execute_eq, if_pos serves, TransportSettings.execute, got]
  rfl

/-- A failure of the credential source is one of the transport. -/
theorem execute_of_get_error {network : Network} {failure : TransportFailure}
    (serves : PyCall.Serves job.adapter (.ofChecked job.execution.operation.binding))
    (got : job.adapter.settings.credentialSource.get network job.execution = .error failure) :
    job.adapter.execute portal.isPrintable network job.execution = .error failure := by
  rw [TransportAdapter.execute_eq, if_pos serves, TransportSettings.execute, got]
  rfl

/-- The call waits in neither cache. -/
def Resting (state : State) (call : CallId) : Prop :=
  ¬(state.credentials.calls call).IsPending ∧ ¬(state.keys.calls call).IsPending

theorem goes_answer {result : Transporting ToolCallResult} (silent : state.logOf call = [])
    (resting : Resting state call)
    (alone : Alone portal state call (Returned state call)
      (job.outcome portal.isPrintable result)) :
    Goes portal state call (state.answer portal call job result) := by
  refine .stops rfl ⟨?_, alone⟩ resting
  intro first firstMem
  rw [silent] at firstMem
  cases firstMem

theorem goes_prepare {credential : Option Credential} (silent : state.logOf call = [])
    (resting : Resting state call)
    (assigned : Assigned portal state call job)
    (serves : PyCall.Serves job.adapter (.ofChecked job.execution.operation.binding))
    (entitled : Entitled state call job credential) :
    Goes portal state call (state.prepare portal call job credential) := by
  rcases entitled.exists_acquired with ⟨acquired, returned, gets⟩
  unfold State.prepare
  cases built : operationRequest portal.isPrintable job.execution.operation
      job.adapter.settings.baseUrl job.execution.arguments credential with
  | error raised =>
      apply goes_answer silent resting
      apply assigned.alone (meets_unreachable portal job returned)
      rw [execute_of_get serves (gets _), built]
      rfl
  | ok request =>
      dsimp only
      cases timed : secondsOf job.adapter.settings.upstream.timeoutMs with
      | ok timeout =>
          exact .sends rfl rfl rfl ⟨timeout, timed⟩ ⟨assigned, serves, built, entitled⟩ resting
      | error error =>
          let never : Nat → Attempt := fun _ => { outcome := .timedOut, duration := 0, drawn := 0 }
          apply goes_answer silent resting
          apply assigned.alone (meets_sending portal job never 0 returned)
          rw [execute_of_get serves (gets _), built]
          change portal.sending job never 0 job.adapter.settings.upstream
            job.execution.operation.effect request = _
          rw [Portal.sending, sendAll, timed]
          rfl

theorem goes_acquired {failure : TransportFailure} {request : CredentialRequest}
    (silent : state.logOf call = []) (verified : ¬(state.keys.calls call).IsPending)
    (assigned : Assigned portal state call job)
    (serves : PyCall.Serves job.adapter (.ofChecked job.execution.operation.binding))
    (asks : job.adapter.settings.credentialSource.demand job.execution = .inr request)
    (isRequest : state.credentials.requestOf call = some request)
    (keyed : request.HasKey ↔ state.credentials.calls call ≠ .idle) :
    Goes portal state call (state.acquired portal call job failure) := by
  unfold State.acquired
  split
  case h_1 token returned =>
    have hasKey : request.HasKey := keyed.mpr (by rw [Acquire.State.calls, returned]; exact nofun)
    have ended : ¬(state.credentials.calls call).IsPending := by
      rw [Acquire.State.calls, returned]
      exact fun pending => pending.2.2 token rfl
    apply goes_prepare silent ⟨ended, verified⟩ assigned serves
    unfold Entitled
    rw [asks]
    exact ⟨token, rfl, hasKey, isRequest, returned⟩
  case h_2 failed =>
    have hasKey : request.HasKey := keyed.mpr (by rw [Acquire.State.calls, failed]; exact nofun)
    have ended : ¬(state.credentials.calls call).IsPending := by
      rw [Acquire.State.calls, failed]
      exact fun pending => pending.2.1 rfl
    apply goes_answer silent ⟨ended, verified⟩
    apply assigned.alone (meets_unreachable portal job gets_error)
    exact execute_of_get_error serves (CredentialSource.get_of_failed _ asks hasKey rfl)
  case h_3 idle =>
    have hasNot : ¬request.HasKey := fun hasKey => keyed.mp hasKey idle
    have unasked : ¬(state.credentials.calls call).IsPending := fun pending => pending.1 idle
    apply goes_answer silent ⟨unasked, verified⟩
    apply assigned.alone (meets_unreachable portal job (@gets_error _ .other))
    exact execute_of_get_error serves (CredentialSource.get_of_not_hasKey _ asks hasNot)
  case h_4 notReturned notFailed notIdle =>
    have pending : (state.credentials.calls call).IsPending :=
      ⟨notIdle, notFailed, notReturned⟩
    exact .stops rfl ⟨silent, assigned, serves, pending, request, asks, keyed.mpr notIdle, isRequest⟩
      verified

end Continues

/-- A job of the call asks for this credential. -/
def Asks (state : State) (call : CallId) (request : CredentialRequest) : Prop :=
  ∃ job, Assigned portal state call job ∧
    job.adapter.settings.credentialSource.demand job.execution = .inr request

/-- The call goes on, perhaps after it has asked the token cache. -/
def Reaches (state : State) (call : CallId) (next : State) : Prop :=
  ∃ credentials, (credentials = state.credentials ∨
    ∃ request, Asks portal state call request ∧
      Acquire.step portal.world state.credentials (.get call request) = some credentials) ∧
    Goes portal { state with credentials } call next

section Reaches

variable {portal} {state next : State} {call : CallId}

theorem reaches_of_goes (goes : Goes portal state call next) : Reaches portal state call next :=
  ⟨state.credentials, Or.inl rfl, goes⟩

/-- Nothing has been sent for the call, and its credential has not been asked for. -/
structure Untouched (state : State) (call : CallId) : Prop where
  silent : state.logOf call = []
  unasked : state.credentials.calls call = .idle

theorem Untouched.resting {state : State} {call : CallId} (untouched : Untouched state call)
    (verified : ¬(state.keys.calls call).IsPending) : Resting state call :=
  ⟨fun pending => pending.1 untouched.unasked, verified⟩

theorem reaches_execute {job : Job} (untouched : Untouched state call)
    (verified : ¬(state.keys.calls call).IsPending)
    (assigned : Assigned portal state call job)
    (executed : state.execute portal call job = some next) : Reaches portal state call next := by
  unfold State.execute at executed
  split at executed
  case isTrue refuses =>
    cases executed
    apply reaches_of_goes
    apply goes_answer untouched.silent (untouched.resting verified)
    apply assigned.alone (meets_unreachable portal job (@gets_error _ .other))
    rw [TransportAdapter.execute_eq, if_neg refuses]
    rfl
  case isFalse notRefuses =>
    have serves := not_not.mp notRefuses
    split at executed
    case h_1 credential has =>
      cases executed
      apply reaches_of_goes
      apply goes_prepare untouched.silent (untouched.resting verified) assigned serves
      unfold Entitled
      rw [has]
    case h_2 request asks =>
      rcases Option.map_eq_some_iff.mp executed with ⟨credentials, asked, rfl⟩
      refine ⟨credentials, Or.inr ⟨request, ⟨job, assigned, asks⟩, asked⟩, ?_⟩
      have untouchedLog : ({ state with credentials } : State).logOf call = [] := untouched.silent
      have stillAssigned : Assigned portal { state with credentials } call job := assigned
      rcases Acquire.step_get asked with ⟨_, requests, ⟨hasNot, same⟩ | ⟨hasKey, key, _, steps⟩⟩
      · apply goes_acquired untouchedLog verified stillAssigned serves asks
        · exact (congrFun requests call).trans (Function.update_self ..)
        · have idle : credentials.calls call = .idle := by
            rw [Acquire.State.calls, same]
            exact untouched.unasked
          exact iff_of_false hasNot (fun started => started idle)
      · apply goes_acquired untouchedLog verified stillAssigned serves asks
        · exact (congrFun requests call).trans (Function.update_self ..)
        · exact iff_of_true hasKey (Acquire.ne_idle_of_steps steps rfl)

theorem reaches_onCallTool {arrival : Arrival} {accessToken : Option AccessToken}
    (untouched : Untouched state call) (verified : ¬(state.keys.calls call).IsPending)
    (arrived : state.arrivals call = some arrival)
    (caller : Caller portal state.keyReplies arrival accessToken)
    (called : state.onCallTool portal call accessToken arrival.request = some next) :
    Reaches portal state call next := by
  unfold State.onCallTool at called
  split at called
  case h_1 outcome answers =>
    cases called
    apply reaches_of_goes
    refine .stops rfl ⟨?_, arrival, accessToken, met (.error .other) unreachable, arrived, caller,
      fun job _ => meets_unreachable portal job gets_error, ?_⟩ (untouched.resting verified)
    · intro first firstMem
      rw [untouched.silent] at firstMem
      cases firstMem
    · rw [onCallTool_eq_admitCall, answers]
      rfl
  case h_2 job admitted =>
    have assigned : Assigned portal state call job :=
      ⟨arrival, accessToken, arrived, caller, admitted⟩
    exact reaches_execute untouched verified assigned called

/-- What verification accepts is vouched for by the key it was given. -/
theorem vouched_of_verifyUnder {replies : List JwksCache.Reply} {token algorithm kid : String}
    {jwk : Option JsonObject} {verified : VerifiedToken}
    (wanted : portal.verifier.wantedKey portal.unicode portal.pyjwt token =
      .ok (some (algorithm, kid)))
    (provided : ∀ {key}, jwk = some key → ∃ reply ∈ replies, reply.Provides kid key)
    (accepted : portal.verifier.verifyUnder portal.unicode portal.pyjwt token algorithm jwk =
      .ok (some verified)) : Vouched portal replies token verified := by
  have allowed := JwtTokenVerifier.allowed_of_wantedKey wanted
  rw [JwtTokenVerifier.allowedAlgorithms, List.mem_filter, decide_eq_true_iff] at allowed
  unfold JwtTokenVerifier.verifyUnder at accepted
  split at accepted
  · cases accepted
  case h_2 claims given =>
    simp only [JwtTokenVerifier.claimsUnder, Option.bind_eq_bind, Option.bind_eq_some_iff,
      Option.guard_eq_some', Option.pure_def, Option.some.injEq] at given
    rcases given with ⟨isKey, found, key, fromDict, decoded, decodes, _, _, _, scopes, rfl⟩
    have minted : portal.verifier.accessToken portal.unicode token decoded = .ok verified := by
      cases isToken : portal.verifier.accessToken portal.unicode token decoded with
      | error raised =>
          rw [isToken] at accepted
          cases accepted
      | ok accessToken =>
          rw [isToken] at accepted
          cases accepted
          rfl
    refine ⟨algorithm, kid, isKey, key, decoded, provided found, allowed.1, allowed.2, fromDict,
      decodes, ?_, minted⟩
    intro scope required
    exact of_decide_eq_true (List.all_eq_true.mp scopes scope required)

theorem reaches_keyed {arrival : Arrival} {token algorithm kid : String}
    (untouched : Untouched state call) (unasked : state.credentials.requestOf call = none)
    (arrived : state.arrivals call = some arrival) (presented : arrival.bearer = some token)
    (closed : portal.config.authenticates)
    (wanted : portal.verifier.wantedKey portal.unicode portal.pyjwt token =
      .ok (some (algorithm, kid)))
    (isFor : (state.keys.calls call).IsFor state.keys.keys kid)
    (provided : ∀ {kid jwk}, Dict.get? state.keys.keys kid = some jwk →
      ∃ reply ∈ state.keyReplies, reply.Provides kid jwk)
    (keyed : state.keyed portal call token algorithm arrival.request = some next) :
    Reaches portal state call next := by
  unfold State.keyed at keyed
  split at keyed
  case h_1 jwk returned =>
    have ended : ¬(state.keys.calls call).IsPending := by
      rw [returned]
      exact fun pending => pending.2.2 jwk rfl
    rw [returned] at isFor
    split at keyed
    case h_1 error _ =>
      cases keyed
      exact reaches_of_goes (.stops rfl untouched.silent (untouched.resting ended))
    case h_2 =>
      cases keyed
      exact reaches_of_goes (.stops rfl untouched.silent (untouched.resting ended))
    case h_3 verified accepted =>
      split at keyed
      case isTrue =>
        apply reaches_onCallTool untouched ended arrived _ keyed
        apply Caller.bearer closed presented
        apply vouched_of_verifyUnder wanted _ accepted
        intro key isKey
        apply provided
        rw [← isFor, isKey]
      case isFalse =>
        cases keyed
        exact reaches_of_goes (.stops rfl untouched.silent (untouched.resting ended))
  case h_2 raises =>
    have ended : ¬(state.keys.calls call).IsPending := by
      rw [raises]
      exact fun pending => pending.2.1 rfl
    cases keyed
    exact reaches_of_goes (.stops rfl untouched.silent (untouched.resting ended))
  case h_3 notReturned notRaised =>
    cases keyed
    apply reaches_of_goes
    refine .stops rfl ⟨untouched.silent, unasked, untouched.unasked, closed, arrival, kid, arrived,
      presented, rfl, wanted, ?_⟩ (fun pending => pending.1 untouched.unasked)
    cases isCall : state.keys.calls call with
    | waiting asked =>
        rw [isCall] at isFor
        exact Or.inl (congrArg _ isFor)
    | fetching asked now =>
        rw [isCall] at isFor
        exact Or.inr ⟨now, congrArg (JwksCache.Call.fetching · now) isFor⟩
    | returned jwk => exact absurd isCall (notReturned jwk)
    | raised => exact absurd isCall notRaised
    | idle =>
        rw [isCall] at isFor
        cases isFor
    | running =>
        rw [isCall] at isFor
        cases isFor

end Reaches

end Service

end McpPortal
