import McpPortal.Server.ServiceSteps

/-!
# What the server lets out

Whatever is sent to an upstream, in any interleaving of any number of calls, is sent for a call
whose token a key of the identity provider vouches for, which was published, validated and
authorized for its own caller, and with the credential that this caller is entitled to. So is
whatever is asked of a token endpoint, and every answer is one that the call would get alone.
-/

namespace McpPortal

open Foundation

namespace Service

variable {Key : Type} {portal : Portal Key} {state : State} {call : CallId}

theorem Coherent.thrifty (coherent : Coherent portal state) (call : CallId) :
    Thrifty state call := by
  have placed := coherent.placed call
  have silent : state.logOf call = [] → Thrifty state call := by
    intro nothing first firstMem
    rw [nothing] at firstMem
    cases firstMem
  cases isStage : state.stages call with
  | idle =>
      rw [isStage] at placed
      exact silent placed
  | verifying token algorithm request =>
      rw [isStage] at placed
      exact silent placed.1
  | acquiring job =>
      rw [isStage] at placed
      exact silent placed.1
  | sending sent =>
      rw [isStage] at placed
      exact placed.2.2.1.thrifty placed.1
  | pausing sent =>
      rw [isStage] at placed
      exact placed.2.2.1.thrifty placed.1
  | unauthorized =>
      rw [isStage] at placed
      exact silent placed
  | raised =>
      rw [isStage] at placed
      exact silent placed
  | answered outcome =>
      rw [isStage] at placed
      exact placed.1

/-- A token that a reply has minted for a request with the same cache key. -/
structure MintedFor (portal : Portal Key) (state : State) (request : CredentialRequest)
    (token : String) : Prop where
  minted : ∃ fetcher other reply storedAt ttlSeconds,
    state.credentials.requestOf fetcher = some other ∧ request.Collides portal.hash other ∧
      state.credentials.replyOf fetcher = some reply ∧
      other.mint portal.parseFloat (storedAt + portal.wallOffset) reply = .ok (token, ttlSeconds)

/-- The credential is the configured one, or a token of the upstream's own token endpoint. -/
def Rightful (portal : Portal Key) (state : State) (sent : Sent) : Prop :=
  match sent.job.adapter.settings.credentialSource.demand sent.job.execution with
  | .inl own => sent.credential = own
  | .inr request => ∃ token, sent.credential = some (bearerCredential token) ∧
      MintedFor portal state request token

theorem mintedFor_of_returned {request : CredentialRequest} {token : String}
    (requested : Acquire.Requested portal.world state.credentials) (hasKey : request.HasKey)
    (isRequest : state.credentials.requestOf call = some request)
    (returned : state.credentials.calls call = .returned token) :
    MintedFor portal state request token := by
  rcases requested.known.served returned with ⟨fetcher, time, minted, serves⟩
  rcases requested.replied serves.isMinted with ⟨other, reply, isOther, isReply, mints⟩
  rcases requested.mintedKey serves.isMinted with ⟨key, fetcherKey⟩
  rcases requested.keyed fetcherKey with ⟨same, isSame, otherKey⟩
  cases isOther.symm.trans isSame
  rcases requested.keyed (serves.sameKey.symm.trans fetcherKey) with ⟨own, isOwn, ownKey⟩
  cases isRequest.symm.trans isOwn
  rw [serves.sameToken] at mints
  refine ⟨fetcher, other, reply, minted.storedAt, minted.ttlSeconds, isOther, ?_, isReply, mints⟩
  exact CredentialRequest.collides_of_cacheKey_eq _ _ hasKey (ownKey.trans otherKey.symm)

theorem Justified.rightful {sent : Sent} (justified : Justified portal state sent)
    (requested : Acquire.Requested portal.world state.credentials) :
    Rightful portal state sent := by
  have entitled := justified.entitled
  unfold Entitled at entitled
  unfold Rightful
  revert entitled
  cases asks : sent.job.adapter.settings.credentialSource.demand sent.job.execution with
  | inl own => exact id
  | inr request =>
      rintro ⟨token, isToken, hasKey, isRequest, returned⟩
      exact ⟨token, isToken, mintedFor_of_returned requested hasKey isRequest returned⟩

/-- What a job rests on: a caller, and a mediated execution on an adapter of its upstream. -/
structure Cleared (portal : Portal Key) (state : State) (call : CallId) (job : Job) : Prop where
  cleared : ∃ arrival accessToken, state.arrivals call = some arrival ∧
    Caller portal state.keyReplies arrival accessToken ∧
    Mediated portal.validate portal.loaded portal.app accessToken arrival.request job.execution ∧
    Dict.get? portal.app.invoker.transports job.execution.operation.upstream = some job.adapter

variable {suffix : String → String} {introspect : IntrospectUpstreams}

theorem Assigned.cleared {job : Job} (assigned : Assigned portal state call job)
    (built : buildApp portal.unicode suffix introspect portal.loaded = .ok portal.app) :
    Cleared portal state call job := by
  rcases assigned with ⟨arrival, accessToken, arrived, caller, admitted⟩
  have mediated := mediated_of_admitCall portal.validate built admitted
  exact ⟨arrival, accessToken, arrived, caller, mediated.1, mediated.2.2⟩

/--
Whatever has been sent, in any run, was sent for a call with a caller and a mediated execution. It
is the request of that execution, carries the credential due to it, and is sent again only as often
as its effect allows.
-/
theorem sent_guarded_of_reached
    (built : buildApp portal.unicode suffix introspect portal.loaded = .ok portal.app)
    (reached : (machine portal).Reached state) {sent : Sent} (sentMem : sent ∈ state.sent) :
    Cleared portal state sent.call sent.job ∧ Rightful portal state sent ∧
      operationRequest portal.isPrintable sent.job.execution.operation
          sent.job.adapter.settings.baseUrl sent.job.execution.arguments sent.credential =
        .ok sent.request ∧
      (state.logOf sent.call).length ≤ attemptCount sent.job.execution.operation.effect ∧
      ∀ other ∈ state.logOf sent.call, other.request = sent.request := by
  have coherent := coherent_of_reached reached
  have justified := coherent.justified sent sentMem
  have thrifty := coherent.thrifty sent.call sent (mem_logOf.mpr ⟨sentMem, rfl⟩)
  refine ⟨justified.assigned.cleared built, justified.rightful coherent.requested, justified.built,
    thrifty.1, ?_⟩
  exact fun other otherMem => (thrifty.2 other otherMem).2

/--
Whoever asks a token endpoint does so for a call with a caller and a mediated execution, and asks
for what this execution carries.
-/
theorem fetching_guarded_of_reached
    (built : buildApp portal.unicode suffix introspect portal.loaded = .ok portal.app)
    (reached : (machine portal).Reached state) {key : String} {lock : TokenCache.LockId}
    (fetching : state.credentials.calls call = .fetching key lock) :
    ∃ job request, Cleared portal state call job ∧
      job.adapter.settings.credentialSource.demand job.execution = .inr request ∧
      request.carry = job.execution.carry ∧
      request.cacheKey portal.isPrintable portal.hash = .ok key ∧ state.logOf call = [] := by
  have coherent := coherent_of_reached reached
  have placed := coherent.placed call
  have beside := coherent.beside call
  have pending : (state.credentials.calls call).IsPending := by
    rw [fetching]
    exact ⟨nofun, nofun, nofun⟩
  cases isStage : state.stages call with
  | acquiring job =>
      rw [isStage] at placed
      rcases placed with ⟨silent, assigned, _, _, request, asks, _, isRequest⟩
      have located : (state.credentials.calls call).place = some (key, lock) := by
        rw [fetching]
        rfl
      rcases coherent.requested.keyed (coherent.requested.known.placed located) with
        ⟨other, isOther, isKey⟩
      cases isRequest.symm.trans isOther
      refine ⟨job, request, assigned.cleared built, asks, ?_, isKey, silent⟩
      unfold CredentialSource.demand at asks
      split at asks <;> cases asks <;> rfl
  | verifying token algorithm request =>
      rw [isStage] at beside
      exact absurd pending beside
  | _ =>
      rw [isStage] at beside
      exact absurd pending beside.1

/-- A reply has minted the token for a request like the one that the job makes. -/
def MintedForJob (portal : Portal Key) (state : State) (job : Job) (token : String) : Prop :=
  ∃ request, job.adapter.settings.credentialSource.demand job.execution = .inr request ∧
    MintedFor portal state request token

/--
However the calls interleave, each is answered as the handler answers it alone, for its own caller
and with some responses of the outside.
-/
theorem answered_alone_of_reached (reached : (machine portal).Reached state)
    {outcome : CallOutcome} (answered : state.stages call = .answered outcome) :
    Alone portal state call (MintedForJob portal state) outcome := by
  have coherent := coherent_of_reached reached
  have placed := coherent.placed call
  rw [answered] at placed
  have unchanged : Agrees call state state :=
    ⟨rfl, rfl, rfl, rfl, rfl, fun _ replyMem => replyMem⟩
  apply placed.2.mono unchanged
  rintro job token ⟨request, asks, hasKey, isRequest, returned⟩
  exact ⟨request, asks, mintedFor_of_returned coherent.requested hasKey isRequest returned⟩

namespace Exchange

def secretRef : SecretRef where
  text := "$\x7benv:EXCHANGE_SECRET\x7d"

/-- A server that exchanges the tokens of its callers. -/
def exchanging : LoadedConfig where
  config :=
    { mode := .configured
      unsafeModeRequiresAcknowledgement := configured_is_safe
      unauthenticatedHttpIsGuarded := by decide
      server := { name := "portal", transport := .http }
      upstreams :=
        [ ("bank",
            { baseUrl := some { text := "https://exchanged.example" }
              outbound :=
                { mode := .tokenExchange
                  tokenEndpoint := some { text := "https://idp.example/exchange" }
                  clientId := some "portal"
                  clientSecret := some secretRef
                  scopes := ["read"]
                  staticNeedsAValue := fun isStatic => by cases isStatic
                  dynamicModesNeedEndpointAndClient := by decide }
              positive := positive_defaultLimits }) ]
      operations :=
        [ { id := "balance"
            upstream := "bank"
            description := "Balance."
            binding := .http { method := "GET", path := "/balance" } } ]
      inbound :=
        .issuedBy { text := "https://issuer-of-callers.example" }
          "https://exchanging-portal.example" }
  secrets := [(secretRef.text, "secret")]

def readTexts : WireText where
  isDigit := Char.isDigit
  decimal char := if char.isDigit then some (char.toNat - '0'.toNat) else none
  decimalOfDigit := @decimal_of_isDigit
  decode bytes := String.ofList (bytes.map fun byte => Char.ofNat byte.toNat)
  decodeJson _ := none
  readFloat literal := { repr := literal, value := 0 }

/-- Tokens are their claims' subjects; the one key opens them all. -/
def plainTokens : PyJwt Unit where
  getUnverifiedHeader _ :=
    some [("alg", .str "RS256"), ("typ", .str "at+jwt"), ("kid", .str "k1")]
  keyFromDict _ _ := some ()
  decode request := some [("exp", .int 1000), ("sub", .str request.token)]

def portalOf (app : App) : Portal Unit where
  unicode := asciiTables
  validate _ _ := .valid
  pyjwt := plainTokens
  hash := { ofString := fun text => .ofInt text.length, ofDetails := fun _ => 0 }
  parseFloat := .error
  wallOffset := 0
  wire := readTexts
  middleware _ _ := true
  loaded := exchanging
  app := app

def exchangingApp : Loading App :=
  buildApp asciiTables (fun _ => "222222") (fun _ => .error .assertionError) exchanging

def keySet : JwksCache.Reply :=
  .response 200 (some (.obj [("keys", .arr [.obj [("kid", .str "k1")]])]))

def minted : TokenReply where
  status := 200
  body := .ok (.obj [("access_token", .str "exchanged")])

/-- Two calls of one caller at once; the second waits for the key, and then for the token. -/
def twoCalls : List Action :=
  [ .arrive 0 { bearer := some "alice", request := { name := "balance" } },
    .arrive 1 { bearer := some "alice", request := { name := "balance" } },
    .keysReplied 0 keySet, .keyLockTaken 1, .tokenReplied 0 minted, .tokenLockTaken 1,
    .attempted 0 (.responded { status := 503 }) 0, .woken 0,
    .attempted 1 (.responded { status := 200, text := some "12" }) 0 ]

/-- The run of the two calls up to a number of its steps. -/
def runOf (app : App) (steps : Nat) : Option State :=
  (machine (portalOf app)).run {} (twoCalls.take steps)

theorem reached_runOf {app : App} {steps : Nat} {state : State}
    (ran : runOf app steps = some state) : (machine (portalOf app)).Reached state :=
  Machine.reachedWithin_of_run (fun _ _ _ => trivial) .start ran

/-- What can be seen of a state after some actions. -/
theorem exists_run_of {View : Type} (view : State → View) (actions : List Action) (seen : View)
    (sees : (exchangingApp.toOption.bind fun app =>
      ((machine (portalOf app)).run {} actions).map view) = some seen) :
    ∃ app state, exchangingApp = .ok app ∧ (machine (portalOf app)).run {} actions = some state ∧
      view state = seen := by
  rcases Option.bind_eq_some_iff.mp sees with ⟨app, isApp, later⟩
  rcases Option.map_eq_some_iff.mp later with ⟨state, ran, isSeen⟩
  cases built : exchangingApp with
  | error problem =>
      rw [built] at isApp
      cases isApp
  | ok other =>
      rw [built] at isApp
      cases isApp
      exact ⟨app, state, rfl, ran, isSeen⟩

/-- What can be seen of a state after some steps of the two calls. -/
theorem exists_run {View : Type} (view : State → View) (steps : Nat) (seen : View)
    (sees : (exchangingApp.toOption.bind fun app => (runOf app steps).map view) = some seen) :
    ∃ app state, exchangingApp = .ok app ∧ runOf app steps = some state ∧ view state = seen :=
  exists_run_of view (twoCalls.take steps) seen sees

end Exchange

section Exchange

open Exchange

private def observed (state : State) : List (CallId × Nat × List (String × String)) :=
  state.sent.map fun sent => (sent.call, sent.attempt, sent.request.headers)

private def bothSent : List (CallId × Nat × List (String × String)) :=
  [ (0, 1, [("Authorization", "Bearer exchanged")]),
    (1, 0, [("Authorization", "Bearer exchanged")]),
    (0, 0, [("Authorization", "Bearer exchanged")]) ]

/-- Both calls carry the token that was exchanged for the first; its read is sent again. -/
theorem sent_guarded_of_reached_exchange :
    ∃ app state, exchangingApp = .ok app ∧ runOf app 9 = some state ∧
      observed state = bothSent ∧
      ∀ sent ∈ state.sent, Cleared (portalOf app) state sent.call sent.job ∧
        Rightful (portalOf app) state sent := by
  rcases exists_run observed 9 bothSent (by decide +kernel) with ⟨app, state, built, ran, sees⟩
  refine ⟨app, state, built, ran, sees, ?_⟩
  intro sent sentMem
  have guarded := @sent_guarded_of_reached _ (portalOf app) state _ _ built (reached_runOf ran)
    sent sentMem
  exact ⟨guarded.1, guarded.2.1⟩

/-- The first of the two asks for the token that both get. -/
theorem fetching_guarded_of_reached_exchange :
    ∃ app state, exchangingApp = .ok app ∧ runOf app 3 = some state ∧
      ∃ job, ∃ request : CredentialRequest, Cleared (portalOf app) state 0 job ∧
        request.carry = job.execution.carry ∧
        request.cacheKey asciiTables.isPrintable (portalOf app).hash =
          .ok "token_exchange:bank:5:('read',):0" := by
  rcases exists_run (fun state => state.credentials.calls 0) 3
    (.fetching "token_exchange:bank:5:('read',):0" 0) (by decide +kernel) with
    ⟨app, state, built, ran, fetching⟩
  rcases @fetching_guarded_of_reached _ (portalOf app) state 0 _ _ built (reached_runOf ran)
    "token_exchange:bank:5:('read',):0" 0 fetching with ⟨job, request, cleared, _, carry, isKey, _⟩
  exact ⟨app, state, built, ran, job, request, cleared, carry, isKey⟩

private def resultIn : Stage → Option CallToolResult
  | .answered (.ok result) => some result
  | _ => none

private theorem answered_of_resultIn {stage : Stage} {result : CallToolResult}
    (isResult : resultIn stage = some result) : stage = .answered (.ok result) := by
  unfold resultIn at isResult
  split at isResult
  · cases isResult
    rfl
  · cases isResult

/-- The second call is answered while the first still waits for its upstream. -/
theorem answered_alone_of_reached_exchange :
    ∃ app state, exchangingApp = .ok app ∧ runOf app 9 = some state ∧
      Alone (portalOf app) state 1 (MintedForJob (portalOf app) state)
        (.ok { text := "12", isError := false }) := by
  rcases exists_run (fun state => resultIn (state.stages 1)) 9
    (some { text := "12", isError := false }) (by decide +kernel) with
    ⟨app, state, built, ran, isResult⟩
  refine ⟨app, state, built, ran, ?_⟩
  exact answered_alone_of_reached (reached_runOf ran) (answered_of_resultIn isResult)

end Exchange

end Service

end McpPortal
