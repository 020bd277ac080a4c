import McpPortal.Server.ServiceProgress

/-!
# Whose token is exchanged

Whatever the token cache is asked for is asked for by an admitted job of the call, and a job that
exchanges a token exchanges the one that its call has arrived with. The cache knows bearer tokens
by their hashes, so a call gets what was exchanged for its own as long as these differ.
-/

namespace McpPortal

open Foundation

namespace Service

variable {Key : Type} {portal : Portal Key}

/-- Every request of the token cache is that of a job of its call. -/
def AllAsked (portal : Portal Key) (state : State) : Prop :=
  ∀ call request, state.credentials.requestOf call = some request → Asks portal state call request

section Asked

variable {state middle next : State} {call : CallId} {request : CredentialRequest}

theorem Asks.agrees (asks : Asks portal state call request) (agrees : Agrees call state next) :
    Asks portal next call request := by
  rcases asks with ⟨job, assigned, demands⟩
  exact ⟨job, assigned.agrees agrees, demands⟩

theorem Goes.asked (goes : Goes portal state call next)
    (asks : ∀ request, state.credentials.requestOf call = some request →
      Asks portal state call request) :
    ∀ request, next.credentials.requestOf call = some request → Asks portal next call request := by
  rcases goes.caches with ⟨credentials, _, arrivals, replies⟩
  intro request isRequest
  rw [credentials] at isRequest
  rcases asks request isRequest with ⟨job, ⟨arrival, accessToken, arrived, caller, admitted⟩, demands⟩
  refine ⟨job, ⟨arrival, accessToken, ?_, ?_, admitted⟩, demands⟩
  · rw [arrivals]
    exact arrived
  · rw [replies]
    exact caller

/-- A call that has not asked before asks for its own job. -/
theorem Reaches.asked (reaches : Reaches portal middle call next)
    (unasked : middle.credentials.requestOf call = none) :
    ∀ request, next.credentials.requestOf call = some request → Asks portal next call request := by
  rcases reaches with ⟨credentials, rfl | ⟨own, asks, asked⟩, goes⟩
  · apply goes.asked
    intro request isRequest
    cases unasked.symm.trans isRequest
  · apply goes.asked
    intro request isRequest
    have requests := congrFun (Acquire.step_get asked).2.1 call
    rw [Function.update_self] at requests
    cases requests.symm.trans isRequest
    rcases asks with ⟨job, assigned, demands⟩
    exact ⟨job, assigned, demands⟩

/-- A step asks for its own call, and the other calls have asked as before. -/
theorem AllAsked.moves {action : Action} (allAsked : AllAsked portal state)
    (coherent : Coherent portal state) (moves : Moves portal state action next) :
    AllAsked portal next := by
  have keeps : ∀ {call}, (∀ other, other ≠ call → Agrees other state next) →
      (∀ request, next.credentials.requestOf call = some request →
        Asks portal next call request) → AllAsked portal next := by
    intro call others own other request isRequest
    by_cases same : other = call
    · subst other
      exact own request isRequest
    · have agrees := others other same
      rw [agrees.request] at isRequest
      exact (allAsked other request isRequest).agrees agrees
  cases moves with
  | arrives absent _ between _ reaches credentials =>
      apply keeps (fun other different => (between.trans (fun _ => reaches.others) other different).1)
      apply reaches.asked
      rw [credentials]
      exact (coherent.fresh absent).2.2.1
  | @verifies _ call _ _ _ _ _ _ _ _ isStage _ _ between _ reaches =>
      apply keeps (fun other different => (between.trans (fun _ => reaches.others) other different).1)
      apply reaches.asked
      have placed := coherent.placed call
      rw [isStage] at placed
      exact placed.2.1
  | @acquires _ call _ _ _ _ _ _ stepped isTask notGet between _ goes =>
      apply keeps (fun other different => (between.trans (fun _ => goes.others) other different).1)
      apply goes.asked
      intro request isRequest
      have requests := (Acquire.step_own isTask notGet stepped).1
      rcases allAsked call request ((congrFun requests call).symm.trans isRequest) with
        ⟨job, assigned, demands⟩
      exact ⟨job, assigned, demands⟩
  | answers =>
      intro call request isRequest
      exact (allAsked call request isRequest).agrees (agrees_setStage ..)
  | pauses =>
      intro call request isRequest
      exact (allAsked call request isRequest).agrees (agrees_setStage ..)
  | wakes =>
      intro call request isRequest
      rcases allAsked call request isRequest with ⟨job, assigned, demands⟩
      exact ⟨job, assigned, demands⟩
  | ticks keysTick credentialsTick =>
      intro call request isRequest
      have kept := @Acquire.keeps_others _ _ _ call _ credentialsTick nofun
      rcases allAsked call request (kept.2.symm.trans isRequest) with ⟨job, assigned, demands⟩
      exact ⟨job, assigned, demands⟩

end Asked

theorem allAsked_of_reached {state : State} (reached : (machine portal).Reached state) :
    AllAsked portal state := by
  induction reached with
  | start => exact fun call request isRequest => by cases isRequest
  | step action before _ stepped allAsked =>
      have coherent := coherent_of_reached before
      exact allAsked.moves coherent (coherent.moves stepped)

section Own

variable {state : State} {call : CallId} {request : CredentialRequest}
  {suffix : String → String} {introspect : IntrospectUpstreams}

theorem token_of_accessToken {unicode : PyUnicode} {verifier : JwtTokenVerifier} {token : String}
    {claims : JsonObject} {verified : VerifiedToken}
    (minted : verifier.accessToken unicode token claims = .ok verified) :
    verified.token = token := by
  simp only [JwtTokenVerifier.accessToken, bind_eq_ok, pure_eq_ok] at minted
  rcases minted with ⟨_, _, _, _, rfl⟩
  rfl

/-- The subject token of a request is the bearer token that its call has arrived with. -/
theorem Asks.bearer (asks : Asks portal state call request)
    (built : buildApp portal.unicode suffix introspect portal.loaded = .ok portal.app)
    {subject : String} (isSubject : request.subjectToken = some subject) :
    ∃ arrival, state.arrivals call = some arrival ∧ arrival.bearer = some subject := by
  rcases asks with ⟨job, ⟨arrival, accessToken, arrived, caller, admitted⟩, demands⟩
  have mediated := (mediated_of_admitCall portal.validate built admitted).1
  rcases mediated.authorized with ⟨principal, inEffect, _, _, sameToken, _⟩
  have carried : job.execution.subjectToken = some subject := by
    unfold CredentialSource.demand at demands
    split at demands
    · cases demands
    · cases demands
      cases isSubject
    · cases demands
      exact isSubject
  rw [carried] at sameToken
  refine ⟨arrival, arrived, ?_⟩
  cases inEffect with
  | asserted => cases sameToken
  | @verified presented details _ isPresented _ =>
      subst isPresented
      cases caller with
      | @bearer token verified _ isBearer vouched =>
          rcases vouched.decodes with ⟨_, _, _, _, claims, _, _, _, _, _, _, minted⟩
          cases sameToken
          rw [isBearer, ← token_of_accessToken minted]

/-- The bearer tokens that have arrived. -/
def bearers (state : State) : Set String :=
  {bearer | ∃ call arrival, state.arrivals call = some arrival ∧ arrival.bearer = some bearer}

/--
Where an upstream exchanges tokens, every request to it carries what its token endpoint has minted
for the bearer token of this very call, if the hash tells apart the bearer tokens that have arrived.
-/
theorem exchanged_own_of_reached
    (built : buildApp portal.unicode suffix introspect portal.loaded = .ok portal.app)
    (reached : (machine portal).Reached state) {sent : Sent} (sentMem : sent ∈ state.sent)
    (demands : sent.job.adapter.settings.credentialSource.demand sent.job.execution = .inr request)
    (exchanges : request.mode = .tokenExchange)
    (apart : Set.InjOn portal.hash.ofString (bearers state)) :
    ∃ arrival bearer token, state.arrivals sent.call = some arrival ∧
      arrival.bearer = some bearer ∧ sent.credential = some (bearerCredential token) ∧
      ∃ fetcher minting reply storedAt ttlSeconds,
        state.credentials.requestOf fetcher = some minting ∧
        minting.mode = .tokenExchange ∧ minting.subjectToken = some bearer ∧
        minting.upstreamKey = request.upstreamKey ∧ minting.scopes.Perm request.scopes ∧
        (∃ other, state.arrivals fetcher = some other ∧ other.bearer = some bearer) ∧
        state.credentials.replyOf fetcher = some reply ∧
        minting.mint portal.parseFloat (storedAt + portal.wallOffset) reply =
          .ok (token, ttlSeconds) := by
  have coherent := coherent_of_reached reached
  have justified := coherent.justified sent sentMem
  have entitled := justified.entitled
  unfold Entitled at entitled
  rw [demands] at entitled
  rcases entitled with ⟨token, isToken, hasKey, isRequest, returned⟩
  rcases mintedFor_of_returned coherent.requested hasKey isRequest returned with
    ⟨fetcher, minting, reply, storedAt, ttlSeconds, isMinting, collides, isReply, minted⟩
  rcases Option.ne_none_iff_exists'.mp (hasKey exchanges) with ⟨bearer, isBearer⟩
  have sameHash := collides.subjectToken
  rw [isBearer, Option.map_some, eq_comm, Option.map_eq_some_iff] at sameHash
  rcases sameHash with ⟨subject, isSubject, sameHash⟩
  have own : Asks portal state sent.call request := ⟨_, justified.assigned, demands⟩
  rcases own.bearer built isBearer with ⟨arrival, arrived, presented⟩
  have asked := allAsked_of_reached reached fetcher minting isMinting
  rcases asked.bearer built isSubject with ⟨other, otherArrived, otherPresented⟩
  have same : subject = bearer :=
    apart ⟨fetcher, other, otherArrived, otherPresented⟩ ⟨sent.call, arrival, arrived, presented⟩
      sameHash
  subst same
  exact ⟨arrival, subject, token, arrived, presented, isToken, fetcher, minting, reply, storedAt,
    ttlSeconds, isMinting, collides.mode.symm.trans exchanges, isSubject, collides.upstreamKey.symm,
    collides.scopes.symm, ⟨other, otherArrived, otherPresented⟩, isReply, minted⟩

end Own

section Exchange

open Exchange

/-- Arrivals are noted once. -/
theorem Moves.arrivals {state next : State} {action : Action}
    (moves : Moves portal state action next) : next.arrivals = state.arrivals ∨
      ∃ call arrival, action = .arrive call arrival ∧
        next.arrivals = Function.update state.arrivals call (some arrival) := by
  cases moves with
  | @arrives call arrival middle _ _ noted _ _ reaches =>
      rcases reaches with ⟨_, _, goes⟩
      exact Or.inr ⟨call, arrival, rfl, goes.caches.2.2.1.trans noted⟩
  | verifies _ _ _ _ _ _ reaches =>
      rcases reaches with ⟨_, _, goes⟩
      exact Or.inl goes.caches.2.2.1
  | acquires _ _ _ _ _ _ _ goes => exact Or.inl goes.caches.2.2.1
  | _ => exact Or.inl rfl

/-- Two callers arrive. -/
private def OfTwo (_ : State) (action : Action) : Prop :=
  ∀ call arrival, action = .arrive call arrival →
    arrival.bearer = some "alice" ∨ arrival.bearer = some "robert"

private theorem bearers_of_two {portal : Portal Unit} {state : State}
    (reached : (machine portal).ReachedWithin OfTwo state) :
    (machine portal).Reached state ∧ bearers state ⊆ {"alice", "robert"} := by
  induction reached with
  | start =>
      refine ⟨.start, ?_⟩
      rintro bearer ⟨call, arrival, ⟨⟩, _⟩
  | step action before ofTwo stepped ih =>
      rcases ih with ⟨reached, onlyTwo⟩
      refine ⟨.step action reached trivial stepped, ?_⟩
      rintro bearer ⟨call, arrival, arrived, presented⟩
      rcases ((coherent_of_reached reached).moves stepped).arrivals with
        same | ⟨own, latest, isArrive, noted⟩
      · rw [same] at arrived
        exact onlyTwo ⟨call, arrival, arrived, presented⟩
      · by_cases isOwn : call = own
        · subst isOwn
          rw [noted, Function.update_self, Option.some.injEq] at arrived
          subst arrived
          rcases ofTwo call latest isArrive with isFirst | isSecond
          · rw [isFirst, Option.some.injEq] at presented
            exact Or.inl presented.symm
          · rw [isSecond, Option.some.injEq] at presented
            exact Or.inr presented.symm
        · rw [noted, Function.update_of_ne isOwn] at arrived
          exact onlyTwo ⟨call, arrival, arrived, presented⟩

private def mintedFor (caller : String) : TokenReply where
  status := 200
  body := .ok (.obj [("access_token", .str ("exchanged for " ++ caller))])

/-- The calls of two callers at once, each of which has its own token exchanged. -/
private def twoCallers : List Action :=
  [ .arrive 0 { bearer := some "alice", request := { name := "balance" } },
    .arrive 1 { bearer := some "robert", request := { name := "balance" } },
    .keysReplied 0 keySet, .keyLockTaken 1, .tokenReplied 1 (mintedFor "robert"),
    .tokenReplied 0 (mintedFor "alice") ]

private def demandedMode (sent : Sent) : Option OutboundMode :=
  match sent.job.adapter.settings.credentialSource.demand sent.job.execution with
  | .inl _ => none
  | .inr request => some request.mode

private def observedExchange (state : State) :
    List (CallId × Option OutboundMode × Option Credential) :=
  state.sent.map fun sent => (sent.call, demandedMode sent, sent.credential)

private def ownExchanges : List (CallId × Option OutboundMode × Option Credential) :=
  [ (0, some .tokenExchange, some (bearerCredential "exchanged for alice")),
    (1, some .tokenExchange, some (bearerCredential "exchanged for robert")) ]

/-- Each request carries what was exchanged for the token of its caller. -/
theorem exchanged_own_of_reached_alice :
    ∃ app state, exchangingApp = .ok app ∧
      (machine (portalOf app)).run {} twoCallers = some state ∧
      observedExchange state = ownExchanges ∧
      ∀ sent ∈ state.sent, ∃ arrival bearer token, state.arrivals sent.call = some arrival ∧
        arrival.bearer = some bearer ∧ sent.credential = some (bearerCredential token) ∧
        ∃ fetcher minting, state.credentials.requestOf fetcher = some minting ∧
          minting.subjectToken = some bearer := by
  rcases exists_run_of observedExchange twoCallers ownExchanges (by decide +kernel) with
    ⟨app, state, built, ran, sees⟩
  refine ⟨app, state, built, ran, sees, ?_⟩
  have ofTwo : ∀ action ∈ twoCallers, ∀ state, OfTwo state action := by
    intro action actionMem _ call arrival isArrive
    subst isArrive
    simp [twoCallers] at actionMem
    rcases actionMem with ⟨_, rfl⟩ | ⟨_, rfl⟩
    · exact Or.inl rfl
    · exact Or.inr rfl
  rcases bearers_of_two (Machine.reachedWithin_of_run ofTwo .start ran) with ⟨reached, onlyTwo⟩
  have apart : Set.InjOn (portalOf app).hash.ofString (bearers state) := by
    have differ : (portalOf app).hash.ofString "alice" ≠ (portalOf app).hash.ofString "robert" := by
      simp only [portalOf]
      decide
    intro first firstMem second secondMem same
    rcases onlyTwo firstMem with rfl | rfl <;> rcases onlyTwo secondMem with rfl | rfl
    · rfl
    · exact absurd same differ
    · exact absurd same.symm differ
    · rfl
  intro sent sentMem
  have isObserved : (sent.call, demandedMode sent, sent.credential) ∈ ownExchanges := by
    rw [← sees]
    exact List.mem_map_of_mem sentMem
  have isMode : demandedMode sent = some .tokenExchange := by
    simp only [ownExchanges, List.mem_cons, List.not_mem_nil, or_false, Prod.mk.injEq]
      at isObserved
    rcases isObserved with ⟨_, isMode, _⟩ | ⟨_, isMode, _⟩
    · exact isMode
    · exact isMode
  unfold demandedMode at isMode
  split at isMode
  · cases isMode
  case h_2 request demands =>
    rcases @exchanged_own_of_reached _ (portalOf app) state request _ _ built reached sent sentMem
      demands (Option.some.inj isMode) apart with ⟨arrival, bearer, token, arrived, presented,
      isToken, fetcher, minting, _, _, _, isMinting, _, isSubject, _⟩
    exact ⟨arrival, bearer, token, arrived, presented, isToken, fetcher, minting, isMinting,
      isSubject⟩

end Exchange

end Service

end McpPortal
