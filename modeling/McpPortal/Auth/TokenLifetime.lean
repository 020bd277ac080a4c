import McpPortal.Auth.Acquire

/-!
# How long an exchanged token is served

The cache keeps an exchanged token no longer than the token endpoint said and no
longer than the subject token has left, both less a leeway. The second bound is on
the wall clock and becomes a duration at the moment the token is stored.
-/

namespace McpPortal

open Foundation

section Replies

variable {parseFloat : String → Except String Rat}

/-- A reply with a token is an object with a lifetime, and the token is cached for it less the leeway. -/
theorem exists_payload_of_readTokenReply {endpoint token : String} {reply : TokenReply} {ttl : Rat}
    (read : readTokenReply parseFloat endpoint reply = .ok (token, ttl)) :
    ∃ text payload seconds, reply = { status := 200, text, body := .ok (.obj payload) } ∧
      expiresIn parseFloat payload = .ok seconds ∧ ttl = max 0 (seconds - expiryLeeway) := by
  rcases reply with ⟨status, text, body⟩
  unfold readTokenReply at read
  split at read
  case isTrue => cases text <;> cases read
  case isFalse accepted =>
    have isAccepted : status = 200 := Decidable.not_not.mp accepted
    subst status
    cases body with
    | error raised => cases raised <;> cases read
    | ok value =>
        cases value with
        | obj payload =>
            simp only at read
            split at read
            case h_1 =>
              cases lifetime : expiresIn parseFloat payload with
              | error raised =>
                  rw [lifetime] at read
                  cases raised <;> cases read
              | ok seconds =>
                  rw [lifetime] at read
                  cases read
                  exact ⟨text, payload, seconds, rfl, lifetime, rfl⟩
            case h_2 => cases read
        | _ => cases read

/-- An exchanged token is stored for the shorter of the two times. -/
theorem exists_payload_of_mint {source : TokenExchangeSource} {carry : List AuthorizationDetail}
    {subjectToken : Option String} {expiresAt : Int} {wallTime ttl : Rat} {token : String}
    {reply : TokenReply}
    (mints : CredentialRequest.mint parseFloat
      (.tokenExchange source carry subjectToken (some expiresAt)) wallTime reply =
        .ok (token, ttl)) :
    ∃ text payload seconds, reply = { status := 200, text, body := .ok (.obj payload) } ∧
      expiresIn parseFloat payload = .ok seconds ∧
      ttl = min (max 0 (seconds - expiryLeeway)) (max 0 (expiresAt - wallTime - expiryLeeway)) := by
  unfold CredentialRequest.mint at mints
  split at mints
  case h_1 => cases mints
  case h_2 readToken lifetime read =>
    cases mints
    rcases exists_payload_of_readTokenReply read with
      ⟨text, payload, seconds, isReply, isLifetime, rfl⟩
    exact ⟨text, payload, seconds, isReply, isLifetime, rfl⟩

end Replies

namespace Acquire

/-- Calls are made for one subject token and its expiry, from any source and with any details. -/
def AsksFor (subjectToken : String) (expiresAt : Int) (_ : State) (action : Action) : Prop :=
  ∀ task request, action = .get task request →
    ∃ source carry, request = .tokenExchange source carry (some subjectToken) (some expiresAt)

/-- A request was made before the step, or is the one the step makes. -/
theorem requestOf_of_step {world : World} {state next : State} {action : Action}
    (stepped : step world state action = some next) {task : TokenCache.TaskId}
    {request : CredentialRequest} (isRequest : next.requestOf task = some request) :
    state.requestOf task = some request ∨ action = .get task request := by
  have cachesKeeps {before after : State} {inner : TokenCache.Action}
      (cached : before.caches inner = some after) : after.requestOf = before.requestOf := by
    rcases exists_step_of_caches cached with ⟨_, _, rfl⟩
    rfl
  have setKeeps {asker : TokenCache.TaskId} {asked : CredentialRequest}
      (isSet : (state.setRequest asker asked).requestOf task = some request) :
      state.requestOf task = some request ∨ Action.get asker asked = .get task request := by
    by_cases same : task = asker
    · subst asker
      have isAsked := isSet.symm.trans (Function.update_self ..)
      rw [Option.some.injEq] at isAsked
      exact Or.inr (by rw [isAsked])
    · exact Or.inl ((Function.update_of_ne same ..).symm.trans isSet)
  cases action with
  | get asker asked =>
      simp only [step] at stepped
      split at stepped
      case h_1 => cases stepped
      case h_2 =>
        split at stepped
        case h_1 =>
          cases stepped
          exact setKeeps isRequest
        case h_2 =>
          rw [cachesKeeps stepped] at isRequest
          exact setKeeps isRequest
  | replied replier reply =>
      simp only [step] at stepped
      split at stepped
      case h_1 => cases stepped
      case h_2 =>
        split at stepped
        case h_1 => exact Or.inl (cachesKeeps stepped ▸ isRequest)
        case h_2 =>
          rw [cachesKeeps stepped] at isRequest
          exact Or.inl isRequest
  | resume => exact Or.inl (cachesKeeps stepped ▸ isRequest)
  | unanswered => exact Or.inl (cachesKeeps stepped ▸ isRequest)
  | tick => exact Or.inl (cachesKeeps stepped ▸ isRequest)

theorem request_of_asksFor {world : World} {subjectToken : String} {expiresAt : Int} {state : State}
    (reached : (machine world).ReachedWithin (AsksFor subjectToken expiresAt) state) :
    ∀ task request, state.requestOf task = some request →
      ∃ source carry, request = .tokenExchange source carry (some subjectToken) (some expiresAt) := by
  apply Machine.keeps_of_reachedWithin _ _ reached
  · intro task request isRequest
    cases isRequest
  · intro before action after asked asks stepped task request isRequest
    rcases requestOf_of_step stepped isRequest with earlier | isGet
    · exact asked task request earlier
    · exact asks task request isGet

/-- A token found in the cache is within its own life and within its subject's. -/
theorem within_lives_of_returned {world : World} {subjectToken : String} {expiresAt : Int}
    {state : State}
    (reached : (machine world).ReachedWithin (AsksFor subjectToken expiresAt) state)
    {task : TokenCache.TaskId} {token : String}
    (returned : state.tracked.state.calls task = .returned token)
    (sentNothing : state.tracked.minted task = none) :
    ∃ fetcher returnedAt minted text payload seconds,
      state.tracked.servedBy task = some (fetcher, returnedAt) ∧
      state.tracked.minted fetcher = some minted ∧ minted.token = token ∧
      state.replyOf fetcher = some { status := 200, text, body := .ok (.obj payload) } ∧
      expiresIn world.parseFloat payload = .ok seconds ∧
      minted.storedAt ≤ returnedAt ∧
      returnedAt < minted.storedAt + max 0 (seconds - expiryLeeway) ∧
      returnedAt + world.wallOffset < expiresAt - expiryLeeway := by
  have requested := requested_of_reachedWithin reached
  rcases requested.known.served returned with ⟨fetcher, returnedAt, minted, serves⟩
  rcases requested.replied serves.isMinted with ⟨request, reply, isRequest, isReply, mints⟩
  rcases request_of_asksFor reached fetcher request isRequest with ⟨source, carry, rfl⟩
  rcases exists_payload_of_mint mints with ⟨text, payload, seconds, rfl, isLifetime, ttl⟩
  rcases serves.alive with own | ⟨past, alive⟩
  · rw [← own, serves.isMinted] at sentNothing
    cases sentNothing
  · have elapsed : returnedAt - minted.storedAt < minted.ttlSeconds := by linarith
    rw [ttl] at elapsed
    rcases lt_min_iff.mp elapsed with ⟨ownLife, subjectLife⟩
    refine ⟨fetcher, returnedAt, minted, text, payload, seconds, serves.served, serves.isMinted,
      serves.sameToken, isReply, isLifetime, past, ?_, ?_⟩
    · linarith
    · -- Time has passed since the token was stored, so the subject had some left then.
      rcases lt_max_iff.mp subjectLife with negative | left
      · linarith
      · linarith

section Exchange

private def exchangeUntil (expiresAt : Int) : CredentialRequest :=
  .tokenExchange { tokenEndpoint := "https://idp/token", scopes := [], upstreamKey := "bank" } []
    (some "subject") (some expiresAt)

private def hourReply : TokenReply where
  status := 200
  body := .ok (.obj [("access_token", .str "token"), ("expires_in", .int 3600)])

private def exchangeWorld : World where
  isPrintable _ := true
  hash := { ofString := fun _ => 0, ofDetails := fun _ => 0 }
  parseFloat := .error
  wallOffset := 1000

private def askedTwice : List Action :=
  [ .get 0 (exchangeUntil 1500), .replied 0 hourReply, .tick 400, .get 1 (exchangeUntil 1500) ]

/-- Its subject's life ends at 1440, so the token is found in the cache at 1400. -/
theorem within_lives_of_returned_asked :
    ∃ state, (machine exchangeWorld).run (machine exchangeWorld).start askedTwice = some state ∧
      state.tracked.state.calls 1 = .returned "token" ∧
      ∃ returnedAt, state.tracked.servedBy 1 = some (0, returnedAt) ∧
        returnedAt + exchangeWorld.wallOffset < 1500 - expiryLeeway := by
  have returned : ((machine exchangeWorld).run (machine exchangeWorld).start askedTwice).map
      (·.tracked.state.calls 1) = some (.returned "token") := by decide +kernel
  have fetcherIs : ((machine exchangeWorld).run (machine exchangeWorld).start askedTwice).map
      (fun state => (state.tracked.servedBy 1).map (·.1)) = some (some 0) := by decide +kernel
  have unsent : ((machine exchangeWorld).run (machine exchangeWorld).start askedTwice).map
      (fun state => (state.tracked.minted 1).isNone) = some true := by decide +kernel
  rcases Option.map_eq_some_iff.mp returned with ⟨state, ran, returned⟩
  rw [ran, Option.map_some, Option.some.injEq] at fetcherIs unsent
  have reached : (machine exchangeWorld).ReachedWithin (AsksFor "subject" 1500) state := by
    apply Machine.reachedWithin_of_run _ .start ran
    intro action actionMem before task request isGet
    subst action
    simp only [askedTwice, List.mem_cons, Action.get.injEq, reduceCtorEq, false_or, or_false,
      List.not_mem_nil] at actionMem
    rcases actionMem with ⟨_, rfl⟩ | ⟨_, rfl⟩ <;> exact ⟨_, _, rfl⟩
  rcases within_lives_of_returned reached returned (Option.isNone_iff_eq_none.mp unsent) with
    ⟨fetcher, returnedAt, _, _, _, _, served, _, _, _, _, _, _, subjectLife⟩
  rw [served, Option.map_some, Option.some.injEq] at fetcherIs
  subst fetcherIs
  exact ⟨state, ran, returned, returnedAt, served, subjectLife⟩

end Exchange

end Acquire

end McpPortal
