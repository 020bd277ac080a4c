import Mathlib.Logic.Relation
import McpPortal.Transports.PyRequest
import McpPortal.Transports.Sending

/-!
# When sending a request raises

The HTTP client refuses some URLs and encodes headers as ASCII before anything is sent, after a
timeout that is no float has raised. An attempt may time out, fail otherwise or get a response. A
`Retry-After` of digits that are no decimal number raises where it is waited for, as does a total
budget that is no float, and a response whose body has no text raises where it is mapped.
-/

namespace McpPortal

open Foundation

namespace PyCall

inductive WireOutcome where
  | timedOut
  | requestError (message : String)
  | responded (response : UpstreamResponse)

/-- One attempt as the outside decides it. -/
structure WireAttempt where
  outcome : WireOutcome
  duration : Rat
  drawn : Rat
  sleep : Rat → Rat := id

/-- What the HTTP client does not accept. -/
structure HttpClient where
  /-- It raises `InvalidURL`, which is no `RequestError`. -/
  refusesUrl : String → Bool

/-- What the conversion of a time raises. -/
def raisedOf : NumberError → CallRaised
  | .valueError => .interpreter .valueError
  | .overflowError => .overflowError

theorem isCaught_raisedOf (error : NumberError) : (raisedOf error).isCaught = false := by
  cases error <;> rfl

def isAscii (text : CodePoints) : Bool :=
  text.all fun point => point.val < 0x80

def WireOutcome.isRetryable : WireOutcome → Bool
  | .timedOut => true
  | .requestError _ => false
  | .responded response => isRetryableStatus response.status

def WireOutcome.response? : WireOutcome → Option UpstreamResponse
  | .responded response => some response
  | _ => none

/-- How an attempt ends that no other follows. -/
def WireOutcome.finish : WireOutcome → Calling UpstreamResponse
  | .timedOut => throw .timeout
  | .requestError message => throw (.requestError message)
  | .responded response => return response

/-- The URL is parsed and the headers are encoded for each attempt alike. -/
def encodeRequest (client : HttpClient) (request : PreparedRequest) : Calling Unit :=
  if client.refusesUrl request.url then throw .invalidUrl
  else if request.headers.all fun header => isAscii (codePoints header.1) && isAscii header.2 then
    return ()
  else throw .unicodeEncodeError

section Exchange

variable (client : HttpClient) (wire : WireText) (attempts : Nat → WireAttempt)
  (upstream : UpstreamConfig) (started : Rat)

/-- `_wait_for_retry` after an attempt that began at a time. -/
def waitAfter (attempt : Nat) (now : Rat) : Wait :=
  upstream.waitForRetry wire started (now + (attempts attempt).duration) attempt
    (attempts attempt).outcome.response? (attempts attempt).drawn

/-- The loop from an attempt on, which `left` more may follow. -/
def exchangeFrom : (left attempt : Nat) → (now : Rat) → Calling UpstreamResponse
  | 0, attempt, _ => (attempts attempt).outcome.finish
  | left + 1, attempt, now =>
      let made := attempts attempt
      if !made.outcome.isRetryable then made.outcome.finish
      else
        match waitAfter wire attempts upstream started attempt now with
        | .spent => made.outcome.finish
        | .raises error => throw (raisedOf error)
        | .sleeps delay =>
            exchangeFrom left (attempt + 1) (now + made.duration + made.sleep delay)

/-- `_map`. -/
def mapResponse (map : ResponseMap) (response : UpstreamResponse) : Calling MappedResponse :=
  match map response with
  | some mapped => return mapped
  | none => throw .undecodable

/-- What `execute` does with the request it has built. -/
def sendRequest (map : ResponseMap) (effect : Effect) (request : PreparedRequest) :
    Calling MappedResponse := do
  let _ ← (secondsOf upstream.timeoutMs).mapError raisedOf
  encodeRequest client request
  let response ← exchangeFrom wire attempts upstream started (attemptCount effect - 1) 0 started
  mapResponse map response

/-- `str.isdigit` accepts the header of a 429, and `float` does not. -/
def BadRetryAfter (response : UpstreamResponse) : Prop :=
  response.status = 429 ∧ ∃ header, response.retryAfter = some header ∧ header ≠ "" ∧
    header.toList.all wire.isDigit = true ∧ floatOfDigits wire header = none

/-- The URL and the headers can be sent. -/
structure Sendable (request : PreparedRequest) : Prop where
  url : client.refusesUrl request.url = false
  headers : ∀ header ∈ request.headers, isAscii (codePoints header.1) = true ∧
    isAscii header.2 = true

variable (count : Nat)

/-- The loop goes from an attempt and its time to the next ones. -/
def Retries (state next : Nat × Rat) : Prop :=
  state.1 + 1 < count ∧ (attempts state.1).outcome.isRetryable = true ∧
    ∃ delay, waitAfter wire attempts upstream started state.1 state.2 = .sleeps delay ∧
      next = (state.1 + 1,
        state.2 + (attempts state.1).duration + (attempts state.1).sleep delay)

/-- An attempt after which waiting raises. -/
def WaitRaises (state : Nat × Rat) : Prop :=
  (attempts state.1).outcome.isRetryable = true ∧ state.1 + 1 < count ∧
    ∃ error, waitAfter wire attempts upstream started state.1 state.2 = .raises error

/-- An attempt is waited for without an exception where another may follow, and its response has a
text where it is the last one. -/
structure SafeAt (state : Nat × Rat) : Prop where
  waits : (attempts state.1).outcome.isRetryable = true → state.1 + 1 < count →
    upstream.maxTotalMs < floatLimit * 1000 ∧
      ∀ response, (attempts state.1).outcome = .responded response → ¬BadRetryAfter wire response
  hasText : ∀ response, (attempts state.1).outcome = .responded response →
    (isRetryableStatus response.status = true → state.1 + 1 < count →
      waitAfter wire attempts upstream started state.1 state.2 = .spent) →
    response.text.isSome = true

/-- Every attempt that is made is safe. -/
def ExchangeSafe : Prop :=
  ∀ state, Relation.ReflTransGen (Retries wire attempts upstream started count) (0, started) state →
    SafeAt wire attempts upstream started count state

variable {client wire attempts upstream started count}

theorem retryDelay_eq_none_iff {attempt : Nat} {status : Option Nat} {header : Option String}
    {drawn : Rat} :
    retryDelay wire attempt status header drawn = none ↔
      status = some 429 ∧ ∃ text, header = some text ∧ text ≠ "" ∧
        text.toList.all wire.isDigit = true ∧ floatOfDigits wire text = none := by
  cases header with
  | none => simp [retryDelay]
  | some text =>
      have counts : (status = some 429 && text ≠ "" && text.toList.all wire.isDigit) = true ↔
          (status = some 429 ∧ text ≠ "") ∧ text.toList.all wire.isDigit = true := by
        rw [Bool.and_eq_true, Bool.and_eq_true, decide_eq_true_eq, decide_eq_true_eq]
      simp only [retryDelay, counts, Option.some.injEq, exists_eq_left']
      split
      case isTrue accepted => simp [accepted.1.1, accepted.1.2, accepted.2]
      case isFalse refused =>
        constructor
        · intro none
          cases none
        · rintro ⟨is429, nonempty, digits, _⟩
          exact absurd ⟨⟨is429, nonempty⟩, digits⟩ refused

theorem remainingBudget_eq_error_iff {now : Rat} {budget : Nat} :
    (∃ error, remainingBudget started now (some budget) = .error error) ↔
      floatLimit * 1000 ≤ budget := by
  rw [remainingBudget, secondsOf, divideInts]
  split <;> simp_all [Except.map]

/-- Waiting raises where the budget is no float, and after the response of such a header. -/
theorem waitAfter_raises_iff (timeout : upstream.timeoutMs < floatLimit * 1000) {attempt : Nat}
    {now : Rat} :
    (∃ error, waitAfter wire attempts upstream started attempt now = .raises error) ↔
      floatLimit * 1000 ≤ upstream.maxTotalMs ∨
        ∃ response, (attempts attempt).outcome = .responded response ∧
          BadRetryAfter wire response := by
  have bad : retryDelay wire attempt ((attempts attempt).outcome.response?.map (·.status))
      ((attempts attempt).outcome.response?.bind (·.retryAfter)) (attempts attempt).drawn = none ↔
        ∃ response, (attempts attempt).outcome = .responded response ∧
          BadRetryAfter wire response := by
    rw [retryDelay_eq_none_iff]
    cases (attempts attempt).outcome <;> simp [WireOutcome.response?, BadRetryAfter]
  rw [← bad, ← @remainingBudget_eq_error_iff started (now + (attempts attempt).duration)]
  simp only [waitAfter, UpstreamConfig.waitForRetry, secondsOf_eq_ok timeout, waitForRetry]
  split
  case h_1 none => simp [none]
  case h_2 delay isDelay =>
    rw [isDelay]
    split
    case h_1 error raises => simp [raises]
    case h_2 unbounded => simp [unbounded]
    case h_3 remaining isRemaining =>
      rw [isRemaining]
      split <;> simp

theorem uncaught_finish_map {map : ResponseMap}
    (reads : ∀ response, map response = none ↔ response.text = none) {outcome : WireOutcome} :
    Uncaught CallRaised.isCaught (outcome.finish >>= mapResponse map) ↔
      ∃ response, outcome = .responded response ∧ response.text = none := by
  cases outcome with
  | timedOut => simp [WireOutcome.finish, CallRaised.isCaught]
  | requestError message => simp [WireOutcome.finish, CallRaised.isCaught]
  | responded response =>
      simp only [WireOutcome.finish, pure_bind, mapResponse, WireOutcome.responded.injEq,
        exists_eq_left', ← reads]
      cases map response <;> simp [CallRaised.isCaught]

theorem reaches_iff {state : Nat × Rat} {Holds : Nat × Rat → Prop} :
    (∀ next, Relation.ReflTransGen (Retries wire attempts upstream started count) state next →
        Holds next) ↔
      Holds state ∧ ∀ next, Retries wire attempts upstream started count state next →
        ∀ last, Relation.ReflTransGen (Retries wire attempts upstream started count) next last →
          Holds last := by
  constructor
  · intro all
    exact ⟨all state .refl, fun next retries last reaches => all last (.head retries reaches)⟩
  · rintro ⟨here, later⟩ last reaches
    rcases Relation.ReflTransGen.cases_head reaches with rfl | ⟨next, retries, reaches⟩
    · exact here
    · exact later next retries last reaches

theorem isRetryable_of_responded {attempt : Nat} {response : UpstreamResponse}
    (responded : (attempts attempt).outcome = .responded response) :
    (attempts attempt).outcome.isRetryable = isRetryableStatus response.status := by
  rw [responded]
  rfl

/-- An attempt that may be followed waits without an exception. -/
theorem SafeAt.noRaise (timeout : upstream.timeoutMs < floatLimit * 1000) {state : Nat × Rat}
    (safe : SafeAt wire attempts upstream started count state) :
    ¬WaitRaises wire attempts upstream started count state := by
  rintro ⟨retryable, more, raises⟩
  rcases safe.waits retryable more with ⟨total, notBad⟩
  rcases (waitAfter_raises_iff timeout).mp raises with noFloat | ⟨response, responded, bad⟩
  · exact absurd total (Nat.not_lt.mpr noFloat)
  · exact notBad response responded bad

theorem waits_of_noRaise (timeout : upstream.timeoutMs < floatLimit * 1000) {state : Nat × Rat}
    (noRaise : ¬WaitRaises wire attempts upstream started count state)
    (retryable : (attempts state.1).outcome.isRetryable = true) (more : state.1 + 1 < count) :
    upstream.maxTotalMs < floatLimit * 1000 ∧
      ∀ response, (attempts state.1).outcome = .responded response →
        ¬BadRetryAfter wire response := by
  have waits : ¬∃ error,
      waitAfter wire attempts upstream started state.1 state.2 = .raises error :=
    fun raises => noRaise ⟨retryable, more, raises⟩
  rw [waitAfter_raises_iff timeout, not_or, Nat.not_le] at waits
  exact ⟨waits.1, fun response responded bad => waits.2 ⟨response, responded, bad⟩⟩

/-- Of an attempt that no other follows, only the text counts. -/
theorem safeAt_iff_of_last (timeout : upstream.timeoutMs < floatLimit * 1000) {state : Nat × Rat}
    (noRetry : ∀ next, ¬Retries wire attempts upstream started count state next)
    (noRaise : ¬WaitRaises wire attempts upstream started count state) :
    SafeAt wire attempts upstream started count state ↔
      ¬∃ response, (attempts state.1).outcome = .responded response ∧ response.text = none := by
  constructor
  · rintro safe ⟨response, responded, noText⟩
    have hasText := safe.hasText response responded
    rw [noText] at hasText
    apply absurd (hasText _) (by simp)
    intro isRetryable more
    have retryable := (isRetryable_of_responded responded).trans isRetryable
    cases waited : waitAfter wire attempts upstream started state.1 state.2 with
    | spent => rfl
    | raises error => exact absurd ⟨retryable, more, error, waited⟩ noRaise
    | sleeps delay => exact absurd ⟨more, retryable, delay, waited, rfl⟩ (noRetry _)
  · intro readable
    constructor
    · exact waits_of_noRaise timeout noRaise
    · intro response responded _
      rw [Option.isSome_iff_ne_none]
      exact fun noText => readable ⟨response, responded, noText⟩

theorem exchangeFrom_of_last {left attempt : Nat} {now : Rat}
    (remaining : attempt + left + 1 = count)
    (noRetry : ∀ next, ¬Retries wire attempts upstream started count (attempt, now) next)
    (noRaise : ¬WaitRaises wire attempts upstream started count (attempt, now)) :
    exchangeFrom wire attempts upstream started left attempt now =
      (attempts attempt).outcome.finish := by
  cases left with
  | zero => rfl
  | succ left =>
      have more : attempt + 1 < count := by omega
      cases retryable : (attempts attempt).outcome.isRetryable with
      | false => simp [exchangeFrom, retryable]
      | true =>
          cases waited : waitAfter wire attempts upstream started attempt now with
          | raises error => exact absurd ⟨retryable, more, error, waited⟩ noRaise
          | sleeps delay => exact absurd ⟨more, retryable, delay, waited, rfl⟩ (noRetry _)
          | spent => simp [exchangeFrom, retryable, waited]

theorem safeAt_of_retries (timeout : upstream.timeoutMs < floatLimit * 1000)
    {state next : Nat × Rat}
    (retries : Retries wire attempts upstream started count state next) :
    SafeAt wire attempts upstream started count state := by
  rcases retries with ⟨more, retryable, delay, waited, _⟩
  constructor
  · apply waits_of_noRaise timeout
    rintro ⟨_, _, error, raises⟩
    cases waited.symm.trans raises
  · intro response responded spent
    cases waited.symm.trans (spent ((isRetryable_of_responded responded).symm.trans retryable) more)

/-- The loop lets an exception pass exactly when an attempt that it makes is not safe. -/
theorem uncaught_exchangeFrom (timeout : upstream.timeoutMs < floatLimit * 1000)
    {map : ResponseMap} (reads : ∀ response, map response = none ↔ response.text = none)
    {left attempt : Nat} {now : Rat} (remaining : attempt + left + 1 = count) :
    Uncaught CallRaised.isCaught
        (exchangeFrom wire attempts upstream started left attempt now >>= mapResponse map) ↔
      ¬∀ state, Relation.ReflTransGen (Retries wire attempts upstream started count)
        (attempt, now) state → SafeAt wire attempts upstream started count state := by
  induction left generalizing attempt now with
  | zero =>
      have noMore : ¬attempt + 1 < count := by omega
      have noRetry : ∀ next, ¬Retries wire attempts upstream started count (attempt, now) next :=
        fun next retries => noMore retries.1
      have noRaise : ¬WaitRaises wire attempts upstream started count (attempt, now) :=
        fun raises => noMore raises.2.1
      rw [exchangeFrom, uncaught_finish_map reads, reaches_iff,
        safeAt_iff_of_last timeout noRetry noRaise]
      simp [noRetry]
  | succ left ih =>
      rw [reaches_iff]
      by_cases raises : WaitRaises wire attempts upstream started count (attempt, now)
      · have notSafe : ¬SafeAt wire attempts upstream started count (attempt, now) :=
          fun safe => safe.noRaise timeout raises
        rcases raises with ⟨retryable, _, error, waited⟩
        have ends : exchangeFrom wire attempts upstream started (left + 1) attempt now =
            throw (raisedOf error) := by
          simp [exchangeFrom, retryable, waited]
        rw [ends]
        simp [notSafe, isCaught_raisedOf]
      · by_cases retries : ∃ next, Retries wire attempts upstream started count (attempt, now) next
        · rcases retries with ⟨_, more, retryable, delay, waited, rfl⟩
          have goesOn : exchangeFrom wire attempts upstream started (left + 1) attempt now =
              exchangeFrom wire attempts upstream started left (attempt + 1)
                (now + (attempts attempt).duration + (attempts attempt).sleep delay) := by
            simp [exchangeFrom, retryable, waited]
          have safe := @safeAt_of_retries wire attempts upstream started count timeout _ _
            ⟨more, retryable, delay, waited, rfl⟩
          have only : ∀ next,
              Retries wire attempts upstream started count (attempt, now) next ↔
                next = (attempt + 1,
                  now + (attempts attempt).duration + (attempts attempt).sleep delay) := by
            intro next
            constructor
            · rintro ⟨_, _, other, otherWaited, rfl⟩
              cases waited.symm.trans otherWaited
              rfl
            · rintro rfl
              exact ⟨more, retryable, delay, waited, rfl⟩
          have nextRemaining : attempt + 1 + left + 1 = count := by omega
          rw [goesOn, ih nextRemaining]
          simp only [only, forall_eq, safe, true_and]
        · have noRetry : ∀ next,
              ¬Retries wire attempts upstream started count (attempt, now) next :=
            not_exists.mp retries
          rw [exchangeFrom_of_last remaining noRetry raises, uncaught_finish_map reads,
            safeAt_iff_of_last timeout noRetry raises]
          simp [noRetry]

theorem sendable_iff {request : PreparedRequest} :
    Sendable client request ↔ client.refusesUrl request.url = false ∧
      (request.headers.all fun header =>
        isAscii (codePoints header.1) && isAscii header.2) = true := by
  simp only [List.all_eq_true, Bool.and_eq_true]
  exact ⟨fun sendable => ⟨sendable.url, sendable.headers⟩, fun ⟨url, headers⟩ => ⟨url, headers⟩⟩

theorem encodeRequest_eq_ok {request : PreparedRequest} :
    encodeRequest client request = .ok () ↔ Sendable client request := by
  rw [sendable_iff, encodeRequest]
  cases refused : client.refusesUrl request.url with
  | true => simp
  | false =>
      cases ascii : request.headers.all fun header =>
          isAscii (codePoints header.1) && isAscii header.2 with
      | true => simp only [Bool.false_eq_true, if_false, if_true, and_self, pure_eq_ok]
      | false => simp only [Bool.false_eq_true, if_false, and_false, throw_ne_ok]

theorem uncaught_encodeRequest {request : PreparedRequest} :
    Uncaught CallRaised.isCaught (encodeRequest client request) ↔ ¬Sendable client request := by
  rw [sendable_iff, encodeRequest]
  cases refused : client.refusesUrl request.url with
  | true => simp [CallRaised.isCaught]
  | false =>
      cases ascii : request.headers.all fun header =>
          isAscii (codePoints header.1) && isAscii header.2 with
      | true =>
          simp only [Bool.false_eq_true, if_false, if_true, and_self, not_true, uncaught_pure]
      | false =>
          simp only [Bool.false_eq_true, if_false, and_false, not_false_iff, uncaught_throw,
            CallRaised.isCaught]

/-- A request is sent without an exception when its timeout is a float, it can be sent, and every
attempt is safe. -/
theorem uncaught_sendRequest {map : ResponseMap}
    (reads : ∀ response, map response = none ↔ response.text = none) {effect : Effect}
    {request : PreparedRequest} :
    Uncaught CallRaised.isCaught
        (sendRequest client wire attempts upstream started map effect request) ↔
      ¬(upstream.timeoutMs < floatLimit * 1000 ∧ Sendable client request ∧
        ExchangeSafe wire attempts upstream started (attemptCount effect)) := by
  by_cases timeout : upstream.timeoutMs < floatLimit * 1000
  · have some : 0 + (attemptCount effect - 1) + 1 = attemptCount effect := by
      cases effect <;> rfl
    have exchange := @uncaught_exchangeFrom wire attempts upstream started
      (attemptCount effect) timeout map reads (attemptCount effect - 1) 0 started some
    have converted : sendRequest client wire attempts upstream started map effect request =
        (do
          encodeRequest client request
          let response ← exchangeFrom wire attempts upstream started (attemptCount effect - 1) 0
            started
          mapResponse map response) := by
      rw [sendRequest, secondsOf_eq_ok timeout]
      rfl
    rw [converted, uncaught_bind, uncaught_encodeRequest, ExchangeSafe]
    simp only [timeout, true_and]
    by_cases sendable : Sendable client request
    · have encoded := encodeRequest_eq_ok.mpr sendable
      simp only [sendable, not_true, encoded, exchange, true_and, false_or, exists_const]
    · simp [sendable]
  · have overflows : secondsOf upstream.timeoutMs = .error .overflowError := by
      rw [secondsOf, divideInts, if_pos (Nat.not_lt.mp timeout)]
    have raises : sendRequest client wire attempts upstream started map effect request =
        throw .overflowError := by
      rw [sendRequest, overflows]
      rfl
    simp [raises, timeout, CallRaised.isCaught]

/-- An attempt that does not fail in another way. -/
def WireAttempt.ofAttempt (attempt : Attempt) : WireAttempt where
  outcome := match attempt.outcome with
    | .timedOut => .timedOut
    | .responded response => .responded response
  duration := attempt.duration
  drawn := attempt.drawn
  sleep := attempt.sleep

def Ending.answer : Ending → Calling UpstreamResponse
  | .outcome (.responded response) => return response
  | .outcome .timedOut => throw .timeout
  | .raised error => throw (raisedOf error)

section OfAttempt

variable (attempt : Attempt)

theorem finish_ofAttempt :
    (WireAttempt.ofAttempt attempt).outcome.finish = Ending.answer (.outcome attempt.outcome) := by
  rw [WireAttempt.ofAttempt]
  cases attempt.outcome <;> rfl

theorem isRetryable_ofAttempt :
    (WireAttempt.ofAttempt attempt).outcome.isRetryable = attempt.outcome.isRetryable := by
  rw [WireAttempt.ofAttempt]
  cases attempt.outcome <;> rfl

theorem response?_ofAttempt :
    (WireAttempt.ofAttempt attempt).outcome.response? = attempt.outcome.response? := by
  rw [WireAttempt.ofAttempt]
  cases attempt.outcome <;> rfl

end OfAttempt

/-- Attempts that time out or are answered come to what the run of them ends with. -/
theorem exchangeFrom_ofAttempt {plain : Nat → Attempt} {request : McpPortal.PreparedRequest}
    (left attempt : Nat) (now : Rat) :
    exchangeFrom wire (fun made => .ofAttempt (plain made)) upstream started left attempt now =
      Ending.answer (sendFrom wire plain upstream request started left attempt now).ending := by
  induction left generalizing attempt now with
  | zero => exact finish_ofAttempt (plain attempt)
  | succ left ih =>
      have waits : waitAfter wire (fun made => .ofAttempt (plain made)) upstream started attempt now =
          upstream.waitForRetry wire started (now + (plain attempt).duration) attempt
            (plain attempt).outcome.response? (plain attempt).drawn := by
        rw [waitAfter, response?_ofAttempt]
        rfl
      simp only [exchangeFrom, sendFrom, isRetryable_ofAttempt, waits, finish_ofAttempt, sendOf]
      cases (plain attempt).outcome.isRetryable with
      | false => rfl
      | true =>
          simp only [Bool.not_true, Bool.false_eq_true, if_false]
          cases upstream.waitForRetry wire started (now + (plain attempt).duration) attempt
              (plain attempt).outcome.response? (plain attempt).drawn with
          | spent => rfl
          | raises error => rfl
          | sleeps delay => exact ih _ _

end Exchange

end PyCall

end McpPortal
