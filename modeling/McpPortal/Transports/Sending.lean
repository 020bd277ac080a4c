import Mathlib.Tactic.Linarith
import McpPortal.Transports.Adapter
import McpPortal.Transports.Common

/-!
# Sending a prepared request

Both transports prepare one request and send it up to three times, or once where a
repetition could do harm. A run lists the sends with their times. How each attempt
ends, what the backoff draws and how long a sleep takes come from outside.
-/

namespace McpPortal

open Foundation

inductive Outcome where
  | timedOut
  | responded (response : UpstreamResponse)

/-- One attempt as the outside decides it. -/
structure Attempt where
  outcome : Outcome
  duration : Rat
  drawn : Rat
  sleep : Rat → Rat := id

structure Send where
  request : PreparedRequest
  outcome : Outcome
  startedAt : Rat
  endedAt : Rat

/-- How the loop ends: with the outcome of the last send, or where a time raises. -/
inductive Ending where
  | outcome (outcome : Outcome)
  | raised (error : NumberError)

structure Run where
  sends : List Send
  ending : Ending

def Run.after (rest : Run) (send : Send) : Run :=
  { rest with sends := send :: rest.sends }

/-- What can follow a send. -/
def Outcome.isRetryable : Outcome → Bool
  | .timedOut => true
  | .responded response => isRetryableStatus response.status

def Outcome.response? : Outcome → Option UpstreamResponse
  | .timedOut => none
  | .responded response => some response

/-- `_retryable`. -/
def isRetryableEffect (effect : Effect) : Bool :=
  effect ∈ [Effect.readOnly, Effect.idempotentWrite]

def attemptCount (effect : Effect) : Nat :=
  if isRetryableEffect effect then maxAttempts else 1

section Loop

variable (wire : WireText) (attempts : Nat → Attempt) (upstream : UpstreamConfig)
  (request : PreparedRequest) (started : Rat)

def sendOf (attempt : Nat) (now : Rat) : Send where
  request := request
  outcome := (attempts attempt).outcome
  startedAt := now
  endedAt := now + (attempts attempt).duration

/-- The loop from an attempt on, which `left` more may follow. -/
def sendFrom : (left attempt : Nat) → (now : Rat) → Run
  | 0, attempt, now =>
      { sends := [sendOf attempts request attempt now]
        ending := .outcome (attempts attempt).outcome }
  | left + 1, attempt, now =>
      let made := attempts attempt
      let send := sendOf attempts request attempt now
      if !made.outcome.isRetryable then { sends := [send], ending := .outcome made.outcome }
      else
        match upstream.waitForRetry wire started send.endedAt attempt made.outcome.response?
            made.drawn with
        | .spent => { sends := [send], ending := .outcome made.outcome }
        | .raises error => { sends := [send], ending := .raised error }
        | .sleeps delay =>
            (sendFrom left (attempt + 1) (send.endedAt + made.sleep delay)).after send

/-- Every attempt at a request, the first at the start of the loop. Each is given the timeout,
which the first one converts. -/
def sendAll (effect : Effect) : Run :=
  match secondsOf upstream.timeoutMs with
  | .error error => { sends := [], ending := .raised error }
  | .ok _ => sendFrom wire attempts upstream request started (attemptCount effect - 1) 0 started

end Loop

section Transports

variable (isPrintable : Char → Bool) (network : Network) (wire : WireText)
  (attempts : Nat → Attempt) (started : Rat)

/-- `_map`; `none` where the response has no text, which is read in any case. -/
def HttpTransport.map (upstream : UpstreamConfig) (response : UpstreamResponse) :
    Option MappedResponse :=
  response.text.map fun text =>
    let mapped := mapBody wire response.content (mediaType response) upstream.maxResponseBytes
      (some text)
    { status := response.status
      text := mapped.1
      truncated := mapped.2
      originalBytes := response.content.length }

/-- A GraphQL response with errors fails, whatever its status says. -/
def hasGraphqlErrors (raw : List UInt8) : Bool :=
  match wire.loads raw with
  | some (.obj fields) =>
      match lastField? fields "errors" with
      | some errors => errors.truthy
      | none => false
  | _ => false

def GraphQlTransport.map (upstream : UpstreamConfig) (response : UpstreamResponse) :
    Option MappedResponse :=
  response.text.map fun text =>
    let mapped := mapBody wire response.content (mediaType response) upstream.maxResponseBytes
      (some text)
    { status :=
        if response.status = 200 && hasGraphqlErrors wire response.content then 502
        else response.status
      text := mapped.1
      truncated := mapped.2
      originalBytes := response.content.length }

/-- What a transport maps its responses with. -/
abbrev ResponseMap := UpstreamResponse → Option MappedResponse

/-- What `execute` makes of the outcome it ends with. -/
def Outcome.result (map : ResponseMap) : Outcome → Transporting MappedResponse
  | .timedOut => .error .timeout
  | .responded response =>
      match map response with
      | some mapped => .ok mapped
      | none => .error .other

/-- What `execute` returns or raises once its run has ended. -/
def Run.result (map : ResponseMap) (run : Run) : Transporting MappedResponse :=
  match run.ending with
  | .outcome outcome => outcome.result map
  | .raised _ => .error .other

/-- What both transports do, with the run it takes. -/
def TransportSettings.run (settings : TransportSettings) (execution : Execution)
    (prepare : Option Credential → Build PreparedRequest) : Transporting Run := do
  let credential ← settings.credentialSource.get network execution
  let request ← (prepare credential).mapError (buildFailure isPrintable)
  return sendAll wire attempts settings.upstream request started execution.operation.effect

def HttpTransport.run (settings : TransportSettings) (execution : Execution) : Transporting Run :=
  match execution.operation.binding with
  | .http binding =>
      settings.run isPrintable network wire attempts started execution fun credential =>
        buildRequest isPrintable binding settings.baseUrl execution.arguments credential
  | .graphQl _ => throw .other

def GraphQlTransport.run (settings : TransportSettings) (execution : Execution) :
    Transporting Run :=
  match execution.operation.binding with
  | .graphQl binding =>
      settings.run isPrintable network wire attempts started execution fun credential =>
        return buildGraphqlRequest binding settings.baseUrl execution.arguments credential
  | .http _ => throw .other

/-- The tool result a mapped response makes. -/
def MappedResponse.toolResult (mapped : MappedResponse) : ToolCallResult where
  status := mapped.status
  text := mapped.text

/-- A network that sends in this way. -/
def Network.sending (map : UpstreamConfig → ResponseMap) : Network where
  acquireToken := network.acquireToken
  send upstream effect request :=
    ((sendAll wire attempts upstream request started effect).result (map upstream)).map
      MappedResponse.toolResult

theorem TransportSettings.execute_sending (map : UpstreamConfig → ResponseMap)
    (settings : TransportSettings) (execution : Execution)
    (prepare : Option Credential → Build PreparedRequest) :
    settings.execute isPrintable (network.sending wire attempts started map) execution prepare =
      (settings.run isPrintable network wire attempts started execution prepare).bind
        fun run => (run.result (map settings.upstream)).map MappedResponse.toolResult := by
  have sameCredential : settings.credentialSource.get
      (network.sending wire attempts started map) execution =
        settings.credentialSource.get network execution := rfl
  unfold TransportSettings.execute TransportSettings.run
  rw [sameCredential]
  cases settings.credentialSource.get network execution with
  | error failure => rfl
  | ok credential =>
      simp only [bind, Except.bind]
      cases prepare credential with
      | error raised => rfl
      | ok request => rfl

/-- A transport returns what its run comes to. -/
theorem HttpTransport.execute_sending (settings : TransportSettings) (execution : Execution) :
    HttpTransport.execute isPrintable
        (network.sending wire attempts started (HttpTransport.map wire)) settings execution =
      (HttpTransport.run isPrintable network wire attempts started settings execution).bind
        fun run => (run.result (HttpTransport.map wire settings.upstream)).map
          MappedResponse.toolResult := by
  unfold HttpTransport.execute HttpTransport.run
  cases execution.operation.binding with
  | http binding => exact TransportSettings.execute_sending ..
  | graphQl _ => rfl

theorem GraphQlTransport.execute_sending (settings : TransportSettings) (execution : Execution) :
    GraphQlTransport.execute isPrintable
        (network.sending wire attempts started (GraphQlTransport.map wire)) settings execution =
      (GraphQlTransport.run isPrintable network wire attempts started settings execution).bind
        fun run => (run.result (GraphQlTransport.map wire settings.upstream)).map
          MappedResponse.toolResult := by
  unfold GraphQlTransport.execute GraphQlTransport.run
  cases execution.operation.binding with
  | graphQl binding => exact TransportSettings.execute_sending ..
  | http _ => rfl

end Transports

section Runs

variable {wire : WireText} {attempts : Nat → Attempt} {upstream : UpstreamConfig}
  {request : PreparedRequest} {started : Rat}

/-- The header is absent or an ASCII decimal number. -/
def UpstreamResponse.HasPlainRetryAfter (response : UpstreamResponse) : Prop :=
  ∀ header, response.retryAfter = some header →
    header ≠ "" ∧ header.toList.all Char.isDigit = true

/-- No response carries another kind of `Retry-After`. -/
def Plain (attempts : Nat → Attempt) : Prop :=
  ∀ attempt response, (attempts attempt).outcome = .responded response →
    response.HasPlainRetryAfter

/-- Attempts keep to their timeout, and sleeps are exact. No time is negative. -/
structure Timely (attempts : Nat → Attempt) (upstream : UpstreamConfig) : Prop where
  duration : ∀ attempt, (attempts attempt).duration ≤ upstream.timeoutMs / 1000
  sleep : ∀ attempt delay, (attempts attempt).sleep delay = delay
  duration_nonneg : ∀ attempt, 0 ≤ (attempts attempt).duration
  drawn_nonneg : ∀ attempt, 0 ≤ (attempts attempt).drawn

/-- The times of the configuration can be converted to floats. -/
structure UpstreamConfig.FitsFloats (upstream : UpstreamConfig) : Prop where
  timeout : upstream.timeoutMs < floatLimit * 1000
  total : upstream.maxTotalMs < floatLimit * 1000

/-- The end of the total budget. -/
def UpstreamConfig.deadline (upstream : UpstreamConfig) (started : Rat) : Rat :=
  started + upstream.maxTotalMs / 1000

/-- The end of the total budget, and what the check of it may be off by. -/
def UpstreamConfig.roundedDeadline (upstream : UpstreamConfig) (started : Rat) : Rat :=
  upstream.deadline started + upstream.maxTotalMs / 1000 / 2 ^ 50

theorem readDigits_isSome (value : Nat) {afterDigit : Bool} {text : List Char}
    (digits : text.all Char.isDigit = true) (ends : text = [] → afterDigit = true) :
    (readDigits wire.decimal value afterDigit text).isSome = true := by
  induction text generalizing value afterDigit with
  | nil => simp [readDigits, ends rfl]
  | cons char rest ih =>
      rw [List.all_cons, Bool.and_eq_true] at digits
      have notUnderscore : char ≠ '_' := by
        rintro rfl
        exact absurd digits.1 (by decide)
      rw [readDigits, if_neg notUnderscore, wire.decimalOfDigit digits.1, Option.bind_some]
      exact ih _ digits.2 fun _ => rfl

theorem retryDelay_isSome (attempt : Nat) (statusCode : Option Nat) (drawn : Rat)
    {header : Option String}
    (plain : ∀ text, header = some text → text ≠ "" ∧ text.toList.all Char.isDigit = true) :
    (retryDelay wire attempt statusCode header drawn).isSome = true := by
  unfold retryDelay
  split
  case h_1 => rfl
  case h_2 text =>
    rcases plain text rfl with ⟨nonempty, digits⟩
    split
    · rw [Option.isSome_map, floatOfDigits, Option.isSome_map]
      apply readDigits_isSome 0 digits
      intro empty
      exact absurd (String.toList_eq_nil_iff.mp empty) nonempty
    · rfl

theorem retryDelay_nonneg {attempt : Nat} {statusCode : Option Nat} {header : Option String}
    {delay drawn : Rat} (nonneg : 0 ≤ drawn)
    (isDelay : retryDelay wire attempt statusCode header drawn = some delay) : 0 ≤ delay := by
  have backoff : 0 ≤ backoffBase * 2 ^ attempt * drawn := by
    have base : 0 ≤ backoffBase * 2 ^ attempt := by
      unfold backoffBase
      positivity
    exact mul_nonneg base nonneg
  unfold retryDelay at isDelay
  split at isDelay
  case h_1 =>
    cases isDelay
    exact backoff
  case h_2 =>
    split at isDelay
    case isTrue =>
      simp only [floatOfDigits, Option.map_map, Option.map_eq_some_iff, Function.comp_apply]
        at isDelay
      rcases isDelay with ⟨seconds, _, rfl⟩
      exact le_min (Nat.cast_nonneg seconds) (by norm_num [retryAfterCap])
    case isFalse =>
      cases isDelay
      exact backoff

theorem secondsOf_eq_ok {milliseconds : Nat} (fits : milliseconds < floatLimit * 1000) :
    secondsOf milliseconds = .ok (float (milliseconds / 1000)) :=
  divideInts_eq_ok fits

/-- A delay that is slept passes the check with the rounded times. -/
theorem sleeps_iff (fits : upstream.FitsFloats) {now delay drawn : Rat} {attempt : Nat}
    {response : Option UpstreamResponse} :
    upstream.waitForRetry wire started now attempt response drawn = .sleeps delay ↔
      retryDelay wire attempt (response.map (·.status)) (response.bind (·.retryAfter)) drawn =
          some delay ∧
        float (delay + float (upstream.timeoutMs / 1000)) ≤
          float (float (upstream.maxTotalMs / 1000) - float (now - started)) := by
  simp only [UpstreamConfig.waitForRetry, waitForRetry, remainingBudget,
    secondsOf_eq_ok fits.timeout, secondsOf_eq_ok fits.total, Except.map]
  cases retryDelay wire attempt (response.map (·.status)) (response.bind (·.retryAfter)) drawn with
  | none => simp
  | some slept =>
      simp only
      split
      case isTrue tooLong =>
        simp only [reduceCtorEq, Option.some.injEq, false_iff, not_and, not_le]
        rintro rfl
        exact tooLong
      case isFalse fitting =>
        simp only [Wait.sleeps.injEq, Option.some.injEq, iff_self_and]
        rintro rfl
        exact not_lt.mp fitting

/-- A check with rounded times is off by little. -/
theorem fits_of_float {total elapsed delay timeout : Rat} (elapsedNonneg : 0 ≤ elapsed)
    (delayNonneg : 0 ≤ delay) (someTimeout : 1 / 1000 ≤ timeout) (someTotal : 1 / 1000 ≤ total)
    (fits : float (delay + float timeout) ≤ float (float total - float elapsed)) :
    elapsed + delay + timeout ≤ total + total / 2 ^ 50 := by
  rcases float_bounds (by linarith : 0 ≤ timeout) with ⟨timeoutLow, timeoutHigh⟩
  rcases float_bounds (by linarith : 0 ≤ total) with ⟨totalLow, totalHigh⟩
  rcases float_bounds elapsedNonneg with ⟨elapsedLow, elapsedHigh⟩
  have floatTimeout : 0 ≤ float timeout := by linarith
  rcases float_bounds (by linarith : 0 ≤ delay + float timeout) with ⟨neededLow, neededHigh⟩
  by_cases negative : float total - float elapsed < 0
  · -- A spent budget pays for no attempt.
    have near := (abs_le.mp (abs_float_sub_le (float total - float elapsed))).2
    have smallest := smallestFloat_le
    rw [abs_of_neg negative] at near
    linarith
  · rcases float_bounds (not_lt.mp negative) with ⟨remainingLow, remainingHigh⟩
    linarith

theorem one_thousandth_le {milliseconds : Nat} (positive : 0 < milliseconds) :
    (1 : Rat) / 1000 ≤ milliseconds / 1000 := by
  have one : (1 : Rat) ≤ milliseconds := by exact_mod_cast positive
  linarith

/-- A delay that is slept leaves room for the attempt it pays for. -/
theorem fits_of_waitForRetry (fits : upstream.FitsFloats) {now delay drawn : Rat} {attempt : Nat}
    {response : Option UpstreamResponse} (drawnNonneg : 0 ≤ drawn) (later : started ≤ now)
    (sleeps : upstream.waitForRetry wire started now attempt response drawn = .sleeps delay) :
    0 ≤ delay ∧ now + delay + upstream.timeoutMs / 1000 ≤ upstream.roundedDeadline started := by
  rcases (sleeps_iff fits).mp sleeps with ⟨isDelay, fitting⟩
  have delayNonneg := retryDelay_nonneg drawnNonneg isDelay
  have bound := fits_of_float (sub_nonneg.mpr later) delayNonneg
    (one_thousandth_le upstream.positive.1) (one_thousandth_le upstream.positive.2.1) fitting
  refine ⟨delayNonneg, ?_⟩
  rw [UpstreamConfig.roundedDeadline, UpstreamConfig.deadline]
  linarith

theorem waitForRetry_ne_raises (fits : upstream.FitsFloats) {now drawn : Rat} {attempt : Nat}
    {outcome : Outcome} {error : NumberError}
    (plain : ∀ response, outcome = .responded response → response.HasPlainRetryAfter) :
    upstream.waitForRetry wire started now attempt outcome.response? drawn ≠ .raises error := by
  have isSome : (retryDelay wire attempt (outcome.response?.map (·.status))
      (outcome.response?.bind (·.retryAfter)) drawn).isSome = true := by
    apply retryDelay_isSome
    intro text isHeader
    cases outcome with
    | timedOut => cases isHeader
    | responded response => exact plain response rfl text isHeader
  rcases Option.isSome_iff_exists.mp isSome with ⟨delay, isDelay⟩
  simp only [UpstreamConfig.waitForRetry, waitForRetry, remainingBudget,
    secondsOf_eq_ok fits.timeout, secondsOf_eq_ok fits.total, Except.map, isDelay]
  split <;> simp

/-- What holds of the sends of a run that may take `left` more after its first. -/
structure Bounded (request : PreparedRequest) (left : Nat) (run : Run) : Prop where
  copies : ∀ send ∈ run.sends, send.request = request
  atLeast : 1 ≤ run.sends.length
  atMost : run.sends.length ≤ left + 1
  repeats : ∀ before send next after, run.sends = before ++ send :: next :: after →
    send.outcome.isRetryable = true
  ends : ∃ before last, run.sends = before ++ [last] ∧ run.ending = .outcome last.outcome

theorem bounded_single (left attempt : Nat) (now : Rat) :
    Bounded request left
      { sends := [sendOf attempts request attempt now]
        ending := .outcome (attempts attempt).outcome } := by
  constructor
  · intro send sendMem
    rw [List.mem_singleton.mp sendMem]
    rfl
  · exact le_refl 1
  · exact Nat.le_add_left 1 left
  · intro before send next after isSends
    have length := congrArg List.length isSends
    simp only [List.length_cons, List.length_nil, List.length_append] at length
    omega
  · exact ⟨[], sendOf attempts request attempt now, rfl, rfl⟩

theorem Bounded.after {left attempt : Nat} {now : Rat} {rest : Run}
    (bounded : Bounded request left rest)
    (retryable : (attempts attempt).outcome.isRetryable = true) :
    Bounded request (left + 1) (rest.after (sendOf attempts request attempt now)) := by
  constructor
  · intro send sendMem
    rcases List.mem_cons.mp sendMem with rfl | later
    · rfl
    · exact bounded.copies send later
  · exact Nat.le_add_left 1 _
  · exact Nat.succ_le_succ bounded.atMost
  · intro before send next after isSends
    cases before with
    | nil =>
        rw [Run.after, List.nil_append, List.cons.injEq] at isSends
        rw [← isSends.1]
        exact retryable
    | cons first others =>
        rw [Run.after, List.cons_append, List.cons.injEq] at isSends
        exact bounded.repeats others send next after isSends.2
  · rcases bounded.ends with ⟨before, last, isSends, isEnding⟩
    exact ⟨_ :: before, last, by rw [Run.after, isSends, List.cons_append], isEnding⟩

theorem bounded_sendFrom (fits : upstream.FitsFloats) (plain : Plain attempts)
    (left attempt : Nat) (now : Rat) :
    Bounded request left (sendFrom wire attempts upstream request started left attempt now) := by
  induction left generalizing attempt now with
  | zero => exact bounded_single 0 attempt now
  | succ left ih =>
      simp only [sendFrom]
      split
      case isTrue => exact bounded_single (left + 1) attempt now
      case isFalse retryable =>
        rw [Bool.not_eq_true, Bool.not_eq_false'] at retryable
        split
        case h_1 => exact bounded_single (left + 1) attempt now
        case h_2 raises => exact absurd raises (waitForRetry_ne_raises fits (plain attempt))
        case h_3 delay sleeps => exact (ih _ _).after retryable

/-- The first send starts when the loop gets to it. -/
theorem exists_sends_sendFrom (left attempt : Nat) (now : Rat) :
    ∃ later, (sendFrom wire attempts upstream request started left attempt now).sends =
      sendOf attempts request attempt now :: later := by
  cases left with
  | zero => exact ⟨[], rfl⟩
  | succ left =>
      simp only [sendFrom]
      split
      · exact ⟨[], rfl⟩
      · split
        · exact ⟨[], rfl⟩
        · exact ⟨[], rfl⟩
        · exact ⟨_, rfl⟩

/-- Every send after the first ends within the total budget. -/
theorem endsInTime_sendFrom (fits : upstream.FitsFloats) (timely : Timely attempts upstream)
    (left attempt : Nat) {now : Rat} (later : started ≤ now) :
    ∀ send ∈ (sendFrom wire attempts upstream request started left attempt now).sends.tail,
      send.endedAt ≤ upstream.roundedDeadline started := by
  induction left generalizing attempt now with
  | zero => exact List.forall_mem_nil _
  | succ left ih =>
      have rest {resumed : Rat} (laterToo : started ≤ resumed)
          (inTime : resumed + upstream.timeoutMs / 1000 ≤ upstream.roundedDeadline started) :
          ∀ send ∈ (sendFrom wire attempts upstream request started left (attempt + 1) resumed).sends,
            send.endedAt ≤ upstream.roundedDeadline started := by
        intro send sendMem
        have others := ih (attempt + 1) laterToo send
        rcases @exists_sends_sendFrom wire attempts upstream request started left (attempt + 1) resumed
          with ⟨after, isSends⟩
        rw [isSends] at sendMem others
        rcases List.mem_cons.mp sendMem with rfl | isAfter
        · have short := timely.duration (attempt + 1)
          change resumed + (attempts (attempt + 1)).duration ≤ _
          linarith
        · exact others isAfter
      simp only [sendFrom]
      split
      case isTrue => exact List.forall_mem_nil _
      case isFalse =>
        split
        case h_1 => exact List.forall_mem_nil _
        case h_2 => exact List.forall_mem_nil _
        case h_3 delay sleeps =>
          have ended : started ≤ now + (attempts attempt).duration :=
            le_add_of_le_of_nonneg later (timely.duration_nonneg attempt)
          rcases fits_of_waitForRetry fits (timely.drawn_nonneg attempt) ended sleeps with
            ⟨delayNonneg, inTime⟩
          rw [timely.sleep]
          exact rest (le_add_of_le_of_nonneg ended delayNonneg) inTime

/-- How many sends there are depends on nothing but times and outcomes. -/
theorem length_sends_sendFrom (other : PreparedRequest) (left attempt : Nat) (now : Rat) :
    (sendFrom wire attempts upstream request started left attempt now).sends.length =
      (sendFrom wire attempts upstream other started left attempt now).sends.length := by
  induction left generalizing attempt now with
  | zero => rfl
  | succ left ih =>
      simp only [sendFrom]
      split
      · rfl
      · simp only [sendOf]
        split
        · rfl
        · rfl
        · simp only [Run.after, List.length_cons]
          rw [ih]

/-- What a transport may send for one call, and what it makes of it. -/
structure Dutiful (isPrintable : Char → Bool) (network : Network) (attempts : Nat → Attempt)
    (deadline : Rat) (map : ResponseMap) (settings : TransportSettings) (execution : Execution)
    (run : Run) : Prop where
  copies : ∃ credential request, settings.credentialSource.get network execution = .ok credential ∧
    operationRequest isPrintable execution.operation settings.baseUrl execution.arguments
      credential = .ok request ∧ ∀ send ∈ run.sends, send.request = request
  once : execution.operation.effect = .action → run.sends.length = 1
  count : 1 ≤ run.sends.length ∧ run.sends.length ≤ 3
  repeats : ∀ before send next after, run.sends = before ++ send :: next :: after →
    send.outcome.isRetryable = true
  result : ∃ before last, run.sends = before ++ [last] ∧ run.result map = last.outcome.result map
  inTime : Timely attempts settings.upstream → ∀ send ∈ run.sends.tail, send.endedAt ≤ deadline

variable {isPrintable : Char → Bool} {network : Network} {settings : TransportSettings}
  {execution : Execution} {run : Run}

theorem exists_request_of_run {prepare : Option Credential → Build PreparedRequest}
    (ran : settings.run isPrintable network wire attempts started execution prepare = .ok run) :
    ∃ credential request, settings.credentialSource.get network execution = .ok credential ∧
      prepare credential = .ok request ∧
      run = sendAll wire attempts settings.upstream request started execution.operation.effect := by
  simp only [TransportSettings.run, bind_eq_ok, mapError_eq_ok, pure_eq_ok] at ran
  rcases ran with ⟨credential, acquired, request, prepared, rfl⟩
  exact ⟨credential, request, acquired, prepared, rfl⟩

theorem sendAll_eq (fits : upstream.FitsFloats) (effect : Effect) :
    sendAll wire attempts upstream request started effect =
      sendFrom wire attempts upstream request started (attemptCount effect - 1) 0 started := by
  rw [sendAll, secondsOf_eq_ok fits.timeout]

theorem dutiful_of_run (fits : settings.upstream.FitsFloats) (plain : Plain attempts)
    (map : ResponseMap) {prepare : Option Credential → Build PreparedRequest}
    (prepares : ∀ credential, prepare credential =
      operationRequest isPrintable execution.operation settings.baseUrl execution.arguments
        credential)
    (ran : settings.run isPrintable network wire attempts started execution prepare = .ok run) :
    Dutiful isPrintable network attempts (settings.upstream.roundedDeadline started) map settings
      execution run := by
  rcases exists_request_of_run ran with ⟨credential, request, acquired, prepared, rfl⟩
  rw [prepares] at prepared
  rw [sendAll_eq fits]
  have bounded := @bounded_sendFrom wire attempts settings.upstream request started fits plain
    (attemptCount execution.operation.effect - 1) 0 started
  constructor
  · exact ⟨credential, request, acquired, prepared, bounded.copies⟩
  · intro isAction
    have atMost := bounded.atMost
    rw [isAction] at atMost
    exact le_antisymm (isAction ▸ atMost) bounded.atLeast
  · have fewer : attemptCount execution.operation.effect - 1 + 1 ≤ 3 := by
      unfold attemptCount maxAttempts
      split <;> decide
    exact ⟨bounded.atLeast, bounded.atMost.trans fewer⟩
  · exact bounded.repeats
  · rcases bounded.ends with ⟨before, last, isSends, isEnding⟩
    refine ⟨before, last, isSends, ?_⟩
    rw [Run.result, isEnding]
  · intro timely
    exact endsInTime_sendFrom fits timely _ 0 (le_refl started)

/-- Both transports send in the same bounded way, and as often as each other. -/
theorem transports_dutiful (isPrintable : Char → Bool) (network : Network) (wire : WireText)
    {attempts : Nat → Attempt} (started : Rat) (plain : Plain attempts) :
    (∀ settings execution run, settings.upstream.FitsFloats →
      HttpTransport.run isPrintable network wire attempts started settings execution = .ok run →
        Dutiful isPrintable network attempts (settings.upstream.roundedDeadline started)
          (HttpTransport.map wire settings.upstream) settings execution run) ∧
    (∀ settings execution run, settings.upstream.FitsFloats →
      GraphQlTransport.run isPrintable network wire attempts started settings execution = .ok run →
        Dutiful isPrintable network attempts (settings.upstream.roundedDeadline started)
          (GraphQlTransport.map wire settings.upstream) settings execution run) ∧
    ∀ settings otherSettings execution otherExecution run otherRun,
      HttpTransport.run isPrintable network wire attempts started settings execution = .ok run →
      GraphQlTransport.run isPrintable network wire attempts started otherSettings otherExecution =
        .ok otherRun →
      settings.upstream = otherSettings.upstream →
      execution.operation.effect = otherExecution.operation.effect →
        run.sends.length = otherRun.sends.length := by
  refine ⟨?_, ?_, ?_⟩
  · intro settings execution run fits ran
    unfold HttpTransport.run at ran
    split at ran
    case h_1 binding isHttp =>
      apply dutiful_of_run fits plain _ _ ran
      intro credential
      rw [operationRequest, isHttp]
    case h_2 => cases ran
  · intro settings execution run fits ran
    unfold GraphQlTransport.run at ran
    split at ran
    case h_1 binding isGraphQl =>
      apply dutiful_of_run fits plain _ _ ran
      intro credential
      rw [operationRequest, isGraphQl]
    case h_2 => cases ran
  · intro settings otherSettings execution otherExecution run otherRun ran otherRan sameUpstream
      sameEffect
    unfold HttpTransport.run at ran
    unfold GraphQlTransport.run at otherRan
    split at ran
    case h_1 =>
      split at otherRan
      case h_1 =>
        rcases exists_request_of_run ran with ⟨_, request, _, _, rfl⟩
        rcases exists_request_of_run otherRan with ⟨_, otherRequest, _, _, rfl⟩
        rw [sameUpstream, sameEffect]
        unfold sendAll
        split
        · rfl
        · exact length_sends_sendFrom otherRequest _ 0 started
      case h_2 => cases otherRan
    case h_2 => cases ran

section Outage

private def statusOperation : Operation where
  id := "status"
  upstream := "bank"
  name := "status"
  title := ""
  description := ""
  groupTags := []
  effect := .readOnly
  sensitivity := .normal
  inputSchema := []
  binding := .http { method := "GET", path := "/status" }

private def statusSettings : TransportSettings where
  upstream := { baseUrl := some { text := "https://bank" }, positive := positive_defaultLimits }
  baseUrl := "https://bank"
  credentialSource := .static none

/-- A timeout, a 429 that asks for two seconds, then an answer. -/
private def outage : Nat → Attempt
  | 0 => { outcome := .timedOut, duration := 30, drawn := 1 }
  | 1 => { outcome := .responded { status := 429, retryAfter := some "2" }, duration := 1, drawn := 1 }
  | _ => { outcome := .responded { status := 200, text := some "up" }, duration := 1, drawn := 1 }

private def asciiWire : WireText where
  isDigit := Char.isDigit
  decimal char := if char.isDigit then some (char.toNat - '0'.toNat) else none
  decimalOfDigit isDigit := if_pos isDigit
  decode _ := ""
  decodeJson _ := none
  readFloat literal := { repr := literal, value := 0 }

private def offline : Network where
  acquireToken _ _ _ _ := .error .other
  send _ _ _ := .error .other

private def outageRun : Transporting Run :=
  HttpTransport.run (fun _ => true) offline asciiWire outage 0 statusSettings
    { operation := statusOperation, arguments := [] }

theorem plain_outage : Plain outage := by
  intro attempt response responded
  match attempt with
  | 0 => cases responded
  | 1 =>
      cases responded
      intro header isHeader
      cases isHeader
      decide
  | _ + 2 =>
      cases responded
      exact nofun

theorem timely_outage : Timely outage statusSettings.upstream := by
  have timeout : (statusSettings.upstream.timeoutMs : Rat) / 1000 = 30 := by
    norm_num [statusSettings]
  constructor
  · intro attempt
    rw [timeout]
    match attempt with
    | 0 => exact le_refl _
    | 1 =>
        change (1 : Rat) ≤ 30
        norm_num
    | _ + 2 =>
        change (1 : Rat) ≤ 30
        norm_num
  · intro attempt delay
    match attempt with
    | 0 => rfl
    | 1 => rfl
    | _ + 2 => rfl
  · intro attempt
    match attempt with
    | 0 =>
        change (0 : Rat) ≤ 30
        norm_num
    | 1 => exact zero_le_one
    | _ + 2 => exact zero_le_one
  · intro attempt
    match attempt with
    | 0 => exact zero_le_one
    | 1 => exact zero_le_one
    | _ + 2 => exact zero_le_one

theorem fitsFloats_status : statusSettings.upstream.FitsFloats :=
  ⟨by decide +kernel, by decide +kernel⟩

/-- A read-only call survives the outage within its budget of 90 seconds. -/
theorem transports_dutiful_outage :
    ∃ run, outageRun = .ok run ∧ run.sends.length = 3 ∧
      run.result (HttpTransport.map asciiWire statusSettings.upstream) =
        .ok { status := 200, text := "up", truncated := false, originalBytes := 0 } ∧
      ∀ send ∈ run.sends.tail, send.endedAt ≤ 90 + 90 / 2 ^ 50 := by
  have length : outageRun.toOption.map (·.sends.length) = some 3 := by decide +kernel
  have result : outageRun.toOption.bind (fun run =>
      (run.result (HttpTransport.map asciiWire statusSettings.upstream)).toOption) =
        some { status := 200, text := "up", truncated := false, originalBytes := 0 } := by
    decide +kernel
  cases ran : outageRun with
  | error failure =>
      rw [ran] at length
      cases length
  | ok run =>
      rw [ran] at length result
      have dutiful := (transports_dutiful (fun _ => true) offline asciiWire 0 plain_outage).1
        statusSettings _ run fitsFloats_status ran
      refine ⟨run, rfl, Option.some.inj length, ?_, ?_⟩
      · change (run.result _).toOption = _ at result
        cases mapped : run.result (HttpTransport.map asciiWire statusSettings.upstream) with
        | error failure =>
            rw [mapped] at result
            cases result
        | ok response =>
            rw [mapped] at result
            rw [Option.some.inj result]
      · have budget : statusSettings.upstream.roundedDeadline 0 = 90 + 90 / 2 ^ 50 := by
          norm_num [statusSettings, UpstreamConfig.roundedDeadline, UpstreamConfig.deadline]
        intro send sendMem
        rw [← budget]
        exact dutiful.inTime timely_outage send sendMem

end Outage

section Deadlines

/-- A payment is given a time that is no float. -/
private def endlessSettings : TransportSettings where
  upstream :=
    { baseUrl := some { text := "https://bank" }, timeoutMs := 10 ^ 312
      positive := by decide +kernel }
  baseUrl := "https://bank"
  credentialSource := .static none

private def endlessRun : Transporting Run :=
  HttpTransport.run (fun _ => true) offline asciiWire outage 0 endlessSettings
    { operation := { statusOperation with effect := .action }, arguments := [] }

/-- Three milliseconds for attempts of one. -/
private def hastySettings : TransportSettings where
  upstream :=
    { baseUrl := some { text := "https://bank" }, timeoutMs := 1, maxTotalMs := 3
      positive := by decide }
  baseUrl := "https://bank"
  credentialSource := .static none

/-- A timeout at once, the longest pause that the check lets pass, and a whole millisecond. -/
private def hasty : Nat → Attempt
  | 0 => { outcome := .timedOut, duration := 0, drawn := 10 * float (2 / 1000) }
  | _ => { outcome := .responded { status := 200 }, duration := 1 / 1000, drawn := 0 }

private def hastyRun : Transporting Run :=
  HttpTransport.run (fun _ => true) offline asciiWire hasty 0 hastySettings
    { operation := statusOperation, arguments := [] }

private theorem timely_hasty : Timely hasty hastySettings.upstream := by
  have timeout : (hastySettings.upstream.timeoutMs : Rat) / 1000 = 1 / 1000 := by
    norm_num [hastySettings]
  constructor
  · intro attempt
    rw [timeout]
    cases attempt with
    | zero =>
        change (0 : Rat) ≤ 1 / 1000
        norm_num
    | succ => exact le_refl _
  · intro attempt delay
    cases attempt <;> rfl
  · intro attempt
    cases attempt with
    | zero => exact le_refl _
    | succ =>
        change (0 : Rat) ≤ 1 / 1000
        norm_num
  · intro attempt
    cases attempt with
    | zero =>
        change 0 ≤ 10 * float (2 / 1000)
        decide +kernel
    | succ => exact le_refl _

/-- A timeout beyond all floats keeps a payment from being sent at all, and floats near a thousandth
let an attempt end after its deadline. -/
theorem transports_dutiful_fails_at_deadline :
    (∃ run, endlessRun = .ok run ∧
      ¬Dutiful (fun _ => true) offline outage (endlessSettings.upstream.deadline 0)
        (HttpTransport.map asciiWire endlessSettings.upstream) endlessSettings
        { operation := { statusOperation with effect := .action }, arguments := [] } run) ∧
    ∃ run, hastyRun = .ok run ∧
      ¬Dutiful (fun _ => true) offline hasty (hastySettings.upstream.deadline 0)
        (HttpTransport.map asciiWire hastySettings.upstream) hastySettings
        { operation := statusOperation, arguments := [] } run := by
  constructor
  · have unsent : endlessRun.toOption.map (·.sends.length) = some 0 := by decide +kernel
    cases ran : endlessRun with
    | error failure =>
        rw [ran] at unsent
        cases unsent
    | ok run =>
        rw [ran] at unsent
        have noSends : run.sends.length = 0 := Option.some.inj unsent
        refine ⟨run, rfl, ?_⟩
        intro dutiful
        have sent := dutiful.count.1
        omega
  · have late : hastyRun.toOption.map (fun run =>
        run.sends.tail.any fun send => hastySettings.upstream.deadline 0 < send.endedAt) =
          some true := by decide +kernel
    cases ran : hastyRun with
    | error failure =>
        rw [ran] at late
        cases late
    | ok run =>
        rw [ran] at late
        rcases List.any_eq_true.mp (Option.some.inj late) with ⟨send, sendMem, isLate⟩
        refine ⟨run, rfl, ?_⟩
        intro dutiful
        exact absurd (of_decide_eq_true isLate) (not_lt.mpr (dutiful.inTime timely_hasty send sendMem))

end Deadlines

end Runs

end McpPortal
