import McpPortal.Server.ServiceInvariant

/-!
# What a step of the server does

A step moves one call: it goes on from a cache, with what the cache has learnt on the way, or it
moves within the loop over its attempts. The loop is the one that sends all attempts at once.
-/

namespace McpPortal

open Foundation

namespace Service

variable {Key : Type} (portal : Portal Key)

section Parts

variable {portal} {state middle next : State} {call other : CallId}

theorem Agrees.trans {first second third : State} (before : Agrees call first second)
    (after : Agrees call second third) : Agrees call first third :=
  ⟨after.arrival.trans before.arrival, after.key.trans before.key,
    after.request.trans before.request, after.credential.trans before.credential,
    after.log.trans before.log,
    fun reply replyMem => after.replies reply (before.replies reply replyMem)⟩

theorem agrees_credentials {credentials : Acquire.State} {action : Acquire.Action}
    (stepped : Acquire.step portal.world state.credentials action = some credentials)
    (uninvolved : action.task? ≠ some other) : Agrees other state { state with credentials } := by
  have kept := Acquire.keeps_others stepped uninvolved
  exact ⟨rfl, rfl, kept.2, kept.1, rfl, fun _ replyMem => replyMem⟩

theorem calls_of_key_step {keys : JwksCache.State} {action : JwksCache.Action}
    (stepped : JwksCache.step state.keys action = some keys) (isTask : action.task? = some call)
    (different : other ≠ call) : keys.calls other = state.keys.calls other := by
  rcases JwksCache.exists_moves isTask stepped with ⟨_, _, calls⟩
  rw [calls, Function.update_of_ne different]

/-- In the middle of a step of a call, the invariant holds but for this call. -/
structure Between (portal : Portal Key) (state middle : State) (call : CallId) : Prop where
  others : ∀ other, other ≠ call →
    Agrees other state middle ∧ middle.stages other = state.stages other
  requested : Acquire.Requested portal.world middle.credentials
  provided : ∀ {kid jwk}, Dict.get? middle.keys.keys kid = some jwk →
    ∃ reply ∈ middle.keyReplies, reply.Provides kid jwk
  arrived : middle.arrivals call ≠ none

/-- A call that has not arrived is untouched. -/
theorem Coherent.untouched_of_fresh (coherent : Coherent portal state)
    (absent : state.arrivals call = none) : Untouched state call := by
  have placed := coherent.placed call
  rcases coherent.fresh absent with ⟨isIdle, _, _, unasked⟩
  rw [isIdle] at placed
  exact ⟨placed, unasked⟩

/-- A step of the key set for a call, with the reply that it may have read. -/
theorem Coherent.between_keys (coherent : Coherent portal state) {keys : JwksCache.State}
    {action : JwksCache.Action} (arrivals : CallId → Option Arrival)
    (keyReplies : List JwksCache.Reply)
    (stepped : JwksCache.step state.keys action = some keys) (isTask : action.task? = some call)
    (arrived : arrivals call ≠ none)
    (others : ∀ other, other ≠ call → arrivals other = state.arrivals other)
    (replies : ∀ reply ∈ state.keyReplies, reply ∈ keyReplies)
    (read : ∀ task reply, action = .replied task reply → reply ∈ keyReplies) :
    Between portal state { state with keys, arrivals, keyReplies } call := by
  refine ⟨?_, coherent.requested, ?_, arrived⟩
  · intro other different
    exact ⟨⟨others other different, calls_of_key_step stepped isTask different, rfl, rfl, rfl,
      replies⟩, rfl⟩
  · intro kid jwk found
    rcases JwksCache.provides_of_step stepped found with before | ⟨task, reply, isReply, provides⟩
    · rcases coherent.provided before with ⟨reply, replyMem, provides⟩
      exact ⟨reply, replies reply replyMem, provides⟩
    · exact ⟨reply, read task reply isReply, provides⟩

theorem Coherent.arrive (coherent : Coherent portal state) {arrival : Arrival}
    (absent : state.arrivals call = none)
    (stepped : state.arrive portal call arrival = some next) :
    ∃ middle : State, Between portal state middle call ∧ middle.logOf call = [] ∧
      Reaches portal middle call next ∧ middle.credentials = state.credentials ∧
      middle.arrivals = Function.update state.arrivals call (some arrival) ∧
      (middle.keys = state.keys ∨
        ∃ kid, JwksCache.step state.keys (.start call kid) = some middle.keys) := by
  have untouched := coherent.untouched_of_fresh absent
  have unverified : ¬(state.keys.calls call).IsPending :=
    fun pending => pending.1 (coherent.fresh absent).2.1
  have noted : Function.update state.arrivals call (some arrival) call = some arrival :=
    Function.update_self ..
  have others : ∀ other, other ≠ call →
      Function.update state.arrivals call (some arrival) other = state.arrivals other :=
    fun other different => Function.update_of_ne different ..
  have hasArrived : Function.update state.arrivals call (some arrival) call ≠ none := by
    rw [noted]
    exact Option.some_ne_none _
  let middle := { state with arrivals := Function.update state.arrivals call (some arrival) }
  have between : Between portal state middle call := by
    refine ⟨?_, coherent.requested, coherent.provided, hasArrived⟩
    intro other different
    exact ⟨⟨others other different, rfl, rfl, rfl, rfl, fun _ replyMem => replyMem⟩, rfl⟩
  have silent : middle.logOf call = [] := untouched.silent
  have resting : Resting middle call := untouched.resting unverified
  have enters : Reaches portal middle call next →
      ∃ middle : State, Between portal state middle call ∧ middle.logOf call = [] ∧
        Reaches portal middle call next ∧ middle.credentials = state.credentials ∧
        middle.arrivals = Function.update state.arrivals call (some arrival) ∧
        (middle.keys = state.keys ∨
          ∃ kid, JwksCache.step state.keys (.start call kid) = some middle.keys) :=
    fun reaches => ⟨middle, between, silent, reaches, rfl, rfl, Or.inl rfl⟩
  unfold State.arrive at stepped
  dsimp only at stepped
  split at stepped
  case isTrue open_ =>
    apply enters
    exact reaches_onCallTool ⟨silent, untouched.unasked⟩ unverified noted (.anyone open_) stepped
  case isFalse notOpen =>
    have closed := not_not.mp notOpen
    split at stepped
    case h_1 =>
      cases stepped
      exact enters (reaches_of_goes (.stops rfl silent resting))
    case h_2 token presented =>
      split at stepped
      case h_1 =>
        cases stepped
        exact enters (reaches_of_goes (.stops rfl silent resting))
      case h_2 =>
        cases stepped
        exact enters (reaches_of_goes (.stops rfl silent resting))
      case h_3 algorithm kid wanted =>
        rcases Option.bind_eq_some_iff.mp stepped with ⟨keys, started, keyed⟩
        have asked := coherent.between_keys _ state.keyReplies started rfl hasArrived others
          (fun _ replyMem => replyMem) (fun _ _ isReply => by cases isReply)
        refine ⟨_, asked, silent, ?_, rfl, rfl, Or.inr ⟨kid, started⟩⟩
        exact reaches_keyed ⟨silent, untouched.unasked⟩ (coherent.fresh absent).2.2.1 noted presented
          closed wanted (JwksCache.isFor_of_start started) asked.provided keyed

/-- A step of the key set for a call whose token is being verified. -/
theorem Coherent.keyed (coherent : Coherent portal state) {token algorithm : String}
    {request : CallToolRequest} {keys : JwksCache.State} {action : JwksCache.Action}
    {keyReplies : List JwksCache.Reply}
    (isStage : state.stages call = .verifying token algorithm request)
    (stepped : JwksCache.step state.keys action = some keys) (isTask : action.task? = some call)
    (isFor : ∀ kid, (state.keys.calls call).IsFor state.keys.keys kid →
      (keys.calls call).IsFor keys.keys kid)
    (replies : ∀ reply ∈ state.keyReplies, reply ∈ keyReplies)
    (read : ∀ task reply, action = .replied task reply → reply ∈ keyReplies)
    (goesOn : { state with keys, keyReplies }.keyed portal call token algorithm request =
      some next) :
    Between portal state { state with keys, keyReplies } call ∧ state.logOf call = [] ∧
      Reaches portal { state with keys, keyReplies } call next := by
  have placed := coherent.placed call
  rw [isStage] at placed
  rcases placed with
    ⟨silent, unasked, idle, closed, arrival, kid, arrived, presented, rfl, wanted, waits⟩
  have hasArrived : state.arrivals call ≠ none := by
    rw [arrived]
    exact Option.some_ne_none _
  have between := coherent.between_keys state.arrivals keyReplies stepped isTask hasArrived
    (fun _ _ => rfl) replies read
  have wasFor : (state.keys.calls call).IsFor state.keys.keys kid := by
    rcases waits with waiting | ⟨now, fetching⟩
    · rw [waiting]
      rfl
    · rw [fetching]
      rfl
  refine ⟨between, silent, ?_⟩
  exact reaches_keyed ⟨silent, idle⟩ unasked arrived presented closed wanted (isFor kid wasFor)
    between.provided goesOn

theorem Coherent.keyLockTaken (coherent : Coherent portal state) {token algorithm : String}
    {request : CallToolRequest} {keys : JwksCache.State}
    (isStage : state.stages call = .verifying token algorithm request)
    (resumed : JwksCache.step state.keys (.resume call) = some keys)
    (goesOn : { state with keys }.keyed portal call token algorithm request = some next) :
    Between portal state { state with keys } call ∧ state.logOf call = [] ∧
      Reaches portal { state with keys } call next := by
  apply coherent.keyed isStage resumed rfl _ _ _ goesOn
  · exact fun kid isFor => JwksCache.isFor_of_resume isFor resumed
  · exact fun _ replyMem => replyMem
  · exact fun _ _ isReply => by cases isReply

theorem Coherent.keysReplied (coherent : Coherent portal state) {token algorithm : String}
    {request : CallToolRequest} {keys : JwksCache.State} {reply : JwksCache.Reply}
    (isStage : state.stages call = .verifying token algorithm request)
    (replied : JwksCache.step state.keys (.replied call reply) = some keys)
    (goesOn : { state with keys, keyReplies := reply :: state.keyReplies }.keyed portal call token
      algorithm request = some next) :
    Between portal state { state with keys, keyReplies := reply :: state.keyReplies } call ∧
      state.logOf call = [] ∧
      Reaches portal { state with keys, keyReplies := reply :: state.keyReplies } call next := by
  apply coherent.keyed isStage replied rfl _ _ _ goesOn
  · exact fun kid isFor => JwksCache.isFor_of_replied isFor replied
  · exact fun _ replyMem => List.mem_cons_of_mem _ replyMem
  · intro task other isReply
    cases isReply
    exact List.mem_cons_self

/-- A step of the token cache for a call whose credential is being acquired. -/
theorem Coherent.acquired (coherent : Coherent portal state) {job : Job}
    {failure : TransportFailure} {credentials : Acquire.State} {action : Acquire.Action}
    (isStage : state.stages call = .acquiring job)
    (stepped : Acquire.step portal.world state.credentials action = some credentials)
    (isTask : action.task? = some call) (notGet : ∀ request, action ≠ .get call request) :
    Between portal state { state with credentials } call ∧ state.logOf call = [] ∧
      Goes portal { state with credentials } call
        ({ state with credentials }.acquired portal call job failure) := by
  have placed := coherent.placed call
  have verified := coherent.beside call
  rw [isStage] at placed verified
  rcases placed with ⟨silent, assigned, serves, _, request, asks, hasKey, isRequest⟩
  rcases Acquire.step_own isTask notGet stepped with ⟨requests, inner, isInner, _, steps⟩
  have hasArrived : state.arrivals call ≠ none := by
    rcases assigned with ⟨arrival, _, arrived, _⟩
    rw [arrived]
    exact Option.some_ne_none _
  have between : Between portal state { state with credentials } call := by
    refine ⟨?_, coherent.requested.step stepped, coherent.provided, hasArrived⟩
    intro other different
    have uninvolved : action.task? ≠ some other := by
      rw [isTask]
      exact fun same => different (Option.some.inj same).symm
    exact ⟨agrees_credentials stepped uninvolved, rfl⟩
  refine ⟨between, silent, ?_⟩
  have stillSilent : ({ state with credentials } : State).logOf call = [] := silent
  have stillAssigned : Assigned portal { state with credentials } call job := assigned
  apply goes_acquired stillSilent verified stillAssigned serves asks
  · rw [requests]
    exact isRequest
  · exact iff_of_true hasKey (Acquire.ne_idle_of_steps steps isInner)

theorem Assigned.arrived {job : Job} (assigned : Assigned portal state call job) :
    state.arrivals call ≠ none := by
  rcases assigned with ⟨arrival, _, arrived, _⟩
  rw [arrived]
  exact Option.some_ne_none _

/-- What the upstream has answered to a request that was sent is an outcome of the handler. -/
theorem Justified.alone {sent : Sent} (justified : Justified portal state sent)
    {send : UpstreamConfig → Effect → PreparedRequest → Transporting ToolCallResult}
    (meets : ∀ {acquired}, (∀ {token}, acquired = .ok token →
        Returned state sent.call sent.job token) →
      Meets portal sent.job (Returned state sent.call sent.job) (met acquired send)) :
    Alone portal state sent.call (Returned state sent.call)
      (sent.job.outcome portal.isPrintable
        (send sent.job.adapter.settings.upstream sent.job.execution.operation.effect
          sent.request)) := by
  rcases justified.entitled.exists_acquired with ⟨acquired, returned, gets⟩
  apply justified.assigned.alone (meets returned)
  rw [execute_of_get justified.serves (gets send), justified.built]
  rfl

/-- How the loop over the attempts ends if this one is as given. -/
theorem Unrolled.ending {sent : Sent} {attempts : Nat → Attempt}
    (unrolled : Unrolled portal sent attempts) (made : Attempt) :
    (sendAll portal.wire (Function.update attempts sent.attempt made)
        sent.job.adapter.settings.upstream sent.request sent.started
        sent.job.execution.operation.effect).ending =
      (sendFrom portal.wire (Function.update attempts sent.attempt made)
        sent.job.adapter.settings.upstream sent.request sent.started
        (sent.tries - 1 - sent.attempt) sent.attempt sent.sentAt).ending := by
  apply unrolled
  intro attempt before
  exact Function.update_of_ne before.ne ..

section Loop

variable {wire : WireText} {attempts : Nat → Attempt} {upstream : UpstreamConfig}
  {request : PreparedRequest} {started now : Rat} {attempt left : Nat}

theorem ending_sendFrom_final
    (isFinal : (attempts attempt).outcome.isRetryable = false ∨ left = 0) :
    (sendFrom wire attempts upstream request started left attempt now).ending =
      .outcome (attempts attempt).outcome := by
  cases left with
  | zero => rfl
  | succ left =>
      have notRetryable := isFinal.resolve_right (Nat.succ_ne_zero left)
      simp only [sendFrom, notRetryable, Bool.not_false, if_true]

theorem ending_sendFrom_waits (retryable : (attempts attempt).outcome.isRetryable = true) :
    (sendFrom wire attempts upstream request started (left + 1) attempt now).ending =
      match upstream.waitForRetry wire started (now + (attempts attempt).duration) attempt
          (attempts attempt).outcome.response? (attempts attempt).drawn with
      | .spent => .outcome (attempts attempt).outcome
      | .raises error => .raised error
      | .sleeps delay =>
          (sendFrom wire attempts upstream request started left (attempt + 1)
            (now + (attempts attempt).duration + (attempts attempt).sleep delay)).ending := by
  simp only [sendFrom, retryable, Bool.not_true, Bool.false_eq_true, if_false, sendOf]
  split <;> simp_all [Run.after]

end Loop

/-- The attempt of a request that ends now. -/
def Sent.made (sent : Sent) (now : Rat) (outcome : Outcome) (drawn : Rat) : Attempt where
  outcome := outcome
  duration := now - sent.sentAt
  drawn := drawn

section Ending

variable {job : Job} {attempts : Nat → Attempt} {started : Rat} {effect : Effect}
  {request : PreparedRequest}

theorem sending_of_outcome {outcome : Outcome}
    (ends : (sendAll portal.wire attempts job.adapter.settings.upstream request started
      effect).ending = .outcome outcome) :
    portal.sending job attempts started job.adapter.settings.upstream effect request =
      portal.resultOf job outcome := by
  simp only [Portal.sending, Run.result, ends, Portal.resultOf]

theorem sending_of_raised {error : NumberError}
    (ends : (sendAll portal.wire attempts job.adapter.settings.upstream request started
      effect).ending = .raised error) :
    portal.sending job attempts started job.adapter.settings.upstream effect request =
      .error .other := by
  simp only [Portal.sending, Run.result, ends]
  rfl

end Ending

/-- The end of an attempt answers the call, or pays for another attempt. -/
theorem Coherent.attempted (coherent : Coherent portal state) {sent : Sent}
    (isStage : state.stages call = .sending sent) (outcome : Outcome) (drawn : Rat) :
    (∃ result, state.attempted portal sent outcome drawn =
        state.answer portal call sent.job result ∧
      Alone portal state call (Returned state call) (sent.job.outcome portal.isPrintable result)) ∨
    (state.attempted portal sent outcome drawn = state.setStage call (.pausing sent) ∧
      ∃ attempts made, Unrolled portal sent attempts ∧ Repeats portal sent made) := by
  have placed := coherent.placed call
  rw [isStage] at placed
  rcases placed with ⟨rfl, logged, trying, attempts, unrolled⟩
  have justified := coherent.justified sent (mem_logOf.mp logged).1
  have ending := unrolled.ending (sent.made state.now outcome drawn)
  have isMade : Function.update attempts sent.attempt (sent.made state.now outcome drawn)
      sent.attempt = sent.made state.now outcome drawn := Function.update_self ..
  have alone : ∀ {result : Transporting ToolCallResult},
      portal.sending sent.job
          (Function.update attempts sent.attempt (sent.made state.now outcome drawn)) sent.started
          sent.job.adapter.settings.upstream sent.job.execution.operation.effect sent.request =
        result →
      Alone portal state sent.call (Returned state sent.call)
        (sent.job.outcome portal.isPrintable result) := by
    intro result isResult
    rw [← isResult]
    exact justified.alone (meets_sending portal _ _ _)
  unfold State.attempted
  dsimp only
  split
  case isTrue isFinal =>
    refine Or.inl ⟨_, rfl, alone (sending_of_outcome ?_)⟩
    rw [ending, ending_sendFrom_final, isMade]
    · rfl
    · rw [isMade]
      rw [Bool.or_eq_true, Bool.not_eq_true', decide_eq_true_iff] at isFinal
      refine isFinal.imp id ?_
      intro isLast
      rw [← Sent.tries] at isLast
      omega
  case isFalse notFinal =>
    rw [Bool.or_eq_true, Bool.not_eq_true', decide_eq_true_iff, not_or, ← Sent.tries] at notFinal
    have retryable : outcome.isRetryable = true := by simpa using notFinal.1
    have within := trying.within
    have more : sent.tries - 1 - sent.attempt = sent.tries - 2 - sent.attempt + 1 := by
      have notLast := notFinal.2
      omega
    have now : sent.sentAt + (sent.made state.now outcome drawn).duration = state.now :=
      add_sub_cancel ..
    rw [more, ending_sendFrom_waits (by rw [isMade]; exact retryable), isMade, now] at ending
    split
    case h_1 spent =>
      refine Or.inl ⟨_, rfl, alone (sending_of_outcome ?_)⟩
      rw [ending]
      simp only [Sent.made, spent]
    case h_2 error raises =>
      refine Or.inl ⟨_, rfl, alone (@sending_of_raised _ _ _ _ _ _ _ error ?_)⟩
      rw [ending]
      simp only [Sent.made, raises]
    case h_3 delay sleeps =>
      refine Or.inr ⟨rfl, attempts, sent.made state.now outcome drawn, unrolled, retryable, ?_,
        delay, ?_⟩
      · have notLast := notFinal.2
        omega
      · rw [now]
        exact sleeps

theorem Coherent.attemptFailed (coherent : Coherent portal state) {sent : Sent}
    (isStage : state.stages call = .sending sent) (message : String) :
    Alone portal state call (Returned state call)
      (sent.job.outcome portal.isPrintable (.error (.requestError message))) := by
  have placed := coherent.placed call
  rw [isStage] at placed
  rcases placed with ⟨rfl, logged, _⟩
  have justified := coherent.justified sent (mem_logOf.mp logged).1
  have fails : ∀ {acquired : Transporting String}, (∀ {token}, acquired = .ok token →
        Returned state sent.call sent.job token) →
      Meets portal sent.job (Returned state sent.call sent.job)
        (met acquired fun _ _ _ => .error (.requestError message)) :=
    fun gets => ⟨fun _ _ => Or.inl ⟨message, rfl⟩, gets⟩
  exact justified.alone fails

end Parts

def Action.call? : Action → Option CallId
  | .arrive call _ => some call
  | .keyLockTaken call => some call
  | .keysReplied call _ => some call
  | .tokenLockTaken call => some call
  | .tokenReplied call _ => some call
  | .tokenFailed call _ => some call
  | .attempted call _ _ => some call
  | .attemptFailed call _ => some call
  | .woken call => some call
  | .tick _ => none

/-- A step lets a call go on from a cache, or moves it within the loop over its attempts. -/
inductive Moves (portal : Portal Key) (state : State) : Action → State → Prop
  | arrives {call : CallId} {arrival : Arrival} {middle next : State}
      (absent : state.arrivals call = none)
      (noted : middle.arrivals = Function.update state.arrivals call (some arrival))
      (between : Between portal state middle call) (silent : middle.logOf call = [])
      (reaches : Reaches portal middle call next)
      (credentials : middle.credentials = state.credentials)
      (keys : middle.keys = state.keys ∨
        ∃ kid, JwksCache.step state.keys (.start call kid) = some middle.keys) :
      Moves portal state (.arrive call arrival) next
  | verifies {action : Action} {call : CallId} {token algorithm : String}
      {request : CallToolRequest} {keyAction : JwksCache.Action} {keys : JwksCache.State}
      {keyReplies : List JwksCache.Reply} {next : State} (isCall : action.call? = some call)
      (isStage : state.stages call = .verifying token algorithm request)
      (stepped : JwksCache.step state.keys keyAction = some keys)
      (isTask : keyAction.task? = some call)
      (between : Between portal state { state with keys, keyReplies } call)
      (silent : state.logOf call = [])
      (reaches : Reaches portal { state with keys, keyReplies } call next) :
      Moves portal state action next
  | acquires {action : Action} {call : CallId} {job : Job} {acquireAction : Acquire.Action}
      {credentials : Acquire.State} {next : State} (isCall : action.call? = some call)
      (isStage : state.stages call = .acquiring job)
      (stepped : Acquire.step portal.world state.credentials acquireAction = some credentials)
      (isTask : acquireAction.task? = some call)
      (notGet : ∀ request, acquireAction ≠ .get call request)
      (between : Between portal state { state with credentials } call)
      (silent : state.logOf call = []) (goes : Goes portal { state with credentials } call next) :
      Moves portal state action next
  | answers {action : Action} {call : CallId} {sent : Sent} {result : Transporting ToolCallResult}
      (isCall : action.call? = some call) (isStage : state.stages call = .sending sent)
      (alone : Alone portal state call (Returned state call)
        (sent.job.outcome portal.isPrintable result)) :
      Moves portal state action (state.answer portal call sent.job result)
  | pauses {action : Action} {call : CallId} {sent : Sent} (isCall : action.call? = some call)
      (isStage : state.stages call = .sending sent)
      (paused : ∃ attempts made, Unrolled portal sent attempts ∧ Repeats portal sent made) :
      Moves portal state action (state.setStage call (.pausing sent))
  | wakes {action : Action} {call : CallId} {sent : Sent} (isCall : action.call? = some call)
      (isStage : state.stages call = .pausing sent) :
      Moves portal state action (state.send (sent.again state.now))
  | ticks {elapsed : Rat} {keys : JwksCache.State} {credentials : Acquire.State}
      (keysTick : JwksCache.step state.keys (.tick elapsed) = some keys)
      (credentialsTick : Acquire.step portal.world state.credentials (.tick elapsed) =
        some credentials) :
      Moves portal state (.tick elapsed) { state with keys, credentials }

section Moves

variable {portal} {state next : State}

theorem Coherent.moves (coherent : Coherent portal state) {action : Action}
    (stepped : step portal state action = some next) : Moves portal state action next := by
  cases action with
  | arrive call arrival =>
      simp only [step] at stepped
      split at stepped
      · cases stepped
      case h_2 absent =>
        rcases coherent.arrive absent stepped with
          ⟨middle, between, silent, reaches, credentials, noted, keys⟩
        exact .arrives absent noted between silent reaches credentials keys
  | keyLockTaken call =>
      simp only [step] at stepped
      split at stepped
      case h_1 token algorithm request isStage =>
        rcases Option.bind_eq_some_iff.mp stepped with ⟨keys, resumed, goesOn⟩
        rcases coherent.keyLockTaken isStage resumed goesOn with ⟨between, silent, reaches⟩
        exact .verifies rfl isStage resumed rfl between silent reaches
      · cases stepped
  | keysReplied call reply =>
      simp only [step] at stepped
      split at stepped
      case h_1 token algorithm request isStage =>
        rcases Option.bind_eq_some_iff.mp stepped with ⟨keys, replied, goesOn⟩
        rcases coherent.keysReplied isStage replied goesOn with ⟨between, silent, reaches⟩
        exact .verifies rfl isStage replied rfl between silent reaches
      · cases stepped
  | tokenLockTaken call =>
      simp only [step] at stepped
      split at stepped
      case h_1 job isStage =>
        rcases Option.map_eq_some_iff.mp stepped with ⟨credentials, resumed, rfl⟩
        rcases coherent.acquired isStage resumed rfl (fun _ same => by cases same) with
          ⟨between, silent, goes⟩
        exact .acquires rfl isStage resumed rfl (fun _ same => by cases same) between silent goes
      · cases stepped
  | tokenReplied call reply =>
      simp only [step] at stepped
      split at stepped
      case h_1 job request isStage isRequest =>
        rcases Option.map_eq_some_iff.mp stepped with ⟨credentials, replied, rfl⟩
        rcases coherent.acquired isStage replied rfl (fun _ same => by cases same) with
          ⟨between, silent, goes⟩
        exact .acquires rfl isStage replied rfl (fun _ same => by cases same) between silent goes
      · cases stepped
  | tokenFailed call failure =>
      simp only [step] at stepped
      split at stepped
      case h_1 job isStage =>
        rcases Option.map_eq_some_iff.mp stepped with ⟨credentials, failed, rfl⟩
        rcases coherent.acquired isStage failed rfl (fun _ same => by cases same) with
          ⟨between, silent, goes⟩
        exact .acquires rfl isStage failed rfl (fun _ same => by cases same) between silent goes
      · cases stepped
  | attempted call outcome drawn =>
      simp only [step] at stepped
      split at stepped
      case h_1 sent isStage =>
        cases stepped
        rcases coherent.attempted isStage outcome drawn with ⟨result, same, alone⟩ | ⟨same, paused⟩
        · rw [same]
          exact .answers rfl isStage alone
        · rw [same]
          exact .pauses rfl isStage paused
      · cases stepped
  | attemptFailed call message =>
      simp only [step] at stepped
      split at stepped
      case h_1 sent isStage =>
        cases stepped
        exact .answers rfl isStage (coherent.attemptFailed isStage message)
      · cases stepped
  | woken call =>
      simp only [step] at stepped
      split at stepped
      case h_1 sent isStage =>
        cases stepped
        exact .wakes rfl isStage
      · cases stepped
  | tick elapsed =>
      simp only [step] at stepped
      rcases Option.bind_eq_some_iff.mp stepped with ⟨keys, keysTick, rest⟩
      rcases Option.map_eq_some_iff.mp rest with ⟨credentials, credentialsTick, rfl⟩
      exact .ticks keysTick credentialsTick

end Moves

end Service

end McpPortal
