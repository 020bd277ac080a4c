import McpPortal.Foundation.Draining
import McpPortal.Server.ServiceSafety

/-!
# Every tool call ends

The two caches run within the server as they do alone, so nobody is stuck in them. A call that has
got past a cache does not return to it, and each attempt at its request is followed by fewer.
-/

namespace McpPortal

open Foundation

namespace Service

variable {Key : Type} {portal : Portal Key}

section Parts

variable {state middle next : State} {call : CallId}

theorem Reaches.parts (reaches : Reaches portal middle call next) :
    next.keys = middle.keys ∧ (next.credentials = middle.credentials ∨
      ∃ action, Acquire.step portal.world middle.credentials action = some next.credentials) := by
  rcases reaches with ⟨credentials, same | ⟨request, _, asked⟩, goes⟩
  · exact ⟨goes.caches.2.1, Or.inl (goes.caches.1.trans same)⟩
  · refine ⟨goes.caches.2.1, Or.inr ⟨.get call request, ?_⟩⟩
    rw [goes.caches.1]
    exact asked

/-- A step moves each cache as the cache itself does, or leaves it alone. -/
theorem Moves.parts {action : Action} (moves : Moves portal state action next) :
    (next.keys = state.keys ∨
      ∃ keyAction, JwksCache.step state.keys keyAction = some next.keys) ∧
    (next.credentials = state.credentials ∨
      ∃ acquireAction,
        Acquire.step portal.world state.credentials acquireAction = some next.credentials) := by
  cases moves with
  | arrives _ _ _ _ reaches sameCredentials keys =>
      rw [reaches.parts.1, ← sameCredentials]
      exact ⟨keys.imp id (fun ⟨kid, started⟩ => ⟨_, started⟩), reaches.parts.2⟩
  | verifies _ _ stepped _ _ _ reaches =>
      rw [reaches.parts.1]
      exact ⟨Or.inr ⟨_, stepped⟩, reaches.parts.2⟩
  | acquires _ _ stepped _ _ _ _ goes =>
      rw [goes.caches.1, goes.caches.2.1]
      exact ⟨Or.inl rfl, Or.inr ⟨_, stepped⟩⟩
  | answers => exact ⟨Or.inl rfl, Or.inl rfl⟩
  | pauses => exact ⟨Or.inl rfl, Or.inl rfl⟩
  | wakes => exact ⟨Or.inl rfl, Or.inl rfl⟩
  | ticks keysTick credentialsTick => exact ⟨Or.inr ⟨_, keysTick⟩, Or.inr ⟨_, credentialsTick⟩⟩

end Parts

/-- The key set runs as it does alone. -/
theorem reached_keys {state : State} (reached : (machine portal).Reached state) :
    JwksCache.machine.Reached state.keys :=
  Machine.reached_of_projection State.keys rfl
    (fun before stepped => ((coherent_of_reached before).moves stepped).parts.1) reached

/-- So do the credential sources. -/
theorem reached_credentials {state : State} (reached : (machine portal).Reached state) :
    (Acquire.machine portal.world).Reached state.credentials :=
  Machine.reached_of_projection State.credentials rfl
    (fun before stepped => ((coherent_of_reached before).moves stepped).parts.2) reached

/-- The actions that bring a call further. -/
def Action.IsWork : Action → Prop
  | .arrive _ _ => False
  | .tick _ => False
  | _ => True

instance : DecidablePred Action.IsWork := fun action => by
  cases action <;> unfold Action.IsWork <;> infer_instance

def Action.IsTick : Action → Prop
  | .tick _ => True
  | _ => False

section Possible

variable {state : State} {call : CallId}

/-- A call may ask for its credential once. -/
theorem isSome_execute (fresh : state.credentials.requestOf call = none)
    (idle : state.credentials.calls call = .idle) (job : Job) :
    (state.execute portal call job).isSome := by
  unfold State.execute
  split
  · rfl
  · split
    · rfl
    case h_2 request _ =>
      rw [Option.isSome_map]
      have isIdle : state.credentials.tracked.state.calls call = .idle := idle
      simp only [Acquire.step, fresh]
      split
      · rfl
      · simp [Acquire.State.caches, Acquire.State.setRequest, TokenCache.trackedMachine,
          TokenCache.step, isIdle]

theorem isSome_keyed (fresh : state.credentials.requestOf call = none)
    (idle : state.credentials.calls call = .idle) (token algorithm : String)
    (request : CallToolRequest) :
    (state.keyed portal call token algorithm request).isSome := by
  unfold State.keyed
  split
  · split
    · rfl
    · rfl
    · split
      · unfold State.onCallTool
        split
        · rfl
        · exact isSome_execute fresh idle _
      · rfl
  · rfl
  · rfl

/-- A call that is verifying goes on whenever the key set lets it. -/
theorem Coherent.exists_work_of_key (coherent : Coherent portal state)
    {keyAction : JwksCache.Action} (isWork : keyAction.IsWork)
    (isTask : keyAction.task? = some call)
    (possible : JwksCache.step state.keys keyAction ≠ none)
    (pending : (state.keys.calls call).IsPending) :
    ∃ action : Action, action.IsWork ∧ step portal state action ≠ none := by
  have beside := coherent.beside call
  have placed := coherent.placed call
  cases isStage : state.stages call with
  | verifying token algorithm request =>
      rw [isStage] at placed
      rcases placed with ⟨_, fresh, idle, _⟩
      rcases Option.ne_none_iff_exists'.mp possible with ⟨keys, stepped⟩
      cases keyAction with
      | start => cases isWork
      | tick => cases isWork
      | resume task =>
          cases isTask
          refine ⟨.keyLockTaken call, trivial, ?_⟩
          have goesOn := @isSome_keyed _ portal { state with keys } call fresh idle token algorithm
            request
          simp only [step, isStage, stepped, Option.bind_some]
          exact Option.isSome_iff_ne_none.mp goesOn
      | replied task reply =>
          cases isTask
          refine ⟨.keysReplied call reply, trivial, ?_⟩
          have goesOn := @isSome_keyed _ portal
            { state with keys, keyReplies := reply :: state.keyReplies } call fresh idle token
            algorithm request
          simp only [step, isStage, stepped, Option.bind_some]
          exact Option.isSome_iff_ne_none.mp goesOn
  | acquiring job =>
      rw [isStage] at beside
      exact absurd pending beside
  | _ =>
      rw [isStage] at beside
      exact absurd pending beside.2

/-- A call that acquires its credential goes on whenever the token cache lets it. -/
theorem Coherent.exists_work_of_credential (coherent : Coherent portal state)
    {action : TokenCache.Action} (isWork : action.IsWork) (isTask : action.task? = some call)
    (possible : TokenCache.step state.credentials.tracked.state action ≠ none)
    (pending : (state.credentials.calls call).IsPending) :
    ∃ action : Action, action.IsWork ∧ step portal state action ≠ none := by
  have beside := coherent.beside call
  cases isStage : state.stages call with
  | acquiring job =>
      rcases Option.ne_none_iff_exists'.mp possible with ⟨inner, stepped⟩
      cases action with
      | start => cases isWork
      | tick => cases isWork
      | resume task =>
          cases isTask
          refine ⟨.tokenLockTaken call, trivial, ?_⟩
          simp [step, isStage, Acquire.step, Acquire.State.caches, TokenCache.trackedMachine,
            stepped]
      | fetched task token ttlSeconds =>
          cases isTask
          refine ⟨.tokenFailed call .timeout, trivial, ?_⟩
          simp only [TokenCache.step] at stepped
          split at stepped
          case h_1 key lock fetching =>
            simp [step, isStage, Acquire.step, Acquire.State.caches, TokenCache.trackedMachine,
              TokenCache.step, fetching]
          case h_2 => cases stepped
      | fetchFailed task =>
          cases isTask
          refine ⟨.tokenFailed call .timeout, trivial, ?_⟩
          simp [step, isStage, Acquire.step, Acquire.State.caches, TokenCache.trackedMachine,
            stepped]
  | verifying token algorithm request =>
      rw [isStage] at beside
      exact absurd pending beside
  | _ =>
      rw [isStage] at beside
      exact absurd pending beside.1

/-- Where the server rests the key set does. -/
theorem Coherent.keys_rest (coherent : Coherent portal state)
    (resting : ∀ action : Action, action.IsWork → step portal state action = none)
    (keyAction : JwksCache.Action) (isWork : keyAction.IsWork) :
    JwksCache.step state.keys keyAction = none := by
  by_contra possible
  have goesOn : ∀ call, keyAction.task? = some call → (state.keys.calls call).IsPending → False := by
    intro call isTask pending
    rcases coherent.exists_work_of_key isWork isTask possible pending with ⟨action, works, stepped⟩
    exact stepped (resting action works)
  cases keyAction with
  | start => cases isWork
  | tick => cases isWork
  | resume task =>
      apply goesOn task rfl
      cases isCall : state.keys.calls task <;>
        simp [JwksCache.step, isCall, JwksCache.Call.IsPending] at possible ⊢
  | replied task reply =>
      apply goesOn task rfl
      cases isCall : state.keys.calls task <;>
        simp [JwksCache.step, isCall, JwksCache.Call.IsPending] at possible ⊢

/-- Where the server rests the token cache does. -/
theorem Coherent.credentials_rest (coherent : Coherent portal state)
    (resting : ∀ action : Action, action.IsWork → step portal state action = none)
    (cacheAction : TokenCache.Action) (isWork : cacheAction.IsWork) :
    TokenCache.step state.credentials.tracked.state cacheAction = none := by
  by_contra possible
  have goesOn : ∀ call, cacheAction.task? = some call →
      (state.credentials.tracked.state.calls call).IsPending → False := by
    intro call isTask pending
    rcases coherent.exists_work_of_credential isWork isTask possible pending with
      ⟨action, works, stepped⟩
    exact stepped (resting action works)
  cases cacheAction with
  | start => cases isWork
  | tick => cases isWork
  | resume task =>
      apply goesOn task rfl
      cases isCall : state.credentials.tracked.state.calls task <;>
        simp [TokenCache.step, isCall, TokenCache.Call.IsPending] at possible ⊢
  | fetched task token ttlSeconds =>
      apply goesOn task rfl
      cases isCall : state.credentials.tracked.state.calls task <;>
        simp [TokenCache.step, isCall, TokenCache.Call.IsPending] at possible ⊢
  | fetchFailed task =>
      apply goesOn task rfl
      cases isCall : state.credentials.tracked.state.calls task <;>
        simp [TokenCache.step, isCall, TokenCache.Call.IsPending] at possible ⊢

end Possible

/-- Where a call is, within the caches too. -/
structure Place where
  stage : Stage
  key : JwksCache.Call
  credential : TokenCache.Call

def State.places (state : State) (call : CallId) : Place where
  stage := state.stages call
  key := state.keys.calls call
  credential := state.credentials.calls call

/-- How many steps a call still takes at most: those in each cache, and two for each attempt. -/
def Place.left (place : Place) : Nat :=
  match place.stage with
  | .verifying _ _ _ => place.key.left + 7
  | .acquiring _ => place.credential.left + 5
  | .sending sent => 2 * (sent.tries - sent.attempt) - 1
  | .pausing sent => 2 * (sent.tries - sent.attempt) - 2
  | _ => 0

/-- A call that has arrived and has not ended. -/
def Stage.IsPending : Stage → Prop
  | .verifying _ _ _ => True
  | .acquiring _ => True
  | .sending _ => True
  | .pausing _ => True
  | _ => False

section Left

variable {state middle next : State} {call : CallId}

theorem Sent.tries_le (sent : Sent) : sent.tries ≤ 3 := by
  unfold Sent.tries attemptCount maxAttempts
  split <;> decide

theorem left_le_of_key (key : JwksCache.Call) : key.left ≤ 2 := by
  cases key <;> simp [JwksCache.Call.left]

theorem left_le_of_credential (credential : TokenCache.Call) : credential.left ≤ 2 := by
  cases credential <;> simp [TokenCache.Call.left]

theorem Place.left_le (place : Place) : place.left ≤ 9 := by
  have key := left_le_of_key place.key
  have credential := left_le_of_credential place.credential
  unfold Place.left
  split
  · omega
  · omega
  case h_3 sent _ =>
    have tries := sent.tries_le
    omega
  case h_4 sent _ =>
    have tries := sent.tries_le
    omega
  · omega

theorem Coherent.isPending_iff (coherent : Coherent portal state) (call : CallId) :
    (state.stages call).IsPending ↔ (state.places call).left ≠ 0 := by
  have placed := coherent.placed call
  unfold Place.left State.places
  cases isStage : state.stages call with
  | verifying => simp [Stage.IsPending]
  | acquiring => simp [Stage.IsPending]
  | sending sent =>
      rw [isStage] at placed
      have within := placed.2.2.1.within
      refine iff_of_true trivial ?_
      dsimp only
      omega
  | pausing sent =>
      rw [isStage] at placed
      rcases placed with ⟨_, _, _, _, _, _, repeats⟩
      have more := repeats.more
      refine iff_of_true trivial ?_
      dsimp only
      omega
  | _ => simp [Stage.IsPending]

theorem Reaches.others (reaches : Reaches portal state call next) {other : CallId}
    (different : other ≠ call) :
    Agrees other state next ∧ next.stages other = state.stages other := by
  rcases reaches with ⟨credentials, rfl | ⟨request, _, asked⟩, goes⟩
  · exact goes.others different
  · have first : Agrees other state { state with credentials } :=
      agrees_credentials asked fun same => different (Option.some.inj same).symm
    have second := goes.others different
    exact ⟨first.trans second.1, second.2⟩

theorem Between.trans (between : Between portal state middle call)
    (after : ∀ other, other ≠ call →
      Agrees other middle next ∧ next.stages other = middle.stages other) :
    ∀ other, other ≠ call → Agrees other state next ∧ next.stages other = state.stages other := by
  intro other different
  have first := between.others other different
  have second := after other different
  exact ⟨first.1.trans second.1, second.2.trans first.2⟩

/-- Calls that a step is not about stay where they are. -/
theorem Coherent.places_eq_update (coherent : Coherent portal state) {action : Action}
    (moves : Moves portal state action next) (isCall : action.call? = some call) :
    next.places = Function.update state.places call (next.places call) := by
  have others : ∀ other, other ≠ call →
      Agrees other state next ∧ next.stages other = state.stages other := by
    cases moves with
    | arrives _ _ between _ reaches =>
        cases isCall
        exact between.trans fun _ => reaches.others
    | verifies isOwn _ _ _ between _ reaches =>
        cases isCall.symm.trans isOwn
        exact between.trans fun _ => reaches.others
    | acquires isOwn _ _ _ _ between _ goes =>
        cases isCall.symm.trans isOwn
        exact between.trans fun _ => goes.others
    | answers isOwn =>
        cases isCall.symm.trans isOwn
        exact fun _ different => ⟨agrees_setStage .., stages_setStage_of_ne different _⟩
    | pauses isOwn =>
        cases isCall.symm.trans isOwn
        exact fun _ different => ⟨agrees_setStage .., stages_setStage_of_ne different _⟩
    | wakes isOwn isStage =>
        cases isCall.symm.trans isOwn
        have placed := coherent.placed call
        rw [isStage] at placed
        cases placed.1
        exact fun _ different => ⟨agrees_send different, Function.update_of_ne different ..⟩
    | ticks => cases isCall
  funext other
  by_cases same : other = call
  · rw [same, Function.update_self]
  · rcases others other same with ⟨agrees, isStage⟩
    rw [Function.update_of_ne same]
    unfold State.places
    rw [isStage, agrees.key, agrees.credential]

/-- Where a call goes on to, it has less left than before the cache it comes from. -/
theorem Goes.left_lt (goes : Goes portal state call next) (silent : state.logOf call = [])
    {left : Nat} (sends : 5 < left)
    (verifies : state.credentials.calls call = .idle → (state.keys.calls call).left + 7 < left)
    (acquires : (state.credentials.calls call).left + 5 < left) :
    (next.places call).left < left := by
  have placed := goes.placed silent
  have caches := goes.caches
  unfold Place.left State.places
  rw [caches.1, caches.2.1]
  split
  case h_1 token algorithm request isStage =>
    dsimp only at isStage
    rw [isStage] at placed
    rcases placed with ⟨_, _, idle, _⟩
    rw [caches.1] at idle
    exact verifies idle
  case h_2 => exact acquires
  case h_3 sent _ =>
    have tries := sent.tries_le
    omega
  case h_4 sent _ =>
    have tries := sent.tries_le
    omega
  case h_5 => omega

/-- A call gets on with every step it takes. -/
theorem Coherent.left_lt (coherent : Coherent portal state) {action : Action}
    (moves : Moves portal state action next) (isWork : action.IsWork)
    (isCall : action.call? = some call) :
    (next.places call).left < (state.places call).left := by
  have placed := coherent.placed call
  cases moves with
  | arrives => cases isWork
  | @verifies _ _ _ _ _ keyAction keys keyReplies _ isOwn isStage stepped isTask _ silent
      reaches =>
      cases isCall.symm.trans isOwn
      rw [isStage] at placed
      rcases placed with ⟨_, _, _, _, _, kid, _, _, _, _, waits⟩
      have made : state.keys.calls call ≠ .idle := by
        rcases waits with waiting | ⟨now, fetching⟩
        · rw [waiting]
          exact nofun
        · rw [fetching]
          exact nofun
      rcases JwksCache.exists_moves isTask stepped with ⟨keyCall, keyMoves, calls⟩
      have less := keyMoves.left_lt made
      have isKeyCall : keys.calls call = keyCall := by rw [calls, Function.update_self]
      have before : (state.places call).left = (state.keys.calls call).left + 7 := by
        simp only [Place.left, State.places, isStage]
      rw [before]
      rcases reaches with ⟨credentials, _, goes⟩
      have credential := left_le_of_credential (credentials.calls call)
      apply goes.left_lt silent
      · omega
      · intro _
        dsimp only
        rw [isKeyCall]
        omega
      · dsimp only
        omega
  | @acquires _ _ _ acquireAction credentials _ isOwn isStage stepped isTask notGet _ silent goes =>
      cases isCall.symm.trans isOwn
      rcases Acquire.step_own isTask notGet stepped with ⟨_, inner, isInner, works, steps⟩
      have less := TokenCache.left_lt_of_steps steps works isInner
      have before : (state.places call).left = (state.credentials.calls call).left + 5 := by
        simp only [Place.left, State.places, isStage]
      have own : (credentials.calls call).left < (state.credentials.calls call).left := less
      rw [before]
      apply goes.left_lt silent
      · omega
      · exact fun idle => absurd idle (Acquire.ne_idle_of_steps steps isInner)
      · dsimp only
        omega
  | @answers _ _ sent result isOwn isStage =>
      cases isCall.symm.trans isOwn
      rw [isStage] at placed
      have within := placed.2.2.1.within
      have after : (State.answer portal state call sent.job result).stages call =
        .answered _ := stages_setStage _
      simp only [Place.left, State.places, isStage, after]
      omega
  | @pauses _ _ sent isOwn isStage =>
      cases isCall.symm.trans isOwn
      rw [isStage] at placed
      have within := placed.2.2.1.within
      simp only [Place.left, State.places, isStage, stages_setStage]
      omega
  | @wakes _ _ sent isOwn isStage =>
      cases isCall.symm.trans isOwn
      rw [isStage] at placed
      rcases placed with ⟨rfl, _, _, _, _, _, repeats⟩
      have more := repeats.more
      have after : (state.send (sent.again state.now)).stages sent.call =
        .sending (sent.again state.now) := stages_setStage _
      have tries : (sent.again state.now).tries = sent.tries := rfl
      simp only [Place.left, State.places, isStage, after, tries]
      simp only [Sent.again]
      omega
  | ticks => cases isWork

end Left

theorem Action.exists_call {action : Action} (isWork : action.IsWork) :
    ∃ call, action.call? = some call := by
  cases action with
  | tick => cases isWork
  | _ => exact ⟨_, rfl⟩

theorem places_of_tick {state next : State} {action : Action} (isTick : action.IsTick)
    (moves : Moves portal state action next) : next.places = state.places := by
  cases action with
  | tick elapsed =>
      cases moves with
      | ticks keysTick credentialsTick =>
          funext call
          have keys := congrFun (JwksCache.calls_of_tick keysTick) call
          have credentials := (@Acquire.keeps_others _ _ _ call _ credentialsTick nofun).1
          unfold State.places
          dsimp only
          rw [keys, credentials]
      | verifies isOwn => cases isOwn
      | acquires isOwn => cases isOwn
      | answers isOwn => cases isOwn
      | pauses isOwn => cases isOwn
      | wakes isOwn => cases isOwn
  | _ => cases isTick

variable (portal) in
theorem serving :
    (machine portal).Serving Action.IsWork Action.IsTick State.places
      { stage := .idle, key := .idle, credential := .idle } (fun place => place.stage.IsPending)
      Place.left where
  initially _ := rfl
  moves {state action next} reached stepped := by
    have coherent := coherent_of_reached reached
    have moves := coherent.moves stepped
    cases isCall : action.call? with
    | some call => exact Or.inr ⟨call, _, coherent.places_eq_update moves isCall⟩
    | none =>
        cases action with
        | tick elapsed => exact Or.inl (@places_of_tick _ _ _ _ (.tick elapsed) trivial moves)
        | _ => cases isCall
  work {state action _} reached isWork stepped := by
    have coherent := coherent_of_reached reached
    have moves := coherent.moves stepped
    rcases Action.exists_call isWork with ⟨call, isCall⟩
    exact ⟨call, _, coherent.places_eq_update moves isCall, coherent.left_lt moves isWork isCall⟩
  other {_ _ _} reached isTick stepped :=
    places_of_tick isTick ((coherent_of_reached reached).moves stepped)
  rests {state} reached resting call := by
    have coherent := coherent_of_reached reached
    have keysRest := (JwksCache.orderly_of_reached (reached_keys reached)).rests
      (coherent.keys_rest resting) call
    have credentialsRest :=
      (TokenCache.orderly_of_reached (Acquire.reached_cache (reached_credentials reached))).rests
        (coherent.credentials_rest resting) call
    have placed := coherent.placed call
    unfold Place.left State.places
    cases isStage : state.stages call with
    | verifying token algorithm request =>
        rw [isStage] at placed
        rcases placed with ⟨_, _, _, _, _, kid, _, _, _, _, waiting | ⟨now, fetching⟩⟩
        · rw [waiting] at keysRest
          cases keysRest
        · rw [fetching] at keysRest
          cases keysRest
    | acquiring job =>
        rw [isStage] at placed
        rcases placed with ⟨_, _, _, pending, _⟩
        have orderly :=
          TokenCache.orderly_of_reached (Acquire.reached_cache (reached_credentials reached))
        exact absurd credentialsRest (orderly.isPending_iff.mp pending)
    | sending sent =>
        have stuck := resting (.attemptFailed call "") trivial
        simp [machine, step, isStage] at stuck
    | pausing sent =>
        have stuck := resting (.woken call) trivial
        simp [machine, step, isStage] at stuck
    | _ => rfl
  pending reached := (coherent_of_reached reached).isPending_iff
  idle_left := rfl

/--
However the calls interleave and whatever the outside replies, the server takes at most nine steps
for every call that has arrived and has not ended, and where it can take no more all of them have.
-/
theorem ends_of_reached {state : State} (reached : (machine portal).Reached state) :
    ∃ pending : Finset CallId, (∀ call, call ∈ pending ↔ (state.stages call).IsPending) ∧
      (∀ actions final, (∀ action ∈ actions, action.IsWork ∨ action.IsTick) →
        (machine portal).run state actions = some final →
        actions.countP (fun action => action.IsWork) ≤ 9 * pending.card ∧
          ((∀ action : Action, action.IsWork → step portal final action = none) →
            ∀ call, ¬(final.stages call).IsPending)) ∧
      ∃ actions final, (∀ action ∈ actions, action.IsWork) ∧
        (machine portal).run state actions = some final ∧
        ∀ call, ¬(final.stages call).IsPending :=
  (serving portal).completes Place.left_le reached

section Exchange

open Exchange

private def waitingTwice (state : State) : List CallId × TokenCache.Call :=
  (state.keys.lock.waiters, state.credentials.calls 0)

/-- One call fetches its token while the other still waits for its key. -/
theorem ends_of_reached_exchange :
    ∃ app state, exchangingApp = .ok app ∧ runOf app 3 = some state ∧
      state.keys.lock.waiters = [1] ∧
      state.credentials.calls 0 = .fetching "token_exchange:bank:5:('read',):0" 0 ∧
      ∃ actions final, (∀ action ∈ actions, action.IsWork) ∧
        (machine (portalOf app)).run state actions = some final ∧
        ∀ call, ¬(final.stages call).IsPending := by
  rcases exists_run waitingTwice 3
    ([1], .fetching "token_exchange:bank:5:('read',):0" 0) (by decide +kernel) with
    ⟨app, state, built, ran, waits⟩
  rcases ends_of_reached (reached_runOf ran) with ⟨_, _, _, ends⟩
  exact ⟨app, state, built, ran, congrArg Prod.fst waits, congrArg Prod.snd waits, ends⟩

end Exchange

end Service

end McpPortal
