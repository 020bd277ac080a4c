import McpPortal.Auth.TokenHistory

/-!
# What a burst costs

A call that starts while its key is being fetched queues on the lock of that fetch.
It reads the entry only when it resumes, some time after the fetch has ended. If the
entry has expired by then, which a token with no time left does at once, it fetches
again. As long as entries outlive the calls that wait for them, every such call
returns the token of the fetch it started during.
-/

namespace McpPortal

open Foundation

namespace TokenCache

/-- The call is past the lock: it fetches, or has ended. -/
def Call.IsPast : Call → Prop
  | .fetching _ _ => True
  | .returned _ => True
  | .failed => True
  | _ => False

/-- A call that started during the fetch still waits. -/
def Awaited (tracked : Tracked) (fetcher : TaskId) : Prop :=
  ∃ task key lock, tracked.joined task fetcher = true ∧
    tracked.state.calls task = .waiting key lock

/-- No purge drops a queue, and no entry expires before those who wait for it have read it. -/
def Outlasts (tracked : Tracked) (action : Action) : Prop :=
  PurgesNoQueue tracked.state action ∧
    match action with
    | .fetched task _ ttlSeconds => Awaited tracked task → 0 < ttlSeconds
    | .tick elapsed =>
        ∀ fetcher minted, tracked.minted fetcher = some minted → Awaited tracked fetcher →
          tracked.state.now + elapsed < minted.storedAt + minted.ttlSeconds
    | _ => True

/-- The call has the token of the fetch, or waits where it will find it. -/
inductive Receives (tracked : Tracked) (task fetcher : TaskId) (minted : Minted) : Prop
  | returned (time : Rat) (hasToken : tracked.state.calls task = .returned minted.token)
      (served : tracked.servedBy task = some (fetcher, time))
  | waiting (key : String) (lock : LockId) (entry : CachedToken)
      (waits : tracked.state.calls task = .waiting key lock)
      (isEntry : tracked.state.entries key = some entry)
      (sameToken : entry.value = minted.token)
      (sameExpiry : entry.expiresAt = minted.storedAt + minted.ttlSeconds)
      (storedBy : tracked.storedBy key = some fetcher)
      (alive : tracked.state.now < entry.expiresAt)

structure Bursts (tracked : Tracked) : Prop where
  uncached : ∀ {task key lock}, tracked.state.calls task = .fetching key lock →
    tracked.state.cached key = none
  past : ∀ {task fetcher}, tracked.joined task fetcher = true →
    (tracked.state.calls fetcher).IsPast
  pending : ∀ {task fetcher key lock}, tracked.joined task fetcher = true →
    tracked.state.calls fetcher = .fetching key lock →
      tracked.state.calls task = .waiting key lock
  served : ∀ {task fetcher minted}, tracked.joined task fetcher = true →
    tracked.minted fetcher = some minted →
      tracked.minted task = none ∧ Receives tracked task fetcher minted

theorem cached_of_alive {state : State} {key : String} {entry : CachedToken}
    (isEntry : state.entries key = some entry) (alive : state.now < entry.expiresAt) :
    state.cached key = some entry.value := by
  rw [State.cached, isEntry]
  exact if_pos alive

theorem cached_congr {state next : State} (key : String)
    (sameEntries : next.entries = state.entries) (sameNow : next.now = state.now) :
    next.cached key = state.cached key := by
  simp only [State.cached, sameEntries, sameNow]

section Keeps

variable {tracked next : Tracked} {task : TaskId}

/-- What a call receives stays when another call moves. -/
theorem Receives.of_ne {other fetcher : TaskId} {minted : Minted}
    (receives : Receives tracked other fetcher minted)
    (sameCall : next.state.calls other = tracked.state.calls other)
    (sameEntries : next.state.entries = tracked.state.entries)
    (sameNow : next.state.now = tracked.state.now) (sameStored : next.storedBy = tracked.storedBy)
    (sameServed : next.servedBy other = tracked.servedBy other) :
    Receives next other fetcher minted := by
  cases receives with
  | returned time hasToken served =>
      exact .returned time (sameCall.trans hasToken) (sameServed.trans served)
  | waiting key lock entry waits isEntry sameToken sameExpiry storedBy alive =>
      refine .waiting key lock entry (sameCall.trans waits) ?_ sameToken sameExpiry ?_ ?_
      · rw [sameEntries, isEntry]
      · rw [sameStored, storedBy]
      · rw [sameNow]
        exact alive

/-- A call that has not ended goes on, and mints nothing. -/
theorem Bursts.move (bursts : Bursts tracked) (known : Known tracked) (call : Call)
    (sameEntries : next.state.entries = tracked.state.entries)
    (sameNow : next.state.now = tracked.state.now) (sameMinted : next.minted = tracked.minted)
    (sameStored : next.storedBy = tracked.storedBy)
    (calls : next.state.calls = Function.update tracked.state.calls task call)
    (joined : ∀ {other}, other ≠ task → next.joined other = tracked.joined other)
    (servedBy : ∀ {other}, other ≠ task → next.servedBy other = tracked.servedBy other)
    (notReturned : ∀ token, tracked.state.calls task ≠ .returned token)
    (fetches : ∀ {key lock}, call = .fetching key lock → tracked.state.cached key = none)
    (leaves : ∀ {other}, tracked.joined other task = true → call = .failed)
    (joins : ∀ {fetcher}, next.joined task fetcher = true →
      fetcher ≠ task ∧ (tracked.state.calls fetcher).IsPast ∧
        (∀ key lock, tracked.state.calls fetcher = .fetching key lock → call = .waiting key lock) ∧
        ∀ minted, tracked.minted fetcher = some minted → Receives next task fetcher minted) :
    Bursts next := by
  have unminted {other : TaskId} {minted : Minted} (isMinted : tracked.minted other = some minted) :
      other ≠ task := by
    rintro rfl
    rcases known.mints isMinted with ⟨token, returned⟩
    exact notReturned token returned
  have taskCall : next.state.calls task = call := by
    rw [calls, Function.update_self]
  have otherCall {other : TaskId} (different : other ≠ task) :
      next.state.calls other = tracked.state.calls other := by
    rw [calls, Function.update_of_ne different]
  constructor
  · intro other key lock fetching
    rw [cached_congr key sameEntries sameNow]
    by_cases same : other = task
    · subst other
      exact fetches (taskCall.symm.trans fetching)
    · rw [otherCall same] at fetching
      exact bursts.uncached fetching
  · intro other fetcher hasJoined
    by_cases same : other = task
    · subst other
      rcases joins hasJoined with ⟨different, isPast, _⟩
      rwa [otherCall different]
    · rw [joined same] at hasJoined
      by_cases sameFetcher : fetcher = task
      · subst fetcher
        rw [taskCall, leaves hasJoined]
        trivial
      · rw [otherCall sameFetcher]
        exact bursts.past hasJoined
  · intro other fetcher key lock hasJoined fetching
    by_cases same : other = task
    · subst other
      rcases joins hasJoined with ⟨different, _, waits, _⟩
      rw [otherCall different] at fetching
      rw [taskCall, waits key lock fetching]
    · rw [joined same] at hasJoined
      by_cases sameFetcher : fetcher = task
      · subst fetcher
        rw [taskCall, leaves hasJoined] at fetching
        cases fetching
      · rw [otherCall sameFetcher] at fetching
        rw [otherCall same]
        exact bursts.pending hasJoined fetching
  · intro other fetcher minted hasJoined isMinted
    rw [sameMinted] at isMinted ⊢
    by_cases same : other = task
    · subst other
      rcases joins hasJoined with ⟨_, _, _, receives⟩
      refine ⟨?_, receives minted isMinted⟩
      cases own : tracked.minted task with
      | none => rfl
      | some ownMinted => exact absurd rfl (unminted own)
    · rw [joined same] at hasJoined
      rcases bursts.served hasJoined isMinted with ⟨noneOwn, receives⟩
      exact ⟨noneOwn, receives.of_ne (otherCall same) sameEntries sameNow sameStored (servedBy same)⟩

theorem exists_lock_of_isFetching {state : State} {key : String} {fetcher : TaskId}
    (fetching : isFetching state key fetcher = true) :
    ∃ lock, state.calls fetcher = .fetching key lock := by
  unfold isFetching at fetching
  split at fetching
  case h_1 other lock isCall =>
    rw [of_decide_eq_true fetching] at isCall
    exact ⟨lock, isCall⟩
  case h_2 => cases fetching

/-- While a key is being fetched, its lock is the one of the fetch, and it is held. -/
theorem lockFor_of_fetching {state : State} (sound : Sound state) {fetcher : TaskId} {key : String}
    {lock : LockId} (fetching : state.calls fetcher = .fetching key lock) :
    state.lockFor key = (lock, state) ∧ (state.heap lock).acquireNow = none := by
  rcases sound.fetching fetcher key lock fetching with ⟨current, held⟩
  constructor
  · rw [State.lockFor, current]
  · rw [AsyncLock.acquireNow, if_neg]
    rintro ⟨free, _⟩
    rw [held] at free
    cases free

theorem notIdle_of_isPast {call : Call} (isPast : call.IsPast) : call ≠ .idle := by
  rintro rfl
  exact isPast

theorem Bursts.start (bursts : Bursts tracked) (known : Known tracked) (sound : Sound tracked.state)
    {key : String} {next : State} (steps : Steps tracked.state (.start task key) next) :
    Bursts (tracked.record (.start task key) next) := by
  have joined : ∀ {other}, other ≠ task →
      (tracked.record (.start task key) next).joined other = tracked.joined other :=
    fun different => Function.update_of_ne different ..
  have servedBy : ∀ {other}, other ≠ task →
      (tracked.record (.start task key) next).servedBy other = tracked.servedBy other :=
    fun different => recordServed_of_ne tracked different
  have fetchingOf {fetcher : TaskId}
      (hasJoined : (tracked.record (.start task key) next).joined task fetcher = true) :
      ∃ lock, tracked.state.calls fetcher = .fetching key lock := by
    apply exists_lock_of_isFetching
    exact (congrFun (Function.update_self ..) fetcher).symm.trans hasJoined
  have idle : tracked.state.calls task = .idle := by
    cases steps <;> assumption
  have notReturned : ∀ token, tracked.state.calls task ≠ .returned token := by
    intro token returned
    rw [idle] at returned
    cases returned
  have leaves {call : Call} : ∀ {other}, tracked.joined other task = true → call = .failed :=
    fun hasJoined => absurd idle (notIdle_of_isPast (bursts.past hasJoined))
  cases steps with
  | @startHit _ _ token _ hit =>
      refine bursts.move known (.returned token) ?_ ?_ rfl rfl (calls_setCall ..) joined servedBy
        notReturned nofun leaves ?_
      · rfl
      · rfl
      · intro fetcher hasJoined
        rcases fetchingOf hasJoined with ⟨lock, fetching⟩
        rw [bursts.uncached fetching] at hit
        cases hit
  | startFetch _ miss acquired =>
      refine bursts.move known (.fetching key (tracked.state.lockFor key).1) ?_ ?_ rfl rfl ?_ joined
        servedBy notReturned ?_ leaves ?_
      · exact entries_lockFor ..
      · exact now_lockFor ..
      · change Function.update (tracked.state.lockFor key).2.calls _ _ = _
        rw [calls_lockFor]
      · intro _ _ isFetch
        cases isFetch
        exact miss
      · intro fetcher hasJoined
        rcases fetchingOf hasJoined with ⟨lock, fetching⟩
        rcases lockFor_of_fetching sound fetching with ⟨located, occupied⟩
        rw [located, occupied] at acquired
        cases acquired
  | startWait _ _ _ =>
      refine bursts.move known (.waiting key (tracked.state.lockFor key).1) ?_ ?_ rfl rfl ?_ joined
        servedBy notReturned nofun leaves ?_
      · exact entries_lockFor ..
      · exact now_lockFor ..
      · change Function.update (tracked.state.lockFor key).2.calls _ _ = _
        rw [calls_lockFor]
      · intro fetcher hasJoined
        rcases fetchingOf hasJoined with ⟨lock, fetching⟩
        refine ⟨?_, ?_, ?_, ?_⟩
        · rintro rfl
          rw [idle] at fetching
          cases fetching
        · rw [fetching]
          trivial
        · intro otherKey otherLock otherFetching
          rw [fetching] at otherFetching
          cases otherFetching
          rw [(lockFor_of_fetching sound fetching).1]
        · intro minted isMinted
          rcases known.mints isMinted with ⟨token, returned⟩
          rw [fetching] at returned
          cases returned

theorem Bursts.resume (bursts : Bursts tracked) (known : Known tracked)
    (sound : Sound tracked.state) {next : State}
    (steps : Steps tracked.state (.resume task) next) :
    Bursts (tracked.record (.resume task) next) := by
  have notPast {key : String} {lock : LockId}
      (waiting : tracked.state.calls task = .waiting key lock) {fetcher : TaskId}
      (isPast : (tracked.state.calls fetcher).IsPast) : fetcher ≠ task := by
    rintro rfl
    rw [waiting] at isPast
    exact isPast
  -- The lock of a fetch in flight is held, so nobody resumes on it.
  have notFetching {key : String} {lock : LockId} {held : AsyncLock TaskId}
      (waiting : tracked.state.calls task = .waiting key lock)
      (resumed : (tracked.state.heap lock).resume task = some held) {fetcher : TaskId}
      (hasJoined : tracked.joined task fetcher = true) (otherKey : String) (otherLock : LockId) :
      tracked.state.calls fetcher ≠ .fetching otherKey otherLock := by
    intro fetching
    have sameCall := waiting.symm.trans (bursts.pending hasJoined fetching)
    cases sameCall
    rcases AsyncLock.resume_eq_some resumed with ⟨free, _⟩
    exact sound.not_fetching_of_free free fetcher key fetching
  cases steps with
  | @resumeHit _ key token lock held waiting resumed hit =>
      have isKeyOf := known.placed (congrArg Call.place waiting)
      simp only [Tracked.record, isKeyOf]
      refine bursts.move known (.returned token) ?_ ?_ rfl rfl (calls_setCall ..) (fun _ => rfl) ?_ ?_
        ?_ ?_ ?_
      · rfl
      · rfl
      · intro other different
        exact recordServed_of_ne tracked different
      · intro _ returned
        rw [waiting] at returned
        cases returned
      · intro _ _ isFetching
        cases isFetching
      · intro other hasJoined
        exact absurd rfl (notPast waiting (bursts.past hasJoined))
      · intro fetcher hasJoined
        have isPast := bursts.past hasJoined
        refine ⟨notPast waiting isPast, isPast, ?_, ?_⟩
        · intro otherKey otherLock fetching
          exact absurd fetching (notFetching waiting resumed hasJoined otherKey otherLock)
        · intro minted isMinted
          rcases bursts.served hasJoined isMinted with ⟨_, receives⟩
          cases receives with
          | returned _ hasToken _ =>
              rw [waiting] at hasToken
              cases hasToken
          | waiting otherKey otherLock entry waits isEntry sameToken _ storedBy alive =>
              rw [waiting] at waits
              cases waits
              rw [cached_of_alive isEntry alive, sameToken, Option.some.injEq] at hit
              subst token
              refine .returned tracked.state.now (Function.update_self ..) ?_
              change tracked.recordServed task key _ task = _
              rw [recordServed_of_returned tracked (Function.update_self ..), Function.update_self,
                storedBy]
              rfl
  | @resumeFetch _ key lock held waiting resumed miss =>
      have isKeyOf := known.placed (congrArg Call.place waiting)
      simp only [Tracked.record, isKeyOf]
      refine bursts.move known (.fetching key lock) ?_ ?_ rfl rfl (calls_setCall ..) (fun _ => rfl)
        ?_ ?_ ?_ ?_ ?_
      · rfl
      · rfl
      · intro other different
        exact recordServed_of_ne tracked different
      · intro _ returned
        rw [waiting] at returned
        cases returned
      · intro _ _ isFetch
        cases isFetch
        exact miss
      · intro other hasJoined
        exact absurd rfl (notPast waiting (bursts.past hasJoined))
      · intro fetcher hasJoined
        have isPast := bursts.past hasJoined
        refine ⟨notPast waiting isPast, isPast, ?_, ?_⟩
        · intro otherKey otherLock fetching
          exact absurd fetching (notFetching waiting resumed hasJoined otherKey otherLock)
        · intro minted isMinted
          rcases bursts.served hasJoined isMinted with ⟨_, receives⟩
          cases receives with
          | returned _ hasToken _ =>
              rw [waiting] at hasToken
              cases hasToken
          | waiting otherKey otherLock entry waits isEntry _ _ _ alive =>
              rw [waiting] at waits
              cases waits
              rw [cached_of_alive isEntry alive] at miss
              cases miss

/-- An entry that is alive survives the purge of another key. -/
theorem entries_purgeExpired_of_alive {state : State} {key : String} {entry : CachedToken}
    (isEntry : state.entries key = some entry) (alive : state.now < entry.expiresAt)
    (exclude : String) : (state.purgeExpired exclude).entries key = some entry := by
  have kept : state.purges exclude key = false := by
    simp only [State.purges, isEntry, decide_eq_false (not_le.mpr alive), Bool.and_false]
  simp only [State.purgeExpired, kept, Bool.false_eq_true, if_false, isEntry]

theorem entries_purgeExpired_self (state : State) (key : String) :
    (state.purgeExpired key).entries key = state.entries key := by
  simp [State.purgeExpired, State.purges]

/-- A key that has no token keeps none while another key is stored and purges the rest. -/
theorem cached_purgeExpired_store {state : State} {stored key : String} {entry : CachedToken}
    (different : key ≠ stored) (missing : state.cached key = none) :
    ((state.store stored entry).purgeExpired stored).cached key = none := by
  cases found : ((state.store stored entry).purgeExpired stored).cached key with
  | none => rfl
  | some token =>
      unfold State.cached at found
      split at found
      case h_1 other isEntry =>
        have before := entries_purgeExpired isEntry
        rw [entries_store, Function.update_of_ne different] at before
        split at found
        case isTrue alive =>
          rw [cached_of_alive before alive] at missing
          cases missing
        case isFalse => cases found
      case h_2 => cases found

theorem Bursts.fetched (bursts : Bursts tracked) (known : Known tracked)
    (sound : Sound tracked.state) {token : String} {ttlSeconds : Rat} {next : State}
    (outlasts : Awaited tracked task → 0 < ttlSeconds)
    (steps : Steps tracked.state (.fetched task token ttlSeconds) next) :
    Bursts (tracked.record (.fetched task token ttlSeconds) next) := by
  cases steps with
  | @fetched _ key _ lock _ fetching =>
      have isKeyOf := known.placed (congrArg Call.place fetching)
      have alone {other : TaskId} {otherLock : LockId}
          (otherFetching : tracked.state.calls other = .fetching key otherLock) : other = task :=
        sound.singleFlight other task key otherLock lock otherFetching fetching
      have unminted {other : TaskId} {minted : Minted}
          (isMinted : tracked.minted other = some minted) : other ≠ task := by
        rintro rfl
        rcases known.mints isMinted with ⟨_, returned⟩
        rw [fetching] at returned
        cases returned
      simp only [Tracked.record, isKeyOf]
      constructor
      · intro other otherKey otherLock otherFetching
        rcases calls_setCall_cases otherFetching with ⟨_, isReturned⟩ | ⟨different, before⟩
        · cases isReturned
        · have otherKeyNe : otherKey ≠ key := by
            rintro rfl
            exact different (alone before)
          exact cached_purgeExpired_store otherKeyNe (bursts.uncached before)
      · intro other fetcher hasJoined
        by_cases same : fetcher = task
        · subst fetcher
          rw [calls_setCall, Function.update_self]
          trivial
        · rw [calls_setCall, Function.update_of_ne same]
          exact bursts.past hasJoined
      · intro other fetcher otherKey otherLock hasJoined otherFetching
        rcases calls_setCall_cases otherFetching with ⟨_, isReturned⟩ | ⟨_, before⟩
        · cases isReturned
        · have waits := bursts.pending hasJoined before
          have different : other ≠ task := by
            rintro rfl
            rw [fetching] at waits
            cases waits
          exact (Function.update_of_ne different ..).trans waits
      · intro other fetcher minted hasJoined isMinted
        by_cases same : fetcher = task
        · -- Those who joined this fetch still wait, and find what it stores.
          subst fetcher
          simp only [Function.update_self, Option.some.injEq] at isMinted
          subst minted
          have waits := bursts.pending hasJoined fetching
          have different : other ≠ task := by
            rintro rfl
            rw [fetching] at waits
            cases waits
          have positive := outlasts ⟨other, key, lock, hasJoined, waits⟩
          constructor
          · simp only [Function.update_of_ne different]
            cases own : tracked.minted other with
            | none => rfl
            | some minted =>
                rcases known.mints own with ⟨_, returned⟩
                rw [waits] at returned
                cases returned
          · refine .waiting key lock { value := token, expiresAt := tracked.state.now + ttlSeconds }
              ((Function.update_of_ne different ..).trans waits) ?_ rfl rfl
                (Function.update_self ..) ?_
            · exact (entries_purgeExpired_self ..).trans (Function.update_self ..)
            · change tracked.state.now < tracked.state.now + ttlSeconds
              linarith
        · simp only [Function.update_of_ne same] at isMinted
          rcases bursts.served hasJoined isMinted with ⟨noneOwn, receives⟩
          have different : other ≠ task := by
            rintro rfl
            cases receives with
            | returned _ hasToken _ =>
                rw [fetching] at hasToken
                cases hasToken
            | waiting _ _ _ waits _ _ _ _ _ =>
                rw [fetching] at waits
                cases waits
          refine ⟨by simp only [Function.update_of_ne different, noneOwn], ?_⟩
          cases receives with
          | returned time hasToken served =>
              exact .returned time ((Function.update_of_ne different ..).trans hasToken)
                ((Function.update_of_ne different ..).trans served)
          | waiting otherKey otherLock entry waits isEntry sameToken sameExpiry storedBy alive =>
              have otherKeyNe : otherKey ≠ key := by
                rintro rfl
                have missing := bursts.uncached fetching
                rw [cached_of_alive isEntry alive] at missing
                cases missing
              refine .waiting otherKey otherLock entry
                ((Function.update_of_ne different ..).trans waits) ?_ sameToken sameExpiry
                  ((Function.update_of_ne otherKeyNe ..).trans storedBy) alive
              have kept : (tracked.state.store key
                  { value := token, expiresAt := tracked.state.now + ttlSeconds }).entries otherKey =
                    some entry := by
                rw [entries_store, Function.update_of_ne otherKeyNe]
                exact isEntry
              exact entries_purgeExpired_of_alive kept alive key

theorem Bursts.fetchFailed (bursts : Bursts tracked) (known : Known tracked) {next : State}
    (steps : Steps tracked.state (.fetchFailed task) next) :
    Bursts (tracked.record (.fetchFailed task) next) := by
  cases steps with
  | fetchFailed fetching =>
      refine bursts.move known .failed ?_ ?_ rfl rfl (calls_setCall ..) (fun _ => rfl) (fun _ => rfl)
        ?_ nofun (fun _ => rfl) ?_
      · rfl
      · rfl
      · intro _ returned
        rw [fetching] at returned
        cases returned
      · -- One that fetches has joined no fetch that is in flight or succeeded.
        intro fetcher hasJoined
        have notWaiting {key : String} {lock : LockId} :
            tracked.state.calls task ≠ .waiting key lock := by
          intro waits
          rw [fetching] at waits
          cases waits
        refine ⟨?_, bursts.past hasJoined, ?_, ?_⟩
        · rintro rfl
          exact notWaiting (bursts.pending hasJoined fetching)
        · intro key lock otherFetching
          exact absurd (bursts.pending hasJoined otherFetching) notWaiting
        · intro minted isMinted
          rcases bursts.served hasJoined isMinted with ⟨_, receives⟩
          cases receives with
          | returned _ hasToken _ =>
              rw [fetching] at hasToken
              cases hasToken
          | waiting _ _ _ waits _ _ _ _ _ => exact absurd waits notWaiting

theorem Bursts.tick (bursts : Bursts tracked) {elapsed : Rat} {next : State}
    (outlasts : ∀ fetcher minted, tracked.minted fetcher = some minted → Awaited tracked fetcher →
      tracked.state.now + elapsed < minted.storedAt + minted.ttlSeconds)
    (steps : Steps tracked.state (.tick elapsed) next) :
    Bursts (tracked.record (.tick elapsed) next) := by
  cases steps with
  | tick forward =>
      constructor
      · intro task key lock fetching
        have missing := bursts.uncached fetching
        cases found : State.cached { tracked.state with now := tracked.state.now + elapsed } key with
        | none => exact found
        | some token =>
            unfold State.cached at found
            split at found
            case h_1 entry isEntry =>
              split at found
              case isTrue alive =>
                have earlier : tracked.state.now < entry.expiresAt := by
                  change tracked.state.now + elapsed < entry.expiresAt at alive
                  linarith
                have cached := @cached_of_alive tracked.state key entry isEntry earlier
                rw [cached] at missing
                cases missing
              case isFalse => cases found
            case h_2 => cases found
      · exact bursts.past
      · exact bursts.pending
      · intro task fetcher minted hasJoined isMinted
        rcases bursts.served hasJoined isMinted with ⟨noneOwn, receives⟩
        refine ⟨noneOwn, ?_⟩
        cases receives with
        | returned time hasToken served => exact .returned time hasToken served
        | waiting key lock entry waits isEntry sameToken sameExpiry storedBy _ =>
            refine .waiting key lock entry waits isEntry sameToken sameExpiry storedBy ?_
            rw [sameExpiry]
            exact outlasts fetcher minted isMinted ⟨task, key, lock, hasJoined, waits⟩

theorem Bursts.step (bursts : Bursts tracked) (known : Known tracked) (sound : Sound tracked.state)
    {action : Action} {next : State} (outlasts : Outlasts tracked action)
    (steps : Steps tracked.state action next) : Bursts (tracked.record action next) := by
  cases action with
  | start task key => exact bursts.start known sound steps
  | resume task => exact bursts.resume known sound steps
  | fetched task token ttlSeconds => exact bursts.fetched known sound outlasts.2 steps
  | fetchFailed task => exact bursts.fetchFailed known steps
  | tick elapsed => exact bursts.tick outlasts.2 steps

end Keeps

/-- What holds in runs in which entries outlast those who wait for them. -/
theorem bursts_of_reachedWithin {tracked : Tracked}
    (reached : trackedMachine.ReachedWithin Outlasts tracked) :
    Bursts tracked ∧ Known tracked ∧ Sound tracked.state ∧ Allocated tracked.state ∧
      Queued tracked.state := by
  apply Machine.keeps_of_reachedWithin _ _ reached
  · have known := known_of_reached .start
    rcases allocated_queued_of_reached .start with ⟨allocated, queued⟩
    exact ⟨⟨nofun, nofun, nofun, nofun⟩, known, Sound.start, allocated, queued⟩
  · rintro before action after ⟨bursts, known, sound, allocated, queued⟩ outlasts recorded
    rcases Option.map_eq_some_iff.mp recorded with ⟨next, stepped, rfl⟩
    have steps := steps_of_step stepped
    have state : (before.record action next).state = next := by
      cases action <;> simp only [Tracked.record] <;> split <;> rfl
    rw [state]
    exact ⟨bursts.step known sound outlasts steps, known.step steps, sound.step outlasts.1 stepped,
      allocated.steps steps, queued.steps steps⟩

/-- A call that waits for a token in the cache does not wait for ever. -/
theorem exists_resume_of_cached {tracked : Tracked} (bursts : Bursts tracked)
    (sound : Sound tracked.state) (allocated : Allocated tracked.state)
    (queued : Queued tracked.state) {task : TaskId} {key token : String} {lock : LockId}
    (waits : tracked.state.calls task = .waiting key lock)
    (hit : tracked.state.cached key = some token) :
    ∃ other, step tracked.state (.resume other) ≠ none := by
  rcases sound.waiting task key lock waits with ⟨current, isQueued⟩
  have free : (tracked.state.heap lock).locked = false := by
    cases held : (tracked.state.heap lock).locked with
    | false => rfl
    | true =>
        rcases queued.holder held with ⟨holder, otherKey, fetching⟩
        have otherCurrent := (sound.fetching holder otherKey lock fetching).1
        have sameKey := allocated.distinct current otherCurrent
        subst otherKey
        rw [bursts.uncached fetching] at hit
        cases hit
  rcases (queued.awake lock).exists_resume free (List.ne_nil_of_mem isQueued) with
    ⟨first, held, isHead, resumed⟩
  rcases queued.waits (List.mem_of_mem_head? isHead) with ⟨otherKey, firstWaits⟩
  refine ⟨first, ?_⟩
  simp only [step, firstWaits, resumed, Option.map_some]
  exact Option.some_ne_none _

/-- No woken call is left to run. -/
def AllSettled (state : State) : Prop :=
  ∀ task, step state (.resume task) = none

/--
A call that started during a fetch waits as long as the fetch is in flight. Once it
has succeeded, the call never fetches, and returns the token of that fetch.
-/
theorem joined_of_reachedWithin {tracked : Tracked}
    (reached : trackedMachine.ReachedWithin Outlasts tracked) {task fetcher : TaskId}
    (hasJoined : tracked.joined task fetcher = true) :
    (∀ key lock, tracked.state.calls fetcher = .fetching key lock →
      tracked.state.calls task = .waiting key lock) ∧
    ∀ minted, tracked.minted fetcher = some minted →
      tracked.minted task = none ∧
      (∀ key lock, tracked.state.calls task ≠ .fetching key lock) ∧
      (∀ token, tracked.state.calls task = .returned token →
        token = minted.token ∧ ∃ time, tracked.servedBy task = some (fetcher, time)) ∧
      (AllSettled tracked.state → tracked.state.calls task = .returned minted.token) := by
  rcases bursts_of_reachedWithin reached with ⟨bursts, _, sound, allocated, queued⟩
  refine ⟨fun _ _ fetching => bursts.pending hasJoined fetching, ?_⟩
  intro minted isMinted
  rcases bursts.served hasJoined isMinted with ⟨noneOwn, receives⟩
  refine ⟨noneOwn, ?_⟩
  cases receives with
  | returned time hasToken served =>
      refine ⟨?_, ?_, fun _ => hasToken⟩
      · intro key lock fetching
        rw [hasToken] at fetching
        cases fetching
      · intro token returned
        rw [hasToken] at returned
        cases returned
        exact ⟨rfl, time, served⟩
  | waiting key lock entry waits isEntry _ _ _ alive =>
      refine ⟨?_, ?_, ?_⟩
      · intro otherKey otherLock fetching
        rw [waits] at fetching
        cases fetching
      · intro token returned
        rw [waits] at returned
        cases returned
      · intro settled
        have hit := cached_of_alive isEntry alive
        rcases exists_resume_of_cached bursts sound allocated queued waits hit with ⟨other, resumes⟩
        exact absurd (settled other) resumes

section Pair

private def pair : List Action :=
  [.start 0 "k", .start 1 "k"]

/-- A token without time left makes the second call fetch for itself. -/
theorem not_joined_expired :
    ∃ tracked, trackedMachine.run trackedMachine.start (pair ++ [.fetched 0 "a" 0, .resume 1]) =
        some tracked ∧
      trackedMachine.Reached tracked ∧ tracked.joined 1 0 = true ∧
      (tracked.minted 0).isSome = true ∧ tracked.state.calls 1 = .fetching "k" 0 := by
  have joined : (trackedMachine.run trackedMachine.start
      (pair ++ [.fetched 0 "a" 0, .resume 1])).map (·.joined 1 0) = some true := by decide +kernel
  have minted : (trackedMachine.run trackedMachine.start
      (pair ++ [.fetched 0 "a" 0, .resume 1])).map (fun tracked => (tracked.minted 0).isSome) =
        some true := by decide +kernel
  have fetching : (trackedMachine.run trackedMachine.start
      (pair ++ [.fetched 0 "a" 0, .resume 1])).map (·.state.calls 1) =
        some (.fetching "k" 0) := by decide +kernel
  rcases Option.map_eq_some_iff.mp joined with ⟨tracked, ran, joined⟩
  rw [ran, Option.map_some, Option.some.injEq] at minted fetching
  refine ⟨tracked, ran, ?_, joined, minted, fetching⟩
  exact Machine.reachedWithin_of_run (fun _ _ _ => trivial) .start ran

/-- With time left, the second call returns the first call's token. -/
theorem joined_of_reachedWithin_pair :
    ∃ tracked, trackedMachine.ReachedWithin Outlasts tracked ∧
      tracked.state.calls 1 = .returned "a" ∧ ∃ time, tracked.servedBy 1 = some (0, time) := by
  have joined : (trackedMachine.run trackedMachine.start
      (pair ++ [.fetched 0 "a" 5, .resume 1])).map (·.joined 1 0) = some true := by decide +kernel
  have minted : (trackedMachine.run trackedMachine.start
      (pair ++ [.fetched 0 "a" 5, .resume 1])).map (fun tracked => (tracked.minted 0).isSome) =
        some true := by decide +kernel
  have returned : (trackedMachine.run trackedMachine.start
      (pair ++ [.fetched 0 "a" 5, .resume 1])).map (·.state.calls 1) =
        some (.returned "a") := by decide +kernel
  have noEntries : (trackedMachine.run trackedMachine.start pair).map (·.state.entries) =
      some (fun _ => none) := rfl
  rcases Option.map_eq_some_iff.mp joined with ⟨final, ran, joined⟩
  rw [ran, Option.map_some, Option.some.injEq] at minted returned
  rw [Machine.run_append, Option.bind_eq_some_iff] at ran
  rcases ran with ⟨queued, ranPair, ran⟩
  rw [ranPair, Option.map_some, Option.some.injEq] at noEntries
  have reachedPair : trackedMachine.ReachedWithin Outlasts queued := by
    apply Machine.reachedWithin_of_run _ .start ranPair
    intro action actionMem before
    simp only [pair, List.mem_cons, List.not_mem_nil, or_false] at actionMem
    rcases actionMem with rfl | rfl <;> exact ⟨trivial, trivial⟩
  have reached : trackedMachine.ReachedWithin Outlasts final := by
    rw [Machine.run, Option.bind_eq_some_iff] at ran
    rcases ran with ⟨stored, fetched, ran⟩
    rw [Machine.run, Option.bind_eq_some_iff] at ran
    rcases ran with ⟨last, resumed, ended⟩
    cases ended
    have purgesNone : PurgesNoQueue queued.state (.fetched 0 "a" 5) := by
      intro fetchedKey ownLock _ key lock purged
      rw [State.purges, noEntries, Bool.and_false] at purged
      cases purged
    have reachedStored : trackedMachine.ReachedWithin Outlasts stored :=
      .step (.fetched 0 "a" 5) reachedPair ⟨purgesNone, fun _ => by norm_num⟩ fetched
    exact .step (.resume 1) reachedStored ⟨trivial, trivial⟩ resumed
  rcases Option.isSome_iff_exists.mp minted with ⟨record, isMinted⟩
  rcases (joined_of_reachedWithin reached joined).2 record isMinted with ⟨_, _, hasToken, _⟩
  exact ⟨final, reached, returned, (hasToken "a" returned).2⟩

end Pair

end TokenCache

end McpPortal
