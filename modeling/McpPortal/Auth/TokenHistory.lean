import Mathlib.Algebra.Order.Ring.Rat
import Mathlib.Tactic.Linarith
import McpPortal.Auth.TokenQueues

/-!
# Where a token comes from

The cache with a record of its run: the key each call was made with, the fetches
that were in flight when it started, the tokens that were minted, and whose token a
call returned. The record follows the steps and never changes them. In every run a
returned token was minted by a fetch for the same key, and one that was found in
the cache had not expired.
-/

namespace McpPortal

open Foundation

namespace TokenCache

/-- A token that a fetch has stored. -/
structure Minted where
  token : String
  storedAt : Rat
  ttlSeconds : Rat

structure Tracked where
  state : State := {}
  keyOf : TaskId → Option String := fun _ => none
  joined : TaskId → TaskId → Bool := fun _ _ => false
  minted : TaskId → Option Minted := fun _ => none
  storedBy : String → Option TaskId := fun _ => none
  servedBy : TaskId → Option (TaskId × Rat) := fun _ => none

/-- The call is fetching the key. -/
def isFetching (state : State) (key : String) (task : TaskId) : Bool :=
  match state.calls task with
  | .fetching other _ => other = key
  | _ => false

namespace Tracked

variable (tracked : Tracked)

/-- A call that has returned was served by whoever stored the entry of its key. -/
def recordServed (task : TaskId) (key : String) (next : State) :
    TaskId → Option (TaskId × Rat) :=
  match next.calls task with
  | .returned _ =>
      Function.update tracked.servedBy task
        ((tracked.storedBy key).map fun fetcher => (fetcher, next.now))
  | _ => tracked.servedBy

def record (action : Action) (next : State) : Tracked :=
  match action with
  | .start task key =>
      { tracked with
        state := next
        keyOf := Function.update tracked.keyOf task (some key)
        joined := Function.update tracked.joined task (isFetching tracked.state key)
        servedBy := tracked.recordServed task key next }
  | .resume task =>
      match tracked.keyOf task with
      | some key => { tracked with state := next, servedBy := tracked.recordServed task key next }
      | none => { tracked with state := next }
  | .fetched task token ttlSeconds =>
      match tracked.keyOf task with
      | some key =>
          { tracked with
            state := next
            minted := Function.update tracked.minted task
              (some { token, storedAt := next.now, ttlSeconds })
            storedBy := Function.update tracked.storedBy key (some task)
            servedBy := Function.update tracked.servedBy task (some (task, next.now)) }
      | none => { tracked with state := next }
  | _ => { tracked with state := next }

end Tracked

def trackedMachine : Machine Tracked Action where
  start := {}
  step tracked action := (step tracked.state action).map (tracked.record action)

/-- What a call returned was minted for its key, by its own fetch or by one whose token was alive. -/
structure Serves (tracked : Tracked) (task : TaskId) (token : String) (fetcher : TaskId) (time : Rat)
    (minted : Minted) : Prop where
  served : tracked.servedBy task = some (fetcher, time)
  isMinted : tracked.minted fetcher = some minted
  sameKey : tracked.keyOf fetcher = tracked.keyOf task
  sameToken : minted.token = token
  alive : fetcher = task ∨
    minted.storedAt ≤ time ∧ time < minted.storedAt + minted.ttlSeconds

/-- An entry holds what the fetch that stored it has minted. -/
structure StoredBy (tracked : Tracked) (key : String) (entry : CachedToken) (fetcher : TaskId)
    (minted : Minted) : Prop where
  storedBy : tracked.storedBy key = some fetcher
  isMinted : tracked.minted fetcher = some minted
  isKey : tracked.keyOf fetcher = some key
  sameToken : entry.value = minted.token
  sameExpiry : entry.expiresAt = minted.storedAt + minted.ttlSeconds
  past : minted.storedAt ≤ tracked.state.now

/-- What the record says of a state. -/
structure Known (tracked : Tracked) : Prop where
  placed : ∀ {task key lock}, (tracked.state.calls task).place = some (key, lock) →
    tracked.keyOf task = some key
  mints : ∀ {task minted}, tracked.minted task = some minted →
    ∃ token, tracked.state.calls task = .returned token
  stored : ∀ {key entry}, tracked.state.entries key = some entry →
    ∃ fetcher minted, StoredBy tracked key entry fetcher minted
  served : ∀ {task token}, tracked.state.calls task = .returned token →
    ∃ fetcher time minted, Serves tracked task token fetcher time minted

section Keeps

variable {tracked next : Tracked} {task : TaskId}

/-- A call that has minted nothing goes on, and nothing else changes. -/
theorem Known.move (known : Known tracked) (call : Call)
    (sameEntries : next.state.entries = tracked.state.entries)
    (sameNow : next.state.now = tracked.state.now) (sameMinted : next.minted = tracked.minted)
    (sameStored : next.storedBy = tracked.storedBy)
    (calls : next.state.calls = Function.update tracked.state.calls task call)
    (keyOf : ∀ {other}, other ≠ task → next.keyOf other = tracked.keyOf other)
    (servedBy : ∀ {other}, other ≠ task → next.servedBy other = tracked.servedBy other)
    (notReturned : ∀ token, tracked.state.calls task ≠ .returned token)
    (placed : ∀ {key lock}, call.place = some (key, lock) → next.keyOf task = some key)
    (serves : ∀ {token}, call = .returned token →
      ∃ fetcher time minted, Serves next task token fetcher time minted) : Known next := by
  have unminted {other : TaskId} {minted : Minted} (isMinted : tracked.minted other = some minted) :
      other ≠ task := by
    rintro rfl
    rcases known.mints isMinted with ⟨token, returned⟩
    exact notReturned token returned
  constructor
  · intro other key lock isPlace
    by_cases same : other = task
    · subst other
      rw [calls, Function.update_self] at isPlace
      exact placed isPlace
    · rw [calls, Function.update_of_ne same] at isPlace
      rw [keyOf same]
      exact known.placed isPlace
  · intro other minted isMinted
    rw [sameMinted] at isMinted
    rcases known.mints isMinted with ⟨token, returned⟩
    exact ⟨token, by rw [calls, Function.update_of_ne (unminted isMinted), returned]⟩
  · intro key entry isEntry
    rw [sameEntries] at isEntry
    rcases known.stored isEntry with ⟨fetcher, minted, stores⟩
    refine ⟨fetcher, minted, ?_⟩
    exact
      { storedBy := sameStored ▸ stores.storedBy
        isMinted := sameMinted ▸ stores.isMinted
        isKey := (keyOf (unminted stores.isMinted)).trans stores.isKey
        sameToken := stores.sameToken
        sameExpiry := stores.sameExpiry
        past := sameNow ▸ stores.past }
  · intro other token returned
    by_cases same : other = task
    · subst other
      rw [calls, Function.update_self] at returned
      exact serves returned
    · rw [calls, Function.update_of_ne same] at returned
      rcases known.served returned with ⟨fetcher, time, minted, serving⟩
      refine ⟨fetcher, time, minted, ?_⟩
      exact
        { served := (servedBy same).trans serving.served
          isMinted := sameMinted ▸ serving.isMinted
          sameKey := by
            rw [keyOf (unminted serving.isMinted), keyOf same]
            exact serving.sameKey
          sameToken := serving.sameToken
          alive := serving.alive }

/-- A token found in the cache is served by the fetch that stored it. -/
theorem Known.serves_of_cached (known : Known tracked) {key token : String}
    (hit : tracked.state.cached key = some token) :
    ∃ fetcher minted, tracked.storedBy key = some fetcher ∧
      tracked.minted fetcher = some minted ∧ tracked.keyOf fetcher = some key ∧
      minted.token = token ∧ minted.storedAt ≤ tracked.state.now ∧
      tracked.state.now < minted.storedAt + minted.ttlSeconds := by
  unfold State.cached at hit
  split at hit
  case h_1 entry isEntry =>
    split at hit
    case isTrue alive =>
      rw [Option.some.injEq] at hit
      rcases known.stored isEntry with ⟨fetcher, minted, stores⟩
      refine ⟨fetcher, minted, stores.storedBy, stores.isMinted, stores.isKey, ?_, stores.past, ?_⟩
      · rw [← stores.sameToken, hit]
      · rw [← stores.sameExpiry]
        exact alive
    case isFalse => cases hit
  case h_2 => cases hit

theorem recordServed_of_returned (tracked : Tracked) {next : State} {key token : String}
    (returned : next.calls task = .returned token) :
    tracked.recordServed task key next = Function.update tracked.servedBy task
      ((tracked.storedBy key).map fun fetcher => (fetcher, next.now)) := by
  rw [Tracked.recordServed, returned]

theorem recordServed_of_ne (tracked : Tracked) {next : State} {key : String} {other : TaskId}
    (different : other ≠ task) :
    tracked.recordServed task key next other = tracked.servedBy other := by
  unfold Tracked.recordServed
  cases next.calls task with
  | returned token => exact Function.update_of_ne different ..
  | _ => rfl

theorem Known.start (known : Known tracked) {key : String} {next : State}
    (steps : Steps tracked.state (.start task key) next) :
    Known (tracked.record (.start task key) next) := by
  have keyOf : ∀ {other}, other ≠ task →
      (tracked.record (.start task key) next).keyOf other = tracked.keyOf other :=
    fun different => Function.update_of_ne different ..
  have servedBy : ∀ {other}, other ≠ task →
      (tracked.record (.start task key) next).servedBy other = tracked.servedBy other :=
    fun different => recordServed_of_ne tracked different
  cases steps with
  | @startHit _ _ token idle hit =>
      rcases known.serves_of_cached hit with
        ⟨fetcher, minted, storedBy, isMinted, isKey, sameToken, past, alive⟩
      have elsewhere : fetcher ≠ task := by
        rintro rfl
        rcases known.mints isMinted with ⟨_, returned⟩
        rw [idle] at returned
        cases returned
      refine known.move (.returned token) ?_ ?_ rfl rfl (calls_setCall ..) keyOf servedBy ?_ nofun ?_
      · rfl
      · rfl
      · intro _ returned
        rw [idle] at returned
        cases returned
      · intro other isToken
        cases isToken
        refine ⟨fetcher, tracked.state.now, minted, ?_, isMinted, ?_, sameToken,
          Or.inr ⟨past, alive⟩⟩
        · change tracked.recordServed task key _ task = _
          rw [recordServed_of_returned tracked (Function.update_self ..), Function.update_self,
            storedBy]
          rfl
        · rw [keyOf elsewhere, isKey]
          change some key = Function.update tracked.keyOf task (some key) task
          rw [Function.update_self]
  | startFetch idle _ _ =>
      refine known.move (.fetching key (tracked.state.lockFor key).1) ?_ ?_ rfl rfl ?_ keyOf
        servedBy ?_ ?_ ?_
      · exact entries_lockFor ..
      · exact now_lockFor ..
      · change Function.update (tracked.state.lockFor key).2.calls _ _ = _
        rw [calls_lockFor]
      · intro _ returned
        rw [idle] at returned
        cases returned
      · intro other lock isPlace
        cases isPlace
        exact Function.update_self ..
      · intro _ isReturned
        cases isReturned
  | startWait idle _ _ =>
      refine known.move (.waiting key (tracked.state.lockFor key).1) ?_ ?_ rfl rfl ?_ keyOf
        servedBy ?_ ?_ ?_
      · exact entries_lockFor ..
      · exact now_lockFor ..
      · change Function.update (tracked.state.lockFor key).2.calls _ _ = _
        rw [calls_lockFor]
      · intro _ returned
        rw [idle] at returned
        cases returned
      · intro other lock isPlace
        cases isPlace
        exact Function.update_self ..
      · intro _ isReturned
        cases isReturned

theorem Known.resume (known : Known tracked) {next : State}
    (steps : Steps tracked.state (.resume task) next) :
    Known (tracked.record (.resume task) next) := by
  cases steps with
  | @resumeHit _ key token lock held waiting _ hit =>
      have isKeyOf := known.placed (congrArg Call.place waiting)
      rcases known.serves_of_cached hit with
        ⟨fetcher, minted, storedBy, isMinted, isKey, sameToken, past, alive⟩
      simp only [Tracked.record, isKeyOf]
      refine known.move (.returned token) ?_ ?_ rfl rfl (calls_setCall ..) (fun _ => rfl) ?_ ?_ nofun
        ?_
      · rfl
      · rfl
      · intro other different
        exact recordServed_of_ne tracked different
      · intro _ returned
        rw [waiting] at returned
        cases returned
      · intro other isToken
        cases isToken
        refine ⟨fetcher, tracked.state.now, minted, ?_, isMinted, ?_, sameToken,
          Or.inr ⟨past, alive⟩⟩
        · change tracked.recordServed task key _ task = _
          rw [recordServed_of_returned tracked (Function.update_self ..), Function.update_self,
            storedBy]
          rfl
        · exact isKey.trans isKeyOf.symm
  | @resumeFetch _ key lock held waiting _ _ =>
      have isKeyOf := known.placed (congrArg Call.place waiting)
      simp only [Tracked.record, isKeyOf]
      refine known.move (.fetching key lock) ?_ ?_ rfl rfl (calls_setCall ..) (fun _ => rfl) ?_ ?_
        ?_ nofun
      · rfl
      · rfl
      · intro other different
        exact recordServed_of_ne tracked different
      · intro _ returned
        rw [waiting] at returned
        cases returned
      · intro other otherLock isPlace
        cases isPlace
        exact isKeyOf

/-- A purge keeps an entry or drops it. -/
theorem entries_purgeExpired {state : State} {exclude key : String} {entry : CachedToken}
    (kept : (state.purgeExpired exclude).entries key = some entry) :
    state.entries key = some entry := by
  simp only [State.purgeExpired] at kept
  split at kept
  · cases kept
  · exact kept

theorem Known.fetched (known : Known tracked) {token : String} {ttlSeconds : Rat} {next : State}
    (steps : Steps tracked.state (.fetched task token ttlSeconds) next) :
    Known (tracked.record (.fetched task token ttlSeconds) next) := by
  cases steps with
  | @fetched _ key _ lock _ fetching =>
      have isKeyOf := known.placed (congrArg Call.place fetching)
      have unminted {other : TaskId} {minted : Minted}
          (isMinted : tracked.minted other = some minted) : other ≠ task := by
        rintro rfl
        rcases known.mints isMinted with ⟨_, returned⟩
        rw [fetching] at returned
        cases returned
      simp only [Tracked.record, isKeyOf]
      constructor
      · intro other otherKey otherLock isPlace
        rcases place_update isPlace with ⟨_, noPlace⟩ | before
        · cases noPlace
        · exact known.placed before
      · intro other minted isMinted
        by_cases same : other = task
        · subst other
          exact ⟨token, Function.update_self ..⟩
        · simp only [Function.update_of_ne same] at isMinted
          rcases known.mints isMinted with ⟨otherToken, returned⟩
          exact ⟨otherToken, (Function.update_of_ne same ..).trans returned⟩
      · intro otherKey entry isEntry
        have before := @entries_purgeExpired (tracked.state.store key _) _ _ _ isEntry
        by_cases same : otherKey = key
        · subst otherKey
          rw [entries_store, Function.update_self, Option.some.injEq] at before
          subst entry
          refine ⟨task, { token, storedAt := tracked.state.now, ttlSeconds }, ?_⟩
          exact
            { storedBy := Function.update_self ..
              isMinted := Function.update_self ..
              isKey := isKeyOf
              sameToken := rfl
              sameExpiry := rfl
              past := le_refl _ }
        · rw [entries_store, Function.update_of_ne same] at before
          rcases known.stored before with ⟨fetcher, minted, stores⟩
          refine ⟨fetcher, minted, ?_⟩
          exact
            { storedBy := (Function.update_of_ne same ..).trans stores.storedBy
              isMinted := (Function.update_of_ne (unminted stores.isMinted) ..).trans stores.isMinted
              isKey := stores.isKey
              sameToken := stores.sameToken
              sameExpiry := stores.sameExpiry
              past := stores.past }
      · intro other otherToken returned
        by_cases same : other = task
        · subst other
          rw [calls_setCall, Function.update_self] at returned
          cases returned
          refine ⟨task, tracked.state.now, { token, storedAt := tracked.state.now, ttlSeconds }, ?_⟩
          exact
            { served := Function.update_self ..
              isMinted := Function.update_self ..
              sameKey := rfl
              sameToken := rfl
              alive := Or.inl rfl }
        · rw [calls_setCall, Function.update_of_ne same] at returned
          rcases known.served returned with ⟨fetcher, time, minted, serving⟩
          refine ⟨fetcher, time, minted, ?_⟩
          exact
            { served := (Function.update_of_ne same ..).trans serving.served
              isMinted := (Function.update_of_ne (unminted serving.isMinted) ..).trans
                serving.isMinted
              sameKey := serving.sameKey
              sameToken := serving.sameToken
              alive := serving.alive }

theorem Known.step (known : Known tracked) {action : Action} {next : State}
    (steps : Steps tracked.state action next) : Known (tracked.record action next) := by
  cases action with
  | start task key => exact known.start steps
  | resume task => exact known.resume steps
  | fetched task token ttlSeconds => exact known.fetched steps
  | fetchFailed task =>
      cases steps with
      | fetchFailed fetching =>
          refine known.move .failed ?_ ?_ rfl rfl (calls_setCall ..) (fun _ => rfl) (fun _ => rfl) ?_
            nofun nofun
          · rfl
          · rfl
          · intro _ returned
            rw [fetching] at returned
            cases returned
  | tick elapsed =>
      cases steps with
      | tick forward =>
          constructor
          · intro task key lock isPlace
            exact known.placed isPlace
          · intro task minted isMinted
            exact known.mints isMinted
          · intro key entry isEntry
            rcases known.stored isEntry with ⟨fetcher, minted, stores⟩
            refine ⟨fetcher, minted, stores.storedBy, stores.isMinted, stores.isKey,
              stores.sameToken, stores.sameExpiry, ?_⟩
            change minted.storedAt ≤ tracked.state.now + elapsed
            linarith [stores.past]
          · intro task token returned
            rcases known.served returned with ⟨fetcher, time, minted, serving⟩
            exact ⟨fetcher, time, minted, serving.served, serving.isMinted, serving.sameKey,
              serving.sameToken, serving.alive⟩

end Keeps

theorem known_of_reached {tracked : Tracked} (reached : trackedMachine.Reached tracked) :
    Known tracked := by
  apply Machine.keeps_of_reachedWithin _ _ reached
  · exact ⟨nofun, nofun, nofun, nofun⟩
  · intro before action after known _ recorded
    rcases Option.map_eq_some_iff.mp recorded with ⟨next, stepped, rfl⟩
    exact known.step (steps_of_step stepped)

end TokenCache

end McpPortal
