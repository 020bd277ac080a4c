import McpPortal.Server.ServiceMoves

/-!
# What every step of the server keeps

A step leaves the other calls alone, and keeps for its own what holds of every call.
-/

namespace McpPortal

open Foundation

namespace Service

variable {Key : Type} (portal : Portal Key)

section Keeps

variable {portal} {state middle next : State} {call : CallId}

theorem Coherent.goes (coherent : Coherent portal state)
    (between : Between portal state middle call) (silent : middle.logOf call = [])
    (goes : Goes portal middle call next) : Coherent portal next := by
  have caches := goes.caches
  apply coherent.advance call
  · intro other different
    have first := between.others other different
    have second := goes.others different
    exact ⟨first.1.trans second.1, second.2.trans first.2⟩
  · rw [caches.1]
    exact between.requested
  · intro kid jwk found
    rw [caches.2.1] at found
    rw [caches.2.2.2]
    exact between.provided found
  · rw [caches.2.2.1]
    exact between.arrived
  · exact goes.placed silent
  · exact goes.beside
  · exact goes.justified silent

theorem Coherent.reaches (coherent : Coherent portal state)
    (between : Between portal state middle call) (silent : middle.logOf call = [])
    (reaches : Reaches portal middle call next) : Coherent portal next := by
  rcases reaches with ⟨credentials, same | ⟨request, _, asked⟩, goes⟩
  · subst same
    exact coherent.goes between silent goes
  · have stillBetween : Between portal state { middle with credentials } call := by
      refine ⟨?_, between.requested.step asked, between.provided, between.arrived⟩
      intro other different
      have first := between.others other different
      have second : Agrees other middle { middle with credentials } :=
        agrees_credentials asked fun same => different (Option.some.inj same).symm
      exact ⟨first.1.trans second, first.2⟩
    exact coherent.goes stillBetween silent goes

/-- A call that goes on without the caches and without sending. -/
theorem Coherent.setStage (coherent : Coherent portal state) {stage : Stage}
    (arrived : state.arrivals call ≠ none) (placed : Placed portal state call stage)
    (beside : Beside state call stage) : Coherent portal (state.setStage call stage) := by
  apply coherent.advance call
  · intro other different
    exact ⟨agrees_setStage .., stages_setStage_of_ne different _⟩
  · exact coherent.requested
  · exact coherent.provided
  · exact arrived
  · rw [stages_setStage]
    exact placed.agrees (agrees_setStage ..)
  · rw [stages_setStage]
    exact beside.agrees (agrees_setStage ..)
  · intro sent sentMem
    have justified := coherent.justified sent (mem_logOf.mp sentMem).1
    exact justified.agrees (agrees_setStage ..)

theorem Trying.thrifty {sent : Sent} (trying : Trying state sent) (isCall : sent.call = call) :
    Thrifty state call := by
  subst isCall
  intro first firstMem
  have sameFirst := trying.same first firstMem
  have tries : first.tries = sent.tries := by rw [Sent.tries, sameFirst.1, Sent.tries]
  refine ⟨?_, ?_⟩
  · rw [trying.logged, tries]
    exact trying.within
  · intro second secondMem
    have sameSecond := trying.same second secondMem
    exact ⟨sameSecond.1.trans sameFirst.1.symm, sameSecond.2.trans sameFirst.2.symm⟩

/-- What follows a pause is the next attempt of the same loop. -/
theorem Unrolled.again {sent : Sent} {attempts : Nat → Attempt} {made : Attempt}
    (unrolled : Unrolled portal sent attempts) (repeats : Repeats portal sent made) (now : Rat) :
    ∃ attempts, Unrolled portal (sent.again now) attempts := by
  rcases repeats.funded with ⟨delay, sleeps⟩
  let slept : Attempt := { made with sleep := fun _ => now - (sent.sentAt + made.duration) }
  refine ⟨Function.update attempts sent.attempt slept, ?_⟩
  intro later agrees
  have isSlept : later sent.attempt = slept := by
    rw [agrees sent.attempt (Nat.lt_succ_self _), Function.update_self]
  have earlier : ∀ attempt < sent.attempt, later attempt = attempts attempt := by
    intro attempt before
    rw [agrees attempt (Nat.lt_succ_of_lt before), Function.update_of_ne before.ne]
  have more : sent.tries - 1 - sent.attempt = sent.tries - 1 - (sent.attempt + 1) + 1 := by
    have within := repeats.more
    omega
  have woken : sent.sentAt + made.duration + (now - (sent.sentAt + made.duration)) = now :=
    add_sub_cancel ..
  have ending := unrolled later earlier
  rw [more, ending_sendFrom_waits (by rw [isSlept]; exact repeats.retryable), isSlept] at ending
  rw [sleeps] at ending
  simp only [slept, woken] at ending
  exact ending

theorem Coherent.woken (coherent : Coherent portal state) {sent : Sent}
    (isStage : state.stages call = .pausing sent) :
    Coherent portal (state.send (sent.again state.now)) := by
  have placed := coherent.placed call
  have resting := coherent.beside call
  rw [isStage] at placed resting
  rcases placed with ⟨rfl, logged, trying, attempts, made, unrolled, repeats⟩
  have justified := coherent.justified sent (mem_logOf.mp logged).1
  have log : (state.send (sent.again state.now)).logOf sent.call =
      sent.again state.now :: state.logOf sent.call := by
    rw [logOf_send]
    exact if_pos rfl
  have isSending : (state.send (sent.again state.now)).stages sent.call =
      .sending (sent.again state.now) := stages_setStage _
  apply coherent.advance sent.call
  · intro other different
    exact ⟨agrees_send different, Function.update_of_ne different ..⟩
  · exact coherent.requested
  · exact coherent.provided
  · exact justified.assigned.arrived
  · rw [isSending]
    refine ⟨rfl, ?_, ⟨?_, ?_, repeats.more⟩, unrolled.again repeats state.now⟩
    · rw [log]
      exact List.mem_cons_self
    · exact (congrArg List.length log).trans (congrArg Nat.succ trying.logged)
    · intro other otherMem
      have logMem : other ∈ sent.again state.now :: state.logOf sent.call := log ▸ otherMem
      rcases List.mem_cons.mp logMem with rfl | before
      · exact ⟨rfl, rfl⟩
      · exact trying.same other before
  · rw [isSending]
    exact resting
  · intro other otherMem
    rw [log, List.mem_cons] at otherMem
    rcases otherMem with rfl | before
    · exact ⟨justified.assigned, justified.serves, justified.built, justified.entitled⟩
    · have old := coherent.justified other (mem_logOf.mp before).1
      exact ⟨old.assigned, old.serves, old.built, old.entitled⟩

theorem Coherent.tick (coherent : Coherent portal state) {elapsed : Rat} {keys : JwksCache.State}
    {credentials : Acquire.State}
    (keysTick : JwksCache.step state.keys (.tick elapsed) = some keys)
    (credentialsTick : Acquire.step portal.world state.credentials (.tick elapsed) =
      some credentials) : Coherent portal { state with keys, credentials } := by
  have agrees : ∀ call, Agrees call state { state with keys, credentials } := by
    intro call
    have kept := @Acquire.keeps_others _ _ _ call _ credentialsTick nofun
    exact ⟨rfl, congrFun (JwksCache.calls_of_tick keysTick) call, kept.2, kept.1, rfl,
      fun _ replyMem => replyMem⟩
  constructor
  · exact coherent.requested.step credentialsTick
  · intro kid jwk found
    rcases JwksCache.provides_of_step keysTick found with before | ⟨_, _, isReply, _⟩
    · exact coherent.provided before
    · cases isReply
  · intro call absent
    have fresh := coherent.fresh absent
    exact ⟨fresh.1, (agrees call).key.trans fresh.2.1, (agrees call).request.trans fresh.2.2.1,
      (agrees call).credential.trans fresh.2.2.2⟩
  · exact fun call => (coherent.placed call).agrees (agrees call)
  · exact fun call => (coherent.beside call).agrees (agrees call)
  · exact fun sent sentMem => (coherent.justified sent sentMem).agrees (agrees sent.call)

theorem Coherent.keeps (coherent : Coherent portal state) {action : Action}
    (stepped : step portal state action = some next) : Coherent portal next := by
  cases coherent.moves stepped with
  | arrives _ _ between silent reaches => exact coherent.reaches between silent reaches
  | verifies _ _ _ _ between silent reaches => exact coherent.reaches between silent reaches
  | acquires _ _ _ _ _ between silent goes => exact coherent.goes between silent goes
  | @answers _ call sent _ _ isStage alone =>
      have placed := coherent.placed call
      have resting := coherent.beside call
      rw [isStage] at placed resting
      rcases placed with ⟨isCall, logged, trying, _⟩
      have justified := coherent.justified sent (mem_logOf.mp logged).1
      refine coherent.setStage ?_ ⟨trying.thrifty isCall, alone⟩ resting
      rw [← isCall]
      exact justified.assigned.arrived
  | @pauses _ call sent _ isStage paused =>
      have placed := coherent.placed call
      have resting := coherent.beside call
      rw [isStage] at placed resting
      rcases placed with ⟨isCall, logged, trying, _⟩
      have justified := coherent.justified sent (mem_logOf.mp logged).1
      refine coherent.setStage ?_ ⟨isCall, logged, trying, paused⟩ resting
      rw [← isCall]
      exact justified.assigned.arrived
  | wakes _ isStage => exact coherent.woken isStage
  | ticks keysTick credentialsTick => exact coherent.tick keysTick credentialsTick

end Keeps

theorem coherent_start : Coherent portal {} where
  requested := @Acquire.requested_of_reachedWithin portal.world (fun _ _ => True) _ .start
  provided found := by cases found
  fresh _ := ⟨rfl, rfl, rfl, rfl⟩
  placed _ := (rfl : ({} : State).logOf _ = [])
  beside _ := ⟨fun pending => pending.1 rfl, fun pending => pending.1 rfl⟩
  justified _ sentMem := absurd sentMem List.not_mem_nil

theorem coherent_of_reached {portal : Portal Key} {state : State}
    (reached : (machine portal).Reached state) : Coherent portal state := by
  apply Machine.keeps_of_reachedWithin _ _ reached
  · exact coherent_start portal
  · intro before action after coherent _ stepped
    exact coherent.keeps stepped

end Service

end McpPortal
