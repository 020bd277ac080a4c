import McpPortal.Server.SecretsBuild
import McpPortal.Server.ServiceDestinations

/-!
# What secrets have no influence on

Two servers that differ in what their secret references stand for take the same steps. Whatever
comes from outside, they answer every call alike, ask for the same tokens and send the same
requests, but for the value of the header that a credential is configured for.
-/

namespace McpPortal

open Foundation

/-- The same request with one credential and with another. -/
structure PreparedRequest.SameBut (own ownToo : Option Credential) (left right : PreparedRequest) :
    Prop where
  method : left.method = right.method
  url : left.url = right.url
  headers : ∃ given,
    left.headers = attachCredential given own ∧ right.headers = attachCredential given ownToo
  body : left.body = right.body

theorem agree_operationRequest (isPrintable : Char → Bool) (operation : Operation)
    (baseUrl : String) (arguments : JsonObject) (own ownToo : Option Credential) :
    Agree (PreparedRequest.SameBut own ownToo)
      (operationRequest isPrintable operation baseUrl arguments own)
      (operationRequest isPrintable operation baseUrl arguments ownToo) := by
  unfold operationRequest
  cases operation.binding with
  | http binding =>
      dsimp only
      unfold buildRequest
      apply Agree.bind (.refl _)
      rintro parts _ rfl
      apply Agree.bind (.refl _)
      rintro ⟨headers, body⟩ _ rfl
      exact .ok ⟨rfl, rfl, ⟨headers, rfl, rfl⟩, rfl⟩
  | graphQl binding =>
      exact .ok ⟨rfl, rfl, ⟨[("Content-Type", "application/json")], rfl, rfl⟩, rfl⟩

namespace Service

variable {Key : Type}

/-- The portal with other secrets, and with what is built with them. -/
def Portal.rekeyed (portal : Portal Key) (secrets : List (String × String)) (app : App) :
    Portal Key :=
  { portal with loaded := { portal.loaded with secrets }, app }

/-- Only credentials that are configured may differ, and only in their values. -/
structure OnlyValue (job : Job) (own ownToo : Option Credential) : Prop where
  sameHeader : SameHeader own ownToo
  minted : (∀ credential, job.adapter.settings.credentialSource ≠ .static credential) → own = ownToo

structure Sent.Alike (left right : Sent) : Prop where
  call : left.call = right.call
  job : left.job.Alike right.job
  credential : OnlyValue left.job left.credential right.credential
  request : left.request.SameBut left.credential right.credential right.request
  attempt : left.attempt = right.attempt
  started : left.started = right.started
  sentAt : left.sentAt = right.sentAt

inductive Stage.Alike : Stage → Stage → Prop
  | idle : Alike .idle .idle
  | verifying {token algorithm : String} {request : CallToolRequest} :
      Alike (.verifying token algorithm request) (.verifying token algorithm request)
  | acquiring {left right : Job} (same : left.Alike right) :
      Alike (.acquiring left) (.acquiring right)
  | sending {left right : Sent} (same : left.Alike right) : Alike (.sending left) (.sending right)
  | pausing {left right : Sent} (same : left.Alike right) : Alike (.pausing left) (.pausing right)
  | unauthorized : Alike .unauthorized .unauthorized
  | raised : Alike .raised .raised
  | answered {outcome : CallOutcome} : Alike (.answered outcome) (.answered outcome)

structure State.Alike (left right : State) : Prop where
  keys : left.keys = right.keys
  credentials : left.credentials = right.credentials
  arrivals : left.arrivals = right.arrivals
  stages : ∀ call, (left.stages call).Alike (right.stages call)
  keyReplies : left.keyReplies = right.keyReplies
  sent : List.Forall₂ Sent.Alike left.sent right.sent

section Steps

variable {portal : Portal Key} {secrets : List (String × String)} {app : App}
  {state other : State} {call : CallId} {job jobToo : Job}

@[simp] theorem Portal.rekeyed_verifier :
    (portal.rekeyed secrets app).verifier = portal.verifier := rfl

@[simp] theorem Portal.rekeyed_unicode :
    (portal.rekeyed secrets app).unicode = portal.unicode := rfl

@[simp] theorem Portal.rekeyed_pyjwt : (portal.rekeyed secrets app).pyjwt = portal.pyjwt := rfl

@[simp] theorem Portal.rekeyed_middleware :
    (portal.rekeyed secrets app).middleware = portal.middleware := rfl

@[simp] theorem Portal.rekeyed_wire : (portal.rekeyed secrets app).wire = portal.wire := rfl

theorem State.Alike.start : State.Alike {} {} where
  keys := rfl
  credentials := rfl
  arrivals := rfl
  stages _ := .idle
  keyReplies := rfl
  sent := .nil

theorem State.Alike.now (same : state.Alike other) : state.now = other.now :=
  congrArg (fun credentials => credentials.tracked.state.now) same.credentials

theorem State.Alike.setStage (same : state.Alike other) (call : CallId) {stage stageToo : Stage}
    (stages : stage.Alike stageToo) :
    (state.setStage call stage).Alike (other.setStage call stageToo) := by
  refine ⟨same.keys, same.credentials, same.arrivals, ?_, same.keyReplies, same.sent⟩
  intro at_
  by_cases isCall : at_ = call
  · subst isCall
    simp only [State.setStage, Function.update_self]
    exact stages
  · simp only [State.setStage, Function.update_of_ne isCall]
    exact same.stages at_

theorem State.Alike.answer (same : state.Alike other) (call : CallId) (jobs : job.Alike jobToo)
    (result : Transporting ToolCallResult) :
    (state.answer portal call job result).Alike
      (other.answer (portal.rekeyed secrets app) call jobToo result) := by
  apply same.setStage
  unfold Job.outcome
  rw [jobs.name, jobs.execution]
  exact .answered

theorem State.Alike.send (same : state.Alike other) {sent sentToo : Sent}
    (sents : sent.Alike sentToo) : (state.send sent).Alike (other.send sentToo) := by
  unfold State.send
  rw [sents.call]
  have sentAlike : State.Alike { state with sent := sent :: state.sent }
      { other with sent := sentToo :: other.sent } :=
    ⟨same.keys, same.credentials, same.arrivals, same.stages, same.keyReplies,
      .cons sents same.sent⟩
  exact sentAlike.setStage _ (.sending sents)

theorem State.Alike.prepare (same : state.Alike other) (call : CallId) (jobs : job.Alike jobToo)
    {own ownToo : Option Credential} (onlyValue : OnlyValue job own ownToo) :
    (state.prepare portal call job own).Alike
      (other.prepare (portal.rekeyed secrets app) call jobToo ownToo) := by
  unfold State.prepare
  rw [← jobs.execution, ← jobs.adapter.settings.baseUrl, ← jobs.adapter.settings.upstream,
    ← same.now]
  rcases (agree_operationRequest portal.isPrintable job.execution.operation
    job.adapter.settings.baseUrl job.execution.arguments own ownToo).outcomes with
    ⟨problem, left, right⟩ | ⟨request, requestToo, left, right, requests⟩
  · have rightToo : operationRequest (portal.rekeyed secrets app).isPrintable
        job.execution.operation job.adapter.settings.baseUrl job.execution.arguments ownToo =
          .error problem := right
    rw [left, rightToo]
    exact same.answer call jobs _
  · have rightToo : operationRequest (portal.rekeyed secrets app).isPrintable
        job.execution.operation job.adapter.settings.baseUrl job.execution.arguments ownToo =
          .ok requestToo := right
    rw [left, rightToo]
    dsimp only
    cases secondsOf job.adapter.settings.upstream.timeoutMs with
    | error _ => exact same.answer call jobs _
    | ok _ => exact same.send ⟨rfl, jobs, onlyValue, requests, rfl, rfl, rfl⟩

theorem State.Alike.acquired (same : state.Alike other) (call : CallId) (jobs : job.Alike jobToo)
    (failure : TransportFailure) :
    (state.acquired portal call job failure).Alike
      (other.acquired (portal.rekeyed secrets app) call jobToo failure) := by
  unfold State.acquired
  rw [← same.credentials]
  cases state.credentials.tracked.state.calls call with
  | returned token => exact same.prepare call jobs ⟨.refl _, fun _ => rfl⟩
  | failed => exact same.answer call jobs _
  | idle => exact same.answer call jobs _
  | _ => exact same.setStage call (.acquiring jobs)

theorem State.Alike.withCredentials (same : state.Alike other) (credentials : Acquire.State) :
    State.Alike { state with credentials } { other with credentials } :=
  ⟨same.keys, rfl, same.arrivals, same.stages, same.keyReplies, same.sent⟩

theorem State.Alike.withKeys (same : state.Alike other) (keys : JwksCache.State) :
    State.Alike { state with keys } { other with keys } :=
  ⟨rfl, same.credentials, same.arrivals, same.stages, same.keyReplies, same.sent⟩

theorem State.Alike.withReply (same : state.Alike other) (keys : JwksCache.State)
    (reply : JwksCache.Reply) :
    State.Alike { state with keys, keyReplies := reply :: state.keyReplies }
      { other with keys, keyReplies := reply :: other.keyReplies } :=
  ⟨rfl, same.credentials, same.arrivals, same.stages,
    congrArg (reply :: ·) same.keyReplies, same.sent⟩

/-- Whatever the token cache has come to, the call goes on alike. -/
theorem State.Alike.mapAcquired (same : state.Alike other) (call : CallId)
    (jobs : job.Alike jobToo) (failure : TransportFailure) (cached : Option Acquire.State) :
    Option.Rel State.Alike
      (cached.map fun credentials =>
        State.acquired portal { state with credentials } call job failure)
      (cached.map fun credentials =>
        State.acquired (portal.rekeyed secrets app) { other with credentials } call jobToo
          failure) := by
  cases cached with
  | none => exact .none
  | some credentials => exact .some ((same.withCredentials credentials).acquired call jobs failure)

theorem State.Alike.execute (same : state.Alike other) (call : CallId) (jobs : job.Alike jobToo) :
    Option.Rel State.Alike (state.execute portal call job)
      (other.execute (portal.rekeyed secrets app) call jobToo) := by
  unfold State.execute
  rw [← jobs.execution]
  by_cases serves : PyCall.Serves job.adapter (.ofChecked job.execution.operation.binding)
  · have servesToo := (jobs.adapter.serves _).mp serves
    rw [if_neg (not_not_intro serves), if_neg (not_not_intro servesToo)]
    rcases jobs.adapter.settings.credentialSource.demand job.execution with
      ⟨own, ownToo, isStatic, left, right, sameHeader⟩ | ⟨request, left, right⟩
    · rw [left, right]
      exact .some (same.prepare call jobs ⟨sameHeader, fun minted => absurd isStatic (minted own)⟩)
    · rw [left, right]
      dsimp only
      rw [← same.credentials]
      exact same.mapAcquired call jobs _ _
  · have servesNot := fun servesToo => serves ((jobs.adapter.serves _).mpr servesToo)
    rw [if_pos serves, if_pos servesNot]
    exact .some (same.answer call jobs _)

theorem Sent.Alike.again {sent sentToo : Sent} (sents : sent.Alike sentToo) {now nowToo : Rat}
    (sameTime : now = nowToo) : (sent.again now).Alike (sentToo.again nowToo) :=
  ⟨sents.call, sents.job, sents.credential, sents.request, congrArg (· + 1) sents.attempt,
    sents.started, sameTime⟩

variable (alike : portal.app.Alike app)

include alike in
theorem State.Alike.onCallTool (same : state.Alike other) (call : CallId)
    (accessToken : Option AccessToken) (request : CallToolRequest) :
    Option.Rel State.Alike (state.onCallTool portal call accessToken request)
      (other.onCallTool (portal.rekeyed secrets app) call accessToken request) := by
  unfold State.onCallTool
  have admitted := alike.admitCall portal.isPrintable portal.validate portal.config accessToken
    request
  revert admitted
  change Admission.Alike _ (admitCall (portal.rekeyed secrets app).isPrintable
    (portal.rekeyed secrets app).validate (portal.rekeyed secrets app).app
    (portal.rekeyed secrets app).config accessToken request) → _
  generalize admitCall portal.isPrintable portal.validate portal.app portal.config accessToken
    request = admission
  generalize admitCall (portal.rekeyed secrets app).isPrintable
    (portal.rekeyed secrets app).validate (portal.rekeyed secrets app).app
    (portal.rekeyed secrets app).config accessToken request = admissionToo
  intro admitted
  cases admitted with
  | answers outcome => exact .some (same.setStage call .answered)
  | executes jobs => exact same.execute call jobs

include alike in
theorem State.Alike.keyed (same : state.Alike other) (call : CallId) (token algorithm : String)
    (request : CallToolRequest) :
    Option.Rel State.Alike (state.keyed portal call token algorithm request)
      (other.keyed (portal.rekeyed secrets app) call token algorithm request) := by
  unfold State.keyed
  rw [← same.keys, ← same.now]
  cases state.keys.calls call with
  | returned jwk =>
      dsimp only
      rw [Portal.rekeyed_verifier, Portal.rekeyed_unicode, Portal.rekeyed_pyjwt,
        Portal.rekeyed_middleware]
      cases portal.verifier.verifyUnder portal.unicode portal.pyjwt token algorithm jwk with
      | error => exact .some (same.setStage call .raised)
      | ok verified =>
          cases verified with
          | none => exact .some (same.setStage call .unauthorized)
          | some verified =>
              dsimp only
              split
              · exact same.onCallTool alike call _ request
              · exact .some (same.setStage call .unauthorized)
  | raised => exact .some (same.setStage call .raised)
  | _ => exact .some (same.setStage call .verifying)

include alike in
theorem State.Alike.arrive (same : state.Alike other) (call : CallId) (arrival : Arrival) :
    Option.Rel State.Alike (state.arrive portal call arrival)
      (other.arrive (portal.rekeyed secrets app) call arrival) := by
  have noted : State.Alike
      { state with arrivals := Function.update state.arrivals call (some arrival) }
      { other with arrivals := Function.update other.arrivals call (some arrival) } :=
    ⟨same.keys, same.credentials,
      congrArg (Function.update · call (some arrival)) same.arrivals, same.stages,
      same.keyReplies, same.sent⟩
  unfold State.arrive
  dsimp only
  by_cases authenticates : portal.config.authenticates
  · have authenticatesToo : (portal.rekeyed secrets app).config.authenticates := authenticates
    rw [if_neg (not_not_intro authenticates), if_neg (not_not_intro authenticatesToo)]
    cases arrival.bearer with
    | none => exact .some (noted.setStage call .unauthorized)
    | some token =>
        dsimp only
        rw [Portal.rekeyed_verifier, Portal.rekeyed_unicode, Portal.rekeyed_pyjwt]
        cases portal.verifier.wantedKey portal.unicode portal.pyjwt token with
        | error => exact .some (noted.setStage call .raised)
        | ok wanted =>
            cases wanted with
            | none => exact .some (noted.setStage call .unauthorized)
            | some wanted =>
                dsimp only
                rw [← same.keys]
                apply rel_bind_same
                intro keys
                exact (noted.withKeys keys).keyed alike call token _ _
  · have authenticatesNot : ¬(portal.rekeyed secrets app).config.authenticates := authenticates
    rw [if_pos authenticates, if_pos authenticatesNot]
    exact noted.onCallTool alike call none _

theorem State.Alike.attempted (same : state.Alike other) {sent sentToo : Sent}
    (sents : sent.Alike sentToo) (outcome : Outcome) (drawn : Rat) :
    (state.attempted portal sent outcome drawn).Alike
      (other.attempted (portal.rekeyed secrets app) sentToo outcome drawn) := by
  have result : (portal.rekeyed secrets app).resultOf sentToo.job outcome =
      portal.resultOf sent.job outcome := by
    unfold Portal.resultOf
    cases outcome with
    | timedOut => rfl
    | responded response =>
        unfold Portal.map
        rw [← sents.job.execution, ← sents.job.adapter.settings.upstream]
        rfl
  unfold State.attempted
  dsimp only
  rw [result, Portal.rekeyed_wire, ← sents.call, ← sents.attempt, ← sents.started, ← same.now,
    ← sents.job.execution, ← sents.job.adapter.settings.upstream]
  split
  · exact same.answer sent.call sents.job _
  · cases sent.job.adapter.settings.upstream.waitForRetry portal.wire sent.started state.now
      sent.attempt outcome.response? drawn with
    | spent => exact same.answer sent.call sents.job _
    | raises => exact same.answer sent.call sents.job _
    | sleeps => exact same.setStage sent.call (.pausing sents)

include alike in
/-- Servers that differ in their secrets take the same steps. -/
theorem lockstep_rekeyed :
    Lockstep State.Alike (step portal) (step (portal.rekeyed secrets app)) := by
  intro state other action same
  cases action with
  | arrive call arrival =>
      unfold Service.step
      dsimp only
      rw [← same.arrivals]
      cases state.arrivals call with
      | some _ => exact .none
      | none => exact same.arrive alike call arrival
  | keyLockTaken call =>
      have stage := same.stages call
      unfold Service.step
      dsimp only
      rw [← same.keys]
      generalize state.stages call = left at stage
      generalize other.stages call = right at stage
      cases stage with
      | verifying =>
          apply rel_bind_same
          intro keys
          exact (same.withKeys keys).keyed alike call _ _ _
      | _ => exact .none
  | keysReplied call reply =>
      have stage := same.stages call
      unfold Service.step
      dsimp only
      rw [← same.keys]
      generalize state.stages call = left at stage
      generalize other.stages call = right at stage
      cases stage with
      | verifying =>
          apply rel_bind_same
          intro keys
          exact (same.withReply keys reply).keyed alike call _ _ _
      | _ => exact .none
  | tokenLockTaken call =>
      have stage := same.stages call
      unfold Service.step
      dsimp only
      rw [← same.credentials]
      generalize state.stages call = left at stage
      generalize other.stages call = right at stage
      cases stage with
      | acquiring jobs => exact same.mapAcquired call jobs _ _
      | _ => exact .none
  | tokenReplied call reply =>
      have stage := same.stages call
      unfold Service.step
      dsimp only
      rw [← same.credentials, ← same.now]
      generalize state.stages call = left at stage
      generalize other.stages call = right at stage
      cases stage with
      | acquiring jobs =>
          cases state.credentials.requestOf call with
          | none => exact .none
          | some request => exact same.mapAcquired call jobs _ _
      | _ => exact .none
  | tokenFailed call failure =>
      have stage := same.stages call
      unfold Service.step
      dsimp only
      rw [← same.credentials]
      generalize state.stages call = left at stage
      generalize other.stages call = right at stage
      cases stage with
      | acquiring jobs => exact same.mapAcquired call jobs _ _
      | _ => exact .none
  | attempted call outcome drawn =>
      have stage := same.stages call
      unfold Service.step
      dsimp only
      generalize state.stages call = left at stage
      generalize other.stages call = right at stage
      cases stage with
      | sending sents => exact .some (same.attempted sents outcome drawn)
      | _ => exact .none
  | attemptFailed call message =>
      have stage := same.stages call
      unfold Service.step
      dsimp only
      generalize state.stages call = left at stage
      generalize other.stages call = right at stage
      cases stage with
      | sending sents => exact .some (same.answer call sents.job _)
      | _ => exact .none
  | woken call =>
      have stage := same.stages call
      unfold Service.step
      dsimp only
      generalize state.stages call = left at stage
      generalize other.stages call = right at stage
      cases stage with
      | pausing sents => exact .some (same.send (sents.again same.now))
      | _ => exact .none
  | tick elapsed =>
      unfold Service.step
      dsimp only
      rw [← same.keys, ← same.credentials]
      apply rel_bind_same
      intro keys
      rw [Option.map_eq_bind, Option.map_eq_bind]
      apply rel_bind_same
      intro credentials
      exact .some ((same.withKeys keys).withCredentials credentials)

/--
Where the same references stand for something, other secrets are built into a server that lists the
same tools and takes the same runs: the same keys and tokens are asked for, every call gets the same
answer, and the same requests are sent at the same times, but for the values of credentials.
-/
theorem secrets_unseen {suffix : String → String} {introspect : IntrospectUpstreams}
    (built : buildApp portal.unicode suffix introspect portal.loaded = .ok portal.app)
    (sameReferences : SameReferences portal.loaded.secrets secrets) :
    ∃ app, buildApp portal.unicode suffix introspect { portal.loaded with secrets } = .ok app ∧
      app.invoker.tools = portal.app.invoker.tools ∧
      ∀ actions, Option.Rel State.Alike ((machine portal).run {} actions)
        ((machine (portal.rekeyed secrets app)).run {} actions) := by
  have agree := agree_buildApp sameReferences portal.unicode suffix introspect
    portal.loaded.config portal.loaded.policy
  rcases agree.outcomes with ⟨problem, raised, _⟩ | ⟨own, app, isOwn, isApp, alike⟩
  · cases built.symm.trans raised
  · cases built.symm.trans isOwn
    refine ⟨app, isApp, ?_, ?_⟩
    · rw [ToolInvoker.tools, ToolInvoker.tools, alike.toolset]
    · intro actions
      exact (lockstep_rekeyed alike).run actions .start

end Steps

section Documented

open Documented

/-- With another token for the notes only the header of the request is another. -/
theorem secrets_unseen_notes :
    ∃ app other state stateToo, notesApp = .ok app ∧ notesRun app = some state ∧
      (machine ((notesPortal app).rekeyed [(apiKey.text, "another")] other)).run {} bothCalls =
        some stateToo ∧
      sentUrls state = onlyRead ∧ state.Alike stateToo := by
  rcases exists_notesRun with ⟨app, state, built, ran, isSeen⟩
  have sameReferences : SameReferences notes.secrets [(apiKey.text, "another")] := by
    intro ref
    simp only [notes, Dict.get?_cons]
    split <;> rfl
  rcases @secrets_unseen _ (notesPortal app) [(apiKey.text, "another")] _ _ built sameReferences with
    ⟨other, _, _, runs⟩
  have same := runs bothCalls
  have ranToo : (machine (notesPortal app)).run {} bothCalls = some state := ran
  rw [ranToo] at same
  revert same
  generalize isRun : (machine ((notesPortal app).rekeyed [(apiKey.text, "another")] other)).run {}
    bothCalls = later
  intro same
  cases same with
  | some alike => exact ⟨app, other, state, _, built, ran, isRun, isSeen, alike⟩

end Documented

end Service

end McpPortal
