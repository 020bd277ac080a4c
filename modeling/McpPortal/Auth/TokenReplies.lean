import McpPortal.Auth.Acquire

/-!
# How a token request fails

A token request answers with a token and the time to keep it, and it is meant to fail
with an error of its own. `float` also takes infinite values and what is no number, which
are kept here, and every result is rounded. A text that cannot be decoded, a body that is
nested too deep or is no object, and an integer beyond the floats raise errors that are not
translated.
-/

namespace McpPortal

open Foundation

/-- A float, which may be infinite or not a number. -/
inductive PyNumber where
  | finite (value : Rat)
  | infinite (negative : Bool)
  | nan
  deriving DecidableEq

namespace PyNumber

/-- The number of a float, which its `repr` tells. -/
def ofFloat (value : PyFloat) : PyNumber :=
  match value.repr with
  | "inf" => .infinite false
  | "-inf" => .infinite true
  | "nan" => .nan
  | _ => .finite value.value

/-- `0.0 <= number`. -/
def IsNonneg : PyNumber → Prop
  | .finite value => 0 ≤ value
  | .infinite negative => negative = false
  | .nan => False

/-- `max(0.0, number - _EXPIRY_LEEWAY_S)`. -/
def ttl (rounded : Rat → Rat) : PyNumber → PyNumber
  | .finite value => .finite (max 0 (rounded (value - expiryLeeway)))
  | .infinite false => .infinite false
  | .infinite true => .finite 0
  | .nan => .finite 0

theorem isNonneg_ttl (rounded : Rat → Rat) (number : PyNumber) : (number.ttl rounded).IsNonneg := by
  cases number with
  | finite value => exact le_max_left 0 _
  | infinite negative =>
      cases negative with
      | false => exact rfl
      | true => exact le_refl 0
  | nan => exact le_refl 0

end PyNumber

/-- What `_post_token_request` raises: the POST's own error, or what reading the reply raises. -/
inductive PostRaised where
  | requestError (message : String)
  | reading (raised : TokenRaised)
  deriving DecidableEq

section Post

variable (parseFloat : String → Except String PyNumber) (rounded : Rat → Rat)

/-- `float(value)`. -/
def toNumber : Json → Except FloatRaised PyNumber
  | .int value =>
      if floatLimit ≤ value.natAbs then .error .overflow else .ok (.finite (rounded value))
  | .float value => .ok (.ofFloat value)
  | .bool value => .ok (.finite (if value then 1 else 0))
  | .str text => (parseFloat text).mapError .malformed
  | other =>
      .error (.malformed
        ("float() argument must be a string or a real number, not '" ++ other.typeName ++ "'"))

/-- `_post_token_request`, given what the POST raises or returns. -/
def postTokenRequest (endpoint : String) (posted : Except String TokenReply) :
    Except PostRaised (String × PyNumber) :=
  match posted with
  | .error message => .error (.requestError message)
  | .ok reply =>
      if reply.status ≠ 200 then
        match reply.text with
        | .error reason => .error (.reading (.undecodable reason))
        | .ok _ => .error (.reading (.outbound (.rejected endpoint reply.status)))
      else
        match reply.body with
        | .error (.valueError reason) => .error (.reading (.outbound (.malformed endpoint reason)))
        | .error .recursionError => .error (.reading .recursionError)
        | .ok (.obj payload) =>
            match Dict.get? payload "access_token" with
            | some (.str token) =>
                match toNumber parseFloat rounded
                    ((Dict.get? payload "expires_in").getD (.int 300)) with
                | .error (.malformed reason) =>
                    .error (.reading (.outbound (.malformed endpoint reason)))
                | .error .overflow => .error (.reading .floatOverflow)
                | .ok seconds => .ok (token, seconds.ttl rounded)
            | _ => .error (.reading (.outbound (.noAccessToken endpoint)))
        | .ok other => .error (.reading (.noAttributeGet other.typeName))

end Post

/-- A token with a ttl that is not negative, an error of its own, or that of the POST. -/
def FailsAsOutbound : Except PostRaised (String × PyNumber) → Prop
  | .ok (_, ttl) => ttl.IsNonneg
  | .error (.requestError _) => True
  | .error (.reading (.outbound _)) => True
  | .error (.reading _) => False

/-- A body that is decoded is an object, and a lifetime that is an integer is one of a float. -/
def BodyInRange : Json → Prop
  | .obj payload => ∀ token value, Dict.get? payload "access_token" = some (.str token) →
      Dict.get? payload "expires_in" = some (.int value) → value.natAbs < floatLimit
  | _ => False

/-- An accepted body is in range, or cannot be decoded with a `ValueError`. -/
def BodyReadable : Except JsonRaised Json → Prop
  | .error (.valueError _) => True
  | .error .recursionError => False
  | .ok body => BodyInRange body

/-- The text of a reply that is not accepted can be decoded, and the body of another one be read. -/
def ReplyReadable (posted : Except String TokenReply) : Prop :=
  ∀ reply, posted = .ok reply →
    if reply.status = 200 then BodyReadable reply.body else ∃ text, reply.text = .ok text

section Settling

variable {parseFloat : String → Except String PyNumber} {rounded : Rat → Rat}

theorem toNumber_eq_overflow_iff {value : Json} :
    toNumber parseFloat rounded value = .error .overflow ↔
      ∃ number, value = .int number ∧ floatLimit ≤ number.natAbs := by
  cases value with
  | int number =>
      simp only [toNumber]
      split
      case isTrue large =>
        simp only [true_iff]
        exact ⟨number, rfl, large⟩
      case isFalse small =>
        constructor
        · intro raised
          cases raised
        · rintro ⟨_, same, large⟩
          cases same
          exact absurd large small
  | str text =>
      simp only [toNumber, Except.mapError]
      cases parseFloat text <;> simp
  | _ => simp [toNumber]

/-- With a token, a body is in range exactly when its lifetime does not overflow. -/
theorem bodyInRange_iff {payload : JsonObject} {token : String}
    (isToken : Dict.get? payload "access_token" = some (.str token)) :
    BodyInRange (.obj payload) ↔
      toNumber parseFloat rounded ((Dict.get? payload "expires_in").getD (.int 300)) ≠
        .error .overflow := by
  rw [ne_eq, toNumber_eq_overflow_iff]
  constructor
  · rintro inRange ⟨number, isNumber, large⟩
    cases given : Dict.get? payload "expires_in" with
    | none =>
        rw [given, Option.getD_none, Json.int.injEq] at isNumber
        subst number
        exact absurd large (by decide +kernel)
    | some value =>
        rw [given, Option.getD_some] at isNumber
        subst value
        exact absurd large (Nat.not_le.mpr (inRange token number isToken given))
  · intro notLarge _ number _ given
    by_contra large
    rw [given, Option.getD_some] at notLarge
    exact notLarge ⟨number, rfl, Nat.le_of_not_lt large⟩

theorem failsAsOutbound_iff_of_payload {endpoint : String} {text : Except String String}
    (payload : JsonObject) :
    FailsAsOutbound (postTokenRequest parseFloat rounded endpoint
        (.ok { status := 200, text, body := .ok (.obj payload) })) ↔ BodyInRange (.obj payload) := by
  simp only [postTokenRequest, ne_eq, not_true_eq_false, if_false]
  split
  case h_1 token isToken =>
    rw [@bodyInRange_iff parseFloat rounded payload token isToken]
    cases toNumber parseFloat rounded ((Dict.get? payload "expires_in").getD (.int 300)) with
    | ok seconds => simp [FailsAsOutbound, PyNumber.isNonneg_ttl]
    | error raised => cases raised <;> simp [FailsAsOutbound]
  case h_2 noToken =>
    simp only [FailsAsOutbound, true_iff]
    intro token _ isToken
    exact absurd isToken (noToken token)

theorem failsAsOutbound_iff {endpoint : String} (posted : Except String TokenReply) :
    FailsAsOutbound (postTokenRequest parseFloat rounded endpoint posted) ↔
      ReplyReadable posted := by
  cases posted with
  | error message => simp [postTokenRequest, FailsAsOutbound, ReplyReadable]
  | ok reply =>
      rcases reply with ⟨status, text, body⟩
      by_cases accepted : status = 200
      · subst accepted
        have readable : ReplyReadable (.ok { status := 200, text, body }) ↔ BodyReadable body := by
          simp [ReplyReadable]
        rw [readable]
        cases body with
        | error raised =>
            cases raised <;> simp [postTokenRequest, FailsAsOutbound, BodyReadable]
        | ok value =>
            cases value with
            | obj payload => exact failsAsOutbound_iff_of_payload payload
            | _ => simp [postTokenRequest, FailsAsOutbound, BodyReadable, BodyInRange]
      · cases text <;> simp [postTokenRequest, accepted, FailsAsOutbound, ReplyReadable]

/-- Where every number is finite and nothing is rounded, this is what the cache's runs read. -/
theorem postTokenRequest_finite {parseRat : String → Except String Rat} {endpoint : String}
    {reply : TokenReply}
    (finite : ∀ payload value, reply.body = .ok (.obj payload) →
      Dict.get? payload "expires_in" = some (.float value) →
        PyNumber.ofFloat value = .finite value.value) :
    postTokenRequest (fun text => (parseRat text).map .finite) id endpoint (.ok reply) =
      ((readTokenReply parseRat endpoint reply).mapError .reading).map
        fun read => (read.1, .finite read.2) := by
  rcases reply with ⟨status, replyText, body⟩
  by_cases accepted : status = 200
  · subst accepted
    cases body with
    | error raised => cases raised <;> rfl
    | ok value =>
        cases value with
        | obj payload =>
            have sameNumber : toNumber (fun text => (parseRat text).map .finite) id
                ((Dict.get? payload "expires_in").getD (.int 300)) =
                  (expiresIn parseRat payload).map .finite := by
              unfold expiresIn
              cases given : Dict.get? payload "expires_in" with
              | none => rw [Option.getD_none, toNumber, pyFloat]; split <;> rfl
              | some value =>
                  rw [Option.getD_some]
                  cases value with
                  | int number => rw [toNumber, pyFloat]; split <;> rfl
                  | float number =>
                      rw [toNumber, pyFloat, finite payload number rfl given]
                      rfl
                  | str text =>
                      rw [toNumber, pyFloat]
                      cases parseRat text <;> rfl
                  | _ => rfl
            simp only [postTokenRequest, readTokenReply, ne_eq, not_true_eq_false, if_false,
              sameNumber]
            cases Dict.get? payload "access_token" with
            | none => rfl
            | some token =>
                cases token with
                | str token =>
                    cases expiresIn parseRat payload with
                    | ok seconds => rfl
                    | error raised => cases raised <;> rfl
                | _ => rfl
        | _ => rfl
  · cases replyText <;>
      simp [postTokenRequest, readTokenReply, accepted, Except.mapError, Except.map]

end Settling

namespace TokenCache

variable {state next final : State} {action : Action} {task : TaskId}

/-- A step that stores no token keeps every entry. -/
theorem Steps.entries_eq (steps : Steps state action next)
    (storesNone : ∀ token ttlSeconds, action ≠ .fetched task token ttlSeconds)
    (involved : action.task? = some task) : next.entries = state.entries := by
  cases steps with
  | fetched fetching =>
      cases involved
      exact absurd rfl (storesNone _ _)
  | startFetch _ _ _ => rw [entries_setCall, entries_setLock, entries_lockFor]
  | startWait _ _ _ => rw [entries_setCall, entries_setLock, entries_lockFor]
  | _ => rfl

/-- A call that has returned is over. -/
theorem Steps.returned (steps : Steps state action next) {token : String}
    (returned : state.calls task = .returned token) : next.calls task = .returned token := by
  by_cases involved : action.task? = some task
  · cases steps <;> cases involved <;> simp_all
  · rw [steps.calls_of_ne involved, returned]

theorem returned_of_run {actions : List Action} (ran : machine.run state actions = some final)
    {token : String} (returned : state.calls task = .returned token) :
    final.calls task = .returned token := by
  induction actions generalizing state with
  | nil =>
      cases ran
      exact returned
  | cons action rest ih =>
      rw [Machine.run, Option.bind_eq_some_iff] at ran
      rcases ran with ⟨next, stepped, later⟩
      exact ih later ((steps_of_step stepped).returned returned)

/-- No step of a call that fails changes the entries. -/
def FailuresKeepEntries : Prop :=
  ∀ state action next later final task, machine.step state action = some next →
    machine.run next later = some final → final.calls task = .failed →
      action.task? = some task → next.entries = state.entries

theorem failuresKeepEntries : FailuresKeepEntries := by
  intro state action next later final task stepped ran failed involved
  have steps := steps_of_step stepped
  apply steps.entries_eq _ involved
  rintro token ttlSeconds rfl
  have returned : next.calls task = .returned token := by
    cases steps with
    | fetched fetching => exact Function.update_self ..
  have stillReturned := returned_of_run ran returned
  rw [failed] at stillReturned
  cases stillReturned

end TokenCache

/-- A token request fails with an error of its own, and a failed fetch leaves the cache as it was. -/
structure FailsClosed (parseFloat : String → Except String PyNumber) (rounded : Rat → Rat)
    (endpoint : String) (posted : Except String TokenReply) : Prop where
  settles : FailsAsOutbound (postTokenRequest parseFloat rounded endpoint posted)
  keeps : TokenCache.FailuresKeepEntries

/-- Token acquisition fails closed exactly on the replies that can be read. -/
theorem postTokenRequest_failsClosed_iff (parseFloat : String → Except String PyNumber)
    (rounded : Rat → Rat) (endpoint : String) (posted : Except String TokenReply) :
    FailsClosed parseFloat rounded endpoint posted ↔ ReplyReadable posted := by
  constructor
  · intro closed
    exact (failsAsOutbound_iff posted).mp closed.settles
  · intro readable
    exact ⟨(failsAsOutbound_iff posted).mpr readable, TokenCache.failuresKeepEntries⟩

section Replies

private def arrayReply : TokenReply where
  status := 200
  body := .ok (.arr [])

/-- A token for a time of four hundred digits. -/
private def longLivedReply : TokenReply where
  status := 200
  body := .ok (.obj [("access_token", .str "token"), ("expires_in", .int (10 ^ 400))])

/-- An error page in two-byte characters, of which nothing says the order. -/
private def unmarkedReply : TokenReply where
  status := 503
  text := .error "UTF-16 stream does not start with BOM"
  body := .error (.valueError "Expecting value: line 1 column 1 (char 0)")

/-- A body that is an array, a lifetime that is too long for a float and an error page that cannot
be decoded raise other errors. -/
theorem postTokenRequest_raises :
    ¬FailsClosed .error id "https://idp/token" (.ok arrayReply) ∧
      ¬FailsClosed .error id "https://idp/token" (.ok longLivedReply) ∧
      ¬FailsClosed .error id "https://idp/token" (.ok unmarkedReply) := by
  refine ⟨?_, ?_, ?_⟩
  · intro closed
    have readable : ReplyReadable (.ok arrayReply) := (failsAsOutbound_iff _).mp closed.settles
    exact readable arrayReply rfl
  · intro closed
    have readable : ReplyReadable (.ok longLivedReply) := (failsAsOutbound_iff _).mp closed.settles
    have inRange : BodyReadable longLivedReply.body := readable longLivedReply rfl
    have small : ((10 : Int) ^ 400).natAbs < floatLimit := inRange "token" _ rfl rfl
    exact absurd small (by decide +kernel)
  · intro closed
    have readable : ReplyReadable (.ok unmarkedReply) := (failsAsOutbound_iff _).mp closed.settles
    rcases readable unmarkedReply rfl with ⟨text, isText⟩
    cases isText

end Replies

end McpPortal
