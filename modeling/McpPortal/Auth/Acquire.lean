import McpPortal.Auth.Outbound
import McpPortal.Auth.TokenHistory
import McpPortal.Foundation.Floats
import McpPortal.Foundation.ReprText

/-!
# Acquiring tokens

The sources of the two dynamic modes derive a cache key from a request, and fetch a
token when the cache has none. All sources share one cache, so a run of their calls
is a run of the cache in which every call is made for some request and every fetch
ends with a reply of the token endpoint.
-/

namespace McpPortal

open Foundation

/-- Python's `hash`, into signed 64-bit integers. -/
structure PyHash where
  ofString : String → Int64
  ofDetails : List AuthorizationDetail → Int64

inductive OutboundError where
  | noSubjectToken
  | rejected (endpoint : String) (status : Nat)
  | noAccessToken (endpoint : String)
  | malformed (endpoint reason : String)
  deriving DecidableEq

def OutboundError.message (isPrintable : Char → Bool) : OutboundError → String
  | .noSubjectToken =>
      "token_exchange requires an inbound 'subject_token'; this should have " ++
        "been rejected at startup for a transport/auth combination with no " ++
        "inbound token to exchange"
  | .rejected endpoint status =>
      "token request to " ++ reprString isPrintable endpoint ++ " failed with " ++ toString status
  | .noAccessToken endpoint =>
      "token response from " ++ reprString isPrintable endpoint ++ " has no 'access_token'"
  | .malformed endpoint reason =>
      "token response from " ++ reprString isPrintable endpoint ++ " was malformed: " ++ reason

/-- What a fetch raises: its own error, that of `response.text` or `response.json()`, that of
`payload.get` on a body that is no object, or that of `float` on an integer that is too large. -/
inductive TokenRaised where
  | outbound (error : OutboundError)
  | undecodable (reason : String)
  | recursionError
  | noAttributeGet (typeName : String)
  | floatOverflow
  deriving DecidableEq

/-- What `response.json()` raises. -/
inductive JsonRaised where
  | valueError (reason : String)
  | recursionError
  deriving DecidableEq

/-- A reply of the token endpoint: what `response.text` and `response.json()` return or raise. The
codec that the reply's charset names makes the text, and may raise any error. -/
structure TokenReply where
  status : Nat
  text : Except String String := .ok ""
  body : Except JsonRaised Json

/-- `_EXPIRY_LEEWAY_S`. -/
def expiryLeeway : Rat := 60

structure ClientCredentialsSource where
  outbound : OutboundConfig
  upstreamKey : String

structure TokenExchangeSource where
  tokenEndpoint : String
  scopes : List String
  upstreamKey : String

/-- One call of a source's `get`. -/
inductive CredentialRequest where
  | clientCredentials (source : ClientCredentialsSource) (carry : List AuthorizationDetail)
  | tokenExchange (source : TokenExchangeSource) (carry : List AuthorizationDetail)
      (subjectToken : Option String) (subjectTokenExpiresAt : Option Int)

namespace CredentialRequest

def mode : CredentialRequest → OutboundMode
  | .clientCredentials _ _ => .clientCredentials
  | .tokenExchange _ _ _ _ => .tokenExchange

def upstreamKey : CredentialRequest → String
  | .clientCredentials source _ => source.upstreamKey
  | .tokenExchange source _ _ _ => source.upstreamKey

def scopes : CredentialRequest → List String
  | .clientCredentials source _ => source.outbound.scopes
  | .tokenExchange source _ _ _ => source.scopes

def carry : CredentialRequest → List AuthorizationDetail
  | .clientCredentials _ carry => carry
  | .tokenExchange _ carry _ _ => carry

def subjectToken : CredentialRequest → Option String
  | .clientCredentials _ _ => none
  | .tokenExchange _ _ subjectToken _ => subjectToken

def tokenEndpoint : CredentialRequest → String
  | .clientCredentials source _ => (source.outbound.tokenEndpoint.map (·.text)).getD ""
  | .tokenExchange source _ _ _ => source.tokenEndpoint

end CredentialRequest

section CacheKey

variable (isPrintable : Char → Bool) (hash : PyHash)

/-- `tuple(sorted(scopes))`, printed. -/
def scopesText (scopes : List String) : String :=
  reprTuple isPrintable (scopes.insertionSort (· ≤ ·))

/-- The cache key of a request. -/
def CredentialRequest.cacheKey : CredentialRequest → Except OutboundError String
  | .clientCredentials source carry =>
      .ok ("client_credentials:" ++ source.upstreamKey ++ ":" ++
        scopesText isPrintable source.outbound.scopes ++ ":" ++
        toString (hash.ofDetails carry).toInt)
  | .tokenExchange source carry subjectToken _ =>
      match subjectToken with
      | none => .error .noSubjectToken
      | some subjectToken =>
          .ok ("token_exchange:" ++ source.upstreamKey ++ ":" ++
            toString (hash.ofString subjectToken).toInt ++ ":" ++
            scopesText isPrintable source.scopes ++ ":" ++ toString (hash.ofDetails carry).toInt)

end CacheKey

section Replies

variable (parseFloat : String → Except String Rat)

/-- What `float` raises: a `ValueError` or `TypeError` with its text, or an `OverflowError`. -/
inductive FloatRaised where
  | malformed (reason : String)
  | overflow

/-- `float(value)`. -/
def pyFloat : Json → Except FloatRaised Rat
  | .int value => if floatLimit ≤ value.natAbs then .error .overflow else .ok value
  | .float value => .ok value.value
  | .bool value => .ok (if value then 1 else 0)
  | .str text => (parseFloat text).mapError .malformed
  | other =>
      .error (.malformed
        ("float() argument must be a string or a real number, not '" ++ other.typeName ++ "'"))

theorem pyFloat_int {value : Int} (small : value.natAbs < floatLimit) :
    pyFloat parseFloat (.int value) = .ok (value : Rat) := by
  rw [pyFloat, if_neg (Nat.not_le.mpr small)]

/-- `expires_in` of a payload. -/
def expiresIn (payload : JsonObject) : Except FloatRaised Rat :=
  pyFloat parseFloat ((Dict.get? payload "expires_in").getD (.int 300))

/-- The token of a reply and how long it may be cached. -/
def readTokenReply (endpoint : String) (reply : TokenReply) : Except TokenRaised (String × Rat) :=
  if reply.status ≠ 200 then
    -- The text is for the log, and is read before the error of its own is raised.
    match reply.text with
    | .error reason => .error (.undecodable reason)
    | .ok _ => .error (.outbound (.rejected endpoint reply.status))
  else
    match reply.body with
    | .error (.valueError reason) => .error (.outbound (.malformed endpoint reason))
    | .error .recursionError => .error .recursionError
    | .ok (.obj payload) =>
        match Dict.get? payload "access_token" with
        | some (.str token) =>
            match expiresIn parseFloat payload with
            | .error (.malformed reason) => .error (.outbound (.malformed endpoint reason))
            | .error .overflow => .error .floatOverflow
            | .ok seconds => .ok (token, max 0 (seconds - expiryLeeway))
        | _ => .error (.outbound (.noAccessToken endpoint))
    | .ok other => .error (.noAttributeGet other.typeName)

/-- What a fetch makes of a reply that arrives at a time of the wall clock. -/
def CredentialRequest.mint (request : CredentialRequest) (wallTime : Rat) (reply : TokenReply) :
    Except TokenRaised (String × Rat) :=
  match readTokenReply parseFloat request.tokenEndpoint reply with
  | .error raised => .error raised
  | .ok (token, ttl) =>
      match request with
      | .tokenExchange _ _ _ (some subjectTokenExpiresAt) =>
          .ok (token, min ttl (max 0 (subjectTokenExpiresAt - wallTime - expiryLeeway)))
      | _ => .ok (token, ttl)

end Replies

namespace Acquire

open TokenCache (TaskId Tracked trackedMachine)

/-- The cache with the request of every call and the reply that every token came with. -/
structure State where
  tracked : Tracked := {}
  requestOf : TaskId → Option CredentialRequest := fun _ => none
  replyOf : TaskId → Option TokenReply := fun _ => none

inductive Action where
  | get (task : TaskId) (request : CredentialRequest)
  | resume (task : TaskId)
  | replied (task : TaskId) (reply : TokenReply)
  | unanswered (task : TaskId)
  | tick (elapsed : Rat)

/-- What the calls rest on. The wall clock is ahead of the cache's clock by `wallOffset`. -/
structure World where
  isPrintable : Char → Bool
  hash : PyHash
  parseFloat : String → Except String Rat
  wallOffset : Rat

namespace State

variable (state : State)

/-- The cache takes a step. -/
def caches (action : TokenCache.Action) : Option State :=
  (trackedMachine.step state.tracked action).map fun tracked => { state with tracked }

def setRequest (task : TaskId) (request : CredentialRequest) : State :=
  { state with requestOf := Function.update state.requestOf task (some request) }

def setReply (task : TaskId) (reply : TokenReply) : State :=
  { state with replyOf := Function.update state.replyOf task (some reply) }

end State

section Step

variable (world : World)

def step (state : State) : Action → Option State
  | .get task request =>
      match state.requestOf task with
      | some _ => none
      | none =>
          match request.cacheKey world.isPrintable world.hash with
          | .error _ => some (state.setRequest task request)
          | .ok key => (state.setRequest task request).caches (.start task key)
  | .resume task => state.caches (.resume task)
  | .replied task reply =>
      match state.requestOf task with
      | none => none
      | some request =>
          match request.mint world.parseFloat (state.tracked.state.now + world.wallOffset) reply with
          | .error _ => state.caches (.fetchFailed task)
          | .ok (token, ttlSeconds) =>
              (state.setReply task reply).caches (.fetched task token ttlSeconds)
  | .unanswered task => state.caches (.fetchFailed task)
  | .tick elapsed => state.caches (.tick elapsed)

def machine : Machine State Action where
  start := {}
  step := step world

end Step

theorem exists_step_of_caches {state next : State} {action : TokenCache.Action}
    (cached : state.caches action = some next) :
    ∃ inner, TokenCache.Steps state.tracked.state action inner ∧
      next = { state with tracked := state.tracked.record action inner } := by
  rcases Option.map_eq_some_iff.mp cached with ⟨tracked, recorded, rfl⟩
  rcases Option.map_eq_some_iff.mp recorded with ⟨inner, stepped, rfl⟩
  exact ⟨inner, TokenCache.steps_of_step stepped, rfl⟩

/-- What the record says of the requests and replies. -/
structure Requested (world : World) (state : State) : Prop where
  known : TokenCache.Known state.tracked
  keyed : ∀ {task key}, state.tracked.keyOf task = some key →
    ∃ request, state.requestOf task = some request ∧
      request.cacheKey world.isPrintable world.hash = .ok key
  replied : ∀ {task minted}, state.tracked.minted task = some minted →
    ∃ request reply, state.requestOf task = some request ∧ state.replyOf task = some reply ∧
      request.mint world.parseFloat (minted.storedAt + world.wallOffset) reply =
        .ok (minted.token, minted.ttlSeconds)
  mintedKey : ∀ {task minted}, state.tracked.minted task = some minted →
    ∃ key, state.tracked.keyOf task = some key

section Keeps

variable {world : World} {state next : State}

/-- A request stays what it was when another call is made. -/
theorem requestOf_setRequest {task other : TaskId} {before : CredentialRequest}
    (fresh : state.requestOf task = none) (request : CredentialRequest)
    (isRequest : state.requestOf other = some before) :
    (state.setRequest task request).requestOf other = some before := by
  have different : other ≠ task := by
    rintro rfl
    rw [fresh] at isRequest
    cases isRequest
  exact (Function.update_of_ne different ..).trans isRequest

theorem Requested.setRequest (requested : Requested world state) {task : TaskId}
    (fresh : state.requestOf task = none) (request : CredentialRequest) :
    Requested world (state.setRequest task request) := by
  constructor
  · exact requested.known
  · intro other key isKey
    rcases requested.keyed isKey with ⟨before, isRequest, hasKey⟩
    exact ⟨before, requestOf_setRequest fresh request isRequest, hasKey⟩
  · intro other minted isMinted
    rcases requested.replied isMinted with ⟨before, reply, isRequest, isReply, mints⟩
    exact ⟨before, reply, requestOf_setRequest fresh request isRequest, isReply, mints⟩
  · exact requested.mintedKey

/-- A step of the cache that neither starts a call nor mints a token. -/
theorem Requested.caches (requested : Requested world state) {action : TokenCache.Action}
    (cached : state.caches action = some next)
    (sameKeys : ∀ inner, (state.tracked.record action inner).keyOf = state.tracked.keyOf)
    (sameMinted : ∀ inner, (state.tracked.record action inner).minted = state.tracked.minted) :
    Requested world next := by
  rcases exists_step_of_caches cached with ⟨inner, steps, rfl⟩
  constructor
  · exact requested.known.step steps
  · intro task key isKey
    rw [sameKeys] at isKey
    exact requested.keyed isKey
  · intro task minted isMinted
    rw [sameMinted] at isMinted
    exact requested.replied isMinted
  · intro task minted isMinted
    rw [sameMinted] at isMinted
    rw [sameKeys]
    exact requested.mintedKey isMinted

theorem Requested.start (requested : Requested world state) {task : TaskId} {key : String}
    {request : CredentialRequest} (isRequest : state.requestOf task = some request)
    (hasKey : request.cacheKey world.isPrintable world.hash = .ok key)
    (cached : state.caches (.start task key) = some next) : Requested world next := by
  rcases exists_step_of_caches cached with ⟨inner, steps, rfl⟩
  constructor
  · exact requested.known.step steps
  · intro other otherKey isKey
    change Function.update state.tracked.keyOf task (some key) other = some otherKey at isKey
    by_cases same : other = task
    · subst other
      rw [Function.update_self, Option.some.injEq] at isKey
      subst otherKey
      exact ⟨request, isRequest, hasKey⟩
    · rw [Function.update_of_ne same] at isKey
      exact requested.keyed isKey
  · exact requested.replied
  · intro other minted isMinted
    by_cases same : other = task
    · subst other
      exact ⟨key, Function.update_self ..⟩
    · rcases requested.mintedKey isMinted with ⟨otherKey, isKey⟩
      exact ⟨otherKey, (Function.update_of_ne same ..).trans isKey⟩

theorem Requested.fetched (requested : Requested world state) {task : TaskId} {token : String}
    {ttlSeconds : Rat} {request : CredentialRequest} {reply : TokenReply}
    (isRequest : state.requestOf task = some request)
    (mints : request.mint world.parseFloat (state.tracked.state.now + world.wallOffset) reply =
      .ok (token, ttlSeconds))
    (cached : (state.setReply task reply).caches (.fetched task token ttlSeconds) = some next) :
    Requested world next := by
  rcases exists_step_of_caches cached with ⟨inner, steps, rfl⟩
  have stillKnown := requested.known.step steps
  cases steps with
  | fetched fetching =>
      have isKeyOf := requested.known.placed (congrArg TokenCache.Call.place fetching)
      have unminted {other : TaskId} {minted : TokenCache.Minted}
          (isMinted : state.tracked.minted other = some minted) : other ≠ task := by
        rintro rfl
        rcases requested.known.mints isMinted with ⟨_, returned⟩
        have located := fetching.symm.trans returned
        cases located
      constructor
      · exact stillKnown
      · intro other otherKey isKey
        simp only [State.setReply, Tracked.record, isKeyOf] at isKey
        exact requested.keyed isKey
      · intro other minted isMinted
        simp only [State.setReply, Tracked.record, isKeyOf] at isMinted ⊢
        by_cases same : other = task
        · subst other
          rw [Function.update_self, Option.some.injEq] at isMinted
          subst minted
          exact ⟨request, reply, isRequest, Function.update_self .., mints⟩
        · rw [Function.update_of_ne same] at isMinted
          rcases requested.replied isMinted with ⟨before, otherReply, isBefore, isReply, minting⟩
          exact ⟨before, otherReply, isBefore, (Function.update_of_ne same ..).trans isReply, minting⟩
      · intro other minted isMinted
        simp only [State.setReply, Tracked.record, isKeyOf] at isMinted ⊢
        by_cases same : other = task
        · subst other
          exact ⟨_, isKeyOf⟩
        · rw [Function.update_of_ne same] at isMinted
          exact requested.mintedKey isMinted

theorem Requested.step (requested : Requested world state) {action : Action}
    (stepped : Acquire.step world state action = some next) : Requested world next := by
  cases action with
  | get task request =>
      simp only [Acquire.step] at stepped
      split at stepped
      case h_1 => cases stepped
      case h_2 fresh =>
        have asked := requested.setRequest fresh request
        split at stepped
        case h_1 =>
          cases stepped
          exact asked
        case h_2 key hasKey => exact asked.start (Function.update_self ..) hasKey stepped
  | resume task =>
      have keyOf (inner : TokenCache.State) :
          (state.tracked.record (.resume task) inner).keyOf = state.tracked.keyOf := by
        simp only [Tracked.record]
        split <;> rfl
      have minted (inner : TokenCache.State) :
          (state.tracked.record (.resume task) inner).minted = state.tracked.minted := by
        simp only [Tracked.record]
        split <;> rfl
      exact requested.caches stepped keyOf minted
  | replied task reply =>
      simp only [Acquire.step] at stepped
      split at stepped
      case h_1 => cases stepped
      case h_2 request isRequest =>
        split at stepped
        case h_1 => exact requested.caches stepped (fun _ => rfl) (fun _ => rfl)
        case h_2 token ttlSeconds mints => exact requested.fetched isRequest mints stepped
  | unanswered task => exact requested.caches stepped (fun _ => rfl) (fun _ => rfl)
  | tick elapsed => exact requested.caches stepped (fun _ => rfl) (fun _ => rfl)

end Keeps

theorem requested_of_reachedWithin {world : World} {condition : State → Action → Prop}
    {state : State} (reached : (machine world).ReachedWithin condition state) :
    Requested world state := by
  apply Machine.keeps_of_reachedWithin _ _ reached
  · have nothing := TokenCache.known_of_reached .start
    exact ⟨nothing, nofun, nofun, nofun⟩
  · intro before action after requested _ stepped
    exact requested.step stepped

end Acquire

end McpPortal
