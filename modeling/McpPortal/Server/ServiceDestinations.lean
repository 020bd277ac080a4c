import McpPortal.Introspect
import McpPortal.Server.ServiceSafety
import McpPortal.Transports.Destinations

/-!
# Where the server sends to

Every request goes to the authority of the base URL of its operation's upstream, with a credential
of this upstream. The mode decides which operations there are.
-/

namespace McpPortal

open Foundation

section Wiring

variable {unicode : PyUnicode} {suffix : String → String} {introspect : IntrospectUpstreams}
  {loaded : LoadedConfig} {app : App} {key : String} {adapter : TransportAdapter}

theorem settings_adapterFor (key : String) (operations : List Operation)
    (settings : TransportSettings) : (adapterFor key operations settings).settings = settings := by
  unfold adapterFor
  dsimp only
  split
  · rfl
  · split <;> rfl

/-- An adapter has the settings of the upstream that it is found under. -/
structure Wired (unicode : PyUnicode) (secrets : List (String × String)) (baseUrl key : String)
    (upstream : UpstreamConfig) (adapter : TransportAdapter) : Prop where
  ofUpstream : adapter.settings.upstream = upstream
  toBaseUrl : adapter.settings.baseUrl = baseUrl
  withSource : credentialSourceFor unicode secrets key upstream.outbound =
    .ok adapter.settings.credentialSource

theorem buildApp_wired (built : buildApp unicode suffix introspect loaded = .ok app)
    (found : Dict.get? app.invoker.transports key = some adapter) :
    ∃ introspected upstream, introspectedOperations introspect loaded.config = .ok introspected ∧
      (key, upstream) ∈ loaded.config.upstreams ∧
      Wired unicode loaded.secrets (introspected.resolvedBaseUrl key) key upstream adapter := by
  simp only [buildApp, bind_eq_ok, pure_eq_ok] at built
  rcases built with ⟨introspected, offered, _, _, toolset, _, _, _, transports, made, rfl⟩
  rcases mem_of_mapM_eq_ok made (Dict.mem_of_get? found) with ⟨⟨own, upstream⟩, upstreamMem, wired⟩
  simp only [transportFor, bind_eq_ok, pure_eq_ok, Prod.mk.injEq] at wired
  rcases wired with ⟨source, isSource, rfl, rfl⟩
  refine ⟨introspected, upstream, offered, upstreamMem, ?_, ?_, ?_⟩
  · rw [settings_adapterFor]
  · rw [settings_adapterFor]
  · rw [settings_adapterFor]
    exact isSource

end Wiring

namespace Service

variable {Key : Type} {portal : Portal Key}

/-- The credential is the one configured for the upstream, or was minted for the upstream. -/
inductive OwnCredential (portal : Portal Key) (state : State) (key : String)
    (upstream : UpstreamConfig) : Option Credential → Prop
  | configured {credential : Option Credential}
      (resolved : credentialFor portal.isPrintable upstream.outbound portal.loaded.secrets =
        .ok credential) : OwnCredential portal state key upstream credential
  | minted {request : CredentialRequest} {token : String} (isKey : request.upstreamKey = key)
      (isMode : request.mode = upstream.outbound.mode)
      (isScopes : request.scopes = upstream.outbound.scopes)
      (minted : MintedFor portal state request token) :
      OwnCredential portal state key upstream (some (bearerCredential token))

section Own

variable {state : State} {sent : Sent} {key baseUrl : String} {upstream : UpstreamConfig}

theorem Rightful.own (rightful : Rightful portal state sent)
    (wired : Wired portal.unicode portal.loaded.secrets baseUrl key upstream sent.job.adapter) :
    OwnCredential portal state key upstream sent.credential := by
  have isSource := wired.withSource
  unfold Rightful at rightful
  generalize sent.job.adapter.settings.credentialSource = source at rightful isSource
  unfold credentialSourceFor at isSource
  split at isSource
  case h_1 isMode =>
    cases isSource
    rcases rightful with ⟨token, isToken, minted⟩
    rw [isToken]
    refine .minted ?_ ?_ ?_ minted
    · rfl
    · exact isMode.symm
    · rfl
  case h_2 isMode =>
    split at isSource
    case h_1 =>
      split at isSource
      · cases isSource
        rcases rightful with ⟨token, isToken, minted⟩
        rw [isToken]
        refine .minted ?_ ?_ ?_ minted
        · rfl
        · exact isMode.symm
        · rfl
      · cases isSource
    case h_2 => cases isSource
  case h_3 =>
    simp only [bind_eq_ok, mapError_eq_ok, pure_eq_ok] at isSource
    rcases isSource with ⟨credential, resolved, rfl⟩
    have isOwn : sent.credential = credential := rightful
    rw [isOwn]
    exact .configured resolved

/-- A call is answered for an operation of the tool set. -/
theorem Cleared.published {call : CallId} {job : Job} (cleared : Cleared portal state call job) :
    job.execution.operation ∈ portal.app.invoker.toolset.operations := by
  rcases cleared.cleared with ⟨_, _, _, _, mediated, _⟩
  rcases mediated.published with ⟨_, _, _, _, published, _⟩
  exact published

end Own

/-- What the mode says about the operations that are sent for. -/
structure WithinMode (config : McpPortalConfig) (operation : Operation) : Prop where
  safe : config.mode = .introspectSafe →
    operation.effect = .readOnly ∧ operation.sensitivity = .normal
  configured : config.mode = .configured → ∃ entry ∈ config.operations,
    operation.id = entry.id ∧ operation.upstream = entry.upstream

theorem withinMode_of_published {unicode : PyUnicode} {suffix : String → String}
    {introspect : IntrospectUpstreams} {loaded : LoadedConfig} {app : App}
    (built : buildApp unicode suffix introspect loaded = .ok app) {operation : Operation}
    (published : operation ∈ app.invoker.toolset.operations) :
    WithinMode loaded.config operation := by
  constructor
  · intro isSafe
    rcases buildApp_ok built with ⟨_, _, _, _, _, _, indexed⟩
    rcases loadToolset_ok indexed with ⟨operations, _, toolsetBuilt⟩
    exact buildToolset_introspectSafe toolsetBuilt isSafe operation published
  · intro isConfigured
    exact buildApp_configured built isConfigured operation published

/--
Whatever has been sent, in any run and whatever the descriptions of the upstreams say, went to the
authority of the base URL of its operation's upstream, which is the configured one if there is one
and that of the upstream's document if there is none, and carries a credential of this upstream.
The mode allows the operation.
-/
theorem sent_confined_of_reached {suffix : String → String} {descriptions : Descriptions}
    {state : State}
    (built : buildApp portal.unicode suffix (introspectUpstreams portal.unicode descriptions)
      portal.loaded = .ok portal.app)
    (reached : (machine portal).Reached state) {sent : Sent} (sentMem : sent ∈ state.sent) :
    ∃ upstream baseUrl,
      (sent.job.execution.operation.upstream, upstream) ∈ portal.loaded.config.upstreams ∧
      (∀ configured, upstream.baseUrl = some configured → baseUrl = configured.text) ∧
      (upstream.baseUrl = none →
        DescribedAt descriptions sent.job.execution.operation.upstream upstream baseUrl) ∧
      isHttpUrl baseUrl = true ∧
      Url.authority sent.request.url.toList = Url.authority baseUrl.toList ∧
      OwnCredential portal state sent.job.execution.operation.upstream upstream sent.credential ∧
      WithinMode portal.loaded.config sent.job.execution.operation := by
  have coherent := coherent_of_reached reached
  have justified := coherent.justified sent sentMem
  have cleared := justified.assigned.cleared built
  rcases cleared.cleared with ⟨_, _, _, _, _, found⟩
  rcases buildApp_wired built found with ⟨introspected, upstream, offered, upstreamMem, wired⟩
  have baseUrl := introspectedOperations_baseUrl offered upstreamMem
  have isRequest := justified.built
  rw [wired.toBaseUrl] at isRequest
  refine ⟨upstream, _, upstreamMem, baseUrl.2.1, baseUrl.2.2, baseUrl.1,
    authority_operationRequest baseUrl.1 isRequest, ?_, ?_⟩
  · exact (justified.rightful coherent.requested).own wired
  · exact withinMode_of_published built cleared.published

namespace Documented

def apiKey : SecretRef where
  text := "$\x7benv:NOTES_TOKEN\x7d"

/-- A server of the notes that their description makes readable. -/
def notes : LoadedConfig where
  config :=
    { mode := .introspectSafe
      unsafeModeRequiresAcknowledgement := introspectSafe_is_safe
      unauthenticatedHttpIsGuarded := by decide
      server := { name := "portal", transport := .http }
      upstreams :=
        [ ("notes",
            { introspection := some { openapi := some { file := some "notes.yaml" } }
              outbound :=
                { mode := .static
                  value := some apiKey
                  staticNeedsAValue := fun _ => Option.some_ne_none _
                  dynamicModesNeedEndpointAndClient := staticMode_needs_no_endpoint }
              positive := positive_defaultLimits }) ] }
  secrets := [(apiKey.text, "notes-secret")]

def noteOperation (id method : String) (effect : Effect) : Operation where
  id
  upstream := "notes"
  name := id
  title := id
  description := id
  groupTags := []
  effect
  sensitivity := .normal
  inputSchema := [("type", .str "object")]
  binding := .http { method, path := "/notes" }

/-- The document offers a read and a write. -/
def noteDescriptions : Descriptions where
  document _ _ _ := return {
    baseUrl := "https://notes.example/v1"
    operations := return [
      noteOperation "list" "GET" .readOnly, noteOperation "add" "POST" .action] }
  schema _ _ := return []

def notesApp : Loading App :=
  buildApp asciiTables (fun _ => "333333") (introspectUpstreams asciiTables noteDescriptions) notes

def notesPortal (app : App) : Portal Unit :=
  { Exchange.portalOf app with loaded := notes }

/-- Both operations are called. -/
def bothCalls : List Action :=
  [.arrive 0 { request := { name := "add" } }, .arrive 1 { request := { name := "list" } }]

def notesRun (app : App) : Option State :=
  (machine (notesPortal app)).run {} bothCalls

def sentUrls (state : State) : List (CallId × String × List (String × String)) :=
  state.sent.map fun sent => (sent.call, sent.request.url, sent.request.headers)

def onlyRead : List (CallId × String × List (String × String)) :=
  [(1, "https://notes.example/v1/notes", [("Authorization", "Bearer notes-secret")])]

theorem exists_run_of_sees {loading : Loading App}
    {seen : List (CallId × String × List (String × String))}
    (sees : (loading.toOption.bind fun app => (notesRun app).map sentUrls) = some seen) :
    ∃ app state, loading = .ok app ∧ notesRun app = some state ∧ sentUrls state = seen := by
  rcases Option.bind_eq_some_iff.mp sees with ⟨app, isApp, later⟩
  rcases Option.map_eq_some_iff.mp later with ⟨state, ran, isSeen⟩
  refine ⟨app, state, ?_, ran, isSeen⟩
  revert isApp
  cases loading with
  | error _ =>
      intro isApp
      cases isApp
  | ok other =>
      intro isApp
      cases isApp
      rfl

theorem exists_notesRun :
    ∃ app state, notesApp = .ok app ∧ notesRun app = some state ∧ sentUrls state = onlyRead :=
  exists_run_of_sees (by decide +kernel)

end Documented

section Documented

open Documented

/-- Only the read is sent, to the host that the document names. -/
theorem sent_confined_of_reached_notes :
    ∃ app state, notesApp = .ok app ∧ notesRun app = some state ∧ sentUrls state = onlyRead ∧
      ∀ sent ∈ state.sent, ∃ upstream, ∃ baseUrl : String,
        (sent.job.execution.operation.upstream, upstream) ∈ notes.config.upstreams ∧
        (upstream.baseUrl = none →
          DescribedAt noteDescriptions sent.job.execution.operation.upstream upstream baseUrl) ∧
        Url.authority sent.request.url.toList = Url.authority baseUrl.toList ∧
        WithinMode notes.config sent.job.execution.operation := by
  rcases exists_notesRun with ⟨app, state, built, ran, isSeen⟩
  have reached : (machine (notesPortal app)).Reached state :=
    Machine.reachedWithin_of_run (fun _ _ _ => trivial) .start ran
  refine ⟨app, state, built, ran, isSeen, ?_⟩
  intro sent sentMem
  rcases @sent_confined_of_reached _ (notesPortal app) _ _ state built reached sent sentMem with
    ⟨upstream, baseUrl, upstreamMem, _, described, _, sameAuthority, _, withinMode⟩
  exact ⟨upstream, baseUrl, upstreamMem, described, sameAuthority, withinMode⟩

end Documented

end Service

end McpPortal
