import McpPortal.Server.Mcp
import McpPortal.Sources.Explicit
import McpPortal.Sources.Merge
import McpPortal.Transports.Adapter

/-!
# Wiring a loaded configuration into an application

Introspected and explicit operations are merged into the tool set, every upstream
gets a transport that holds its credential source, and the policy guards the calls.
Reading the descriptions of the upstreams is an argument.
-/

namespace McpPortal

open Foundation

/-- The running application: its invoker. -/
structure App where
  invoker : ToolInvoker TransportAdapter

abbrev Loading := Except (PyException ConfigError)

/-- The operations the upstreams' descriptions offer, and the resolved base URLs. -/
structure Introspected where
  operations : List Operation
  resolvedBaseUrl : String → String

abbrev IntrospectUpstreams := McpPortalConfig → Loading Introspected

def configuredBaseUrl (config : McpPortalConfig) (key : String) : String :=
  match Dict.get? config.upstreams key with
  | some upstream => (upstream.baseUrl.map (·.text)).getD ""
  | none => ""

/-- Introspection only runs in the modes that have it. -/
def introspectedOperations (introspect : IntrospectUpstreams) (config : McpPortalConfig) :
    Loading Introspected :=
  if config.mode = .configured then
    return { operations := [], resolvedBaseUrl := configuredBaseUrl config }
  else introspect config

section Build

variable (unicode : PyUnicode) (suffix : String → String)

/-- A name collision is a problem of the configuration. -/
def collisionError (error : NameCollisionError) : ConfigError where
  message := error.message unicode.isPrintable

def loadToolset (config : McpPortalConfig) (introspected explicit : List Operation) :
    Loading ToolSet :=
  let built := do
    let operations ← mergeOperations introspected explicit
    buildToolset unicode suffix operations config
  built.mapError (PyException.map (collisionError unicode))

def credentialSourceFor (secrets : List (String × String)) (key : String)
    (outbound : OutboundConfig) : Loading CredentialSource :=
  match outbound.mode with
  | .clientCredentials => return .clientCredentials outbound secrets key
  | .tokenExchange =>
      match outbound.tokenEndpoint, outbound.clientId, outbound.clientSecret with
      | some _, some _, some ref =>
          match Dict.get? secrets ref.text with
          | some clientSecret => return .tokenExchange outbound clientSecret key
          | none => throw (.raised { message := secretNotResolved unicode.isPrintable ref })
      | _, _, _ => throw .assertionError
  | _ => do
      let credential ← (credentialFor unicode.isPrintable outbound secrets).mapError .raised
      return .static credential

def Binding.isHttp : Binding → Bool
  | .http _ => true
  | .graphQl _ => false

/-- The adapter for the protocols of an upstream's published operations. -/
def adapterFor (key : String) (operations : List Operation) (settings : TransportSettings) :
    TransportAdapter :=
  let own := operations.filter fun op => op.upstream = key
  let hasHttp := own.any fun op => op.binding.isHttp
  let hasGraphQl := own.any fun op => !op.binding.isHttp
  if hasHttp && hasGraphQl then .protocolRouting settings
  else if hasGraphQl then .graphQl settings
  else .http settings

def transportFor (secrets : List (String × String)) (operations : List Operation)
    (resolvedBaseUrl : String → String) (upstream : String × UpstreamConfig) :
    Loading (String × TransportAdapter) := do
  let credentialSource ← credentialSourceFor unicode secrets upstream.1 upstream.2.outbound
  let settings : TransportSettings :=
    { upstream := upstream.2, baseUrl := resolvedBaseUrl upstream.1, credentialSource }
  return (upstream.1, adapterFor upstream.1 operations settings)

/-- Under `http` every call resolves its own principal; the invoker's own has no authority. -/
def appPrincipal (config : McpPortalConfig) : Loading Principal :=
  match config.server.transport with
  | .stdio => (localPrincipal config.localPrincipal).mapError .raised
  | .http => return { identity := "local", authorizationDetails := [] }

/-- Without a policy file nothing is required and everything is allowed. -/
def LoadedConfig.effectivePolicy (loaded : LoadedConfig) : PolicyConfig :=
  loaded.policy.getD .empty

variable (introspect : IntrospectUpstreams)

def buildApp (loaded : LoadedConfig) : Loading App := do
  let config := loaded.config
  let introspected ← introspectedOperations introspect config
  let explicit ← ExplicitSource.operations unicode config
  let toolset ← loadToolset unicode suffix config introspected.operations explicit
  let principal ← appPrincipal config
  let transports ← config.upstreams.mapM
    (transportFor unicode loaded.secrets toolset.operations introspected.resolvedBaseUrl)
  return { invoker := { toolset, transports, policy := loaded.effectivePolicy, principal } }

end Build

variable {unicode : PyUnicode} {suffix : String → String} {introspect : IntrospectUpstreams}

theorem loadToolset_ok {config : McpPortalConfig} {introspected explicit : List Operation}
    {toolset : ToolSet}
    (loadedTools : loadToolset unicode suffix config introspected explicit = .ok toolset) :
    ∃ operations, mergeOperations introspected explicit = .ok operations ∧
      buildToolset unicode suffix operations config = .ok toolset := by
  simpa only [loadToolset, mapError_eq_ok, bind_eq_ok] using loadedTools

theorem buildApp_ok {loaded : LoadedConfig} {app : App}
    (built : buildApp unicode suffix introspect loaded = .ok app) :
    app.invoker.policy = loaded.effectivePolicy ∧
      appPrincipal loaded.config = .ok app.invoker.principal ∧
      ∃ introspected explicit, introspectedOperations introspect loaded.config = .ok introspected ∧
        ExplicitSource.operations unicode loaded.config = .ok explicit ∧
        loadToolset unicode suffix loaded.config introspected.operations explicit =
          .ok app.invoker.toolset := by
  simp only [buildApp, bind_eq_ok, pure_eq_ok] at built
  rcases built with
    ⟨introspected, offered, explicit, configured, toolset, indexed, principal, resolved, _, _, rfl⟩
  exact ⟨rfl, resolved, introspected, explicit, offered, configured, indexed⟩

/-- In the mode without introspection every tool comes from an entry of the configuration. -/
theorem buildApp_configured {loaded : LoadedConfig} {app : App}
    (built : buildApp unicode suffix introspect loaded = .ok app)
    (configured : loaded.config.mode = .configured) :
    ∀ op ∈ app.invoker.toolset.operations, ∃ entry ∈ loaded.config.operations,
      op.id = entry.id ∧ op.upstream = entry.upstream := by
  rcases buildApp_ok built with
    ⟨_, _, introspected, explicit, nothingOffered, explicitBuilt, loadedTools⟩
  rw [introspectedOperations, if_pos configured] at nothingOffered
  cases nothingOffered
  rcases loadToolset_ok loadedTools with ⟨operations, merged, toolsetBuilt⟩
  intro op opMem
  rcases buildToolset_offered toolsetBuilt op opMem with ⟨offered, offeredMem, _, _, _, rfl⟩
  rcases (mem_mergeOperations merged).mp offeredMem with offeredMem | ⟨absurdMem, _⟩
  · rcases ExplicitSource.mem_operations explicitBuilt offeredMem with ⟨entry, entryMem, fromEntry⟩
    rcases ExplicitSource.build_ok fromEntry with ⟨sameId, sameUpstream, _⟩
    exact ⟨entry, entryMem, sameId, sameUpstream⟩
  · cases absurdMem

end McpPortal
