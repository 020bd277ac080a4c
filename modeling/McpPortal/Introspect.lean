import McpPortal.App
import McpPortal.Configure.RenderedConfig

/-!
# Reading the descriptions of the upstreams

Every upstream is asked in turn for its operations and its base URL. Reading one description, be
it an OpenAPI document or a GraphQL schema, is given from outside and may fail.
-/

namespace McpPortal

open Foundation

/-- A document that has been loaded. Its operations are built once its base URL is accepted. -/
structure DescribedDocument where
  baseUrl : String
  operations : Loading (List Operation)

/-- `load_document` and `OpenApiSource`, and `fetch_schema` and `GraphQlSource`, of an upstream. -/
structure Descriptions where
  document : String → OpenApiIntrospectionConfig → Option String → Loading DescribedDocument
  schema : String → GraphQlIntrospectionConfig → Loading (List Operation)

section Introspect

variable (unicode : PyUnicode) (descriptions : Descriptions)

/-- One turn of the loop: the base URL of the upstream, and what it offers. -/
def introspectUpstream (key : String) (upstream : UpstreamConfig) :
    Loading (String × List Operation) :=
  let configured := upstream.baseUrl.map (·.text)
  match upstream.introspection with
  | none => return (configured.getD "", [])
  | some introspection =>
      match introspection.openapi, introspection.graphql with
      | some openapi, _ => do
          let document ← descriptions.document key openapi configured
          let resolved := textOr configured document.baseUrl
          if !matchesHttpUrl resolved then
            throw (.raised (documentUrlError unicode key resolved))
          else do
            let operations ← document.operations
            return (resolved, operations)
      | none, some graphql => do
          let operations ← descriptions.schema key graphql
          return (configured.getD "", operations)
      | none, none => throw .assertionError

/-- `introspect_upstreams`. -/
def introspectUpstreams : IntrospectUpstreams := fun config => do
  let described ← config.upstreams.mapM fun upstream => do
    let offered ← introspectUpstream unicode descriptions upstream.1 upstream.2
    return (upstream.1, offered)
  return {
    operations := described.flatMap fun offered => offered.2.2
    resolvedBaseUrl := fun key => ((Dict.get? described key).map (·.1)).getD "" }

end Introspect

section Described

variable {unicode : PyUnicode} {descriptions : Descriptions} {config : McpPortalConfig}

/-- The base URL is resolved as `configure` resolves it. -/
theorem exists_resolvedBaseUrl {key : String} {upstream : UpstreamConfig}
    {offered : String × List Operation}
    (introspected : introspectUpstream unicode descriptions key upstream = .ok offered) :
    ∃ documentUrl, resolvedBaseUrl unicode documentUrl key upstream = .ok offered.1 := by
  unfold introspectUpstream at introspected
  dsimp only at introspected
  unfold resolvedBaseUrl
  cases isIntrospection : upstream.introspection with
  | none =>
      rw [isIntrospection] at introspected
      cases introspected
      exact ⟨fun _ => "", rfl⟩
  | some introspection =>
      rw [isIntrospection] at introspected
      dsimp only at introspected
      simp only [Option.bind_some]
      split at introspected
      case h_1 _ _ openapi isOpenapi =>
        simp only [bind_eq_ok] at introspected
        rcases introspected with ⟨document, _, rest⟩
        refine ⟨fun _ => document.baseUrl, ?_⟩
        rw [isOpenapi]
        split at rest
        · cases rest
        case isFalse isMatch =>
          simp only [bind_eq_ok, pure_eq_ok] at rest
          rcases rest with ⟨_, _, rfl⟩
          exact if_neg isMatch
      case h_2 _ _ graphql isOpenapi _ =>
        simp only [bind_eq_ok, pure_eq_ok] at introspected
        rcases introspected with ⟨_, _, rfl⟩
        refine ⟨fun _ => "", ?_⟩
        rw [isOpenapi]
        rfl
      case h_3 => cases introspected

theorem isHttpUrl_of_resolved {documentUrl : String → String} {key url : String}
    {upstream : UpstreamConfig}
    (resolved : resolvedBaseUrl unicode documentUrl key upstream = .ok url) :
    isHttpUrl url = true := by
  rcases exists_rendered resolved with ⟨_, rendered, isRendered, _⟩
  unfold UpstreamConfig.withBaseUrl? at isRendered
  split at isRendered
  case isTrue hasScheme => exact hasScheme
  case isFalse => cases isRendered

/-- A configured base URL is not changed by a document. -/
theorem eq_configured_of_resolved {documentUrl : String → String} {key url : String}
    {upstream : UpstreamConfig}
    (resolved : resolvedBaseUrl unicode documentUrl key upstream = .ok url) {configured : BaseUrl}
    (isConfigured : upstream.baseUrl = some configured) : url = configured.text := by
  unfold resolvedBaseUrl at resolved
  rw [isConfigured] at resolved
  dsimp only [Option.map_some] at resolved
  split at resolved
  · cases resolved
    rfl
  · split at resolved
    · cases resolved
    · cases resolved
      rw [textOr_some, if_neg (ne_empty_of_isHttpUrl configured.hasScheme)]

/-- The base URL is the one of the document that describes the upstream. -/
def DescribedAt (descriptions : Descriptions) (key : String) (upstream : UpstreamConfig)
    (baseUrl : String) : Prop :=
  ∃ introspection openapi document, upstream.introspection = some introspection ∧
    introspection.openapi = some openapi ∧
    descriptions.document key openapi none = .ok document ∧ baseUrl = document.baseUrl

/-- Without a base URL of its own, only a document gives an upstream an absolute one. -/
theorem describedAt_of_introspected {key : String} {upstream : UpstreamConfig}
    {offered : String × List Operation}
    (introspected : introspectUpstream unicode descriptions key upstream = .ok offered)
    (unset : upstream.baseUrl = none) (hasScheme : isHttpUrl offered.1 = true) :
    DescribedAt descriptions key upstream offered.1 := by
  unfold introspectUpstream at introspected
  rw [unset] at introspected
  dsimp only [Option.map_none, Option.getD_none] at introspected
  cases isIntrospection : upstream.introspection with
  | none =>
      rw [isIntrospection] at introspected
      cases introspected
      cases hasScheme
  | some introspection =>
      rw [isIntrospection] at introspected
      dsimp only at introspected
      split at introspected
      case h_1 _ _ openapi isOpenapi =>
        simp only [bind_eq_ok] at introspected
        rcases introspected with ⟨document, isDocument, rest⟩
        split at rest
        · cases rest
        case isFalse =>
          simp only [bind_eq_ok, pure_eq_ok] at rest
          rcases rest with ⟨_, _, rfl⟩
          exact ⟨introspection, openapi, document, isIntrospection, isOpenapi, isDocument, rfl⟩
      case h_2 =>
        simp only [bind_eq_ok, pure_eq_ok] at introspected
        rcases introspected with ⟨_, _, rfl⟩
        cases hasScheme
      case h_3 => cases introspected

/-- Every upstream is introspected, and gets the base URL that this gives. -/
theorem exists_introspectUpstream {introspected : Introspected}
    (ran : introspectUpstreams unicode descriptions config = .ok introspected) {key : String}
    {upstream : UpstreamConfig} (upstreamMem : (key, upstream) ∈ config.upstreams) :
    ∃ offered, introspectUpstream unicode descriptions key upstream = .ok offered ∧
      introspected.resolvedBaseUrl key = offered.1 := by
  simp only [introspectUpstreams, bind_eq_ok, pure_eq_ok] at ran
  rcases ran with ⟨described, made, rfl⟩
  have related := mapM_eq_ok_iff_forall₂.mp made
  have sameKeys : Dict.keys config.upstreams = Dict.keys described := by
    refine map_eq_map_of_forall₂ ?_ related
    intro upstream entry resolves
    simp only [bind_eq_ok, pure_eq_ok] at resolves
    rcases resolves with ⟨_, _, rfl⟩
    rfl
  rcases exists_right_of_forall₂ related upstreamMem with ⟨entry, entryMem, resolves⟩
  simp only [bind_eq_ok, pure_eq_ok] at resolves
  rcases resolves with ⟨offered, isOffered, rfl⟩
  have found : Dict.get? described key = some offered :=
    (Dict.get?_eq_some_iff (sameKeys ▸ config.uniqueUpstreams)).mpr entryMem
  refine ⟨offered, isOffered, ?_⟩
  simp only [found, Option.map_some, Option.getD_some]

/--
In every mode an upstream ends up with an absolute base URL, which is its own if it has one,
whatever its description says, and that of its document if it has none.
-/
theorem introspectedOperations_baseUrl {introspected : Introspected}
    (offered : introspectedOperations (introspectUpstreams unicode descriptions) config =
      .ok introspected) {key : String} {upstream : UpstreamConfig}
    (upstreamMem : (key, upstream) ∈ config.upstreams) :
    isHttpUrl (introspected.resolvedBaseUrl key) = true ∧
      (∀ configured, upstream.baseUrl = some configured →
        introspected.resolvedBaseUrl key = configured.text) ∧
      (upstream.baseUrl = none →
        DescribedAt descriptions key upstream (introspected.resolvedBaseUrl key)) := by
  unfold introspectedOperations at offered
  split at offered
  case isTrue isConfigured =>
    cases offered
    have complete := config.configuredModeNeedsEveryBaseUrl isConfigured _ upstreamMem
    rcases Option.ne_none_iff_exists'.mp complete with ⟨own, isOwn⟩
    have found : Dict.get? config.upstreams key = some upstream :=
      (Dict.get?_eq_some_iff config.uniqueUpstreams).mpr upstreamMem
    have isText : configuredBaseUrl config key = own.text := by
      simp only [configuredBaseUrl, found]
      rw [isOwn]
      rfl
    dsimp only
    rw [isText]
    refine ⟨own.hasScheme, ?_, fun unset => absurd unset complete⟩
    intro configured isConfigured
    cases isOwn.symm.trans isConfigured
    rfl
  case isFalse =>
    rcases exists_introspectUpstream offered upstreamMem with ⟨own, isOwn, sameUrl⟩
    rcases exists_resolvedBaseUrl isOwn with ⟨documentUrl, resolved⟩
    have hasScheme : isHttpUrl own.1 = true := isHttpUrl_of_resolved resolved
    rw [sameUrl]
    refine ⟨hasScheme, ?_, fun unset => describedAt_of_introspected isOwn unset hasScheme⟩
    exact fun _ isConfigured => eq_configured_of_resolved resolved isConfigured

end Described

end McpPortal
