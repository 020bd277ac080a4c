import McpPortal.Configure.Render
import McpPortal.Foundation.PyText

/-!
# The configuration that is written

Mode, operations, policy reference and base URLs are new; whatever else `configure`
does not touch is dumped from the validated configuration and validates to itself.
The base URL of an introspected upstream is its own or that of its document.
-/

namespace McpPortal

open Foundation

/-- `re.match(HTTP_URL_PATTERN, text)`, with what the interpreter takes for white space. -/
def matchesHttpUrl (text : String) : Bool :=
  ["http://", "https://"].any fun scheme =>
    scheme.toList.isPrefixOf text.toList &&
      match (text.toList.drop scheme.toList.length).head? with
      | some char => char ≠ '/' && char ≠ '?' && char ≠ '#' && !isPySpace char
      | none => false

section BaseUrls

variable (unicode : PyUnicode) (documentUrl : String → String)

def documentUrlError (key resolved : String) : ConfigError where
  message := "upstream " ++ reprString unicode.isPrintable key ++ ": document server URL " ++
    reprString unicode.isPrintable resolved ++ " is not an absolute http(s) URL"

/-- The base URL of one upstream, when its document declares the URL. -/
def resolvedBaseUrl (key : String) (upstream : UpstreamConfig) : Except ConfigError String :=
  let configured := upstream.baseUrl.map (·.text)
  match upstream.introspection.bind (·.openapi) with
  | none => return configured.getD ""
  | some _ =>
      let resolved := textOr configured (documentUrl key)
      if !matchesHttpUrl resolved then throw (documentUrlError unicode key resolved)
      else return resolved

/-- `introspect_upstreams(...)[1]`. -/
def resolvedBaseUrls (config : McpPortalConfig) : Except ConfigError (List (String × String)) :=
  config.upstreams.mapM fun upstream => do
    let url ← resolvedBaseUrl unicode documentUrl upstream.1 upstream.2
    return (upstream.1, url)

end BaseUrls

/-- The upstream with another base URL, which is held to the pattern and to the validators. -/
def UpstreamConfig.withBaseUrl? (upstream : UpstreamConfig) (text : String) :
    Option UpstreamConfig :=
  if hasScheme : isHttpUrl text = true then
    if matching : ∀ url ∈ graphqlUrl upstream.introspection, some { text, hasScheme } = some url then
      some { upstream with
        baseUrl := some { text, hasScheme }
        baseUrlOrIntrospection := fun absent => nomatch absent
        graphqlNeedsMatchingBaseUrl := matching }
    else none
  else none

/-- An upstream as it is written. -/
def renderedUpstream? (baseUrls : List (String × String)) (upstream : String × UpstreamConfig) :
    Option (String × UpstreamConfig) :=
  match Dict.get? baseUrls upstream.1 with
  | none => some upstream
  | some url =>
      if url = "" then some upstream
      else (upstream.2.withBaseUrl? url).map fun rendered => (upstream.1, rendered)

/-- `McpPortalConfig.model_validate` of what is written. -/
def McpPortalConfig.validateRendered (config : McpPortalConfig) (operations : List Json)
    (baseUrls : List (String × String)) : Option McpPortalConfig := do
  let entries ← operations.mapM OperationEntry.modelValidate
  let upstreams ← config.upstreams.mapM (renderedUpstream? baseUrls)
  if unique : (Dict.keys upstreams).Nodup then
    if known : ∀ entry ∈ entries, entry.upstream ∈ Dict.keys upstreams then
      if complete : ∀ upstream ∈ upstreams, upstream.2.baseUrl ≠ none then
        if exchanging : ∀ upstream ∈ upstreams, upstream.2.outbound.mode = .tokenExchange →
            config.server.transport = .http ∧ config.inbound.enabled = true then
          some { config with
            mode := .configured
            operations := entries
            upstreams
            uniqueUpstreams := unique
            operationsReferenceKnownUpstreams := known
            unsafeModeRequiresAcknowledgement := fun isUnsafe => nomatch isUnsafe
            configuredModeNeedsEveryBaseUrl := fun _ => complete
            tokenExchangeRequiresInbound := exchanging }
        else none
      else none
    else none
  else none

theorem isPySpace_of_isWhiteSpace {char : Char} (isSpace : isWhiteSpace char = true) :
    isPySpace char = true := by
  simp only [isWhiteSpace, isPySpace, Bool.or_eq_true, Bool.and_eq_true, decide_eq_true_eq] at *
  omega

theorem isHttpUrl_of_matchesHttpUrl {text : String} (isMatch : matchesHttpUrl text = true) :
    isHttpUrl text = true := by
  unfold matchesHttpUrl at isMatch
  unfold isHttpUrl
  rw [List.any_eq_true] at isMatch ⊢
  rcases isMatch with ⟨scheme, schemeMem, opens⟩
  refine ⟨scheme, schemeMem, ?_⟩
  rw [Bool.and_eq_true] at opens ⊢
  refine ⟨opens.1, ?_⟩
  have host := opens.2
  cases found : (text.toList.drop scheme.toList.length).head? with
  | none => simp [found] at host
  | some char =>
      simp only [found, Bool.and_eq_true, Bool.not_eq_true'] at host ⊢
      refine ⟨host.1, ?_⟩
      cases isSpace : isWhiteSpace char with
      | false => rfl
      | true => exact absurd (isPySpace_of_isWhiteSpace isSpace) (by simp [host.2])

theorem ne_empty_of_isHttpUrl {text : String} (isUrl : isHttpUrl text = true) : text ≠ "" := by
  rintro rfl
  cases isUrl

/-- What is written for an upstream has a base URL and the credential it had. -/
def KeepsCredential (upstream rendered : String × UpstreamConfig) : Prop :=
  rendered.1 = upstream.1 ∧ rendered.2.baseUrl ≠ none ∧ rendered.2.outbound = upstream.2.outbound

theorem withBaseUrl?_eq_some {upstream : UpstreamConfig} {text : String}
    (hasScheme : isHttpUrl text = true)
    (matching : ∀ url ∈ graphqlUrl upstream.introspection, url = { text, hasScheme }) :
    ∃ rendered, upstream.withBaseUrl? text = some rendered ∧ rendered.baseUrl ≠ none ∧
      rendered.outbound = upstream.outbound := by
  have agrees : ∀ url ∈ graphqlUrl upstream.introspection,
      some ({ text, hasScheme } : BaseUrl) = some url := by
    intro url isUrl
    rw [matching url isUrl]
  simp only [UpstreamConfig.withBaseUrl?, dif_pos hasScheme, dif_pos agrees]
  exact ⟨_, rfl, by simp, rfl⟩

section Accepted

variable {unicode : PyUnicode} {documentUrl : String → String} {config : McpPortalConfig}
  {baseUrls : List (String × String)}

theorem exists_rendered {key url : String} {upstream : UpstreamConfig}
    (resolved : resolvedBaseUrl unicode documentUrl key upstream = .ok url) :
    url ≠ "" ∧ ∃ rendered, upstream.withBaseUrl? url = some rendered ∧ rendered.baseUrl ≠ none ∧
      rendered.outbound = upstream.outbound := by
  unfold resolvedBaseUrl at resolved
  simp only at resolved
  split at resolved
  case h_1 noDocument =>
    cases resolved
    cases configured : upstream.baseUrl with
    | none =>
        rcases Option.isSome_iff_exists.mp (upstream.baseUrlOrIntrospection configured) with
          ⟨introspection, isIntrospection⟩
        simp only [isIntrospection, Option.bind_some] at noDocument
        have hasGraphql : introspection.graphql ≠ none := by
          intro absent
          have exactlyOne := introspection.exactlyOneProtocol
          rw [noDocument, absent] at exactlyOne
          exact exactlyOne rfl
        rcases Option.ne_none_iff_exists'.mp hasGraphql with ⟨graphql, isGraphql⟩
        have needed := upstream.graphqlNeedsMatchingBaseUrl graphql.url
          (by simp [graphqlUrl, isIntrospection, isGraphql])
        rw [configured] at needed
        cases needed
    | some baseUrl =>
        refine ⟨ne_empty_of_isHttpUrl baseUrl.hasScheme, ?_⟩
        apply withBaseUrl?_eq_some baseUrl.hasScheme
        intro other isOther
        have needed := upstream.graphqlNeedsMatchingBaseUrl other isOther
        rw [configured, Option.some.injEq] at needed
        exact needed.symm
  case h_2 document hasDocument =>
    split at resolved
    · cases resolved
    case isFalse isMatch =>
      rw [Bool.not_eq_true', Bool.not_eq_false] at isMatch
      cases resolved
      have hasScheme := isHttpUrl_of_matchesHttpUrl isMatch
      refine ⟨ne_empty_of_isHttpUrl hasScheme, withBaseUrl?_eq_some hasScheme ?_⟩
      intro other isOther
      rcases Option.bind_eq_some_iff.mp hasDocument with ⟨introspection, isIntrospection, isOpenapi⟩
      have noGraphql : introspection.graphql = none := by
        have exactlyOne := introspection.exactlyOneProtocol
        rw [isOpenapi] at exactlyOne
        cases isGraphql : introspection.graphql with
        | none => rfl
        | some _ =>
            rw [isGraphql] at exactlyOne
            exact absurd rfl exactlyOne
      simp [graphqlUrl, isIntrospection, noGraphql] at isOther

theorem get?_resolvedBaseUrls (resolved : resolvedBaseUrls unicode documentUrl config = .ok baseUrls)
    {key : String} {upstream : UpstreamConfig} (upstreamMem : (key, upstream) ∈ config.upstreams) :
    ∃ url, Dict.get? baseUrls key = some url ∧
      resolvedBaseUrl unicode documentUrl key upstream = .ok url := by
  have related := mapM_eq_ok_iff_forall₂.mp resolved
  have sameKeys : Dict.keys config.upstreams = Dict.keys baseUrls := by
    refine map_eq_map_of_forall₂ ?_ related
    intro upstream entry resolves
    simp only [bind_eq_ok, pure_eq_ok] at resolves
    rcases resolves with ⟨_, _, rfl⟩
    rfl
  rcases exists_right_of_forall₂ related upstreamMem with ⟨entry, entryMem, resolves⟩
  simp only [bind_eq_ok, pure_eq_ok] at resolves
  rcases resolves with ⟨url, isUrl, rfl⟩
  refine ⟨url, ?_, isUrl⟩
  exact (Dict.get?_eq_some_iff (sameKeys ▸ config.uniqueUpstreams)).mpr entryMem

theorem exists_renderedUpstreams
    (resolved : resolvedBaseUrls unicode documentUrl config = .ok baseUrls) :
    ∃ upstreams, config.upstreams.mapM (renderedUpstream? baseUrls) = some upstreams ∧
      List.Forall₂ KeepsCredential config.upstreams upstreams := by
  apply exists_mapM_eq_some
  rintro ⟨key, upstream⟩ upstreamMem
  rcases get?_resolvedBaseUrls resolved upstreamMem with ⟨url, found, isUrl⟩
  rcases exists_rendered isUrl with ⟨nonempty, rendered, isRendered, hasUrl, sameOutbound⟩
  refine ⟨(key, rendered), ?_, rfl, hasUrl, sameOutbound⟩
  simp [renderedUpstream?, found, nonempty, isRendered]

/-- Entries of known upstreams are accepted, once the base URLs are resolved. -/
theorem exists_validateRendered {operations : List Json} {entries : List OperationEntry}
    (resolved : resolvedBaseUrls unicode documentUrl config = .ok baseUrls)
    (read : operations.mapM OperationEntry.modelValidate = some entries)
    (known : ∀ entry ∈ entries, entry.upstream ∈ Dict.keys config.upstreams) :
    ∃ accepted, config.validateRendered operations baseUrls = some accepted ∧
      accepted.mode = .configured ∧ accepted.operations = entries ∧
      accepted.classification = config.classification ∧ accepted.selection = config.selection ∧
      accepted.naming = config.naming := by
  rcases exists_renderedUpstreams resolved with ⟨upstreams, rendered, kept⟩
  have sameKeys : Dict.keys config.upstreams = Dict.keys upstreams :=
    map_eq_map_of_forall₂ (fun keeps => keeps.1.symm) kept
  have unique : (Dict.keys upstreams).Nodup := sameKeys ▸ config.uniqueUpstreams
  have stillKnown : ∀ entry ∈ entries, entry.upstream ∈ Dict.keys upstreams := sameKeys ▸ known
  have complete : ∀ upstream ∈ upstreams, upstream.2.baseUrl ≠ none := by
    intro upstream upstreamMem
    rcases exists_left_of_forall₂ kept upstreamMem with ⟨_, _, keeps⟩
    exact keeps.2.1
  have exchanging : ∀ upstream ∈ upstreams, upstream.2.outbound.mode = .tokenExchange →
      config.server.transport = .http ∧ config.inbound.enabled = true := by
    intro upstream upstreamMem exchanges
    rcases exists_left_of_forall₂ kept upstreamMem with ⟨original, originalMem, keeps⟩
    rw [keeps.2.2] at exchanges
    exact config.tokenExchangeRequiresInbound original originalMem exchanges
  simp only [McpPortalConfig.validateRendered, read, rendered, Option.bind_eq_bind,
    Option.bind_some, dif_pos unique, dif_pos stillKnown, dif_pos complete, dif_pos exchanging]
  exact ⟨_, rfl, rfl, rfl, rfl, rfl, rfl⟩

end Accepted

end McpPortal
