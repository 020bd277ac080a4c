import McpPortal.Sources.OpenApi
import McpPortal.Transports.GraphQl

/-!
# The credential header

The denylist is checked on lowered names, once for the entries of a configuration
and once for every introspected operation, while requests collect their headers in
a case-sensitive dictionary. Together they leave exactly one header with the name
of the credential's.
-/

namespace McpPortal

open Foundation

variable {unicode : PyUnicode}

/-- Names that agree up to ASCII case are denylisted together. -/
theorem isDenylisted_congr {left right : String} (same : asciiLower left = asciiLower right)
    (extra : List String) : isDenylisted unicode left extra = isDenylisted unicode right extra := by
  simp only [isDenylisted, unicode.lowerCongr same]

theorem isDenylisted_authorization (extra : List String) :
    isDenylisted unicode "Authorization" extra = true := by
  have lowered : unicode.lower "Authorization" = "authorization" :=
    unicode.lowerOfAscii (by decide)
  simp [isDenylisted, lowered, denylistedHeaders]

/-- A binding none of whose header parameters is denylisted. -/
def HeadersAllowed (unicode : PyUnicode) (credentialHeaders : List String)
    (parameters : List Parameter) : Prop :=
  ∀ param ∈ parameters, param.location = .header →
    isDenylisted unicode param.wireName credentialHeaders = false

theorem headersAllowed_of_checkHeaderDenylist {config : McpPortalConfig}
    (accepted : checkHeaderDenylist unicode config = .ok ()) {entry : OperationEntry}
    (entryMem : entry ∈ config.operations) {binding : HttpBindingEntry}
    (isHttp : entry.binding = .http binding) :
    HeadersAllowed unicode (credentialHeadersFor unicode config)
      (binding.httpBinding unicode).parameters := by
  have checked := forM_eq_ok.mp accepted entry entryMem
  rw [OperationEntry.checkHeaders, isHttp] at checked
  intro param paramMem isHeader
  rcases List.mem_map.mp paramMem with ⟨source, sourceMem, rfl⟩
  have passed := forM_eq_ok.mp checked source sourceMem
  rw [ParameterEntry.checkHeader, check_eq_ok, not_and] at passed
  exact Bool.eq_false_iff.mpr (passed.1 isHeader)

theorem headersAllowed_resolved {credentialHeaders : List String} {binding resolved : HttpBinding}
    (allowed : HeadersAllowed unicode credentialHeaders binding.parameters)
    (resolves : resolveArgNames binding = .ok resolved) :
    HeadersAllowed unicode credentialHeaders resolved.parameters := by
  rcases resolveArgNames_ok resolves with ⟨names, _, rfl⟩
  intro param paramMem isHeader
  rcases List.mem_map.mp paramMem with ⟨source, sourceMem, rfl⟩
  rw [renameParameter_location] at isHeader
  rw [renameParameter_wireName]
  exact allowed source sourceMem isHeader

/-- An operation built from an entry, or one that survived introspection. -/
inductive Offered (unicode : PyUnicode) (config : McpPortalConfig) (operation : Operation) : Prop
  | configured (entry : OperationEntry) (entryMem : entry ∈ config.operations)
      (built : ExplicitSource.build unicode entry = .ok (some operation))
  | introspected (upstreamKey : String) (raw : RawOperation)
      (built : OpenApiSource.build unicode upstreamKey (credentialHeadersFor unicode config) raw =
        .ok (some operation))

theorem headersAllowed_of_offered {config : McpPortalConfig}
    (accepted : checkHeaderDenylist unicode config = .ok ()) {operation : Operation}
    (offered : Offered unicode config operation) {binding : HttpBinding}
    (isHttp : operation.binding = .http binding) :
    HeadersAllowed unicode (credentialHeadersFor unicode config) binding.parameters := by
  cases offered with
  | configured entry entryMem built =>
      rcases (ExplicitSource.build_ok built).2.2 with
        ⟨_, _, isGraphQl⟩ | ⟨source, resolved, entryIsHttp, flattened, isResolved⟩
      · rw [isHttp] at isGraphQl
        cases isGraphQl
      · rw [isHttp] at isResolved
        cases isResolved
        exact headersAllowed_resolved
          (headersAllowed_of_checkHeaderDenylist accepted entryMem entryIsHttp)
          (flattenBinding_ok flattened).2.1
  | introspected upstreamKey raw built =>
      rcases OpenApiSource.build_ok built with ⟨_, allowed, resolved, flattened, isResolved⟩
      rw [isHttp] at isResolved
      cases isResolved
      exact headersAllowed_resolved allowed (flattenBinding_ok flattened).2.1

theorem isDenylisted_credential {config : McpPortalConfig} {upstreamKey : String}
    {upstream : UpstreamConfig} (found : Dict.get? config.upstreams upstreamKey = some upstream)
    {secrets : List (String × String)} {token : String} {credential : Credential}
    (obtained : upstreamCredential unicode.isPrintable upstream.outbound secrets token =
      .ok (some credential)) :
    isDenylisted unicode credential.header (credentialHeadersFor unicode config) = true := by
  have ownHeader : upstream.outbound.mode ≠ .none →
      credentialFor unicode.isPrintable upstream.outbound secrets = .ok (some credential) →
      isDenylisted unicode credential.header (credentialHeadersFor unicode config) = true := by
    intro hasCredential configured
    have header_eq : credential.header = upstream.outbound.header := by
      simp only [credentialFor, hasCredential, if_false] at configured
      split at configured
      · cases configured
      · split at configured
        · cases configured
        · cases configured
          rfl
    have listed : unicode.lower credential.header ∈ credentialHeadersFor unicode config := by
      rw [header_eq]
      refine List.mem_map.mpr ⟨(upstreamKey, upstream), ?_, rfl⟩
      exact List.mem_filter.mpr ⟨Dict.mem_of_get? found, by simpa using hasCredential⟩
    simp [isDenylisted, listed]
  unfold upstreamCredential at obtained
  cases mode : upstream.outbound.mode with
  | none =>
      simp only [mode] at obtained
      simp [credentialFor, mode] at obtained
  | static =>
      simp only [mode] at obtained
      exact ownHeader (by simp [mode]) obtained
  | clientCredentials =>
      simp only [mode, pure_eq_ok, Option.some.injEq] at obtained
      rw [← obtained]
      exact isDenylisted_authorization _
  | tokenExchange =>
      simp only [mode, pure_eq_ok, Option.some.injEq] at obtained
      rw [← obtained]
      exact isDenylisted_authorization _

/-- The header names an operation's arguments supply. -/
def suppliedHeaders (operation : Operation) (arguments : JsonObject) : List String :=
  match operation.binding with
  | .graphQl _ => []
  | .http binding =>
      (binding.parameters.filter fun param =>
        param.location = .header && (Dict.get? arguments param.arg).isSome).map (·.wireName)

theorem keys_headers_of_foldlM {isPrintable : Char → Bool} {arguments : JsonObject}
    {parameters : List Parameter} {parts final : RequestParts} {supplied : List String}
    (suppliedAll : ∀ param ∈ parameters, param.location = .header →
      (Dict.get? arguments param.arg).isSome → param.wireName ∈ supplied)
    (initially : ∀ name ∈ Dict.keys parts.headers, name ∈ supplied)
    (ran : parameters.foldlM (addParameter isPrintable arguments) parts = .ok final) :
    ∀ name ∈ Dict.keys final.headers, name ∈ supplied := by
  refine foldlM_keeps (fun parts => ∀ name ∈ Dict.keys parts.headers, name ∈ supplied)
    initially ?_ ran
  intro param paramMem before next kept stepped
  rcases addParameter_ok stepped with ⟨_, _, rfl⟩ | ⟨value, given, ends⟩
  · exact kept
  · rcases ends with ⟨_, _, rfl⟩ | ⟨_, rfl⟩ | ⟨isHeader, _, rfl⟩
    · exact kept
    · exact kept
    · intro name present
      rcases Dict.mem_keys_insert.mp present with rfl | before
      · exact suppliedAll param paramMem isHeader (by simp [given])
      · exact kept name before

/-- A request's headers are the credential's, set last, and supplied ones or `Content-Type`. -/
theorem operationRequest_headers {isPrintable : Char → Bool} {operation : Operation}
    {baseUrl : String} {arguments : JsonObject} {credential : Credential}
    {request : PreparedRequest}
    (built : operationRequest isPrintable operation baseUrl arguments (some credential) =
      .ok request) :
    ∃ headers, request.headers = Dict.insert headers credential.header credential.value ∧
      ∀ name ∈ Dict.keys headers, name = "Content-Type" ∨
        name ∈ suppliedHeaders operation arguments := by
  unfold operationRequest at built
  cases bindingCase : operation.binding with
  | graphQl binding =>
      simp only [bindingCase, pure_eq_ok] at built
      subst request
      exact ⟨[("Content-Type", "application/json")], rfl, by simp [Dict.keys]⟩
  | http binding =>
      simp only [bindingCase] at built
      rcases buildRequest_ok built with ⟨parts, headers, ran, bodyRan, _, headers_eq⟩
      have fromArguments : ∀ name ∈ Dict.keys parts.headers,
          name ∈ suppliedHeaders operation arguments := by
        refine keys_headers_of_foldlM ?_ (by simp) ran
        intro param paramMem isHeader given
        simp only [suppliedHeaders, bindingCase]
        apply List.mem_map_of_mem
        exact List.mem_filter.mpr ⟨paramMem, by simp [isHeader, given]⟩
      refine ⟨headers, headers_eq, fun name present => ?_⟩
      rcases addRequestBody_ok bodyRan with rfl | ⟨contentType, rfl⟩
      · exact Or.inr (fromArguments name present)
      · rcases Dict.mem_keys_insert.mp present with rfl | before
        · exact Or.inl rfl
        · exact Or.inr (fromArguments name before)

/--
A request that was built carries the credential of its upstream in exactly one
header, and no argument supplies a header whose name is denylisted in any spelling.
-/
theorem operationRequest_keeps_credential {config : McpPortalConfig}
    (accepted : checkHeaderDenylist unicode config = .ok ()) {operation : Operation}
    (offered : Offered unicode config operation) {upstream : UpstreamConfig}
    (found : Dict.get? config.upstreams operation.upstream = some upstream)
    {secrets : List (String × String)} {token : String} {credential : Credential}
    (obtained : upstreamCredential unicode.isPrintable upstream.outbound secrets token =
      .ok (some credential))
    (notContentType : asciiLower credential.header ≠ "content-type")
    {baseUrl : String} {arguments : JsonObject} {request : PreparedRequest}
    (built : operationRequest unicode.isPrintable operation baseUrl arguments (some credential) =
      .ok request) :
    (request.headers.filter fun header => asciiLower header.1 = asciiLower credential.header) =
        [(credential.header, credential.value)] ∧
      (∀ header ∈ request.headers, header.1 = credential.header ∨ header.1 = "Content-Type" ∨
        header.1 ∈ suppliedHeaders operation arguments) ∧
      ∀ supplied ∈ suppliedHeaders operation arguments, ∀ spelling,
        asciiLower spelling = asciiLower supplied →
        isDenylisted unicode spelling (credentialHeadersFor unicode config) = false := by
  have allowed : ∀ supplied ∈ suppliedHeaders operation arguments, ∀ spelling,
      asciiLower spelling = asciiLower supplied →
      isDenylisted unicode spelling (credentialHeadersFor unicode config) = false := by
    intro supplied suppliedMem spelling same
    rw [isDenylisted_congr same]
    unfold suppliedHeaders at suppliedMem
    cases bindingCase : operation.binding with
    | graphQl binding => simp [bindingCase] at suppliedMem
    | http binding =>
        simp only [bindingCase] at suppliedMem
        rcases List.mem_map.mp suppliedMem with ⟨param, paramMem, rfl⟩
        rw [List.mem_filter, Bool.and_eq_true, decide_eq_true_eq] at paramMem
        exact headersAllowed_of_offered accepted offered bindingCase param paramMem.1 paramMem.2.1
  rcases operationRequest_headers built with ⟨headers, headers_eq, named⟩
  refine ⟨?_, ?_, allowed⟩
  · rw [headers_eq]
    refine Dict.filter_insert (fun name => asciiLower name = asciiLower credential.header)
      (by simp) ?_
    intro name present
    rw [decide_eq_false_iff_not]
    intro same
    rcases named name present with rfl | suppliedMem
    · exact notContentType same.symm
    · have denied := isDenylisted_credential found obtained
      rw [allowed name suppliedMem credential.header same.symm] at denied
      cases denied
  · intro header present
    rw [headers_eq] at present
    rcases Dict.mem_keys_insert.mp (List.mem_map_of_mem present) with own | before
    · exact Or.inl own
    · exact Or.inr (named header.1 before)

section Ledger

private def ledgerUpstream : UpstreamConfig where
  baseUrl := some { text := "https://ledger.test" }
  outbound :=
    { mode := .static
      header := "X-Api-Key"
      scheme := none
      value := some { text := "$\x7benv:LEDGER_KEY\x7d" }
      staticNeedsAValue := fun _ => Option.some_ne_none _
      dynamicModesNeedEndpointAndClient := staticMode_needs_no_endpoint }
  positive := positive_defaultLimits

private def ledgerEntry : OperationEntry where
  id := "entries"
  upstream := "ledger"
  description := "List entries"
  binding := .http {
    method := "get"
    path := "/entries"
    parameters := [{ arg := "trace", location := .header, wireName := some "X-Trace" }] }

private def ledgerConfig : McpPortalConfig where
  mode := .configured
  unsafeModeRequiresAcknowledgement := configured_is_safe
  unauthenticatedHttpIsGuarded := stdio_is_guarded _
  server := { name := "portal" }
  upstreams := [("ledger", ledgerUpstream)]
  operations := [ledgerEntry]

private def ledgerOperation : Operation where
  id := "entries"
  upstream := "ledger"
  name := ""
  title := "List entries"
  description := "List entries"
  groupTags := []
  effect := .readOnly
  sensitivity := .normal
  inputSchema :=
    [ ("type", .str "object"),
      ("properties", .obj [("trace", .obj [("type", .str "string")])]) ]
  binding := .http {
    method := "GET"
    path := "/entries"
    parameters :=
      [ { arg := "trace"
          location := .header
          wireName := "X-Trace"
          required := false
          schema := [("type", .str "string")] } ] }

/-- Next to a supplied header the key is sent once. -/
theorem operationRequest_keeps_credential_ledger :
    ∃ request, operationRequest asciiTables.isPrintable ledgerOperation "https://ledger.test"
        [("trace", .str "t-1")] (some ⟨"X-Api-Key", "secret"⟩) = .ok request ∧
      (request.headers.filter fun header => asciiLower header.1 = "x-api-key") =
        [("X-Api-Key", "secret")] ∧
      ∀ spelling, asciiLower spelling = "x-trace" →
        isDenylisted asciiTables spelling ["x-api-key"] = false := by
  have offered : Offered asciiTables ledgerConfig ledgerOperation :=
    .configured ledgerEntry List.mem_cons_self rfl
  have built : operationRequest asciiTables.isPrintable ledgerOperation "https://ledger.test"
      [("trace", .str "t-1")] (some ⟨"X-Api-Key", "secret"⟩) = .ok
        { method := "GET"
          url := "https://ledger.test/entries"
          headers := [("X-Trace", "t-1"), ("X-Api-Key", "secret")]
          body := none } := rfl
  have kept := operationRequest_keeps_credential (rfl : checkHeaderDenylist _ _ = _) offered
    (rfl : _ = some ledgerUpstream) (rfl : upstreamCredential asciiTables.isPrintable
      ledgerUpstream.outbound [("$\x7benv:LEDGER_KEY\x7d", "secret")] "" = _) (by decide) built
  exact ⟨_, built, kept.1, kept.2.2 "X-Trace" (by decide)⟩

end Ledger

end McpPortal
