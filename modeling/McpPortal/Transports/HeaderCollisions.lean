import McpPortal.Transports.Headers

/-!
# Collisions of header names

The headers of a request are assigned one after the other: those of the parameters,
the type of the body, the credential's. Names of headers do not distinguish cases
while the keys of the dictionary do, and only the credential's name is kept free by
the denylist. Nothing is lost or doubled exactly when assignments to one name agree.
-/

namespace McpPortal

open Foundation

/-- The assignments to the headers of a request, in order. -/
def headerAssignments (isPrintable : Char → Bool) (binding : HttpBinding) (arguments : JsonObject)
    (credential : Option Credential) : List (String × String) :=
  ((suppliedAt .header binding.parameters arguments).map fun supplied =>
      (supplied.1.wireName, supplied.2.text isPrintable)) ++
    (binding.body.toList.map fun body => ("Content-Type", body.contentType)) ++
    credential.toList.map fun held => (held.header, held.value)

/-- No two names are equal up to case, and every parameter and the body have their own value. -/
structure Unambiguous (isPrintable : Char → Bool) (binding : HttpBinding) (arguments : JsonObject)
    (headers : List (String × String)) : Prop where
  distinct : ((Dict.keys headers).map asciiLower).Nodup
  supplied : ∀ param ∈ binding.parameters, param.location = .header → ∀ value,
    Dict.get? arguments param.arg = some value →
    Dict.get? headers param.wireName = some (value.text isPrintable)
  contentType : ∀ body, binding.body = some body →
    Dict.get? headers "Content-Type" = some body.contentType

/-- Supplied headers of one name agree, and those named like the body's type have it. -/
structure CollisionFree (isPrintable : Char → Bool) (binding : HttpBinding)
    (arguments : JsonObject) : Prop where
  parameters : ∀ first ∈ suppliedAt .header binding.parameters arguments,
    ∀ second ∈ suppliedAt .header binding.parameters arguments,
    asciiLower first.1.wireName = asciiLower second.1.wireName →
    first.1.wireName = second.1.wireName ∧ first.2.text isPrintable = second.2.text isPrintable
  contentType : ∀ body, binding.body = some body →
    ∀ supplied ∈ suppliedAt .header binding.parameters arguments,
    asciiLower supplied.1.wireName = "content-type" →
    supplied.1.wireName = "Content-Type" ∧ supplied.2.text isPrintable = body.contentType

section Assigned

variable {isPrintable : Char → Bool} {binding : HttpBinding} {baseUrl : String}
  {arguments : JsonObject} {credential : Option Credential} {request : PreparedRequest}

/-- The loop over the parameters assigns the supplied headers in order. -/
theorem headers_foldlM_addParameter {parameters : List Parameter} {parts final : RequestParts}
    (ran : parameters.foldlM (addParameter isPrintable arguments) parts = .ok final) :
    final.headers = ((suppliedAt .header parameters arguments).map fun supplied =>
        (supplied.1.wireName, supplied.2.text isPrintable)).foldl
      (fun headers item => Dict.insert headers item.1 item.2) parts.headers := by
  induction parameters generalizing parts with
  | nil =>
      cases ran
      rfl
  | cons param rest ih =>
      rcases foldlM_cons_eq_ok.mp ran with ⟨next, stepped, later⟩
      rw [ih later]
      rcases addParameter_ok stepped with ⟨absent, _, rfl⟩ | ⟨value, given, ends⟩
      · rw [suppliedAt_cons_of_none absent]
      · rcases ends with ⟨inPath, _, rfl⟩ | ⟨inQuery, rfl⟩ | ⟨inHeader, _, rfl⟩
        · rw [suppliedAt_cons_of_ne (by simp [inPath])]
        · rw [suppliedAt_cons_of_ne (by simp [inQuery])]
        · rw [suppliedAt_cons_of_some inHeader given, List.map_cons, List.foldl_cons]

theorem headers_buildRequest
    (built : buildRequest isPrintable binding baseUrl arguments credential = .ok request) :
    request.headers =
      Dict.ofList (headerAssignments isPrintable binding arguments credential) := by
  rcases buildRequest_ok built with ⟨parts, headers, ran, bodyRan, _, headers_eq⟩
  have withBody : headers = Dict.ofList (((suppliedAt .header binding.parameters arguments).map
        fun supplied => (supplied.1.wireName, supplied.2.text isPrintable)) ++
      binding.body.toList.map fun body => ("Content-Type", body.contentType)) := by
    rw [Dict.ofList, List.foldl_append, ← headers_foldlM_addParameter ran]
    cases bodyCase : binding.body with
    | none =>
        simp only [bodyCase, addRequestBody, pure_eq_ok, Prod.mk.injEq] at bodyRan
        rcases bodyRan with ⟨rfl, _⟩
        rfl
    | some body =>
        simp only [bodyCase, addRequestBody, bind_eq_ok, pure_eq_ok, Prod.mk.injEq] at bodyRan
        rcases bodyRan with ⟨_, _, rfl, _⟩
        rfl
  rw [headers_eq, headerAssignments, Dict.ofList, List.foldl_append, ← Dict.ofList, ← withBody]
  cases credential with
  | none => rfl
  | some held => rfl

theorem mem_headerAssignments {item : String × String} :
    item ∈ headerAssignments isPrintable binding arguments credential ↔
      (∃ supplied ∈ suppliedAt .header binding.parameters arguments,
        (supplied.1.wireName, supplied.2.text isPrintable) = item) ∨
      (∃ body, binding.body = some body ∧ ("Content-Type", body.contentType) = item) ∨
      ∃ held, credential = some held ∧ (held.header, held.value) = item := by
  simp only [headerAssignments, List.mem_append, List.mem_map, Option.mem_toList, or_assoc]

/-- A request is unambiguous when its assignments can be read back under distinct names. -/
theorem unambiguous_iff_assignments
    (built : buildRequest isPrintable binding baseUrl arguments credential = .ok request) :
    Unambiguous isPrintable binding arguments request.headers ↔
      ∀ first ∈ headerAssignments isPrintable binding arguments credential,
        ∀ second ∈ headerAssignments isPrintable binding arguments credential,
        asciiLower first.1 = asciiLower second.1 → first = second := by
  rw [← Dict.ofList_unambiguous_iff, ← headers_buildRequest built]
  constructor
  · intro unambiguous
    refine ⟨unambiguous.distinct, ?_⟩
    intro item itemMem
    rcases mem_headerAssignments.mp itemMem with
      ⟨⟨param, value⟩, suppliedMem, rfl⟩ | ⟨body, isBody, rfl⟩ | ⟨held, isHeld, rfl⟩
    · rcases mem_suppliedAt.mp suppliedMem with ⟨⟨paramMem, isHeader⟩, given⟩
      exact unambiguous.supplied param paramMem isHeader value given
    · exact unambiguous.contentType body isBody
    · -- the credential's header is assigned last
      rcases buildRequest_ok built with ⟨_, headers, _, _, _, headers_eq⟩
      rw [headers_eq, isHeld]
      exact Dict.get?_insert_self _ _ _
  · rintro ⟨distinct, readBack⟩
    refine ⟨distinct, ?_, ?_⟩
    · intro param paramMem isHeader value given
      exact readBack _ (mem_headerAssignments.mpr (Or.inl
        ⟨(param, value), mem_suppliedAt.mpr ⟨⟨paramMem, isHeader⟩, given⟩, rfl⟩))
    · intro body isBody
      exact readBack _ (mem_headerAssignments.mpr (Or.inr (Or.inl ⟨body, isBody, rfl⟩)))

/-- A credential whose name nothing else uses takes no part in collisions. -/
theorem assignments_agree_iff
    (apart : ∀ held, credential = some held →
      asciiLower held.header ≠ "content-type" ∧
      ∀ supplied ∈ suppliedAt .header binding.parameters arguments,
        asciiLower held.header ≠ asciiLower supplied.1.wireName) :
    (∀ first ∈ headerAssignments isPrintable binding arguments credential,
        ∀ second ∈ headerAssignments isPrintable binding arguments credential,
        asciiLower first.1 = asciiLower second.1 → first = second) ↔
      CollisionFree isPrintable binding arguments := by
  have lowered : asciiLower "Content-Type" = "content-type" := by decide
  constructor
  · intro agree
    constructor
    · intro first firstMem second secondMem same
      have assigned := agree _ (mem_headerAssignments.mpr (Or.inl ⟨first, firstMem, rfl⟩)) _
        (mem_headerAssignments.mpr (Or.inl ⟨second, secondMem, rfl⟩)) same
      exact Prod.mk.inj assigned
    · intro body isBody supplied suppliedMem same
      have assigned := agree _ (mem_headerAssignments.mpr (Or.inl ⟨supplied, suppliedMem, rfl⟩)) _
        (mem_headerAssignments.mpr (Or.inr (Or.inl ⟨body, isBody, rfl⟩))) (same.trans lowered.symm)
      exact Prod.mk.inj assigned
  · intro free first firstMem second secondMem same
    rcases mem_headerAssignments.mp firstMem with
      ⟨param, paramMem, rfl⟩ | ⟨body, isBody, rfl⟩ | ⟨held, isHeld, rfl⟩ <;>
    rcases mem_headerAssignments.mp secondMem with
      ⟨other, otherMem, rfl⟩ | ⟨otherBody, otherIsBody, rfl⟩ | ⟨otherHeld, otherIsHeld, rfl⟩
    · rcases free.parameters param paramMem other otherMem same with ⟨name_eq, text_eq⟩
      rw [name_eq, text_eq]
    · rcases free.contentType otherBody otherIsBody param paramMem (same.trans lowered) with
        ⟨name_eq, text_eq⟩
      rw [name_eq, text_eq]
    · exact absurd same.symm ((apart otherHeld otherIsHeld).2 param paramMem)
    · rcases free.contentType body isBody other otherMem (same.symm.trans lowered) with
        ⟨name_eq, text_eq⟩
      rw [name_eq, text_eq]
    · rw [isBody, Option.some.injEq] at otherIsBody
      rw [otherIsBody]
    · exact absurd (same.symm.trans lowered) (apart otherHeld otherIsHeld).1
    · exact absurd same ((apart held isHeld).2 other otherMem)
    · exact absurd (same.trans lowered) (apart held isHeld).1
    · rw [isHeld, Option.some.injEq] at otherIsHeld
      rw [otherIsHeld]

end Assigned

/--
The headers of a request are unambiguous exactly when supplied headers of one name
agree and none stands against the type of the body.
-/
theorem buildRequest_unambiguous_iff {unicode : PyUnicode} {config : McpPortalConfig}
    (accepted : checkHeaderDenylist unicode config = .ok ()) {operation : Operation}
    (offered : Offered unicode config operation) {upstream : UpstreamConfig}
    (found : Dict.get? config.upstreams operation.upstream = some upstream)
    {secrets : List (String × String)} {token : String} {credential : Option Credential}
    (obtained : upstreamCredential unicode.isPrintable upstream.outbound secrets token =
      .ok credential)
    (notContentType : ∀ held, credential = some held → asciiLower held.header ≠ "content-type")
    {binding : HttpBinding} (isHttp : operation.binding = .http binding)
    {baseUrl : String} {arguments : JsonObject} {request : PreparedRequest}
    (built : buildRequest unicode.isPrintable binding baseUrl arguments credential =
      .ok request) :
    Unambiguous unicode.isPrintable binding arguments request.headers ↔
      CollisionFree unicode.isPrintable binding arguments := by
  rw [unambiguous_iff_assignments built, assignments_agree_iff]
  intro held isHeld
  refine ⟨notContentType held isHeld, ?_⟩
  rintro ⟨param, value⟩ suppliedMem same
  rcases mem_suppliedAt.mp suppliedMem with ⟨⟨paramMem, isHeader⟩, _⟩
  have allowed := headersAllowed_of_offered accepted offered isHttp param paramMem isHeader
  have denied := isDenylisted_credential found (isHeld ▸ obtained)
  rw [isDenylisted_congr same, allowed] at denied
  cases denied

section Audit

private def auditUpstream : UpstreamConfig where
  baseUrl := some { text := "https://audit.test" }
  outbound :=
    { mode := .static
      header := "X-Api-Key"
      scheme := none
      value := some { text := "$\x7benv:AUDIT_KEY\x7d" }
      staticNeedsAValue := fun _ => Option.some_ne_none _
      dynamicModesNeedEndpointAndClient := staticMode_needs_no_endpoint }
  positive := positive_defaultLimits

private def auditEntry : OperationEntry where
  id := "events"
  upstream := "audit"
  description := "List events"
  binding := .http {
    method := "get"
    path := "/events"
    parameters :=
      [ { arg := "trace", location := .header, wireName := some "X-Trace" },
        { arg := "parent", location := .header, wireName := some "x-trace" } ] }

private def auditConfig : McpPortalConfig where
  mode := .configured
  unsafeModeRequiresAcknowledgement := configured_is_safe
  unauthenticatedHttpIsGuarded := stdio_is_guarded _
  server := { name := "portal" }
  upstreams := [("audit", auditUpstream)]
  operations := [auditEntry]

private def auditBinding : HttpBinding where
  method := "GET"
  path := "/events"
  parameters :=
    [ { arg := "trace"
        location := .header
        wireName := "X-Trace"
        required := false
        schema := [("type", .str "string")] },
      { arg := "parent"
        location := .header
        wireName := "x-trace"
        required := false
        schema := [("type", .str "string")] } ]

private def auditOperation : Operation where
  id := "events"
  upstream := "audit"
  name := ""
  title := "List events"
  description := "List events"
  groupTags := []
  effect := .readOnly
  sensitivity := .normal
  inputSchema :=
    [ ("type", .str "object"),
      ("properties", .obj
        [ ("trace", .obj [("type", .str "string")]), ("parent", .obj [("type", .str "string")]) ]) ]
  binding := .http auditBinding

private theorem offered_audit : Offered asciiTables auditConfig auditOperation :=
  .configured auditEntry List.mem_cons_self rfl

/-- Two parameters that spell one name differently are both sent. -/
theorem buildRequest_doubles_trace :
    checkHeaderDenylist asciiTables auditConfig = .ok () ∧
      Offered asciiTables auditConfig auditOperation ∧
      upstreamCredential asciiTables.isPrintable auditUpstream.outbound
        [("$\x7benv:AUDIT_KEY\x7d", "secret")] "" = .ok (some ⟨"X-Api-Key", "secret"⟩) ∧
      ∃ request, buildRequest asciiTables.isPrintable auditBinding "https://audit.test"
          [("trace", .str "t-1"), ("parent", .str "t-0")] (some ⟨"X-Api-Key", "secret"⟩) =
            .ok request ∧
        request.headers = [("X-Trace", "t-1"), ("x-trace", "t-0"), ("X-Api-Key", "secret")] ∧
        ¬Unambiguous asciiTables.isPrintable auditBinding
          [("trace", .str "t-1"), ("parent", .str "t-0")] request.headers := by
  refine ⟨rfl, offered_audit, rfl, _, rfl, rfl, ?_⟩
  intro unambiguous
  have distinct := unambiguous.distinct
  revert distinct
  decide +kernel

/-- With one of them left out the headers are unambiguous. -/
theorem buildRequest_unambiguous_iff_audit :
    ∃ request, buildRequest asciiTables.isPrintable auditBinding "https://audit.test"
        [("trace", .str "t-1")] (some ⟨"X-Api-Key", "secret"⟩) = .ok request ∧
      Unambiguous asciiTables.isPrintable auditBinding [("trace", .str "t-1")] request.headers := by
  refine ⟨_, rfl, ?_⟩
  apply (buildRequest_unambiguous_iff (rfl : checkHeaderDenylist _ _ = _) offered_audit
    (rfl : _ = some auditUpstream)
    (rfl : upstreamCredential asciiTables.isPrintable auditUpstream.outbound
      [("$\x7benv:AUDIT_KEY\x7d", "secret")] "" = _) ?_ rfl rfl).mpr
  · refine ⟨?_, fun body isBody => nomatch isBody⟩
    intro first firstMem second secondMem _
    rw [List.mem_singleton.mp firstMem, List.mem_singleton.mp secondMem]
    exact ⟨rfl, rfl⟩
  · intro held isHeld
    cases isHeld
    decide

end Audit

end McpPortal
