import McpPortal.Server.ServiceDestinations
import McpPortal.Sources.DeclaredOperations
import McpPortal.Sources.IntrospectionReply
import McpPortal.Sources.LoadedDocument
import McpPortal.Sources.Transcribed

/-!
# What the server sends requests for

The descriptions of the upstreams are read from their documents and schemas. Every request is sent
for an entry of the configuration, or for an operation that the description of its own upstream
declares, with the declared method and below the declared path.
-/

namespace McpPortal

open Foundation

/-- What reading the descriptions of the upstreams relies on. -/
structure Reading where
  acceptsNetloc : List Char → Bool
  outside : Outside
  graphql : Fetched.GraphQlOutside
  baseDir : PurePath
  refDepth : Nat
  selectionDepth : Nat

section Reading

variable (unicode : PyUnicode) (reading : Reading)

/-- The upstream is described by a document, which has been loaded. -/
structure LoadsDocument (upstream : UpstreamConfig) (openapi : OpenApiIntrospectionConfig)
    (loaded : LoadedDocument) : Prop where
  described : ∃ introspection, upstream.introspection = some introspection ∧
    introspection.openapi = some openapi
  loads : (loadDocument unicode reading.acceptsNetloc reading.outside reading.refDepth openapi
    reading.baseDir (upstream.baseUrl.map (·.text))).result = .ok loaded

/-- The upstream is described by a schema, which has been fetched. -/
structure LoadsSchema (upstream : UpstreamConfig) (graphql : GraphQlIntrospectionConfig)
    (schema : IntrospectedSchema) : Prop where
  described : ∃ introspection, upstream.introspection = some introspection ∧
    introspection.graphql = some graphql
  loads : Fetched.fetchSchema reading.graphql graphql.url.text = .ok schema.unchecked

/-- The descriptions are what is read, where the names of a document are texts. -/
structure Descriptions.ReadBy (descriptions : Descriptions) (config : McpPortalConfig) : Prop where
  document : ∀ {key upstream introspection openapi described operations},
    (key, upstream) ∈ config.upstreams → upstream.introspection = some introspection →
    introspection.openapi = some openapi →
    descriptions.document key openapi (upstream.baseUrl.map (·.text)) = .ok described →
    described.operations = .ok operations →
    ∃ loaded yielded, LoadsDocument unicode reading upstream openapi loaded ∧
      loaded.baseUrl = .str described.baseUrl ∧
      Unchecked.operations unicode key (credentialHeadersFor unicode config)
        openapi.includeDeprecated loaded.document = .ok yielded ∧
      List.Forall₂ (fun operation located => operation.Checks located.2) operations yielded
  schema : ∀ {key upstream introspection graphql operations},
    (key, upstream) ∈ config.upstreams → upstream.introspection = some introspection →
    introspection.graphql = some graphql → descriptions.schema key graphql = .ok operations →
    ∃ schema, LoadsSchema reading upstream graphql schema ∧
      GraphQlSource.operations key schema graphql.typePolicy reading.selectionDepth =
        .ok operations

/-- The description of the upstream declares an operation of this id and this binding; for a document
the declaration has the id. -/
inductive Described (config : McpPortalConfig) (key : String) (upstream : UpstreamConfig)
    (id : String) (binding : Binding) : Prop
  | document {openapi : OpenApiIntrospectionConfig} {loaded : LoadedDocument}
      {declaration : Unchecked.Declaration} {unchecked : Unchecked.Operation} {own : HttpBinding}
      (loads : LoadsDocument unicode reading upstream openapi loaded)
      (stands : declaration.StandsIn unicode loaded.document)
      (offers : declaration.Offers unicode (credentialHeadersFor unicode config)
        openapi.includeDeprecated unchecked)
      (sameId : unchecked.id = .str id) (isHttp : binding = .http own)
      (sameBinding : unchecked.binding = own.unchecked) :
      Described config key upstream id binding
  | schema {graphql : GraphQlIntrospectionConfig} {schema : IntrospectedSchema}
      {operationType : GraphQlOperationType} {field : FieldInfo} {operation : Operation}
      (loads : LoadsSchema reading upstream graphql schema)
      (isRoot : (operationType, field) ∈ GraphQlSource.allRootFields schema)
      (builds : GraphQlSource.build key schema graphql.typePolicy reading.selectionDepth
        operationType field = .ok (some operation))
      (sameId : operation.id = id) (sameBinding : operation.binding = binding) :
      Described config key upstream id binding

end Reading

section Introspected

variable {unicode : PyUnicode} {reading : Reading} {descriptions : Descriptions}
  {config : McpPortalConfig}

theorem GraphQlSource.exists_root_of_mem {upstreamKey : String} {schema : IntrospectedSchema}
    {typePolicy : List (String × List String)} {depth : Nat} {operations : List Operation}
    (ran : GraphQlSource.operations upstreamKey schema typePolicy depth = .ok operations)
    {operation : Operation} (operationMem : operation ∈ operations) :
    ∃ rootField ∈ allRootFields schema, GraphQlSource.build upstreamKey schema typePolicy depth
      rootField.1 rootField.2 = .ok (some operation) := by
  simp only [GraphQlSource.operations, bind_eq_ok, pure_eq_ok] at ran
  rcases ran with ⟨built, builds, rfl⟩
  rcases List.mem_filterMap.mp operationMem with ⟨_, builtMem, rfl⟩
  exact mem_of_mapM_eq_ok builds builtMem

theorem GraphQlSource.upstream_of_build {upstreamKey : String} {schema : IntrospectedSchema}
    {typePolicy : List (String × List String)} {depth : Nat} {operationType : GraphQlOperationType}
    {field : FieldInfo} {operation : Operation}
    (ran : GraphQlSource.build upstreamKey schema typePolicy depth operationType field =
      .ok (some operation)) : operation.upstream = upstreamKey := by
  simp only [GraphQlSource.build, bind_eq_ok] at ran
  rcases ran with ⟨returnType, _, ran⟩
  split at ran
  case h_1 => cases ran
  case h_2 => cases ran
  case h_3 selection _ =>
    rcases map_eq_ok.mp ran with ⟨own, ran, same⟩
    cases same
    simp only [operationOf, bind_eq_ok, pure_eq_ok] at ran
    rcases ran with ⟨_, _, _, _, _, _, rfl⟩
    rfl

/-- One turn of the loop offers what the description of the upstream declares. -/
theorem described_of_introspected (reads : descriptions.ReadBy unicode reading config)
    {key : String} {upstream : UpstreamConfig} (upstreamMem : (key, upstream) ∈ config.upstreams)
    {offered : String × List Operation}
    (introspected : introspectUpstream unicode descriptions key upstream = .ok offered)
    {operation : Operation} (operationMem : operation ∈ offered.2) :
    operation.upstream = key ∧
      Described unicode reading config key upstream operation.id operation.binding := by
  unfold introspectUpstream at introspected
  dsimp only at introspected
  cases isIntrospection : upstream.introspection with
  | none =>
      rw [isIntrospection] at introspected
      cases introspected
      cases operationMem
  | some introspection =>
      rw [isIntrospection] at introspected
      dsimp only at introspected
      split at introspected
      case h_1 _ _ openapi isOpenapi =>
        simp only [bind_eq_ok] at introspected
        rcases introspected with ⟨document, isDocument, rest⟩
        split at rest
        case isTrue => cases rest
        case isFalse =>
          simp only [bind_eq_ok, pure_eq_ok] at rest
          rcases rest with ⟨operations, built, rfl⟩
          rcases reads.document upstreamMem isIntrospection isOpenapi isDocument built with
            ⟨loaded, yielded, loads, _, ran, checks⟩
          rcases exists_right_of_forall₂ checks operationMem with ⟨located, locatedMem, same⟩
          rcases Unchecked.declared_of_operations ran locatedMem with
            ⟨declaration, stands, _, offers⟩
          rcases same.binding with ⟨own, isHttp, sameBinding⟩
          refine ⟨?_, .document loads stands offers same.id isHttp sameBinding⟩
          rw [← same.upstream]
          exact Unchecked.upstream_of_operations ran locatedMem
      case h_2 _ _ graphql isOpenapi isGraphql =>
        simp only [bind_eq_ok, pure_eq_ok] at introspected
        rcases introspected with ⟨operations, ran, rfl⟩
        rcases reads.schema upstreamMem isIntrospection isGraphql ran with ⟨schema, loads, built⟩
        rcases GraphQlSource.exists_root_of_mem built operationMem with ⟨rootField, isRoot, builds⟩
        exact ⟨GraphQlSource.upstream_of_build builds, .schema loads isRoot builds rfl rfl⟩
      case h_3 => cases introspected

theorem described_of_offered (reads : descriptions.ReadBy unicode reading config)
    {introspected : Introspected}
    (offered : introspectedOperations (introspectUpstreams unicode descriptions) config =
      .ok introspected) {operation : Operation}
    (operationMem : operation ∈ introspected.operations) :
    ∃ upstream, (operation.upstream, upstream) ∈ config.upstreams ∧
      Described unicode reading config operation.upstream upstream operation.id
        operation.binding := by
  unfold introspectedOperations at offered
  split at offered
  case isTrue =>
    cases offered
    cases operationMem
  case isFalse =>
    simp only [introspectUpstreams, bind_eq_ok, pure_eq_ok] at offered
    rcases offered with ⟨described, made, rfl⟩
    rcases List.mem_flatMap.mp operationMem with ⟨entry, entryMem, operationMem⟩
    rcases mem_of_mapM_eq_ok made entryMem with ⟨⟨key, upstream⟩, upstreamMem, introspects⟩
    simp only [bind_eq_ok, pure_eq_ok] at introspects
    rcases introspects with ⟨_, introspects, rfl⟩
    rcases described_of_introspected reads upstreamMem introspects operationMem with
      ⟨rfl, described⟩
    exact ⟨upstream, upstreamMem, described⟩

/-- An entry of the configuration, or the description of the upstream, has the operation. -/
inductive Originates (unicode : PyUnicode) (reading : Reading) (config : McpPortalConfig)
    (operation : Operation) : Prop
  | entry {entry : OperationEntry} (entryMem : entry ∈ config.operations)
      (sameId : operation.id = entry.id) (sameUpstream : operation.upstream = entry.upstream) :
      Originates unicode reading config operation
  | description {upstream : UpstreamConfig}
      (upstreamMem : (operation.upstream, upstream) ∈ config.upstreams)
      (described : Described unicode reading config operation.upstream upstream operation.id
        operation.binding) : Originates unicode reading config operation

theorem originates_of_published {suffix : String → String} {loaded : LoadedConfig} {app : App}
    (reads : descriptions.ReadBy unicode reading loaded.config)
    (built : buildApp unicode suffix (introspectUpstreams unicode descriptions) loaded = .ok app)
    {operation : Operation} (published : operation ∈ app.invoker.toolset.operations) :
    Originates unicode reading loaded.config operation := by
  rcases buildApp_ok built with ⟨_, _, introspected, explicit, offered, explicitBuilt, loadedTools⟩
  rcases loadToolset_ok loadedTools with ⟨operations, merged, toolsetBuilt⟩
  rcases buildToolset_offered toolsetBuilt operation published with ⟨own, ownMem, _, _, _, rfl⟩
  rcases (mem_mergeOperations merged).mp ownMem with ownMem | ⟨ownMem, _⟩
  · rcases ExplicitSource.mem_operations explicitBuilt ownMem with ⟨entry, entryMem, fromEntry⟩
    rcases ExplicitSource.build_ok fromEntry with ⟨sameId, sameUpstream, _⟩
    exact .entry entryMem sameId sameUpstream
  · rcases described_of_offered reads offered ownMem with ⟨upstream, upstreamMem, described⟩
    exact .description upstreamMem described

end Introspected

/-- The request has the method of the binding, and goes to its filled path below the base URL, which
nothing follows but an encoded query. -/
structure Follows (isPrintable : Char → Bool) (binding : HttpBinding) (baseUrl : String)
    (arguments : JsonObject) (request : PreparedRequest) : Prop where
  method : request.method = binding.method
  url : ∃ query, request.url.toList = baseUrl.toList.rdropWhile (· = '/') ++ '/' ::
      (Text.fillAll (pathTexts isPrintable binding.parameters arguments)
        (binding.path.toList.dropWhile (· = '/')) ++ query) ∧
    (query = [] ∨ ∃ pairs, query = '?' :: (urlencode pairs).toList)

theorem follows_of_operationRequest {isPrintable : Char → Bool} {operation : Operation}
    {baseUrl : String} {arguments : JsonObject} {credential : Option Credential}
    {request : PreparedRequest}
    (built : operationRequest isPrintable operation baseUrl arguments credential = .ok request)
    {binding : HttpBinding} (isHttp : operation.binding = .http binding) :
    Follows isPrintable binding baseUrl arguments request := by
  unfold operationRequest at built
  rw [isHttp] at built
  rcases url_buildRequest built with ⟨parts, query, _, isUrl, isQuery⟩
  refine ⟨?_, query, isUrl, isQuery.imp And.right fun encoded => ⟨parts.query, encoded⟩⟩
  simp only [buildRequest, bind_eq_ok, pure_eq_ok] at built
  rcases built with ⟨_, _, _, _, rfl⟩
  rfl

namespace Service

variable {Key : Type} {portal : Portal Key}

/--
Every request that is sent, in any run, is sent for an entry of the configuration or for an
operation that the description of its upstream declares. It has the method of the operation, and
goes to its path, filled with the arguments, below the base URL of its upstream.
-/
theorem sent_declared_of_reached {suffix : String → String} {descriptions : Descriptions}
    {reading : Reading} {state : State}
    (reads : descriptions.ReadBy portal.unicode reading portal.loaded.config)
    (built : buildApp portal.unicode suffix (introspectUpstreams portal.unicode descriptions)
      portal.loaded = .ok portal.app)
    (reached : (machine portal).Reached state) {sent : Sent} (sentMem : sent ∈ state.sent) :
    Originates portal.unicode reading portal.loaded.config sent.job.execution.operation ∧
      ∃ introspected, introspectedOperations (introspectUpstreams portal.unicode descriptions)
          portal.loaded.config = .ok introspected ∧
        ∀ binding, sent.job.execution.operation.binding = .http binding →
          Follows portal.isPrintable binding
            (introspected.resolvedBaseUrl sent.job.execution.operation.upstream)
            sent.job.execution.arguments sent.request := by
  have coherent := coherent_of_reached reached
  have justified := coherent.justified sent sentMem
  have cleared := justified.assigned.cleared built
  rcases cleared.cleared with ⟨_, _, _, _, _, found⟩
  rcases buildApp_wired built found with ⟨introspected, _, offered, _, wired⟩
  refine ⟨originates_of_published reads built cleared.published, introspected, offered, ?_⟩
  intro binding isHttp
  have isRequest := justified.built
  rw [wired.toBaseUrl] at isRequest
  exact follows_of_operationRequest isRequest isHttp

section Notes

open Documented

private def noteDocument : JsonObject :=
  [ ("openapi", .str "3.1.0"),
    ("servers", .arr [.obj [("url", .str "https://notes.example/v1")]]),
    ("paths", .obj [
      ("/notes", .obj [
        ("get", .obj [("operationId", .str "list")]),
        ("post", .obj [("operationId", .str "add")])])]) ]

private def noteRaw (id method : String) : RawOperation where
  method := method
  path := "/notes"
  operationId := some id

private def noteRaws : List RawOperation :=
  [noteRaw "list" "get", noteRaw "add" "post"]

private theorem extracted_notes :
    Unchecked.extractRawOperations asciiTables false noteDocument =
      .ok (noteRaws.map (·.unchecked)) := rfl

/-- Every file is the document of the notes, and no upstream answers. -/
private def noteReading : Reading where
  acceptsNetloc _ := true
  outside :=
    { client := { parsesUrl := fun _ => false, get := fun _ => .error "" }
      files := { resolve := fun path => some path, readText := fun _ => .ok "" }
      parsers :=
        { yaml := fun _ => .ok (.obj noteDocument)
          readFloat := fun text => { value := 0, repr := text }
          jsonError := fun _ => "" } }
  graphql :=
    { post := fun _ _ => .error ""
      readFloat := fun text => { value := 0, repr := text }
      jsonError := fun _ => "" }
  baseDir := PurePath.ofText "/etc/portal"
  refDepth := 3
  selectionDepth := 10

private def readDescriptions : Descriptions where
  document _ _ _ := return {
    baseUrl := "https://notes.example/v1"
    operations := ((noteRaws.mapM (OpenApiSource.build asciiTables "notes"
      (credentialHeadersFor asciiTables notes.config))).map List.reduceOption).mapError
        fun _ => .assertionError }
  schema _ _ := return []

private theorem readBy_notes :
    readDescriptions.ReadBy asciiTables noteReading notes.config where
  document := by
    intro key upstream introspection openapi described operations upstreamMem isIntrospection
      isOpenapi isDescribed ran
    cases List.mem_singleton.mp upstreamMem
    cases isIntrospection
    cases isOpenapi
    cases isDescribed
    dsimp only at ran
    rcases map_eq_ok.mp (mapError_eq_ok.mp ran) with ⟨built, builds, rfl⟩
    have plain : ∀ raw ∈ noteRaws, ∀ body ∈ (raw.binding asciiTables).body, body.IsPlain := by
      intro raw rawMem body isBody
      simp only [noteRaws, List.mem_cons, List.not_mem_nil, or_false] at rawMem
      rcases rawMem with rfl | rfl <;> cases isBody
    rcases operations_of_checked extracted_notes plain builds with ⟨yielded, ran, checks⟩
    exact ⟨_, yielded, ⟨⟨_, rfl, rfl⟩, rfl⟩, rfl, ran, checks⟩
  schema := by
    intro key upstream introspection graphql operations upstreamMem isIntrospection isGraphql
    cases List.mem_singleton.mp upstreamMem
    cases isIntrospection
    cases isGraphql

private def readApp : Loading App :=
  buildApp asciiTables (fun _ => "333333") (introspectUpstreams asciiTables readDescriptions) notes

/-- The read that is sent is the one that the document declares. -/
theorem sent_declared_of_reached_notes :
    ∃ app state, readApp = .ok app ∧ notesRun app = some state ∧ sentUrls state = onlyRead ∧
      ∀ sent ∈ state.sent, Originates asciiTables noteReading notes.config
        sent.job.execution.operation := by
  rcases exists_run_of_sees (by decide +kernel :
    (readApp.toOption.bind fun app => (notesRun app).map sentUrls) = some onlyRead) with
      ⟨app, state, built, ran, isSeen⟩
  have reached : (machine (notesPortal app)).Reached state :=
    Machine.reachedWithin_of_run (fun _ _ _ => trivial) .start ran
  refine ⟨app, state, built, ran, isSeen, ?_⟩
  intro sent sentMem
  have declared := @sent_declared_of_reached _ (notesPortal app) _ _ noteReading state readBy_notes
    built reached sent sentMem
  exact declared.1

end Notes

end Service

end McpPortal
