import McpPortal.Sources.CheckedRecords
import McpPortal.Sources.Explicit
import McpPortal.Sources.Isolation

/-!
# Operations that are written down from a document

The operations of a document can be written down as entries of a configuration. The results are about
documents that exclude no record and name no denylisted header: entries know neither rule. Both
sources flatten and classify the same bindings, so they offer the same operations. They differ in
what becomes of a binding that cannot be flattened: its entry is refused, and its record is skipped.
-/

namespace McpPortal

open Foundation

/-- The entry says what the record of an operation says. The record is not excluded, and no header of
it is denylisted. -/
structure Transcribes (unicode : PyUnicode) (upstreamKey : String) (credentialHeaders : List String)
    (entry : OperationEntry) (raw : RawOperation) : Prop where
  included : raw.flag "x-mcp-exclude" = false
  allowed : ∀ parameter ∈ (raw.binding unicode).parameters, parameter.location = .header →
    isDenylisted unicode parameter.wireName credentialHeaders = false
  plain : ∀ body ∈ (raw.binding unicode).body, body.IsPlain
  id : entry.id = raw.id unicode
  upstream : entry.upstream = upstreamKey
  name : raw.nameOverride unicode = .ok ((entry.name.map (·.text)).getD "")
  title : strOf unicode.isPrintable (raw.titledBy unicode entry.description) =
    (.ok (textOr entry.title (firstLine entry.description entry.id)) : Flatten String)
  description : strOf unicode.isPrintable (raw.describedBy unicode) =
    (.ok entry.description : Flatten String)
  groupTags : entry.groupTags = raw.tags
  effect : entry.effect = none
  sensitivity : entry.sensitivity.getD .normal =
    if raw.flag "x-mcp-sensitive" then .sensitive else .normal
  binding : ∃ own, entry.binding = .http own ∧ own.httpBinding unicode = raw.binding unicode

/-- What becomes of one operation in the document, and as an entry. -/
inductive Treated (unicode : PyUnicode) (id : String) (binding : HttpBinding) {Item Problem : Type}
    (alike : Item → Operation → Prop) :
    Except Problem (Option Item) → Except (PyException ConfigError) (Option Operation) → Prop
  | built {item : Item} {operation : Operation} (same : alike item operation) :
      Treated unicode id binding alike (.ok (some item)) (.ok (some operation))
  | dropped : Treated unicode id binding alike (.ok none) (.ok none)
  | refused {problem : FlattenError} (fails : flattenBinding binding = .error (.raised problem)) :
      Treated unicode id binding alike (.ok none)
        (.error (.raised (entryError unicode id problem)))
  | ended (problem : Problem) (error : PyException ConfigError) :
      Treated unicode id binding alike (.error problem) (.error error)

section One

variable {unicode : PyUnicode} {upstreamKey : String} {credentialHeaders : List String}
  {entry : OperationEntry} {raw : RawOperation}

/-- The entry becomes the operation that the record becomes. -/
theorem Transcribes.operation_eq
    (transcribes : Transcribes unicode upstreamKey credentialHeaders entry raw)
    (derivedEffect : Effect) (resolved : HttpBinding) (inputSchema : JsonObject) :
    raw.operation unicode upstreamKey derivedEffect resolved inputSchema =
      .ok (entry.operation derivedEffect inputSchema (.http resolved)) := by
  rw [RawOperation.operation_eq_ok]
  refine ⟨_, _, _, transcribes.description, transcribes.title, transcribes.name, ?_⟩
  unfold OperationEntry.operation
  rw [transcribes.id, transcribes.upstream, transcribes.groupTags, transcribes.effect,
    transcribes.sensitivity]
  rfl

theorem Transcribes.not_denylisted
    (transcribes : Transcribes unicode upstreamKey credentialHeaders entry raw) :
    (raw.binding unicode).parameters.any (fun param => param.location = .header &&
      isDenylisted unicode param.wireName credentialHeaders) = false := by
  rw [List.any_eq_false]
  intro parameter parameterMem
  rw [Bool.and_eq_true, decide_eq_true_eq, not_and, Bool.not_eq_true]
  exact transcribes.allowed parameter parameterMem

/-- The checked record, and its entry. -/
theorem Transcribes.treated_checked
    (transcribes : Transcribes unicode upstreamKey credentialHeaders entry raw) :
    Treated unicode entry.id (raw.binding unicode) Eq
      (OpenApiSource.build unicode upstreamKey credentialHeaders raw)
      (ExplicitSource.build unicode entry) := by
  rcases transcribes.binding with ⟨own, isHttp, sameBinding⟩
  unfold OpenApiSource.build ExplicitSource.build
  rw [isHttp]
  unfold buildHttpEntry
  dsimp only
  rw [if_neg (by simp [transcribes.included]), sameBinding,
    if_neg (by simp [transcribes.not_denylisted])]
  cases effectForMethod unicode (raw.binding unicode).method with
  | error _ => exact .dropped
  | ok derivedEffect =>
      cases flattened : flattenBinding (raw.binding unicode) with
      | ok resolved =>
          change Treated _ _ _ _ (some <$> raw.operation unicode upstreamKey derivedEffect
            resolved.1 resolved.2) _
          rw [transcribes.operation_eq derivedEffect resolved.1 resolved.2]
          exact .built rfl
      | error error =>
          cases error with
          | raised problem => exact .refused flattened
          | typeError => exact .ended _ _
          | valueError => exact .ended _ _
          | attributeError => exact .ended _ _
          | keyError => exact .ended _ _
          | indexError => exact .ended _ _
          | assertionError => exact .ended _ _

/-- The record as the document has it, and its entry. -/
theorem Transcribes.treated
    (transcribes : Transcribes unicode upstreamKey credentialHeaders entry raw) :
    Treated unicode entry.id (raw.binding unicode)
      (fun unchecked operation => operation.Checks unchecked)
      (Unchecked.build unicode upstreamKey credentialHeaders raw.unchecked)
      (ExplicitSource.build unicode entry) := by
  have checked := transcribes.treated_checked
  rcases (alongside_build transcribes.plain upstreamKey credentialHeaders).outcomes with
    ⟨error, isLeft, isRight⟩ | ⟨found, foundToo, isLeft, isRight, same⟩
  · rw [isLeft]
    rw [isRight] at checked
    generalize ExplicitSource.build unicode entry = explicit at checked
    cases checked with
    | ended _ error => exact .ended _ error
  · rw [isLeft]
    rw [isRight] at checked
    generalize ExplicitSource.build unicode entry = explicit at checked
    cases same with
    | none =>
        cases checked with
        | dropped => exact .dropped
        | refused fails => exact .refused fails
    | some checks =>
        cases checked with
        | built same => exact .built (same ▸ checks)

end One

section Whole

variable {unicode : PyUnicode} {upstreamKey : String} {credentialHeaders : List String}
  {includeDeprecated : Bool} {document : JsonObject} {config : McpPortalConfig}
  {entries : List OperationEntry} {raws : List RawOperation}

/-- What a record comes to in a load, with the place where it is found. -/
def foundAt (unicode : PyUnicode) (upstreamKey : String) (credentialHeaders : List String)
    (raw : RawOperation) : Unchecked.Flatten (Option Unchecked.Located) :=
  (Unchecked.build unicode upstreamKey credentialHeaders raw.unchecked).map
    (Unchecked.locate raw.unchecked)

theorem foundAt_of_build {raw : RawOperation} {built : Option Unchecked.Operation}
    (builds : Unchecked.build unicode upstreamKey credentialHeaders raw.unchecked = .ok built) :
    foundAt unicode upstreamKey credentialHeaders raw =
      .ok (Unchecked.locate raw.unchecked built) := by
  rw [foundAt, builds]
  rfl

/-- Where each record comes to what its own operation is, so do all of them. -/
theorem exists_found_of_alike {built : List (Option Operation)}
    (alike : List.Forall₂ (fun raw own => ∃ item,
      Unchecked.build unicode upstreamKey credentialHeaders raw.unchecked = .ok item ∧
      Option.Rel (fun unchecked operation => operation.Checks unchecked) item own) raws built) :
    ∃ found, List.Forall₂ (fun raw own => foundAt unicode upstreamKey credentialHeaders raw =
        .ok own) raws found ∧
      List.Forall₂ (fun operation located => operation.Checks located.2) built.reduceOption
        found.reduceOption := by
  induction alike with
  | nil => exact ⟨[], .nil, .nil⟩
  | @cons raw _ _ _ isAlike _ ih =>
      rcases ih with ⟨found, finds, checks⟩
      rcases isAlike with ⟨item, isFound, same⟩
      refine ⟨Unchecked.locate raw.unchecked item :: found,
        .cons (foundAt_of_build isFound) finds, ?_⟩
      cases same with
      | none => exact checks
      | some same => exact .cons same checks

/-- Where the checked record is built, the record of the document is. -/
theorem exists_alike_of_checked {raw : RawOperation} {own : Option Operation}
    (plain : ∀ body ∈ (raw.binding unicode).body, body.IsPlain)
    (isBuilt : OpenApiSource.build unicode upstreamKey credentialHeaders raw = .ok own) :
    ∃ item, Unchecked.build unicode upstreamKey credentialHeaders raw.unchecked = .ok item ∧
      Option.Rel (fun unchecked operation => operation.Checks unchecked) item own := by
  rcases (alongside_build plain upstreamKey credentialHeaders).outcomes with
    ⟨error, _, failed⟩ | ⟨item, ownToo, isFound, isOwn, same⟩
  · cases isBuilt.symm.trans failed
  · cases isBuilt.symm.trans isOwn
    exact ⟨item, isFound, same⟩

/-- Where the entry is built, its record is, or is dropped as the entry is. -/
theorem Transcribes.exists_alike {entry : OperationEntry} {raw : RawOperation}
    {own : Option Operation}
    (transcribes : Transcribes unicode upstreamKey credentialHeaders entry raw)
    (isBuilt : ExplicitSource.build unicode entry = .ok own) :
    ∃ item, Unchecked.build unicode upstreamKey credentialHeaders raw.unchecked = .ok item ∧
      Option.Rel (fun unchecked operation => operation.Checks unchecked) item own := by
  have treated := transcribes.treated
  rw [isBuilt] at treated
  generalize isFound :
    Unchecked.build unicode upstreamKey credentialHeaders raw.unchecked = result at treated
  cases treated with
  | built same => exact ⟨_, rfl, .some same⟩
  | dropped => exact ⟨none, rfl, .none⟩

/-- Where every entry is built, each record has the outcome of its own entry. -/
theorem exists_alike_of_built
    (transcribed : List.Forall₂ (Transcribes unicode upstreamKey credentialHeaders) entries raws)
    {built : List (Option Operation)}
    (builds : List.Forall₂ (fun entry own => ExplicitSource.build unicode entry = .ok own)
      entries built) :
    List.Forall₂ (fun raw own => ∃ item,
      Unchecked.build unicode upstreamKey credentialHeaders raw.unchecked = .ok item ∧
      Option.Rel (fun unchecked operation => operation.Checks unchecked) item own) raws built := by
  induction transcribed generalizing built with
  | nil =>
      cases builds
      exact .nil
  | cons transcribes _ ih =>
      cases builds with
      | cons isBuilt later => exact .cons (transcribes.exists_alike isBuilt) (ih later)

theorem operations_extracted_iff
    (extracted : Unchecked.extractRawOperations unicode includeDeprecated document =
      .ok (raws.map (·.unchecked))) {found : List Unchecked.Located} :
    Unchecked.operations unicode upstreamKey credentialHeaders includeDeprecated document =
        .ok found ↔
      ∃ each, List.Forall₂ (fun raw own => foundAt unicode upstreamKey credentialHeaders raw =
          .ok own) raws each ∧ each.reduceOption = found := by
  simp only [Unchecked.operations, extracted, bind_eq_ok, mapError_eq_ok, pure_eq_ok,
    Except.ok.injEq, exists_eq_left', mapM_eq_ok_iff_forall₂, List.forall₂_map_left_iff]
  rfl

/-- What is built of the checked records is what the document yields. -/
theorem operations_of_checked
    (extracted : Unchecked.extractRawOperations unicode includeDeprecated document =
      .ok (raws.map (·.unchecked)))
    (plain : ∀ raw ∈ raws, ∀ body ∈ (raw.binding unicode).body, body.IsPlain)
    {built : List (Option Operation)}
    (builds : raws.mapM (OpenApiSource.build unicode upstreamKey credentialHeaders) = .ok built) :
    ∃ yielded, Unchecked.operations unicode upstreamKey credentialHeaders includeDeprecated
        document = .ok yielded ∧
      List.Forall₂ (fun operation located => operation.Checks located.2) built.reduceOption
        yielded := by
  have each := (List.forall₂_and_left _ _).mpr ⟨plain, mapM_eq_ok_iff_forall₂.mp builds⟩
  have alike := each.imp fun _ _ own => exists_alike_of_checked own.1 own.2
  rcases exists_found_of_alike alike with ⟨found, finds, checks⟩
  exact ⟨found.reduceOption, (operations_extracted_iff extracted).mpr ⟨found, finds, rfl⟩, checks⟩

/--
A document and a configuration that was written down from it offer the same operations if the
configuration can be served. If the document can be loaded and the configuration is refused, then
it is for an entry whose record is skipped, and for the reason why it is.
-/
theorem offers_transcribed
    (extracted : Unchecked.extractRawOperations unicode includeDeprecated document =
      .ok (raws.map (·.unchecked)))
    (transcribed : List.Forall₂ (Transcribes unicode upstreamKey credentialHeaders)
      config.operations raws) :
    (∀ operations, ExplicitSource.operations unicode config = .ok operations →
      ∃ found, Unchecked.operations unicode upstreamKey credentialHeaders includeDeprecated
          document = .ok found ∧
        List.Forall₂ (fun operation located => operation.Checks located.2) operations found) ∧
    ∀ found error, Unchecked.operations unicode upstreamKey credentialHeaders includeDeprecated
          document = .ok found → ExplicitSource.operations unicode config = .error error →
      ∃ entry ∈ config.operations, ∃ raw ∈ raws, ∃ problem,
        Transcribes unicode upstreamKey credentialHeaders entry raw ∧
        flattenBinding (raw.binding unicode) = .error (.raised problem) ∧
        Unchecked.build unicode upstreamKey credentialHeaders raw.unchecked = .ok none ∧
        error = .raised (entryError unicode entry.id problem) := by
  simp only [operations_extracted_iff extracted]
  constructor
  · intro operations ran
    simp only [ExplicitSource.operations, bind_eq_ok, pure_eq_ok] at ran
    rcases ran with ⟨built, builds, rfl⟩
    have alike := exists_alike_of_built transcribed (mapM_eq_ok_iff_forall₂.mp builds)
    rcases exists_found_of_alike alike with ⟨found, finds, checks⟩
    exact ⟨found.reduceOption, ⟨found, finds, rfl⟩, checks⟩
  · rintro found error ⟨each, finds, _⟩ failed
    have refusal : ∃ entry ∈ config.operations,
        ExplicitSource.build unicode entry = .error error := by
      simp only [ExplicitSource.operations, bind_eq_error, pure_ne_error, and_false, exists_false,
        or_false] at failed
      exact mapM_eq_error failed
    rcases refusal with ⟨entry, entryMem, isRefused⟩
    rcases exists_right_of_forall₂ transcribed entryMem with ⟨raw, rawMem, transcribes⟩
    rcases exists_right_of_forall₂ finds rawMem with ⟨own, _, isFound⟩
    rcases map_eq_ok.mp isFound with ⟨outcome, isBuilt, _⟩
    have treated := transcribes.treated
    rw [isBuilt, isRefused] at treated
    generalize isError : error = problem at treated
    cases treated with
    | refused fails =>
        exact ⟨entry, entryMem, raw, rawMem, _, transcribes, fails, isBuilt, rfl⟩

end Whole

section Shelf

/-- A path that holds a placeholder for which there is no parameter. -/
private def shelfPath : String := "/shelves/\x7bshelf\x7d"

private def shelfDocument (paths : List String) : JsonObject :=
  [("paths", .obj (paths.map fun path => (path, .obj [("get", .obj [])])))]

private def shelfRaw (path : String) : RawOperation where
  method := "get"
  path := path

private def shelfEntry (path : String) : OperationEntry where
  id := (shelfRaw path).id asciiTables
  upstream := "library"
  description := (shelfRaw path).id asciiTables
  binding := .http { method := "get", path }

private def shelfUpstream : UpstreamConfig where
  baseUrl := some { text := "https://library.test" }
  positive := positive_defaultLimits

private def shelfConfig (paths : List String) : McpPortalConfig where
  mode := .configured
  unsafeModeRequiresAcknowledgement := configured_is_safe
  unauthenticatedHttpIsGuarded := stdio_is_guarded _
  server := { name := "portal" }
  upstreams := [("library", shelfUpstream)]
  operations := paths.map shelfEntry
  operationsReferenceKnownUpstreams := by
    intro entry entryMem
    rcases List.mem_map.mp entryMem with ⟨_, _, rfl⟩
    exact List.mem_singleton_self _

/-- An entry whose id is its description has the title that its record has. -/
private theorem transcribes_shelf (path : String) :
    Transcribes asciiTables "library" [] (shelfEntry path) (shelfRaw path) where
  included := rfl
  allowed := by
    intro _ parameterMem
    cases parameterMem
  plain := by
    intro _ isBody
    cases isBody
  id := rfl
  upstream := rfl
  name := by
    change Except.ok (if isToolName "" = true then "" else "") = _
    rw [ite_self]
    rfl
  title := rfl
  description := rfl
  groupTags := rfl
  effect := rfl
  sensitivity := rfl
  binding := ⟨_, rfl, rfl⟩

/-- The books are offered by both. The shelf is skipped by the document, and its entry refused. -/
theorem offers_transcribed_shelf :
    (∃ operations found,
      ExplicitSource.operations asciiTables (shelfConfig ["/books"]) = .ok operations ∧
      Unchecked.operations asciiTables "library" [] false (shelfDocument ["/books"]) = .ok found ∧
      List.Forall₂ (fun operation located => operation.Checks located.2) operations found ∧
      operations.map (·.id) = ["get_books"]) ∧
    ∃ found error,
      Unchecked.operations asciiTables "library" [] false (shelfDocument [shelfPath]) = .ok found ∧
      ExplicitSource.operations asciiTables (shelfConfig [shelfPath]) = .error error ∧
      found = [] ∧ ∃ problem, error = .raised (entryError asciiTables
        ((shelfRaw shelfPath).id asciiTables) problem) := by
  have books := @offers_transcribed asciiTables "library" [] false (shelfDocument ["/books"])
    (shelfConfig ["/books"]) [shelfRaw "/books"] rfl
    (.cons (transcribes_shelf _) .nil)
  have shelf := @offers_transcribed asciiTables "library" [] false (shelfDocument [shelfPath])
    (shelfConfig [shelfPath]) [shelfRaw shelfPath] rfl
    (.cons (transcribes_shelf _) .nil)
  constructor
  · have served : ∃ operations, ExplicitSource.operations asciiTables (shelfConfig ["/books"]) =
        .ok operations ∧ operations.map (·.id) = ["get_books"] := ⟨_, rfl, by decide +kernel⟩
    rcases served with ⟨operations, served, ids⟩
    rcases books.1 operations served with ⟨found, loads, checks⟩
    exact ⟨operations, found, served, loads, checks, ids⟩
  · have loads : Unchecked.operations asciiTables "library" [] false (shelfDocument [shelfPath]) =
        .ok [] := rfl
    have failed : ∃ error, ExplicitSource.operations asciiTables (shelfConfig [shelfPath]) =
        .error error := ⟨_, rfl⟩
    rcases failed with ⟨error, failed⟩
    rcases shelf.2 [] error loads failed with ⟨entry, entryMem, _, _, problem, _, _, _, rfl⟩
    rw [List.mem_singleton.mp entryMem] at failed
    exact ⟨[], _, loads, failed, rfl, problem, rfl⟩

end Shelf

end McpPortal
