import McpPortal.Configure.Pinned
import McpPortal.Configure.Recorded

/-!
# Hand-written operations after a run

A run that finds the operations of a configuration unchanged writes them back from
their recorded decisions. What is served from the written entries differs from
before only in titles that were left out, and in entries that share their id.
-/

namespace McpPortal

open Foundation

/-- A configuration with other entries. -/
def McpPortalConfig.withOperations (config : McpPortalConfig) (entries : List OperationEntry)
    (known : ∀ entry ∈ entries, entry.upstream ∈ Dict.keys config.upstreams) : McpPortalConfig :=
  { config with operations := entries, operationsReferenceKnownUpstreams := known }

section Entry

variable {unicode : PyUnicode}

/-- The title of what an entry is built into. -/
def OperationEntry.servedTitle (entry : OperationEntry) : String :=
  textOr entry.title (firstLine entry.description entry.id)

/-- The title of what the written entry is built into: recording has pinned the whole
description in place of a title that was left out. -/
def OperationEntry.pinnedTitle (entry : OperationEntry) : String :=
  textOr (some (textOr entry.title entry.description)) (firstLine entry.description entry.id)

/-- The entry states a title, or its description is one line. -/
def OperationEntry.KeepsTitle (entry : OperationEntry) : Prop :=
  textOr entry.title "" ≠ "" ∨ firstLine entry.description entry.description = entry.description

theorem OperationEntry.keepsTitle_iff {entry : OperationEntry} :
    entry.KeepsTitle ↔ entry.pinnedTitle = entry.servedTitle := by
  by_cases stated : textOr entry.title "" = ""
  · simp only [OperationEntry.KeepsTitle, stated, ne_eq, not_true_eq_false, false_or,
      OperationEntry.pinnedTitle, OperationEntry.servedTitle, textOr_of_eq stated, textOr_some]
    by_cases noDescription : entry.description = ""
    · simp [noDescription, firstLine]
    · simp only [noDescription, if_false, firstLine]
      exact eq_comm
  · simp only [OperationEntry.KeepsTitle, ne_eq, stated, not_false_eq_true, true_or, true_iff,
      OperationEntry.pinnedTitle, OperationEntry.servedTitle, textOr_of_ne stated]
    exact if_neg stated

/-- What an entry is built into, with the title that a run pins. -/
def OperationEntry.retitled (entry : OperationEntry) (op : Operation) : Operation :=
  { op with title := entry.pinnedTitle }

/-- The binding that is written is flattened like the one that was read. -/
theorem httpBinding_written (binding : HttpBindingEntry) :
    (renderedBinding (binding.httpBinding unicode)).httpBinding unicode =
      binding.httpBinding unicode := by
  apply httpBinding_renderedBinding
  · exact unicode.upperIdem binding.method
  · intro param paramMem empty
    rcases List.mem_map.mp paramMem with ⟨entry, _, rfl⟩
    simp only [ParameterEntry.parameter] at empty ⊢
    by_cases stated : textOr entry.wireName "" = ""
    · rwa [textOr_of_eq stated] at empty
    · rw [textOr_of_ne stated] at empty
      exact absurd empty stated

theorem effectForMethod_upper_eq_ok {method : String} {effect : Effect} :
    effectForMethod unicode (unicode.upper method) = .ok effect ↔
      effectForMethod unicode method = .ok effect := by
  simp only [effectForMethod, unicode.upperIdem]
  split <;> simp

theorem hasToolName_entry {entry : OperationEntry} {op : Operation}
    (named : op.name = (entry.name.map (·.text)).getD "") : HasToolName op := by
  cases name : entry.name with
  | none => exact Or.inl (by rw [named, name]; rfl)
  | some toolName => exact Or.inr (by rw [named, name]; exact toolName.wellFormed)

/-- The effect that is recorded is the one that is served. -/
theorem entryEffect_eq {effect : Option Effect} {method : String} {recorded derived : Effect}
    (records : entryEffect unicode effect method = .ok recorded)
    (derives : effectForMethod unicode (unicode.upper method) = .ok derived) :
    effect.getD derived = recorded := by
  cases effect with
  | some effect => exact Except.ok.inj records
  | none => exact Except.ok.inj ((effectForMethod_upper_eq_ok.mp derives).symm.trans records)

theorem renderable_recordedDecision {entry : OperationEntry × HttpBindingEntry}
    {operation : Operation} {policy : Option PolicyConfig}
    (records : Records unicode entry operation) :
    Renderable (recordedDecision operation policy) := by
  simp only [Records, entryOperation, bind_eq_ok, pure_eq_ok] at records
  rcases records with ⟨_, _, isOperation⟩
  refine ⟨⟨entry.2.httpBinding unicode, ?_⟩, @hasToolName_entry entry.1 _ ?_⟩
  · rw [recordedDecision, ← isOperation]
    rfl
  · rw [recordedDecision, ← isOperation]

theorem upstream_of_records {entry : OperationEntry × HttpBindingEntry} {operation : Operation}
    (records : Records unicode entry operation) : operation.upstream = entry.1.upstream := by
  simp only [Records, entryOperation, bind_eq_ok, pure_eq_ok] at records
  rcases records with ⟨_, _, rfl⟩
  rfl

/-- A written entry is built into what the entry behind it was built into, title apart. -/
theorem build_written {entry : OperationEntry} {binding : HttpBindingEntry} {operation : Operation}
    {policy : Option PolicyConfig} {written : OperationEntry}
    (bound : entry.binding = .http binding) (records : Records unicode (entry, binding) operation)
    (isWritten : IsWritten (recordedDecision operation policy) written) :
    ExplicitSource.build unicode written =
      (ExplicitSource.build unicode entry).map (Option.map entry.retitled) := by
  simp only [Records, entryOperation, bind_eq_ok, pure_eq_ok] at records
  rcases records with ⟨effect, hasEffect, isOperation⟩
  have named : HasToolName operation := hasToolName_entry (by rw [← isOperation])
  have sameName := toolName?_getD named
  rcases isWritten with ⟨found, isBinding, rfl⟩
  have sameBinding : (renderedBinding found).httpBinding unicode = binding.httpBinding unicode := by
    rw [← httpBinding_written binding]
    subst isOperation
    cases isBinding
    rfl
  simp only [ExplicitSource.build, renderedEntry, bound, buildHttpEntry, sameBinding]
  cases derives : effectForMethod unicode (binding.httpBinding unicode).method with
  | error _ => rfl
  | ok derived =>
      have sameEffect := entryEffect_eq hasEffect derives
      cases flattened : flattenBinding (binding.httpBinding unicode) with
      | error error =>
          subst isOperation
          rfl
      | ok flattened =>
          subst isOperation
          simp only [Except.mapError, pure, Except.pure, bind, Except.bind, Except.map,
            Option.map_some, OperationEntry.operation, OperationEntry.retitled, recordedDecision,
            sameName, sameEffect, Option.getD_some]
          rfl

end Entry

section Config

variable {unicode : PyUnicode} {config : McpPortalConfig} {policy : Option PolicyConfig}

/-- An entry that is not dropped. -/
def IsServed (unicode : PyUnicode) (entry : OperationEntry) : Prop :=
  ∃ op, ExplicitSource.build unicode entry = .ok (some op)

/-- The recorded decisions are written, and what is read back serves the same operations. -/
def ServesAgain (unicode : PyUnicode) (config : McpPortalConfig) (policy : Option PolicyConfig)
    (operations : List Operation) : Prop :=
  ∃ decisions, decisionsFromConfig unicode config policy = .ok decisions ∧
    ∃ entries, writtenEntries unicode (decisions.map (·.2)) = some entries ∧
      ∃ known rebuilt,
        ExplicitSource.operations unicode (config.withOperations entries known) = .ok rebuilt ∧
          ∀ op, op ∈ rebuilt ↔ op ∈ operations

/-- An entry that leaves its effect out has a method that is exposed, the entries that are recorded
keep their titles, and entries that share an id are served alike. -/
structure KeepsServing (unicode : PyUnicode) (config : McpPortalConfig) : Prop where
  effects : ∀ entry ∈ httpEntries config.operations, entry.1.effect = none →
    ∃ effect, effectForMethod unicode entry.2.method = .ok effect
  titles : ∀ id kept, recordedEntry config.operations id = some kept →
    IsServed unicode kept.1 → kept.1.KeepsTitle
  alike : ∀ entry ∈ config.operations, IsServed unicode entry →
    ∀ kept, recordedEntry config.operations entry.id = some kept →
      ExplicitSource.build unicode kept.1 = ExplicitSource.build unicode entry

theorem records_iff_effects {entries : List (OperationEntry × HttpBindingEntry)} :
    (∃ recorded, List.Forall₂ (Records unicode) entries recorded) ↔
      ∀ entry ∈ entries, entry.1.effect = none →
        ∃ effect, effectForMethod unicode entry.2.method = .ok effect := by
  have oneEntry (entry : OperationEntry × HttpBindingEntry) :
      (∃ operation, entryOperation unicode entry.1 entry.2 = .ok operation) ↔
        (entry.1.effect = none → ∃ effect, effectForMethod unicode entry.2.method = .ok effect) := by
    simp only [entryOperation, bind_eq_ok, pure_eq_ok]
    cases stated : entry.1.effect with
    | some effect => simp [entryEffect]
    | none => simp [entryEffect]
  simp only [← oneEntry, ← exists_mapM_eq_ok_iff, mapM_eq_ok_iff_forall₂]
  rfl

/-- What is read back from the recorded decisions: an entry for each id that is recorded. -/
theorem exists_written {operations : List (String × Operation)}
    (configured : configuredOperations unicode config = .ok operations) :
    ∃ entries, writtenEntries unicode
        ((operations.map (recordOperation policy)).map (·.2)) = some entries ∧
      ∀ written, written ∈ entries ↔
        ∃ id kept operation, recordedEntry config.operations id = some kept ∧
          Records unicode kept operation ∧
          IsWritten (recordedDecision operation policy) written := by
  have unique := (indexedById_configuredOperations configured).unique
  have recordedAs : ∀ entry ∈ operations, ∃ kept,
      recordedEntry config.operations entry.1 = some kept ∧ Records unicode kept entry.2 := by
    intro entry entryMem
    exact (get?_configuredOperations configured _ _).mp
      ((Dict.get?_eq_some_iff unique).mpr entryMem)
  have renderable : ∀ decision ∈ (operations.map (recordOperation policy)).map (·.2),
      decision.exposed = true → Renderable decision := by
    intro decision decisionMem _
    rcases List.mem_map.mp decisionMem with ⟨_, recordedMem, rfl⟩
    rcases List.mem_map.mp recordedMem with ⟨entry, entryMem, rfl⟩
    rcases recordedAs entry entryMem with ⟨kept, _, records⟩
    exact renderable_recordedDecision records
  rcases exists_writtenEntries renderable with ⟨entries, written_eq, written⟩
  refine ⟨entries, written_eq, fun entry => ?_⟩
  rw [mem_writtenEntries written]
  constructor
  · rintro ⟨_, decisionMem, _, isWritten⟩
    rcases List.mem_map.mp decisionMem with ⟨_, recordedMem, rfl⟩
    rcases List.mem_map.mp recordedMem with ⟨operation, operationMem, rfl⟩
    rcases recordedAs operation operationMem with ⟨kept, found, records⟩
    exact ⟨operation.1, kept, operation.2, found, records, isWritten⟩
  · rintro ⟨id, kept, operation, found, records, isWritten⟩
    have configuredAs := (get?_configuredOperations configured id operation).mpr
      ⟨kept, found, records⟩
    refine ⟨recordedDecision operation policy, ?_, rfl, isWritten⟩
    rw [List.map_map]
    exact List.mem_map.mpr ⟨(id, operation), Dict.mem_of_get? configuredAs, rfl⟩

theorem mem_operations_of_recordedEntry {id : String} {kept : OperationEntry × HttpBindingEntry}
    (found : recordedEntry config.operations id = some kept) :
    kept.1 ∈ config.operations ∧ kept.1.binding = .http kept.2 :=
  mem_httpEntries.mp (mem_of_recordedEntry found).1

theorem retitled_eq_iff {entry : OperationEntry} {op : Operation}
    (built : ExplicitSource.build unicode entry = .ok (some op)) :
    entry.retitled op = op ↔ entry.KeepsTitle := by
  have title : op.title = entry.servedTitle := ExplicitSource.build_title built
  rw [OperationEntry.keepsTitle_iff, ← title]
  constructor
  · intro same
    exact congrArg Operation.title same
  · intro same
    rw [OperationEntry.retitled, same]

/-- What is served again: an operation for each id that is recorded, with the pinned title. -/
theorem mem_rebuilt_iff {entries : List OperationEntry} {known rebuilt}
    (written : ∀ entry, entry ∈ entries ↔
      ∃ id kept operation, recordedEntry config.operations id = some kept ∧
        Records unicode kept operation ∧ IsWritten (recordedDecision operation policy) entry)
    (allWritten : ∀ id kept, recordedEntry config.operations id = some kept →
      ∃ operation entry, Records unicode kept operation ∧
        IsWritten (recordedDecision operation policy) entry)
    (ran : ExplicitSource.operations unicode (config.withOperations entries known) = .ok rebuilt)
    (op : Operation) :
    op ∈ rebuilt ↔ ∃ id kept built, recordedEntry config.operations id = some kept ∧
      ExplicitSource.build unicode kept.1 = .ok (some built) ∧ kept.1.retitled built = op := by
  have builtAs {kept : OperationEntry × HttpBindingEntry} {id operation entry}
      (found : recordedEntry config.operations id = some kept)
      (records : Records unicode kept operation)
      (isWritten : IsWritten (recordedDecision operation policy) entry) :
      ExplicitSource.build unicode entry =
        (ExplicitSource.build unicode kept.1).map (Option.map kept.1.retitled) :=
    build_written (mem_operations_of_recordedEntry found).2 records isWritten
  rw [ExplicitSource.mem_operations_iff ran]
  constructor
  · rintro ⟨entry, entryMem, built⟩
    rcases (written entry).mp entryMem with ⟨id, kept, operation, found, records, isWritten⟩
    rw [builtAs found records isWritten, map_eq_ok] at built
    rcases built with ⟨before, built, retitled⟩
    rcases Option.map_eq_some_iff.mp retitled with ⟨beforeOp, rfl, rfl⟩
    exact ⟨id, kept, beforeOp, found, built, rfl⟩
  · rintro ⟨id, kept, built, found, wasBuilt, rfl⟩
    rcases allWritten id kept found with ⟨operation, entry, records, isWritten⟩
    refine ⟨entry, (written entry).mpr ⟨id, kept, operation, found, records, isWritten⟩, ?_⟩
    rw [builtAs found records isWritten, wasBuilt]
    rfl

/-- The operations that are served again, title apart, are those of the recorded entries. -/
theorem servesAgain_iff_rebuilt {operations : List Operation}
    (served : ExplicitSource.operations unicode config = .ok operations) :
    ServesAgain unicode config policy operations ↔
      (∃ recorded, List.Forall₂ (Records unicode) (httpEntries config.operations) recorded) ∧
        ∀ op, (∃ id kept built, recordedEntry config.operations id = some kept ∧
          ExplicitSource.build unicode kept.1 = .ok (some built) ∧ kept.1.retitled built = op) ↔
            op ∈ operations := by
  have allWritten {recorded : List (String × Operation)}
      (configured : configuredOperations unicode config = .ok recorded) :
      ∀ id kept, recordedEntry config.operations id = some kept →
        ∃ operation entry, Records unicode kept operation ∧
          IsWritten (recordedDecision operation policy) entry := by
    intro id kept found
    have present : id ∈ Dict.keys recorded := by
      have isHttp := mem_operations_of_recordedEntry found
      rw [keys_configuredOperations configured]
      exact ⟨kept.1, isHttp.1, (mem_of_recordedEntry found).2, kept.2, isHttp.2⟩
    rcases Option.isSome_iff_exists.mp (Dict.get?_isSome_iff.mpr present) with ⟨operation, isAt⟩
    rcases (get?_configuredOperations configured id operation).mp isAt with ⟨other, isKept, records⟩
    cases found.symm.trans isKept
    rcases (@renderable_recordedDecision _ _ _ policy records).1 with ⟨binding, bound⟩
    exact ⟨operation, _, records, binding, bound, rfl⟩
  constructor
  · rintro ⟨decisions, ran, entries, entries_eq, known, rebuilt, rebuilds, same⟩
    rw [decisionsFromConfig_eq, map_eq_ok] at ran
    rcases ran with ⟨recorded, configured, rfl⟩
    rcases @exists_written _ _ policy _ configured with ⟨_, isEntries, written⟩
    cases isEntries.symm.trans entries_eq
    rcases configuredOperations_eq_ok_iff.mp configured with ⟨list, records, _⟩
    refine ⟨⟨list, records⟩, fun op => ?_⟩
    rw [← same, mem_rebuilt_iff written (allWritten configured) rebuilds]
  · rintro ⟨⟨list, records⟩, same⟩
    have configured := configuredOperations_eq_ok_iff.mpr ⟨list, records, rfl⟩
    rcases @exists_written _ _ policy _ configured with ⟨entries, entries_eq, written⟩
    have source : ∀ entry ∈ entries, ∃ kept ∈ config.operations, entry.upstream = kept.upstream ∧
        ExplicitSource.build unicode entry =
          (ExplicitSource.build unicode kept).map (Option.map kept.retitled) := by
      intro entry entryMem
      rcases (written entry).mp entryMem with ⟨id, kept, operation, found, keptRecords, isWritten⟩
      have isHttp := mem_operations_of_recordedEntry found
      refine ⟨kept.1, isHttp.1, ?_, build_written isHttp.2 keptRecords isWritten⟩
      rcases isWritten with ⟨binding, _, rfl⟩
      exact upstream_of_records keptRecords
    have known : ∀ entry ∈ entries, entry.upstream ∈ Dict.keys config.upstreams := by
      intro entry entryMem
      rcases source entry entryMem with ⟨kept, keptMem, sameUpstream, _⟩
      rw [sameUpstream]
      exact config.operationsReferenceKnownUpstreams kept keptMem
    have builds : ∃ rebuilt,
        ExplicitSource.operations unicode (config.withOperations entries known) = .ok rebuilt := by
      rw [ExplicitSource.exists_operations_iff]
      intro entry entryMem
      rcases source entry entryMem with ⟨kept, keptMem, _, built_eq⟩
      rcases ExplicitSource.exists_operations_iff.mp ⟨operations, served⟩ kept keptMem with
        ⟨built, wasBuilt⟩
      rw [built_eq, wasBuilt]
      exact ⟨_, rfl⟩
    rcases builds with ⟨rebuilt, rebuilds⟩
    refine ⟨_, ?_, entries, entries_eq, known, rebuilt, rebuilds, fun op => ?_⟩
    · rw [decisionsFromConfig_eq, configured]
      rfl
    · rw [mem_rebuilt_iff written (allWritten configured) rebuilds, same]

/-- Hand-written operations are served as before just if no title changes, entries that share an
id are alike, and no entry without an effect has an unsupported method. -/
theorem servesAgain_iff (config : McpPortalConfig) (policy : Option PolicyConfig)
    (allHttp : ∀ entry ∈ config.operations, ∃ binding, entry.binding = .http binding)
    (operations : List Operation)
    (served : ExplicitSource.operations unicode config = .ok operations) :
    ServesAgain unicode config policy operations ↔ KeepsServing unicode config := by
  have keptOf : ∀ entry ∈ config.operations, ∃ kept,
      recordedEntry config.operations entry.id = some kept := by
    intro entry entryMem
    rcases allHttp entry entryMem with ⟨binding, bound⟩
    exact exists_recordedEntry (mem_httpEntries.mpr ⟨entryMem, bound⟩)
  rw [servesAgain_iff_rebuilt served, records_iff_effects]
  constructor
  · rintro ⟨effects, same⟩
    have pinned : ∀ entry ∈ config.operations, ∀ op,
        ExplicitSource.build unicode entry = .ok (some op) → ∃ kept built,
          recordedEntry config.operations entry.id = some kept ∧
            ExplicitSource.build unicode kept.1 = .ok (some built) ∧
            kept.1.retitled built = op := by
      intro entry entryMem op builds
      have isServed := (ExplicitSource.mem_operations_iff served).mpr ⟨entry, entryMem, builds⟩
      rcases (same op).mpr isServed with ⟨id, kept, built, found, wasBuilt, rfl⟩
      have sameId : id = entry.id := by
        rw [← (ExplicitSource.build_ok builds).1, ← (mem_of_recordedEntry found).2]
        exact (ExplicitSource.build_ok wasBuilt).1.symm
      exact ⟨kept, built, sameId ▸ found, wasBuilt, rfl⟩
    have titles : ∀ id kept, recordedEntry config.operations id = some kept →
        IsServed unicode kept.1 → kept.1.KeepsTitle := by
      rintro id kept found ⟨op, builds⟩
      have keptMem := (mem_operations_of_recordedEntry found).1
      rcases pinned kept.1 keptMem op builds with ⟨other, built, otherFound, wasBuilt, isOp⟩
      rw [(mem_of_recordedEntry found).2] at otherFound
      cases otherFound.symm.trans found
      cases wasBuilt.symm.trans builds
      exact (retitled_eq_iff builds).mp isOp
    refine ⟨effects, titles, ?_⟩
    rintro entry entryMem ⟨op, builds⟩ kept found
    rcases pinned entry entryMem op builds with ⟨other, built, otherFound, wasBuilt, isOp⟩
    cases otherFound.symm.trans found
    have unchanged := (retitled_eq_iff wasBuilt).mpr (titles _ _ found ⟨built, wasBuilt⟩)
    rw [wasBuilt, builds, ← isOp, unchanged]
  · rintro ⟨effects, titles, alike⟩
    refine ⟨effects, fun op => ?_⟩
    rw [ExplicitSource.mem_operations_iff served]
    constructor
    · rintro ⟨id, kept, built, found, wasBuilt, rfl⟩
      have unchanged := (retitled_eq_iff wasBuilt).mpr (titles _ _ found ⟨built, wasBuilt⟩)
      rw [unchanged]
      exact ⟨kept.1, (mem_operations_of_recordedEntry found).1, wasBuilt⟩
    · rintro ⟨entry, entryMem, builds⟩
      rcases keptOf entry entryMem with ⟨kept, found⟩
      have wasBuilt := alike entry entryMem ⟨op, builds⟩ kept found
      rw [builds] at wasBuilt
      exact ⟨entry.id, kept, op, found, wasBuilt,
        (retitled_eq_iff wasBuilt).mpr (titles _ _ found ⟨op, wasBuilt⟩)⟩

end Config

section Pets

private def petUpstream : UpstreamConfig where
  baseUrl := some { text := "https://pets.test" }
  positive := positive_defaultLimits

private def petEntry (description method : String) : OperationEntry where
  id := "showPet"
  upstream := "pets"
  description
  binding := .http
    { method
      path := "/pets/{id}"
      parameters := [{ arg := "id", location := .path, required := true }] }

private def petConfig (description method : String) : McpPortalConfig where
  mode := .configured
  unsafeModeRequiresAcknowledgement := configured_is_safe
  unauthenticatedHttpIsGuarded := stdio_is_guarded _
  server := { name := "portal" }
  upstreams := [("pets", petUpstream)]
  operations := [petEntry description method]
  operationsReferenceKnownUpstreams := by
    intro entry entryMem
    rw [List.mem_singleton.mp entryMem]
    exact List.mem_singleton_self _

private def petBinding : HttpBinding where
  method := "GET"
  path := "/pets/{id}"
  parameters :=
    [ { arg := "id", location := .path, wireName := "id", required := true,
        schema := [("type", .str "string")] } ]

private def petOperation (title description : String) : Operation where
  id := "showPet"
  upstream := "pets"
  name := ""
  title
  description
  groupTags := []
  effect := .readOnly
  sensitivity := .normal
  inputSchema :=
    [ ("type", .str "object"),
      ("properties", .obj [("id", .obj [("type", .str "string")])]),
      ("required", .arr [.str "id"]) ]
  binding := .http petBinding

private theorem served_pet :
    ExplicitSource.operations asciiTables (petConfig "Show a pet" "get") =
      .ok [petOperation "Show a pet" "Show a pet"] := by
  rfl

private theorem recordedEntry_pet {description method id : String}
    {kept : OperationEntry × HttpBindingEntry}
    (found : recordedEntry (petConfig description method).operations id = some kept) :
    kept.1 = petEntry description method := by
  have keptMem := (mem_operations_of_recordedEntry found).1
  exact List.mem_singleton.mp keptMem

theorem servesAgain_iff_pet :
    ServesAgain asciiTables (petConfig "Show a pet" "get") none
      [petOperation "Show a pet" "Show a pet"] := by
  rw [servesAgain_iff _ none _ _ served_pet]
  · refine ⟨?_, ?_, ?_⟩
    · intro entry entryMem _
      rw [List.mem_singleton.mp entryMem]
      exact ⟨.readOnly, rfl⟩
    · intro id kept found _
      rw [recordedEntry_pet found]
      exact Or.inr rfl
    · intro entry entryMem _ kept found
      rw [recordedEntry_pet found, List.mem_singleton.mp entryMem]
  · intro entry entryMem
    rw [List.mem_singleton.mp entryMem]
    exact ⟨_, rfl⟩

/-- The title left out was the first line, and becomes the whole description; and an entry that is
dropped cannot be recorded without an effect. -/
theorem servesAgain_fails_pet :
    (ExplicitSource.operations asciiTables (petConfig "Show a pet\nby its id" "get") =
        .ok [petOperation "Show a pet" "Show a pet\nby its id"] ∧
      ¬ServesAgain asciiTables (petConfig "Show a pet\nby its id" "get") none
        [petOperation "Show a pet" "Show a pet\nby its id"]) ∧
      ExplicitSource.operations asciiTables (petConfig "Show a pet" "options") = .ok [] ∧
        ¬ServesAgain asciiTables (petConfig "Show a pet" "options") none [] := by
  refine ⟨⟨rfl, ?_⟩, rfl, ?_⟩
  · have served : ExplicitSource.operations asciiTables (petConfig "Show a pet\nby its id" "get") =
        .ok [petOperation "Show a pet" "Show a pet\nby its id"] := rfl
    rw [servesAgain_iff_rebuilt served]
    rintro ⟨_, same⟩
    rcases (same _).mpr (List.mem_singleton_self _) with ⟨id, kept, built, found, wasBuilt, isOp⟩
    rw [recordedEntry_pet found] at wasBuilt isOp
    have title : "Show a pet\nby its id" = "Show a pet" := congrArg Operation.title isOp
    exact absurd title (by decide)
  · rintro ⟨decisions, ran, _⟩
    cases ran

end Pets

end McpPortal
