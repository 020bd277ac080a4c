import McpPortal.Configure.ReconcileAuthorization

/-!
# The operations a configuration records

The HTTP entries are recorded one by one, under their ids: of entries that share an
id the last one counts. Recording fails just if an entry without an effect has a
method that is never exposed.
-/

namespace McpPortal

open Foundation

/-- The entries that are not skipped, with their bindings. -/
def httpEntries (entries : List OperationEntry) : List (OperationEntry × HttpBindingEntry) :=
  entries.filterMap fun entry =>
    match entry.binding with
    | .http binding => some (entry, binding)
    | .graphQl _ => none

theorem mem_httpEntries {entries : List OperationEntry} {entry : OperationEntry}
    {binding : HttpBindingEntry} :
    (entry, binding) ∈ httpEntries entries ↔ entry ∈ entries ∧ entry.binding = .http binding := by
  rw [httpEntries, List.mem_filterMap]
  constructor
  · rintro ⟨found, foundMem, selected⟩
    cases bound : found.binding with
    | graphQl _ => simp [bound] at selected
    | http _ =>
        simp only [bound, Option.some.injEq, Prod.mk.injEq] at selected
        rcases selected with ⟨rfl, rfl⟩
        exact ⟨foundMem, bound⟩
  · rintro ⟨entryMem, bound⟩
    exact ⟨entry, entryMem, by simp [bound]⟩

section Recorded

variable {unicode : PyUnicode}

/-- What an entry is recorded as, while its binding is an HTTP one. -/
def Records (unicode : PyUnicode) (entry : OperationEntry × HttpBindingEntry)
    (operation : Operation) : Prop :=
  entryOperation unicode entry.1 entry.2 = .ok operation

theorem Records.id {entry : OperationEntry × HttpBindingEntry} {operation : Operation}
    (records : Records unicode entry operation) : operation.id = entry.1.id :=
  entryOperation_id records

theorem ids_of_records {entries : List (OperationEntry × HttpBindingEntry)}
    {recorded : List Operation} (records : List.Forall₂ (Records unicode) entries recorded) :
    recorded.map (·.id) = entries.map (·.1.id) := by
  induction records with
  | nil => rfl
  | cons first _ ih => rw [List.map_cons, List.map_cons, first.id, ih]

theorem foldlM_configureEntry {entries : List OperationEntry}
    {start operations : List (String × Operation)} :
    entries.foldlM (configureEntry unicode) start = .ok operations ↔
      ∃ recorded, List.Forall₂ (Records unicode) (httpEntries entries) recorded ∧
        operations = (recorded.map fun op => (op.id, op)).foldl
          (fun entries entry => Dict.insert entries entry.1 entry.2) start := by
  induction entries generalizing start with
  | nil =>
      simp only [List.foldlM_nil, pure_eq_ok, httpEntries, List.filterMap_nil,
        List.forall₂_nil_left_iff, exists_eq_left, List.map_nil, List.foldl_nil]
      exact eq_comm
  | cons entry rest ih =>
      rw [List.foldlM_cons, bind_eq_ok]
      cases bound : entry.binding with
      | graphQl _ =>
          have skipped : httpEntries (entry :: rest) = httpEntries rest := by
            simp [httpEntries, bound]
          simp only [configureEntry, bound, Except.ok.injEq, exists_eq_left', ih, skipped]
      | http binding =>
          have kept : httpEntries (entry :: rest) = (entry, binding) :: httpEntries rest := by
            simp [httpEntries, bound]
          simp only [configureEntry, bound, bind_eq_ok, pure_eq_ok, ih, kept,
            List.forall₂_cons_left_iff]
          constructor
          · rintro ⟨_, ⟨operation, built, rfl⟩, recorded, records, rfl⟩
            refine ⟨operation :: recorded, ⟨operation, recorded, built, records, rfl⟩, ?_⟩
            rw [List.map_cons, List.foldl_cons, entryOperation_id built]
          · rintro ⟨_, ⟨operation, recorded, built, records, rfl⟩, rfl⟩
            refine ⟨_, ⟨operation, built, rfl⟩, recorded, records, ?_⟩
            rw [List.map_cons, List.foldl_cons, entryOperation_id built]

/-- The configured operations are the recorded ones by id. -/
theorem configuredOperations_eq_ok_iff {config : McpPortalConfig}
    {operations : List (String × Operation)} :
    configuredOperations unicode config = .ok operations ↔
      ∃ recorded, List.Forall₂ (Records unicode) (httpEntries config.operations) recorded ∧
        operations = Dict.indexBy (·.id) recorded :=
  foldlM_configureEntry

theorem keys_configuredOperations {config : McpPortalConfig}
    {operations : List (String × Operation)}
    (configured : configuredOperations unicode config = .ok operations) (id : String) :
    id ∈ Dict.keys operations ↔
      ∃ entry ∈ config.operations, entry.id = id ∧ ∃ binding, entry.binding = .http binding := by
  rcases configuredOperations_eq_ok_iff.mp configured with ⟨recorded, records, rfl⟩
  rw [Dict.mem_keys_indexBy, ids_of_records records, List.mem_map]
  constructor
  · rintro ⟨⟨entry, binding⟩, entryMem, rfl⟩
    rcases mem_httpEntries.mp entryMem with ⟨present, bound⟩
    exact ⟨entry, present, rfl, binding, bound⟩
  · rintro ⟨entry, present, rfl, binding, bound⟩
    exact ⟨(entry, binding), mem_httpEntries.mpr ⟨present, bound⟩, rfl⟩

/-- The entry that is recorded under an id: the last one that has it. -/
def recordedEntry (entries : List OperationEntry) (id : String) :
    Option (OperationEntry × HttpBindingEntry) :=
  (httpEntries entries).reverse.find? fun entry => decide (entry.1.id = id)

theorem mem_of_recordedEntry {entries : List OperationEntry} {id : String}
    {entry : OperationEntry × HttpBindingEntry} (found : recordedEntry entries id = some entry) :
    entry ∈ httpEntries entries ∧ entry.1.id = id := by
  have present := List.mem_of_find?_eq_some found
  have named := List.find?_some found
  exact ⟨List.mem_reverse.mp present, of_decide_eq_true named⟩

theorem exists_recordedEntry {entries : List OperationEntry}
    {entry : OperationEntry × HttpBindingEntry} (entryMem : entry ∈ httpEntries entries) :
    ∃ kept, recordedEntry entries entry.1.id = some kept := by
  rw [← Option.isSome_iff_exists, recordedEntry, List.find?_isSome]
  exact ⟨entry, List.mem_reverse.mpr entryMem, decide_eq_true rfl⟩

theorem find?_records {entries : List (OperationEntry × HttpBindingEntry)}
    {recorded : List Operation} (records : List.Forall₂ (Records unicode) entries recorded)
    (id : String) (operation : Operation) :
    recorded.find? (fun op => decide (op.id = id)) = some operation ↔
      ∃ entry, entries.find? (fun entry => decide (entry.1.id = id)) = some entry ∧
        Records unicode entry operation := by
  induction records with
  | nil => simp
  | @cons entry op _ _ first _ ih =>
      rw [List.find?_cons, List.find?_cons, first.id]
      by_cases named : entry.1.id = id
      · simp only [named, decide_true, Option.some.injEq, exists_eq_left']
        constructor
        · rintro rfl
          exact first
        · intro records
          exact Except.ok.inj (first.symm.trans records)
      · simp only [named, decide_false]
        exact ih

theorem get?_configuredOperations {config : McpPortalConfig}
    {operations : List (String × Operation)}
    (configured : configuredOperations unicode config = .ok operations) (id : String)
    (operation : Operation) :
    Dict.get? operations id = some operation ↔
      ∃ entry, recordedEntry config.operations id = some entry ∧
        Records unicode entry operation := by
  rcases configuredOperations_eq_ok_iff.mp configured with ⟨recorded, records, rfl⟩
  rw [Dict.get?_indexBy]
  exact find?_records (List.forall₂_reverse_iff.mpr records) id operation

end Recorded

end McpPortal
