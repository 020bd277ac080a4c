import McpPortal.Published

/-!
# The surviving set

Names are given to the operations that posture and selection leave. Each operation
is classified and selected by itself, so the tools and their names depend on the
survivors alone, and on their order only as far as the tools are listed in it.
-/

namespace McpPortal

open Foundation

section Survival

variable (config : McpPortalConfig)

def classified (op : Operation) : Operation :=
  config.classification.foldl applyRule op

/-- Neither the posture of the mode nor the selection drops the operation. -/
def survives (op : Operation) : Bool :=
  (config.mode ≠ .introspectSafe ||
      ((classified config op).effect = .readOnly && (classified config op).sensitivity = .normal)) &&
    (keep config.selection (classified config op)).1

/-- The operations that are left to be named. -/
def survivors (operations : List Operation) : List Operation :=
  (operations.filter (survives config)).map (classified config)

theorem selectedOperations_eq (unicode : PyUnicode) (operations : List Operation) :
    (selectedOperations unicode operations config).1 = survivors config operations := by
  have classifies : classify operations config.classification =
      operations.map (classified config) := rfl
  simp only [selectedOperations, select, classifies, applyModePosture, survivors]
  by_cases safe : config.mode = .introspectSafe
  · rw [if_neg (not_not.mpr safe), List.filter_filter, List.filter_map]
    congr 1
    apply List.filter_congr
    intro op _
    simp [survives, safe, Bool.and_comm]
  · rw [if_pos safe, List.filter_map]
    congr 1
    apply List.filter_congr
    intro op _
    simp [survives, safe]

theorem survivors_append (before later : List Operation) :
    survivors config (before ++ later) = survivors config before ++ survivors config later := by
  rw [survivors, List.filter_append, List.map_append]
  rfl

theorem survivors_cons_of_dropped {op : Operation} (dropped : survives config op = false)
    (later : List Operation) : survivors config (op :: later) = survivors config later := by
  rw [survivors, List.filter_cons_of_neg (by simp [dropped])]
  rfl

theorem survivors_cons_of_survives {op : Operation} (surviving : survives config op = true)
    (later : List Operation) :
    survivors config (op :: later) = classified config op :: survivors config later := by
  rw [survivors, List.filter_cons_of_pos surviving, List.map_cons]
  rfl

end Survival

section Naming

variable {unicode : PyUnicode} {suffix : String → String} {options : NamingOptions}

/-- The tools of a selection, or what their naming raises. -/
def namedTools (unicode : PyUnicode) (suffix : String → String) (options : NamingOptions)
    (selected : List Operation) : Naming (List Operation) := do
  let named ← assignNames unicode suffix selected options
  if (Dict.indexBy (·.name) named).length = named.length then return named
  else throw .assertionError

theorem map_operations_buildToolset (operations : List Operation) (config : McpPortalConfig) :
    (buildToolset unicode suffix operations config).map (·.operations) =
      namedTools unicode suffix (namingOptions config) (survivors config operations) := by
  rw [← selectedOperations_eq config unicode]
  simp only [buildToolset, namedTools]
  cases assigned : assignNames unicode suffix (selectedOperations unicode operations config).1
      (namingOptions config) with
  | error error => rfl
  | ok named =>
      simp only [bind, Except.bind]
      by_cases noneShadowed : (Dict.indexBy (·.name) named).length = named.length
      · rw [dif_pos noneShadowed, if_pos noneShadowed]
        rfl
      · rw [dif_neg noneShadowed, if_neg noneShadowed]
        rfl

theorem generateNames_of_perm {left right : List Operation} (perm : left.Perm right) :
    generateNames unicode suffix left options = generateNames unicode suffix right options := by
  have sameIds : (left.map (·.id)).Perm (right.map (·.id)) := perm.map _
  have sameDuplicates := sortedRepeats_of_perm sameIds
  by_cases unique : (left.map (·.id)).Nodup
  · have basesOf (operations : List Operation) (distinct : (operations.map (·.id)).Nodup) :
        Dict.ofList (operations.map fun op =>
          (op.id, cap suffix (baseName unicode suffix op options))) =
            operations.map fun op => (op.id, cappedName unicode suffix options op) := by
      apply Dict.ofList_of_nodup
      rw [Dict.keys, List.map_map]
      exact distinct
    have sameBases : (left.map fun op => (op.id, cappedName unicode suffix options op)).Perm
        (right.map fun op => (op.id, cappedName unicode suffix options op)) := perm.map _
    have sorted := @insertionSort_of_perm _ Prod.fst _ _ sameBases (by
      rw [List.map_map]
      exact unique)
    have sameCounts : (fun base => ((left.map fun op =>
          (op.id, cappedName unicode suffix options op)).map (·.2)).count base) =
        fun base => ((right.map fun op =>
          (op.id, cappedName unicode suffix options op)).map (·.2)).count base := by
      funext base
      exact (sameBases.map _).count_eq base
    simp only [generateNames, sameDuplicates, basesOf left unique,
      basesOf right (sameIds.nodup_iff.mp unique), sorted, fun base => congrFun sameCounts base]
  · have isDuplicate : sortedRepeats (left.map (·.id)) ≠ [] :=
      fun none => unique (sortedRepeats_eq_nil_iff.mp none)
    have alsoDuplicate : sortedRepeats (right.map (·.id)) ≠ [] := sameDuplicates ▸ isDuplicate
    simp only [generateNames, if_pos alsoDuplicate, throw_bind, sameDuplicates]

/-- What naming does to each operation of a selection. -/
def toolNaming (unicode : PyUnicode) (suffix : String → String) (options : NamingOptions)
    (selected : List Operation) : Naming (Operation → Operation) := do
  let duplicates := sortedRepeats (selected.map (·.id))
  if duplicates ≠ [] then throw (.raised (.duplicateIds duplicates))
  let owner ← ((selected.filter fun op => op.name ≠ "").insertionSort
    fun left right => left.id ≤ right.id).foldlM reserveName []
  let generated ← generateNames unicode suffix (selected.filter fun op => op.name = "") options
  let _ ← (generated.insertionSort fun left right => left.1 ≤ right.1).foldlM claimGenerated owner
  return fun op =>
    if op.name = "" then { op with name := (Dict.get? generated op.id).getD "" } else op

theorem assignNames_eq_toolNaming (selected : List Operation) :
    assignNames unicode suffix selected options =
      (toolNaming unicode suffix options selected).map fun rename => selected.map rename := by
  simp only [assignNames, toolNaming]
  split
  · rfl
  · cases ((selected.filter fun op => op.name ≠ "").insertionSort
        fun left right => left.id ≤ right.id).foldlM reserveName [] with
    | error error => rfl
    | ok owner =>
        cases generateNames unicode suffix (selected.filter fun op => op.name = "") options with
        | error error => rfl
        | ok generated =>
            simp only [bind, Except.bind]
            split <;> rfl

/-- Naming does not depend on the order of the selection. -/
theorem toolNaming_of_perm {left right : List Operation} (perm : left.Perm right) :
    toolNaming unicode suffix options left = toolNaming unicode suffix options right := by
  have sameDuplicates : sortedRepeats (left.map (·.id)) = sortedRepeats (right.map (·.id)) :=
    sortedRepeats_of_perm (perm.map _)
  have sameUnnamed := @generateNames_of_perm unicode suffix options _ _
    (perm.filter fun op => decide (op.name = ""))
  simp only [toolNaming, sameDuplicates, sameUnnamed]
  by_cases duplicate : sortedRepeats (right.map (·.id)) = []
  · have unique : (left.map (·.id)).Nodup :=
      sortedRepeats_eq_nil_iff.mp (sameDuplicates.trans duplicate)
    have sameDeclared := @insertionSort_of_perm _ Operation.id _ _
      (perm.filter fun op => decide (op.name ≠ "")) (unique.sublist (List.filter_sublist.map _))
    rw [sameDeclared]
  · simp only [ne_eq, duplicate, not_false_eq_true, if_true, throw_bind]

/-- Naming a selection in another order lists the same tools in that order, or raises the same. -/
theorem namedTools_of_perm {left right : List Operation} (perm : left.Perm right) :
    (∀ tools, namedTools unicode suffix options left = .ok tools →
      ∃ others, namedTools unicode suffix options right = .ok others ∧ tools.Perm others) ∧
    ∀ error, namedTools unicode suffix options left = .error error →
      namedTools unicode suffix options right = .error error := by
  simp only [namedTools, assignNames_eq_toolNaming, toolNaming_of_perm perm]
  cases toolNaming unicode suffix options right with
  | error error => exact ⟨nofun, fun _ failed => failed⟩
  | ok rename =>
      have sameTools : (left.map rename).Perm (right.map rename) := perm.map _
      have sameLengths : (Dict.indexBy (·.name) (left.map rename)).length = (left.map rename).length ↔
          (Dict.indexBy (·.name) (right.map rename)).length = (right.map rename).length := by
        rw [Dict.length_indexBy_eq_iff, Dict.length_indexBy_eq_iff, (sameTools.map _).nodup_iff]
      simp only [Except.map, bind, Except.bind]
      by_cases shadowed : (Dict.indexBy (·.name) (right.map rename)).length =
          (right.map rename).length
      · rw [if_pos shadowed, if_pos (sameLengths.mpr shadowed)]
        refine ⟨?_, nofun⟩
        intro tools ran
        cases ran
        exact ⟨_, rfl, sameTools⟩
      · rw [if_neg shadowed, if_neg (fun same => shadowed (sameLengths.mp same))]
        exact ⟨nofun, fun _ failed => failed⟩

theorem assignNames_raises (digest : IsDigest suffix) {selected : List Operation}
    {error : PyException NameCollisionError}
    (failed : assignNames unicode suffix selected options = .error error) :
    ∃ collision, error = .raised collision := by
  simp only [assignNames, throw_bind] at failed
  split at failed
  · cases failed
    exact ⟨_, rfl⟩
  case isFalse noDuplicates =>
    have unique : (selected.map (·.id)).Nodup :=
      sortedRepeats_eq_nil_iff.mp (not_not.mp noDuplicates)
    have unnamedUnique : ((selected.filter fun op => op.name = "").map (·.id)).Nodup :=
      unique.sublist (List.filter_sublist.map _)
    simp only [bind_eq_error, pure_ne_error, and_false, exists_false, or_false,
      generateNames_eq digest unnamedUnique] at failed
    rcases failed with reserving | ⟨owner, _, generating | ⟨generated, _, claiming⟩⟩
    · rcases foldlM_eq_error reserving with ⟨op, _, taken, stepFailed⟩
      unfold reserveName at stepFailed
      split at stepFailed
      · cases stepFailed
        exact ⟨_, rfl⟩
      · cases stepFailed
    · split at generating
      · cases generating
        exact ⟨_, rfl⟩
      · cases generating
    · rcases foldlM_eq_error claiming with ⟨name, _, taken, stepFailed⟩
      unfold claimGenerated at stepFailed
      split at stepFailed
      · cases stepFailed
        exact ⟨_, rfl⟩
      · cases stepFailed

/-- Naming raises nothing but name collisions. -/
theorem namedTools_raises (digest : IsDigest suffix) {selected : List Operation}
    {error : PyException NameCollisionError}
    (failed : namedTools unicode suffix options selected = .error error) :
    ∃ collision, error = .raised collision := by
  rw [namedTools, bind_eq_error] at failed
  rcases failed with assigning | ⟨named, assigned, shadowed⟩
  · exact assignNames_raises digest assigning
  · have distinct := ((exists_assignNames_iff digest selected).mp ⟨named, assigned⟩).2
    rw [← assignNames_eq_publishedName digest assigned, ← Dict.length_indexBy_eq_iff] at distinct
    rw [if_pos distinct] at shadowed
    cases shadowed

/-- Tools are named just if ids and names are distinct, and each gets its own. -/
theorem namedTools_ok_iff (digest : IsDigest suffix) {selected tools : List Operation} :
    namedTools unicode suffix options selected = .ok tools ↔
      ((selected.map (·.id)).Nodup ∧
          (selected.map (publishedName unicode suffix options selected)).Nodup) ∧
        tools = selected.map fun op =>
          { op with name := publishedName unicode suffix options selected op } := by
  rw [← exists_assignNames_iff digest]
  have shape {named : List Operation}
      (assigned : assignNames unicode suffix selected options = .ok named) :
      named = selected.map fun op =>
        { op with name := publishedName unicode suffix options selected op } := by
    rcases (assignNames_ok assigned).2 with ⟨nameFor, rfl⟩
    have names := assignNames_eq_publishedName digest assigned
    rw [List.map_map, List.map_inj_left] at names
    apply List.map_congr_left
    intro op opMem
    rw [← names op opMem]
    rfl
  rw [namedTools, bind_eq_ok]
  constructor
  · rintro ⟨named, assigned, indexed⟩
    refine ⟨⟨named, assigned⟩, ?_⟩
    split at indexed
    · cases indexed
      exact shape assigned
    · cases indexed
  · rintro ⟨⟨named, assigned⟩, rfl⟩
    have distinct := ((exists_assignNames_iff digest selected).mp ⟨named, assigned⟩).2
    rw [← assignNames_eq_publishedName digest assigned, ← Dict.length_indexBy_eq_iff] at distinct
    exact ⟨named, assigned, by rw [if_pos distinct, shape assigned]; rfl⟩

/-- A name nobody else's base resembles changes nobody else's name. -/
theorem publishedName_insert {before later : List Operation} {added : Operation}
    (unnamed : added.name = "")
    (unshared : ∀ other ∈ before ++ later, other.name = "" →
      cappedName unicode suffix options other ≠ cappedName unicode suffix options added)
    {op : Operation} (opMem : op ∈ before ++ later) :
    publishedName unicode suffix options (before ++ added :: later) op =
      publishedName unicode suffix options (before ++ later) op := by
  unfold publishedName
  split
  case isFalse => rfl
  case isTrue opUnnamed =>
    have inserted : (before ++ added :: later).filter (fun op => decide (op.name = "")) =
        before.filter (fun op => decide (op.name = "")) ++
          added :: later.filter fun op => decide (op.name = "") := by
      rw [List.filter_append, List.filter_cons_of_pos (by simpa using unnamed)]
    have different := unshared op opMem opUnnamed
    have sameCount : (((before ++ added :: later).filter fun op => op.name = "").map
          (cappedName unicode suffix options)).count (cappedName unicode suffix options op) =
        (((before ++ later).filter fun op => op.name = "").map
          (cappedName unicode suffix options)).count (cappedName unicode suffix options op) := by
      rw [inserted, List.filter_append, List.map_append, List.map_append, List.map_cons,
        List.count_append, List.count_append, List.count_cons_of_ne different.symm]
    simp only [generatedName, sameCount]

/-- The other tools keep their names when a survivor whose base nobody shares is added. -/
theorem namedTools_insert (digest : IsDigest suffix) {before later tools : List Operation}
    {added : Operation} (unnamed : added.name = "")
    (unshared : ∀ other ∈ before ++ later, other.name = "" →
      cappedName unicode suffix options other ≠ cappedName unicode suffix options added)
    (ran : namedTools unicode suffix options (before ++ added :: later) = .ok tools) :
    ∃ beforeTools tool laterTools, tools = beforeTools ++ tool :: laterTools ∧ tool.id = added.id ∧
      namedTools unicode suffix options (before ++ later) = .ok (beforeTools ++ laterTools) := by
  rcases (namedTools_ok_iff digest).mp ran with ⟨⟨uniqueIds, uniqueNames⟩, isNamed⟩
  have shorter : (before ++ later).Sublist (before ++ added :: later) :=
    (List.Sublist.refl _).append (List.sublist_cons_self _ _)
  have sameNames : (before ++ later).map
      (publishedName unicode suffix options (before ++ added :: later)) =
        (before ++ later).map (publishedName unicode suffix options (before ++ later)) := by
    apply List.map_congr_left
    intro op opMem
    exact publishedName_insert unnamed unshared opMem
  have sameTools : ((before ++ later).map fun op => { op with
      name := publishedName unicode suffix options (before ++ added :: later) op }) =
        (before ++ later).map fun op => { op with
          name := publishedName unicode suffix options (before ++ later) op } := by
    apply List.map_congr_left
    intro op opMem
    rw [publishedName_insert unnamed unshared opMem]
  rw [List.map_append, List.map_cons] at isNamed
  refine ⟨_, _, _, isNamed, rfl, ?_⟩
  rw [← List.map_append, sameTools, namedTools_ok_iff digest]
  refine ⟨⟨uniqueIds.sublist (shorter.map _), ?_⟩, rfl⟩
  rw [← sameNames]
  exact uniqueNames.sublist (shorter.map _)

end Naming

section Tools

variable {unicode : PyUnicode} {suffix : String → String} {config : McpPortalConfig}

/-- The name of the tool with an id. -/
def ToolSet.nameOf? (toolset : ToolSet) (id : String) : Option String :=
  Dict.get? (toolset.operations.map fun op => (op.id, op.name)) id

theorem classified_id (op : Operation) : (classified config op).id = op.id := by
  rcases foldl_applyRule config.classification op with ⟨effect, sensitivity, applied⟩
  rw [classified, applied]

theorem classified_name (op : Operation) : (classified config op).name = op.name := by
  rcases foldl_applyRule config.classification op with ⟨effect, sensitivity, applied⟩
  rw [classified, applied]

theorem cappedName_classified (options : NamingOptions) (op : Operation) :
    cappedName unicode suffix options (classified config op) =
      cappedName unicode suffix options op := by
  rcases foldl_applyRule config.classification op with ⟨effect, sensitivity, applied⟩
  rw [classified, applied]
  rfl

theorem buildToolset_ok_iff {operations tools : List Operation} :
    (∃ toolset, buildToolset unicode suffix operations config = .ok toolset ∧
        toolset.operations = tools) ↔
      namedTools unicode suffix (namingOptions config) (survivors config operations) =
        .ok tools := by
  rw [← map_operations_buildToolset, map_eq_ok]

theorem buildToolset_error_iff {operations : List Operation}
    {error : PyException NameCollisionError} :
    buildToolset unicode suffix operations config = .error error ↔
      namedTools unicode suffix (namingOptions config) (survivors config operations) =
        .error error := by
  rw [← map_operations_buildToolset]
  cases buildToolset unicode suffix operations config <;> simp [Except.map]

/--
The tools and their names, or the name collision, depend on the survivors only: not
on dropped operations, nor, but for the order of the tools, on the order of the
operations. A further survivor whose base name nobody shares renames no other tool.
-/
theorem buildToolset_survivors (unicode : PyUnicode) (suffix : String → String)
    (digest : IsDigest suffix) (config : McpPortalConfig) :
    (∀ before op later, survives config op = false →
      (buildToolset unicode suffix (before ++ op :: later) config).map (·.operations) =
        (buildToolset unicode suffix (before ++ later) config).map (·.operations)) ∧
    (∀ left right, left.Perm right →
      (∀ toolset, buildToolset unicode suffix left config = .ok toolset →
        ∃ other, buildToolset unicode suffix right config = .ok other ∧
          toolset.operations.Perm other.operations ∧
          ∀ id, toolset.nameOf? id = other.nameOf? id) ∧
      ∀ error, buildToolset unicode suffix left config = .error error →
        buildToolset unicode suffix right config = .error error) ∧
    ∀ before op later, survives config op = true → op.name = "" →
      (∀ other ∈ before ++ later, survives config other = true → other.name = "" →
        cappedName unicode suffix (namingOptions config) other ≠
          cappedName unicode suffix (namingOptions config) op) →
      (∃ collision, buildToolset unicode suffix (before ++ op :: later) config =
        .error (.raised collision)) ∨
      ∃ toolset extended beforeTools added laterTools,
        buildToolset unicode suffix (before ++ later) config = .ok toolset ∧
        buildToolset unicode suffix (before ++ op :: later) config = .ok extended ∧
        toolset.operations = beforeTools ++ laterTools ∧
        extended.operations = beforeTools ++ added :: laterTools ∧ added.id = op.id := by
  refine ⟨?_, ?_, ?_⟩
  · intro before op later dropped
    rw [map_operations_buildToolset, map_operations_buildToolset, survivors_append,
      survivors_append, survivors_cons_of_dropped config dropped]
  · intro left right perm
    have survivorsPerm : (survivors config left).Perm (survivors config right) :=
      (perm.filter _).map _
    have named := @namedTools_of_perm unicode suffix (namingOptions config) _ _ survivorsPerm
    constructor
    · intro toolset built
      have ran := buildToolset_ok_iff.mp ⟨toolset, built, rfl⟩
      rcases named.1 toolset.operations ran with ⟨others, ranOthers, toolsPerm⟩
      rcases buildToolset_ok_iff.mpr ranOthers with ⟨other, builtOther, rfl⟩
      refine ⟨other, builtOther, toolsPerm, ?_⟩
      have uniqueIds : (toolset.operations.map (·.id)).Nodup := by
        rcases (namedTools_ok_iff digest).mp ran with ⟨⟨unique, _⟩, isNamed⟩
        rw [isNamed, List.map_map]
        exact unique
      intro id
      apply Dict.get?_of_perm (toolsPerm.map _)
      rw [Dict.keys, List.map_map]
      exact uniqueIds
    · intro error failed
      exact buildToolset_error_iff.mpr (named.2 error (buildToolset_error_iff.mp failed))
  · intro before op later surviving unnamed unshared
    have stillUnshared : ∀ other ∈ survivors config before ++ survivors config later,
        other.name = "" → cappedName unicode suffix (namingOptions config) other ≠
          cappedName unicode suffix (namingOptions config) (classified config op) := by
      intro other otherMem otherUnnamed
      rw [← survivors_append] at otherMem
      rcases List.mem_map.mp otherMem with ⟨offered, offeredMem, rfl⟩
      rcases List.mem_filter.mp offeredMem with ⟨present, survivesToo⟩
      rw [cappedName_classified, cappedName_classified]
      exact unshared offered present survivesToo (classified_name offered ▸ otherUnnamed)
    cases built : buildToolset unicode suffix (before ++ op :: later) config with
    | error error =>
        rcases namedTools_raises digest (buildToolset_error_iff.mp built) with ⟨collision, rfl⟩
        exact Or.inl ⟨collision, rfl⟩
    | ok extended =>
        right
        have ran := buildToolset_ok_iff.mp ⟨extended, built, rfl⟩
        rw [survivors_append, survivors_cons_of_survives config surviving] at ran
        rcases namedTools_insert digest ((classified_name op).trans unnamed) stillUnshared ran with
          ⟨beforeTools, tool, laterTools, isExtended, sameId, ranWithout⟩
        rw [← survivors_append] at ranWithout
        rcases buildToolset_ok_iff.mpr ranWithout with ⟨toolset, builtWithout, isToolset⟩
        exact ⟨toolset, extended, beforeTools, tool, laterTools, builtWithout, rfl, isToolset,
          isExtended, sameId.trans (classified_id op)⟩

private def petsOperation (id : String) (effect : Effect) : Operation where
  id
  upstream := "pets"
  name := ""
  title := id
  description := id
  groupTags := []
  effect
  sensitivity := .normal
  inputSchema := []
  binding := .http { method := "GET", path := "/pets" }

private def petsUpstream : UpstreamConfig where
  baseUrl := some { text := "https://pets.example" }
  positive := positive_defaultLimits

private def petsConfig : McpPortalConfig where
  mode := .introspectSafe
  unsafeModeRequiresAcknowledgement := introspectSafe_is_safe
  unauthenticatedHttpIsGuarded := stdio_is_guarded _
  server := { name := "portal" }
  upstreams := [("pets", petsUpstream)]

private def onesSuffix (_ : String) : String := "111111"

private theorem isDigest_onesSuffix : IsDigest onesSuffix := by
  have allDigits : ∀ digit ∈ "111111".toList, isSlugChar digit = true := by simp [isSlugChar]
  exact ⟨fun _ char charMem => Or.inl (allDigits char charMem), fun _ => by rw [onesSuffix]; decide⟩

/-- A write with the id of a read that is kept changes nothing. -/
theorem buildToolset_survivors_pets :
    (buildToolset asciiTables onesSuffix
        [petsOperation "listPets" .readOnly, petsOperation "listPets" .action] petsConfig).map
          (·.operations) =
      (buildToolset asciiTables onesSuffix [petsOperation "listPets" .readOnly] petsConfig).map
        (·.operations) :=
  (buildToolset_survivors asciiTables onesSuffix isDigest_onesSuffix petsConfig).1
    [petsOperation "listPets" .readOnly] (petsOperation "listPets" .action) [] (by decide)

/-- The tool of an operation: a legal name, the declared one when there is one. -/
structure Publishes (op tool : Operation) : Prop where
  sameButNamed : ∃ name effect sensitivity, tool = { op with name, effect, sensitivity }
  legal : isToolName tool.name = true
  verbatim : op.name ≠ "" → tool.name = op.name

theorem survivors_of_all {operations : List Operation}
    (selectsAll : ∀ op ∈ operations, survives config op = true) :
    survivors config operations = operations.map (classified config) := by
  rw [survivors, List.filter_eq_self.mpr selectsAll]

theorem publishes_publishedName (digest : IsDigest suffix) (options : NamingOptions)
    (selected : List Operation) {op : Operation} (explicit : op.name = "" ∨ isToolName op.name) :
    Publishes op { classified config op with
      name := publishedName unicode suffix options selected (classified config op) } := by
  rcases foldl_applyRule config.classification op with ⟨effect, sensitivity, applied⟩
  constructor
  · rw [classified, applied]
    exact ⟨_, effect, sensitivity, rfl⟩
  · rw [publishedName, classified_name]
    split
    case isTrue => exact isToolName_generatedName digest _ _
    case isFalse named => exact explicit.resolve_left named
  · intro named
    rw [publishedName, classified_name, if_neg named]

/--
When all operations are selected, naming raises a name collision or publishes each of them
under a legal name of its own, declared names as they are, and calls are routed by them.
-/
theorem buildToolset_publishes (unicode : PyUnicode) (suffix : String → String)
    (digest : IsDigest suffix) (config : McpPortalConfig) (operations : List Operation)
    (explicit : ∀ op ∈ operations, op.name = "" ∨ isToolName op.name = true)
    (selectsAll : ∀ op ∈ operations, survives config op = true) :
    (∃ collision, buildToolset unicode suffix operations config = .error (.raised collision)) ∨
      ∃ toolset, buildToolset unicode suffix operations config = .ok toolset ∧
        List.Forall₂ Publishes operations toolset.operations ∧
        (toolset.operations.map (·.name)).Nodup ∧
        ∀ name op, Dict.get? toolset.byName name = some op ↔
          op ∈ toolset.operations ∧ op.name = name := by
  cases built : buildToolset unicode suffix operations config with
  | error error =>
      rcases namedTools_raises digest (buildToolset_error_iff.mp built) with ⟨collision, rfl⟩
      exact Or.inl ⟨collision, rfl⟩
  | ok toolset =>
      refine Or.inr ⟨toolset, rfl, ?_, toolset.uniqueNames, fun _ _ => toolset.get?_byName_iff⟩
      have ran := buildToolset_ok_iff.mp ⟨toolset, built, rfl⟩
      rw [survivors_of_all selectsAll] at ran
      rw [((namedTools_ok_iff digest).mp ran).2, List.map_map, List.forall₂_map_right_iff,
        List.forall₂_same]
      intro op opMem
      exact publishes_publishedName digest _ _ (explicit op opMem)

/-- An operation that declares its name next to one that does not. -/
theorem buildToolset_publishes_pets :
    (∃ collision, buildToolset asciiTables onesSuffix
        [petsOperation "list" .readOnly, { petsOperation "get" .readOnly with name := "pet" }]
        petsConfig = .error (.raised collision)) ∨
      ∃ toolset, buildToolset asciiTables onesSuffix
          [petsOperation "list" .readOnly, { petsOperation "get" .readOnly with name := "pet" }]
          petsConfig = .ok toolset ∧
        List.Forall₂ Publishes
          [petsOperation "list" .readOnly, { petsOperation "get" .readOnly with name := "pet" }]
          toolset.operations ∧
        (toolset.operations.map (·.name)).Nodup ∧
        ∀ name op, Dict.get? toolset.byName name = some op ↔
          op ∈ toolset.operations ∧ op.name = name :=
  buildToolset_publishes asciiTables onesSuffix isDigest_onesSuffix petsConfig _
    (by simp [petsOperation]; decide) (by simp [petsOperation]; decide)

end Tools

end McpPortal
