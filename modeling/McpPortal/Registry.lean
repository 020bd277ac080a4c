import McpPortal.Config.Models
import McpPortal.Foundation.Glob

/-!
# The tool set

Operations are classified, then selected, then named. Collision suffixes depend on
the surviving set, so naming before selection would let removing one operation
rename another. Nothing is matched on a name.
-/

namespace McpPortal

open Foundation

/-- The published operations. The table by name is the one a call is routed with. -/
structure ToolSet where
  operations : List Operation
  byName : List (String × Operation)
  warnings : List String := []
  indexed : byName = Dict.indexBy (·.name) operations
  noneShadowed : byName.length = operations.length

/-- `_matches`. -/
def specMatches (op : Operation) (spec : MatchSpec) : Bool :=
  if !spec.ids.isEmpty && !spec.ids.any (fun pattern => fnmatch op.id pattern) then false
  else if !spec.tags.isEmpty && !spec.tags.any (fun tag => decide (tag ∈ op.groupTags)) then false
  else if !spec.upstream.isEmpty && decide (op.upstream ∉ spec.upstream) then false
  else !(!spec.effect.isEmpty && decide (op.effect ∉ spec.effect))

def applyRule (op : Operation) (rule : ClassificationRule) : Operation :=
  if specMatches op rule.spec then
    { op with
      effect := rule.effect.getD op.effect
      sensitivity := rule.sensitivity.getD op.sensitivity }
  else op

/-- A later rule wins, and sees what the earlier ones changed. -/
def classify (ops : List Operation) (rules : List ClassificationRule) : List Operation :=
  ops.map fun op => rules.foldl applyRule op

/-- What the mode lets through: safe introspection keeps reads of data that is not sensitive. -/
def applyModePosture (operations : List Operation) (mode : Mode) : List Operation :=
  if mode ≠ .introspectSafe then operations
  else operations.filter fun op => op.effect = .readOnly && op.sensitivity = .normal

/-- Whether the selection keeps an operation, and the selection rules it used. -/
def keep (selection : SelectionConfig) (op : Operation) : Bool × List String :=
  let tagged (tags : List String) := tags.filter fun tag => tag ∈ op.groupTags
  let matched (ids : List String) := ids.filter fun pattern => fnmatch op.id pattern
  let includedTags := selection.includeTags.map tagged
  if includedTags = some [] then (false, [])
  else
    let used := includedTags.getD []
    let includedIds := selection.includeIds.map matched
    if includedIds = some [] then (false, used)
    else
      let used := used ++ includedIds.getD []
      let hitTags := tagged selection.excludeTags
      if hitTags ≠ [] then (false, used ++ hitTags)
      else
        let hitIds := matched selection.excludeIds
        (hitIds.isEmpty, used ++ hitIds)

def staleWarning (isPrintable : Char → Bool) (rule : String) : String :=
  "selection rule " ++ reprString isPrintable rule ++ " matched no operations; it may be stale"

/-- `_select`. -/
def select (isPrintable : Char → Bool) (ops : List Operation) (selection : SelectionConfig) :
    List Operation × List String :=
  let used := ops.flatMap fun op => (keep selection op).2
  let declared := selection.excludeTags ++ selection.excludeIds ++
    selection.includeTags.getD [] ++ selection.includeIds.getD []
  let stale := (declared.dedup.filter fun rule => rule ∉ used).insertionSort (· ≤ ·)
  (ops.filter fun op => (keep selection op).1, stale.map (staleWarning isPrintable))

/-- Names by the ids of their owners. A declared name is reserved for its operation. -/
def reserveName (owner : List (String × String)) (op : Operation) :
    Naming (List (String × String)) :=
  match Dict.get? owner op.name with
  | some first => throw (.raised (.declaredTwice first op.id op.name))
  | none => return Dict.insert owner op.name op.id

def claimGenerated (owner : List (String × String)) (generated : String × String) :
    Naming (List (String × String)) :=
  match Dict.get? owner generated.2 with
  | some declaring => throw (.raised (.generatesDeclared generated.1 generated.2 declaring))
  | none => return Dict.insert owner generated.2 generated.1

section Build

variable (unicode : PyUnicode) (suffix : String → String)

/-- Every operation without a declared name has a generated one. -/
def assignNames (selected : List Operation) (options : NamingOptions) :
    Naming (List Operation) := do
  let duplicates := sortedRepeats (selected.map (·.id))
  if duplicates ≠ [] then throw (.raised (.duplicateIds duplicates))
  let declared := selected.filter fun op => op.name ≠ ""
  let owner ← (declared.insertionSort fun left right => left.id ≤ right.id).foldlM reserveName []
  let unnamed := selected.filter fun op => op.name = ""
  let generated ← generateNames unicode suffix unnamed options
  let _ ← (generated.insertionSort fun left right => left.1 ≤ right.1).foldlM claimGenerated owner
  return selected.map fun op =>
    if op.name = "" then { op with name := (Dict.get? generated op.id).getD "" } else op

def namingOptions (config : McpPortalConfig) : NamingOptions where
  strategy := config.naming.strategy
  prefixWithGroupTag := config.naming.prefixWithGroupTag
  prefixWithUpstream := config.naming.prefixWithUpstream

/-- The operations that are left to be named. -/
def selectedOperations (operations : List Operation) (config : McpPortalConfig) :
    List Operation × List String :=
  let postured := applyModePosture (classify operations config.classification) config.mode
  select unicode.isPrintable postured config.selection

def buildToolset (operations : List Operation) (config : McpPortalConfig) : Naming ToolSet := do
  let (selected, warnings) := selectedOperations unicode operations config
  let named ← assignNames unicode suffix selected (namingOptions config)
  let byName := Dict.indexBy (·.name) named
  if noneShadowed : byName.length = named.length then
    return { operations := named, byName, warnings, indexed := rfl, noneShadowed }
  else throw .assertionError

end Build

namespace ToolSet

theorem uniqueNames (toolset : ToolSet) : (toolset.operations.map (·.name)).Nodup := by
  rw [← Dict.length_indexBy_eq_iff, ← toolset.indexed]
  exact toolset.noneShadowed

/-- A name is routed to the one operation published under it. -/
theorem get?_byName_iff (toolset : ToolSet) {name : String} {op : Operation} :
    Dict.get? toolset.byName name = some op ↔ op ∈ toolset.operations ∧ op.name = name := by
  rw [toolset.indexed, Dict.get?_indexBy_eq_some_iff toolset.uniqueNames]

end ToolSet

variable {unicode : PyUnicode} {suffix : String → String}

theorem assignNames_ok {selected named : List Operation} {options : NamingOptions}
    (ran : assignNames unicode suffix selected options = .ok named) :
    (selected.map (·.id)).Nodup ∧
      ∃ nameFor : Operation → String, named = selected.map fun op => { op with name := nameFor op } := by
  simp only [assignNames, throw_bind, check_eq_ok, bind_eq_ok, pure_eq_ok, ne_eq, not_not,
    sortedRepeats_eq_nil_iff] at ran
  rcases ran with ⟨unique, owner, _, generated, _, _, _, rfl⟩
  refine ⟨unique, fun op =>
    if op.name = "" then (Dict.get? generated op.id).getD "" else op.name, ?_⟩
  apply List.map_congr_left
  intro op _
  by_cases unnamed : op.name = "" <;> simp [unnamed]

theorem mem_selectedOperations {operations : List Operation} {config : McpPortalConfig}
    {op : Operation} :
    op ∈ (selectedOperations unicode operations config).1 ↔
      op ∈ classify operations config.classification ∧
        (config.mode = .introspectSafe → op.effect = .readOnly ∧ op.sensitivity = .normal) ∧
        (keep config.selection op).1 = true := by
  simp only [selectedOperations, select, List.mem_filter, applyModePosture]
  by_cases safe : config.mode = .introspectSafe <;> simp [safe, and_assoc]

theorem buildToolset_ok {operations : List Operation} {config : McpPortalConfig}
    {toolset : ToolSet} (built : buildToolset unicode suffix operations config = .ok toolset) :
    ∃ nameFor : Operation → String, toolset.operations =
      (selectedOperations unicode operations config).1.map fun op =>
        { op with name := nameFor op } := by
  simp only [buildToolset, bind_eq_ok] at built
  rcases built with ⟨named, assigned, indexed⟩
  split at indexed
  · cases indexed
    exact (assignNames_ok assigned).2
  · cases indexed

/-- Classifying changes the classification alone. -/
theorem foldl_applyRule (rules : List ClassificationRule) (op : Operation) :
    ∃ effect sensitivity, rules.foldl applyRule op = { op with effect, sensitivity } := by
  induction rules generalizing op with
  | nil => exact ⟨op.effect, op.sensitivity, rfl⟩
  | cons rule rest ih =>
      have first : ∃ effect sensitivity, applyRule op rule = { op with effect, sensitivity } := by
        unfold applyRule
        split
        · exact ⟨rule.effect.getD op.effect, rule.sensitivity.getD op.sensitivity, rfl⟩
        · exact ⟨op.effect, op.sensitivity, rfl⟩
      rcases first with ⟨firstEffect, firstSensitivity, applied⟩
      rcases ih (applyRule op rule) with ⟨effect, sensitivity, later⟩
      refine ⟨effect, sensitivity, ?_⟩
      rw [List.foldl_cons, later, applied]

/-- A tool is an offered operation but for its name and its classification. -/
theorem buildToolset_offered {operations : List Operation} {config : McpPortalConfig}
    {toolset : ToolSet} (built : buildToolset unicode suffix operations config = .ok toolset) :
    ∀ op ∈ toolset.operations, ∃ offered ∈ operations, ∃ name effect sensitivity,
      op = { offered with name, effect, sensitivity } := by
  rcases buildToolset_ok built with ⟨nameFor, published⟩
  intro op opMem
  rw [published] at opMem
  rcases List.mem_map.mp opMem with ⟨selected, selectedMem, rfl⟩
  have classified := (mem_selectedOperations.mp selectedMem).1
  rcases List.mem_map.mp classified with ⟨offered, offeredMem, rfl⟩
  rcases foldl_applyRule config.classification offered with ⟨effect, sensitivity, applied⟩
  rw [applied]
  exact ⟨offered, offeredMem, nameFor { offered with effect, sensitivity }, effect, sensitivity, rfl⟩

/-- Under safe introspection every tool only reads data that is not sensitive. -/
theorem buildToolset_introspectSafe {operations : List Operation} {config : McpPortalConfig}
    {toolset : ToolSet} (built : buildToolset unicode suffix operations config = .ok toolset)
    (safe : config.mode = .introspectSafe) :
    ∀ op ∈ toolset.operations, op.effect = .readOnly ∧ op.sensitivity = .normal := by
  rcases buildToolset_ok built with ⟨nameFor, published⟩
  intro op opMem
  rw [published] at opMem
  rcases List.mem_map.mp opMem with ⟨selected, selectedMem, rfl⟩
  exact (mem_selectedOperations.mp selectedMem).2.1 safe

end McpPortal
