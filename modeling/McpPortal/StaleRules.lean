import McpPortal.Foundation.ReprText
import McpPortal.Registry

/-!
# Stale selection rules

The selection warns about a rule that no operation used. A filter that drops an
operation early keeps the later rules from being compared with it, so a rule is used by
an operation only if it is reached.
-/

namespace McpPortal

open Foundation

section Reached

variable (selection : SelectionConfig) (op : Operation)

/-- The operation carries an included tag, where tags are included at all. -/
def PassesIncludeTags : Prop :=
  ∀ tags, selection.includeTags = some tags → ∃ tag ∈ tags, tag ∈ op.groupTags

def PassesIncludeIds : Prop :=
  ∀ patterns, selection.includeIds = some patterns →
    ∃ pattern ∈ patterns, fnmatch op.id pattern = true

def PassesExcludeTags : Prop :=
  ∀ tag ∈ selection.excludeTags, tag ∉ op.groupTags

/-- The tag is compared with the operation, which carries it. -/
def UsesTag (tag : String) : Prop :=
  tag ∈ op.groupTags ∧
    (tag ∈ selection.includeTags.getD [] ∨
      tag ∈ selection.excludeTags ∧ PassesIncludeTags selection op ∧ PassesIncludeIds selection op)

/-- The pattern is compared with the operation, whose id it matches. -/
def UsesPattern (pattern : String) : Prop :=
  fnmatch op.id pattern = true ∧ PassesIncludeTags selection op ∧
    (pattern ∈ selection.includeIds.getD [] ∨
      pattern ∈ selection.excludeIds ∧ PassesIncludeIds selection op ∧
        PassesExcludeTags selection op)

variable {selection op}

theorem passesIncludeTags_iff :
    PassesIncludeTags selection op ↔
      selection.includeTags.map (·.filter fun tag => tag ∈ op.groupTags) ≠ some [] := by
  unfold PassesIncludeTags
  cases selection.includeTags with
  | none => simp
  | some tags => simp [List.filter_eq_nil_iff]

theorem passesIncludeIds_iff :
    PassesIncludeIds selection op ↔
      selection.includeIds.map (·.filter fun pattern => fnmatch op.id pattern) ≠ some [] := by
  unfold PassesIncludeIds
  cases selection.includeIds with
  | none => simp
  | some patterns => simp [List.filter_eq_nil_iff]

theorem mem_getD_map_filter {accepts : String → Bool} {rules : Option (List String)}
    {rule : String} :
    rule ∈ (rules.map (·.filter accepts)).getD [] ↔ rule ∈ rules.getD [] ∧ accepts rule = true := by
  cases rules with
  | none => simp
  | some rules => simp [List.mem_filter]

theorem passesIncludeTags_of_mem {tag : String} (included : tag ∈ selection.includeTags.getD [])
    (carried : tag ∈ op.groupTags) : PassesIncludeTags selection op := by
  intro tags isTags
  rw [isTags, Option.getD_some] at included
  exact ⟨tag, included, carried⟩

theorem passesIncludeIds_of_mem {pattern : String}
    (included : pattern ∈ selection.includeIds.getD []) (hit : fnmatch op.id pattern = true) :
    PassesIncludeIds selection op := by
  intro patterns isPatterns
  rw [isPatterns, Option.getD_some] at included
  exact ⟨pattern, included, hit⟩

theorem passesExcludeTags_iff :
    PassesExcludeTags selection op ↔
      (selection.excludeTags.filter fun tag => tag ∈ op.groupTags) = [] := by
  simp [PassesExcludeTags, List.filter_eq_nil_iff]

/-- The rules an operation uses are the tags and patterns that are compared with it. -/
theorem mem_keep_iff {rule : String} :
    rule ∈ (keep selection op).2 ↔ UsesTag selection op rule ∨ UsesPattern selection op rule := by
  unfold keep UsesTag UsesPattern
  dsimp only
  split
  case isTrue dropped =>
    have fails : ¬PassesIncludeTags selection op := mt passesIncludeTags_iff.mp (not_not.mpr dropped)
    have uncarried : rule ∈ selection.includeTags.getD [] → rule ∉ op.groupTags :=
      fun included carried => fails (passesIncludeTags_of_mem included carried)
    simp only [List.not_mem_nil]
    grind
  case isFalse kept =>
    have passesTags := passesIncludeTags_iff.mpr kept
    split
    case isTrue dropped =>
      have fails : ¬PassesIncludeIds selection op := mt passesIncludeIds_iff.mp (not_not.mpr dropped)
      have unmatched : rule ∈ selection.includeIds.getD [] → ¬fnmatch op.id rule = true :=
        fun included hit => fails (passesIncludeIds_of_mem included hit)
      simp only [mem_getD_map_filter, decide_eq_true_eq]
      grind
    case isFalse kept =>
      have passesIds := passesIncludeIds_iff.mpr kept
      split
      case isTrue hit =>
        have fails : ¬PassesExcludeTags selection op := mt passesExcludeTags_iff.mp hit
        simp only [List.mem_append, mem_getD_map_filter, List.mem_filter, decide_eq_true_eq]
        grind
      case isFalse kept =>
        have passes := passesExcludeTags_iff.mpr (not_not.mp kept)
        have uncarried := passes rule
        simp only [List.mem_append, mem_getD_map_filter, List.mem_filter, decide_eq_true_eq]
        grind

end Reached

variable (isPrintable : Char → Bool) (ops : List Operation) (selection : SelectionConfig)

def declaredTags : List String :=
  selection.includeTags.getD [] ++ selection.excludeTags

def declaredPatterns : List String :=
  selection.includeIds.getD [] ++ selection.excludeIds

/-- No tag and pattern are spelled alike. -/
def SpelledApart : Prop :=
  ∀ tag ∈ declaredTags selection, tag ∉ declaredPatterns selection

def WarnsAbout (rule : String) : Prop :=
  staleWarning isPrintable rule ∈ (select isPrintable ops selection).2

/-- The selection warns about the tags that no operation carries and the patterns that match no
operation's id. -/
structure WarnsExactly : Prop where
  tags : ∀ tag ∈ declaredTags selection,
    WarnsAbout isPrintable ops selection tag ↔ ∀ op ∈ ops, tag ∉ op.groupTags
  patterns : ∀ pattern ∈ declaredPatterns selection,
    WarnsAbout isPrintable ops selection pattern ↔ ∀ op ∈ ops, fnmatch op.id pattern = false

/-- A tag that is carried, or a pattern that matches, is compared with one of the operations that
carry it or that it matches. -/
structure NothingHidden : Prop where
  tags : ∀ tag ∈ declaredTags selection, ∀ op ∈ ops, tag ∈ op.groupTags →
    ∃ other ∈ ops, UsesTag selection other tag
  patterns : ∀ pattern ∈ declaredPatterns selection, ∀ op ∈ ops, fnmatch op.id pattern = true →
    ∃ other ∈ ops, UsesPattern selection other pattern

variable {isPrintable ops selection}

/-- A text that is quoted within others can be told from them. -/
theorem quoted_injective {opening closing : String}
    (opens : opening.toList.getLast? ≠ some '\\') :
    Function.Injective fun text => opening ++ reprString isPrintable text ++ closing := by
  intro left right same
  have chars := congrArg String.toList same
  simp only [String.toList_append, List.append_cancel_right_eq] at chars
  exact (reprString_unique isPrintable opens opens chars).2

theorem staleWarning_injective : Function.Injective (staleWarning isPrintable) := by
  have opens : "selection rule ".toList.getLast? ≠ some '\\' := by decide
  exact quoted_injective opens

/-- A declared rule is warned about if no operation uses it. -/
theorem warnsAbout_iff {rule : String}
    (declared : rule ∈ declaredTags selection ++ declaredPatterns selection) :
    WarnsAbout isPrintable ops selection rule ↔ ∀ op ∈ ops, rule ∉ (keep selection op).2 := by
  have isDeclared : rule ∈ selection.excludeTags ++ selection.excludeIds ++
      selection.includeTags.getD [] ++ selection.includeIds.getD [] := by
    simp only [declaredTags, declaredPatterns, List.mem_append] at declared ⊢
    tauto
  unfold WarnsAbout select
  dsimp only
  rw [List.mem_map_of_injective staleWarning_injective, List.mem_insertionSort, List.mem_filter,
    List.mem_dedup, decide_eq_true_eq]
  simp only [isDeclared, true_and, List.mem_flatMap, not_exists, not_and]

theorem warnsAbout_tag_iff (apart : SpelledApart selection) {tag : String}
    (declared : tag ∈ declaredTags selection) :
    WarnsAbout isPrintable ops selection tag ↔ ∀ op ∈ ops, ¬UsesTag selection op tag := by
  have noPattern : ∀ op, ¬UsesPattern selection op tag := by
    rintro op ⟨_, _, isPattern⟩
    apply apart tag declared
    unfold declaredPatterns
    rw [List.mem_append]
    exact isPattern.imp_right And.left
  rw [warnsAbout_iff (List.mem_append_left _ declared)]
  simp only [mem_keep_iff, noPattern, or_false]

theorem warnsAbout_pattern_iff (apart : SpelledApart selection) {pattern : String}
    (declared : pattern ∈ declaredPatterns selection) :
    WarnsAbout isPrintable ops selection pattern ↔ ∀ op ∈ ops, ¬UsesPattern selection op pattern := by
  have noTag : ∀ op, ¬UsesTag selection op pattern := by
    rintro op ⟨_, isTag⟩
    refine apart pattern ?_ declared
    unfold declaredTags
    rw [List.mem_append]
    exact isTag.imp_right And.left
  rw [warnsAbout_iff (List.mem_append_right _ declared)]
  simp only [mem_keep_iff, noTag, false_or]

/-- The warnings are exact if no rule is hidden from all operations it concerns. -/
theorem select_warnsExactly_iff (apart : SpelledApart selection) :
    WarnsExactly isPrintable ops selection ↔ NothingHidden ops selection := by
  constructor
  · intro exactly
    constructor
    · intro tag declared op opMem carried
      by_contra unused
      have warned : WarnsAbout isPrintable ops selection tag :=
        (warnsAbout_tag_iff apart declared).mpr fun other otherMem uses =>
          unused ⟨other, otherMem, uses⟩
      exact (exactly.tags tag declared).mp warned op opMem carried
    · intro pattern declared op opMem hit
      by_contra unused
      have warned : WarnsAbout isPrintable ops selection pattern :=
        (warnsAbout_pattern_iff apart declared).mpr fun other otherMem uses =>
          unused ⟨other, otherMem, uses⟩
      cases hit.symm.trans ((exactly.patterns pattern declared).mp warned op opMem)
  · intro visible
    constructor
    · intro tag declared
      rw [warnsAbout_tag_iff apart declared]
      constructor
      · intro unused op opMem carried
        rcases visible.tags tag declared op opMem carried with ⟨other, otherMem, uses⟩
        exact unused other otherMem uses
      · intro uncarried op opMem uses
        exact uncarried op opMem uses.1
    · intro pattern declared
      rw [warnsAbout_pattern_iff apart declared]
      constructor
      · intro unused op opMem
        rw [Bool.eq_false_iff]
        intro hit
        rcases visible.patterns pattern declared op opMem hit with ⟨other, otherMem, uses⟩
        exact unused other otherMem uses
      · rintro unmatched op opMem ⟨hit, _⟩
        cases hit.symm.trans (unmatched op opMem)

private def billingOperation : Operation where
  id := "list_invoices"
  upstream := "billing"
  name := ""
  title := ""
  description := ""
  groupTags := ["billing"]
  effect := .readOnly
  sensitivity := .normal
  inputSchema := []
  binding := .http { method := "GET", path := "/invoices" }

private def listsWithoutBilling : SelectionConfig where
  includeIds := some ["list_*"]
  excludeTags := ["billing"]

private def publicWithoutBilling : SelectionConfig where
  includeTags := some ["public"]
  excludeTags := ["billing"]

/-- The pattern lets the operation through to the tag that excludes it. -/
theorem select_warnsExactly_iff_billing :
    WarnsExactly (fun _ => true) [billingOperation] listsWithoutBilling := by
  have listed : fnmatch billingOperation.id "list_*" = true := by decide
  have tagsPass : PassesIncludeTags listsWithoutBilling billingOperation := by
    intro tags isTags
    cases isTags
  apply (select_warnsExactly_iff (by
    simp [SpelledApart, declaredTags, declaredPatterns, listsWithoutBilling])).mpr
  constructor
  · intro tag declared op opMem carried
    have isTag : tag = "billing" := List.mem_singleton.mp declared
    subst isTag
    refine ⟨billingOperation, List.mem_cons_self, by decide, Or.inr ⟨by decide, tagsPass, ?_⟩⟩
    rintro _ ⟨⟩
    exact ⟨"list_*", List.mem_cons_self, listed⟩
  · intro pattern declared op opMem hit
    have isPattern : pattern = "list_*" := List.mem_singleton.mp declared
    subst isPattern
    exact ⟨billingOperation, List.mem_cons_self, listed, tagsPass, Or.inl List.mem_cons_self⟩

/-- The included tag drops the operation before the excluded one is compared with it. -/
theorem select_warns_of_carried_tag :
    SpelledApart publicWithoutBilling ∧
      ¬WarnsExactly (fun _ => true) [billingOperation] publicWithoutBilling := by
  refine ⟨by simp [SpelledApart, declaredPatterns, publicWithoutBilling], ?_⟩
  intro exactly
  have warned : WarnsAbout (fun _ => true) [billingOperation] publicWithoutBilling "billing" := by
    unfold WarnsAbout
    decide
  have uncarried := (exactly.tags "billing" (by decide)).mp warned billingOperation
    List.mem_cons_self
  exact uncarried (by decide)

end McpPortal
