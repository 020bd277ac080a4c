import McpPortal.Foundation.Claim
import McpPortal.Registry

/-!
# When a tool set can be named

Naming succeeds just if the selected operations have distinct ids and distinct
names, declared or generated. A generated name can always be published.
-/

namespace McpPortal

open Foundation

theorem mem_collapseRuns {inRun : Bool} {text : List Char} {char : Char}
    (charMem : char ∈ collapseRuns inRun text) : isSlugChar char = true ∨ char = '_' := by
  induction text generalizing inRun with
  | nil => cases charMem
  | cons first rest ih =>
      simp only [collapseRuns] at charMem
      split at charMem
      case isTrue letter =>
        rcases List.mem_cons.mp charMem with rfl | later
        · exact Or.inl letter
        · exact ih later
      case isFalse =>
        split at charMem
        · exact ih charMem
        · rcases List.mem_cons.mp charMem with rfl | later
          · exact Or.inr rfl
          · exact ih later

/-- The characters of a tool name. -/
def NameChars (text : String) : Prop :=
  ∀ char ∈ text.toList, isSlugChar char = true ∨ char = '_'

theorem nameChars_slug (text : String) : NameChars (slug text) := by
  intro char charMem
  rw [slug, String.toList_ofList, stripBy] at charMem
  have unstripped := (List.rdropWhile_prefix _ _).mem charMem
  exact mem_collapseRuns ((List.dropWhile_sublist _).mem unstripped)

theorem NameChars.append {left right : String} (isLeft : NameChars left)
    (isRight : NameChars right) : NameChars (left ++ right) := by
  intro char charMem
  rw [String.toList_append] at charMem
  rcases List.mem_append.mp charMem with leftMem | rightMem
  · exact isLeft char leftMem
  · exact isRight char rightMem

theorem NameChars.truncated {name : String} (isName : NameChars name) :
    NameChars (truncated name) := by
  intro char charMem
  rw [McpPortal.truncated, String.toList_ofList] at charMem
  exact isName char (List.mem_of_mem_take charMem)

theorem isToolName_iff {text : String} :
    isToolName text = true ↔
      NameChars text ∧ 1 ≤ text.toList.length ∧ text.toList.length ≤ maxNameLength := by
  simp only [isToolName, Bool.and_eq_true, decide_eq_true_eq, List.all_eq_true, Bool.or_eq_true,
    NameChars]
  tauto

/-- The beginning of a digest: hexadecimal digits. -/
structure IsDigest (suffix : String → String) : Prop where
  digits : ∀ text, NameChars (suffix text)
  length : ∀ text, (suffix text).toList.length = suffixLength

section Generated

variable {unicode : PyUnicode} {suffix : String → String} (digest : IsDigest suffix)
include digest

theorem IsDigest.isToolName_suffixed {name : String} (isName : NameChars name) (text : String) :
    isToolName (truncated name ++ "_" ++ suffix text) = true := by
  have underscore : NameChars "_" := by
    intro char charMem
    exact Or.inr (List.mem_singleton.mp charMem)
  rw [isToolName_iff]
  refine ⟨(isName.truncated.append underscore).append (digest.digits text), ?_⟩
  have short : (truncated name).toList.length ≤ truncateTo := by
    rw [truncated, String.toList_ofList, List.length_take]
    exact Nat.min_le_left _ _
  have suffixed := digest.length text
  have one : "_".toList.length = 1 := rfl
  simp only [String.toList_append, List.length_append, one]
  simp only [maxNameLength, suffixLength, truncateTo] at *
  omega

theorem nameChars_baseName (op : Operation) (options : NamingOptions) :
    NameChars (baseName unicode suffix op options) ∧
      baseName unicode suffix op options ≠ "" := by
  have opening : NameChars "op_" := by
    intro char charMem
    have isOne : char = 'o' ∨ char = 'p' ∨ char = '_' := by simpa using charMem
    rcases isOne with rfl | rfl | rfl <;> decide
  unfold baseName normalize
  simp only
  generalize joinWith "_" _ = parts
  split
  case isTrue =>
    refine ⟨opening.append (digest.digits op.id), ?_⟩
    simp
  case isFalse nonempty => exact ⟨nameChars_slug _, nonempty⟩

theorem isToolName_cap {name : String} (isName : NameChars name) (nonempty : name ≠ "") :
    isToolName (cap suffix name) = true := by
  unfold cap
  split
  case isTrue short =>
    rw [isToolName_iff]
    refine ⟨isName, ?_, short⟩
    rw [Nat.one_le_iff_ne_zero, Ne, List.length_eq_zero_iff]
    simpa using nonempty
  case isFalse => exact digest.isToolName_suffixed isName name

end Generated

section Published

variable (unicode : PyUnicode) (suffix : String → String) (options : NamingOptions)

def cappedName (op : Operation) : String :=
  cap suffix (baseName unicode suffix op options)

/-- The name generated for one of the operations without a declared name. -/
def generatedName (unnamed : List Operation) (op : Operation) : String :=
  let base := cappedName unicode suffix options op
  if (unnamed.map (cappedName unicode suffix options)).count base = 1 then base
  else truncated base ++ "_" ++ suffix op.id

/-- The name an operation of the selection is published under. -/
def publishedName (selected : List Operation) (op : Operation) : String :=
  if op.name = "" then
    generatedName unicode suffix options (selected.filter fun op => op.name = "") op
  else op.name

variable {unicode suffix options}

theorem isToolName_generatedName (digest : IsDigest suffix) (unnamed : List Operation)
    (op : Operation) : isToolName (generatedName unicode suffix options unnamed op) = true := by
  have based := @nameChars_baseName unicode suffix digest op options
  have capped : isToolName (cappedName unicode suffix options op) = true :=
    isToolName_cap digest based.1 based.2
  unfold generatedName
  simp only
  split
  case isTrue => exact capped
  case isFalse => exact digest.isToolName_suffixed (isToolName_iff.mp capped).1 op.id

/-- The generated names in the order in which they are claimed. -/
def listedNames (unicode : PyUnicode) (suffix : String → String) (options : NamingOptions)
    (unnamed : List Operation) : List (String × String) :=
  (unnamed.insertionSort fun left right => left.id ≤ right.id).map fun op =>
    (op.id, generatedName unicode suffix options unnamed op)

theorem perm_listedNames (unnamed : List Operation) :
    ((listedNames unicode suffix options unnamed).map (·.2)).Perm
      (unnamed.map (generatedName unicode suffix options unnamed)) := by
  rw [listedNames, List.map_map]
  exact (List.perm_insertionSort _ _).map _

/-- Of operations with distinct ids each gets its name, unless two of the names are alike. -/
theorem generateNames_eq (digest : IsDigest suffix) {unnamed : List Operation}
    (unique : (unnamed.map (·.id)).Nodup) :
    generateNames unicode suffix unnamed options =
      if sortedRepeats ((listedNames unicode suffix options unnamed).map (·.2)) ≠ [] then
        throw (.raised (.survivedSuffixing
          (sortedRepeats ((listedNames unicode suffix options unnamed).map (·.2)))))
      else return listedNames unicode suffix options unnamed := by
  have noRepeats : sortedRepeats (unnamed.map (·.id)) = [] := sortedRepeats_eq_nil_iff.mpr unique
  have asListed : Dict.ofList (unnamed.map fun op =>
      (op.id, cap suffix (baseName unicode suffix op options))) =
        unnamed.map fun op => (op.id, cappedName unicode suffix options op) := by
    apply Dict.ofList_of_nodup
    rw [Dict.keys, List.map_map]
    exact unique
  have listed : (((unnamed.map fun op =>
      (op.id, cappedName unicode suffix options op)).insertionSort
        fun left right => left.1 ≤ right.1).map fun entry =>
          if ((unnamed.map fun op => (op.id, cappedName unicode suffix options op)).map
            (·.2)).count entry.2 = 1 then entry
          else (entry.1, truncated entry.2 ++ "_" ++ suffix entry.1)) =
      listedNames unicode suffix options unnamed := by
    have sorted := List.map_insertionSort (r := fun left right : Operation => left.id ≤ right.id)
      (s := fun left right : String × String => left.1 ≤ right.1)
      (fun op => (op.id, cappedName unicode suffix options op)) unnamed fun _ _ _ _ => Iff.rfl
    rw [← sorted, List.map_map, List.map_map, listedNames]
    apply List.map_congr_left
    intro op _
    simp only [Function.comp_apply, generatedName, Function.comp_def]
    split <;> rfl
  have published : ((listedNames unicode suffix options unnamed).map (·.2)).all isToolName =
      true := by
    rw [List.all_eq_true]
    intro name nameMem
    rcases List.mem_map.mp ((perm_listedNames unnamed).mem_iff.mp nameMem) with ⟨op, _, rfl⟩
    exact isToolName_generatedName digest unnamed op
  simp only [generateNames, noRepeats, asListed, listed, throw_bind, published, Bool.not_true,
    Bool.false_eq_true, if_false, ne_eq, not_true_eq_false]

/-- Names are generated for operations with distinct ids just if the names are distinct. -/
theorem generateNames_ok_iff (digest : IsDigest suffix) {unnamed : List Operation}
    (unique : (unnamed.map (·.id)).Nodup) {names : List (String × String)} :
    generateNames unicode suffix unnamed options = .ok names ↔
      (unnamed.map (generatedName unicode suffix options unnamed)).Nodup ∧
        names = (unnamed.insertionSort fun left right => left.id ≤ right.id).map fun op =>
          (op.id, generatedName unicode suffix options unnamed op) := by
  simp only [generateNames_eq digest unique, check_eq_ok, pure_eq_ok, ne_eq, not_not,
    sortedRepeats_eq_nil_iff, (perm_listedNames unnamed).nodup_iff]
  exact and_congr_right fun _ => eq_comm

theorem claims_reserveName : Claims reserveName Operation.name Operation.id := by
  constructor
  · intro entries op next stepped
    unfold reserveName at stepped
    split at stepped
    · cases stepped
    case h_2 absent => exact Dict.get?_eq_none_iff.mp absent
  · intro entries op isFree
    rw [reserveName, Dict.get?_eq_none_iff.mpr isFree]
    rfl

theorem claims_claimGenerated : Claims claimGenerated Prod.snd Prod.fst := by
  constructor
  · intro entries generated next stepped
    unfold claimGenerated at stepped
    split at stepped
    · cases stepped
    case h_2 absent => exact Dict.get?_eq_none_iff.mp absent
  · intro entries generated isFree
    rw [claimGenerated, Dict.get?_eq_none_iff.mpr isFree]
    rfl

/-- The names of the declared and of the unnamed operations are those of all. -/
theorem perm_publishedNames (selected : List Operation) :
    (((selected.filter fun op => op.name ≠ "").map (·.name)) ++
      (selected.filter fun op => op.name = "").map (generatedName unicode suffix options
        (selected.filter fun op => op.name = ""))).Perm
      (selected.map (publishedName unicode suffix options selected)) := by
  have declared : (selected.filter fun op => op.name ≠ "").map (·.name) =
      (selected.filter fun op => op.name ≠ "").map
        (publishedName unicode suffix options selected) := by
    apply List.map_congr_left
    intro op opMem
    have named : op.name ≠ "" := of_decide_eq_true (List.mem_filter.mp opMem).2
    exact (if_neg named).symm
  have generated : (selected.filter fun op => op.name = "").map (generatedName unicode suffix options
      (selected.filter fun op => op.name = "")) =
        (selected.filter fun op => op.name = "").map
          (publishedName unicode suffix options selected) := by
    apply List.map_congr_left
    intro op opMem
    have unnamed : op.name = "" := of_decide_eq_true (List.mem_filter.mp opMem).2
    exact (if_pos unnamed).symm
  rw [declared, generated, ← List.map_append]
  apply List.Perm.map
  have split := List.filter_append_perm (fun op : Operation => decide (op.name = "")) selected
  refine (List.perm_append_comm).trans (split.symm.trans ?_).symm
  simp

/-- A selection is named just if its ids and its names are distinct. -/
theorem exists_assignNames_iff (digest : IsDigest suffix) (selected : List Operation) :
    (∃ named, assignNames unicode suffix selected options = .ok named) ↔
      (selected.map (·.id)).Nodup ∧
        (selected.map (publishedName unicode suffix options selected)).Nodup := by
  have declaredPerm : (((selected.filter fun op => op.name ≠ "").insertionSort
      fun left right => left.id ≤ right.id).map (·.name)).Perm
        ((selected.filter fun op => op.name ≠ "").map (·.name)) :=
    (List.perm_insertionSort _ _).map _
  have namedFrom {owner names : List (String × String)}
      (reserved : ((selected.filter fun op => op.name ≠ "").insertionSort
        fun left right => left.id ≤ right.id).foldlM reserveName [] = .ok owner)
      (generated : names = ((selected.filter fun op => op.name = "").insertionSort
        fun left right => left.id ≤ right.id).map fun op => (op.id, generatedName unicode suffix
          options (selected.filter fun op => op.name = "") op)) :
      (∃ final, (names.insertionSort fun left right => left.1 ≤ right.1).foldlM claimGenerated
          owner = .ok final) ↔
        ((selected.filter fun op => op.name = "").map (generatedName unicode suffix options
          (selected.filter fun op => op.name = ""))).Nodup ∧
          ((selected.filter fun op => op.name ≠ "").map (·.name)).Disjoint
            ((selected.filter fun op => op.name = "").map (generatedName unicode suffix options
              (selected.filter fun op => op.name = ""))) := by
    have owned := claims_reserveName.keys_foldlM reserved
    rw [Dict.keys_nil, List.nil_append] at owned
    have namesPerm : ((names.insertionSort fun left right => left.1 ≤ right.1).map Prod.snd).Perm
        ((selected.filter fun op => op.name = "").map (generatedName unicode suffix options
          (selected.filter fun op => op.name = ""))) := by
      refine ((List.perm_insertionSort _ _).map _).trans ?_
      rw [generated, List.map_map]
      exact (List.perm_insertionSort _ _).map _
    rw [claims_claimGenerated.foldlM_ok_iff, namesPerm.nodup_iff]
    apply and_congr_right
    intro _
    rw [List.disjoint_comm]
    constructor
    · intro unclaimed name nameMem declared
      rcases List.mem_map.mp (namesPerm.mem_iff.mpr nameMem) with ⟨entry, entryMem, rfl⟩
      apply unclaimed entry entryMem
      rw [owned]
      exact declaredPerm.mem_iff.mpr declared
    · intro disjoint entry entryMem taken
      rw [owned] at taken
      exact disjoint (namesPerm.mem_iff.mp (List.mem_map_of_mem entryMem))
        (declaredPerm.mem_iff.mp taken)
  rw [← (perm_publishedNames selected).nodup_iff, List.nodup_append']
  simp only [assignNames, throw_bind, check_eq_ok, bind_eq_ok, pure_eq_ok, ne_eq, not_not,
    sortedRepeats_eq_nil_iff] at *
  constructor
  · rintro ⟨named, unique, owner, reserved, names, generates, final, claimed, _⟩
    have unnamedUnique : ((selected.filter fun op => op.name = "").map (·.id)).Nodup :=
      unique.sublist (List.filter_sublist.map _)
    rcases (generateNames_ok_iff digest unnamedUnique).mp generates with ⟨_, listed⟩
    have declaredNodup := (claims_reserveName.foldlM_ok_iff.mp ⟨owner, reserved⟩).1
    exact ⟨unique, declaredPerm.nodup_iff.mp declaredNodup,
      (namedFrom reserved listed).mp ⟨final, claimed⟩⟩
  · rintro ⟨unique, declaredNodup, generatedNodup, disjoint⟩
    have unnamedUnique : ((selected.filter fun op => op.name = "").map (·.id)).Nodup :=
      unique.sublist (List.filter_sublist.map _)
    have fresh : ∀ op ∈ (selected.filter fun op => op.name ≠ "").insertionSort
        (fun left right => left.id ≤ right.id), op.name ∉ Dict.keys ([] : List (String × String)) :=
      fun _ _ => List.not_mem_nil
    rcases claims_reserveName.foldlM_ok_iff.mpr
      ⟨declaredPerm.nodup_iff.mpr declaredNodup, fresh⟩ with ⟨owner, reserved⟩
    have generates := (generateNames_ok_iff digest unnamedUnique).mpr ⟨generatedNodup, rfl⟩
    rcases (namedFrom reserved rfl).mpr ⟨generatedNodup, disjoint⟩ with ⟨final, claimed⟩
    exact ⟨_, unique, owner, reserved, _, generates, final, claimed, rfl⟩

/-- What is assigned are the names that are published. -/
theorem assignNames_eq_publishedName (digest : IsDigest suffix) {selected named : List Operation}
    (ran : assignNames unicode suffix selected options = .ok named) :
    named.map (·.name) = selected.map (publishedName unicode suffix options selected) := by
  simp only [assignNames, throw_bind, check_eq_ok, bind_eq_ok, pure_eq_ok, ne_eq, not_not,
    sortedRepeats_eq_nil_iff] at ran
  rcases ran with ⟨unique, owner, _, names, generates, final, _, rfl⟩
  have unnamedUnique : ((selected.filter fun op => op.name = "").map (·.id)).Nodup :=
    unique.sublist (List.filter_sublist.map _)
  rcases (generateNames_ok_iff digest unnamedUnique).mp generates with ⟨_, rfl⟩
  rw [List.map_map]
  apply List.map_congr_left
  intro op opMem
  by_cases unnamed : op.name = ""
  · have namesUnique : (Dict.keys (((selected.filter fun op => op.name = "").insertionSort
        fun left right => left.id ≤ right.id).map fun op => (op.id, generatedName unicode suffix
          options (selected.filter fun op => op.name = "") op))).Nodup := by
      rw [Dict.keys, List.map_map]
      exact (((List.perm_insertionSort _ _).map _).nodup_iff).mpr unnamedUnique
    have listed : (op.id, generatedName unicode suffix options
        (selected.filter fun op => op.name = "") op) ∈
          ((selected.filter fun op => op.name = "").insertionSort
            fun left right => left.id ≤ right.id).map fun op => (op.id, generatedName unicode suffix
              options (selected.filter fun op => op.name = "") op) := by
      apply List.mem_map_of_mem (f := fun op : Operation => (op.id, generatedName unicode suffix
        options (selected.filter fun op => op.name = "") op))
      rw [List.mem_insertionSort]
      exact List.mem_filter.mpr ⟨opMem, decide_eq_true unnamed⟩
    have found := (Dict.get?_eq_some_iff namesUnique).mpr listed
    simp only [Function.comp_apply, unnamed, if_true, found, Option.getD_some, publishedName]
  · simp only [Function.comp_apply, unnamed, if_false, publishedName]

/-- A tool set is built just if the selected operations have distinct ids and names. -/
theorem exists_buildToolset_iff (digest : IsDigest suffix) {operations selected : List Operation}
    {config : McpPortalConfig} (selects : (selectedOperations unicode operations config).1 = selected) :
    (∃ toolset, buildToolset unicode suffix operations config = .ok toolset) ↔
      (selected.map (·.id)).Nodup ∧
        (selected.map (publishedName unicode suffix (namingOptions config) selected)).Nodup := by
  subst selects
  rw [← exists_assignNames_iff digest]
  constructor
  · rintro ⟨toolset, built⟩
    simp only [buildToolset, bind_eq_ok] at built
    rcases built with ⟨named, assigned, _⟩
    exact ⟨named, assigned⟩
  · rintro ⟨named, assigned⟩
    have distinct := ((exists_assignNames_iff digest _).mp ⟨named, assigned⟩).2
    rw [← assignNames_eq_publishedName digest assigned, ← Dict.length_indexBy_eq_iff] at distinct
    simp only [buildToolset, bind_eq_ok]
    exact ⟨_, named, assigned, dif_pos distinct⟩

end Published

end McpPortal
