import McpPortal.Configure.OverwrittenPolicy
import McpPortal.Foundation.JsonIndent

/-!
# The text of the policy file

What `configure` writes to a policy file is read again by every later load. JSON is written and
read here. YAML goes through libraries, which are given by what they do to the data of a file.
-/

namespace McpPortal

open Foundation

open JsonText (Readable readableItems_iff readableFields_iff)

section Readable

variable {readFloat : String → PyFloat}

theorem readable_arr_map {α : Type} {encode : α → Json} {items : List α}
    (readable : ∀ item ∈ items, Readable readFloat (encode item)) :
    Readable readFloat (.arr (items.map encode)) := by
  apply readableItems_iff.mpr
  intro encoded encodedMem
  rcases List.mem_map.mp encodedMem with ⟨item, itemMem, rfl⟩
  exact readable item itemMem

theorem readable_strings (texts : List String) :
    Readable readFloat (.arr (texts.map .str)) :=
  readable_arr_map fun _ _ => trivial

/-- The fields that are present are read back if all are. -/
theorem readable_present {entries : List (String × Option Json)}
    (unique : (Dict.keys entries).Nodup)
    (readable : ∀ key value, (key, some value) ∈ entries → Readable readFloat value) :
    Readable readFloat (.obj (Dict.present entries)) := by
  refine ⟨unique.sublist (Dict.keys_present_sublist entries), ?_⟩
  apply readableFields_iff.mpr
  rintro ⟨key, value⟩ fieldMem
  exact readable key value (Dict.mem_present.mp fieldMem)

theorem readable_requirement (requirement : AuthorizationDetailRequirement) :
    Readable readFloat requirement.modelDump := by
  apply readable_present requirement.nodup_dumpFields
  have strings : ∀ (values : Option (List String)) (value : Json),
      (values.map fun texts => Json.arr (texts.map .str)) = some value →
        Readable readFloat value := by
    intro values value isValue
    rcases Option.map_eq_some_iff.mp isValue with ⟨texts, _, rfl⟩
    exact readable_strings texts
  intro key value fieldMem
  simp only [AuthorizationDetailRequirement.dumpFields, List.mem_cons, Prod.mk.injEq,
    List.not_mem_nil, or_false] at fieldMem
  rcases fieldMem with ⟨_, isType⟩ | ⟨_, isValue⟩ | ⟨_, isValue⟩ | ⟨_, isValue⟩ |
    ⟨_, isIdentifier⟩ | ⟨_, isValue⟩
  · cases isType
    trivial
  · exact strings _ value isValue.symm
  · exact strings _ value isValue.symm
  · exact strings _ value isValue.symm
  · rcases Option.map_eq_some_iff.mp isIdentifier.symm with ⟨_, _, rfl⟩
    trivial
  · exact strings _ value isValue.symm

theorem readable_matchSpec (spec : PolicyMatchSpec) : Readable readFloat spec.modelDump := by
  have effects : Readable readFloat (.arr (spec.effect.map fun effect => .str effect.value)) :=
    readable_arr_map fun _ _ => trivial
  have sensitivities : Readable readFloat
      (.arr (spec.sensitivity.map fun sensitivity => .str sensitivity.value)) :=
    readable_arr_map fun _ _ => trivial
  refine ⟨by simp, ?_⟩
  exact ⟨readable_strings _, readable_strings _, readable_strings _, effects, sensitivities,
    trivial⟩

theorem readable_rule (rule : PolicyRule) : Readable readFloat rule.modelDump := by
  apply readable_present (by simp [PolicyRule.dumpFields])
  intro key value fieldMem
  simp only [PolicyRule.dumpFields, List.mem_cons, Prod.mk.injEq, List.not_mem_nil,
    or_false] at fieldMem
  rcases fieldMem with ⟨_, isSpec⟩ | ⟨_, isRequire⟩ | ⟨_, isOutbound⟩
  · cases isSpec
    exact readable_matchSpec rule.spec
  · rcases Option.map_eq_some_iff.mp isRequire.symm with ⟨require, _, rfl⟩
    refine ⟨by simp, ?_, trivial⟩
    exact readable_arr_map fun detail _ => readable_requirement detail
  · cases isOutbound
    exact ⟨by simp, trivial, trivial⟩

theorem readable_generatedRuleData (id : String) (require : RequiredDetail) :
    Readable readFloat (generatedRuleData id require) := by
  have ids : Readable readFloat (.obj [("ids", .arr [.str id])]) :=
    ⟨by simp, ⟨trivial, trivial⟩, trivial⟩
  refine ⟨by simp, ids, ⟨by simp, ⟨?_, trivial⟩, trivial⟩, trivial⟩
  split
  · exact ⟨by simp, trivial, trivial⟩
  · exact ⟨by simp, trivial, readable_strings _, trivial⟩

/-- The data of a policy file has no floats, and no object has a field twice. -/
theorem readable_renderPolicy (decisions : List OperationDecision)
    (existing : Option PolicyConfig) :
    Readable readFloat (renderPolicy decisions existing) := by
  have rules : Readable readFloat
      (.arr ((foreignRules (decisionIds decisions) existing).map (·.modelDump) ++
        (generatedRequirements decisions existing).map fun requirement =>
          generatedRuleData requirement.1 requirement.2)) := by
    apply readableItems_iff.mpr
    intro data dataMem
    rcases List.mem_append.mp dataMem with foreignMem | ownedMem
    · rcases List.mem_map.mp foreignMem with ⟨rule, _, rfl⟩
      exact readable_rule rule
    · rcases List.mem_map.mp ownedMem with ⟨⟨id, require⟩, _, rfl⟩
      exact readable_generatedRuleData id require
  cases existing with
  | none => exact ⟨by simp, trivial, rules, trivial⟩
  | some policy =>
      have defaults : Readable readFloat
          (.obj [("unmatched", .str policy.defaults.unmatched.value)]) :=
        ⟨by simp, trivial, trivial⟩
      exact ⟨by simp, trivial, rules, defaults, trivial⟩

end Readable

/-- A kind of file: its decoder, and `render_text` over a text that exists. -/
structure TextFormat where
  decode : String → Option Json
  render : String → Json → String

/-- `load_policy_file`, on the text of the file. -/
def TextFormat.loadPolicy (format : TextFormat) (text : String) : Option PolicyConfig :=
  (format.decode text).bind PolicyConfig.modelValidate

/-- A policy that is written over a file is decoded as its data, or as the file's own data with
the keys of the policy overwritten. -/
def TextFormat.Faithful (format : TextFormat) (target : PurePath) : Prop :=
  ∀ decisions existing text fields, format.decode text = some (.obj fields) →
    format.decode (format.render text (renderPolicy decisions existing)) =
      some (renderTextData target (some fields) (renderPolicy decisions existing))

/-- `json.loads` and `_render_json`. -/
def jsonFormat (readFloat : String → PyFloat) : TextFormat where
  decode := loads readFloat
  render _ data := dumpsIndented data ++ "\n"

theorem decode_render_jsonFormat (readFloat : String → PyFloat) (text : String)
    (decisions : List OperationDecision) (existing : Option PolicyConfig) :
    (jsonFormat readFloat).decode
        ((jsonFormat readFloat).render text (renderPolicy decisions existing)) =
      some (renderPolicy decisions existing) :=
  loads_dumpsIndented (readable_renderPolicy decisions existing)

theorem faithful_jsonFormat (readFloat : String → PyFloat) {target : PurePath}
    (notYaml : target.suffix ∉ yamlSuffixes) : (jsonFormat readFloat).Faithful target := by
  intro decisions existing text fields _
  rw [decode_render_jsonFormat]
  simp only [renderTextData, List.contains_eq_mem, notYaml, decide_false, Bool.false_eq_true,
    if_false]

/--
A JSON policy file that is written from any decisions, over any policy and any text, is loaded as
the policy that was rendered.
-/
theorem loadPolicy_render_json (readFloat : String → PyFloat) (text : String)
    (decisions : List OperationDecision) (existing : Option PolicyConfig) :
    (jsonFormat readFloat).loadPolicy
        ((jsonFormat readFloat).render text (renderPolicy decisions existing)) =
      some (renderedPolicy decisions existing) := by
  rw [TextFormat.loadPolicy, decode_render_jsonFormat, Option.bind_some]
  exact modelValidate_renderPolicy decisions existing

section Load

variable {format : TextFormat} {target : PurePath} {text : String}

/-- Only the data of an object is a policy. -/
theorem fields_of_loadPolicy {policy : PolicyConfig}
    (loads : format.loadPolicy text = some policy) :
    ∃ file : PolicyFile, format.decode text = some (.obj file.fields) ∧ file.policy = policy := by
  rcases Option.bind_eq_some_iff.mp loads with ⟨data, decoded, valid⟩
  cases data with
  | obj fields => exact ⟨{ fields, policy, valid }, decoded, rfl⟩
  | _ => cases valid

/-- What a run writes over a policy file that it has loaded is loaded as the rendered policy. -/
theorem loadPolicy_render (faithful : format.Faithful target) {policy : PolicyConfig}
    (loads : format.loadPolicy text = some policy) (decisions : List OperationDecision) :
    format.loadPolicy (format.render text (renderPolicy decisions (some policy))) =
      some (renderedPolicy decisions (some policy)) := by
  rcases fields_of_loadPolicy loads with ⟨file, decoded, rfl⟩
  rcases modelValidate_renderTextData target decisions file (some file.policy) with
    ⟨written, validated, rules, unmatched⟩
  rw [TextFormat.loadPolicy, faithful decisions _ text _ decoded, Option.bind_some, validated]
  rcases written with ⟨⟨_⟩, _, _⟩
  cases rules
  cases unmatched
  rfl

end Load

end McpPortal
