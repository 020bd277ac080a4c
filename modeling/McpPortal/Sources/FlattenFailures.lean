import McpPortal.Foundation.Claim
import McpPortal.Sources.Unchecked

/-!
# Failures of flattening an unchecked record

Of what can be wrong with a record, a `FlattenError` is raised for what the pipeline looks
at. What it does not look at makes the built-ins raise, which nothing catches, and so does
printing a name of too many digits. Each function of the pipeline is described by when
something is not caught, and by when it succeeds.
-/

namespace McpPortal

namespace Unchecked

open Foundation

theorem uncaught_refuse {Value : Type} {error : FlattenError} :
    Uncaught isFlattenError (refuse error : Flatten Value) ↔
      ∃ value ∈ error.printed, value.hasLongInt = true := by
  unfold refuse
  rw [← List.any_eq_true]
  cases error.printed.any Json.hasLongInt <;> simp [isFlattenError]

@[simp]
theorem refuse_ne_ok {Value : Type} {error : FlattenError} {value : Value} :
    refuse error = (.ok value : Flatten Value) ↔ False := by
  unfold refuse
  split <;> simp

section Headers

variable (unicode : PyUnicode) (credentialHeaders : List String)

/-- A header parameter that is looked at and passed by. -/
def AllowedHeader (param : Parameter) : Prop :=
  param.location = .header →
    ∃ header, param.wireName.value = .str header ∧
      isDenylisted unicode header credentialHeaders = false

/-- A header parameter is met whose name is no text. -/
def HeaderFails (params : List Parameter) : Prop :=
  ∃ before param after, params = before ++ param :: after ∧
    (∀ earlier ∈ before, AllowedHeader unicode credentialHeaders earlier) ∧
    param.location = .header ∧ param.wireName.value.string? = none

variable {unicode credentialHeaders}

theorem headerFails_cons {param : Parameter} {rest : List Parameter} :
    HeaderFails unicode credentialHeaders (param :: rest) ↔
      (param.location = .header ∧ param.wireName.value.string? = none) ∨
        (AllowedHeader unicode credentialHeaders param ∧
          HeaderFails unicode credentialHeaders rest) := by
  constructor
  · rintro ⟨before, failing, after, split, allowed, isHeader, noText⟩
    cases before with
    | nil =>
        cases split
        exact Or.inl ⟨isHeader, noText⟩
    | cons first others =>
        cases split
        rw [List.forall_mem_cons] at allowed
        exact Or.inr ⟨allowed.1, others, failing, after, rfl, allowed.2, isHeader, noText⟩
  · rintro (⟨isHeader, noText⟩ | ⟨allowed, before, failing, after, rfl, others, isHeader, noText⟩)
    · exact ⟨[], param, rest, rfl, nofun, isHeader, noText⟩
    · refine ⟨param :: before, failing, after, rfl, ?_, isHeader, noText⟩
      exact List.forall_mem_cons.mpr ⟨allowed, others⟩

/-- How the loop over the headers goes on after one parameter. -/
theorem namesDenylisted_cons {param : Parameter} {rest : List Parameter} :
    (AllowedHeader unicode credentialHeaders param ∧
        namesDenylisted unicode credentialHeaders (param :: rest) =
          namesDenylisted unicode credentialHeaders rest) ∨
      (¬AllowedHeader unicode credentialHeaders param ∧
        ((param.wireName.value.string?.isSome ∧
            namesDenylisted unicode credentialHeaders (param :: rest) = .ok true) ∨
          ((param.location = .header ∧ param.wireName.value.string? = none) ∧
            namesDenylisted unicode credentialHeaders (param :: rest) =
              .error .attributeError))) := by
  unfold AllowedHeader
  rw [namesDenylisted]
  by_cases isHeader : param.location = .header
  · cases isName : param.wireName.value with
    | str header =>
        cases listed : isDenylisted unicode header credentialHeaders with
        | true => simp [isHeader, listed, Json.string?, pure, Except.pure]
        | false => simp [isHeader, listed]
    | _ => simp [isHeader, Json.string?, throw, throwThe, MonadExceptOf.throw]
  · simp [isHeader]

theorem uncaught_namesDenylisted_iff {params : List Parameter} :
    Uncaught isFlattenError (namesDenylisted unicode credentialHeaders params) ↔
      HeaderFails unicode credentialHeaders params := by
  induction params with
  | nil =>
      simp only [namesDenylisted, uncaught_pure, false_iff]
      rintro ⟨before, param, after, split, _⟩
      cases before <;> cases split
  | cons param rest ih =>
      rw [headerFails_cons]
      rcases @namesDenylisted_cons unicode credentialHeaders param rest with
        ⟨allowed, same⟩ | ⟨notAllowed, ⟨isText, same⟩ | ⟨noText, same⟩⟩
      · rw [same, ih]
        constructor
        · intro fails
          exact Or.inr ⟨allowed, fails⟩
        · rintro (⟨isHeader, noText⟩ | ⟨_, fails⟩)
          · rcases allowed isHeader with ⟨header, isText, _⟩
            rw [isText] at noText
            cases noText
          · exact fails
      · rw [same, uncaught_ok, false_iff]
        rintro (⟨_, noText⟩ | ⟨allowed, _⟩)
        · rw [noText] at isText
          cases isText
        · exact notAllowed allowed
      · rw [same, uncaught_error]
        exact ⟨fun _ => Or.inl noText, fun _ => rfl⟩

theorem namesDenylisted_eq_false_iff {params : List Parameter} :
    namesDenylisted unicode credentialHeaders params = .ok false ↔
      ∀ param ∈ params, AllowedHeader unicode credentialHeaders param := by
  induction params with
  | nil => simp [namesDenylisted]
  | cons param rest ih =>
      rw [List.forall_mem_cons]
      rcases @namesDenylisted_cons unicode credentialHeaders param rest with
        ⟨allowed, same⟩ | ⟨notAllowed, ⟨_, same⟩ | ⟨_, same⟩⟩
      · rw [same, ih]
        exact ⟨fun others => ⟨allowed, others⟩, And.right⟩
      · rw [same]
        constructor
        · intro found
          cases found
        · rintro ⟨allowed, _⟩
          exact absurd allowed notAllowed
      · rw [same]
        constructor
        · intro found
          cases found
        · rintro ⟨allowed, _⟩
          exact absurd allowed notAllowed

theorem namesDenylisted_eq_error {params : List Parameter} {error : PyException FlattenError}
    (failed : namesDenylisted unicode credentialHeaders params = .error error) :
    error = .attributeError := by
  induction params with
  | nil => cases failed
  | cons param rest ih =>
      rcases @namesDenylisted_cons unicode credentialHeaders param rest with
        ⟨_, same⟩ | ⟨_, ⟨_, same⟩ | ⟨_, same⟩⟩
      · exact ih (same ▸ failed)
      · cases same.symm.trans failed
      · cases same.symm.trans failed
        rfl

theorem not_headerFails_of_allowed {params : List Parameter}
    (allowed : ∀ param ∈ params, AllowedHeader unicode credentialHeaders param) :
    ¬HeaderFails unicode credentialHeaders params := by
  rw [← uncaught_namesDenylisted_iff, namesDenylisted_eq_false_iff.mpr allowed]
  exact not_false

end Headers

/-- The placeholders of the path are distinct and named by path parameters, which are required
and have distinct names. -/
structure TemplateNamed (binding : HttpBinding) : Prop where
  once : (pathPlaceholders binding.path).Nodup
  required : ∀ parameter ∈ pathParameters binding.parameters, parameter.required = true
  distinct : ((pathParameters binding.parameters).map (·.wireName.key)).Nodup
  named : ∀ name ∈ pathPlaceholders binding.path,
    .text name ∈ (pathParameters binding.parameters).map (·.wireName.key)

/-- The path parameters without a placeholder. -/
def unplacedParameters (binding : HttpBinding) : List Parameter :=
  (pathParameters binding.parameters).filter fun parameter =>
    decide (parameter.wireName.key ∉ placeholderKeys binding.path)

theorem claims_declareName :
    Claims declareName (fun parameter => parameter.wireName.key) (fun parameter => parameter.arg) where
  taken := by
    intro declared parameter next stepped
    unfold declareName at stepped
    split at stepped
    · exact (refuse_ne_ok.mp stepped).elim
    case h_2 absent => exact Dict.get?_eq_none_iff.mp absent
  free := by
    intro declared parameter isFree
    rw [declareName, Dict.get?_eq_none_iff.mpr isFree]
    rfl

theorem foldlM_declarePath_eq_ok_iff {parameters : List Parameter} {start final : Declared} :
    parameters.foldlM declarePath start = .ok final ↔
      (∀ parameter ∈ parameters, parameter.required = true) ∧
        parameters.foldlM declareName start = .ok final := by
  induction parameters generalizing start with
  | nil => simp
  | cons parameter rest ih =>
      rw [foldlM_cons_eq_ok, foldlM_cons_eq_ok, List.forall_mem_cons]
      cases isRequired : parameter.required with
      | false => simp [declarePath, isRequired]
      | true =>
          simp only [declarePath, isRequired, Bool.not_true, Bool.false_eq_true, if_false, ih,
            true_and]
          constructor
          · rintro ⟨next, stepped, others, later⟩
            exact ⟨others, next, stepped, later⟩
          · rintro ⟨others, next, stepped, later⟩
            exact ⟨next, stepped, others, later⟩

/-- What path parameters declare, when they can. -/
def declaredBy (parameters : List Parameter) : Declared :=
  parameters.map fun parameter => (parameter.wireName.key, parameter.arg)

theorem keys_declaredBy (parameters : List Parameter) :
    Dict.keys (declaredBy parameters) = parameters.map (·.wireName.key) := by
  rw [Dict.keys, declaredBy, List.map_map]
  rfl

theorem declared_iff {parameters : List Parameter} {final : Declared} :
    parameters.foldlM declarePath [] = .ok final ↔
      (∀ parameter ∈ parameters, parameter.required = true) ∧
        (parameters.map (·.wireName.key)).Nodup ∧ final = declaredBy parameters := by
  rw [foldlM_declarePath_eq_ok_iff]
  apply and_congr_right
  intro _
  constructor
  · intro ran
    have entries := claims_declareName.entries_foldlM ran
    refine ⟨(claims_declareName.foldlM_ok_iff.mp ⟨final, ran⟩).1, ?_⟩
    rw [entries, List.nil_append]
    rfl
  · rintro ⟨distinct, rfl⟩
    have runs : ∃ final, parameters.foldlM declareName [] = .ok final := by
      rw [claims_declareName.foldlM_ok_iff]
      exact ⟨distinct, fun _ _ => List.not_mem_nil⟩
    rcases runs with ⟨final, ran⟩
    have entries := claims_declareName.entries_foldlM ran
    rw [ran, entries, List.nil_append]
    rfl

/-- The path parameter is optional, or has the name of an earlier one, and is reported by a name that
has too many digits. -/
def ReportsLongName (before : List Parameter) (parameter : Parameter) : Prop :=
  (parameter.required = false ∧
    ∃ name ∈ [parameter.arg, parameter.wireName], name.value.hasLongInt = true) ∨
  (parameter.required = true ∧ ∃ first ∈ before, first.wireName.key = parameter.wireName.key ∧
    ∃ name ∈ [first.arg, parameter.arg, parameter.wireName], name.value.hasLongInt = true)

/-- The first path parameter that cannot be declared is reported by a name of too many digits. -/
def DeclaresLongName (parameters : List Parameter) : Prop :=
  ∃ before parameter after, parameters = before ++ parameter :: after ∧
    (∀ earlier ∈ before, earlier.required = true) ∧ (before.map (·.wireName.key)).Nodup ∧
    ReportsLongName before parameter

theorem get?_declaredBy_iff {before : List Parameter}
    (distinct : (before.map (·.wireName.key)).Nodup) {key : HashKey} {arg : DictKey} :
    Dict.get? (declaredBy before) key = some arg ↔
      ∃ first ∈ before, first.wireName.key = key ∧ first.arg = arg := by
  rw [Dict.get?_eq_some_iff (keys_declaredBy before ▸ distinct), declaredBy, List.mem_map]
  simp only [Prod.mk.injEq]

theorem uncaught_declarePath_iff {before : List Parameter} {parameter : Parameter}
    (distinct : (before.map (·.wireName.key)).Nodup) :
    Uncaught isFlattenError (declarePath (declaredBy before) parameter) ↔
      ReportsLongName before parameter := by
  unfold declarePath declareName ReportsLongName
  cases isRequired : parameter.required with
  | false => simp [uncaught_refuse, FlattenError.printed]
  | true =>
      simp only [Bool.not_true, Bool.false_eq_true, if_false, false_and, false_or, true_and,
        Bool.true_eq_false]
      split
      case h_1 first found =>
        rcases (get?_declaredBy_iff distinct).mp found with ⟨own, ownMem, sameKey, rfl⟩
        rw [uncaught_refuse]
        constructor
        · rintro ⟨value, valueMem, long⟩
          refine ⟨own, ownMem, sameKey, ?_⟩
          simp only [FlattenError.printed, List.mem_cons, List.not_mem_nil, or_false] at valueMem
          rcases valueMem with rfl | rfl | rfl
          · exact ⟨own.arg, by simp, long⟩
          · exact ⟨parameter.arg, by simp, long⟩
          · exact ⟨parameter.wireName, by simp, long⟩
        · rintro ⟨other, otherMem, sameOther, name, nameMem, long⟩
          have isFirst : Dict.get? (declaredBy before) parameter.wireName.key = some other.arg :=
            (get?_declaredBy_iff distinct).mpr ⟨other, otherMem, sameOther, rfl⟩
          rw [found, Option.some.injEq] at isFirst
          rw [← isFirst] at nameMem
          refine ⟨name.value, ?_, long⟩
          simp only [List.mem_cons, List.not_mem_nil, or_false] at nameMem
          rcases nameMem with rfl | rfl | rfl <;> simp [FlattenError.printed]
      case h_2 absent =>
        simp only [uncaught_pure, false_iff]
        rintro ⟨first, firstMem, sameKey, _⟩
        have found := (get?_declaredBy_iff distinct).mpr ⟨first, firstMem, sameKey, rfl⟩
        cases absent.symm.trans found

theorem uncaught_foldlM_declarePath_iff {parameters : List Parameter} :
    Uncaught isFlattenError (parameters.foldlM declarePath []) ↔ DeclaresLongName parameters := by
  rw [uncaught_foldlM_iff_exists]
  constructor
  · rintro ⟨before, parameter, after, declared, split, ran, passes⟩
    rcases declared_iff.mp ran with ⟨required, distinct, rfl⟩
    exact ⟨before, parameter, after, split, required, distinct,
      (uncaught_declarePath_iff distinct).mp passes⟩
  · rintro ⟨before, parameter, after, split, required, distinct, reports⟩
    exact ⟨before, parameter, after, declaredBy before, split,
      declared_iff.mpr ⟨required, distinct, rfl⟩, (uncaught_declarePath_iff distinct).mpr reports⟩

theorem uncaught_sortedItems_iff {Item : Type} {key : Item → HashKey} {items : List Item} :
    Uncaught isFlattenError (sortedItems key items : Flatten (List Item)) ↔
      HashKey.sortable (items.map key) = false := by
  unfold sortedItems
  cases HashKey.sortable (items.map key) <;> simp [isFlattenError]

theorem unplaced_declaredBy (binding : HttpBinding) :
    ((declaredBy (pathParameters binding.parameters)).filter fun entry =>
        decide (entry.1 ∉ placeholderKeys binding.path)).map (·.2) =
      (unplacedParameters binding).map (·.arg) := by
  rw [declaredBy, List.filter_map, List.map_map]
  rfl

/-- The template is checked up to the parameters without a placeholder. -/
theorem templateNamed_iff {binding : HttpBinding} :
    TemplateNamed binding ↔
      sortedRepeats (pathPlaceholders binding.path) = [] ∧
        (∀ parameter ∈ pathParameters binding.parameters, parameter.required = true) ∧
        ((pathParameters binding.parameters).map (·.wireName.key)).Nodup ∧
        ((pathPlaceholders binding.path).dedup.filter fun name =>
          decide (HashKey.text name ∉
            Dict.keys (declaredBy (pathParameters binding.parameters)))) = [] := by
  simp only [sortedRepeats_eq_nil_iff, List.filter_eq_nil_iff, List.mem_dedup, decide_eq_true_eq,
    not_not, keys_declaredBy]
  constructor
  · rintro ⟨once, required, distinct, named⟩
    exact ⟨once, required, distinct, named⟩
  · rintro ⟨once, required, distinct, named⟩
    exact ⟨once, required, distinct, named⟩

theorem uncaught_refuse_check {Value : Type} {failing : Prop} [Decidable failing]
    {error : FlattenError} {rest : Flatten Value} (printable : error.printed = []) :
    Uncaught isFlattenError (if failing then refuse error else rest) ↔
      ¬failing ∧ Uncaught isFlattenError rest := by
  by_cases fails : failing <;> simp [fails, uncaught_refuse, printable]

/-- The names of the parameters without a placeholder cannot be reported: they cannot be sorted, or
one has too many digits. -/
def UnplacedUnprintable (binding : HttpBinding) : Prop :=
  HashKey.sortable ((unplacedParameters binding).map (·.arg.key)) = false ∨
    ∃ parameter ∈ unplacedParameters binding, parameter.arg.value.hasLongInt = true

/-- Checking the template raises what is not caught just when a name cannot be reported. -/
theorem uncaught_checkPathTemplate_iff {binding : HttpBinding} :
    Uncaught isFlattenError (checkPathTemplate binding) ↔
      ((pathPlaceholders binding.path).Nodup ∧
          DeclaresLongName (pathParameters binding.parameters)) ∨
        (TemplateNamed binding ∧ UnplacedUnprintable binding) := by
  have reported : ∀ unplaced : List DictKey,
      Uncaught isFlattenError (if (!unplaced.isEmpty) = true then
          refuse (.unplacedParameters binding.path (unplaced.map (·.value)))
        else pure () : Flatten Unit) ↔ ∃ name ∈ unplaced, name.value.hasLongInt = true := by
    intro unplaced
    cases unplaced <;> simp [uncaught_refuse, FlattenError.printed]
  have unmatchedCaught : ∀ {failing : Prop} [Decidable failing] {unmatched : List String}
      {rest : Flatten Unit}, Uncaught isFlattenError
        (if failing then refuse (.unmatchedPlaceholders binding.path unmatched) else rest) ↔
      ¬failing ∧ Uncaught isFlattenError rest := uncaught_refuse_check rfl
  simp only [checkPathTemplate, refuse_bind]
  rw [uncaught_refuse_check rfl]
  simp only [uncaught_bind, uncaught_foldlM_declarePath_iff, unmatchedCaught, declared_iff,
    uncaught_sortedItems_iff, reported, templateNamed_iff, ne_eq, not_not,
    ← sortedRepeats_eq_nil_iff]
  constructor
  · rintro ⟨once, reports | ⟨_, ⟨required, distinct, rfl⟩, named, unsortable | ⟨_, sorts, long⟩⟩⟩
    · exact Or.inl ⟨once, reports⟩
    · rw [unplaced_declaredBy, List.map_map] at unsortable
      exact Or.inr ⟨⟨once, required, distinct, named⟩, Or.inl unsortable⟩
    · rw [unplaced_declaredBy] at sorts
      rcases long with ⟨name, nameMem, long⟩
      rcases List.mem_map.mp ((perm_of_sortedItems sorts).mem_iff.mp nameMem) with
        ⟨parameter, parameterMem, rfl⟩
      exact Or.inr ⟨⟨once, required, distinct, named⟩, Or.inr ⟨parameter, parameterMem, long⟩⟩
  · rintro (⟨once, reports⟩ | ⟨⟨once, required, distinct, named⟩, unprintable⟩)
    · exact ⟨once, Or.inl reports⟩
    · refine ⟨once, Or.inr ⟨_, ⟨required, distinct, rfl⟩, named, ?_⟩⟩
      rw [unplaced_declaredBy, List.map_map]
      cases sortable : HashKey.sortable
          ((unplacedParameters binding).map (DictKey.key ∘ (·.arg))) with
      | false => exact Or.inl rfl
      | true =>
          rcases unprintable with unsortable | ⟨parameter, parameterMem, long⟩
          · cases sortable.symm.trans unsortable
          · rw [← List.map_map] at sortable
            rcases sortedItems_ok_iff.mpr sortable with ⟨sorted, sorts⟩
            refine Or.inr ⟨sorted, sorts, parameter.arg, ?_, long⟩
            exact (perm_of_sortedItems sorts).mem_iff.mpr (List.mem_map_of_mem parameterMem)

theorem checkPathTemplate_eq_ok_iff {binding : HttpBinding} {done : Unit} :
    checkPathTemplate binding = .ok done ↔
      TemplateNamed binding ∧ unplacedParameters binding = [] := by
  have checked : ∀ {Value : Type} {failing : Prop} [Decidable failing] {error : FlattenError}
      {rest : Flatten Value} {value : Value},
      (if failing then refuse error else rest) = .ok value ↔ ¬failing ∧ rest = .ok value := by
    intro Value failing decidable error rest value
    by_cases fails : failing <;> simp [fails]
  simp only [checkPathTemplate, refuse_bind, checked, bind_eq_ok, declared_iff, not_not,
    templateNamed_iff]
  constructor
  · rintro ⟨once, _, ⟨required, distinct, rfl⟩, named, sorted, sorts, empty, _⟩
    refine ⟨⟨once, required, distinct, named⟩, ?_⟩
    rw [unplaced_declaredBy] at sorts
    have perm := perm_of_sortedItems sorts
    simp only [Bool.not_eq_true, Bool.not_eq_false', List.isEmpty_iff] at empty
    subst sorted
    exact List.map_eq_nil_iff.mp perm.nil_eq.symm
  · rintro ⟨⟨once, required, distinct, named⟩, unplaced⟩
    refine ⟨once, _, ⟨required, distinct, rfl⟩, named, [], ?_, by simp, rfl⟩
    rw [unplaced_declaredBy, unplaced]
    rfl

theorem uncaught_dictOf_iff {value : Json} :
    Uncaught isFlattenError (dictOf value : Flatten (PyDict Json)) ↔ ¬value.ConvertsToDict := by
  rw [← exists_dictOf_iff, uncaught_iff_of_none_caught]
  intro error failed
  rcases dictOf_eq_error failed with rfl | rfl <;> rfl

/-- A body schema that is no object, or one whose properties make no dictionary. -/
def BodyUnreadable (body : BodySpec) : Prop :=
  (∀ schema, body.schema ≠ .obj schema) ∨
    ∃ schema, body.schema = .obj schema ∧ (field schema "type").string? = some "object" ∧
      ¬(objectField schema "properties").ConvertsToDict

theorem uncaught_bodyProperties_iff {body : BodySpec} :
    Uncaught isFlattenError (bodyProperties body) ↔ BodyUnreadable body := by
  unfold bodyProperties BodyUnreadable
  cases isObject : body.schema with
  | obj schema =>
      by_cases isType : (field schema "type").string? = some "object"
      · simp [isType, uncaught_dictOf_iff]
      · simp [isType]
  | _ => simp [isFlattenError]

theorem uncaught_bodyNames_iff {body : Option BodySpec} :
    Uncaught isFlattenError (bodyNames body) ↔ ∃ spec, body = some spec ∧ BodyUnreadable spec := by
  cases body with
  | none => simp [bodyNames]
  | some spec =>
      simp only [bodyNames, uncaught_bind, uncaught_bodyProperties_iff, Option.some.injEq,
        exists_eq_left']
      constructor
      · rintro (unreadable | ⟨properties, _, passes⟩)
        · exact unreadable
        · cases properties <;> cases passes
      · exact Or.inl

/-- A body that is JSON. -/
def SupportedBody (body : Option BodySpec) : Prop :=
  ∀ spec, body = some spec → spec.contentType.key = .text jsonContentType

theorem checkContentType_eq_ok_iff {body : Option BodySpec} {done : Unit} :
    checkContentType body = .ok done ↔ SupportedBody body := by
  unfold checkContentType SupportedBody
  cases body with
  | none => simp
  | some spec =>
      by_cases supported : spec.contentType.key = .text "application/json" <;>
        simp [supportedContentTypes, jsonContentType, supported]

/-- The content type is a number of too many digits. -/
def ContentTypeUnprintable (body : Option BodySpec) : Prop :=
  ∃ spec, body = some spec ∧ spec.contentType.value.hasLongInt = true

theorem uncaught_checkContentType_iff {body : Option BodySpec} :
    Uncaught isFlattenError (checkContentType body) ↔ ContentTypeUnprintable body := by
  unfold checkContentType ContentTypeUnprintable
  cases body with
  | none => simp
  | some spec =>
      simp only [Option.some.injEq, exists_eq_left']
      split
      case isTrue => simp [uncaught_refuse, FlattenError.printed]
      case isFalse supported =>
        simp only [uncaught_pure, false_iff]
        intro long
        apply supported
        intro listed
        rcases List.mem_map.mp listed with ⟨text, _, same⟩
        exact DictKey.key_ne_text long text same.symm

theorem claims_claimName :
    Claims claimName (fun entry => entry.1.key) (fun entry => entry.2) where
  taken := by
    intro seen entry next stepped
    unfold claimName at stepped
    split at stepped
    · exact (refuse_ne_ok.mp stepped).elim
    case h_2 absent => exact Dict.get?_eq_none_iff.mp absent
  free := by
    intro seen entry isFree
    rw [claimName, Dict.get?_eq_none_iff.mpr isFree]
    rfl

/-- What a claim lets pass is a name of too many digits that is claimed already. -/
theorem taken_of_uncaught_claimName {seen : List (HashKey × String)} {entry : DictKey × String}
    (passes : Uncaught isFlattenError (claimName seen entry)) :
    entry.1.key ∈ Dict.keys seen ∧ entry.1.value.hasLongInt = true := by
  unfold claimName at passes
  split at passes
  case h_1 first found =>
    rw [uncaught_refuse] at passes
    rcases passes with ⟨value, valueMem, long⟩
    cases List.mem_singleton.mp valueMem
    exact ⟨Dict.get?_isSome_iff.mp (Option.isSome_of_mem found), long⟩
  case h_2 => cases passes

/-- Names of too many digits that are claimed only once let nothing pass. -/
theorem not_uncaught_claims {entries : List (DictKey × String)} {start : List (HashKey × String)}
    (unclaimed : ∀ entry ∈ entries, entry.1.value.hasLongInt = true →
      entry.1.key ∉ Dict.keys start)
    (once : ∀ entry ∈ entries, entry.1.value.hasLongInt = true →
      (entries.map (·.1.key)).count entry.1.key ≤ 1) :
    ¬Uncaught isFlattenError (entries.foldlM claimName start) := by
  rw [uncaught_foldlM_iff_exists]
  rintro ⟨earlier, entry, later, seen, rfl, ran, passes⟩
  rcases taken_of_uncaught_claimName passes with ⟨taken, long⟩
  have entryMem : entry ∈ earlier ++ entry :: later := by simp
  rw [claims_claimName.keys_foldlM ran, List.mem_append] at taken
  rcases taken with before | repeated
  · exact unclaimed entry entryMem long before
  · have twice := once entry entryMem long
    have positive := List.count_pos_iff.mpr repeated
    rw [List.map_append, List.map_cons, List.count_append, List.count_cons_self] at twice
    omega

/-- The names of the body are texts, or distinct. -/
theorem count_bodyNames_le {body : Option BodySpec} {names : List DictKey} {name : DictKey}
    (read : bodyNames body = .ok names) (nameMem : name ∈ names)
    (long : name.value.hasLongInt = true) : (names.map (·.key)).count name.key ≤ 1 := by
  cases body with
  | none =>
      cases read
      cases nameMem
  | some spec =>
      rcases bind_eq_ok.mp read with ⟨properties, lifted, same⟩
      cases properties with
      | none =>
          cases same
          cases List.mem_singleton.mp nameMem
          cases long
      | some properties =>
          cases same
          unfold bodyProperties at lifted
          split at lifted
          case h_2 => cases lifted
          case h_1 schema _ =>
            split at lifted
            case isFalse => cases lifted
            case isTrue =>
              rcases bind_eq_ok.mp lifted with ⟨entries, converted, same⟩
              cases same
              exact count_keys_dictOf_le converted nameMem long

section Names

variable (isPrintable : Char → Bool)

/-- A name that has to be prefixed has too many digits. -/
def ClashUnprintable (parameters : List Parameter) (names : List DictKey) : Prop :=
  ∃ parameter ∈ parameters, 1 < nameCount parameters names parameter.arg.key ∧
    parameter.arg.value.hasLongInt = true

/-- The parameter under the name that is published. -/
def renamedParameter (parameters : List Parameter) (names : List DictKey)
    (parameter : Parameter) : Parameter :=
  if 1 < nameCount parameters names parameter.arg.key then
    { parameter with
      arg := .ofText (parameter.location.value ++ "_" ++ parameter.arg.value.text isPrintable) }
  else parameter

def renamedParameters (parameters : List Parameter) (names : List DictKey) : List Parameter :=
  parameters.map (renamedParameter isPrintable parameters names)

/-- The published names of the parameters. -/
def argKeys (parameters : List Parameter) (names : List DictKey) : List HashKey :=
  (renamedParameters isPrintable parameters names).map (·.arg.key)

variable {isPrintable} {binding : HttpBinding} {parameters : List Parameter} {names : List DictKey}

theorem renameParameter_eq_ok_iff {parameter renamed : Parameter} :
    renameParameter isPrintable parameters names parameter = .ok renamed ↔
      ¬(1 < nameCount parameters names parameter.arg.key ∧
          parameter.arg.value.hasLongInt = true) ∧
        renamed = renamedParameter isPrintable parameters names parameter := by
  unfold renameParameter renamedParameter
  by_cases clashes : 1 < nameCount parameters names parameter.arg.key
  · simp only [clashes, if_true, bind_eq_ok, strOf_eq_ok, pure_eq_ok, true_and,
      Bool.not_eq_true]
    constructor
    · rintro ⟨_, ⟨printable, rfl⟩, rfl⟩
      exact ⟨printable, rfl⟩
    · rintro ⟨printable, rfl⟩
      exact ⟨_, ⟨printable, rfl⟩, rfl⟩
  · simp only [clashes, if_false, pure_eq_ok, false_and, not_false_eq_true, true_and]
    exact eq_comm

theorem mapM_renameParameter_eq_ok_iff {own renamed : List Parameter} :
    own.mapM (renameParameter isPrintable parameters names) = .ok renamed ↔
      (∀ parameter ∈ own, ¬(1 < nameCount parameters names parameter.arg.key ∧
          parameter.arg.value.hasLongInt = true)) ∧
        renamed = own.map (renamedParameter isPrintable parameters names) := by
  simp only [mapM_eq_ok_iff_forall₂, renameParameter_eq_ok_iff]
  induction own generalizing renamed with
  | nil => simp
  | cons parameter rest ih =>
      rw [List.forall_mem_cons, List.map_cons]
      constructor
      · rintro (_ | ⟨⟨printable, rfl⟩, later⟩)
        rcases ih.mp later with ⟨others, rfl⟩
        exact ⟨⟨printable, others⟩, rfl⟩
      · rintro ⟨⟨printable, others⟩, rfl⟩
        exact .cons ⟨printable, rfl⟩ (ih.mpr ⟨others, rfl⟩)

theorem renamed_iff {renamed : List Parameter} :
    parameters.mapM (renameParameter isPrintable parameters names) = .ok renamed ↔
      ¬ClashUnprintable parameters names ∧
        renamed = renamedParameters isPrintable parameters names := by
  rw [mapM_renameParameter_eq_ok_iff, ClashUnprintable]
  simp only [not_exists, not_and, renamedParameters]

theorem uncaught_renamed_iff :
    Uncaught isFlattenError (parameters.mapM (renameParameter isPrintable parameters names)) ↔
      ClashUnprintable parameters names := by
  rw [uncaught_iff_of_none_caught]
  · simp only [renamed_iff, exists_and_left, exists_eq, and_true, not_not]
  · intro error failed
    rcases mapM_eq_error failed with ⟨parameter, _, unprinted⟩
    unfold renameParameter at unprinted
    split at unprinted
    · rcases bind_eq_error.mp unprinted with failure | ⟨_, _, printed⟩
      · rw [(strOf_eq_error failure).2]
        rfl
      · cases printed
    · cases unprinted

/-- A published name of too many digits is a parameter's own, which nothing else has. -/
theorem renamedParameter_of_hasLongInt {parameter : Parameter}
    (long : (renamedParameter isPrintable parameters names parameter).arg.value.hasLongInt = true) :
    renamedParameter isPrintable parameters names parameter = parameter ∧
      nameCount parameters names parameter.arg.key ≤ 1 := by
  unfold renamedParameter at long ⊢
  split at long
  case isTrue => cases long
  case isFalse atMostOnce => exact ⟨if_neg atMostOnce, Nat.not_lt.mp atMostOnce⟩

theorem key_renamedParameter {parameter : Parameter} :
    (renamedParameter isPrintable parameters names parameter).arg.key = parameter.arg.key ∨
      ∃ text, (renamedParameter isPrintable parameters names parameter).arg.key = .text text := by
  unfold renamedParameter
  split
  · exact Or.inr ⟨_, rfl⟩
  · exact Or.inl rfl

/-- Prefixing gives nothing the name of a number. -/
theorem count_argKeys_le {key : HashKey} (noText : ∀ text, key ≠ .text text) :
    (argKeys isPrintable parameters names).count key ≤ (parameters.map (·.arg.key)).count key := by
  simp only [argKeys, renamedParameters, List.map_map, List.count, List.countP_map]
  apply List.countP_mono_left
  intro parameter _ same
  rcases @key_renamedParameter isPrintable parameters names parameter with own | ⟨text, renamed⟩
  · simpa [own] using same
  · exact absurd ((beq_iff_eq.mp same).symm.trans renamed) (noText text)

theorem not_uncaught_claimParameters :
    ¬Uncaught isFlattenError
      (((renamedParameters isPrintable parameters names).map
        fun p => (p.arg, p.location.value)).foldlM claimName []) := by
  apply not_uncaught_claims
  · intro _ _ _
    exact List.not_mem_nil
  · intro entry entryMem long
    rcases List.mem_map.mp entryMem with ⟨renamed, renamedMem, rfl⟩
    rcases List.mem_map.mp renamedMem with ⟨parameter, _, rfl⟩
    rcases renamedParameter_of_hasLongInt long with ⟨kept, atMostOnce⟩
    have fromParameters : (argKeys isPrintable parameters names).count parameter.arg.key ≤
        (parameters.map (·.arg.key)).count parameter.arg.key := by
      apply count_argKeys_le
      rw [kept] at long
      exact DictKey.key_ne_text long
    unfold nameCount at atMostOnce
    rw [kept, List.map_map]
    change (argKeys isPrintable parameters names).count parameter.arg.key ≤ 1
    omega

/-- A name of the body of too many digits is no published name of a parameter. -/
theorem not_mem_argKeys {name : DictKey} (nameMem : name ∈ names)
    (long : name.value.hasLongInt = true) : name.key ∉ argKeys isPrintable parameters names := by
  intro taken
  rcases List.mem_map.mp taken with ⟨renamed, renamedMem, same⟩
  rcases List.mem_map.mp renamedMem with ⟨parameter, parameterMem, rfl⟩
  unfold renamedParameter at same
  split at same
  case isTrue => exact DictKey.key_ne_text long _ same.symm
  case isFalse atMostOnce =>
    have fromParameter := List.count_pos_iff.mpr
      (List.mem_map_of_mem (f := fun p : Parameter => p.arg.key) parameterMem)
    have fromBody := List.count_pos_iff.mpr
      (List.mem_map_of_mem (f := fun name : DictKey => name.key) nameMem)
    rw [← same] at fromBody
    unfold nameCount at atMostOnce
    omega

theorem claimed_iff {entries : List (DictKey × String)} {start : List (HashKey × String)} :
    (∃ seen, entries.foldlM claimName start = .ok seen) ↔
      (entries.map (·.1.key)).Nodup ∧ ∀ entry ∈ entries, entry.1.key ∉ Dict.keys start :=
  claims_claimName.foldlM_ok_iff

theorem claimed_parameters_iff {parameters : List Parameter} :
    (∃ seen, (parameters.map fun p => (p.arg, p.location.value)).foldlM claimName [] = .ok seen) ↔
      (parameters.map (·.arg.key)).Nodup := by
  rw [claimed_iff, List.map_map]
  exact ⟨And.left, fun distinct => ⟨distinct, fun _ _ => List.not_mem_nil⟩⟩

/-- After the names of the parameters those of the body are claimed, in any order. -/
theorem claimed_both_iff {parameters : List Parameter} {names ordered : List DictKey}
    {seen : List (HashKey × String)} (perm : ordered.Perm names)
    (ran : (parameters.map fun p => (p.arg, p.location.value)).foldlM claimName [] = .ok seen) :
    (∃ last, (ordered.map fun name => (name, "body")).foldlM claimName seen = .ok last) ↔
      (parameters.map (·.arg.key) ++ names.map (·.key)).Nodup := by
  have distinct := claimed_parameters_iff.mp ⟨seen, ran⟩
  have keys_seen : Dict.keys seen = parameters.map (·.arg.key) := by
    rw [claims_claimName.keys_foldlM ran, Dict.keys_nil, List.nil_append, List.map_map]
    rfl
  rw [claimed_iff, List.map_map, keys_seen,
    ((perm.map DictKey.key).append_left (parameters.map (·.arg.key))).symm.nodup_iff,
    List.nodup_append]
  constructor
  · rintro ⟨unique, apart⟩
    refine ⟨distinct, unique, ?_⟩
    intro taken takenMem key keyMem same
    rcases List.mem_map.mp keyMem with ⟨name, nameMem, rfl⟩
    exact apart _ (List.mem_map_of_mem nameMem) (same ▸ takenMem)
  · rintro ⟨_, unique, apart⟩
    refine ⟨unique, ?_⟩
    intro entry entryMem taken
    rcases List.mem_map.mp entryMem with ⟨name, nameMem, rfl⟩
    exact apart _ taken _ (List.mem_map_of_mem nameMem) rfl

theorem not_uncaught_claimBody {ordered : List DictKey} {seen : List (HashKey × String)}
    (read : bodyNames binding.body = .ok names) (perm : ordered.Perm names)
    (ran : ((renamedParameters isPrintable parameters names).map
      fun p => (p.arg, p.location.value)).foldlM claimName [] = .ok seen) :
    ¬Uncaught isFlattenError ((ordered.map fun name => (name, "body")).foldlM claimName seen) := by
  have keys_seen : Dict.keys seen = argKeys isPrintable parameters names := by
    rw [claims_claimName.keys_foldlM ran, Dict.keys_nil, List.nil_append, List.map_map]
    rfl
  apply not_uncaught_claims
  · intro entry entryMem long
    rcases List.mem_map.mp entryMem with ⟨name, nameMem, rfl⟩
    rw [keys_seen]
    exact not_mem_argKeys (perm.mem_iff.mp nameMem) long
  · intro entry entryMem long
    rcases List.mem_map.mp entryMem with ⟨name, nameMem, rfl⟩
    rw [List.map_map]
    change (ordered.map DictKey.key).count name.key ≤ 1
    rw [(perm.map DictKey.key).count_eq]
    exact count_bodyNames_le read (perm.mem_iff.mp nameMem) long

/-- Resolving the names raises what is not caught just when the content type or a name cannot be
printed, the body cannot be read, or its names cannot be sorted. -/
theorem uncaught_resolveArgNames_iff :
    Uncaught isFlattenError (resolveArgNames isPrintable binding) ↔
      ContentTypeUnprintable binding.body ∨
        SupportedBody binding.body ∧
          ((∃ spec, binding.body = some spec ∧ BodyUnreadable spec) ∨
            ∃ names, bodyNames binding.body = .ok names ∧
              (ClashUnprintable binding.parameters names ∨
                ¬ClashUnprintable binding.parameters names ∧
                  (argKeys isPrintable binding.parameters names).Nodup ∧
                  HashKey.sortable (names.map (·.key)) = false)) := by
  simp only [resolveArgNames, uncaught_bind, uncaught_checkContentType_iff,
    checkContentType_eq_ok_iff, uncaught_bodyNames_iff, uncaught_renamed_iff, renamed_iff,
    uncaught_sortedItems_iff, uncaught_pure, and_false, exists_false, or_false, exists_const]
  apply or_congr_right
  apply and_congr_right
  intro _
  apply or_congr_right
  apply exists_congr
  intro names
  apply and_congr_right
  intro read
  apply or_congr_right
  constructor
  · rintro ⟨_, ⟨printable, rfl⟩, passes | ⟨seen, ran, unsortable | ⟨ordered, sorts, passes⟩⟩⟩
    · exact absurd passes not_uncaught_claimParameters
    · exact ⟨printable, claimed_parameters_iff.mp ⟨seen, ran⟩, unsortable⟩
    · exact absurd passes (not_uncaught_claimBody read (perm_of_sortedItems sorts) ran)
  · rintro ⟨printable, distinct, unsortable⟩
    rcases claimed_parameters_iff.mpr distinct with ⟨seen, ran⟩
    exact ⟨_, ⟨printable, rfl⟩, Or.inr ⟨seen, ran, Or.inl unsortable⟩⟩

theorem resolveArgNames_eq_ok_iff {resolved : HttpBinding} :
    resolveArgNames isPrintable binding = .ok resolved ↔
      SupportedBody binding.body ∧ ∃ names, bodyNames binding.body = .ok names ∧
        ¬ClashUnprintable binding.parameters names ∧
        HashKey.sortable (names.map (·.key)) = true ∧
        (argKeys isPrintable binding.parameters names ++ names.map (·.key)).Nodup ∧
        resolved = { binding with
          parameters := renamedParameters isPrintable binding.parameters names } := by
  simp only [resolveArgNames, bind_eq_ok, checkContentType_eq_ok_iff, exists_const, renamed_iff,
    pure_eq_ok]
  apply and_congr_right
  intro _
  apply exists_congr
  intro names
  apply and_congr_right
  intro _
  constructor
  · rintro ⟨_, ⟨printable, rfl⟩, seen, ran, ordered, sorts, last, claimed, rfl⟩
    have perm := perm_of_sortedItems sorts
    exact ⟨printable, sortedItems_ok_iff.mp ⟨ordered, sorts⟩,
      (claimed_both_iff perm ran).mp ⟨last, claimed⟩, rfl⟩
  · rintro ⟨printable, sortable, distinct, rfl⟩
    rcases claimed_parameters_iff.mpr (List.nodup_append.mp distinct).1 with ⟨seen, ran⟩
    rcases sortedItems_ok_iff.mpr sortable with ⟨ordered, sorts⟩
    rcases (claimed_both_iff (perm_of_sortedItems sorts) ran).mpr distinct with ⟨last, claimed⟩
    exact ⟨_, ⟨printable, rfl⟩, seen, ran, ordered, sorts, last, claimed, rfl⟩

end Names

/-- A parameter's schema makes no dictionary. -/
def SchemaUnreadable (parameters : List Parameter) : Prop :=
  ∃ parameter ∈ parameters, ¬parameter.schema.ConvertsToDict

/-- What a flattened body requires cannot be listed. -/
def RequiredUnlistable (body : BodySpec) : Prop :=
  ∃ schema, body.schema = .obj schema ∧ (field schema "type").string? = some "object" ∧
    (listField schema "required").iterate? = none

theorem exists_parameterProperty_iff {parameter : Parameter} :
    (∃ property, parameterProperty parameter = .ok property) ↔
      parameter.schema.ConvertsToDict := by
  have converts : (∃ schema, dictOf parameter.schema = (.ok schema : Flatten (PyDict Json))) ↔
      parameter.schema.ConvertsToDict := exists_dictOf_iff
  rw [← converts, parameterProperty]
  simp only [bind_eq_ok, pure_eq_ok]
  constructor
  · rintro ⟨_, schema, converted, _⟩
    exact ⟨schema, converted⟩
  · rintro ⟨schema, converted⟩
    exact ⟨_, schema, converted, rfl⟩

theorem exists_mapM_parameterProperty_iff {parameters : List Parameter} :
    (∃ properties, parameters.mapM parameterProperty = .ok properties) ↔
      ¬SchemaUnreadable parameters := by
  rw [exists_mapM_eq_ok_iff]
  simp only [exists_parameterProperty_iff, SchemaUnreadable, not_exists, not_and, not_not]

theorem uncaught_mapM_parameterProperty_iff {parameters : List Parameter} :
    Uncaught isFlattenError (parameters.mapM parameterProperty) ↔ SchemaUnreadable parameters := by
  rw [uncaught_iff_of_none_caught]
  · rw [exists_mapM_parameterProperty_iff, not_not]
  · intro error failed
    rcases mapM_eq_error failed with ⟨parameter, _, unconverted⟩
    rcases bind_eq_error.mp unconverted with failure | ⟨_, _, converted⟩
    · rcases dictOf_eq_error failure with rfl | rfl <;> rfl
    · cases converted

theorem uncaught_iterate_iff {value : Json} :
    Uncaught isFlattenError (iterate value : Flatten (List Json)) ↔ value.iterate? = none := by
  unfold iterate
  cases value.iterate? <;> simp [isFlattenError]

theorem uncaught_addBody_iff {schema : InputSchema} {body : BodySpec}
    (readable : ¬BodyUnreadable body) :
    Uncaught isFlattenError (addBody schema (some body)) ↔ RequiredUnlistable body := by
  rw [addBody, uncaught_bind, uncaught_bodyProperties_iff]
  simp only [readable, false_or, RequiredUnlistable]
  cases isObject : body.schema with
  | obj fields =>
      simp only [Json.obj.injEq, exists_eq_left']
      by_cases isType : (field fields "type").string? = some "object"
      · have converts : ∃ properties, dictOf (objectField fields "properties") =
            (.ok properties : Flatten (PyDict Json)) := by
          rw [exists_dictOf_iff]
          by_contra unreadable
          exact readable (Or.inr ⟨fields, isObject, isType, unreadable⟩)
        rcases converts with ⟨properties, converted⟩
        have lifted : bodyProperties body = .ok (some properties) := by
          simp [bodyProperties, isObject, isType, converted]
        simp [lifted, isType, uncaught_iterate_iff]
      · have kept : bodyProperties body = .ok none := by
          simp [bodyProperties, isObject, isType]
        simp [kept, isType, dictOf]
  | _ =>
      exfalso
      apply readable
      left
      intro fields same
      cases isObject.symm.trans same

theorem renamedParameters_schema {isPrintable : Char → Bool} {parameters : List Parameter}
    {names : List DictKey} :
    SchemaUnreadable (renamedParameters isPrintable parameters names) ↔
      SchemaUnreadable parameters := by
  have sameSchema : ∀ parameter,
      (renamedParameter isPrintable parameters names parameter).schema = parameter.schema := by
    intro parameter
    unfold renamedParameter
    split <;> rfl
  simp [SchemaUnreadable, renamedParameters, sameSchema]

/-- A schema raises what is not caught just when it cannot be copied. -/
theorem uncaught_buildInputSchema_iff {isPrintable : Char → Bool} {binding resolved : HttpBinding}
    (resolves : resolveArgNames isPrintable binding = .ok resolved) :
    Uncaught isFlattenError (buildInputSchema isPrintable binding) ↔
      SchemaUnreadable binding.parameters ∨
        ∃ body, binding.body = some body ∧ RequiredUnlistable body := by
  rcases resolveArgNames_eq_ok_iff.mp resolves with ⟨_, names, named, _, _, _, rfl⟩
  have readable : ¬∃ body, binding.body = some body ∧ BodyUnreadable body := by
    rw [← uncaught_bodyNames_iff, named]
    exact not_false
  rw [buildInputSchema, resolves, uncaught_bind]
  simp only [uncaught_ok, false_or, Except.ok.injEq, exists_eq_left', uncaught_bind,
    uncaught_mapM_parameterProperty_iff, renamedParameters_schema]
  cases isBody : binding.body with
  | none => simp [addBody]
  | some body =>
      have bodyReadable : ¬BodyUnreadable body := fun unreadable => readable ⟨body, isBody, unreadable⟩
      simp only [uncaught_addBody_iff bodyReadable, Option.some.injEq, exists_eq_left']
      constructor
      · rintro (unreadable | ⟨_, _, unlistable⟩)
        · exact Or.inl unreadable
        · exact Or.inr unlistable
      · rintro (unreadable | unlistable)
        · exact Or.inl unreadable
        · by_cases unreadable : SchemaUnreadable binding.parameters
          · exact Or.inl unreadable
          · have copied : ∃ properties, (renamedParameters isPrintable binding.parameters names).mapM
                parameterProperty = .ok properties := by
              rw [exists_mapM_parameterProperty_iff, renamedParameters_schema]
              exact unreadable
            rcases copied with ⟨properties, copies⟩
            exact Or.inr ⟨properties, copies, unlistable⟩

theorem bodyProperties_eq_error {body : BodySpec} {error : PyException FlattenError}
    (failed : bodyProperties body = .error error) : isFlattenError error = false := by
  unfold bodyProperties at failed
  split at failed
  · split at failed
    · rcases bind_eq_error.mp failed with unconverted | ⟨_, _, collected⟩
      · rcases dictOf_eq_error unconverted with rfl | rfl <;> rfl
      · cases collected
    · cases failed
  · cases failed
    rfl

theorem addBody_eq_error {schema : InputSchema} {body : Option BodySpec}
    {error : PyException FlattenError} (failed : addBody schema body = .error error) :
    isFlattenError error = false := by
  cases body with
  | none => cases failed
  | some body =>
      rcases bind_eq_error.mp failed with unread | ⟨properties, _, later⟩
      · exact bodyProperties_eq_error unread
      · split at later
        · rcases bind_eq_error.mp later with unconverted | ⟨_, _, collected⟩
          · rcases dictOf_eq_error unconverted with rfl | rfl <;> rfl
          · cases collected
        · split at later
          · rcases bind_eq_error.mp later with unlisted | ⟨_, _, collected⟩
            · rw [iterate_eq_error unlisted]
              rfl
            · cases collected
          · cases later
            rfl

/-- Once the names are resolved no flattening error is left to raise. -/
theorem buildInputSchema_eq_error {isPrintable : Char → Bool} {binding resolved : HttpBinding}
    {error : PyException FlattenError} (resolves : resolveArgNames isPrintable binding = .ok resolved)
    (failed : buildInputSchema isPrintable binding = .error error) :
    isFlattenError error = false := by
  rw [buildInputSchema, resolves, bind_eq_error] at failed
  simp only [reduceCtorEq, false_or, Except.ok.injEq, exists_eq_left', bind_eq_error] at failed
  rcases failed with unread | ⟨properties, _, later⟩
  · rcases mapM_eq_error unread with ⟨parameter, _, unconverted⟩
    rcases bind_eq_error.mp unconverted with failure | ⟨_, _, collected⟩
    · rcases dictOf_eq_error failure with rfl | rfl <;> rfl
    · cases collected
  · exact addBody_eq_error later

theorem value_of_key_text {key : DictKey} {text : String} (isText : key.key = .text text) :
    key.value = .str text := by
  have hashes := key.hashes
  rw [isText] at hashes
  cases isValue : key.value with
  | str own =>
      rw [isValue] at hashes
      cases hashes
      rfl
  | _ =>
      rw [isValue] at hashes
      cases hashes

theorem isObject_of_bodyNames {body : BodySpec} {names : List DictKey}
    (read : bodyNames (some body) = .ok names) : ∃ schema, body.schema = .obj schema := by
  simp only [bodyNames, bind_eq_ok] at read
  rcases read with ⟨properties, read, _⟩
  unfold bodyProperties at read
  split at read
  case h_1 schema isObject => exact ⟨schema, isObject⟩
  case h_2 => cases read

end Unchecked

end McpPortal
