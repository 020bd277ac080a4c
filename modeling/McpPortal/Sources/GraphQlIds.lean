import McpPortal.Foundation.Reach
import McpPortal.Sources.GraphQlExpansion
import McpPortal.Sources.GraphQlSource

/-!
# The ids of the operations of a schema

A root field is dropped exactly when its selection would reach a type nobody defines. Its
operation is named after it, without the root it came from, so two operations share an id
exactly when a query and a mutation that are both kept share a name.
-/

namespace McpPortal

open Foundation

variable {schema : IntrospectedSchema} {typePolicy : List (String × List String)}

/-- The other type is expanded inside a selection of the first, unless it is open already. -/
def Expands (schema : IntrospectedSchema) (typePolicy : List (String × List String))
    (typeName other : String) : Prop :=
  ∃ field target, Offers schema typePolicy typeName field ∧ HasTarget field target ∧
    target.kind ∈ expandedKinds ∧ target.name = some other

theorem fieldsFor_undefined_reached {depth : Nat} {typeName indent missing : String}
    {path : List String}
    (failed : fieldsFor schema typePolicy depth typeName path indent =
      .error (.raised (.undefinedType missing))) :
    Relation.ReflTransGen (Expands schema typePolicy) typeName missing ∧
      missing ∉ Dict.keys schema.typesByName := by
  induction depth generalizing typeName indent path with
  | zero => cases failed
  | succ depth ih =>
      rw [fieldsFor] at failed
      split at failed
      case h_1 unknown =>
        cases failed
        exact ⟨.refl, Dict.get?_eq_none_iff.mp unknown⟩
      case h_2 info isInfo =>
        rcases bind_eq_error.mp failed with unlined | ⟨_, _, flat⟩
        · rcases mapM_eq_error unlined with ⟨field, fieldMem, fieldFailed⟩
          rcases fieldLines_eq_error fieldFailed with
            unnamed | ⟨target, isTarget, expanded, ⟨_, asserted⟩ | ⟨name, named, _, nested⟩⟩
          · cases namedType_eq_error unnamed
          · cases asserted
          · rcases ih nested with ⟨reaches, undefined⟩
            have offers := (mem_filter_isOffered_iff isInfo).mp fieldMem
            exact ⟨.head ⟨field, target, offers, isTarget, expanded, named⟩ reaches, undefined⟩
        · cases flat

/-- The lines of a field whose type is not open yet were generated with those of its type. -/
theorem fieldLines_nested
    {nestedLines : String → List String → String → Selecting (List String)} {path : List String}
    {indent name : String} {field : FieldInfo} {target : TypeRef} {lines : List String}
    (ran : fieldLines nestedLines path indent field = .ok lines) (isTarget : HasTarget field target)
    (expanded : target.kind ∈ expandedKinds) (named : target.name = some name)
    (fresh : name ∉ path) :
    ∃ nested, nestedLines name (path ++ [name]) (indent ++ "  ") = .ok nested := by
  unfold fieldLines at ran
  rcases bind_eq_ok.mp ran with ⟨other, isOther, later⟩
  cases isTarget.symm.trans isOther
  rw [if_neg (not_not.mpr expanded), named] at later
  simp only [if_neg fresh, bind_eq_ok] at later
  rcases later with ⟨nested, nestedRan, _⟩
  exact ⟨nested, nestedRan⟩

/-- A generated selection has expanded every type it reaches without going back. -/
theorem fieldsFor_reaches {depth : Nat} {typeName other indent : String} {path lines : List String}
    (ran : fieldsFor schema typePolicy depth typeName path indent = .ok lines)
    (reaches : ReachesOff (Expands schema typePolicy) path typeName other) :
    other ∈ Dict.keys schema.typesByName := by
  induction depth generalizing typeName indent path lines with
  | zero => cases ran
  | succ depth ih =>
      rw [fieldsFor] at ran
      split at ran
      · cases ran
      case h_2 info isInfo =>
        rcases Relation.ReflTransGen.cases_head reaches with rfl | ⟨next, stepped, later⟩
        · exact Dict.get?_isSome_iff.mp (Option.isSome_of_mem isInfo)
        · rcases stepped with ⟨⟨field, target, offers, isTarget, expanded, named⟩, fresh⟩
          rcases bind_eq_ok.mp ran with ⟨blocks, laid, _⟩
          have fieldMem := (mem_filter_isOffered_iff isInfo).mpr offers
          rcases exists_right_of_forall₂ (mapM_eq_ok_iff_forall₂.mp laid) fieldMem with
            ⟨block, _, fieldRan⟩
          rcases fieldLines_nested fieldRan isTarget expanded named fresh with ⟨nested, nestedRan⟩
          exact ih nestedRan (ReachesOff.notBack later)

/-- Every type that a selection under the field reaches is defined. -/
def Selectable (schema : IntrospectedSchema) (typePolicy : List (String × List String))
    (field : FieldInfo) : Prop :=
  ∀ target name, HasTarget field target → target.kind ∈ expandedKinds → target.name = some name →
    ∀ other, Relation.ReflTransGen (Expands schema typePolicy) name other →
      other ∈ Dict.keys schema.typesByName

namespace GraphQlSource

variable {upstreamKey : String} {depth : Nat}

theorem buildSelectionSet_eq_error {typeName : String} {error : PyException SelectionError}
    (failed : buildSelectionSet schema typePolicy depth typeName = .error error) :
    fieldsFor schema typePolicy depth typeName [typeName] "  " = .error error := by
  rcases bind_eq_error.mp failed with unlined | ⟨_, _, printed⟩
  · exact unlined
  · split at printed <;> cases printed

/-- A field that is not dropped reaches only defined types. -/
theorem selectable_of_selectionOf {field : FieldInfo} {returnType : TypeRef} {set : Option String}
    (isTarget : HasTarget field returnType)
    (ran : selectionOf schema typePolicy depth returnType = .ok set) :
    Selectable schema typePolicy field := by
  intro target name isOther expanded named other reaches
  cases isTarget.symm.trans isOther
  rw [selectionOf, if_neg (not_not.mpr expanded), named] at ran
  simp only [map_eq_pure_bind, bind_eq_ok] at ran
  rcases ran with ⟨text, built, _⟩
  rcases bind_eq_ok.mp built with ⟨lines, generated, _⟩
  exact fieldsFor_reaches generated (ReachesOff.notBack (reachesOff_nil_iff.mpr reaches))

/-- A field that is dropped reaches a type nobody defines. -/
theorem not_selectable_of_selectionOf {field : FieldInfo} {returnType : TypeRef} {missing : String}
    (isTarget : HasTarget field returnType)
    (failed : selectionOf schema typePolicy depth returnType =
      .error (.raised (.undefinedType missing))) :
    ¬Selectable schema typePolicy field := by
  intro selectable
  unfold selectionOf at failed
  split at failed
  · cases failed
  case isFalse isExpanded =>
    split at failed
    · cases failed
    case h_2 name named =>
      rw [map_eq_pure_bind, bind_eq_error] at failed
      rcases failed with unbuilt | ⟨_, _, collected⟩
      · rcases fieldsFor_undefined_reached (buildSelectionSet_eq_error unbuilt) with
          ⟨reaches, undefined⟩
        exact undefined (selectable returnType name isTarget (not_not.mp isExpanded) named _ reaches)
      · cases collected

/-- What a field becomes is decided by the types it reaches. -/
theorem build_kept {operationType : GraphQlOperationType} {field : FieldInfo}
    {built : Option Operation}
    (ran : build upstreamKey schema typePolicy depth operationType field = .ok built) :
    (Selectable schema typePolicy field ∧ built.map (·.id) = some field.name) ∨
      (¬Selectable schema typePolicy field ∧ built = none) := by
  rcases bind_eq_ok.mp ran with ⟨returnType, isTarget, later⟩
  split at later
  case h_1 missing dropped =>
    cases later
    exact Or.inr ⟨not_selectable_of_selectionOf isTarget dropped, rfl⟩
  · cases later
  case h_3 set selected =>
    rw [map_eq_pure_bind, bind_eq_ok] at later
    rcases later with ⟨operation, isOperation, collected⟩
    cases collected
    refine Or.inl ⟨selectable_of_selectionOf isTarget selected, ?_⟩
    rw [Option.map_some, (operationOf_fields isOperation).1]

open scoped Classical in
/-- The ids are the names of the fields that are kept, queries first. -/
theorem ids_operations {operations : List Operation}
    (ran : GraphQlSource.operations upstreamKey schema typePolicy depth = .ok operations) :
    operations.map (·.id) =
      ((allRootFields schema).filter fun rootField =>
        decide (Selectable schema typePolicy rootField.2)).map (·.2.name) := by
  rcases bind_eq_ok.mp ran with ⟨built, allBuilt, collected⟩
  cases collected
  have oneByOne := mapM_eq_ok_iff_forall₂.mp allBuilt
  clear allBuilt ran
  generalize allRootFields schema = rootFields at oneByOne ⊢
  induction oneByOne with
  | nil => rfl
  | cons first _ ih =>
      rcases build_kept first with ⟨selectable, named⟩ | ⟨dropped, rfl⟩
      · rcases Option.map_eq_some_iff.mp named with ⟨operation, rfl, isName⟩
        have isKept : id (some operation) = some operation := rfl
        rw [List.filterMap_cons_some isKept, List.map_cons, ih, isName]
        simp only [List.filter_cons, selectable, decide_true, if_true, List.map_cons]
      · have isDropped : id (none : Option Operation) = none := rfl
        rw [List.filterMap_cons_none isDropped, ih]
        simp only [List.filter_cons, dropped, decide_false, Bool.false_eq_true, if_false]

theorem nodup_rootFields
    (unique : ∀ typeName info, Dict.get? schema.typesByName typeName = some info →
      (info.fields.map (·.name)).Nodup)
    (operationType : GraphQlOperationType) (typeName : Option String) :
    ((rootFields schema operationType typeName).map (·.2.name)).Nodup := by
  unfold rootFields
  split
  · exact List.nodup_nil
  case h_2 root found =>
    rcases Option.bind_eq_some_iff.mp found with ⟨name, _, isRoot⟩
    rw [List.map_map]
    exact unique name root isRoot

/-- Two kept root fields of one name are a query and a mutation. -/
theorem nodup_ids_iff {operations : List Operation}
    (ran : GraphQlSource.operations upstreamKey schema typePolicy depth = .ok operations)
    (unique : ∀ typeName info, Dict.get? schema.typesByName typeName = some info →
      (info.fields.map (·.name)).Nodup) :
    (operations.map (·.id)).Nodup ↔
      ∀ query ∈ rootFields schema .query (some schema.queryType),
        ∀ mutation ∈ rootFields schema .mutation schema.mutationType,
          Selectable schema typePolicy query.2 → Selectable schema typePolicy mutation.2 →
            query.2.name ≠ mutation.2.name := by
  classical
  rw [ids_operations ran, allRootFields, List.filter_append, List.map_append, List.nodup_append]
  have keptUnique : ∀ operationType typeName,
      (((rootFields schema operationType typeName).filter fun rootField =>
        decide (Selectable schema typePolicy rootField.2)).map (·.2.name)).Nodup := by
    intro operationType typeName
    exact (nodup_rootFields unique operationType typeName).sublist (List.filter_sublist.map _)
  constructor
  · rintro ⟨_, _, apart⟩ query queryMem mutation mutationMem queryKept mutationKept
    apply apart
    · exact List.mem_map_of_mem (List.mem_filter.mpr ⟨queryMem, decide_eq_true queryKept⟩)
    · exact List.mem_map_of_mem (List.mem_filter.mpr ⟨mutationMem, decide_eq_true mutationKept⟩)
  · intro apart
    refine ⟨keptUnique _ _, keptUnique _ _, ?_⟩
    intro queryName queryNameMem mutationName mutationNameMem
    rcases List.mem_map.mp queryNameMem with ⟨query, queryMem, rfl⟩
    rcases List.mem_map.mp mutationNameMem with ⟨mutation, mutationMem, rfl⟩
    rw [List.mem_filter, decide_eq_true_eq] at queryMem mutationMem
    exact apart query queryMem.1 mutation mutationMem.1 queryMem.2 mutationMem.2

end GraphQlSource

end McpPortal
