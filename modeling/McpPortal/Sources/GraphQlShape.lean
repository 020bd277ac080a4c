import McpPortal.Sources.GraphQlExpansion
import McpPortal.Sources.GraphQlSource

/-!
# The shape of generated documents

A selection set follows a field in a generated document exactly when the type of the field
is an object or an interface, at every depth and at the root.
-/

namespace McpPortal

open Foundation

variable {schema : IntrospectedSchema} {typePolicy : List (String × List String)}

/-- The innermost type of a reference has a name that the schema defines. -/
def RefDefined (schema : IntrospectedSchema) (ref : TypeRef) : Prop :=
  ∃ target name, namedType ref = (.ok target : Selecting TypeRef) ∧ target.name = some name ∧
    name ∈ Dict.keys schema.typesByName

/-- All types a schema refers to are among its types. -/
def ReferencesDefined (schema : IntrospectedSchema) : Prop :=
  ∀ typeName field, Declares schema typeName field →
    RefDefined schema field.type ∧ ∀ arg ∈ field.args, RefDefined schema arg.type

theorem renderTypeRef_ok {ref target : TypeRef} {name : String}
    (isTarget : namedType ref = (.ok target : Selecting TypeRef)) (named : target.name = some name) :
    ∃ rendered, renderTypeRef ref = (.ok rendered : Selecting String) := by
  induction ref with
  | bare kind typeName =>
      simp only [namedType] at isTarget
      split at isTarget
      · cases isTarget
      case isFalse noWrapper =>
        cases isTarget
        cases named
        exact ⟨name, by simp [renderTypeRef, noWrapper]⟩
  | wrapping kind typeName ofType ih =>
      simp only [namedType] at isTarget
      split at isTarget
      case isTrue =>
        rcases ih isTarget with ⟨rendered, ran⟩
        unfold renderTypeRef
        split
        · exact ⟨_, bind_eq_ok.mpr ⟨rendered, ran, rfl⟩⟩
        · split
          · exact ⟨_, bind_eq_ok.mpr ⟨rendered, ran, rfl⟩⟩
          · simp_all [isWrapper]
      case isFalse noWrapper =>
        cases isTarget
        cases named
        simp only [isWrapper, Bool.or_eq_true, decide_eq_true_eq, not_or] at noWrapper
        exact ⟨name, by simp [renderTypeRef, noWrapper]⟩

theorem jsonTypeFor_ok {ref target : TypeRef}
    (isTarget : namedType ref = (.ok target : Selecting TypeRef)) :
    ∃ schema, jsonTypeFor ref = (.ok schema : Selecting JsonObject) := by
  induction ref with
  | bare kind typeName =>
      simp only [namedType] at isTarget
      split at isTarget
      · cases isTarget
      case isFalse noWrapper => exact ⟨_, by simp [jsonTypeFor, noWrapper]; rfl⟩
  | wrapping kind typeName ofType ih =>
      simp only [namedType] at isTarget
      unfold jsonTypeFor
      split at isTarget
      case isTrue =>
        rcases ih isTarget with ⟨schema, ran⟩
        split
        · exact ⟨schema, ran⟩
        · split
          · exact ⟨_, bind_eq_ok.mpr ⟨schema, ran, rfl⟩⟩
          · exact ⟨_, rfl⟩
      case isFalse noWrapper =>
        simp only [isWrapper, Bool.or_eq_true, decide_eq_true_eq, not_or] at noWrapper
        exact ⟨_, by simp [noWrapper]; rfl⟩

/-- Over such a schema the generation can fail by its bound alone. -/
theorem fieldsFor_defined (defined : ReferencesDefined schema) {depth : Nat}
    {typeName indent : String} {path : List String} {error : PyException SelectionError}
    (known : typeName ∈ Dict.keys schema.typesByName)
    (failed : fieldsFor schema typePolicy depth typeName path indent = .error error) :
    error = .raised .recursionLimit := by
  induction depth generalizing typeName indent path with
  | zero =>
      cases failed
      rfl
  | succ depth ih =>
      rw [fieldsFor] at failed
      split at failed
      case h_1 missing => exact absurd known (Dict.get?_eq_none_iff.mp missing)
      case h_2 info isInfo =>
        rcases bind_eq_error.mp failed with unlined | ⟨_, _, flat⟩
        · rcases mapM_eq_error unlined with ⟨field, fieldMem, fieldFailed⟩
          have declared : Declares schema typeName field :=
            ⟨info, isInfo, List.mem_of_mem_filter fieldMem⟩
          rcases (defined typeName field declared).1 with ⟨target, name, isTarget, named, inner⟩
          rcases fieldLines_eq_error fieldFailed with
            unnamed | ⟨other, isOther, _, ⟨noName, _⟩ | ⟨otherName, otherNamed, _, nested⟩⟩
          · cases isTarget.symm.trans unnamed
          · cases isTarget.symm.trans isOther
            cases named.symm.trans noName
          · cases isTarget.symm.trans isOther
            cases named.symm.trans otherNamed
            exact ih inner nested
        · cases flat

theorem buildSelectionSet_ok (defined : ReferencesDefined schema) {depth : Nat} {typeName : String}
    (known : typeName ∈ Dict.keys schema.typesByName)
    (enough : (Dict.keys schema.typesByName).length + 2 ≤ depth) :
    ∃ text, buildSelectionSet schema typePolicy depth typeName = .ok text := by
  cases ran : fieldsFor schema typePolicy depth typeName [typeName] "  " with
  | ok lines =>
      simp only [buildSelectionSet, ran, bind, Except.bind]
      split
      · exact ⟨_, rfl⟩
      · exact ⟨_, rfl⟩
  | error error =>
      cases fieldsFor_defined defined known ran
      have within : unexpanded schema [typeName] ≤ (Dict.keys schema.typesByName).length :=
        (Finset.card_le_card Finset.sdiff_subset).trans (List.toFinset_card_le _)
      exact absurd ran (fieldsFor_ends (by omega))

/-- The selection set printed after a field. -/
def Selection.set : Selection → Option String
  | .leaf _ => none
  | .typename _ => some typenameSelection
  | .nested _ _ fields => some (printSelections fields)

/-- A selection of the field, where a set with a selection in it follows a field exactly when
the kind of its type is one of these. -/
inductive Shaped (schema : IntrospectedSchema) (composite : List String) :
    FieldInfo → Selection → Prop
  | leaf {field : FieldInfo} {target : TypeRef} (isTarget : HasTarget field target)
      (isLeaf : target.kind ∉ composite) : Shaped schema composite field (.leaf field.name)
  | typename {field : FieldInfo} {target : TypeRef} (isTarget : HasTarget field target)
      (isComposite : target.kind ∈ composite) :
      Shaped schema composite field (.typename field.name)
  | nested {field : FieldInfo} {target : TypeRef} {type : String} {fields : List Selection}
      {fieldOf : Selection → FieldInfo} (isTarget : HasTarget field target)
      (isComposite : target.kind ∈ composite) (named : target.name = some type)
      (nonempty : fields ≠ [])
      (declared : ∀ selection ∈ fields, Declares schema type (fieldOf selection))
      (shaped : ∀ selection ∈ fields, Shaped schema composite (fieldOf selection) selection) :
      Shaped schema composite field (.nested field.name type fields)

theorem Selected.shaped {path : List String} {typeName : String} {selection : Selection}
    (selected : Selected schema typePolicy path typeName selection) :
    ∃ field, Declares schema typeName field ∧ Shaped schema expandedKinds field selection := by
  induction selected with
  | leaf offers isTarget notExpanded =>
      exact ⟨_, offers.declared, .leaf isTarget notExpanded⟩
  | typename offers isTarget expanded named again =>
      exact ⟨_, offers.declared, .typename isTarget expanded⟩
  | @nested _ _ _ field _ _ offers isTarget expanded named fresh nonempty selected ih =>
      have : Nonempty FieldInfo := ⟨field⟩
      choose! fieldOf declared shaped using ih
      exact ⟨field, offers.declared, .nested isTarget expanded named nonempty declared shaped⟩

/-- The document selects the field, with a set after the fields of these kinds. -/
def DocumentShaped (schema : IntrospectedSchema) (composite : List String)
    (rootField : GraphQlOperationType × FieldInfo) (operation : Operation) : Prop :=
  ∃ selection binding, Shaped schema composite rootField.2 selection ∧
    operation.binding = .graphQl binding ∧
    document rootField.1 rootField.2 selection.set = (.ok binding.document : Selecting String)

namespace GraphQlSource

variable {upstreamKey : String} {depth : Nat}

theorem selectionOf_shaped {field : FieldInfo} {returnType : TypeRef} {set : Option String}
    (isTarget : HasTarget field returnType)
    (ran : selectionOf schema typePolicy depth returnType = .ok set) :
    ∃ selection, Shaped schema expandedKinds field selection ∧ selection.set = set := by
  unfold selectionOf at ran
  split at ran
  case isTrue isLeaf =>
    cases ran
    exact ⟨_, .leaf isTarget isLeaf, rfl⟩
  case isFalse isExpanded =>
    have expanded : returnType.kind ∈ expandedKinds := not_not.mp isExpanded
    split at ran
    · cases ran
      exact ⟨_, .typename isTarget expanded, rfl⟩
    case h_2 name named =>
      rw [map_eq_pure_bind, bind_eq_ok] at ran
      rcases ran with ⟨text, built, isSet⟩
      cases isSet
      rcases buildSelectionSet_prints built with ⟨selections, rfl, selected⟩
      by_cases empty : selections = []
      · subst empty
        exact ⟨_, .typename isTarget expanded, rfl⟩
      · have : Nonempty FieldInfo := ⟨field⟩
        choose! fieldOf declared shaped using fun selection mem => (selected selection mem).shaped
        exact ⟨_, .nested isTarget expanded named empty declared shaped, rfl⟩

theorem selectionOf_ok (defined : ReferencesDefined schema) {returnType : TypeRef} {name : String}
    (named : returnType.name = some name) (known : name ∈ Dict.keys schema.typesByName)
    (enough : (Dict.keys schema.typesByName).length + 2 ≤ depth) :
    ∃ set, selectionOf schema typePolicy depth returnType = .ok set := by
  unfold selectionOf
  split
  · exact ⟨_, rfl⟩
  · have builds : ∃ text, buildSelectionSet schema typePolicy depth name = .ok text :=
      buildSelectionSet_ok defined known enough
    rcases builds with ⟨text, built⟩
    rw [named]
    exact ⟨some text, by simp only [built]; rfl⟩

section Arguments

variable {field : FieldInfo} (argsDefined : ∀ arg ∈ field.args, RefDefined schema arg.type)

include argsDefined

theorem document_ok (operationType : GraphQlOperationType) (set : Option String) :
    ∃ text, document operationType field set = (.ok text : Selecting String) := by
  have declares : ∃ declarations, (field.args.mapM fun arg => do
      let rendered ← renderTypeRef arg.type
      return "$" ++ arg.name ++ ": " ++ rendered) = (.ok declarations : Selecting _) := by
    rw [exists_mapM_eq_ok_iff]
    intro arg argMem
    rcases argsDefined arg argMem with ⟨_, _, isTarget, named, _⟩
    rcases renderTypeRef_ok isTarget named with ⟨rendered, ran⟩
    exact ⟨_, bind_eq_ok.mpr ⟨rendered, ran, rfl⟩⟩
  rcases declares with ⟨declarations, ran⟩
  exact ⟨_, bind_eq_ok.mpr ⟨declarations, ran, rfl⟩⟩

theorem fieldVariables_ok :
    ∃ variableList, fieldVariables field = (.ok variableList : Selecting (List Variable)) := by
  unfold fieldVariables
  rw [exists_mapM_eq_ok_iff]
  intro arg argMem
  rcases argsDefined arg argMem with ⟨_, _, isTarget, named, _⟩
  rcases renderTypeRef_ok isTarget named with ⟨rendered, ran⟩
  exact ⟨_, bind_eq_ok.mpr ⟨rendered, ran, rfl⟩⟩

theorem fieldInputSchema_ok :
    ∃ inputSchema, fieldInputSchema field = (.ok inputSchema : Selecting JsonObject) := by
  have converts : ∃ properties, (field.args.mapM fun arg => do
      let schema ← jsonTypeFor arg.type
      return (arg.name, Json.obj schema)) = (.ok properties : Selecting _) := by
    rw [exists_mapM_eq_ok_iff]
    intro arg argMem
    rcases argsDefined arg argMem with ⟨_, _, isTarget, _, _⟩
    rcases jsonTypeFor_ok isTarget with ⟨converted, ran⟩
    exact ⟨_, bind_eq_ok.mpr ⟨converted, ran, rfl⟩⟩
  rcases converts with ⟨properties, ran⟩
  exact ⟨_, bind_eq_ok.mpr ⟨properties, ran, rfl⟩⟩

theorem operationOf_ok (operationType : GraphQlOperationType) (set : Option String) :
    ∃ operation, operationOf upstreamKey operationType field set = .ok operation := by
  rcases document_ok argsDefined operationType set with ⟨text, printed⟩
  rcases fieldVariables_ok argsDefined with ⟨variableList, rendered⟩
  rcases fieldInputSchema_ok argsDefined with ⟨inputSchema, converted⟩
  exact ⟨_, bind_eq_ok.mpr ⟨text, printed, bind_eq_ok.mpr ⟨variableList, rendered,
    bind_eq_ok.mpr ⟨inputSchema, converted, rfl⟩⟩⟩⟩

end Arguments

/-- A field of a root type becomes an operation whose document has the shape of the schema. -/
theorem build_shaped (defined : ReferencesDefined schema) {operationType : GraphQlOperationType}
    {field : FieldInfo} (fieldDefined : RefDefined schema field.type)
    (argsDefined : ∀ arg ∈ field.args, RefDefined schema arg.type)
    (enough : (Dict.keys schema.typesByName).length + 2 ≤ depth) :
    ∃ operation,
      build upstreamKey schema typePolicy depth operationType field = .ok (some operation) ∧
        DocumentShaped schema expandedKinds (operationType, field) operation := by
  rcases fieldDefined with ⟨returnType, name, isTarget, named, known⟩
  have selects : ∃ set, selectionOf schema typePolicy depth returnType = .ok set :=
    selectionOf_ok defined named known enough
  rcases selects with ⟨set, selected⟩
  have builds : ∃ operation, operationOf upstreamKey operationType field set = .ok operation :=
    operationOf_ok argsDefined operationType set
  rcases builds with ⟨operation, built⟩
  refine ⟨operation, ?_, ?_⟩
  · rw [build, isTarget]
    simp only [bind, Except.bind, selected, built]
    rfl
  · rcases selectionOf_shaped isTarget selected with ⟨selection, shaped, rfl⟩
    rcases (operationOf_fields built).2 with ⟨binding, isBinding, printed⟩
    exact ⟨selection, binding, shaped, isBinding, printed⟩

theorem declares_of_mem_allRootFields {rootField : GraphQlOperationType × FieldInfo}
    (mem : rootField ∈ allRootFields schema) : ∃ typeName, Declares schema typeName rootField.2 := by
  have ofRoot : ∀ operationType typeName, rootField ∈ rootFields schema operationType typeName →
      ∃ typeName, Declares schema typeName rootField.2 := by
    intro operationType typeName rootMem
    unfold rootFields at rootMem
    split at rootMem
    · cases rootMem
    case h_2 root found =>
      rcases Option.bind_eq_some_iff.mp found with ⟨name, _, isRoot⟩
      rcases List.mem_map.mp rootMem with ⟨field, fieldMem, rfl⟩
      exact ⟨name, root, isRoot, fieldMem⟩
  rcases List.mem_append.mp mem with query | mutation
  · exact ofRoot _ _ query
  · exact ofRoot _ _ mutation

/--
Every root field of a schema that defines the types it refers to becomes an operation, and
in its document a selection set follows the fields of objects and interfaces and no others.
-/
theorem operations_shaped (upstreamKey : String) (schema : IntrospectedSchema)
    (typePolicy : List (String × List String)) (defined : ReferencesDefined schema) :
    ∃ bound, ∀ depth, bound ≤ depth →
      ∃ operations, GraphQlSource.operations upstreamKey schema typePolicy depth = .ok operations ∧
        List.Forall₂ (DocumentShaped schema expandedKinds) (allRootFields schema) operations := by
  refine ⟨(Dict.keys schema.typesByName).length + 2, fun depth enough => ?_⟩
  have eachBuilds : ∀ rootField ∈ allRootFields schema, ∃ built,
      build upstreamKey schema typePolicy depth rootField.1 rootField.2 = .ok built ∧
        ∃ operation, built = some operation ∧
          DocumentShaped schema expandedKinds rootField operation := by
    intro rootField mem
    rcases declares_of_mem_allRootFields mem with ⟨typeName, declared⟩
    rcases defined typeName _ declared with ⟨fieldDefined, argsDefined⟩
    have builds : ∃ operation,
        build upstreamKey schema typePolicy depth rootField.1 rootField.2 = .ok (some operation) ∧
          DocumentShaped schema expandedKinds rootField operation :=
      build_shaped defined fieldDefined argsDefined enough
    rcases builds with ⟨operation, built, shaped⟩
    exact ⟨some operation, built, operation, rfl, shaped⟩
  rcases exists_mapM_eq_ok eachBuilds with ⟨built, ran, related⟩
  exact ⟨built.filterMap id, bind_eq_ok.mpr ⟨built, ran, rfl⟩, forall₂_filterMap_id related⟩

theorem staffSchema_defined : ReferencesDefined staffSchema := by
  intro typeName field declared
  rcases declared with ⟨info, isInfo, fieldMem⟩
  have entryMem := Dict.mem_of_get? isInfo
  simp only [staffSchema, List.mem_cons, Prod.mk.injEq, List.not_mem_nil, or_false] at entryMem
  rcases entryMem with ⟨rfl, rfl⟩ | ⟨rfl, rfl⟩ | ⟨rfl, rfl⟩
  case inl =>
    rw [List.mem_singleton] at fieldMem
    subst fieldMem
    refine ⟨⟨_, _, rfl, rfl, by decide⟩, ?_⟩
    intro arg argMem
    rw [List.mem_singleton] at argMem
    subst argMem
    exact ⟨_, _, rfl, rfl, by decide⟩
  case inr.inl =>
    simp only [List.mem_cons, List.not_mem_nil, or_false] at fieldMem
    rcases fieldMem with rfl | rfl
    · exact ⟨⟨_, _, rfl, rfl, by decide⟩, nofun⟩
    · exact ⟨⟨_, _, rfl, rfl, by decide⟩, nofun⟩
  case inr.inr => cases fieldMem

theorem operations_shaped_staff :
    ReferencesDefined staffSchema ∧
      ∃ bound, ∀ depth, bound ≤ depth →
        ∃ operations, GraphQlSource.operations "hr" staffSchema [] depth = .ok operations ∧
          List.Forall₂ (DocumentShaped staffSchema expandedKinds) (allRootFields staffSchema)
            operations :=
  ⟨staffSchema_defined, operations_shaped "hr" staffSchema [] staffSchema_defined⟩

/-- Anything can be searched for. -/
def searchSchema : IntrospectedSchema where
  queryType := "Query"
  typesByName :=
    [ ("Query", {
        kind := "OBJECT"
        name := "Query"
        fields := [{ name := "search", type := .bare "UNION" (some "Hit") }] }),
      ("Hit", { kind := "UNION", name := "Hit" }) ]

theorem searchSchema_defined : ReferencesDefined searchSchema := by
  intro typeName field declared
  rcases declared with ⟨info, isInfo, fieldMem⟩
  have entryMem := Dict.mem_of_get? isInfo
  simp only [searchSchema, List.mem_cons, Prod.mk.injEq, List.not_mem_nil, or_false] at entryMem
  rcases entryMem with ⟨rfl, rfl⟩ | ⟨rfl, rfl⟩
  case inl =>
    rw [List.mem_singleton] at fieldMem
    subst fieldMem
    exact ⟨⟨_, _, rfl, rfl, by decide⟩, nofun⟩
  case inr => cases fieldMem

/-- A document is longer than the selection set in it. -/
theorem length_le_documentText (operationType : GraphQlOperationType) (field : FieldInfo)
    (declarations : List String) (set : String) :
    operationType.value.length + field.name.length + set.length + 6 ≤
      (documentText operationType field declarations (some set)).length := by
  simp only [documentText, String.length_append]
  have open_ : (" \x7b ").length = 3 := rfl
  have close : (" \x7d").length = 2 := rfl
  have space : (" ").length = 1 := rfl
  omega

theorem operations_bareUnion :
    ReferencesDefined searchSchema ∧
      ∃ operations, GraphQlSource.operations "hr" searchSchema [] 4 = .ok operations ∧
        ¬List.Forall₂ (DocumentShaped searchSchema ["OBJECT", "INTERFACE", "UNION"])
          (allRootFields searchSchema) operations := by
  refine ⟨searchSchema_defined, _, rfl, ?_⟩
  intro shaped
  rcases (List.forall₂_cons.mp shaped).1 with ⟨selection, binding, fieldShaped, isBinding, printed⟩
  have isText : binding.document = "query \x7b search \x7d" := by
    cases isBinding
    rfl
  have noSet : selection.set = none := by
    cases isSet : selection.set with
    | none => rfl
    | some set =>
        rw [isSet, isText] at printed
        have isDocument : documentText .query
            { name := "search", type := .bare "UNION" (some "Hit") } [] (some set) =
              "query \x7b search \x7d" := Except.ok.inj printed
        have longer := length_le_documentText .query
          { name := "search", type := .bare "UNION" (some "Hit") } [] set
        rw [isDocument] at longer
        have lengths : GraphQlOperationType.query.value.length = 5 ∧ "search".length = 6 ∧
            "query \x7b search \x7d".length = 16 := ⟨rfl, rfl, rfl⟩
        simp only [lengths] at longer
        omega
  cases fieldShaped with
  | leaf isTarget isLeaf =>
      cases isTarget
      exact isLeaf (by decide)
  | typename _ _ => cases noSet
  | nested _ _ _ _ _ _ => cases noSet

end GraphQlSource

end McpPortal
