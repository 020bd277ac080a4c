import McpPortal.Foundation.Reach
import McpPortal.Sources.GraphQlSelection

/-!
# What a generated selection selects

The generation ends: along a path every type is expanded once, so its depth is bounded
by the number of types. The lines it returns are those of a tree of fields, each of which
its parent offers.
-/

namespace McpPortal

open Foundation

variable {schema : IntrospectedSchema} {typePolicy : List (String × List String)}

/-- The number of types that are not on the path. -/
def unexpanded (schema : IntrospectedSchema) (path : List String) : Nat :=
  ((Dict.keys schema.typesByName).toFinset \ path.toFinset).card

theorem unexpanded_lt {path : List String} {name : String}
    (known : name ∈ Dict.keys schema.typesByName) (fresh : name ∉ path) :
    unexpanded schema (path ++ [name]) < unexpanded schema path :=
  offPath_lt known fresh

/-- What a nested type's lines are matters for the types off the path only. -/
theorem fieldLines_congr {left right : String → List String → String → Selecting (List String)}
    {path : List String} {indent : String} {field : FieldInfo}
    (same : ∀ name, name ∉ path → ∀ indent,
      left name (path ++ [name]) indent = right name (path ++ [name]) indent) :
    fieldLines left path indent field = fieldLines right path indent field := by
  unfold fieldLines
  cases namedType field.type with
  | error error => rfl
  | ok target =>
      simp only [bind, Except.bind]
      split
      · rfl
      · split
        · rfl
        · split
          · rfl
          case isFalse fresh => rw [same _ fresh]

theorem fieldsFor_undefined {depth : Nat} {typeName indent : String} {path : List String}
    (positive : 0 < depth) (unknown : typeName ∉ Dict.keys schema.typesByName) :
    fieldsFor schema typePolicy depth typeName path indent =
      .error (.raised (.undefinedType typeName)) := by
  cases depth with
  | zero => cases positive
  | succ depth =>
      rw [fieldsFor, Dict.get?_eq_none_iff.mpr unknown]
      rfl

/-- A larger depth makes no difference when the depth exceeds the types off the path. -/
theorem fieldsFor_deeper {depth deeper : Nat} {typeName indent : String} {path : List String}
    (enough : unexpanded schema path + 2 ≤ depth) (more : depth ≤ deeper) :
    fieldsFor schema typePolicy deeper typeName path indent =
      fieldsFor schema typePolicy depth typeName path indent := by
  induction depth generalizing deeper typeName indent path with
  | zero => omega
  | succ depth ih =>
      cases deeper with
      | zero => omega
      | succ deeper =>
          rw [fieldsFor, fieldsFor]
          cases Dict.get? schema.typesByName typeName with
          | none => rfl
          | some info =>
              have sameLines : fieldLines (fieldsFor schema typePolicy deeper) path indent =
                  fieldLines (fieldsFor schema typePolicy depth) path indent := by
                funext field
                apply fieldLines_congr
                intro name fresh nestedIndent
                by_cases known : name ∈ Dict.keys schema.typesByName
                · have fewer := unexpanded_lt known fresh
                  apply ih <;> omega
                · rw [fieldsFor_undefined (by omega) known, fieldsFor_undefined (by omega) known]
              simp only [sameLines]

theorem namedType_eq_error {ref : TypeRef} {error : PyException SelectionError}
    (failed : namedType ref = .error error) : error = .assertionError := by
  induction ref with
  | bare kind name =>
      simp only [namedType] at failed
      split at failed
      · cases failed
        rfl
      · cases failed
  | wrapping kind name ofType ih =>
      simp only [namedType] at failed
      split at failed
      · exact ih failed
      · cases failed

/-- The innermost type of a field. -/
def HasTarget (field : FieldInfo) (target : TypeRef) : Prop :=
  namedType field.type = (.ok target : Selecting TypeRef)

/-- A field's lines fail over a wrapper that wraps nothing, a type without a name, or a nested
type. -/
theorem fieldLines_eq_error
    {nestedLines : String → List String → String → Selecting (List String)} {path : List String}
    {indent : String} {field : FieldInfo} {error : PyException SelectionError}
    (failed : fieldLines nestedLines path indent field = .error error) :
    namedType field.type = .error error ∨
      ∃ target, HasTarget field target ∧ target.kind ∈ expandedKinds ∧
        (target.name = none ∧ error = .assertionError ∨
          ∃ name, target.name = some name ∧ name ∉ path ∧
            nestedLines name (path ++ [name]) (indent ++ "  ") = .error error) := by
  unfold fieldLines at failed
  rcases bind_eq_error.mp failed with unnamed | ⟨target, isTarget, later⟩
  · exact Or.inl unnamed
  · split at later
    · cases later
    case isFalse isExpanded =>
      refine Or.inr ⟨target, isTarget, not_not.mp isExpanded, ?_⟩
      split at later
      case h_1 unnamed =>
        cases later
        exact Or.inl ⟨unnamed, rfl⟩
      case h_2 name named =>
        split at later
        · cases later
        case isFalse fresh =>
          rcases bind_eq_error.mp later with nested | ⟨_, _, laid⟩
          · exact Or.inr ⟨name, named, fresh, nested⟩
          · split at laid <;> cases laid

/-- With enough depth the generation does not run into its bound. -/
theorem fieldsFor_ends {depth : Nat} {typeName indent : String} {path : List String}
    (enough : unexpanded schema path + 2 ≤ depth) :
    fieldsFor schema typePolicy depth typeName path indent ≠
      .error (.raised .recursionLimit) := by
  induction depth generalizing typeName indent path with
  | zero => omega
  | succ depth ih =>
      intro failed
      rw [fieldsFor] at failed
      split at failed
      · cases failed
      · rcases bind_eq_error.mp failed with unlined | ⟨_, _, flat⟩
        · rcases mapM_eq_error unlined with ⟨field, _, fieldFailed⟩
          rcases fieldLines_eq_error fieldFailed with
            unnamed | ⟨_, _, _, ⟨_, asserted⟩ | ⟨name, _, fresh, nested⟩⟩
          · cases namedType_eq_error unnamed
          · cases asserted
          · by_cases known : name ∈ Dict.keys schema.typesByName
            · have fewer := unexpanded_lt known fresh
              exact ih (by omega) nested
            · rw [fieldsFor_undefined (by omega) known] at nested
              cases nested
        · cases flat

/-- A selected field: alone, with `__typename` alone, or with selected fields of its type. -/
inductive Selection where
  | leaf (name : String)
  | typename (name : String)
  | nested (name type : String) (fields : List Selection)

mutual

/-- The lines a selection is printed as. -/
def Selection.lines (indent : String) : Selection → List String
  | .leaf name => [indent ++ name]
  | .typename name => [indent ++ name ++ " " ++ typenameSelection]
  | .nested name _ fields =>
      (indent ++ name ++ " \x7b") :: selectionLines (indent ++ "  ") fields ++ [indent ++ "\x7d"]

def selectionLines (indent : String) : List Selection → List String
  | [] => []
  | selection :: rest => selection.lines indent ++ selectionLines indent rest

end

/-- A selection set; without a field it is `__typename` alone. -/
def printSelections (selections : List Selection) : String :=
  if selections.isEmpty then typenameSelection
  else "\x7b\n" ++ joinWith "\n" (selectionLines "  " selections) ++ "\n\x7d"

theorem selectionLines_append (indent : String) (left right : List Selection) :
    selectionLines indent (left ++ right) =
      selectionLines indent left ++ selectionLines indent right := by
  induction left with
  | nil => rfl
  | cons selection rest ih => simp [selectionLines, ih]

theorem Selection.lines_ne_nil (indent : String) (selection : Selection) :
    selection.lines indent ≠ [] := by
  cases selection <;> simp [Selection.lines]

theorem selectionLines_eq_nil_iff {indent : String} {selections : List Selection} :
    selectionLines indent selections = [] ↔ selections = [] := by
  cases selections with
  | nil => simp [selectionLines]
  | cons selection rest => simp [selectionLines, selection.lines_ne_nil]

/-- The field is one of the type's. -/
def Declares (schema : IntrospectedSchema) (typeName : String) (field : FieldInfo) : Prop :=
  ∃ info, Dict.get? schema.typesByName typeName = some info ∧ field ∈ info.fields

/-- A field of the type that the policy does not exclude there and that takes no arguments. -/
structure Offers (schema : IntrospectedSchema) (typePolicy : List (String × List String))
    (typeName : String) (field : FieldInfo) : Prop where
  declared : Declares schema typeName field
  permitted : field.name ∉ excludedFields typePolicy typeName
  noArgs : field.args = []

theorem mem_filter_isOffered_iff {typeName : String} {info : TypeInfo} {field : FieldInfo}
    (isInfo : Dict.get? schema.typesByName typeName = some info) :
    field ∈ info.fields.filter (isOffered typePolicy typeName) ↔
      Offers schema typePolicy typeName field := by
  rw [List.mem_filter, isOffered, Bool.and_eq_true, decide_eq_true_eq, List.isEmpty_iff]
  constructor
  · rintro ⟨listed, permitted, noArgs⟩
    exact ⟨⟨info, isInfo, listed⟩, permitted, noArgs⟩
  · rintro ⟨⟨other, isOther, listed⟩, permitted, noArgs⟩
    cases isInfo.symm.trans isOther
    exact ⟨listed, permitted, noArgs⟩

/-- A selection under a type, where the types on the path are being expanded. -/
inductive Selected (schema : IntrospectedSchema) (typePolicy : List (String × List String)) :
    List String → String → Selection → Prop
  | leaf {path : List String} {typeName : String} {field : FieldInfo} {target : TypeRef}
      (offers : Offers schema typePolicy typeName field) (isTarget : HasTarget field target)
      (notExpanded : target.kind ∉ expandedKinds) :
      Selected schema typePolicy path typeName (.leaf field.name)
  | typename {path : List String} {typeName name : String} {field : FieldInfo} {target : TypeRef}
      (offers : Offers schema typePolicy typeName field) (isTarget : HasTarget field target)
      (expanded : target.kind ∈ expandedKinds) (named : target.name = some name)
      (again : name ∈ path) :
      Selected schema typePolicy path typeName (.typename field.name)
  | nested {path : List String} {typeName name : String} {field : FieldInfo} {target : TypeRef}
      {fields : List Selection}
      (offers : Offers schema typePolicy typeName field) (isTarget : HasTarget field target)
      (expanded : target.kind ∈ expandedKinds) (named : target.name = some name)
      (fresh : name ∉ path) (nonempty : fields ≠ [])
      (selected : ∀ selection ∈ fields, Selected schema typePolicy (path ++ [name]) name selection) :
      Selected schema typePolicy path typeName (.nested field.name name fields)

/-- The lines are those of selections under the type. -/
def Prints (schema : IntrospectedSchema) (typePolicy : List (String × List String))
    (path : List String) (typeName indent : String) (lines : List String) : Prop :=
  ∃ selections, lines = selectionLines indent selections ∧
    ∀ selection ∈ selections, Selected schema typePolicy path typeName selection

theorem Prints.one {path : List String} {typeName indent : String} {selection : Selection}
    (selected : Selected schema typePolicy path typeName selection) :
    Prints schema typePolicy path typeName indent (selection.lines indent) := by
  refine ⟨[selection], ?_, ?_⟩
  · simp [selectionLines]
  · simpa using selected

theorem Prints.none {path : List String} {typeName indent : String} :
    Prints schema typePolicy path typeName indent [] :=
  ⟨[], rfl, nofun⟩

theorem Prints.flatten {path : List String} {typeName indent : String} {blocks : List (List String)}
    (prints : ∀ block ∈ blocks, Prints schema typePolicy path typeName indent block) :
    Prints schema typePolicy path typeName indent blocks.flatten := by
  induction blocks with
  | nil => exact Prints.none
  | cons block rest ih =>
      rw [List.forall_mem_cons] at prints
      rcases prints.1 with ⟨first, rfl, firstSelected⟩
      rcases ih prints.2 with ⟨others, isOthers, othersSelected⟩
      refine ⟨first ++ others, ?_, ?_⟩
      · rw [selectionLines_append, List.flatten_cons, isOthers]
      · rw [List.forall_mem_append]
        exact ⟨firstSelected, othersSelected⟩

/-- The lines of an offered field print a selection of it, or nothing. -/
theorem prints_fieldLines
    {nestedLines : String → List String → String → Selecting (List String)} {path : List String}
    {typeName indent : String} {field : FieldInfo} {lines : List String}
    (nestedPrints : ∀ name, name ∉ path → ∀ nestedIndent nested,
      nestedLines name (path ++ [name]) nestedIndent = .ok nested →
        Prints schema typePolicy (path ++ [name]) name nestedIndent nested)
    (offers : Offers schema typePolicy typeName field)
    (ran : fieldLines nestedLines path indent field = .ok lines) :
    Prints schema typePolicy path typeName indent lines := by
  unfold fieldLines at ran
  rcases bind_eq_ok.mp ran with ⟨target, isTarget, later⟩
  split at later
  case isTrue notExpanded =>
    cases later
    exact Prints.one (.leaf offers isTarget notExpanded)
  case isFalse isExpanded =>
    have expanded : target.kind ∈ expandedKinds := not_not.mp isExpanded
    split at later
    · cases later
    case h_2 name named =>
      split at later
      case isTrue again =>
        cases later
        exact Prints.one (.typename offers isTarget expanded named again)
      case isFalse fresh =>
        rcases bind_eq_ok.mp later with ⟨nested, nestedRan, laid⟩
        rcases nestedPrints name fresh _ nested nestedRan with ⟨fields, rfl, selected⟩
        split at laid
        · cases laid
          exact Prints.none
        case isFalse nonempty =>
          cases laid
          rw [List.isEmpty_iff, selectionLines_eq_nil_iff] at nonempty
          exact Prints.one (.nested offers isTarget expanded named fresh nonempty selected)

/-- Whatever is generated under a type prints selections under it. -/
theorem prints_fieldsFor {depth : Nat} {typeName indent : String} {path lines : List String}
    (ran : fieldsFor schema typePolicy depth typeName path indent = .ok lines) :
    Prints schema typePolicy path typeName indent lines := by
  induction depth generalizing typeName indent path lines with
  | zero => cases ran
  | succ depth ih =>
      rw [fieldsFor] at ran
      split at ran
      · cases ran
      case h_2 info isInfo =>
        rcases bind_eq_ok.mp ran with ⟨blocks, laid, flat⟩
        cases flat
        apply Prints.flatten
        intro block blockMem
        rcases mem_of_mapM_eq_ok laid blockMem with ⟨field, fieldMem, fieldRan⟩
        apply prints_fieldLines _ ((mem_filter_isOffered_iff isInfo).mp fieldMem) fieldRan
        intro name _ nestedIndent nested nestedRan
        exact ih nestedRan

def Selection.name : Selection → String
  | .leaf name => name
  | .typename name => name
  | .nested name _ _ => name

/-- A field is selected below the expanded types; `__typename` is no field. -/
inductive OccursAt : List Selection → List String → String → Prop
  | here {selections : List Selection} {selection : Selection} (mem : selection ∈ selections) :
      OccursAt selections [] selection.name
  | inside {selections fields : List Selection} {name type field : String} {types : List String}
      (mem : .nested name type fields ∈ selections) (occurs : OccursAt fields types field) :
      OccursAt selections (type :: types) field

/-- The expanded types are those of the fields. -/
inductive TypedUnder (schema : IntrospectedSchema) : String → Selection → Prop
  | leaf {typeName name : String} : TypedUnder schema typeName (.leaf name)
  | typename {typeName name : String} : TypedUnder schema typeName (.typename name)
  | nested {typeName type : String} {field : FieldInfo} {target : TypeRef}
      {fields : List Selection} (declared : Declares schema typeName field)
      (isTarget : HasTarget field target) (named : target.name = some type)
      (typed : ∀ selection ∈ fields, TypedUnder schema type selection) :
      TypedUnder schema typeName (.nested field.name type fields)

theorem Selected.typed {path : List String} {typeName : String} {selection : Selection}
    (selected : Selected schema typePolicy path typeName selection) :
    TypedUnder schema typeName selection := by
  induction selected with
  | leaf offers isTarget notExpanded => exact .leaf
  | typename offers isTarget expanded named again => exact .typename
  | nested offers isTarget expanded named fresh nonempty selected ih =>
      exact .nested offers.declared isTarget named ih

theorem Selected.offers {path : List String} {typeName : String} {selection : Selection}
    (selected : Selected schema typePolicy path typeName selection) :
    ∃ field, Offers schema typePolicy typeName field ∧ field.name = selection.name := by
  cases selected with
  | leaf offers _ _ => exact ⟨_, offers, rfl⟩
  | typename offers _ _ _ _ => exact ⟨_, offers, rfl⟩
  | nested offers _ _ _ _ _ _ => exact ⟨_, offers, rfl⟩

/-- Every selected field is offered by the type it is selected under, and no type is expanded
below itself. -/
theorem OccursAt.offered {selections : List Selection} {types : List String} {name : String}
    (occurs : OccursAt selections types name) {path : List String} {typeName : String}
    (expanding : path.getLast? = some typeName) (unique : path.Nodup)
    (selected : ∀ selection ∈ selections, Selected schema typePolicy path typeName selection) :
    (∃ parent, (path ++ types).getLast? = some parent ∧
        ∃ field, Offers schema typePolicy parent field ∧ field.name = name) ∧
      (path ++ types).Nodup := by
  induction occurs generalizing path typeName with
  | here mem =>
      rw [List.append_nil]
      exact ⟨⟨typeName, expanding, (selected _ mem).offers⟩, unique⟩
  | @inside selections fields field type name types mem _ ih =>
      cases selected _ mem with
      | nested offers isTarget expanded named fresh nonempty below =>
          have longer : (path ++ [type]).Nodup := by
            rw [List.nodup_append]
            refine ⟨unique, List.nodup_singleton _, ?_⟩
            intro present presentMem added addedMem same
            rw [List.mem_singleton] at addedMem
            exact fresh (addedMem ▸ same ▸ presentMem)
          have atEnd : (path ++ [type]).getLast? = some type := by simp
          have result := ih atEnd longer below
          rwa [List.append_assoc, List.singleton_append] at result

/-- A generated selection set prints selections under its type. -/
theorem buildSelectionSet_prints {depth : Nat} {typeName text : String}
    (ran : buildSelectionSet schema typePolicy depth typeName = .ok text) :
    ∃ selections, text = printSelections selections ∧
      ∀ selection ∈ selections, Selected schema typePolicy [typeName] typeName selection := by
  rcases bind_eq_ok.mp ran with ⟨lines, generated, printed⟩
  rcases prints_fieldsFor generated with ⟨selections, rfl, selected⟩
  refine ⟨selections, ?_, selected⟩
  unfold printSelections
  split at printed
  case isTrue empty =>
    rw [List.isEmpty_iff, selectionLines_eq_nil_iff] at empty
    subst empty
    cases printed
    rfl
  case isFalse nonempty =>
    rw [List.isEmpty_iff, selectionLines_eq_nil_iff, ← List.isEmpty_iff] at nonempty
    rw [if_neg nonempty]
    cases printed
    rfl

/-- The outcome at some depth is that at every larger one, and is not the bound's. -/
def Settles {Value : Type} (outcome : Nat → Selecting Value) : Prop :=
  ∃ bound, ∀ depth, bound ≤ depth →
    outcome depth = outcome bound ∧ outcome depth ≠ .error (.raised .recursionLimit)

theorem fieldsFor_settles (typeName : String) (path : List String) (indent : String) :
    Settles fun depth => fieldsFor schema typePolicy depth typeName path indent := by
  refine ⟨unexpanded schema path + 2, fun depth enough => ⟨?_, ?_⟩⟩
  · exact fieldsFor_deeper (Nat.le_refl _) enough
  · exact fieldsFor_ends enough

/--
The generation of the lines ends, and what a selection set selects besides `__typename` is
offered by the type it stands under; no type is expanded below itself.
-/
theorem buildSelectionSet_selects_offered (schema : IntrospectedSchema)
    (typePolicy : List (String × List String)) (typeName : String) :
    (∀ path indent,
        Settles fun depth => fieldsFor schema typePolicy depth typeName path indent) ∧
      ∀ depth text, buildSelectionSet schema typePolicy depth typeName = .ok text →
        ∃ selections, text = printSelections selections ∧
          (∀ selection ∈ selections, TypedUnder schema typeName selection) ∧
          ∀ types name, OccursAt selections types name →
            (∃ parent, (typeName :: types).getLast? = some parent ∧
                ∃ field, Offers schema typePolicy parent field ∧ field.name = name) ∧
              (typeName :: types).Nodup := by
  refine ⟨fieldsFor_settles typeName, ?_⟩
  intro depth text ran
  rcases buildSelectionSet_prints ran with ⟨selections, printed, selected⟩
  refine ⟨selections, printed, fun selection mem => (selected selection mem).typed, ?_⟩
  intro types name occurs
  exact occurs.offered rfl (List.nodup_singleton _) selected

/-- A type that refers to itself, behind a field that takes an argument. -/
def staffSchema : IntrospectedSchema where
  queryType := "Query"
  typesByName :=
    [ ("Query", {
        kind := "OBJECT"
        name := "Query"
        fields := [{
          name := "user"
          type := .bare "OBJECT" (some "User")
          args := [{ name := "id", type := .wrapping "NON_NULL" none (.bare "SCALAR" (some "ID")) }] }] }),
      ("User", {
        kind := "OBJECT"
        name := "User"
        fields := [
          { name := "id", type := .bare "SCALAR" (some "ID") },
          { name := "manager", type := .bare "OBJECT" (some "User") } ] }),
      ("ID", { kind := "SCALAR", name := "ID" }) ]

theorem buildSelectionSet_selects_typename :
    buildSelectionSet staffSchema [] 3 "User" =
        .ok "\x7b\n  id\n  manager \x7b __typename \x7d\n\x7d" ∧
      ∀ info, Dict.get? staffSchema.typesByName "User" = some info →
        "__typename" ∉ info.fields.map (·.name) := by
  refine ⟨by decide, ?_⟩
  intro info isInfo
  cases isInfo
  decide

end McpPortal
