import McpPortal.Foundation.Fallible
import McpPortal.Foundation.Guard
import McpPortal.Foundation.Json

/-!
# Rich authorization requests

The coverage predicate and the parser of presented `authorization_details`.
Coverage of a required detail must come from one presented detail, and only the
fields the required detail specifies count. An empty list specifies nothing; an
absent identifier does, but an empty one is compared like any other.

Coverage by one detail is a preorder, which is what lets the policy results use
the general theory of guards.
-/

namespace McpPortal

open Foundation

/-- One authorization detail, either required or presented. -/
structure AuthorizationDetail where
  type : String
  actions : List String := []
  locations : List String := []
  datatypes : List String := []
  identifier : Option String := none
  privileges : List String := []
  deriving DecidableEq

/-- `not required or set(required) <= set(presented)`. -/
def coversField (required presented : List String) : Bool :=
  required.isEmpty || required.all fun value => decide (value ∈ presented)

def coversOne (required presented : AuthorizationDetail) : Bool :=
  if presented.type ≠ required.type then false
  else if !coversField required.actions presented.actions then false
  else if !coversField required.locations presented.locations then false
  else if !coversField required.datatypes presented.datatypes then false
  else if !coversField required.privileges presented.privileges then false
  else !(required.identifier.isSome && presented.identifier ≠ required.identifier)

/-- Is `required` satisfied by a single detail in `presented`? -/
def covers (required : AuthorizationDetail) (presented : List AuthorizationDetail) : Bool :=
  presented.any fun detail => coversOne required detail

theorem coversField_iff {required presented : List String} :
    coversField required presented = true ↔ ∀ value ∈ required, value ∈ presented := by
  cases required <;> simp [coversField]

theorem coversOne_iff {required presented : AuthorizationDetail} :
    coversOne required presented = true ↔
      presented.type = required.type ∧
        (∀ value ∈ required.actions, value ∈ presented.actions) ∧
        (∀ value ∈ required.locations, value ∈ presented.locations) ∧
        (∀ value ∈ required.datatypes, value ∈ presented.datatypes) ∧
        (∀ value ∈ required.privileges, value ∈ presented.privileges) ∧
        (required.identifier = none ∨ presented.identifier = required.identifier) := by
  simp only [← coversField_iff]
  unfold coversOne
  cases required.identifier with
  | none =>
      simp only [Option.isSome_none, Bool.false_and, Bool.not_false, true_or, and_true]
      split_ifs <;> simp_all
  | some identifier =>
      simp only [Option.isSome_some, Bool.true_and, reduceCtorEq, false_or]
      split_ifs <;> simp_all

/-- A required detail lies below every detail that covers it. -/
instance : Preorder AuthorizationDetail where
  le required presented := coversOne required presented = true
  le_refl detail := by simp [coversOne_iff]
  le_trans weak middle strong := by
    simp only [coversOne_iff]
    rintro ⟨type₁, actions₁, locations₁, datatypes₁, privileges₁, identifier₁⟩
      ⟨type₂, actions₂, locations₂, datatypes₂, privileges₂, identifier₂⟩
    refine ⟨type₂.trans type₁, fun value valueMem => actions₂ _ (actions₁ _ valueMem),
      fun value valueMem => locations₂ _ (locations₁ _ valueMem),
      fun value valueMem => datatypes₂ _ (datatypes₁ _ valueMem),
      fun value valueMem => privileges₂ _ (privileges₁ _ valueMem), ?_⟩
    rcases identifier₁ with absent | same₁
    · exact Or.inl absent
    · rcases identifier₂ with absent | same₂
      · exact Or.inl (same₁ ▸ absent)
      · exact Or.inr (same₂.trans same₁)

theorem le_iff_coversOne {required presented : AuthorizationDetail} :
    required ≤ presented ↔ coversOne required presented = true := Iff.rfl

/-- `covers` asks for membership in the lower closure of what is presented. -/
theorem covers_iff_mem_lowerClosure {required : AuthorizationDetail}
    {presented : List AuthorizationDetail} :
    covers required presented = true ↔
      required ∈ lowerClosure {detail | detail ∈ presented} := by
  simp [covers, mem_lowerClosure, le_iff_coversOne]

/-- Why an `authorization_details` value is malformed. -/
inductive RarError where
  | notAList (typeName : String)
  | entryNotAnObject (typeName : String)
  | missingType
  | identifierNotAString
  | fieldNotStrings (fieldName : String)
  deriving DecidableEq

namespace RarError

def message : RarError → String
  | .notAList typeName => "authorization_details must be a list, got " ++ typeName
  | .entryNotAnObject typeName =>
      "authorization detail entries must be objects, got " ++ typeName
  | .missingType => "authorization detail is missing a string 'type' field"
  | .identifierNotAString => "authorization detail field 'identifier' must be a string"
  | .fieldNotStrings fieldName =>
      "authorization detail field '" ++ fieldName ++ "' must be a list of strings"

end RarError

def stringTuple (value : Json) (fieldName : String) : Except RarError (List String) :=
  match value.strings? with
  | some values => .ok values
  | none => .error (.fieldNotStrings fieldName)

/-- `entry.get("identifier")`, which must be a string or `None`. -/
def parseIdentifier (fields : JsonObject) : Except RarError (Option String) :=
  match Dict.get? fields "identifier" with
  | none | some .null => .ok none
  | some (.str identifier) => .ok (some identifier)
  | some _ => .error .identifierNotAString

def parseAuthorizationDetail (entry : Json) : Except RarError AuthorizationDetail :=
  match entry with
  | .obj fields =>
      match Dict.get? fields "type" with
      | some (.str detailType) => do
          let identifier ← parseIdentifier fields
          let field (name : String) :=
            stringTuple ((Dict.get? fields name).getD (.arr [])) name
          let actions ← field "actions"
          let locations ← field "locations"
          let datatypes ← field "datatypes"
          let privileges ← field "privileges"
          return { type := detailType, actions, locations, datatypes, identifier, privileges }
      | _ => .error .missingType
  | other => .error (.entryNotAnObject other.typeName)

/-- Parse a raw `authorization_details` value; one malformed entry fails the whole value. -/
def parseAuthorizationDetails (raw : Json) : Except RarError (List AuthorizationDetail) :=
  match raw with
  | .arr entries => entries.mapM parseAuthorizationDetail
  | other => .error (.notAList other.typeName)

/-- A list of strings, or left out. -/
def StringList (field : Option Json) : Prop :=
  ∀ value, field = some value → ∃ texts : List String, value = .arr (texts.map .str)

/-- A string, `None`, or left out. -/
def OptionalString (field : Option Json) : Prop :=
  ∀ value, field = some value → value = .null ∨ ∃ text, value = .str text

structure WellFormedFields (fields : JsonObject) : Prop where
  type : ∃ detailType, Dict.get? fields "type" = some (.str detailType)
  identifier : OptionalString (Dict.get? fields "identifier")
  lists : ∀ name ∈ ["actions", "locations", "datatypes", "privileges"],
    StringList (Dict.get? fields name)

/-- A list of objects each of which is one detail. -/
def WellFormedDetails (raw : Json) : Prop :=
  ∃ entries, raw = .arr entries ∧
    ∀ entry ∈ entries, ∃ fields, entry = .obj fields ∧ WellFormedFields fields

theorem stringTuple_ok_iff {field : Option Json} (fieldName : String) :
    (∃ values, stringTuple (field.getD (.arr [])) fieldName = .ok values) ↔ StringList field := by
  cases field with
  | none => exact iff_of_true ⟨[], rfl⟩ (fun _ absent => by cases absent)
  | some value =>
      simp only [Option.getD_some, StringList, Option.some.injEq, forall_eq']
      constructor
      · rintro ⟨texts, read⟩
        unfold stringTuple at read
        split at read
        case h_1 values strings =>
          cases value with
          | arr items => exact ⟨values, congrArg Json.arr (Json.mapM_string?_eq_some strings)⟩
          | _ => cases strings
        case h_2 => cases read
      · rintro ⟨texts, rfl⟩
        exact ⟨texts, by simp [stringTuple]⟩

theorem parseIdentifier_ok_iff {fields : JsonObject} :
    (∃ identifier, parseIdentifier fields = .ok identifier) ↔
      OptionalString (Dict.get? fields "identifier") := by
  unfold parseIdentifier OptionalString
  cases Dict.get? fields "identifier" with
  | none => simp
  | some value => cases value <;> simp

theorem parseAuthorizationDetail_ok_iff {entry : Json} :
    (∃ detail, parseAuthorizationDetail entry = .ok detail) ↔
      ∃ fields, entry = .obj fields ∧ WellFormedFields fields := by
  cases entry with
  | obj fields =>
      constructor
      · rintro ⟨detail, parsed⟩
        simp only [parseAuthorizationDetail] at parsed
        split at parsed
        case h_1 detailType isType =>
          simp only [bind_eq_ok, pure_eq_ok] at parsed
          rcases parsed with
            ⟨_, identifier, _, actions, _, locations, _, datatypes, _, privileges, _⟩
          refine ⟨fields, rfl, ⟨detailType, isType⟩, ?_, ?_⟩
          · exact parseIdentifier_ok_iff.mp ⟨_, identifier⟩
          · intro name nameMem
            simp only [List.mem_cons, List.not_mem_nil, or_false] at nameMem
            rcases nameMem with rfl | rfl | rfl | rfl
            · exact (stringTuple_ok_iff _).mp ⟨_, actions⟩
            · exact (stringTuple_ok_iff _).mp ⟨_, locations⟩
            · exact (stringTuple_ok_iff _).mp ⟨_, datatypes⟩
            · exact (stringTuple_ok_iff _).mp ⟨_, privileges⟩
        case h_2 => cases parsed
      · rintro ⟨_, same, ⟨detailType, isType⟩, identifierForm, lists⟩
        cases same
        have field (name : String) (nameMem) :=
          (stringTuple_ok_iff name).mpr (lists name nameMem)
        rcases parseIdentifier_ok_iff.mpr identifierForm with ⟨identifier, identifierRead⟩
        rcases field "actions" (by simp) with ⟨actions, actionsRead⟩
        rcases field "locations" (by simp) with ⟨locations, locationsRead⟩
        rcases field "datatypes" (by simp) with ⟨datatypes, datatypesRead⟩
        rcases field "privileges" (by simp) with ⟨privileges, privilegesRead⟩
        refine ⟨{ type := detailType, actions, locations, datatypes, identifier, privileges }, ?_⟩
        simp only [parseAuthorizationDetail, isType, identifierRead, actionsRead, locationsRead,
          datatypesRead, privilegesRead]
        rfl
  | _ => simp [parseAuthorizationDetail]

theorem parseAuthorizationDetails_ok_iff {raw : Json} :
    (∃ details, parseAuthorizationDetails raw = .ok details) ↔ WellFormedDetails raw := by
  cases raw with
  | arr entries =>
      simp only [parseAuthorizationDetails, exists_mapM_eq_ok_iff,
        parseAuthorizationDetail_ok_iff, WellFormedDetails, Json.arr.injEq, exists_eq_left']
  | _ => simp [parseAuthorizationDetails, WellFormedDetails]

end McpPortal
