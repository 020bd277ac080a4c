import McpPortal.Foundation.FillAtOnce
import McpPortal.Foundation.Uncaught
import McpPortal.Sources.OpenApiDocument

/-!
# The base URL of a document

The URL of a document's first server is a template, and the variables that are declared
next to it are put in one after the other. Nothing checks that each placeholder has a
variable, that a variable's declaration is an object, that its default has a text, or that
what was put in is not replaced again.
-/

namespace McpPortal

open Foundation

/-- The first server is an object with this URL and these variables. -/
structure DeclaresServer (document : JsonObject) (url : String) (entries : JsonObject) : Prop where
  first : ∃ server others, Dict.get? document "servers" = some (.arr (.obj server :: others)) ∧
    (Dict.get? server "url").getD (.str "") = .str url ∧
    ((Dict.get? server "variables").getD .null = .obj entries ∨
      ((Dict.get? server "variables").getD .null).truthy = false ∧ entries = [])

/-- `spec.get("default")`. -/
def specDefault : Json → Json
  | .obj spec => (Dict.get? spec "default").getD .null
  | _ => .null

/-- The variable is declared by an object with a default, which no too long integer is part of. -/
structure HasDefault (entry : String × Json) : Prop where
  isObject : ∃ spec, entry.2 = .obj spec
  present : specDefault entry.2 ≠ .null
  printable : (specDefault entry.2).hasLongInt = false

/-- Every variable before one without a default has one, and that one's declaration is an object. -/
def RejectsVariable (entries : JsonObject) : Prop :=
  ∃ before entry after, entries = before ++ entry :: after ∧
    (∀ earlier ∈ before, HasDefault earlier) ∧
    (∃ spec, entry.2 = .obj spec) ∧ specDefault entry.2 = .null

section Fillings

variable (isPrintable : Char → Bool)

/-- The name of a variable with the text of its default. -/
def variableFilling (entry : String × Json) : List Char × List Char :=
  (entry.1.toList, ((specDefault entry.2).text isPrintable).toList)

/-- Each placeholder of the URL is a declared variable, and each variable has a default. -/
structure DeclaresPlaceholders (url : String) (entries : JsonObject) : Prop where
  defaults : ∀ entry ∈ entries, HasDefault entry
  declared : ∀ name ∈ Text.placeholders url.toList, String.ofList name ∈ Dict.keys entries

/-- The variables are rejected, or they are put in without touching what was put in before. -/
def ResolvesApart (url : String) (entries : JsonObject) : Prop :=
  RejectsVariable entries ∨
    DeclaresPlaceholders url entries ∧
      Text.FillsApart (entries.map (variableFilling isPrintable)) url.toList

/-- An `OpenApiError`, or the URL with every placeholder replaced at once. -/
def FullyResolved (url : String) (entries : JsonObject)
    (outcome : Except (PyException OpenApiError) Json) : Prop :=
  (∃ error, outcome = .error (.raised error)) ∨
    (∀ name ∈ Text.placeholders url.toList, String.ofList name ∈ Dict.keys entries) ∧
      outcome = .ok (.str (String.ofList
        (Text.fillAtOnce (entries.map (variableFilling isPrintable)) url.toList)))

variable {isPrintable}

theorem resolveBaseUrl_eq {document : JsonObject} {url : String} {entries : JsonObject}
    (declares : DeclaresServer document url entries) :
    resolveBaseUrl isPrintable document none =
      entries.foldlM (fillVariable isPrintable) (.str url) := by
  rcases declares.first with ⟨server, others, isServers, isUrl, isVariables⟩
  have truthy : (Json.arr (.obj server :: others)).truthy = true := rfl
  simp only [resolveBaseUrl, Option.filter_none, isServers, Option.getD_some, truthy, Bool.not_true,
    Bool.false_eq_true, if_false, firstServer, bind, Except.bind, isUrl]
  rcases isVariables with isObject | ⟨falsy, rfl⟩
  · rw [isObject]
    cases entries with
    | nil => rfl
    | cons entry entries => rfl
  · simp only [falsy]
    rfl

/-- A variable with a default replaces its name in braces. -/
theorem fillVariable_eq {text : List Char} {entry : String × Json} (has : HasDefault entry) :
    fillVariable isPrintable (.str (String.ofList text)) entry =
      .ok (.str (String.ofList (Text.replace (Text.braced (variableFilling isPrintable entry).1)
        (variableFilling isPrintable entry).2 text))) := by
  rcases entry with ⟨name, spec⟩
  rcases has with ⟨⟨fields, isSpec⟩, present, printable⟩
  subst isSpec
  simp only [specDefault] at present printable
  simp only [fillVariable, variableFilling, specDefault]
  generalize (Dict.get? fields "default").getD .null = default at present printable
  have filled : (strOf isPrintable default : Except (PyException OpenApiError) String) =
      .ok (default.text isPrintable) := strOf_eq_ok.mpr ⟨printable, rfl⟩
  rw [filled]
  cases default with
  | null => exact absurd rfl present
  | _ => simp [Text.braced, pure, Except.pure, bind, Except.bind]

theorem foldlM_fillVariable {entries : JsonObject} (defaults : ∀ entry ∈ entries, HasDefault entry)
    (text : List Char) :
    entries.foldlM (fillVariable isPrintable) (.str (String.ofList text)) =
      .ok (.str (String.ofList
        (Text.fillAll (entries.map (variableFilling isPrintable)) text))) := by
  induction entries generalizing text with
  | nil => rfl
  | cons entry rest ih =>
      rw [List.forall_mem_cons] at defaults
      rw [List.foldlM_cons, fillVariable_eq defaults.1, List.map_cons, Text.fillAll_cons]
      exact ih defaults.2 _

/-- Either every variable has a default, or one is the first that has none. -/
theorem defaults_or_exists_first (entries : JsonObject) :
    (∀ entry ∈ entries, HasDefault entry) ∨
      ∃ before entry after, entries = before ++ entry :: after ∧
        (∀ earlier ∈ before, HasDefault earlier) ∧ ¬HasDefault entry := by
  induction entries with
  | nil =>
      left
      intro entry absent
      cases absent
  | cons entry rest ih =>
      by_cases here : HasDefault entry
      · rcases ih with all | ⟨before, other, after, rfl, earlier, lacks⟩
        · exact Or.inl (List.forall_mem_cons.mpr ⟨here, all⟩)
        · exact Or.inr ⟨entry :: before, other, after, rfl,
            List.forall_mem_cons.mpr ⟨here, earlier⟩, lacks⟩
      · refine Or.inr ⟨[], entry, rest, rfl, ?_, here⟩
        intro earlier absent
        cases absent

/-- What a variable without a usable default raises. -/
def rejection (entry : String × Json) : PyException OpenApiError :=
  match entry.2 with
  | .obj _ =>
      if (specDefault entry.2).hasLongInt then .valueError
      else .raised (.variableWithoutDefault entry.1)
  | _ => .attributeError

theorem fillVariable_of_lacks {entry : String × Json} (lacks : ¬HasDefault entry) (url : String) :
    fillVariable isPrintable (.str url) entry = .error (rejection entry) := by
  rcases entry with ⟨name, spec⟩
  cases spec with
  | obj fields =>
      have isDefault : specDefault (.obj fields) = (Dict.get? fields "default").getD .null := rfl
      cases long : (specDefault (.obj fields)).hasLongInt with
      | true =>
          have rejected : rejection (name, .obj fields) = .valueError := if_pos long
          have raises : (strOf isPrintable (specDefault (.obj fields)) :
              Except (PyException OpenApiError) String) = .error .valueError := if_pos long
          rw [rejected, fillVariable]
          dsimp only
          rw [← isDefault]
          split
          case h_1 missing =>
            rw [missing] at long
            cases long
          case h_2 =>
            rw [raises]
            rfl
      | false =>
          have missing : specDefault (.obj fields) = .null := by
            by_contra present
            exact lacks ⟨⟨fields, rfl⟩, present, long⟩
          have rejected : rejection (name, .obj fields) = .raised (.variableWithoutDefault name) :=
            if_neg (by rw [long]; exact Bool.false_ne_true)
          rw [rejected, fillVariable]
          dsimp only
          rw [← isDefault, missing]
  | _ => rfl

/-- The first variable without a default decides how the loop ends. -/
theorem foldlM_fillVariable_of_lacks {before after : JsonObject} {entry : String × Json}
    (defaults : ∀ earlier ∈ before, HasDefault earlier) (lacks : ¬HasDefault entry)
    (text : List Char) :
    (before ++ entry :: after).foldlM (fillVariable isPrintable) (.str (String.ofList text)) =
      .error (rejection entry) := by
  rw [List.foldlM_append, foldlM_fillVariable defaults]
  simp only [bind, Except.bind, List.foldlM_cons]
  rw [fillVariable_of_lacks lacks]

theorem missing_of_raised {entry : String × Json} {error : OpenApiError}
    (lacks : ¬HasDefault entry) (raised : rejection entry = .raised error) :
    (∃ spec, entry.2 = .obj spec) ∧ specDefault entry.2 = .null := by
  unfold rejection at raised
  split at raised
  case h_1 spec isSpec =>
    split at raised
    case isTrue => cases raised
    case isFalse short =>
      rw [Bool.not_eq_true] at short
      refine ⟨⟨spec, isSpec⟩, ?_⟩
      by_contra present
      exact lacks ⟨⟨spec, isSpec⟩, present, short⟩
  case h_2 => cases raised

end Fillings

/-- The base URL of a document is fully resolved where its variables are put in apart from each
other, and only where each placeholder is declared and each declaration is an object with a default
that has a text. -/
theorem resolveBaseUrl_fullyResolved (isPrintable : Char → Bool) {document : JsonObject}
    {url : String} {entries : JsonObject} (declares : DeclaresServer document url entries) :
    (ResolvesApart isPrintable url entries →
      FullyResolved isPrintable url entries (resolveBaseUrl isPrintable document none)) ∧
    (FullyResolved isPrintable url entries (resolveBaseUrl isPrintable document none) →
      RejectsVariable entries ∨ DeclaresPlaceholders url entries) := by
  have isUrl : Json.str url = .str (String.ofList url.toList) := by rw [String.ofList_toList]
  rw [resolveBaseUrl_eq declares, isUrl]
  constructor
  · rintro (⟨before, entry, after, rfl, defaults, ⟨spec, isSpec⟩, missing⟩ | ⟨declared, apart⟩)
    · have lacks : ¬HasDefault entry := fun has => has.present missing
      rw [foldlM_fillVariable_of_lacks defaults lacks]
      refine Or.inl ⟨.variableWithoutDefault entry.1, ?_⟩
      rw [rejection, missing, isSpec]
      rfl
    · refine Or.inr ⟨declared.declared, ?_⟩
      rw [foldlM_fillVariable declared.defaults, Text.fillAll_eq_fillAtOnce apart]
  · intro resolved
    rcases defaults_or_exists_first entries with
      defaults | ⟨before, entry, after, rfl, defaults, lacks⟩
    · rw [foldlM_fillVariable defaults] at resolved
      rcases resolved with ⟨error, raised⟩ | ⟨declared, _⟩
      · cases raised
      · exact Or.inr ⟨defaults, declared⟩
    · rw [foldlM_fillVariable_of_lacks defaults lacks] at resolved
      rcases resolved with ⟨error, raised⟩ | ⟨_, returned⟩
      · rcases missing_of_raised lacks (Except.error.inj raised) with ⟨isObject, missing⟩
        exact Or.inl ⟨before, entry, after, rfl, defaults, isObject, missing⟩
      · cases returned

section Regions

/-- A server in a region, whose variables are these. -/
private def regional (url : String) (variableMap : JsonObject) : JsonObject :=
  [("servers", .arr [.obj [("url", .str url), ("variables", .obj variableMap)]])]

private theorem declaresServer_regional (url : String) (variableMap : JsonObject) :
    DeclaresServer (regional url variableMap) url variableMap :=
  ⟨_, [], rfl, rfl, Or.inl rfl⟩

private def eu : JsonObject :=
  [("region", .obj [("default", .str "eu")]), ("version", .obj [("default", .int 2)])]

/-- Two placeholders are filled with their defaults. -/
theorem resolveBaseUrl_fullyResolved_region :
    FullyResolved (fun _ => true) "https://{region}.api.test/v{version}" eu
      (resolveBaseUrl (fun _ => true)
        (regional "https://{region}.api.test/v{version}" eu) none) := by
  apply (resolveBaseUrl_fullyResolved (fun _ => true) (declaresServer_regional _ eu)).1
  refine Or.inr ⟨⟨?_, ?_⟩, ?_⟩
  · intro entry present
    simp only [eu, List.mem_cons, List.not_mem_nil, or_false] at present
    rcases present with rfl | rfl
    · exact ⟨⟨_, rfl⟩, Json.noConfusion, rfl⟩
    · exact ⟨⟨_, rfl⟩, Json.noConfusion, by decide +kernel⟩
  · decide +kernel
  · apply Text.fillsApart_of_plain
    · decide +kernel
    · decide +kernel
    · intro literal present
      have literals : ∀ piece ∈ Text.pieces
          "https://{region}.api.test/v{version}".toList,
          '{' ∉ piece.fill [] ∨ piece.name? ≠ none := by decide +kernel
      rcases literals _ present with plain | named
      · exact plain
      · exact absurd rfl named

/-- A placeholder nobody declares stays, a declaration that is no object raises another error, and
a default is itself replaced. -/
theorem resolveBaseUrl_leaves_placeholder :
    ¬FullyResolved (fun _ => true) "https://\x7bregion\x7d.api.test" []
        (resolveBaseUrl (fun _ => true) (regional "https://\x7bregion\x7d.api.test" []) none) ∧
      ¬FullyResolved (fun _ => true) "https://\x7bregion\x7d.api.test" [("region", .str "eu")]
        (resolveBaseUrl (fun _ => true)
          (regional "https://\x7bregion\x7d.api.test" [("region", .str "eu")]) none) ∧
      ¬FullyResolved (fun _ => true) "https://\x7bregion\x7d.api.test"
        [ ("region", .obj [("default", .str "\x7bzone\x7d")]),
          ("zone", .obj [("default", .str "a")]) ]
        (resolveBaseUrl (fun _ => true)
          (regional "https://\x7bregion\x7d.api.test"
            [ ("region", .obj [("default", .str "\x7bzone\x7d")]),
              ("zone", .obj [("default", .str "a")]) ]) none) := by
  refine ⟨?_, ?_, ?_⟩
  · rintro (⟨error, raised⟩ | ⟨declared, _⟩)
    · cases raised
    · have region := declared "region".toList (by decide +kernel)
      cases region
  · rintro (⟨error, raised⟩ | ⟨_, returned⟩)
    · cases raised
    · cases returned
  · rintro (⟨error, raised⟩ | ⟨_, returned⟩)
    · cases raised
    · have replaced : Text.fillAtOnce
          (([ ("region", .obj [("default", .str "\x7bzone\x7d")]),
              ("zone", .obj [("default", .str "a")]) ] : JsonObject).map
                (variableFilling fun _ => true)) "https://\x7bregion\x7d.api.test".toList =
            "https://\x7bzone\x7d.api.test".toList := by decide +kernel
      rw [replaced] at returned
      have same := Json.str.inj (Except.ok.inj returned)
      revert same
      decide +kernel

end Regions

end McpPortal
