import McpPortal.Foundation.PercentDecode
import McpPortal.Foundation.ReprText
import McpPortal.Transports.Routes

/-!
# What a query string says

Decoding the query string of a request gives back the pairs of the parameters, in
the order of their declaration. A boolean on its own is written `true` or `false`,
one within an array as `True` or `False`, so the pairs render every scalar alike
exactly when no array holds a boolean.
-/

namespace McpPortal

open Foundation

/-- The query string of a URL: from the first `?` up to a fragment. -/
def urlQuery (url : String) : List Char :=
  ((url.toList.takeWhile (· ≠ '#')).dropWhile (· ≠ '?')).drop 1

section Uniform

variable (isPrintable : Char → Bool)

/-- The text of a scalar, with booleans as in JSON. -/
def scalarText : Json → String
  | .bool flag => if flag then "true" else "false"
  | value => value.text isPrintable

/-- The pairs of a query parameter when a scalar has one text wherever it stands. -/
def uniformPairs (param : Parameter) (value : Json) : List (String × String) :=
  match value with
  | .arr items =>
      let texts := items.map (scalarText isPrintable)
      if param.explode then texts.map fun text => (param.wireName, text)
      else [(param.wireName, joinWith "," texts)]
  | scalar => [(param.wireName, scalarText isPrintable scalar)]

end Uniform

section Pairs

variable {isPrintable : Char → Bool} {arguments : JsonObject}

/-- The loop over the parameters collects the pairs of the query parameters in order. -/
theorem query_foldlM_addParameter {parameters : List Parameter} {parts final : RequestParts}
    (ran : parameters.foldlM (addParameter isPrintable arguments) parts = .ok final) :
    final.query = parts.query ++ (suppliedAt .query parameters arguments).flatMap fun supplied =>
      queryPairs isPrintable supplied.1.wireName supplied.2 supplied.1.explode := by
  induction parameters generalizing parts with
  | nil =>
      cases ran
      simp [suppliedAt]
  | cons param rest ih =>
      rcases foldlM_cons_eq_ok.mp ran with ⟨next, stepped, later⟩
      rw [ih later]
      rcases addParameter_ok stepped with ⟨absent, _, rfl⟩ | ⟨value, given, ends⟩
      · rw [suppliedAt_cons_of_none absent]
      · rcases ends with ⟨inPath, _, rfl⟩ | ⟨inQuery, rfl⟩ | ⟨inHeader, _, rfl⟩
        · rw [suppliedAt_cons_of_ne (by simp [inPath])]
        · rw [suppliedAt_cons_of_some inQuery given, List.flatMap_cons, List.append_assoc]
        · rw [suppliedAt_cons_of_ne (by simp [inHeader])]

/-- What follows a text without marks is searched for the query alone. -/
theorem urlQuery_append {url : String} {before query : List Char}
    (url_chars : url.toList = before ++ query) (beforeBare : '?' ∉ before ∧ '#' ∉ before)
    (queryBare : '#' ∉ query) : urlQuery url = (query.dropWhile (· ≠ '?')).drop 1 := by
  have whole : (before ++ query).takeWhile (· ≠ '#') = before ++ query := by
    rw [List.takeWhile_eq_self_iff]
    intro char present
    rw [decide_eq_true_eq]
    rintro rfl
    rcases List.mem_append.mp present with early | late
    · exact beforeBare.2 early
    · exact queryBare late
  have skipped : (before ++ query).dropWhile (· ≠ '?') = query.dropWhile (· ≠ '?') := by
    apply List.dropWhile_append_of_pos
    intro char present
    rw [decide_eq_true_eq]
    rintro rfl
    exact beforeBare.1 present
  rw [urlQuery, url_chars, whole, skipped]

/-- Decoding the query string gives the pairs the parameters contribute. -/
theorem formDecode_urlQuery {binding : HttpBinding} {baseUrl : String}
    {credential : Option Credential} {request : PreparedRequest}
    (templateBare : isBare binding.path) (baseBare : isBare baseUrl)
    (built : buildRequest isPrintable binding baseUrl arguments credential = .ok request) :
    Percent.formDecode (urlQuery request.url) =
      some ((suppliedAt .query binding.parameters arguments).flatMap fun supplied =>
        queryPairs isPrintable supplied.1.wireName supplied.2 supplied.1.explode) := by
  rcases url_buildRequest built with ⟨parts, query, ran, url_chars, isQuery⟩
  have collected := query_foldlM_addParameter ran
  rw [List.nil_append] at collected
  rw [← collected]
  have absent : ∀ mark, mark ≠ '%' → mark ≠ '/' → Percent.unreserved mark = false →
      mark ∉ baseUrl.toList → mark ∉ binding.path.toList →
      mark ∉ baseUrl.toList.rdropWhile (· = '/') ++ '/' ::
        Text.fillAll (pathTexts isPrintable binding.parameters arguments)
          (binding.path.toList.dropWhile (· = '/')) := by
    intro mark notPercent notSlash reserved inBase inTemplate present
    rw [List.mem_append, List.mem_cons] at present
    rcases present with early | isSlash | filled
    · exact inBase ((List.rdropWhile_prefix _ _).subset early)
    · exact notSlash isSlash
    · exact notMem_filled notPercent reserved inTemplate filled
  have queryBare : '#' ∉ query := by
    rcases isQuery with ⟨_, rfl⟩ | rfl
    · exact List.not_mem_nil
    · rw [List.mem_cons, not_or]
      exact ⟨by decide, Percent.notMem_urlencode (by decide) (by decide) (by decide) (by decide)
        (by decide)⟩
  rw [← List.cons_append, ← List.append_assoc] at url_chars
  rw [urlQuery_append url_chars
    ⟨absent '?' (by decide) (by decide) (by decide) baseBare.1 templateBare.1,
      absent '#' (by decide) (by decide) (by decide) baseBare.2 templateBare.2⟩ queryBare]
  rcases isQuery with ⟨noPairs, rfl⟩ | rfl
  · rw [noPairs]
    rfl
  · simpa using Percent.formDecode_urlencode parts.query

end Pairs

section Scalars

variable {isPrintable : Char → Bool}

/-- Both spellings of a scalar are equally long. -/
theorem length_scalarText (value : Json) :
    (value.text isPrintable).toList.length = (scalarText isPrintable value).toList.length := by
  cases value with
  | bool flag => cases flag <;> simp [Json.text, Json.repr, scalarText]
  | _ => rfl

theorem text_eq_scalarText_iff (value : Json) :
    value.text isPrintable = scalarText isPrintable value ↔ ∀ flag, value ≠ .bool flag := by
  cases value with
  | bool flag =>
      apply iff_of_false
      · cases flag <;> simp [Json.text, Json.repr, scalarText]
      · intro other
        exact other flag rfl
  | _ => simp [scalarText]

theorem texts_eq_scalarTexts_iff (items : List Json) :
    items.map (Json.text isPrintable) = items.map (scalarText isPrintable) ↔
      ∀ flag, Json.bool flag ∉ items := by
  rw [List.map_inj_left]
  constructor
  · intro same flag present
    exact (text_eq_scalarText_iff _).mp (same _ present) flag rfl
  · intro absent item itemMem
    rw [text_eq_scalarText_iff]
    rintro flag rfl
    exact absent flag itemMem

theorem length_queryPairs (param : Parameter) (value : Json) :
    (queryPairs isPrintable param.wireName value param.explode).length =
      (uniformPairs isPrintable param value).length := by
  cases value with
  | arr items =>
      simp only [queryPairs, uniformPairs]
      split
      · simp only [List.length_map]
      · rfl
  | _ => rfl

/-- The pairs of a parameter are uniform unless its value is an array with a boolean. -/
theorem queryPairs_eq_uniformPairs_iff (param : Parameter) (value : Json) :
    queryPairs isPrintable param.wireName value param.explode = uniformPairs isPrintable param value ↔
      ∀ items, value = .arr items → ∀ flag, Json.bool flag ∉ items := by
  cases value with
  | arr items =>
      simp only [Json.arr.injEq, forall_eq']
      rw [← @texts_eq_scalarTexts_iff isPrintable]
      simp only [queryPairs, uniformPairs]
      cases param.explode with
      | true =>
          simp only [if_true]
          apply (List.map_injective_iff.mpr ?_).eq_iff
          exact fun _ _ same => (Prod.mk.inj same).2
      | false =>
          simp only [Bool.false_eq_true, if_false, List.cons.injEq, Prod.mk.injEq, true_and,
            and_true]
          refine ⟨joinWith_inj ?_, fun same => by rw [same]⟩
          rw [List.forall₂_map_left_iff, List.forall₂_map_right_iff, List.forall₂_same]
          exact fun item _ => length_scalarText item
  | bool flag => simp [queryPairs, uniformPairs, scalarText]
  | _ => simp [queryPairs, uniformPairs, scalarText]

/-- Concatenations of equally many items agree when all their parts do. -/
theorem flatMap_eq_flatMap_iff {Item Part : Type*} {left right : Item → List Part}
    {items : List Item} (lengths : ∀ item ∈ items, (left item).length = (right item).length) :
    items.flatMap left = items.flatMap right ↔ ∀ item ∈ items, left item = right item := by
  induction items with
  | nil => simp
  | cons item rest ih =>
      rw [List.forall_mem_cons] at lengths
      rw [List.flatMap_cons, List.flatMap_cons, List.forall_mem_cons, ← ih lengths.2]
      constructor
      · intro same
        exact List.append_inj same lengths.1
      · rintro ⟨first, others⟩
        rw [first, others]

end Scalars

/--
The query string of a request decodes to the pairs of its parameters, with one text
for every scalar, exactly when no argument is an array that holds a boolean.
-/
theorem buildRequest_uniform_iff {isPrintable : Char → Bool} {binding : HttpBinding}
    {baseUrl : String} {arguments : JsonObject} {credential : Option Credential}
    {request : PreparedRequest} (templateBare : isBare binding.path) (baseBare : isBare baseUrl)
    (built : buildRequest isPrintable binding baseUrl arguments credential = .ok request) :
    Percent.formDecode (urlQuery request.url) =
        some ((suppliedAt .query binding.parameters arguments).flatMap fun supplied =>
          uniformPairs isPrintable supplied.1 supplied.2) ↔
      ∀ supplied ∈ suppliedAt .query binding.parameters arguments, ∀ items,
        supplied.2 = .arr items → ∀ flag, Json.bool flag ∉ items := by
  rw [formDecode_urlQuery templateBare baseBare built, Option.some.injEq, flatMap_eq_flatMap_iff]
  · simp only [queryPairs_eq_uniformPairs_iff]
  · intro supplied _
    exact length_queryPairs supplied.1 supplied.2

section Flags

private def flagsBinding : HttpBinding where
  method := "GET"
  path := "/rules"
  parameters :=
    [ { arg := "flags", location := .query, wireName := "flag", required := true
        schema := [], explode := true } ]

private def flagsRequest (query : String) : PreparedRequest where
  method := "GET"
  url := "https://rules.test/rules?" ++ query
  headers := []
  body := none

/-- The boolean that is sent as `true` on its own is sent as `True` within an array. -/
theorem buildRequest_spells_flags :
    isBare flagsBinding.path ∧ isBare "https://rules.test" ∧
      (∃ request, buildRequest asciiTables.isPrintable flagsBinding "https://rules.test"
          [("flags", .bool true)] none = .ok request ∧
        Percent.formDecode (urlQuery request.url) = some [("flag", "true")]) ∧
      ∃ request, buildRequest asciiTables.isPrintable flagsBinding "https://rules.test"
          [("flags", .arr [.bool true])] none = .ok request ∧
        Percent.formDecode (urlQuery request.url) = some [("flag", "True")] ∧
        Percent.formDecode (urlQuery request.url) ≠
          some ((suppliedAt .query flagsBinding.parameters [("flags", .arr [.bool true])]).flatMap
            fun supplied => uniformPairs asciiTables.isPrintable supplied.1 supplied.2) := by
  have alone : urlQuery (flagsRequest "flag=true").url =
      (urlencode [("flag", "true")]).toList := by decide +kernel
  have within : urlQuery (flagsRequest "flag=True").url =
      (urlencode [("flag", "True")]).toList := by decide +kernel
  refine ⟨by unfold isBare; decide, by unfold isBare; decide,
    ⟨flagsRequest "flag=true", ?_, ?_⟩, flagsRequest "flag=True", ?_, ?_, ?_⟩
  · rfl
  · rw [alone, Percent.formDecode_urlencode]
  · rfl
  · rw [within, Percent.formDecode_urlencode]
  · rw [within, Percent.formDecode_urlencode]
    decide +kernel

/-- Texts and numbers in an array arrive as they are. -/
theorem buildRequest_uniform_iff_flags :
    ∃ request, buildRequest asciiTables.isPrintable flagsBinding "https://rules.test"
        [("flags", .arr [.str "a&b=c", .int 3])] none = .ok request ∧
      Percent.formDecode (urlQuery request.url) = some [("flag", "a&b=c"), ("flag", "3")] := by
  have built : buildRequest asciiTables.isPrintable flagsBinding "https://rules.test"
      [("flags", .arr [.str "a&b=c", .int 3])] none =
        .ok (flagsRequest "flag=a%26b%3Dc&flag=3") := rfl
  refine ⟨_, built, ?_⟩
  apply (buildRequest_uniform_iff (by unfold isBare; decide) (by unfold isBare; decide) built).mpr
  intro supplied suppliedMem items isArray flag present
  have supplied_eq : supplied.2 = .arr [.str "a&b=c", .int 3] := by
    rw [List.mem_singleton.mp suppliedMem]
  rw [isArray, Json.arr.injEq] at supplied_eq
  rw [supplied_eq] at present
  simp at present

end Flags

end McpPortal
