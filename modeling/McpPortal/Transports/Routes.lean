import McpPortal.Foundation.DotSegments
import McpPortal.Foundation.Unicode
import McpPortal.Transports.Http

/-!
# Which route a request reaches

A client removes dot segments from the path of an absolute URL before sending it.
A request stays on its route when the path sent consists of the segments of the
base URL followed by those of the template, with every segment that holds a
placeholder filled by one segment.
-/

namespace McpPortal

open Foundation
open DotSegments (Segment IsDot)

/-- What follows `://`. -/
def afterScheme (url : List Char) : List Char :=
  (url.dropWhile (· ≠ ':')).drop 3

/-- The path of an absolute URL: what follows the authority, up to query and fragment. -/
def urlPath (url : List Char) : List Char :=
  ((afterScheme url).takeWhile fun char => char ≠ '?' ∧ char ≠ '#').dropWhile (· ≠ '/')

/-- The segments of a path that is empty or starts with a slash. -/
def pathSegments : List Char → List Segment
  | [] => []
  | _ :: rest => rest.splitOn '/'

/-- The segments of the request as it is sent. -/
def sentSegments (url : String) : List Segment :=
  DotSegments.remove (pathSegments (urlPath url.toList))

/-- The segments of a base URL, whose closing slashes belong to the joint with the template. -/
def baseSegments (baseUrl : String) : List Segment :=
  pathSegments (urlPath (baseUrl.toList.rdropWhile (· = '/')))

def templateSegments (path : String) : List Segment :=
  (path.toList.dropWhile (· = '/')).splitOn '/'

/-- A literal segment is sent unchanged, one with a placeholder is sent as a segment. -/
def KeepsSegment (segment sent : Segment) : Prop :=
  if Text.placeholders segment = [] then sent = segment else sent ≠ []

/-- The base segments, followed by one segment for each one of the template. -/
def RouteConfined (baseUrl path : String) (sent : List Segment) : Prop :=
  ∃ filled, sent = baseSegments baseUrl ++ filled ∧
    List.Forall₂ KeepsSegment (templateSegments path) filled

/-- A URL or a template with neither query nor fragment. -/
def isBare (text : String) : Prop :=
  '?' ∉ text.toList ∧ '#' ∉ text.toList

/-- The placeholders in the order they are filled, with the encoded texts of their arguments. -/
def pathTexts (isPrintable : Char → Bool) (parameters : List Parameter) (arguments : JsonObject) :
    Text.Fillings :=
  (pathParameters parameters).filterMap fun param =>
    (Dict.get? arguments param.arg).map fun value =>
      (param.wireName.toList, (quote (value.text isPrintable)).toList)

section Texts

variable {isPrintable : Char → Bool} {arguments : JsonObject}

theorem mem_pathTexts {parameters : List Parameter} {filling : List Char × List Char}
    (present : filling ∈ pathTexts isPrintable parameters arguments) :
    ∃ param ∈ pathParameters parameters, filling.1 = param.wireName.toList ∧
      ∃ text : String, filling.2 = Percent.quoteChars text.toList := by
  rcases List.mem_filterMap.mp present with ⟨param, paramMem, filled⟩
  rcases Option.map_eq_some_iff.mp filled with ⟨value, _, rfl⟩
  exact ⟨param, paramMem, rfl, value.text isPrintable, String.toList_ofList⟩

theorem pathTexts_cons_of_ne {param : Parameter} (elsewhere : param.location ≠ .path)
    (rest : List Parameter) :
    pathTexts isPrintable (param :: rest) arguments = pathTexts isPrintable rest arguments := by
  simp [pathTexts, pathParameters, elsewhere]

theorem pathTexts_cons_of_none {param : Parameter} (absent : Dict.get? arguments param.arg = none)
    (rest : List Parameter) :
    pathTexts isPrintable (param :: rest) arguments = pathTexts isPrintable rest arguments := by
  by_cases inPath : param.location = .path
  · simp [pathTexts, pathParameters, inPath, absent]
  · exact pathTexts_cons_of_ne inPath rest

theorem pathTexts_cons_of_some {param : Parameter} {value : Json} (inPath : param.location = .path)
    (given : Dict.get? arguments param.arg = some value) (rest : List Parameter) :
    pathTexts isPrintable (param :: rest) arguments =
      (param.wireName.toList, (quote (value.text isPrintable)).toList) ::
        pathTexts isPrintable rest arguments := by
  simp [pathTexts, pathParameters, inPath, given]

/-- The loop over the parameters fills the placeholders one after the other. -/
theorem path_foldlM_addParameter {parameters : List Parameter} {parts final : RequestParts}
    (ran : parameters.foldlM (addParameter isPrintable arguments) parts = .ok final) :
    final.path.toList = Text.fillAll (pathTexts isPrintable parameters arguments) parts.path.toList ∧
      (∀ filling ∈ pathTexts isPrintable parameters arguments, filling.2 ≠ []) ∧
      ∀ param ∈ pathParameters parameters, param.required = true →
        param.wireName.toList ∈ (pathTexts isPrintable parameters arguments).map Prod.fst := by
  induction parameters generalizing parts with
  | nil =>
      cases ran
      simp [pathTexts, pathParameters]
  | cons param rest ih =>
      rcases foldlM_cons_eq_ok.mp ran with ⟨next, stepped, later⟩
      rcases ih later with ⟨path_eq, filled, named⟩
      rcases addParameter_ok stepped with ⟨absent, optional, rfl⟩ | ⟨value, given, ends⟩
      · rw [pathTexts_cons_of_none absent]
        refine ⟨path_eq, filled, fun other otherMem isRequired => ?_⟩
        rw [pathParameters, List.filter_cons] at otherMem
        split at otherMem
        · rcases List.mem_cons.mp otherMem with rfl | otherMem
          · rw [optional] at isRequired
            cases isRequired
          · exact named other otherMem isRequired
        · exact named other otherMem isRequired
      · by_cases inPath : param.location = .path
        · rcases ends with ⟨_, nonempty, rfl⟩ | ⟨inQuery, _⟩ | ⟨inHeader, _⟩
          · rw [pathTexts_cons_of_some inPath given]
            refine ⟨?_, ?_, ?_⟩
            · rw [path_eq, Text.fillAll_cons, fillPlaceholder, String.toList_ofList]
            · rw [List.forall_mem_cons]
              refine ⟨?_, filled⟩
              rw [quote, String.toList_ofList]
              apply Percent.quoteChars_ne_nil
              simpa using nonempty
            · intro other otherMem isRequired
              rw [pathParameters, List.filter_cons_of_pos (by simpa using inPath)] at otherMem
              rw [List.map_cons, List.mem_cons]
              rcases List.mem_cons.mp otherMem with rfl | otherMem
              · exact Or.inl rfl
              · exact Or.inr (named other otherMem isRequired)
          · rw [inPath] at inQuery
            cases inQuery
          · rw [inPath] at inHeader
            cases inHeader
        · have samePath : next.path = parts.path := by
            rcases ends with ⟨isPath, _⟩ | ⟨_, rfl⟩ | ⟨_, _, rfl⟩
            · exact absurd isPath inPath
            · rfl
            · rfl
          rw [pathTexts_cons_of_ne inPath, ← samePath]
          refine ⟨path_eq, filled, fun other otherMem isRequired => ?_⟩
          rw [pathParameters, List.filter_cons_of_neg (by simpa using inPath)] at otherMem
          exact named other otherMem isRequired

/-- None of the characters that structure a URL is inserted. -/
theorem notMem_pathTexts {mark : Char} (notPercent : mark ≠ '%')
    (reserved : Percent.unreserved mark = false) {parameters : List Parameter} :
    ∀ filling ∈ pathTexts isPrintable parameters arguments, mark ∉ filling.2 := by
  intro filling present
  rcases mem_pathTexts present with ⟨_, _, _, text, text_eq⟩
  rw [text_eq]
  exact Percent.notMem_quoteChars notPercent reserved

theorem notMem_filled {mark : Char} (notPercent : mark ≠ '%')
    (reserved : Percent.unreserved mark = false) {parameters : List Parameter} {path : String}
    (bare : mark ∉ path.toList) :
    mark ∉ Text.fillAll (pathTexts isPrintable parameters arguments)
      (path.toList.dropWhile (· = '/')) := by
  intro present
  rcases Text.mem_fillAll present with literal | ⟨filling, fillingMem, inserted⟩
  · exact bare ((List.dropWhile_sublist _).mem literal)
  · exact notMem_pathTexts notPercent reserved filling fillingMem inserted

/-- The URL is the base, the filled template, and the query if there is one. -/
theorem url_buildRequest {binding : HttpBinding} {baseUrl : String} {credential : Option Credential}
    {request : PreparedRequest}
    (built : buildRequest isPrintable binding baseUrl arguments credential = .ok request) :
    ∃ parts query, binding.parameters.foldlM (addParameter isPrintable arguments)
        { path := binding.path } = .ok parts ∧
      request.url.toList = baseUrl.toList.rdropWhile (· = '/') ++ '/' ::
        (Text.fillAll (pathTexts isPrintable binding.parameters arguments)
          (binding.path.toList.dropWhile (· = '/')) ++ query) ∧
      (parts.query = [] ∧ query = [] ∨ query = '?' :: (urlencode parts.query).toList) := by
  rcases buildRequest_ok built with ⟨parts, _, ran, _, url_eq, _⟩
  rcases path_foldlM_addParameter ran with ⟨path_eq, filled, _⟩
  have stripped : parts.path.toList.dropWhile (· = '/') =
      Text.fillAll (pathTexts isPrintable binding.parameters arguments)
        (binding.path.toList.dropWhile (· = '/')) := by
    rw [path_eq]
    apply Text.dropWhile_fillAll (by decide)
    intro filling present
    exact ⟨filled filling present, notMem_pathTexts (by decide) (by decide) filling present⟩
  rw [← stripped, url_eq, requestUrl]
  split
  case isTrue empty =>
    refine ⟨parts, [], ran, ?_, Or.inl ⟨List.isEmpty_iff.mp empty, rfl⟩⟩
    simp [join]
  case isFalse =>
    refine ⟨parts, '?' :: (urlencode parts.query).toList, ran, ?_, Or.inr rfl⟩
    simp [join]

end Texts

section Url

/-- An absolute URL is a scheme, `://` and something that does not start with a slash. -/
theorem isHttpUrl_split {text : String} (absolute : isHttpUrl text = true) :
    ∃ scheme rest, ':' ∉ scheme ∧ text.toList = scheme ++ ':' :: '/' :: '/' :: rest ∧
      ∃ char ∈ rest, char ≠ '/' := by
  have split : ∀ (scheme : List Char) (opening : String), ':' ∉ scheme →
      opening.toList = scheme ++ [':', '/', '/'] → opening.toList.isPrefixOf text.toList = true →
      (∃ char, (text.toList.drop opening.toList.length).head? = some char ∧ char ≠ '/') →
      ∃ scheme rest, ':' ∉ scheme ∧ text.toList = scheme ++ ':' :: '/' :: '/' :: rest ∧
        ∃ char ∈ rest, char ≠ '/' := by
    intro scheme opening noColon opening_eq starts ⟨char, first, notSlash⟩
    rcases List.isPrefixOf_iff_prefix.mp starts with ⟨rest, text_eq⟩
    rw [← text_eq, List.drop_left] at first
    refine ⟨scheme, rest, noColon, ?_, char, List.mem_of_head? first, notSlash⟩
    rw [← text_eq, opening_eq, List.append_assoc]
    rfl
  rcases List.any_eq_true.mp absolute with ⟨opening, openingMem, holds⟩
  rw [Bool.and_eq_true] at holds
  rcases holds with ⟨starts, hostStarts⟩
  have host : ∃ char, (text.toList.drop opening.toList.length).head? = some char ∧ char ≠ '/' := by
    cases first : (text.toList.drop opening.toList.length).head? with
    | none => simp [first] at hostStarts
    | some char =>
        simp only [first, Bool.and_eq_true, decide_eq_true_eq] at hostStarts
        exact ⟨char, rfl, hostStarts.1.1.1⟩
  simp only [List.mem_cons, List.not_mem_nil, or_false] at openingMem
  rcases openingMem with rfl | rfl
  · exact split "http".toList _ (by decide) (by decide) starts host
  · exact split "https".toList _ (by decide) (by decide) starts host

theorem afterScheme_append {scheme rest : List Char} (noColon : ':' ∉ scheme) :
    afterScheme (scheme ++ ':' :: '/' :: '/' :: rest) = rest := by
  have skipped : (scheme ++ ':' :: '/' :: '/' :: rest).dropWhile (· ≠ ':') =
      ':' :: '/' :: '/' :: rest := by
    rw [List.dropWhile_append_of_pos]
    · simp
    · intro char present
      simp only [ne_eq, decide_not, Bool.not_eq_eq_eq_not, Bool.not_true, decide_eq_false_iff_not]
      rintro rfl
      exact noColon present
  rw [afterScheme, skipped]
  rfl

theorem rdropWhile_append {before after : List Char} {char : Char}
    (present : char ∈ after) (notSlash : char ≠ '/') :
    (before ++ after).rdropWhile (· = '/') = before ++ after.rdropWhile (· = '/') := by
  have stops : after.reverse.dropWhile (· = '/') ≠ [] := by
    rw [ne_eq, List.dropWhile_eq_nil_iff]
    intro allSlashes
    exact notSlash (by simpa using allSlashes char (List.mem_reverse.mpr present))
  simp [List.rdropWhile, List.dropWhile_append, stops]

theorem pathSegments_append {path : List Char} (rooted : path = [] ∨ ∃ rest, path = '/' :: rest)
    (rest : List Char) :
    pathSegments (path ++ '/' :: rest) = pathSegments path ++ rest.splitOn '/' := by
  rcases rooted with rfl | ⟨first, rfl⟩
  · rfl
  · simp only [pathSegments, List.cons_append]
    exact List.splitOn_append_cons_self first rest

theorem dropWhile_rooted (text : List Char) :
    text.dropWhile (· ≠ '/') = [] ∨ ∃ rest, text.dropWhile (· ≠ '/') = '/' :: rest := by
  cases dropped : text.dropWhile (· ≠ '/') with
  | nil => exact Or.inl rfl
  | cons char rest =>
      have stopped := List.head?_dropWhile_not (· ≠ '/') text
      rw [dropped] at stopped
      simp only [List.head?_cons, ne_eq, decide_not, Bool.not_eq_false', decide_eq_true_eq]
        at stopped
      exact Or.inr ⟨rest, by rw [stopped]⟩

/-- The path of a joined URL is the path of the base followed by the template's. -/
theorem pathSegments_join {scheme host path query : List Char} (noColon : ':' ∉ scheme)
    (hostBare : '?' ∉ host ∧ '#' ∉ host) (pathBare : '?' ∉ path ∧ '#' ∉ path)
    (isQuery : query = [] ∨ ∃ rest, query = '?' :: rest) :
    pathSegments (urlPath (scheme ++ ':' :: '/' :: '/' :: (host ++ '/' :: (path ++ query)))) =
      pathSegments (urlPath (scheme ++ ':' :: '/' :: '/' :: host)) ++ path.splitOn '/' := by
  have bare : ∀ text : List Char, '?' ∉ text ∧ '#' ∉ text → ∀ rest,
      (text ++ rest).takeWhile (fun char => char ≠ '?' ∧ char ≠ '#') =
        text ++ rest.takeWhile (fun char => char ≠ '?' ∧ char ≠ '#') := by
    intro text free rest
    apply List.takeWhile_append_of_pos
    intro char present
    simp only [ne_eq, Bool.decide_and, decide_not, Bool.and_eq_true, Bool.not_eq_eq_eq_not,
      Bool.not_true, decide_eq_false_iff_not]
    exact ⟨fun same => free.1 (same ▸ present), fun same => free.2 (same ▸ present)⟩
  have queryCut : query.takeWhile (fun char => char ≠ '?' ∧ char ≠ '#') = [] := by
    rcases isQuery with rfl | ⟨rest, rfl⟩ <;> simp
  have slash : '?' ∉ ['/'] ∧ '#' ∉ ['/'] := by decide
  have cut : (host ++ '/' :: (path ++ query)).takeWhile (fun char => char ≠ '?' ∧ char ≠ '#') =
      host ++ '/' :: path := by
    have joined : '/' :: (path ++ query) = ['/'] ++ (path ++ query) := rfl
    rw [bare host hostBare, joined, bare _ slash, bare path pathBare, queryCut, List.append_nil]
    rfl
  have hostCut : host.takeWhile (fun char => char ≠ '?' ∧ char ≠ '#') = host := by
    simpa using bare host hostBare []
  have rooted := dropWhile_rooted host
  rw [urlPath, urlPath, afterScheme_append noColon, afterScheme_append noColon, cut, hostCut,
    ← pathSegments_append rooted, List.dropWhile_append]
  rcases rooted with empty | ⟨rest, rest_eq⟩
  · rw [empty]
    rfl
  · rw [rest_eq]
    rfl

variable {isPrintable : Char → Bool} {binding : HttpBinding} {baseUrl : BaseUrl}
  {arguments : JsonObject} {credential : Option Credential} {request : PreparedRequest}

/-- What is sent are the base segments and the filled template, without dot segments. -/
theorem sentSegments_buildRequest (templateBare : isBare binding.path)
    (baseBare : isBare baseUrl.text)
    (built : buildRequest isPrintable binding baseUrl.text arguments credential = .ok request) :
    sentSegments request.url =
      DotSegments.remove (baseSegments baseUrl.text ++
        (Text.fillAll (pathTexts isPrintable binding.parameters arguments)
          (binding.path.toList.dropWhile (· = '/'))).splitOn '/') := by
  rcases url_buildRequest built with ⟨_, query, _, url_chars, isQuery⟩
  have queryMarked : query = [] ∨ ∃ rest, query = '?' :: rest := by
    rcases isQuery with ⟨_, empty⟩ | encoded
    · exact Or.inl empty
    · exact Or.inr ⟨_, encoded⟩
  rcases isHttpUrl_split baseUrl.hasScheme with
    ⟨scheme, host, noColon, base_eq, char, charMem, notSlash⟩
  have hostBare : '?' ∉ host.rdropWhile (· = '/') ∧ '#' ∉ host.rdropWhile (· = '/') := by
    have inBase : ∀ mark ∈ host.rdropWhile (· = '/'), mark ∈ baseUrl.text.toList := by
      intro mark present
      rw [base_eq]
      have inHost := (List.rdropWhile_prefix (· = '/') host).subset present
      simp [inHost]
    exact ⟨fun present => baseBare.1 (inBase _ present), fun present => baseBare.2 (inBase _ present)⟩
  have base_stripped : baseUrl.text.toList.rdropWhile (· = '/') =
      scheme ++ ':' :: '/' :: '/' :: host.rdropWhile (· = '/') := by
    have grouped : scheme ++ ':' :: '/' :: '/' :: host = (scheme ++ [':', '/', '/']) ++ host := by
      simp
    rw [base_eq, grouped, rdropWhile_append charMem notSlash]
    simp
  rw [base_stripped, List.append_assoc] at url_chars
  rw [sentSegments, url_chars, baseSegments, base_stripped]
  apply congrArg DotSegments.remove
  apply pathSegments_join noColon hostBare _ queryMarked
  exact ⟨notMem_filled (by decide) (by decide) templateBare.1,
    notMem_filled (by decide) (by decide) templateBare.2⟩

end Url

/-- Filling the template segment by segment stays confined unless a dot segment results. -/
theorem remove_keeps_iff {base template : List Segment} {fill : Segment → Segment}
    (basePlain : ∀ segment ∈ base, ¬IsDot segment)
    (literal : ∀ segment, Text.placeholders segment = [] → fill segment = segment)
    (nonempty : ∀ segment, segment ≠ [] → fill segment ≠ []) :
    (∃ filled, DotSegments.remove (base ++ template.map fill) = base ++ filled ∧
        List.Forall₂ KeepsSegment template filled) ↔
      ∀ segment ∈ template, ¬IsDot (fill segment) := by
  constructor
  · rintro ⟨filled, removed, keeps⟩ segment segmentMem isDot
    have same : (DotSegments.removeFrom [] (base ++ template.map fill)).length =
        ([] : List Segment).length + (base ++ template.map fill).length := by
      rw [← DotSegments.remove, removed]
      simp [keeps.length_eq]
    have present : fill segment ∈ base ++ template.map fill :=
      List.mem_append_right _ (List.mem_map_of_mem segmentMem)
    rcases DotSegments.last_of_same_length present isDot same with ⟨⟨last, isLast, lastDot⟩, empty⟩
    rw [← DotSegments.remove, removed] at empty
    rcases List.eq_nil_or_concat template with rfl | ⟨before, final, rfl⟩
    · cases segmentMem
    · rw [List.concat_eq_append] at keeps isLast
      have reversed := List.forall₂_reverse_iff.mpr keeps
      rw [List.reverse_append, List.reverse_singleton, List.singleton_append] at reversed
      rcases List.forall₂_cons_left_iff.mp reversed with ⟨sent, others, kept, _, filled_eq⟩
      have sentEmpty : sent = [] := by
        have filled_last : filled = others.reverse ++ [sent] := by
          rw [← List.reverse_reverse filled, filled_eq]
          simp
        rw [filled_last, ← List.append_assoc, List.getLast?_append] at empty
        simpa using empty
      have last_eq : fill final = last := by
        rw [List.map_append, ← List.append_assoc, List.getLast?_append] at isLast
        simpa using isLast
      subst sent last
      unfold KeepsSegment at kept
      split at kept
      case isTrue plain =>
        rw [literal final plain, ← kept] at lastDot
        rcases lastDot with isDot | isDotDot
        · cases isDot
        · cases isDotDot
      case isFalse => exact kept rfl
  · intro plain
    refine ⟨template.map fill, DotSegments.remove_of_no_dot ?_, ?_⟩
    · intro segment segmentMem
      rcases List.mem_append.mp segmentMem with inBase | inTemplate
      · exact basePlain segment inBase
      · rcases List.mem_map.mp inTemplate with ⟨source, sourceMem, rfl⟩
        exact plain source sourceMem
    · rw [List.forall₂_map_right_iff, List.forall₂_same]
      intro segment _
      unfold KeepsSegment
      split
      case isTrue noPlaceholder => exact literal segment noPlaceholder
      case isFalse placeholder =>
        apply nonempty
        rintro rfl
        exact placeholder rfl

/-- No placeholder holds a slash, and no segment of the template is filled to a dot segment. -/
def FillsSegments (isPrintable : Char → Bool) (binding : HttpBinding) (arguments : JsonObject) :
    Prop :=
  (∀ name ∈ pathPlaceholders binding.path, '/' ∉ name.toList) ∧
    ∀ segment ∈ templateSegments binding.path,
      ¬IsDot (Text.fillAll (pathTexts isPrintable binding.parameters arguments) segment)

/--
A request that was built stays on its route exactly when every placeholder lies
within a segment and no segment is filled to `.` or `..`.
-/
theorem buildRequest_routeConfined_iff {isPrintable : Char → Bool} {binding : HttpBinding}
    {baseUrl : BaseUrl} {arguments : JsonObject} {credential : Option Credential}
    {request : PreparedRequest} (accepted : checkPathTemplate binding = .ok ())
    (templateBare : isBare binding.path) (baseBare : isBare baseUrl.text)
    (basePlain : ∀ segment ∈ baseSegments baseUrl.text, ¬IsDot segment)
    (built : buildRequest isPrintable binding baseUrl.text arguments credential = .ok request) :
    RouteConfined baseUrl.text binding.path (sentSegments request.url) ↔
      FillsSegments isPrintable binding arguments := by
  have matched := checkPathTemplate_ok accepted
  rcases buildRequest_ok built with ⟨_, _, ran, _⟩
  rcases path_foldlM_addParameter ran with ⟨_, filled, named⟩
  have free : ∀ filling ∈ pathTexts isPrintable binding.parameters arguments,
      Text.braceFree filling.1 ∧ ∃ name ∈ pathPlaceholders binding.path,
        filling.1 = name.toList := by
    intro filling present
    rcases mem_pathTexts present with ⟨param, paramMem, name_eq, _⟩
    have isPlaceholder := (matched.placed param.wireName).mpr (List.mem_map_of_mem paramMem)
    rcases List.mem_map.mp isPlaceholder with ⟨name, nameMem, same⟩
    have name_chars : filling.1 = name := by rw [name_eq, ← same, String.toList_ofList]
    exact ⟨name_chars ▸ (Text.mem_placeholders_iff.mp nameMem).1, _, isPlaceholder, name_eq⟩
  have slashFree : ∀ filling ∈ pathTexts isPrintable binding.parameters arguments,
      '/' ∉ filling.2 := by
    intro filling present
    rcases mem_pathTexts present with ⟨_, _, _, text, text_eq⟩
    rw [text_eq]
    exact Percent.notMem_quoteChars (by decide) (by decide)
  rw [sentSegments_buildRequest templateBare baseBare built, RouteConfined, FillsSegments]
  by_cases whole : ∀ name ∈ pathPlaceholders binding.path, '/' ∉ name.toList
  case pos =>
    rw [Text.splitOn_fillAll (by decide), ← templateSegments, remove_keeps_iff basePlain]
    · exact (and_iff_right whole).symm
    · intro segment noPlaceholder
      exact Text.fillAll_of_no_placeholder (fun filling present => (free filling present).1)
        noPlaceholder
    · intro segment nonempty
      exact Text.fillAll_ne_nil filled nonempty
    · intro filling present
      rcases (free filling present).2 with ⟨name, nameMem, name_eq⟩
      exact ⟨name_eq ▸ whole name nameMem, slashFree filling present⟩
  case neg =>
    -- a name with a slash takes its separator along when it is filled
    simp only [whole, false_and, iff_false]
    rintro ⟨sent, sent_eq, keeps⟩
    push Not at whole
    rcases whole with ⟨name, nameMem, slashMem⟩
    rcases List.mem_map.mp ((matched.placed name).mp nameMem) with ⟨param, paramMem, rfl⟩
    have filledName := named param paramMem (matched.required param paramMem)
    have occurs : Text.braced param.wireName.toList <:+:
        binding.path.toList.dropWhile (· = '/') := by
      rcases List.mem_map.mp nameMem with ⟨chars, charsMem, chars_eq⟩
      have inPath := (Text.mem_placeholders_iff.mp charsMem).2
      rw [← List.takeWhile_append_dropWhile (p := (· = '/')) (l := binding.path.toList)] at inPath
      rw [← chars_eq, String.toList_ofList]
      apply Text.braced_infix_skip _ inPath
      intro brace
      have isSlash := List.mem_takeWhile_imp brace
      cases isSlash
    have fewer := Text.count_fillAll_lt (fun filling present => (free filling present).1)
      slashFree filledName slashMem occurs
    have shorter := DotSegments.length_remove_le (baseSegments baseUrl.text ++
      (Text.fillAll (pathTexts isPrintable binding.parameters arguments)
        (binding.path.toList.dropWhile (· = '/'))).splitOn '/')
    have length_eq := keeps.length_eq
    rw [sent_eq, List.length_append, List.length_append, Text.length_splitOn, ← length_eq,
      templateSegments, Text.length_splitOn] at shorter
    omega

section Users

private def usersBinding : HttpBinding where
  method := "DELETE"
  path := "/users/\x7bid\x7d/posts"
  parameters := [{ arg := "id", location := .path, wireName := "id", required := true, schema := [] }]

private def usersBase : BaseUrl where
  text := "https://api.example.com/v1"

private def usersRequest (segment : String) : PreparedRequest where
  method := "DELETE"
  url := "https://api.example.com/v1/users/" ++ segment ++ "/posts"
  headers := []
  body := none

/-- The value `..` takes the request from the posts of a user to all posts. -/
theorem buildRequest_leaves_users_route :
    checkPathTemplate usersBinding = .ok () ∧ isBare usersBinding.path ∧ isBare usersBase.text ∧
      (∀ segment ∈ templateSegments usersBinding.path, ¬IsDot segment) ∧
      (∀ segment ∈ baseSegments usersBase.text, ¬IsDot segment) ∧
      ∃ request, buildRequest asciiTables.isPrintable usersBinding usersBase.text
          [("id", .str "..")] none = .ok request ∧
        sentSegments request.url = ["v1".toList, "posts".toList] ∧
        ¬RouteConfined usersBase.text usersBinding.path (sentSegments request.url) := by
  have sent_eq : sentSegments (usersRequest "..").url = ["v1".toList, "posts".toList] := by decide
  refine ⟨rfl, by unfold isBare; decide, by unfold isBare; decide, by decide, by decide,
    usersRequest "..", rfl, sent_eq, ?_⟩
  rintro ⟨filled, split, keeps⟩
  have sentLength := congrArg List.length split
  have filledLength := keeps.length_eq
  have templateLength : (templateSegments usersBinding.path).length = 3 := by decide
  rw [sent_eq, List.length_append] at sentLength
  simp only [List.length_cons, List.length_nil] at sentLength
  omega

/-- A value that needs encoding stays in its segment. -/
theorem buildRequest_routeConfined_iff_users :
    ∃ request, buildRequest asciiTables.isPrintable usersBinding usersBase.text
        [("id", .str "../a?b#c")] none = .ok request ∧
      RouteConfined usersBase.text usersBinding.path (sentSegments request.url) := by
  have built : buildRequest asciiTables.isPrintable usersBinding usersBase.text
      [("id", .str "../a?b#c")] none = .ok (usersRequest "..%2Fa%3Fb%23c") := rfl
  refine ⟨_, built, ?_⟩
  rw [buildRequest_routeConfined_iff rfl (by unfold isBare; decide) (by unfold isBare; decide)
    (by decide) built]
  unfold FillsSegments
  decide

end Users

end McpPortal
