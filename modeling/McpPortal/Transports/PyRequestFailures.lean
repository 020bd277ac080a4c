import McpPortal.Transports.PyRequest

/-!
# When building a request raises

Building ends with a request or a `RequestBuildError` unless an integer has too many digits, a
value to be encoded holds a lone surrogate, or the body schema lists its names as something that
is no list of names.
-/

namespace McpPortal

open Foundation

namespace PyCall

section Conditions

variable (isPrintable : Char → Bool) (arguments : PyJsonObject)

/-- The value of a parameter has a text, and one that can be encoded if it goes into the path. -/
def Encodes (param : Parameter) : Prop :=
  ∀ value, Dict.get? arguments (codePoints param.arg) = some value →
    value.hasLongInt = false ∧
      (param.location = .path → (value.text isPrintable).isEncodable = true)

/-- A parameter is added. -/
def Passes (param : Parameter) : Prop :=
  match Dict.get? arguments (codePoints param.arg) with
  | none => param.required = false
  | some value => value.hasLongInt = false ∧
      match param.location with
      | .path => value.text isPrintable ≠ [] ∧ (value.text isPrintable).isEncodable = true
      | .query => True
      | .header => hasLineBreak (value.text isPrintable) = false

/-- The name of a missing parameter that is no text has one for the message. -/
def CalledParameter.Encodes : CalledParameter → Prop
  | .named param => PyCall.Encodes isPrintable arguments param
  | .unnamed arg required => required = true → arg.hasLongInt = false

/-- A parameter that no argument can be given for must not be required. -/
def CalledParameter.Passes : CalledParameter → Prop
  | .named param => PyCall.Passes isPrintable arguments param
  | .unnamed _ required => required = false

/-- The texts of a value in the query can be encoded. -/
def QueryEncodes : PyJson → Prop
  | .arr items => ∀ item ∈ items, (item.text isPrintable).isEncodable = true
  | value => (value.text isPrintable).isEncodable = true

/-- A required name that is given. -/
def Present (fields : PyJsonObject) (name : Json) : Prop :=
  ∃ text, name = .str text ∧ codePoints text ∈ Dict.keys arguments ∧
    codePoints text ∈ Dict.keys fields

/-- A name that can be looked up, and printed where it is missing. -/
def Named (name : Json) : Prop :=
  name.hashable = true ∧ name.hasLongInt = false

/-- The names that a flattened body declares and requires. -/
structure BodyNames (body : BodySpec) (declared : List String) (names : List Json) : Prop where
  declared : (stringsOfSet body.declaredProperties : Build (List String)) = .ok declared
  required : (iterate body.declaredRequired : Build (List Json)) = .ok names

/-- The body is listed properly, up to the first name that is missing, and has a text. -/
def BodyEncodes (body : BodySpec) : Prop :=
  if body.isFlattened then
    ∃ declared names, BodyNames body declared names ∧
      (∀ earlier name later, names = earlier ++ name :: later →
        (∀ before ∈ earlier, Present arguments (bodyFields declared arguments) before) →
          Named name) ∧
      ((∀ name ∈ names, Present arguments (bodyFields declared arguments) name) →
        anyLongField (bodyFields declared arguments) = false)
  else ∀ value, Dict.get? arguments (codePoints bodyArg) = some value → value.hasLongInt = false

/-- A body is built. -/
def BodyPasses (body : BodySpec) : Prop :=
  if body.isFlattened then
    ∃ declared names, BodyNames body declared names ∧
      (∀ name ∈ names, Present arguments (bodyFields declared arguments) name) ∧
      anyLongField (bodyFields declared arguments) = false
  else ∃ value, Dict.get? arguments (codePoints bodyArg) = some value ∧ value.hasLongInt = false

/-- The arguments in the query can be encoded. -/
def ArgumentsEncodable (parameters : List CalledParameter) : Prop :=
  ∀ param, .named param ∈ parameters → param.location = .query →
    ∀ value, Dict.get? arguments (codePoints param.arg) = some value →
      QueryEncodes isPrintable value

/-- Whatever is reached can be encoded. -/
structure RequestEncodes (binding : CalledHttp) : Prop where
  parameters : ∀ earlier param later, binding.parameters = earlier ++ param :: later →
    (∀ before ∈ earlier, before.Passes isPrintable arguments) →
      param.Encodes isPrintable arguments
  body : (∀ param ∈ binding.parameters, param.Passes isPrintable arguments) →
    ∀ body ∈ binding.body, BodyEncodes arguments body
  query : (∀ param ∈ binding.parameters, param.Passes isPrintable arguments) →
    (∀ body ∈ binding.body, BodyPasses arguments body) →
      ArgumentsEncodable isPrintable arguments binding.parameters

end Conditions

section Values

variable {isPrintable : Char → Bool} {value : PyJson}

theorem uncaught_str : Uncaught CallRaised.isCaught (str isPrintable value) ↔
    value.hasLongInt = true := by
  cases long : value.hasLongInt <;> simp [str, long, CallRaised.isCaught]

theorem str_eq_ok {text : CodePoints} : str isPrintable value = .ok text ↔
    value.hasLongInt = false ∧ value.text isPrintable = text := by
  cases long : value.hasLongInt <;> simp [str, long, pure, Except.pure]

theorem uncaught_dumps : Uncaught CallRaised.isCaught (dumps value) ↔ value.hasLongInt = true := by
  cases long : value.hasLongInt <;> simp [dumps, long, CallRaised.isCaught]

theorem exists_dumps_eq_ok : (∃ text, dumps value = .ok text) ↔ value.hasLongInt = false := by
  cases long : value.hasLongInt <;> simp [dumps, long, pure, Except.pure]

theorem uncaught_encode {text : CodePoints} :
    Uncaught CallRaised.isCaught (encode text) ↔ text.isEncodable = false := by
  have same := isSome_toText? text
  unfold encode
  cases encoded : text.toText? with
  | some plain =>
      rw [encoded] at same
      simp [← same]
  | none =>
      rw [encoded] at same
      simp [← same, CallRaised.isCaught]

theorem exists_encode_eq_ok {text : CodePoints} :
    (∃ plain, encode text = .ok plain) ↔ text.isEncodable = true := by
  have same := isSome_toText? text
  unfold encode
  cases encoded : text.toText? with
  | some plain =>
      rw [encoded] at same
      simp [← same, pure, Except.pure]
  | none =>
      rw [encoded] at same
      simp [← same]

theorem uncaught_encodePathValue {arg : String} :
    Uncaught CallRaised.isCaught (encodePathValue isPrintable arg value) ↔
      ¬(value.hasLongInt = false ∧ (value.text isPrintable).isEncodable = true) := by
  rw [encodePathValue, uncaught_bind, uncaught_str]
  cases long : value.hasLongInt with
  | true => simp
  | false =>
      simp only [str_eq_ok, long, true_and, exists_eq_left', Bool.false_eq_true, false_or]
      by_cases empty : value.text isPrintable = []
      · simp [empty, CallRaised.isCaught, CodePoints.isEncodable]
      · simp [empty, uncaught_encode]

theorem exists_encodePathValue_eq_ok {arg : String} :
    (∃ encoded, encodePathValue isPrintable arg value = .ok encoded) ↔
      value.hasLongInt = false ∧ value.text isPrintable ≠ [] ∧
        (value.text isPrintable).isEncodable = true := by
  simp only [encodePathValue, bind_eq_ok, str_eq_ok, check_eq_ok, pure_eq_ok,
    ← exists_encode_eq_ok]
  constructor
  · rintro ⟨_, _, ⟨noLong, rfl⟩, nonempty, plain, encoded, _⟩
    exact ⟨noLong, nonempty, plain, encoded⟩
  · rintro ⟨noLong, nonempty, plain, encoded⟩
    exact ⟨_, _, ⟨noLong, rfl⟩, nonempty, plain, encoded, rfl⟩

theorem mapM_str (items : List PyJson) :
    items.mapM (str isPrintable) =
      if anyLongItem items then .error (.interpreter .valueError)
      else .ok (items.map (PyJson.text isPrintable)) := by
  induction items with
  | nil => rfl
  | cons item rest ih =>
      rw [List.mapM_cons, ih]
      cases long : item.hasLongInt with
      | true => simp [str, long, anyLongItem, bind, Except.bind, throw, throwThe, MonadExceptOf.throw]
      | false =>
          cases anyLong : anyLongItem rest <;>
            simp [str, long, anyLong, anyLongItem, bind, Except.bind, pure, Except.pure]

theorem uncaught_queryPairs {name : String} {explode : Bool} :
    Uncaught CallRaised.isCaught (queryPairs isPrintable name value explode) ↔
      value.hasLongInt = true := by
  cases value with
  | arr items =>
      rw [queryPairs, mapM_str, PyJson.hasLongInt]
      cases anyLong : anyLongItem items <;> cases explode <;>
        simp [bind, Except.bind, CallRaised.isCaught]
  | bool value => simp [queryPairs, PyJson.hasLongInt]
  | _ => simp [queryPairs, uncaught_str]

theorem exists_queryPairs_eq_ok {name : String} {explode : Bool} :
    (∃ pairs, queryPairs isPrintable name value explode = .ok pairs) ↔
      value.hasLongInt = false := by
  cases value with
  | arr items =>
      rw [queryPairs, mapM_str, PyJson.hasLongInt]
      cases anyLong : anyLongItem items <;> cases explode <;>
        simp [bind, Except.bind, pure, Except.pure]
  | bool value => simp [queryPairs, PyJson.hasLongInt, pure, Except.pure]
  | _ =>
      simp only [queryPairs, bind_eq_ok, str_eq_ok, pure_eq_ok]
      simp

theorem isEncodable_append (left right : CodePoints) :
    (left ++ right : CodePoints).isEncodable = (left.isEncodable && right.isEncodable) :=
  List.all_append

theorem isEncodable_joinPoints {sep : CodePoints} (separates : sep.isEncodable = true)
    (texts : List CodePoints) :
    (joinPoints sep texts).isEncodable = true ↔ ∀ text ∈ texts, text.isEncodable = true := by
  induction texts with
  | nil => simp [joinPoints, CodePoints.isEncodable]
  | cons text rest ih =>
      cases rest with
      | nil => simp [joinPoints]
      | cons next others =>
          have joined : joinPoints sep (text :: next :: others) =
              text ++ sep ++ joinPoints sep (next :: others) := rfl
          rw [joined, isEncodable_append, isEncodable_append, separates, Bool.and_true,
            Bool.and_eq_true, ih]
          simp

/-- The pairs of a value can be encoded when its texts can. -/
theorem encodable_queryPairs {name : String} {explode : Bool} {pairs : List (String × CodePoints)}
    (ran : queryPairs isPrintable name value explode = .ok pairs) :
    (∀ pair ∈ pairs, pair.2.isEncodable = true) ↔ QueryEncodes isPrintable value := by
  cases value with
  | arr items =>
      rw [queryPairs, bind_eq_ok] at ran
      rcases ran with ⟨texts, mapped, ran⟩
      rw [mapM_str] at mapped
      split at mapped
      · cases mapped
      · cases mapped
        cases explode with
        | true =>
            cases ran
            simp [QueryEncodes]
        | false =>
            cases ran
            simp [QueryEncodes, isEncodable_joinPoints (isEncodable_codePoints ",")]
  | bool value =>
      cases ran
      cases value <;> simp [QueryEncodes, isEncodable_codePoints, PyJson.text]
  | _ =>
      simp only [queryPairs, bind_eq_ok, str_eq_ok, pure_eq_ok] at ran
      rcases ran with ⟨_, ⟨_, rfl⟩, rfl⟩
      simp [QueryEncodes]

end Values

section Parameters

variable {isPrintable : Char → Bool} {arguments : PyJsonObject} {parts : RequestParts}
  {param : Parameter}

theorem uncaught_addParameter :
    Uncaught CallRaised.isCaught (addParameter isPrintable arguments parts param) ↔
      ¬Encodes isPrintable arguments param := by
  unfold addParameter Encodes
  cases given : Dict.get? arguments (codePoints param.arg) with
  | none => cases required : param.required <;> simp [CallRaised.isCaught]
  | some value =>
      have noHeader : ∀ text, ¬Uncaught CallRaised.isCaught
          (checkHeaderValue param.wireName text) := by
        intro text
        cases broken : hasLineBreak text <;> simp [checkHeaderValue, broken, CallRaised.isCaught]
      cases location : param.location with
      | path => simp [uncaught_encodePathValue]
      | query => simp [uncaught_queryPairs]
      | header => simp [uncaught_bind, uncaught_str, noHeader]

theorem exists_addParameter_eq_ok :
    (∃ next, addParameter isPrintable arguments parts param = .ok next) ↔
      Passes isPrintable arguments param := by
  unfold addParameter Passes
  cases given : Dict.get? arguments (codePoints param.arg) with
  | none => cases required : param.required <;> simp [pure, Except.pure]
  | some value =>
      cases location : param.location with
      | path =>
          have encoding := @exists_encodePathValue_eq_ok isPrintable value param.arg
          simp only [bind_eq_ok, pure_eq_ok, ← encoding]
          constructor
          · rintro ⟨_, encoded, ran, _⟩
            exact ⟨encoded, ran⟩
          · rintro ⟨encoded, ran⟩
            exact ⟨_, encoded, ran, rfl⟩
      | query =>
          have pairing :=
            @exists_queryPairs_eq_ok isPrintable value param.wireName param.explode
          simp only [bind_eq_ok, pure_eq_ok, and_true]
          rw [← pairing]
          constructor
          · rintro ⟨_, pairs, ran, _⟩
            exact ⟨pairs, ran⟩
          · rintro ⟨pairs, ran⟩
            exact ⟨_, pairs, ran, rfl⟩
      | header =>
          simp only [bind_eq_ok, pure_eq_ok, str_eq_ok, checkHeaderValue, check_eq_ok,
            Bool.not_eq_true]
          constructor
          · rintro ⟨_, _, ⟨noLong, rfl⟩, _, ⟨noBreak, _⟩, _⟩
            exact ⟨noLong, noBreak⟩
          · rintro ⟨noLong, noBreak⟩
            exact ⟨_, _, ⟨noLong, rfl⟩, _, ⟨noBreak, rfl⟩, rfl⟩

/-- What a parameter that is added does to the query. -/
theorem encodable_addParameter {next : RequestParts}
    (ran : addParameter isPrintable arguments parts param = .ok next) :
    (∀ pair ∈ next.query, pair.2.isEncodable = true) ↔
      (∀ pair ∈ parts.query, pair.2.isEncodable = true) ∧
        (param.location = .query → ∀ value,
          Dict.get? arguments (codePoints param.arg) = some value →
            QueryEncodes isPrintable value) := by
  unfold addParameter at ran
  cases given : Dict.get? arguments (codePoints param.arg) with
  | none =>
      simp only [given, check_eq_ok, pure_eq_ok] at ran
      simp [← ran.2]
  | some value =>
      simp only [given] at ran
      cases location : param.location with
      | path =>
          simp only [location, bind_eq_ok, pure_eq_ok] at ran
          rcases ran with ⟨encoded, _, rfl⟩
          simp
      | query =>
          simp only [location, bind_eq_ok, pure_eq_ok] at ran
          rcases ran with ⟨pairs, made, rfl⟩
          have encodable := encodable_queryPairs made
          simp only [List.forall_mem_append, encodable, forall_const, Option.some.injEq,
            forall_eq']
      | header =>
          simp only [location, bind_eq_ok, pure_eq_ok] at ran
          rcases ran with ⟨text, _, checked, _, rfl⟩
          simp

theorem uncaught_addCalled {called : CalledParameter} :
    Uncaught CallRaised.isCaught (addCalled isPrintable arguments parts called) ↔
      ¬called.Encodes isPrintable arguments := by
  cases called with
  | named param => exact uncaught_addParameter
  | unnamed arg required =>
      cases required <;> cases long : arg.hasLongInt <;>
        simp [addCalled, CalledParameter.Encodes, long, CallRaised.isCaught]

theorem exists_addCalled_eq_ok {called : CalledParameter} :
    (∃ next, addCalled isPrintable arguments parts called = .ok next) ↔
      called.Passes isPrintable arguments := by
  cases called with
  | named param => exact exists_addParameter_eq_ok
  | unnamed arg required =>
      cases required <;> cases long : arg.hasLongInt <;>
        simp [addCalled, CalledParameter.Passes, long, pure, Except.pure]

/-- A parameter that no argument is given for adds nothing. -/
theorem addCalled_unnamed_eq_ok {arg : Json} {required : Bool} {next : RequestParts} :
    addCalled isPrintable arguments parts (.unnamed arg required) = .ok next ↔
      required = false ∧ parts = next := by
  cases required <;> cases long : arg.hasLongInt <;> simp [addCalled, long, pure, Except.pure]

/-- Parameters that are all named are added as those of a checked binding. -/
theorem foldlM_addCalled_named (parameters : List Parameter) (parts : RequestParts) :
    (parameters.map CalledParameter.named).foldlM (addCalled isPrintable arguments) parts =
      parameters.foldlM (addParameter isPrintable arguments) parts :=
  List.foldlM_map

theorem encodable_parameters {parameters : List CalledParameter} {result : RequestParts}
    (ran : parameters.foldlM (addCalled isPrintable arguments) parts = .ok result) :
    (∀ pair ∈ result.query, pair.2.isEncodable = true) ↔
      (∀ pair ∈ parts.query, pair.2.isEncodable = true) ∧
        ArgumentsEncodable isPrintable arguments parameters := by
  induction parameters generalizing parts with
  | nil =>
      cases ran
      simp [ArgumentsEncodable]
  | cons called rest ih =>
      rcases foldlM_cons_eq_ok.mp ran with ⟨next, added, later⟩
      rw [ih later]
      cases called with
      | named param =>
          have encodable := encodable_addParameter added
          rw [encodable, and_assoc]
          apply and_congr_right
          intro _
          simp only [ArgumentsEncodable, List.mem_cons, CalledParameter.named.injEq, or_imp,
            forall_and, forall_eq]
      | unnamed arg required =>
          rcases addCalled_unnamed_eq_ok.mp added with ⟨_, rfl⟩
          simp [ArgumentsEncodable]

/-- The query of a binding can be encoded when its arguments can. -/
theorem encodable_query {parameters : List CalledParameter} {path : String}
    {result : RequestParts}
    (ran : parameters.foldlM (addCalled isPrintable arguments) { path } = .ok result) :
    (∀ pair ∈ result.query, pair.2.isEncodable = true) ↔
      ArgumentsEncodable isPrintable arguments parameters := by
  rw [encodable_parameters ran]
  simp

end Parameters

section Body

variable {arguments : PyJsonObject} {body : BodySpec}

theorem uncaught_checkBodyName {fields : PyJsonObject} {name : Json} :
    Uncaught CallRaised.isCaught (checkBodyName arguments fields name) ↔ ¬Named name := by
  unfold checkBodyName Named
  cases hashes : name.hashable with
  | false => simp [CallRaised.isCaught]
  | true =>
      cases name with
      | str text =>
          by_cases missing : codePoints text ∉ Dict.keys arguments ∨
              codePoints text ∉ Dict.keys fields
          · simp [missing, CallRaised.isCaught, Json.hasLongInt]
          · simp [missing, Json.hasLongInt]
      | int value => cases long : (Json.int value).hasLongInt <;> simp [CallRaised.isCaught]
      | arr items => cases hashes
      | obj fields => cases hashes
      | _ => simp [CallRaised.isCaught, Json.hasLongInt]

theorem checkBodyName_eq_ok {fields : PyJsonObject} {name : Json} :
    checkBodyName arguments fields name = .ok () ↔ Present arguments fields name := by
  unfold checkBodyName Present
  cases name with
  | str text => simp [Json.hashable, pure, Except.pure]
  | int value => cases long : (Json.int value).hasLongInt <;> simp [Json.hashable]
  | _ => simp [Json.hashable, Json.hasLongInt]

theorem iterate_eq_error {value : Json} {exception : PyException RequestBuildError}
    (failed : iterate value = .error exception) : exception = .typeError := by
  unfold iterate at failed
  split at failed
  · cases failed
  · cases failed
    rfl

theorem stringsOfSet_eq_error {value : Json} {exception : PyException RequestBuildError}
    (failed : stringsOfSet value = .error exception) : exception = .typeError := by
  rw [stringsOfSet, bind_eq_error] at failed
  rcases failed with failed | ⟨items, _, failed⟩
  · exact iterate_eq_error failed
  · split at failed
    · cases failed
    · cases failed
      rfl

theorem uncaught_checkedBody {fields : PyJsonObject} {names : List Json} :
    Uncaught CallRaised.isCaught (do
        names.forM (checkBodyName arguments fields)
        dumps (.obj fields)) ↔
      ¬((∀ earlier name later, names = earlier ++ name :: later →
          (∀ before ∈ earlier, Present arguments fields before) → Named name) ∧
        ((∀ name ∈ names, Present arguments fields name) → anyLongField fields = false)) := by
  simp only [uncaught_bind, uncaught_forM_iff, checkBodyName_eq_ok, uncaught_checkBodyName,
    uncaught_dumps, PyJson.hasLongInt]
  rw [not_and_or]
  apply or_congr
  · push Not
    rfl
  · have checked : (∃ value : Unit, names.forM (checkBodyName arguments fields) = .ok value ∧
        anyLongField fields = true) ↔
          (∀ name ∈ names, Present arguments fields name) ∧ anyLongField fields = true := by
      simp only [← checkBodyName_eq_ok, ← forM_eq_ok]
      constructor
      · rintro ⟨⟨⟩, ran, long⟩
        exact ⟨ran, long⟩
      · rintro ⟨ran, long⟩
        exact ⟨(), ran, long⟩
    rw [checked, Classical.not_imp, Bool.not_eq_false]

theorem exists_checkedBody_eq_ok {fields : PyJsonObject} {names : List Json} :
    (∃ text, (do
        names.forM (checkBodyName arguments fields)
        dumps (.obj fields) : Calling String) = .ok text) ↔
      (∀ name ∈ names, Present arguments fields name) ∧ anyLongField fields = false := by
  have built : (∃ text, dumps (.obj fields) = .ok text) ↔ anyLongField fields = false :=
    exists_dumps_eq_ok
  simp only [bind_eq_ok, ← checkBodyName_eq_ok, ← forM_eq_ok, ← built]
  constructor
  · rintro ⟨text, ⟨⟩, checked, dumped⟩
    exact ⟨checked, text, dumped⟩
  · rintro ⟨checked, text, dumped⟩
    exact ⟨text, (), checked, dumped⟩

theorem bodyNames_unique {declared others : List String} {names required : List Json}
    (listed : BodyNames body declared names) (again : BodyNames body others required) :
    others = declared ∧ required = names := by
  constructor
  · exact Except.ok.inj (again.declared.symm.trans listed.declared)
  · exact Except.ok.inj (again.required.symm.trans listed.required)

/-- A flattened body whose names are listed is checked by them. -/
theorem buildBody_of_listed {declared : List String} {names : List Json}
    (flattened : body.isFlattened = true) (listed : BodyNames body declared names) :
    buildBody body arguments = (do
      names.forM (checkBodyName arguments (bodyFields declared arguments))
      dumps (.obj (bodyFields declared arguments))) := by
  rw [buildBody, if_pos flattened, listed.declared, listed.required]
  rfl

theorem buildBody_of_unlisted (flattened : body.isFlattened = true)
    (unlisted : ∀ declared names, ¬BodyNames body declared names) :
    buildBody body arguments = .error (.interpreter .typeError) := by
  rw [buildBody, if_pos flattened]
  cases declares : (stringsOfSet body.declaredProperties : Build (List String)) with
  | error exception =>
      rw [stringsOfSet_eq_error declares]
      rfl
  | ok declared =>
      cases requires : (iterate body.declaredRequired : Build (List Json)) with
      | error exception =>
          rw [iterate_eq_error requires]
          rfl
      | ok names => exact absurd ⟨declares, requires⟩ (unlisted declared names)

theorem uncaught_buildBody : Uncaught CallRaised.isCaught (buildBody body arguments) ↔
    ¬BodyEncodes arguments body := by
  unfold BodyEncodes
  cases flattened : body.isFlattened with
  | true =>
      by_cases listed : ∃ declared names, BodyNames body declared names
      · rcases listed with ⟨declared, names, listed⟩
        rw [buildBody_of_listed flattened listed, uncaught_checkedBody, if_pos rfl]
        apply not_congr
        constructor
        · intro encodes
          exact ⟨declared, names, listed, encodes⟩
        · rintro ⟨others, required, again, encodes⟩
          rcases bodyNames_unique listed again with ⟨rfl, rfl⟩
          exact encodes
      · push Not at listed
        rw [buildBody_of_unlisted flattened listed]
        simp [listed, CallRaised.isCaught]
  | false =>
      cases given : Dict.get? arguments (codePoints bodyArg) with
      | none => simp [buildBody, flattened, given, CallRaised.isCaught]
      | some value => simp [buildBody, flattened, given, uncaught_dumps]

theorem exists_buildBody_eq_ok :
    (∃ text, buildBody body arguments = .ok text) ↔ BodyPasses arguments body := by
  unfold BodyPasses
  cases flattened : body.isFlattened with
  | true =>
      by_cases listed : ∃ declared names, BodyNames body declared names
      · rcases listed with ⟨declared, names, listed⟩
        rw [buildBody_of_listed flattened listed, exists_checkedBody_eq_ok, if_pos rfl]
        constructor
        · intro passes
          exact ⟨declared, names, listed, passes⟩
        · rintro ⟨others, required, again, passes⟩
          rcases bodyNames_unique listed again with ⟨rfl, rfl⟩
          exact passes
      · push Not at listed
        rw [buildBody_of_unlisted flattened listed]
        simp [listed]
  | false =>
      cases given : Dict.get? arguments (codePoints bodyArg) with
      | none => simp [buildBody, flattened, given]
      | some value => simp [buildBody, flattened, given, exists_dumps_eq_ok]

theorem uncaught_addRequestBody {headers : List (String × CodePoints)} {body : Option BodySpec} :
    Uncaught CallRaised.isCaught (addRequestBody headers body arguments) ↔
      ¬∀ spec ∈ body, BodyEncodes arguments spec := by
  cases body with
  | none => simp [addRequestBody]
  | some spec => simp [addRequestBody, uncaught_buildBody]

theorem exists_addRequestBody_eq_ok {headers : List (String × CodePoints)}
    {body : Option BodySpec} :
    (∃ sent, addRequestBody headers body arguments = .ok sent) ↔
      ∀ spec ∈ body, BodyPasses arguments spec := by
  cases body with
  | none => simp [addRequestBody, pure, Except.pure]
  | some spec =>
      simp only [addRequestBody, bind_eq_ok, pure_eq_ok, Option.mem_def, Option.some.injEq,
        forall_eq', ← exists_buildBody_eq_ok]
      constructor
      · rintro ⟨_, text, built, _⟩
        exact ⟨text, built⟩
      · rintro ⟨text, built⟩
        exact ⟨_, text, built, rfl⟩

end Body

section Request

variable {isPrintable : Char → Bool} {arguments : PyJsonObject} {binding : CalledHttp}

/-- One pair of the query, encoded. -/
def encodePair (pair : String × CodePoints) : Calling (String × String) := do
  let value ← encode pair.2
  return (pair.1, value)

theorem exists_encodePair_eq_ok {pair : String × CodePoints} :
    (∃ encoded, encodePair pair = .ok encoded) ↔ pair.2.isEncodable = true := by
  simp only [encodePair, bind_eq_ok, pure_eq_ok, ← exists_encode_eq_ok]
  constructor
  · rintro ⟨_, value, encoded, _⟩
    exact ⟨value, encoded⟩
  · rintro ⟨value, encoded⟩
    exact ⟨_, value, encoded, rfl⟩

theorem encodePair_eq_error {pair : String × CodePoints} {error : CallRaised}
    (failed : encodePair pair = .error error) : error.isCaught = false := by
  unfold encodePair encode at failed
  cases encoded : pair.2.toText? with
  | some text =>
      rw [encoded] at failed
      cases failed
  | none =>
      rw [encoded] at failed
      cases failed
      rfl

theorem uncaught_requestUrl {baseUrl : String} {parts : RequestParts} :
    Uncaught CallRaised.isCaught (requestUrl baseUrl parts) ↔
      ¬∀ pair ∈ parts.query, pair.2.isEncodable = true := by
  have encodes : Uncaught CallRaised.isCaught (parts.query.mapM encodePair) ↔
      ¬∀ pair ∈ parts.query, pair.2.isEncodable = true := by
    rw [uncaught_mapM_iff fun _ _ => encodePair_eq_error]
    simp only [exists_encodePair_eq_ok]
  have steps : requestUrl baseUrl parts = (parts.query.mapM encodePair).bind fun query =>
      .ok (if query.isEmpty then join baseUrl parts.path
        else join baseUrl parts.path ++ "?" ++ urlencode query) := by
    rw [requestUrl]
    apply bind_congr
    intro query
    cases query <;> rfl
  have bound := @uncaught_bind CallRaised (List (String × String)) String CallRaised.isCaught
    (parts.query.mapM encodePair) fun query =>
      .ok (if query.isEmpty then join baseUrl parts.path
        else join baseUrl parts.path ++ "?" ++ urlencode query)
  rw [steps]
  refine bound.trans ?_
  simp only [encodes, uncaught_ok, and_false, exists_false, or_false]

/-- What passes the steps after the parameters. -/
theorem uncaught_afterParameters {baseUrl : String} {credential : Option Credential}
    {parts : RequestParts} :
    Uncaught CallRaised.isCaught (do
        let sent ← addRequestBody parts.headers binding.body arguments
        let url ← requestUrl baseUrl parts
        return { method := binding.method, url, headers := attachCredential sent.1 credential,
                 body := sent.2 } : Calling PreparedRequest) ↔
      ¬((∀ body ∈ binding.body, BodyEncodes arguments body) ∧
        ((∀ body ∈ binding.body, BodyPasses arguments body) →
          ∀ pair ∈ parts.query, pair.2.isEncodable = true)) := by
  have sent := @exists_addRequestBody_eq_ok arguments parts.headers binding.body
  simp only [uncaught_bind, uncaught_addRequestBody, uncaught_requestUrl, uncaught_pure, and_false,
    exists_false, or_false, ← sent]
  rw [not_and_or, Classical.not_imp, exists_and_right]

/-- Building lets an exception pass exactly when something that is reached cannot be encoded. -/
theorem uncaught_buildRequest {baseUrl : String} {credential : Option Credential} :
    Uncaught CallRaised.isCaught
        (buildRequest isPrintable binding baseUrl arguments credential) ↔
      ¬RequestEncodes isPrintable arguments binding := by
  have split : RequestEncodes isPrintable arguments binding ↔
      (∀ earlier param later, binding.parameters = earlier ++ param :: later →
        (∀ before ∈ earlier, before.Passes isPrintable arguments) →
          param.Encodes isPrintable arguments) ∧
      ((∀ param ∈ binding.parameters, param.Passes isPrintable arguments) →
        ∀ body ∈ binding.body, BodyEncodes arguments body) ∧
      ((∀ param ∈ binding.parameters, param.Passes isPrintable arguments) →
        (∀ body ∈ binding.body, BodyPasses arguments body) →
          ArgumentsEncodable isPrintable arguments binding.parameters) :=
    ⟨fun encodes => ⟨encodes.parameters, encodes.body, encodes.query⟩,
      fun ⟨parameters, body, query⟩ => ⟨parameters, body, query⟩⟩
  have passes (parts : RequestParts) (param : CalledParameter) :
      (∃ next, addCalled isPrintable arguments parts param = .ok next) ↔
        param.Passes isPrintable arguments := exists_addCalled_eq_ok
  have fails (parts : RequestParts) (param : CalledParameter) :
      Uncaught CallRaised.isCaught (addCalled isPrintable arguments parts param) ↔
        ¬param.Encodes isPrintable arguments := uncaught_addCalled
  rw [split, buildRequest, uncaught_bind, uncaught_foldlM_iff passes fails, not_and_or]
  apply or_congr
  · push Not
    rfl
  · have added := @exists_foldlM_eq_ok_iff CallRaised RequestParts CalledParameter
      (addCalled isPrintable arguments) (CalledParameter.Passes isPrintable arguments) passes
      binding.parameters { path := binding.path }
    have after (parts : RequestParts) :=
      @uncaught_afterParameters arguments binding baseUrl credential parts
    constructor
    · rintro ⟨parts, ran, raised⟩
      have allPass := added.mp ⟨parts, ran⟩
      have encodable := encodable_query ran
      rintro ⟨body, query⟩
      refine (after parts).mp raised ⟨body allPass, fun bodyPasses => ?_⟩
      exact encodable.mpr (query allPass bodyPasses)
    · intro unsafeRequest
      by_contra noneRaised
      apply unsafeRequest
      constructor
      · intro allPass
        rcases added.mpr allPass with ⟨parts, ran⟩
        by_contra bodyUnsafe
        exact noneRaised ⟨parts, ran, (after parts).mpr fun safe => bodyUnsafe safe.1⟩
      · intro allPass bodyPasses
        rcases added.mpr allPass with ⟨parts, ran⟩
        have encodable := encodable_query ran
        rw [← encodable]
        by_contra queryUnsafe
        exact noneRaised ⟨parts, ran, (after parts).mpr fun safe => queryUnsafe (safe.2 bodyPasses)⟩

end Request

end PyCall

end McpPortal
