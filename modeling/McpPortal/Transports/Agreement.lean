import McpPortal.Foundation.Unicode
import McpPortal.Transports.PyRequestAgreement

/-!
# The published schema and the request builder

Which arguments are required is computed twice: when the schema is synthesized and
when a request is built. Arguments that validate are turned into a request unless a
value is unusable where it goes, an integer has too many digits, or a flattened body
requires a name its properties do not declare.
-/

namespace McpPortal

open Foundation

/-- A validator that holds objects to the `required` keyword, and schemas to its syntax. -/
def HonoursRequired (validates : JsonObject → JsonObject → Bool) : Prop :=
  ∀ arguments schema, validates arguments schema = true →
    ∀ required, Dict.get? schema "required" = some required →
      ∃ names, required.strings? = some names ∧ ∀ name ∈ names, name ∈ Dict.keys arguments

/-- The two errors a well-formed call may still end in. -/
def CallRaised.rejectsValue : CallRaised → Bool
  | .interpreter (.raised (.emptyPathValue _)) => true
  | .interpreter (.raised (.headerInjection _)) => true
  | _ => false

/-- A request is returned, or refused for a value that cannot be placed. -/
def Agrees (result : PyCall.Calling PyCall.PreparedRequest) : Prop :=
  ∀ error, result = .error error → error.rejectsValue = true

section Conditions

variable (isPrintable : Char → Bool) (arguments : JsonObject)

/-- The argument of this name has a text, if it is given. -/
def Printable (name : String) : Prop :=
  ∀ value, Dict.get? arguments name = some value → value.hasLongInt = false

/-- The argument of a parameter has a text that is not empty in the path, and holds no line break in
a header. -/
def Usable (param : Parameter) : Prop :=
  ∀ value, Dict.get? arguments param.arg = some value →
    value.hasLongInt = false ∧
      (param.location = .path → value.text isPrintable ≠ "") ∧
      (param.location = .header → hasLineBreak (value.text isPrintable) = false)

/-- Every name a flattened body requires is one of its properties, which form a set, and what is given
for the properties has a text. -/
def RequiresDeclared (body : BodySpec) : Prop :=
  ∃ declared, (stringsOfSet body.declaredProperties : Build (List String)) = .ok declared ∧
    (∀ names, body.declaredRequired.iterate? = some names →
      ∀ name, Json.str name ∈ names → name ∈ declared) ∧
    ∀ field ∈ arguments, field.1 ∈ declared → field.2.hasLongInt = false

/-- What is reached can be made into a request. -/
structure Buildable (binding : HttpBinding) : Prop where
  parameters : ∀ earlier param later, binding.parameters = earlier ++ param :: later →
    (∀ before ∈ earlier, Usable isPrintable arguments before) → Printable arguments param.arg
  body : (∀ param ∈ binding.parameters, Usable isPrintable arguments param) →
    ∀ body ∈ binding.body,
      if body.isFlattened then RequiresDeclared arguments body else Printable arguments bodyArg

end Conditions

theorem agrees_iff {result : PyCall.Calling PyCall.PreparedRequest} :
    Agrees result ↔ ¬Uncaught CallRaised.rejectsValue result := by
  cases result with
  | ok request => simp [Agrees]
  | error error => simp [Agrees]

section Parameters

variable {isPrintable : Char → Bool} {arguments : JsonObject} {parts : PyCall.RequestParts}
  {param : Parameter}

theorem isEncodable_text (value : Json) :
    ((PyJson.ofJson value).text isPrintable).isEncodable = true := by
  rw [text_ofJson]
  exact isEncodable_codePoints _

/-- What the argument of a parameter raises is caught just when it is refused. -/
theorem rejectsValue_of_given {given : PyJsonObject} {value : PyJson} {error : CallRaised}
    (isGiven : Dict.get? given (codePoints param.arg) = some value)
    (failed : PyCall.addParameter isPrintable given parts param = .error error) :
    error.rejectsValue = error.isCaught := by
  have noText : ∀ {value : PyJson} {raised : CallRaised},
      PyCall.str isPrintable value = .error raised → raised.rejectsValue = raised.isCaught := by
    intro value raised failed
    unfold PyCall.str at failed
    split at failed
    · cases failed
      rfl
    · cases failed
  unfold PyCall.addParameter at failed
  rw [isGiven] at failed
  cases location : param.location with
  | path =>
      simp only [location, bind_eq_error, pure_ne_error, and_false, exists_false, or_false,
        PyCall.encodePathValue] at failed
      rcases failed with failed | ⟨text, _, failed⟩
      · exact noText failed
      · split at failed
        · cases failed
          rfl
        · rcases bind_eq_error.mp failed with failed | ⟨_, _, failed⟩
          · unfold PyCall.encode at failed
            split at failed
            · cases failed
            · cases failed
              rfl
          · cases failed
  | query =>
      simp only [location, bind_eq_error, pure_ne_error, and_false, exists_false, or_false] at failed
      unfold PyCall.queryPairs at failed
      split at failed
      · rcases bind_eq_error.mp failed with failed | ⟨_, _, failed⟩
        · rcases mapM_eq_error failed with ⟨item, _, failed⟩
          exact noText failed
        · split at failed <;> cases failed
      · cases failed
      · rcases bind_eq_error.mp failed with failed | ⟨_, _, failed⟩
        · exact noText failed
        · cases failed
  | header =>
      simp only [location, bind_eq_error, pure_ne_error, and_false, exists_false, or_false,
        PyCall.checkHeaderValue] at failed
      rcases failed with failed | ⟨text, _, failed⟩
      · exact noText failed
      · split at failed
        · cases failed
          rfl
        · cases failed

/-- A parameter raises what is not a refused value when it is missing, or has no text. -/
theorem uncaught_addParameter_iff :
    Uncaught CallRaised.rejectsValue
        (PyCall.addParameter isPrintable (ofJsonFields arguments) parts param) ↔
      (param.required = true ∧ param.arg ∉ Dict.keys arguments) ∨
        ¬Printable arguments param.arg := by
  rw [← Dict.get?_eq_none_iff]
  cases given : Dict.get? arguments param.arg with
  | none =>
      unfold PyCall.addParameter Printable
      rw [PyCall.get?_ofJsonFields, given]
      cases param.required <;> simp [CallRaised.rejectsValue]
  | some value =>
      have isGiven : Dict.get? (ofJsonFields arguments) (codePoints param.arg) =
          some (.ofJson value) := by
        rw [PyCall.get?_ofJsonFields, given]
        rfl
      rw [uncaught_congr fun _ failed => rejectsValue_of_given isGiven failed,
        PyCall.uncaught_addParameter, PyCall.Encodes, Printable, isGiven, given]
      simp only [Option.some.injEq, forall_eq', reduceCtorEq, and_false, false_or,
        hasLongInt_ofJson, isEncodable_text, implies_true, and_true]

theorem passes_iff_usable
    (given : param.required = true → param.arg ∈ Dict.keys arguments) :
    PyCall.Passes isPrintable (ofJsonFields arguments) param ↔
      Usable isPrintable arguments param := by
  unfold PyCall.Passes Usable
  rw [PyCall.get?_ofJsonFields]
  cases found : Dict.get? arguments param.arg with
  | none =>
      have optional : param.required = false := by
        apply Bool.eq_false_iff.mpr
        intro isRequired
        exact Dict.get?_eq_none_iff.mp found (given isRequired)
      simp [optional]
  | some value =>
      simp only [Option.map_some, hasLongInt_ofJson, text_ofJson, PyCall.hasLineBreak_codePoints,
        isEncodable_codePoints, ne_eq, PyCall.codePoints_eq_nil_iff, Option.some.injEq, forall_eq']
      cases param.location <;> simp

/-- The query of plain arguments can be encoded. -/
theorem encodable_plainQuery {binding : HttpBinding}
    (ran : binding.parameters.foldlM
      (PyCall.addParameter isPrintable (ofJsonFields arguments)) { path := binding.path } =
        .ok parts) :
    ∀ pair ∈ parts.query, pair.2.isEncodable = true := by
  rw [← PyCall.foldlM_addCalled_named] at ran
  rw [PyCall.encodable_query ran]
  intro param _ _ value given
  rw [PyCall.get?_ofJsonFields] at given
  rcases Option.map_eq_some_iff.mp given with ⟨plain, _, rfl⟩
  cases plain with
  | arr items =>
      intro item itemMem
      have textMem := List.mem_map_of_mem (f := PyJson.text isPrintable) itemMem
      rw [PyCall.texts_ofJsonItems] at textMem
      rcases List.mem_map.mp textMem with ⟨text, _, isText⟩
      rw [← isText]
      exact isEncodable_codePoints text
  | _ => exact isEncodable_text _

end Parameters

section Body

variable {isPrintable : Char → Bool} {arguments : JsonObject} {body : BodySpec}

/-- No error of the body is one for an unusable value. -/
theorem buildBody_error {given : PyJsonObject} {error : CallRaised}
    (failed : PyCall.buildBody body given = .error error) : error.rejectsValue = false := by
  have noDump : ∀ {value : PyJson} {raised : CallRaised},
      PyCall.dumps value = .error raised → raised.rejectsValue = false := by
    intro value raised failed
    unfold PyCall.dumps at failed
    split at failed
    · cases failed
      rfl
    · cases failed
  unfold PyCall.buildBody at failed
  split at failed
  · simp only [bind_eq_error, mapError_eq_error] at failed
    rcases failed with ⟨raised, notSet, rfl⟩ | ⟨declared, _, later⟩
    · rw [PyCall.stringsOfSet_eq_error notSet]
      rfl
    · rcases later with ⟨raised, notIterable, rfl⟩ | ⟨names, _, unchecked | ⟨_, _, unwritten⟩⟩
      · rw [PyCall.iterate_eq_error notIterable]
        rfl
      · rcases forM_eq_error unchecked with ⟨name, _, failed⟩
        unfold PyCall.checkBodyName at failed
        split at failed
        · cases failed
          rfl
        · split at failed
          · split at failed
            · cases failed
              rfl
            · cases failed
          · split at failed
            · cases failed
              rfl
            · cases failed
              rfl
      · exact noDump unwritten
  · split at failed
    · cases failed
      rfl
    · exact noDump failed

/-- A flattened body whose required names are given is built when they are declared. -/
theorem bodyPasses_flattened_iff (flattened : body.isFlattened = true) {names : List Json}
    (listed : body.declaredRequired.iterate? = some names)
    (given : ∀ item ∈ names, ∃ name, item = .str name ∧ name ∈ Dict.keys arguments) :
    PyCall.BodyPasses (ofJsonFields arguments) body ↔ RequiresDeclared arguments body := by
  have iterated : iterate body.declaredRequired = (.ok names : Build (List Json)) := by
    simp [iterate, listed]
  have present : ∀ declared : List String, (∀ name ∈ names, PyCall.Present (ofJsonFields arguments)
      (PyCall.bodyFields declared (ofJsonFields arguments)) name) ↔
        ∀ name, Json.str name ∈ names → name ∈ declared := by
    intro declared
    simp only [PyCall.Present, PyCall.bodyFields_ofJsonFields, PyCall.mem_keys_ofJsonFields]
    constructor
    · intro everyName name nameMem
      rcases everyName _ nameMem with ⟨_, isName, _, isField⟩
      cases isName
      rcases List.mem_map.mp isField with ⟨field, fieldMem, rfl⟩
      simpa using (List.mem_filter.mp fieldMem).2
    · intro isDeclared item itemMem
      rcases given item itemMem with ⟨name, rfl, isGiven⟩
      refine ⟨name, rfl, isGiven, ?_⟩
      rcases List.mem_map.mp isGiven with ⟨field, fieldMem, rfl⟩
      exact List.mem_map_of_mem
        (List.mem_filter.mpr ⟨fieldMem, decide_eq_true (isDeclared _ itemMem)⟩)
  have printable : ∀ declared : List String,
      anyLongField (PyCall.bodyFields declared (ofJsonFields arguments)) = false ↔
        ∀ field ∈ arguments, field.1 ∈ declared → field.2.hasLongInt = false := by
    intro declared
    simp only [PyCall.bodyFields_ofJsonFields, PyCall.anyLongField_ofJsonFields, List.mem_filter,
      decide_eq_true_eq, and_imp, hasLongInt_ofJson]
  unfold PyCall.BodyPasses RequiresDeclared
  rw [if_pos flattened]
  simp only [printable, listed, Option.some.injEq, forall_eq']
  constructor
  · rintro ⟨declared, required, own, isPresent, short⟩
    cases iterated.symm.trans own.required
    exact ⟨declared, own.declared, (present declared).mp isPresent, short⟩
  · rintro ⟨declared, isSet, isDeclared, short⟩
    exact ⟨declared, names, ⟨isSet, iterated⟩, (present declared).mpr isDeclared, short⟩

theorem bodyPasses_single_iff (single : body.isFlattened = false)
    (given : bodyArg ∈ Dict.keys arguments) :
    PyCall.BodyPasses (ofJsonFields arguments) body ↔ Printable arguments bodyArg := by
  rcases Option.isSome_iff_exists.mp (Dict.get?_isSome_iff.mpr given) with ⟨value, found⟩
  unfold PyCall.BodyPasses Printable
  rw [PyCall.get?_ofJsonFields, found, if_neg (by simp [single])]
  simp only [Option.map_some, Option.some.injEq, exists_eq_left', forall_eq', hasLongInt_ofJson]

end Body

section Agree

variable {validates : JsonObject → JsonObject → Bool} {binding resolved : HttpBinding}
  {schema arguments : JsonObject}

/-- Arguments that validate include every name the schema was built to require. -/
theorem required_given (honours : HonoursRequired validates)
    (valid : validates arguments schema = true) {required : List Json}
    (published : required ≠ [] → Dict.get? schema "required" = some (.arr required)) :
    ∀ item ∈ required, ∃ name, item = .str name ∧ name ∈ Dict.keys arguments := by
  intro item itemMem
  have listed := published (List.ne_nil_of_mem itemMem)
  rcases honours arguments schema valid _ listed with ⟨names, strings, given⟩
  rw [Json.mapM_string?_eq_some strings] at itemMem
  rcases List.mem_map.mp itemMem with ⟨name, nameMem, rfl⟩
  exact ⟨name, rfl, given name nameMem⟩

theorem parameter_required {properties added : JsonObject} {before required : List Json}
    {body : Option BodySpec} (ran : addBody properties before body = .ok (added, required)) :
    ∀ item ∈ before, item ∈ required := by
  intro item itemMem
  cases body with
  | none =>
      cases ran
      exact itemMem
  | some body =>
      rcases addBody_ok ran with ⟨_, rfl⟩ | ⟨_, names, _, rfl⟩
      · exact List.mem_append_left _ itemMem
      · exact List.mem_append_left _ itemMem

/-- The body of a binding is built when it is printable, or declares what it requires. -/
theorem bodyPasses_iff {properties added : JsonObject} {before required : List Json}
    {body : BodySpec} (ran : addBody properties before (some body) = .ok (added, required))
    (given : ∀ item ∈ required, ∃ name, item = .str name ∧ name ∈ Dict.keys arguments) :
    PyCall.BodyPasses (ofJsonFields arguments) body ↔
      if body.isFlattened then RequiresDeclared arguments body
      else Printable arguments bodyArg := by
  rcases addBody_ok ran with ⟨single, rfl⟩ | ⟨flattened, names, listed, rfl⟩
  · rcases given (.str bodyArg) (List.mem_append_right _ (List.mem_singleton_self _)) with
      ⟨_, isName, bodyGiven⟩
    cases isName
    rw [bodyPasses_single_iff single bodyGiven, if_neg (by simp [single])]
  · rw [if_pos flattened]
    apply bodyPasses_flattened_iff flattened listed
    intro item itemMem
    exact given item (List.mem_append_right _ itemMem)

theorem exists_requestUrl {baseUrl : String} {parts : PyCall.RequestParts}
    (encodable : ∀ pair ∈ parts.query, pair.2.isEncodable = true) :
    ∃ url, PyCall.requestUrl baseUrl parts = .ok url := by
  have encodes : ∃ query, parts.query.mapM PyCall.encodePair = .ok query :=
    exists_mapM_eq_ok_iff.mpr fun pair pairMem =>
      PyCall.exists_encodePair_eq_ok.mpr (encodable pair pairMem)
  rcases encodes with ⟨query, encodes⟩
  have steps : PyCall.requestUrl baseUrl parts = (parts.query.mapM PyCall.encodePair).bind
      fun query => if query.isEmpty then .ok (join baseUrl parts.path)
        else .ok (join baseUrl parts.path ++ "?" ++ urlencode query) := rfl
  rw [steps, encodes]
  cases query with
  | nil => exact ⟨_, rfl⟩
  | cons pair rest => exact ⟨_, rfl⟩

/-- Once the parameters are placed, only building the body can fail. -/
theorem uncaught_afterParameters_iff {baseUrl : String} {credential : Option Credential}
    {parts : PyCall.RequestParts} {given : PyJsonObject}
    (encodable : ∀ pair ∈ parts.query, pair.2.isEncodable = true) :
    Uncaught CallRaised.rejectsValue (do
        let sent ← PyCall.addRequestBody parts.headers resolved.body given
        let url ← PyCall.requestUrl baseUrl parts
        return { method := resolved.method, url,
                 headers := PyCall.attachCredential sent.1 credential,
                 body := sent.2 } : PyCall.Calling PyCall.PreparedRequest) ↔
      ¬∀ body ∈ resolved.body, PyCall.BodyPasses given body := by
  rcases @exists_requestUrl baseUrl parts encodable with ⟨url, isUrl⟩
  simp only [isUrl, uncaught_bind, uncaught_ok, uncaught_pure, and_false, exists_false, or_false]
  cases resolved.body with
  | none => simp [PyCall.addRequestBody]
  | some body =>
      simp only [PyCall.addRequestBody, uncaught_bind, uncaught_pure, and_false, exists_false,
        or_false, Option.mem_def, Option.some.injEq, forall_eq', ← PyCall.exists_buildBody_eq_ok]
      exact uncaught_iff_of_none_caught fun _ => buildBody_error

/--
For arguments that validate, the builder returns a request or refuses an unusable value, just when
no value of too many digits is reached before such a refusal, and a flattened body that is reached
requires only names that its properties declare.
-/
theorem buildRequest_agrees_iff {isPrintable : Char → Bool} (honours : HonoursRequired validates)
    (resolves : resolveArgNames binding = .ok resolved)
    (synthesized : buildInputSchema binding = .ok schema)
    (valid : validates arguments schema = true) (baseUrl : String)
    (credential : Option Credential) :
    Agrees (PyCall.buildRequest isPrintable (.ofBinding resolved) baseUrl (ofJsonFields arguments)
        credential) ↔
      Buildable isPrintable arguments resolved := by
  rcases buildInputSchema_ok resolves synthesized with ⟨properties, required, added, published⟩
  have given := required_given honours valid published
  have parametersGiven : ∀ param ∈ resolved.parameters, param.required = true →
      param.arg ∈ Dict.keys arguments := by
    intro param paramMem isRequired
    have listed : Json.str param.arg ∈ required := by
      apply parameter_required added
      exact List.mem_map_of_mem (List.mem_filter.mpr ⟨paramMem, isRequired⟩)
    rcases given _ listed with ⟨name, isString, present⟩
    cases isString
    exact present
  have usable : ∀ param ∈ resolved.parameters,
      PyCall.Passes isPrintable (ofJsonFields arguments) param ↔
        Usable isPrintable arguments param :=
    fun param paramMem => passes_iff_usable (parametersGiven param paramMem)
  have bodies : (∀ body ∈ resolved.body, PyCall.BodyPasses (ofJsonFields arguments) body) ↔
      ∀ body ∈ resolved.body, if body.isFlattened then RequiresDeclared arguments body
        else Printable arguments bodyArg := by
    cases isBody : resolved.body with
    | none => simp
    | some body =>
        rw [isBody] at added
        simp only [Option.mem_def, Option.some.injEq, forall_eq', bodyPasses_iff added given]
  have passes (parts : PyCall.RequestParts) (param : Parameter) :
      (∃ next, PyCall.addParameter isPrintable (ofJsonFields arguments) parts param = .ok next) ↔
        PyCall.Passes isPrintable (ofJsonFields arguments) param := PyCall.exists_addParameter_eq_ok
  have fails (parts : PyCall.RequestParts) (param : Parameter) :
      Uncaught CallRaised.rejectsValue
          (PyCall.addParameter isPrintable (ofJsonFields arguments) parts param) ↔
        (param.required = true ∧ param.arg ∉ Dict.keys arguments) ∨
          ¬Printable arguments param.arg := uncaught_addParameter_iff
  rw [agrees_iff, PyCall.buildRequest, PyCall.CalledHttp.ofBinding, PyCall.foldlM_addCalled_named,
    uncaught_bind, uncaught_foldlM_iff passes fails, not_or]
  constructor
  · rintro ⟨parameters, after⟩
    constructor
    · intro earlier param later split before
      by_contra long
      refine parameters ⟨earlier, param, later, split, ?_, Or.inr long⟩
      intro other otherMem
      exact (usable other (split ▸ List.mem_append_left _ otherMem)).mpr (before other otherMem)
    · intro allUsable
      rw [← bodies]
      by_contra unbuilt
      have placed : ∃ parts, resolved.parameters.foldlM (PyCall.addParameter isPrintable
          (ofJsonFields arguments)) { path := resolved.path } = .ok parts :=
        (exists_foldlM_eq_ok_iff passes).mpr fun param paramMem =>
          (usable param paramMem).mpr (allUsable param paramMem)
      rcases placed with ⟨parts, placed⟩
      exact after ⟨parts, placed,
        (uncaught_afterParameters_iff (encodable_plainQuery placed)).mpr unbuilt⟩
  · intro buildable
    constructor
    · rintro ⟨earlier, param, later, split, before, missing | long⟩
      · have paramMem : param ∈ resolved.parameters := by simp [split]
        exact missing.2 (parametersGiven param paramMem missing.1)
      · apply long
        apply buildable.parameters earlier param later split
        intro other otherMem
        exact (usable other (split ▸ List.mem_append_left _ otherMem)).mp (before other otherMem)
    · rintro ⟨parts, placed, failed⟩
      refine (uncaught_afterParameters_iff (encodable_plainQuery placed)).mp failed ?_
      rw [bodies]
      apply buildable.body
      intro param paramMem
      exact (usable param paramMem).mp
        ((exists_foldlM_eq_ok_iff passes).mp ⟨parts, placed⟩ param paramMem)

end Agree

section Refund

/-- Only the `required` keyword: every name it lists is a string and is given. -/
def requiredOnly (arguments schema : JsonObject) : Bool :=
  match Dict.get? schema "required" with
  | none => true
  | some required =>
      match required.strings? with
      | none => false
      | some names => names.all fun name => decide (name ∈ Dict.keys arguments)

theorem honoursRequired_requiredOnly : HonoursRequired requiredOnly := by
  intro arguments schema valid required listed
  simp only [requiredOnly, listed] at valid
  cases strings : required.strings? with
  | none => simp [strings] at valid
  | some names =>
      refine ⟨names, rfl, fun name nameMem => ?_⟩
      simp only [strings, List.all_eq_true, decide_eq_true_eq] at valid
      exact valid name nameMem

private def refundBinding (properties : JsonObject) : HttpBinding where
  method := "POST"
  path := "/refund"
  body := some
    { contentType := "application/json"
      schema :=
        [ ("type", .str "object"), ("properties", .obj properties),
          ("required", .arr [.str "amount"]) ] }

/-- The required amount is given, but the properties do not declare it. -/
theorem buildRequest_rejects_refund :
    let binding := refundBinding []
    let arguments : JsonObject := [("amount", .int 5)]
    HonoursRequired requiredOnly ∧ checkPathTemplate binding = .ok () ∧
      resolveArgNames binding = .ok binding ∧
      ∃ schema, buildInputSchema binding = .ok schema ∧ requiredOnly arguments schema = true ∧
        PyCall.buildRequest asciiTables.isPrintable (.ofBinding binding) "https://bank.test"
          (ofJsonFields arguments) none =
            .error (.interpreter (.raised (.missingArgument (.str "amount")))) :=
  ⟨honoursRequired_requiredOnly, rfl, rfl, _, rfl, by decide, rfl⟩

/-- A declared amount is accepted. -/
theorem buildRequest_agrees_iff_refund :
    Agrees (PyCall.buildRequest asciiTables.isPrintable
      (.ofBinding (refundBinding [("amount", .obj [])])) "https://bank.test" (ofJsonFields [("amount", .int 5)]) none) := by
  apply (buildRequest_agrees_iff honoursRequired_requiredOnly
    (rfl : resolveArgNames (refundBinding [("amount", .obj [])]) = _) rfl (by decide) _ _).mpr
  constructor
  · intro earlier param later split
    cases earlier <;> cases split
  · intro _ body isBody
    cases isBody
    refine ⟨["amount"], rfl, ?_, ?_⟩
    · intro names listed name nameMem
      cases listed
      simpa using nameMem
    · intro field fieldMem _
      cases List.mem_singleton.mp fieldMem
      exact Json.hasLongInt_digit (by decide)

end Refund

end McpPortal
