import McpPortal.Sources.FlattenFailures
import McpPortal.Sources.ReadFailures

/-!
# One bad operation object

Most of what can be wrong with an operation object costs that operation alone. The shapes
listed here raise where nothing catches, and end the load of the whole document.
-/

namespace McpPortal

namespace Unchecked

open Foundation

section Record

variable (unicode : PyUnicode) (credentialHeaders : List String) (raw : RawOperation)

/-- The record gets past its headers. -/
structure PassesHeaders : Prop where
  included : raw.flag "x-mcp-exclude" = false
  allowed : ∀ param ∈ (raw.binding unicode).parameters,
    AllowedHeader unicode credentialHeaders param

/-- The record gets to its body. -/
structure ReachesBody : Prop extends PassesHeaders unicode credentialHeaders raw where
  named : TemplateNamed (raw.binding unicode)
  placed : unplacedParameters (raw.binding unicode) = []
  supported : SupportedBody (raw.binding unicode).body

/-- The names of a record whose body can be read, and the parameters' published names. -/
structure ReachesNames (names : List DictKey) : Prop
    extends ReachesBody unicode credentialHeaders raw where
  read : bodyNames (raw.binding unicode).body = .ok names
  printable : ¬ClashUnprintable (raw.binding unicode).parameters names
  apart : (argKeys unicode.isPrintable (raw.binding unicode).parameters names).Nodup

/-- The names of the record are all distinct. -/
structure ReachesSchemas (names : List DictKey) : Prop
    extends ReachesNames unicode credentialHeaders raw names where
  sortable : HashKey.sortable (names.map (·.key)) = true
  distinct : (argKeys unicode.isPrintable (raw.binding unicode).parameters names ++
    names.map (·.key)).Nodup

/-- A record that gets past its headers ends the load while it is flattened, in the order in which
the pipeline meets what is wrong. -/
inductive EndsFlattening : Prop
  | declaredName (passes : PassesHeaders unicode credentialHeaders raw)
      (once : (pathPlaceholders (raw.binding unicode).path).Nodup)
      (reports : DeclaresLongName (pathParameters (raw.binding unicode).parameters))
  | unplacedNames (passes : PassesHeaders unicode credentialHeaders raw)
      (named : TemplateNamed (raw.binding unicode))
      (unprintable : UnplacedUnprintable (raw.binding unicode))
  | contentType (passes : PassesHeaders unicode credentialHeaders raw)
      (named : TemplateNamed (raw.binding unicode))
      (placed : unplacedParameters (raw.binding unicode) = [])
      (long : ContentTypeUnprintable (raw.binding unicode).body)
  | bodySchema (reaches : ReachesBody unicode credentialHeaders raw) (body : BodySpec)
      (isBody : (raw.binding unicode).body = some body) (unreadable : BodyUnreadable body)
  | clashingName (names : List DictKey) (reaches : ReachesBody unicode credentialHeaders raw)
      (read : bodyNames (raw.binding unicode).body = .ok names)
      (long : ClashUnprintable (raw.binding unicode).parameters names)
  | bodyNames (names : List DictKey) (reaches : ReachesNames unicode credentialHeaders raw names)
      (mixed : HashKey.sortable (names.map (·.key)) = false)
  | parameterSchema (names : List DictKey)
      (reaches : ReachesSchemas unicode credentialHeaders raw names)
      (unreadable : SchemaUnreadable (raw.binding unicode).parameters)
  | requiredNames (names : List DictKey)
      (reaches : ReachesSchemas unicode credentialHeaders raw names) (body : BodySpec)
      (isBody : (raw.binding unicode).body = some body) (unlistable : RequiredUnlistable body)

/-- A description, a title or a name is chosen that has too many digits. -/
def TextUnprintable : Prop :=
  (raw.describedBy unicode).hasLongInt = true ∨
    (raw.titledBy unicode ((raw.describedBy unicode).text unicode.isPrintable)).hasLongInt = true ∨
    raw.namedBy.hasLongInt = true

/-- The records that end a load. -/
inductive EndsLoad : Prop
  | headerName (included : raw.flag "x-mcp-exclude" = false)
      (fails : HeaderFails unicode credentialHeaders (raw.binding unicode).parameters)
  | flattening (ends : EndsFlattening unicode credentialHeaders raw)
  | text (names : List DictKey) (reaches : ReachesSchemas unicode credentialHeaders raw names)
      (copied : ¬SchemaUnreadable (raw.binding unicode).parameters)
      (listed : ∀ body, (raw.binding unicode).body = some body → ¬RequiredUnlistable body)
      (long : TextUnprintable unicode raw)

end Record

section Build

variable {unicode : PyUnicode} {credentialHeaders : List String} {raw : RawOperation}

theorem ReachesSchemas.resolves {names : List DictKey}
    (reaches : ReachesSchemas unicode credentialHeaders raw names) :
    resolveArgNames unicode.isPrintable (raw.binding unicode) = .ok {
      raw.binding unicode with
      parameters := renamedParameters unicode.isPrintable (raw.binding unicode).parameters names } :=
  resolveArgNames_eq_ok_iff.mpr ⟨reaches.supported, names, reaches.read, reaches.printable,
    reaches.sortable, reaches.distinct, rfl⟩

theorem reachesSchemas_of_resolves (passes : PassesHeaders unicode credentialHeaders raw)
    (named : TemplateNamed (raw.binding unicode))
    (placed : unplacedParameters (raw.binding unicode) = []) {resolved : HttpBinding}
    (resolves : resolveArgNames unicode.isPrintable (raw.binding unicode) = .ok resolved) :
    ∃ names, ReachesSchemas unicode credentialHeaders raw names := by
  rcases resolveArgNames_eq_ok_iff.mp resolves with
    ⟨supported, names, read, printable, sortable, distinct, _⟩
  exact ⟨names, ⟨⟨⟨passes, named, placed, supported⟩, read, printable,
    (List.nodup_append.mp distinct).1⟩, sortable, distinct⟩⟩

/-- Flattening a record whose headers are allowed. -/
theorem uncaught_flattenBinding_iff (passes : PassesHeaders unicode credentialHeaders raw) :
    Uncaught isFlattenError (flattenBinding unicode.isPrintable (raw.binding unicode)) ↔
      EndsFlattening unicode credentialHeaders raw := by
  simp only [flattenBinding, uncaught_bind, uncaught_checkPathTemplate_iff,
    checkPathTemplate_eq_ok_iff, exists_const, uncaught_resolveArgNames_iff, uncaught_pure,
    and_false, exists_false, or_false]
  constructor
  · rintro ((⟨once, reports⟩ | ⟨named, unprintable⟩) | ⟨⟨named, placed⟩, later⟩)
    · exact .declaredName passes once reports
    · exact .unplacedNames passes named unprintable
    · rcases later with (long | ⟨supported, wrong⟩) | ⟨resolved, resolves, unbuilt⟩
      · exact .contentType passes named placed long
      · have reaches : ReachesBody unicode credentialHeaders raw :=
          ⟨passes, named, placed, supported⟩
        rcases wrong with ⟨body, isBody, unreadable⟩ | ⟨names, read, long | ⟨printable, apart, mixed⟩⟩
        · exact .bodySchema reaches body isBody unreadable
        · exact .clashingName names reaches read long
        · exact .bodyNames names ⟨reaches, read, printable, apart⟩ mixed
      · rcases reachesSchemas_of_resolves passes named placed resolves with ⟨names, reaches⟩
        rcases (uncaught_buildInputSchema_iff resolves).mp unbuilt with
          unreadable | ⟨body, isBody, unlistable⟩
        · exact .parameterSchema names reaches unreadable
        · exact .requiredNames names reaches body isBody unlistable
  · intro ends
    cases ends with
    | declaredName _ once reports => exact Or.inl (Or.inl ⟨once, reports⟩)
    | unplacedNames _ named unprintable => exact Or.inl (Or.inr ⟨named, unprintable⟩)
    | contentType _ named placed long => exact Or.inr ⟨⟨named, placed⟩, Or.inl (Or.inl long)⟩
    | bodySchema reaches body isBody unreadable =>
        exact Or.inr ⟨⟨reaches.named, reaches.placed⟩,
          Or.inl (Or.inr ⟨reaches.supported, Or.inl ⟨body, isBody, unreadable⟩⟩)⟩
    | clashingName names reaches read long =>
        exact Or.inr ⟨⟨reaches.named, reaches.placed⟩,
          Or.inl (Or.inr ⟨reaches.supported, Or.inr ⟨names, read, Or.inl long⟩⟩)⟩
    | bodyNames names reaches mixed =>
        exact Or.inr ⟨⟨reaches.named, reaches.placed⟩,
          Or.inl (Or.inr ⟨reaches.supported, Or.inr ⟨names, reaches.read,
            Or.inr ⟨reaches.printable, reaches.apart, mixed⟩⟩⟩)⟩
    | parameterSchema names reaches unreadable =>
        have resolves := reaches.resolves
        exact Or.inr ⟨⟨reaches.named, reaches.placed⟩, Or.inr ⟨_, resolves,
          (uncaught_buildInputSchema_iff resolves).mpr (Or.inl unreadable)⟩⟩
    | requiredNames names reaches body isBody unlistable =>
        have resolves := reaches.resolves
        exact Or.inr ⟨⟨reaches.named, reaches.placed⟩, Or.inr ⟨_, resolves,
          (uncaught_buildInputSchema_iff resolves).mpr (Or.inr ⟨body, isBody, unlistable⟩)⟩⟩

/-- A record that gets past its headers is flattened when its names are all distinct, unless it
ends the load. -/
theorem flattens_iff (passes : PassesHeaders unicode credentialHeaders raw) :
    (∃ flattened, flattenBinding unicode.isPrintable (raw.binding unicode) = .ok flattened) ↔
      (∃ names, ReachesSchemas unicode credentialHeaders raw names) ∧
        ¬EndsFlattening unicode credentialHeaders raw := by
  rw [← uncaught_flattenBinding_iff passes]
  cases ran : flattenBinding unicode.isPrintable (raw.binding unicode) with
  | ok flattened =>
      simp only [Except.ok.injEq, exists_eq', uncaught_ok, not_false_eq_true, and_true, true_iff]
      simp only [flattenBinding, bind_eq_ok, checkPathTemplate_eq_ok_iff] at ran
      rcases ran with ⟨_, ⟨named, placed⟩, resolved, resolves, _⟩
      exact reachesSchemas_of_resolves passes named placed resolves
  | error error =>
      simp only [reduceCtorEq, exists_false, uncaught_error, false_iff, not_and, not_not]
      rintro ⟨names, reaches⟩
      have matched : checkPathTemplate (raw.binding unicode) = .ok () :=
        checkPathTemplate_eq_ok_iff.mpr ⟨reaches.named, reaches.placed⟩
      simp only [flattenBinding, matched, reaches.resolves, bind_eq_error, reduceCtorEq, false_or,
        Except.ok.injEq, exists_eq_left', exists_const, true_and, pure_ne_error, and_false,
        exists_false, or_false] at ran
      exact buildInputSchema_eq_error reaches.resolves ran

/-- A name in the wrong place, or one that is not found where the schemas begin. -/
theorem EndsFlattening.unreadable_or_unlistable {names : List DictKey}
    (ends : EndsFlattening unicode credentialHeaders raw)
    (reaches : ReachesSchemas unicode credentialHeaders raw names) :
    SchemaUnreadable (raw.binding unicode).parameters ∨
      ∃ body, (raw.binding unicode).body = some body ∧ RequiredUnlistable body := by
  have passes := (uncaught_flattenBinding_iff reaches.toPassesHeaders).mpr ends
  have matched : checkPathTemplate (raw.binding unicode) = .ok () :=
    checkPathTemplate_eq_ok_iff.mpr ⟨reaches.named, reaches.placed⟩
  rw [← uncaught_buildInputSchema_iff reaches.resolves]
  simpa [flattenBinding, matched, reaches.resolves, uncaught_bind] using passes

theorem EndsFlattening.passes (ends : EndsFlattening unicode credentialHeaders raw) :
    PassesHeaders unicode credentialHeaders raw := by
  cases ends with
  | declaredName passes _ _ => exact passes
  | unplacedNames passes _ _ => exact passes
  | contentType passes _ _ _ => exact passes
  | bodySchema reaches _ _ _ => exact reaches.toPassesHeaders
  | clashingName _ reaches _ _ => exact reaches.toPassesHeaders
  | bodyNames _ reaches _ => exact reaches.toPassesHeaders
  | parameterSchema _ reaches _ => exact reaches.toPassesHeaders
  | requiredNames _ reaches _ _ _ => exact reaches.toPassesHeaders

/-- A record that ends the load does so over its headers, or gets past them. -/
theorem EndsLoad.fails_or_passes (ends : EndsLoad unicode credentialHeaders raw) :
    HeaderFails unicode credentialHeaders (raw.binding unicode).parameters ∨
      PassesHeaders unicode credentialHeaders raw := by
  cases ends with
  | headerName _ fails => exact Or.inl fails
  | flattening ends => exact Or.inr ends.passes
  | text _ reaches _ _ _ => exact Or.inr reaches.toPassesHeaders

theorem EndsLoad.included (ends : EndsLoad unicode credentialHeaders raw) :
    raw.flag "x-mcp-exclude" = false := by
  cases ends with
  | headerName included _ => exact included
  | flattening ends => exact ends.passes.included
  | text _ reaches _ _ _ => exact reaches.included

theorem exists_effectForMethod {method : String} (exposed : isExposed unicode method = true) :
    ∃ effect, effectForMethod unicode (unicode.upper method) = .ok effect := by
  have listed : unicode.upper (unicode.upper method) ∈ Dict.keys methodEffect := by
    rw [unicode.upperIdem]
    exact of_decide_eq_true exposed
  rcases Option.isSome_iff_exists.mp (Dict.get?_isSome_iff.mpr listed) with ⟨effect, found⟩
  exact ⟨effect, by rw [effectForMethod, found]⟩

theorem exists_operation_iff {upstreamKey : String} {effect : Effect}
    {flattened : HttpBinding × InputSchema} :
    (∃ operation, raw.operation unicode upstreamKey effect flattened = .ok operation) ↔
      ¬TextUnprintable unicode raw := by
  simp only [RawOperation.operation, RawOperation.nameOverride, bind_eq_ok, strOf_eq_ok, pure_eq_ok,
    TextUnprintable, not_or, Bool.not_eq_true]
  constructor
  · rintro ⟨_, _, ⟨described, rfl⟩, _, ⟨titled, _⟩, _, ⟨_, ⟨named, _⟩, _⟩, _⟩
    exact ⟨described, titled, named⟩
  · rintro ⟨described, titled, named⟩
    exact ⟨_, _, ⟨described, rfl⟩, _, ⟨titled, rfl⟩, _, ⟨_, ⟨named, rfl⟩, rfl⟩, rfl⟩

theorem operation_eq_ok {upstreamKey : String} {effect : Effect}
    {flattened : HttpBinding × InputSchema} {operation : Operation}
    (made : raw.operation unicode upstreamKey effect flattened = .ok operation) :
    operation.id = raw.id unicode ∧ operation.upstream = upstreamKey ∧
      operation.effect = effect ∧ operation.binding = flattened.1 := by
  simp only [RawOperation.operation, bind_eq_ok, pure_eq_ok] at made
  rcases made with ⟨_, _, _, _, _, _, rfl⟩
  exact ⟨rfl, rfl, rfl, rfl⟩

/-- A record that gets past its headers ends the load over its flattening, or its texts once it is
flattened. -/
theorem endsLoad_iff (passes : PassesHeaders unicode credentialHeaders raw) :
    EndsLoad unicode credentialHeaders raw ↔
      EndsFlattening unicode credentialHeaders raw ∨
        (∃ flattened, flattenBinding unicode.isPrintable (raw.binding unicode) = .ok flattened) ∧
          TextUnprintable unicode raw := by
  rw [flattens_iff passes]
  constructor
  · intro ends
    cases ends with
    | headerName _ fails => exact absurd fails (not_headerFails_of_allowed passes.allowed)
    | flattening ends => exact Or.inl ends
    | text names reaches copied listed long =>
        refine Or.inr ⟨⟨⟨names, reaches⟩, ?_⟩, long⟩
        intro ends
        rcases ends.unreadable_or_unlistable reaches with unreadable | ⟨body, isBody, unlistable⟩
        · exact copied unreadable
        · exact listed body isBody unlistable
  · rintro (ends | ⟨⟨⟨names, reaches⟩, flattens⟩, long⟩)
    · exact .flattening ends
    · refine .text names reaches ?_ ?_ long
      · intro unreadable
        exact flattens (.parameterSchema names reaches unreadable)
      · intro body isBody unlistable
        exact flattens (.requiredNames names reaches body isBody unlistable)

/-- A record of an exposed method is built, or dropped, unless it ends the load. -/
theorem exists_build_iff {upstreamKey : String} (exposed : isExposed unicode raw.method = true) :
    (∃ built, build unicode upstreamKey credentialHeaders raw = .ok built) ↔
      ¬EndsLoad unicode credentialHeaders raw := by
  unfold build
  cases excluded : raw.flag "x-mcp-exclude" with
  | true =>
      simp only [if_true, pure_eq_ok, exists_eq', true_iff]
      intro ends
      cases excluded.symm.trans ends.included
  | false =>
      simp only [Bool.false_eq_true, if_false]
      cases looked : namesDenylisted unicode credentialHeaders (raw.binding unicode).parameters with
      | error error =>
          have fails : HeaderFails unicode credentialHeaders (raw.binding unicode).parameters := by
            rw [← uncaught_namesDenylisted_iff, looked, namesDenylisted_eq_error looked]
            rfl
          simp [bind, Except.bind, EndsLoad.headerName excluded fails]
      | ok denylisted =>
          have notFails : ¬HeaderFails unicode credentialHeaders (raw.binding unicode).parameters := by
            rw [← uncaught_namesDenylisted_iff, looked]
            exact not_false
          cases denylisted with
          | true =>
              simp only [bind, Except.bind, if_true, pure_eq_ok, exists_eq', true_iff]
              intro ends
              rcases ends.fails_or_passes with fails | passes
              · exact notFails fails
              · cases looked.symm.trans (namesDenylisted_eq_false_iff.mpr passes.allowed)
          | false =>
              have passes : PassesHeaders unicode credentialHeaders raw :=
                ⟨excluded, namesDenylisted_eq_false_iff.mp looked⟩
              rcases exists_effectForMethod exposed with ⟨effect, hasEffect⟩
              have isMethod : (raw.binding unicode).method = unicode.upper raw.method := rfl
              rw [isMethod, hasEffect, endsLoad_iff passes, ← uncaught_flattenBinding_iff passes]
              cases ran : flattenBinding unicode.isPrintable (raw.binding unicode) with
              | ok flattened =>
                  simp only [uncaught_ok, false_or, Except.ok.injEq, exists_eq', true_and]
                  rw [← @exists_operation_iff unicode raw upstreamKey effect flattened]
                  constructor
                  · rintro ⟨built, ran⟩
                    rcases map_eq_ok.mp ran with ⟨operation, made, _⟩
                    exact ⟨operation, made⟩
                  · rintro ⟨operation, made⟩
                    exact ⟨_, map_eq_ok.mpr ⟨operation, made, rfl⟩⟩
              | error error =>
                  cases isCaught : isFlattenError error <;>
                    simp [isCaught, orSkip, bind, Except.bind]

end Build

section Document

variable (unicode : PyUnicode) (credentialHeaders : List String) (includeDeprecated : Bool)

/-- The operation objects that end the load. -/
inductive EndsLoadAt (place : Place) : Prop
  | contentIndex (fails : IndexFails includeDeprecated place)
  | record (op : JsonObject) (parameters : List RawParameter) (body : Option RequestBody)
      (isObject : place.op = .obj op) (kept : leftOut includeDeprecated op = false)
      (merged : (mergedParameters place.pathParams (listField op "parameters") :
        Except (PyException PathsError) (List RawParameter)) = .ok parameters)
      (bodyRead : (requestBody op :
        Except (PyException PathsError) (Option RequestBody)) = .ok body)
      (ends : EndsLoad unicode credentialHeaders (recordOf place op parameters body))

/-- What stands at a place comes to, over both passes. -/
def YieldsAt (upstreamKey : String) : Place → Option Located → Prop :=
  ComesTo (fun place => (extractAt includeDeprecated place :
      Except (PyException PathsError) (Option RawOperation)))
    fun raw => ((build unicode upstreamKey credentialHeaders raw).map (locate raw)).mapError
      (PyException.map LoadError.flatten)

variable {unicode credentialHeaders includeDeprecated} {upstreamKey : String}

theorem rawOperation_eq_some_iff {place : Place} {raw : RawOperation} :
    (rawOperation includeDeprecated place :
        Except (PyException PathsError) (Option RawOperation)) = .ok (some raw) ↔
      ∃ op parameters body, place.op = .obj op ∧ leftOut includeDeprecated op = false ∧
        (mergedParameters place.pathParams (listField op "parameters") :
          Except (PyException PathsError) (List RawParameter)) = .ok parameters ∧
        (requestBody op : Except (PyException PathsError) (Option RequestBody)) = .ok body ∧
        raw = recordOf place op parameters body := by
  unfold rawOperation
  cases isObject : place.op with
  | obj op =>
      cases kept : leftOut includeDeprecated op with
      | true =>
          simp only [kept, if_true, pure_eq_ok, reduceCtorEq, false_iff]
          rintro ⟨_, _, _, same, reached, _⟩
          cases same
          cases kept.symm.trans reached
      | false =>
          simp only [kept, Bool.false_eq_true, if_false, bind_eq_ok, pure_eq_ok, Option.some.injEq]
          constructor
          · rintro ⟨parameters, merged, body, bodyRead, rfl⟩
            exact ⟨op, parameters, body, rfl, kept, merged, bodyRead, rfl⟩
          · rintro ⟨_, parameters, body, same, _, merged, bodyRead, rfl⟩
            cases same
            exact ⟨parameters, merged, body, bodyRead, rfl⟩
  | _ => simp

/-- A place of an exposed method comes to something unless it ends the load. -/
theorem exists_yieldsAt_iff {place : Place} (exposed : isExposed unicode place.method = true) :
    (∃ outcome, YieldsAt unicode credentialHeaders includeDeprecated upstreamKey place outcome) ↔
      ¬EndsLoadAt unicode credentialHeaders includeDeprecated place := by
  constructor
  · rintro ⟨outcome, comes⟩ ends
    cases ends with
    | contentIndex fails =>
        apply exists_extractAt_iff.mp _ fails
        rcases comes with ⟨found, _⟩ | ⟨raw, found, _⟩
        · exact ⟨none, found⟩
        · exact ⟨some raw, found⟩
    | record op parameters body isObject kept merged bodyRead ends =>
        have read := rawOperation_eq_some_iff.mpr
          ⟨op, parameters, body, isObject, kept, merged, bodyRead, rfl⟩
        have extracted : (extractAt includeDeprecated place :
            Except (PyException PathsError) (Option RawOperation)) =
            .ok (some (recordOf place op parameters body)) := orSkip_eq_some.mpr read
        rcases comes with ⟨found, _⟩ | ⟨raw, found, built⟩
        · cases extracted.symm.trans found
        · cases extracted.symm.trans found
          rcases map_eq_ok.mp (mapError_eq_ok.mp built) with ⟨operation, builds, _⟩
          exact (exists_build_iff exposed).mp ⟨operation, builds⟩ ends
  · intro loads
    rcases exists_extractAt_iff.mpr fun fails => loads (.contentIndex fails) with ⟨found, extracted⟩
    cases found with
    | none => exact ⟨none, Or.inl ⟨extracted, rfl⟩⟩
    | some raw =>
        rcases rawOperation_eq_some_iff.mp (orSkip_eq_some.mp extracted) with
          ⟨op, parameters, body, isObject, kept, merged, bodyRead, rfl⟩
        have notEnds : ¬EndsLoad unicode credentialHeaders (recordOf place op parameters body) :=
          fun ends => loads (.record op parameters body isObject kept merged bodyRead ends)
        have isMethod : isExposed unicode (recordOf place op parameters body).method = true := exposed
        have builds : ∃ built, build unicode upstreamKey credentialHeaders
            (recordOf place op parameters body) = .ok built := (exists_build_iff isMethod).mpr notEnds
        rcases builds with ⟨built, builds⟩
        refine ⟨locate (recordOf place op parameters body) built, Or.inr ⟨_, extracted, ?_⟩⟩
        exact mapError_eq_ok.mpr (map_eq_ok.mpr ⟨built, builds, rfl⟩)

/-- What a place comes to is found there. -/
theorem YieldsAt.located {place : Place} {located : Located}
    (yields : YieldsAt unicode credentialHeaders includeDeprecated upstreamKey place
      (some located)) : located.1 = (place.path, place.method) := by
  rcases yields with ⟨_, absent⟩ | ⟨raw, extracted, built⟩
  · cases absent
  · rcases rawOperation_eq_some_iff.mp (orSkip_eq_some.mp extracted) with
      ⟨op, parameters, body, _, _, _, _, rfl⟩
    rcases map_eq_ok.mp (mapError_eq_ok.mp built) with ⟨operation, _, same⟩
    cases operation with
    | none => cases same
    | some operation =>
        cases same
        rfl

theorem operations_eq_ok_iff {document paths : JsonObject} {yielded : List Located}
    (isPaths : field document "paths" = .obj paths) :
    operations unicode upstreamKey credentialHeaders includeDeprecated document = .ok yielded ↔
      ∃ outcomes, List.Forall₂
          (YieldsAt unicode credentialHeaders includeDeprecated upstreamKey)
          (places unicode paths) outcomes ∧
        outcomes.reduceOption = yielded := by
  rw [YieldsAt, ← twoPasses_eq_ok_iff]
  simp only [operations, bind_eq_ok, mapError_eq_ok, pure_eq_ok, extractRawOperations, isPaths]
  cases paths with
  | nil => simp [places, sortedNames, Json.truthy]
  | cons entry rest =>
      simp only [Json.truthy, List.isEmpty_cons, Bool.not_false, Bool.not_true, Bool.false_eq_true,
        if_false, bind_eq_ok, pure_eq_ok]
      constructor
      · rintro ⟨_, ⟨found, finds, rfl⟩, built, builds, same⟩
        exact ⟨found, finds, built, builds, same⟩
      · rintro ⟨found, finds, built, builds, same⟩
        exact ⟨_, ⟨found, finds, rfl⟩, built, builds, same⟩

end Document

/-- The document with another value as the operation object of a path and a method. -/
def replaceOperation (document : JsonObject) (path method : String) (value : Json) : JsonObject :=
  match field document "paths" with
  | .obj paths =>
      match field paths path with
      | .obj item =>
          Dict.insert document "paths"
            (.obj (Dict.insert paths path (.obj (Dict.insert item method value))))
      | _ => document
  | _ => document

theorem field_insert_self (fields : JsonObject) (key : String) (value : Json) :
    field (Dict.insert fields key value) key = value := by
  rw [field, Dict.get?_insert_self, Option.getD_some]

theorem field_insert_of_ne {key other : String} (fields : JsonObject) (value : Json)
    (different : key ≠ other) : field (Dict.insert fields key value) other = field fields other := by
  rw [field, field, Dict.get?_insert_of_ne fields value different]

theorem sortedNames_insert {fields : JsonObject} {key : String} {value : Json}
    (present : key ∈ Dict.keys fields) :
    sortedNames (Dict.insert fields key value) = sortedNames fields := by
  rw [sortedNames, sortedNames, Dict.keys_insert_of_mem present]

section Replace

variable {unicode : PyUnicode}

/-- The place holds the replaced operation object. -/
def Place.replace (path method : String) (value : Json) (place : Place) : Place :=
  if place.path = path ∧ place.method = method then { place with op := value } else place

theorem isExposed_parameters : isExposed unicode "parameters" = false := by
  have upper : unicode.upper "parameters" = "PARAMETERS" := by
    rw [unicode.upperOfAscii (by decide)]
    decide
  rw [isExposed, upper]
  decide

theorem itemPlaces_insert {path method : String} {item : JsonObject} {value : Json}
    (present : method ∈ Dict.keys item) (exposed : isExposed unicode method = true) :
    itemPlaces unicode path (.obj (Dict.insert item method value)) =
      (itemPlaces unicode path (.obj item)).map (Place.replace path method value) := by
  have notParameters : method ≠ "parameters" := by
    rintro rfl
    cases isExposed_parameters.symm.trans exposed
  have sameParams : listField (Dict.insert item method value) "parameters" =
      listField item "parameters" := by
    rw [listField, listField, Dict.get?_insert_of_ne item value notParameters]
  simp only [itemPlaces, sortedNames_insert present, sameParams, List.map_map]
  apply List.map_congr_left
  intro other _
  by_cases same : other = method
  · subst other
    simp [Place.replace, field_insert_self]
  · simp [Place.replace, same, field_insert_of_ne item value (Ne.symm same)]

theorem path_of_mem_itemPlaces {path : String} {item : Json} {place : Place}
    (placeMem : place ∈ itemPlaces unicode path item) : place.path = path := by
  unfold itemPlaces at placeMem
  split at placeMem
  · rcases List.mem_map.mp placeMem with ⟨_, _, rfl⟩
    rfl
  · cases placeMem

theorem places_insert {paths item : JsonObject} {path method : String} {value : Json}
    (isItem : field paths path = .obj item) (known : path ∈ Dict.keys paths)
    (present : method ∈ Dict.keys item) (exposed : isExposed unicode method = true) :
    places unicode (Dict.insert paths path (.obj (Dict.insert item method value))) =
      (places unicode paths).map (Place.replace path method value) := by
  simp only [places, sortedNames_insert known, List.map_flatMap]
  apply List.flatMap_congr
  intro other _
  by_cases same : other = path
  · subst other
    rw [field_insert_self, itemPlaces_insert present exposed, isItem]
  · rw [field_insert_of_ne paths _ (Ne.symm same)]
    have unchanged : ∀ place ∈ itemPlaces unicode other (field paths other),
        Place.replace path method value place = id place := by
      intro place placeMem
      have elsewhere := path_of_mem_itemPlaces placeMem
      rw [Place.replace, if_neg fun here => same (elsewhere ▸ here.1), id]
    rw [List.map_congr_left unchanged, List.map_id]

theorem mem_places_iff {paths : JsonObject} {place : Place} :
    place ∈ places unicode paths ↔
      place.path ∈ Dict.keys paths ∧ ∃ item, field paths place.path = .obj item ∧
        place.method ∈ Dict.keys item ∧ isExposed unicode place.method = true ∧
        place.pathParams = listField item "parameters" ∧ place.op = field item place.method := by
  simp only [places, List.mem_flatMap, sortedNames, List.mem_insertionSort]
  constructor
  · rintro ⟨path, known, placeMem⟩
    unfold itemPlaces at placeMem
    split at placeMem
    case h_1 item isItem =>
      rcases List.mem_map.mp placeMem with ⟨method, methodMem, rfl⟩
      rcases List.mem_filter.mp methodMem with ⟨listed, exposed⟩
      rw [sortedNames, List.mem_insertionSort] at listed
      exact ⟨known, item, isItem, listed, exposed, rfl, rfl⟩
    case h_2 => cases placeMem
  · rintro ⟨known, item, isItem, listed, exposed, isParams, isOp⟩
    refine ⟨place.path, known, ?_⟩
    rw [isItem]
    apply List.mem_map.mpr
    refine ⟨place.method, ?_, ?_⟩
    · rw [List.mem_filter, sortedNames, List.mem_insertionSort]
      exact ⟨listed, exposed⟩
    · rw [← isParams, ← isOp]

end Replace

section Isolation

variable {unicode : PyUnicode} {credentialHeaders : List String} {includeDeprecated : Bool}
  {upstreamKey path method : String} {value : Json}

/-- What is yielded for every other path and method. -/
def others (path method : String) (yielded : List Located) : List Located :=
  yielded.filter fun located => decide (located.1 ≠ (path, method))

theorem others_reduceOption_cons (outcome : Option Located) (rest : List (Option Located)) :
    others path method (outcome :: rest).reduceOption =
      others path method outcome.toList ++ others path method rest.reduceOption := by
  cases outcome with
  | none => simp [others]
  | some located =>
      simp only [others, List.reduceOption_cons_of_some, List.filter_cons, Option.toList_some,
        List.filter_nil]
      split <;> rfl

theorem YieldsAt.others_eq_nil {place : Place} {outcome : Option Located}
    (yields : YieldsAt unicode credentialHeaders includeDeprecated upstreamKey place outcome)
    (isPath : place.path = path) (isMethod : place.method = method) :
    others path method outcome.toList = [] := by
  cases outcome with
  | none => rfl
  | some located => simp [others, yields.located, isPath, isMethod]

/-- Where the replaced places still come to something, the other places come to the same. -/
theorem yields_replaced {places : List Place} {outcomes : List (Option Located)}
    (yields : List.Forall₂ (YieldsAt unicode credentialHeaders includeDeprecated upstreamKey)
      places outcomes)
    (loads : ∀ place ∈ places, place.path = path → place.method = method →
      ∃ outcome, YieldsAt unicode credentialHeaders includeDeprecated upstreamKey
        { place with op := value } outcome) :
    ∃ again, List.Forall₂ (YieldsAt unicode credentialHeaders includeDeprecated upstreamKey)
        (places.map (Place.replace path method value)) again ∧
      others path method again.reduceOption = others path method outcomes.reduceOption := by
  induction yields with
  | nil => exact ⟨[], .nil, rfl⟩
  | @cons place outcome rest later yieldsHere yieldsLater ih =>
      rw [List.forall_mem_cons] at loads
      rcases ih loads.2 with ⟨again, yieldsAgain, same⟩
      by_cases here : place.path = path ∧ place.method = method
      · rcases loads.1 here.1 here.2 with ⟨outcomeAgain, yieldsNow⟩
        refine ⟨outcomeAgain :: again, ?_, ?_⟩
        · rw [List.map_cons, Place.replace, if_pos here]
          exact .cons yieldsNow yieldsAgain
        · rw [others_reduceOption_cons, others_reduceOption_cons, same,
            yieldsNow.others_eq_nil here.1 here.2, yieldsHere.others_eq_nil here.1 here.2]
      · refine ⟨outcome :: again, ?_, ?_⟩
        · rw [List.map_cons, Place.replace, if_neg here]
          exact .cons yieldsHere yieldsAgain
        · rw [others_reduceOption_cons, others_reduceOption_cons, same]

/--
Another value in the place of an operation object leaves the load and what it yields for
every other operation alone, just if it is none of the values that end the load.
-/
theorem operations_isolated_iff {document paths item : JsonObject} {yielded : List Located}
    (isPaths : Dict.get? document "paths" = some (.obj paths))
    (isItem : Dict.get? paths path = some (.obj item)) (present : method ∈ Dict.keys item)
    (exposed : isExposed unicode method = true)
    (loads : operations unicode upstreamKey credentialHeaders includeDeprecated document =
      .ok yielded) :
    (∃ again, operations unicode upstreamKey credentialHeaders includeDeprecated
          (replaceOperation document path method value) = .ok again ∧
        others path method again = others path method yielded) ↔
      ¬EndsLoadAt unicode credentialHeaders includeDeprecated
        (Place.mk path method (listField item "parameters") value) := by
  have isPathsField : field document "paths" = .obj paths := by rw [field, isPaths]; rfl
  have isItemField : field paths path = .obj item := by rw [field, isItem]; rfl
  have known : path ∈ Dict.keys paths := Dict.get?_isSome_iff.mp (isItem ▸ rfl)
  have replaced : field (replaceOperation document path method value) "paths" =
      .obj (Dict.insert paths path (.obj (Dict.insert item method value))) := by
    simp only [replaceOperation, isPathsField, isItemField, field_insert_self]
  have target : ∀ place ∈ places unicode paths, place.path = path → place.method = method →
      { place with op := value } = Place.mk path method (listField item "parameters") value := by
    rintro ⟨_, _, pathParams, op⟩ placeMem rfl rfl
    rcases mem_places_iff.mp placeMem with ⟨_, found, isFound, _, _, isParams, _⟩
    cases isItemField.symm.trans isFound
    simp only at isParams
    rw [isParams]
  rcases (operations_eq_ok_iff isPathsField).mp loads with ⟨outcomes, yields, rfl⟩
  constructor
  · rintro ⟨again, loadsAgain, _⟩
    rcases (operations_eq_ok_iff replaced).mp loadsAgain with ⟨outcomesAgain, yieldsAgain, _⟩
    rw [places_insert isItemField known present exposed] at yieldsAgain
    have placeMem : Place.mk path method (listField item "parameters") (field item method) ∈
        places unicode paths :=
      mem_places_iff.mpr ⟨known, item, isItemField, present, exposed, rfl, rfl⟩
    have replacedMem := List.mem_map_of_mem (f := Place.replace path method value) placeMem
    rcases exists_right_of_forall₂ yieldsAgain replacedMem with ⟨outcome, _, yieldsHere⟩
    rw [Place.replace, if_pos ⟨rfl, rfl⟩] at yieldsHere
    exact (exists_yieldsAt_iff exposed).mp ⟨outcome, yieldsHere⟩
  · intro notEnds
    have yieldsHere : ∃ outcome, YieldsAt unicode credentialHeaders includeDeprecated upstreamKey
        (Place.mk path method (listField item "parameters") value) outcome :=
      (exists_yieldsAt_iff exposed).mpr notEnds
    rcases yieldsHere with ⟨outcome, yieldsHere⟩
    have everywhere : ∀ place ∈ places unicode paths, place.path = path → place.method = method →
        ∃ outcome, YieldsAt unicode credentialHeaders includeDeprecated upstreamKey
          { place with op := value } outcome := by
      intro place placeMem isPath isMethod
      rw [target place placeMem isPath isMethod]
      exact ⟨outcome, yieldsHere⟩
    rcases yields_replaced yields everywhere with ⟨again, yieldsAgain, same⟩
    refine ⟨again.reduceOption, ?_, same⟩
    rw [operations_eq_ok_iff replaced, places_insert isItemField known present exposed]
    exact ⟨again, yieldsAgain, rfl⟩

end Isolation

/-- A document with two operations. -/
def shopDocument : JsonObject :=
  [("paths", .obj [("/orders", .obj [("get", .obj [])]), ("/users", .obj [("get", .obj [])])])]

/-- An operation object with a header parameter whose name is a number. -/
def numberedHeader : Json :=
  .obj [("parameters", .arr [.obj [("in", .str "header"), ("name", .int 5)]])]

/-- What the operations of a document come to. -/
def shopOperations (document : JsonObject) : Except (PyException LoadError) (List Located) :=
  operations asciiTables "shop" [] false document

theorem operations_fail_numberedHeader :
    (∃ yielded, shopOperations shopDocument = .ok yielded) ∧
      shopOperations (replaceOperation shopDocument "/orders" "get" numberedHeader) =
        .error .attributeError :=
  ⟨⟨_, rfl⟩, rfl⟩

theorem operations_isolated_iff_null :
    ∃ yielded again, shopOperations shopDocument = .ok yielded ∧
      shopOperations (replaceOperation shopDocument "/orders" "get" .null) = .ok again ∧
      others "/orders" "get" again = others "/orders" "get" yielded := by
  have loads : ∃ yielded, shopOperations shopDocument = .ok yielded := ⟨_, rfl⟩
  rcases loads with ⟨yielded, loads⟩
  have harmless : ¬EndsLoadAt asciiTables [] false (Place.mk "/orders" "get" (.arr []) .null) := by
    intro ends
    cases ends with
    | contentIndex fails =>
        rcases fails with ⟨_, _, _, isObject, _⟩
        cases isObject
    | record _ _ _ isObject _ _ _ _ => cases isObject
  have present : "get" ∈ Dict.keys [("get", Json.obj [])] := List.mem_singleton.mpr rfl
  have exposed : isExposed asciiTables "get" = true := by decide
  rcases (operations_isolated_iff rfl rfl present exposed loads).mpr harmless with
    ⟨again, loadsAgain, same⟩
  exact ⟨yielded, again, loads, loadsAgain, same⟩

end Unchecked

end McpPortal
