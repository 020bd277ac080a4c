import McpPortal.Sources.GraphQlIds
import McpPortal.Sources.Isolation

/-!
# The ids of the operations of a document

An operation without an id of its own is named by its method and path, reduced to letters,
digits and underscores, so ids are lost where that drops what tells two operations apart.
-/

namespace McpPortal

open Foundation

namespace Unchecked

section Record

variable {unicode : PyUnicode} {credentialHeaders : List String} {raw : RawOperation}

/-- A record of an exposed method that does not end the load is built, under its id, when its
names are all distinct, and is dropped otherwise. -/
theorem build_kept {upstreamKey : String} (exposed : isExposed unicode raw.method = true)
    {built : Option Operation}
    (ran : build unicode upstreamKey credentialHeaders raw = .ok built) :
    ((∃ names, ReachesSchemas unicode credentialHeaders raw names) ∧
        built.map (·.id) = some (raw.id unicode)) ∨
      ((¬∃ names, ReachesSchemas unicode credentialHeaders raw names) ∧ built = none) := by
  have loads := (exists_build_iff exposed).mp ⟨built, ran⟩
  have notPassing (fails : ¬PassesHeaders unicode credentialHeaders raw) :
      ¬∃ names, ReachesSchemas unicode credentialHeaders raw names := by
    rintro ⟨names, reaches⟩
    exact fails reaches.toPassesHeaders
  unfold build at ran
  cases excluded : raw.flag "x-mcp-exclude" with
  | true =>
      simp only [excluded, if_true, pure_eq_ok] at ran
      refine Or.inr ⟨notPassing ?_, ran.symm⟩
      intro passes
      cases excluded.symm.trans passes.included
  | false =>
      simp only [excluded, Bool.false_eq_true, if_false, bind_eq_ok] at ran
      rcases ran with ⟨denylisted, looked, later⟩
      cases denylisted with
      | true =>
          simp only [if_true, pure_eq_ok] at later
          refine Or.inr ⟨notPassing ?_, later.symm⟩
          intro passes
          cases looked.symm.trans (namesDenylisted_eq_false_iff.mpr passes.allowed)
      | false =>
          have passes : PassesHeaders unicode credentialHeaders raw :=
            ⟨excluded, namesDenylisted_eq_false_iff.mp looked⟩
          rcases exists_effectForMethod exposed with ⟨effect, hasEffect⟩
          have isMethod : (raw.binding unicode).method = unicode.upper raw.method := rfl
          simp only [Bool.false_eq_true, if_false, isMethod, hasEffect] at later
          have kept := flattens_iff passes
          rw [and_iff_left (mt EndsLoad.flattening loads)] at kept
          rw [← kept]
          cases flattens : flattenBinding unicode.isPrintable (raw.binding unicode) with
          | ok flattened =>
              rw [flattens] at later
              rcases map_eq_ok.mp later with ⟨operation, made, rfl⟩
              exact Or.inl ⟨⟨flattened, rfl⟩, congrArg some (operation_eq_ok made).1⟩
          | error error =>
              rw [flattens] at later
              refine Or.inr ⟨?_, ?_⟩
              · rintro ⟨other, isOther⟩
                cases isOther
              · cases isCaught : isFlattenError error with
                | true =>
                    simp only [isCaught, orSkip, bind, Except.bind, Functor.map, Except.map,
                      if_true, pure_eq_ok] at later
                    exact later.symm
                | false => simp [isCaught, orSkip, bind, Except.bind] at later

end Record

section Document

variable (unicode : PyUnicode) (credentialHeaders : List String) (includeDeprecated : Bool)

/-- The operation object at the place can be read, and the names of its record are distinct. -/
def Kept (place : Place) : Prop :=
  ∃ op parameters body names, place.op = .obj op ∧ leftOut includeDeprecated op = false ∧
    (mergedParameters place.pathParams (listField op "parameters") :
      Except (PyException PathsError) (List RawParameter)) = .ok parameters ∧
    (requestBody op : Except (PyException PathsError) (Option RequestBody)) = .ok body ∧
    ReachesSchemas unicode credentialHeaders (recordOf place op parameters body) names

/-- The id an operation object has of its own. -/
def explicitId (place : Place) : Option Json :=
  match place.op with
  | .obj op => (Dict.get? op "operationId").filter Json.truthy
  | _ => none

def slugId (place : Place) : String :=
  defaultOperationId unicode place.method place.path

def idAt (place : Place) : Json :=
  (explicitId place).getD (.str (slugId unicode place))

variable {unicode credentialHeaders includeDeprecated} {upstreamKey : String}

theorem id_recordOf {place : Place} {op : JsonObject} (isObject : place.op = .obj op)
    (parameters : List RawParameter) (body : Option RequestBody) :
    (recordOf place op parameters body).id unicode = idAt unicode place := by
  have isId : (recordOf place op parameters body).operationId = Dict.get? op "operationId" := rfl
  have isExplicit : explicitId place = (Dict.get? op "operationId").filter Json.truthy := by
    rw [explicitId, isObject]
  rw [RawOperation.id, isId, idAt, isExplicit]
  cases Dict.get? op "operationId" with
  | none => rfl
  | some id => cases truthy : id.truthy <;> simp [orElse, Option.filter, truthy, slugId, recordOf]

/-- A place comes to an operation with its id, or to nothing when it is not kept. -/
theorem YieldsAt.kept {place : Place} {outcome : Option Located}
    (exposed : isExposed unicode place.method = true)
    (yields : YieldsAt unicode credentialHeaders includeDeprecated upstreamKey place outcome) :
    (Kept unicode credentialHeaders includeDeprecated place ∧
        outcome.map (·.2.id) = some (idAt unicode place)) ∨
      (¬Kept unicode credentialHeaders includeDeprecated place ∧ outcome = none) := by
  rcases yields with ⟨skipped, rfl⟩ | ⟨raw, extracted, built⟩
  · refine Or.inr ⟨?_, rfl⟩
    rintro ⟨op, parameters, body, names, isObject, kept, merged, bodyRead, _⟩
    have read := rawOperation_eq_some_iff.mpr
      ⟨op, parameters, body, isObject, kept, merged, bodyRead, rfl⟩
    cases skipped.symm.trans (orSkip_eq_some.mpr read)
  · rcases rawOperation_eq_some_iff.mp (orSkip_eq_some.mp extracted) with
      ⟨op, parameters, body, isObject, kept, merged, bodyRead, rfl⟩
    rcases map_eq_ok.mp (mapError_eq_ok.mp built) with ⟨operation, builds, rfl⟩
    have isMethod : isExposed unicode (recordOf place op parameters body).method = true := exposed
    rcases build_kept isMethod builds with ⟨⟨names, reaches⟩, named⟩ | ⟨notReached, rfl⟩
    · refine Or.inl ⟨⟨op, parameters, body, names, isObject, kept, merged, bodyRead, reaches⟩, ?_⟩
      rw [← id_recordOf isObject parameters body, ← named, locate, Option.map_map]
      rfl
    · refine Or.inr ⟨?_, rfl⟩
      rintro ⟨other, otherParameters, otherBody, names, isOther, _, otherMerged, otherRead, reaches⟩
      cases isObject.symm.trans isOther
      cases merged.symm.trans otherMerged
      cases bodyRead.symm.trans otherRead
      exact notReached ⟨names, reaches⟩

open scoped Classical in
/-- The ids are those of the places that are kept, in order. -/
theorem ids_of_yields {places : List Place} {outcomes : List (Option Located)}
    (exposed : ∀ place ∈ places, isExposed unicode place.method = true)
    (yields : List.Forall₂ (YieldsAt unicode credentialHeaders includeDeprecated upstreamKey)
      places outcomes) :
    outcomes.reduceOption.map (·.2.id) =
      (places.filter fun place =>
        decide (Kept unicode credentialHeaders includeDeprecated place)).map (idAt unicode) := by
  induction yields with
  | nil => rfl
  | cons yieldsHere _ ih =>
      rw [List.forall_mem_cons] at exposed
      rcases yieldsHere.kept exposed.1 with ⟨kept, named⟩ | ⟨dropped, rfl⟩
      · rcases Option.map_eq_some_iff.mp named with ⟨located, rfl, isId⟩
        rw [List.reduceOption_cons_of_some, List.map_cons, ih exposed.2, isId]
        simp only [List.filter_cons, kept, decide_true, if_true, List.map_cons]
      · rw [List.reduceOption_cons_of_none, ih exposed.2]
        simp only [List.filter_cons, dropped, decide_false, Bool.false_eq_true, if_false]

/-- Two ids are told apart by comparison. -/
def Distinct (ids : List Json) : Prop :=
  ids.Pairwise fun left right => left.pyEq right = false

variable (unicode) in
/-- Two operations come to the same id: by their slugs, by a slug that is the explicit id of the
other, or by explicit ids that are no texts. -/
inductive SameId (left right : Place) : Prop
  | slugs (leftNone : explicitId left = none) (rightNone : explicitId right = none)
      (same : slugId unicode left = slugId unicode right)
  | leftSlug (leftNone : explicitId left = none)
      (same : explicitId right = some (.str (slugId unicode left)))
  | rightSlug (rightNone : explicitId right = none)
      (same : explicitId left = some (.str (slugId unicode right)))
  | noTexts (leftId rightId : Json) (isLeft : explicitId left = some leftId)
      (isRight : explicitId right = some rightId) (noText : leftId.string? = none)
      (same : leftId.pyEq rightId = true)

/-- Explicit ids that are texts are told apart. -/
def TextsApart (left right : Place) : Prop :=
  ∀ id, explicitId left = some (.str id) → explicitId right ≠ some (.str id)

theorem textsApart_of_unnamed {places : List Place}
    (unnamed : ∀ place ∈ places, explicitId place = none) : places.Pairwise TextsApart := by
  refine List.pairwise_of_forall_mem_list ?_
  intro left leftMem right _ id isLeft
  cases (unnamed left leftMem).symm.trans isLeft

theorem pyEq_str_left {text : String} {value : Json} :
    (Json.str text).pyEq value = true ↔ value = .str text := by
  cases value <;> simp [Json.pyEq, eq_comm]

theorem pyEq_str_right {text : String} {value : Json} :
    value.pyEq (.str text) = true ↔ value = .str text := by
  cases value <;> simp [Json.pyEq, Json.number?]

/-- Where explicit texts differ, ids are equal in the listed ways alone. -/
theorem pyEq_idAt_iff {left right : Place} (apart : TextsApart left right) :
    (idAt unicode left).pyEq (idAt unicode right) = true ↔ SameId unicode left right := by
  unfold idAt
  cases leftExplicit : explicitId left with
  | none =>
      cases rightExplicit : explicitId right with
      | none =>
          rw [Option.getD_none, Option.getD_none, pyEq_str_left]
          constructor
          · intro same
            exact .slugs leftExplicit rightExplicit (Json.str.inj same).symm
          · intro same
            cases same <;> simp_all
      | some rightId =>
          rw [Option.getD_none, Option.getD_some, pyEq_str_left]
          constructor
          · rintro rfl
            exact .leftSlug leftExplicit rightExplicit
          · intro same
            cases same <;> simp_all
  | some leftId =>
      cases rightExplicit : explicitId right with
      | none =>
          rw [Option.getD_none, Option.getD_some, pyEq_str_right]
          constructor
          · rintro rfl
            exact .rightSlug rightExplicit leftExplicit
          · intro same
            cases same <;> simp_all
      | some rightId =>
          rw [Option.getD_some, Option.getD_some]
          cases leftText : leftId.string? with
          | none =>
              constructor
              · exact .noTexts leftId rightId leftExplicit rightExplicit leftText
              · intro same
                cases same <;> simp_all
          | some text =>
              have isText : leftId = .str text := by cases leftId <;> simp_all [Json.string?]
              subst isText
              rw [pyEq_str_left]
              constructor
              · rintro rfl
                exact absurd rightExplicit (apart text leftExplicit)
              · intro same
                cases same <;> simp_all

/-- The paths of a document. -/
def pathsOf (document : JsonObject) : JsonObject :=
  match field document "paths" with
  | .obj paths => paths
  | _ => []

theorem exposed_of_mem_places {paths : JsonObject} :
    ∀ place ∈ places unicode paths, isExposed unicode place.method = true := by
  intro place placeMem
  rcases mem_places_iff.mp placeMem with ⟨_, _, _, _, exposed, _⟩
  exact exposed

theorem operations_ids {document : JsonObject} {yielded : List Located}
    (loads : operations unicode upstreamKey credentialHeaders includeDeprecated document =
      .ok yielded) :
    ∃ outcomes, List.Forall₂ (YieldsAt unicode credentialHeaders includeDeprecated upstreamKey)
        (places unicode (pathsOf document)) outcomes ∧ outcomes.reduceOption = yielded := by
  cases isPaths : field document "paths" with
  | obj paths =>
      rw [pathsOf, isPaths]
      exact (operations_eq_ok_iff isPaths).mp loads
  | _ =>
      have noPaths : pathsOf document = [] := by rw [pathsOf, isPaths]
      rw [noPaths]
      simp only [operations, bind_eq_ok, mapError_eq_ok, extractRawOperations, isPaths] at loads
      rcases loads with ⟨raws, extracted, built, builds, collected⟩
      split at extracted
      · cases extracted
        cases builds
        cases collected
        exact ⟨[], .nil, rfl⟩
      · cases extracted

/-- The operations of a document have ids of their own just if no two that are kept have the
same one. -/
theorem distinct_ids_iff {document : JsonObject} {yielded : List Located}
    (apart : (places unicode (pathsOf document)).Pairwise TextsApart)
    (loads : operations unicode upstreamKey credentialHeaders includeDeprecated document =
      .ok yielded) :
    Distinct (yielded.map (·.2.id)) ↔
      (places unicode (pathsOf document)).Pairwise fun left right =>
        Kept unicode credentialHeaders includeDeprecated left →
          Kept unicode credentialHeaders includeDeprecated right → ¬SameId unicode left right := by
  classical
  rcases operations_ids loads with ⟨outcomes, yields, rfl⟩
  rw [ids_of_yields exposed_of_mem_places yields, Distinct, List.pairwise_map,
    List.pairwise_filter]
  simp only [decide_eq_true_eq]
  constructor
  · intro distinct
    refine (apart.and distinct).imp ?_
    rintro left right ⟨textsApart, different⟩ leftKept rightKept same
    rw [← pyEq_idAt_iff textsApart, different leftKept rightKept] at same
    cases same
  · intro noneSame
    refine (apart.and noneSame).imp ?_
    rintro left right ⟨textsApart, different⟩ leftKept rightKept
    rw [Bool.eq_false_iff, Ne, pyEq_idAt_iff textsApart]
    exact different leftKept rightKept

/--
What a document yields has ids of its own just if no two operations that are kept come to the
same id, and what a schema yields just if no query and mutation that are kept share a name.
-/
theorem introspected_ids_iff {document : JsonObject} {yielded : List Located}
    (apart : (places unicode (pathsOf document)).Pairwise TextsApart)
    (loads : operations unicode upstreamKey credentialHeaders includeDeprecated document =
      .ok yielded)
    {schema : IntrospectedSchema} {typePolicy : List (String × List String)} {depth : Nat}
    {operations : List McpPortal.Operation}
    (unique : ∀ typeName info, Dict.get? schema.typesByName typeName = some info →
      (info.fields.map (·.name)).Nodup)
    (ran : GraphQlSource.operations upstreamKey schema typePolicy depth = .ok operations) :
    (Distinct (yielded.map (·.2.id)) ↔
        (places unicode (pathsOf document)).Pairwise fun left right =>
          Kept unicode credentialHeaders includeDeprecated left →
            Kept unicode credentialHeaders includeDeprecated right →
              ¬SameId unicode left right) ∧
      ((operations.map (·.id)).Nodup ↔
        ∀ query ∈ GraphQlSource.rootFields schema .query (some schema.queryType),
          ∀ mutation ∈ GraphQlSource.rootFields schema .mutation schema.mutationType,
            Selectable schema typePolicy query.2 → Selectable schema typePolicy mutation.2 →
              query.2.name ≠ mutation.2.name) :=
  ⟨distinct_ids_iff apart loads, GraphQlSource.nodup_ids_iff ran unique⟩

end Document

/-- Two paths that differ in a separator. -/
def hyphenDocument : JsonObject :=
  [("paths", .obj [("/a-b", .obj [("get", .obj [])]), ("/a_b", .obj [("get", .obj [])])])]

/-- A query and a mutation of one name. -/
def pingSchema : IntrospectedSchema where
  queryType := "Query"
  mutationType := some "Mutation"
  typesByName :=
    [ ("Query", {
        kind := "OBJECT"
        name := "Query"
        fields := [{ name := "ping", type := .bare "SCALAR" (some "String") }] }),
      ("Mutation", {
        kind := "OBJECT"
        name := "Mutation"
        fields := [{ name := "ping", type := .bare "SCALAR" (some "String") }] }) ]

theorem pingSchema_unique {typeName : String} {info : TypeInfo}
    (known : Dict.get? pingSchema.typesByName typeName = some info) :
    (info.fields.map (·.name)).Nodup := by
  have declared := Dict.mem_of_get? known
  simp only [pingSchema, List.mem_cons, Prod.mk.injEq, List.not_mem_nil, or_false] at declared
  rcases declared with ⟨_, rfl⟩ | ⟨_, rfl⟩ <;> exact List.nodup_singleton _

theorem introspected_ids_lost :
    (∃ yielded, (places asciiTables (pathsOf hyphenDocument)).Pairwise TextsApart ∧
        shopOperations hyphenDocument = .ok yielded ∧ ¬Distinct (yielded.map (·.2.id))) ∧
      (∀ typeName info, Dict.get? pingSchema.typesByName typeName = some info →
          (info.fields.map (·.name)).Nodup) ∧
        pingSchema.mutationType ≠ some pingSchema.queryType ∧
        ∃ operations, GraphQlSource.operations "shop" pingSchema [] 1 = .ok operations ∧
          ¬(operations.map (·.id)).Nodup := by
  have unnamed : ∀ place ∈ places asciiTables (pathsOf hyphenDocument), explicitId place = none := by
    decide +kernel
  have loads : ∃ yielded, shopOperations hyphenDocument = .ok yielded ∧
      yielded.map (·.2.id) = [.str "get_a_b", .str "get_a_b"] := ⟨_, rfl, rfl⟩
  rcases loads with ⟨yielded, loads, ids⟩
  constructor
  · refine ⟨yielded, textsApart_of_unnamed unnamed, loads, ?_⟩
    rw [ids, Distinct]
    decide
  · refine ⟨fun _ _ => pingSchema_unique, by decide, _, rfl, ?_⟩
    decide

theorem introspected_ids_iff_shop :
    ∃ yielded operations, shopOperations shopDocument = .ok yielded ∧
      GraphQlSource.operations "shop" pingSchema [] 1 = .ok operations ∧
      (Distinct (yielded.map (·.2.id)) ↔
        (places asciiTables (pathsOf shopDocument)).Pairwise fun left right =>
          Kept asciiTables [] false left → Kept asciiTables [] false right →
            ¬SameId asciiTables left right) ∧
      ((operations.map (·.id)).Nodup ↔
        ∀ query ∈ GraphQlSource.rootFields pingSchema .query (some pingSchema.queryType),
          ∀ mutation ∈ GraphQlSource.rootFields pingSchema .mutation pingSchema.mutationType,
            Selectable pingSchema [] query.2 → Selectable pingSchema [] mutation.2 →
              query.2.name ≠ mutation.2.name) := by
  have unnamed : ∀ place ∈ places asciiTables (pathsOf shopDocument), explicitId place = none := by
    decide +kernel
  have loads : ∃ yielded, shopOperations shopDocument = .ok yielded := ⟨_, rfl⟩
  have ran : ∃ operations, GraphQlSource.operations "shop" pingSchema [] 1 = .ok operations :=
    ⟨_, rfl⟩
  rcases loads with ⟨yielded, loads⟩
  rcases ran with ⟨operations, ran⟩
  exact ⟨yielded, operations, loads, ran,
    introspected_ids_iff (textsApart_of_unnamed unnamed) loads (fun _ _ => pingSchema_unique) ran⟩

end Unchecked

end McpPortal
