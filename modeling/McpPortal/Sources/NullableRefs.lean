import McpPortal.Sources.DialectPlaces
import McpPortal.Sources.LoadedDocument
import McpPortal.Sources.Pointers
import McpPortal.Sources.RefCircles

/-!
# Nullable references

References are resolved before a document is converted, and nothing next to a `$ref` is
kept, so a `nullable` there is lost. What is left for a reference accepts null if what it
points to does.
-/

namespace McpPortal

open Foundation JsonSchema

namespace RefResolver

variable {Access FetchError : Type}

section Unfold

variable (unicode : PyUnicode) (acceptsNetloc : List Char → Bool)
  (resolver : RefResolver Access FetchError)

/-- What a reference points to with every reference in it replaced in turn, to a depth. -/
def unfoldRef : Nat → DocumentRoot → String → Except (ResolveException FetchError) Json
  | 0, _, _ => .error (.raised .recursionLimit)
  | depth + 1, root, ref => do
      let (newRoot, node) ← resolver.referenced unicode acceptsNetloc root ref
      walk (unfoldRef depth newRoot) node

/-- The reference unfolds to the value. -/
def Unfolds (root : DocumentRoot) (ref : String) (value : Json) : Prop :=
  ∃ depth, resolver.unfoldRef unicode acceptsNetloc depth root ref = .ok value

end Unfold

section Facts

variable {unicode : PyUnicode} {acceptsNetloc : List Char → Bool}
  {resolver : RefResolver Access FetchError}

theorem unfoldRef_succ {depth : Nat} {root : DocumentRoot} {ref : String} {result : Json}
    (ran : resolver.unfoldRef unicode acceptsNetloc depth root ref = .ok result) :
    resolver.unfoldRef unicode acceptsNetloc (depth + 1) root ref = .ok result := by
  induction depth generalizing root ref result with
  | zero => cases ran
  | succ depth ih =>
      rw [unfoldRef] at ran ⊢
      simp only [bind_eq_ok, walk_eq_ok] at ran ⊢
      rcases ran with ⟨found, points, walked⟩
      refine ⟨found, points, walked.mono ?_⟩
      intro next _ value unfolded
      exact ih unfolded

theorem grows_unfoldRef (root : DocumentRoot) :
    Grows fun depth ref value =>
      resolver.unfoldRef unicode acceptsNetloc depth root ref = .ok value := by
  intro smaller larger le ref value ran
  induction le with
  | refl => exact ran
  | step _ ih => exact unfoldRef_succ ih

theorem Unfolds.of_walked {root newRoot : DocumentRoot} {ref : String} {node result : Json}
    (points : resolver.referenced unicode acceptsNetloc root ref = .ok (newRoot, node))
    (walked : Walked (resolver.Unfolds unicode acceptsNetloc newRoot) node result) :
    resolver.Unfolds unicode acceptsNetloc root ref result := by
  rcases Walked.exists_bound (grows_unfoldRef newRoot) walked with ⟨depth, walked⟩
  refine ⟨depth + 1, ?_⟩
  simp only [unfoldRef, points, bind_eq_ok, Except.ok.injEq, exists_eq_left', walk_eq_ok]
  exact walked

/-- What stands for a reference that is not circular is what it unfolds to. -/
theorem stands_unfolded : resolver.Stands unicode acceptsNetloc fun root ref value =>
    resolver.NonCircular unicode acceptsNetloc root ref →
      resolver.Unfolds unicode acceptsNetloc root ref value where
  cut := by
    intro chain root ref visits isOpen nonCircular
    exact absurd isOpen (nonCircular.closed visits)
  walked := by
    intro chain root ref newRoot node result _ _ points walked nonCircular
    refine .of_walked points (walked.mono ?_)
    intro next nextMem value unfolds
    exact unfolds (nonCircular.inside points nextMem)

/-- No dictionary of the entry document or of a fetched one has a key twice. -/
def DistinctDocuments (acceptsNetloc : List Char → Bool) (resolver : RefResolver Access FetchError) :
    Prop :=
  ∀ root, resolver.Genuine acceptsNetloc root → DistinctKeys (.obj root.document)

theorem referenced_distinct (distinct : resolver.DistinctDocuments acceptsNetloc)
    {root newRoot : DocumentRoot} {ref : String} {node : Json}
    (genuine : resolver.Genuine acceptsNetloc root)
    (points : resolver.referenced unicode acceptsNetloc root ref = .ok (newRoot, node)) :
    DistinctKeys node :=
  (distinct newRoot (genuine.referenced points)).within (within_of_referenced points)

end Facts

end RefResolver

section Walked

variable {related : String → Json → Prop}

mutual

/-- Walking gives no key twice. -/
theorem Walked.distinct (distinctValues : ∀ ref value, related ref value → DistinctKeys value)
    {node result : Json} (walked : Walked related node result)
    (distinct : DistinctKeys node) : DistinctKeys result := by
  cases node with
  | obj fields =>
      cases isRef : refOf? fields with
      | some ref =>
          simp only [Walked, isRef] at walked
          exact distinctValues ref result walked
      | none =>
          simp only [Walked, isRef] at walked
          rcases walked with ⟨values, walked, rfl⟩
          refine ⟨?_, WalkedFields.distinct distinctValues walked distinct.2⟩
          rw [walked.keys]
          exact distinct.1
  | arr items =>
      rcases walked with ⟨values, walked, rfl⟩
      exact WalkedItems.distinct distinctValues walked distinct
  | _ =>
      cases walked
      trivial

theorem WalkedItems.distinct
    (distinctValues : ∀ ref value, related ref value → DistinctKeys value)
    {items result : List Json} (walked : WalkedItems related items result)
    (distinct : ItemsDistinct items) : ItemsDistinct result := by
  cases items with
  | nil =>
      cases walked
      trivial
  | cons item rest =>
      rcases walked with ⟨value, walkedFirst, others, later, rfl⟩
      exact ⟨walkedFirst.distinct distinctValues distinct.1,
        WalkedItems.distinct distinctValues later distinct.2⟩

theorem WalkedFields.distinct
    (distinctValues : ∀ ref value, related ref value → DistinctKeys value)
    {fields result : List (String × Json)}
    (walked : WalkedFields related fields result) (distinct : FieldsDistinct fields) :
    FieldsDistinct result := by
  cases fields with
  | nil =>
      cases walked
      trivial
  | cons field rest =>
      rcases walked with ⟨value, walkedFirst, others, later, rfl⟩
      exact ⟨walkedFirst.distinct distinctValues distinct.1,
        WalkedFields.distinct distinctValues later distinct.2⟩

end

end Walked

namespace RefResolver

variable {Access FetchError : Type} {unicode : PyUnicode} {acceptsNetloc : List Char → Bool}
  {resolver : RefResolver Access FetchError}

theorem stands_distinct (distinct : resolver.DistinctDocuments acceptsNetloc) :
    resolver.Stands unicode acceptsNetloc fun _ _ value => DistinctKeys value where
  cut := by
    intro _ _ _ _ _
    exact ⟨List.nodup_singleton _, trivial, trivial⟩
  walked := by
    intro chain root ref newRoot node result visits _ points walked
    exact walked.distinct (fun _ _ distinctValue => distinctValue)
      (referenced_distinct distinct visits.genuine points)

/-- No dictionary of a resolved document has a key twice. -/
theorem resolve_distinct (distinct : resolver.DistinctDocuments acceptsNetloc) {depth : Nat}
    {result : JsonObject} (resolved : (resolver.resolve unicode acceptsNetloc depth {}).1 = .ok result) :
    DistinctKeys (.obj result) :=
  ((stands_distinct distinct).walked_resolve resolved).distinct
    (fun _ _ distinctValue => distinctValue) (distinct resolver.entryRoot (Or.inl rfl))

end RefResolver

section Load

variable {unicode : PyUnicode} {acceptsNetloc : List Char → Bool} {outside : Outside}
  {config : OpenApiIntrospectionConfig} {baseDir : PurePath}

/-- The entry document as it is parsed. -/
def entryDocument (outside : Outside) (config : OpenApiIntrospectionConfig) (baseDir : PurePath) :
    Fetching JsonObject := do
  let (text, isYaml) ← (fetchText outside (entryLocation config) baseDir false).result
  parseDocument outside text isYaml true

/-- A loaded document is the converted resolved one. -/
theorem convertDocument_of_loads {depth : Nat} {baseUrlOverride : Option String}
    {raw resolved : JsonObject} {loaded : LoadedDocument}
    (parsed : entryDocument outside config baseDir = .ok raw)
    (resolves : ((documentResolver outside config baseDir raw).resolve unicode acceptsNetloc depth
      {}).1 = .ok resolved)
    (loads : (loadDocument unicode acceptsNetloc outside depth config baseDir
      baseUrlOverride).result = .ok loaded) :
    convertDocument unicode resolved = .ok loaded.document := by
  rw [entryDocument] at parsed
  simp only [loadDocument, parsed, resolves, finishDocument, bind_eq_ok, mapError_eq_ok, pure_eq_ok,
    Except.ok.injEq, exists_eq_left'] at loads
  rcases loads with ⟨document, converts, _, _, rfl⟩
  exact converts

theorem get?_openapi_resolved {resolver : RefResolver Access FetchError}
    {related : String → Json → Prop} {resolved : JsonObject}
    (walked : Walked related (.obj resolver.root) (.obj resolved))
    (noReference : refOf? resolver.root = none) {version : Json}
    (declared : Dict.get? resolver.root "openapi" = some version) (plain : refsOf version = []) :
    Dict.get? resolved "openapi" = some version := by
  simp only [Walked, noReference, Json.obj.injEq] at walked
  rcases walked with ⟨fields, walked, rfl⟩
  rcases walked.get? declared with ⟨left, found, walkedVersion⟩
  rw [found, walkedVersion.eq_of_refsOf plain]

theorem convert30Schema_of_convertDocument {resolved document : JsonObject} {version : Json}
    (declared : Dict.get? resolved "openapi" = some version)
    (is30 : isOpenApi31 (version.text unicode.isPrintable) = false)
    (converts : convertDocument unicode resolved = .ok document) :
    (convert30Schema (.obj resolved) : Except (PyException Unit) Json) = .ok (.obj document) := by
  simp only [convertDocument, declared, Option.getD_some, bind_eq_ok, strOf_eq_ok] at converts
  rcases converts with ⟨_, ⟨_, rfl⟩, converts⟩
  rw [if_neg (by simp [is30])] at converts
  split at converts
  case h_1 converted isConverted =>
    cases converts
    exact isConverted
  case h_2 => cases converts
  case h_3 => cases converts

/-- A place below a reference has nothing standing at it. -/
theorem noReference_of_standsAt {segment : PathSegment} {path : List PathSegment} {fields : JsonObject}
    {value : Json} (stands : standsAt (segment :: path) (.obj fields) = some value) :
    refOf? fields = none := by
  rw [standsAt] at stands
  split at stands
  · cases stands
  case isFalse noReference => simpa [isReference] using noReference

variable {same : Json → Json → Bool}

/-- A schema of type `object` without a keyword that could reject null besides. -/
def PlainObject (schema : JsonObject) : Prop :=
  Dict.get? schema "type" = some (.str "object") ∧
    ∀ key ∈ ["allOf", "anyOf", "oneOf", "enum"], Dict.get? schema key = none

theorem valid_null_plainObject {schema : JsonObject} (distinct : DistinctKeys (.obj schema))
    (plain : PlainObject schema) :
    valid same .openApi30 (.obj schema) .null = isTrue schema "nullable" := by
  have typed : admitsNull .openApi30 schema .null = false := by
    simp [admitsNull, plain.1]
  rw [valid_obj, typed, Bool.false_or, Bool.eq_iff_iff, allHold_null_iff distinct.1]
  rw [nullKeywords, List.forall_mem_cons, plain.1]
  constructor
  · intro tolerated
    have tolerated := tolerated.1 _ rfl
    rw [holds_type, ← isTrue_eq_flag] at tolerated
    simpa [typeHolds, hasType, isNull] using tolerated
  · intro nullable
    constructor
    · rintro value ⟨⟩
      rw [holds_type, ← isTrue_eq_flag, nullable]
      simp [isNull]
    · intro key others value found
      cases (plain.2 key others).symm.trans found

/--
What is left for a nullable reference accepts null, and whatever the converted target accepts, if
and only if the target accepts null as it is written; a plain object schema does if it is
`nullable` itself.
-/
theorem nullable_reference_iff (nullAlone : ∀ value, same value .null = isNull value) {depth : Nat}
    {baseUrlOverride : Option String} {raw resolved : JsonObject} {loaded : LoadedDocument}
    (distinct : (documentResolver outside config baseDir raw).DistinctDocuments acceptsNetloc)
    (parsed : entryDocument outside config baseDir = .ok raw) {version : Json}
    (declared : Dict.get? raw "openapi" = some version) (plain : refsOf version = [])
    (is30 : isOpenApi31 (version.text unicode.isPrintable) = false)
    (resolves : ((documentResolver outside config baseDir raw).resolve unicode acceptsNetloc depth
      {}).1 = .ok resolved)
    (loads : (loadDocument unicode acceptsNetloc outside depth config baseDir
      baseUrlOverride).result = .ok loaded)
    {path : List PathSegment} {node : JsonObject} {ref : String} {left : Json}
    (stands : standsAt path (.obj raw) = some (.obj node)) (isRef : refOf? node = some ref)
    (notRoot : path ≠ [])
    (nonCircular : (documentResolver outside config baseDir raw).NonCircular unicode acceptsNetloc
      (documentResolver outside config baseDir raw).entryRoot ref)
    (kept : leftAt path (.obj resolved) (.obj loaded.document) = some left) :
    ∃ target converted,
      (documentResolver outside config baseDir raw).Unfolds unicode acceptsNetloc
          (documentResolver outside config baseDir raw).entryRoot ref target ∧
        (convert30Schema target : Except (PyException Unit) Json) = .ok converted ∧
        ((valid same .draft202012 left .null = true ∧
            ∀ given, valid same .draft202012 converted given = true →
              valid same .draft202012 left given = true) ↔
          valid same .openApi30 target .null = true) ∧
        ∀ schema, target = .obj schema → PlainObject schema →
          (valid same .openApi30 target .null = true ↔ isTrue schema "nullable" = true) := by
  have resolvedDistinct := RefResolver.resolve_distinct distinct resolves
  have walked := RefResolver.stands_unfolded.walked_resolve resolves
  have noReference : refOf? raw = none := by
    cases path with
    | nil => exact absurd rfl notRoot
    | cons segment path => exact noReference_of_standsAt stands
  have converts := convert30Schema_of_convertDocument
    (get?_openapi_resolved walked noReference declared plain) is30
    (convertDocument_of_loads parsed resolves loads)
  rcases walked.at stands with ⟨target, atPlace, walkedNode⟩
  simp only [Walked, isRef] at walkedNode
  have targetDistinct := resolvedDistinct.within (within_of_valueAt atPlace)
  have convertsTarget := leftAt_converted resolvedDistinct converts atPlace kept
  refine ⟨target, left, walkedNode nonCircular, convertsTarget, ?_, ?_⟩
  · rw [← valid_null_converted nullAlone targetDistinct convertsTarget]
    exact ⟨And.left, fun accepts => ⟨accepts, fun _ accepted => accepted⟩⟩
  · rintro schema rfl isPlain
    rw [valid_null_plainObject targetDistinct isPlain]

end Load

/-- A document with two nullable references, to a schema that is not nullable and to one that is. -/
def orderDocument : JsonObject :=
  [ ("openapi", .str "3.0.3"),
    ("shipTo", .obj [("$ref", .str "#/defs/Address"), ("nullable", .bool true)]),
    ("note", .obj [("$ref", .str "#/defs/Note"), ("nullable", .bool true)]),
    ("defs", .obj
      [ ("Address", .obj [("type", .str "object")]),
        ("Note", .obj [("type", .str "object"), ("nullable", .bool true)]) ]) ]

def orderText : String :=
  "openapi: 3.0.3\n" ++
    "shipTo: \x7b$ref: '#/defs/Address', nullable: true\x7d\n" ++
    "note: \x7b$ref: '#/defs/Note', nullable: true\x7d\n" ++
    "defs:\n" ++
    "  Address: \x7btype: object\x7d\n" ++
    "  Note: \x7btype: object, nullable: true\x7d\n"

def orderOutside : Outside where
  client := { parsesUrl := fun _ => true, get := fun _ => .ok { text := orderText } }
  files := { resolve := fun _ => none, readText := fun _ => .error "" }
  parsers :=
    { yaml := fun _ => .ok (.obj orderDocument)
      readFloat := fun repr => { value := 0, repr }
      jsonError := fun _ => "" }

def orderIntrospection : OpenApiIntrospectionConfig where
  url := some { text := "https://api.example.com/openapi.yaml" }

def resolvedOrder : JsonObject :=
  [ ("openapi", .str "3.0.3"),
    ("shipTo", .obj [("type", .str "object")]),
    ("note", .obj [("type", .str "object"), ("nullable", .bool true)]),
    ("defs", .obj
      [ ("Address", .obj [("type", .str "object")]),
        ("Note", .obj [("type", .str "object"), ("nullable", .bool true)]) ]) ]

def loadedOrder : LoadedDocument where
  document :=
    [ ("openapi", .str "3.0.3"),
      ("shipTo", .obj [("type", .str "object")]),
      ("note", .obj [("type", .arr [.str "null", .str "object"])]),
      ("defs", .obj
        [ ("Address", .obj [("type", .str "object")]),
          ("Note", .obj [("type", .arr [.str "null", .str "object"])]) ]) ]
  baseUrl := .str "https://api.example.com"
  warnings := []

/-- The resolver of that document. -/
def orderResolver : RefResolver Access FetchError :=
  documentResolver orderOutside orderIntrospection (PurePath.ofText "/etc/portal") orderDocument

theorem parsed_order :
    entryDocument orderOutside orderIntrospection (PurePath.ofText "/etc/portal") =
      .ok orderDocument := rfl

theorem resolves_order :
    (orderResolver.resolve asciiTables (fun _ => true) 2 {}).1 = .ok resolvedOrder := rfl

theorem loads_order :
    (loadDocument asciiTables (fun _ => true) orderOutside 2 orderIntrospection
      (PurePath.ofText "/etc/portal") (some "https://api.example.com")).result =
        .ok loadedOrder := rfl

theorem nonCircular_of_referenced {ref : String} {node : Json}
    (points : orderResolver.referenced asciiTables (fun _ => true) orderResolver.entryRoot ref =
      .ok (orderResolver.entryRoot, node)) (plain : refsOf node = []) :
    orderResolver.NonCircular asciiTables (fun _ => true) orderResolver.entryRoot ref := by
  constructor
  rintro ⟨newRoot, next⟩ ⟨other, otherPoints, nextMem⟩
  cases points.symm.trans otherPoints
  rw [plain] at nextMem
  cases nextMem

theorem pyEq_null (value : Json) : value.pyEq .null = isNull value := by
  cases value <;> simp [Json.pyEq, Json.number?, isNull]

theorem distinctDocuments_order : orderResolver.DistinctDocuments fun _ => true := by
  rintro root (rfl | ⟨target, found⟩)
  · simp [DistinctKeys, FieldsDistinct, RefResolver.entryRoot, orderResolver, documentResolver,
      orderDocument]
  · simp only [RefResolver.documentAt, bind_eq_ok] at found
    rcases found with ⟨_, permitted, _⟩
    cases permitted

/-- The reference is nullable, and what is left for it rejects null. -/
theorem nullable_reference_lost :
    standsAt [.field "shipTo"] (.obj orderDocument) =
        some (.obj [("$ref", .str "#/defs/Address"), ("nullable", .bool true)]) ∧
      orderResolver.NonCircular asciiTables (fun _ => true) orderResolver.entryRoot
        "#/defs/Address" ∧
      (loadDocument asciiTables (fun _ => true) orderOutside 2 orderIntrospection
        (PurePath.ofText "/etc/portal") (some "https://api.example.com")).result =
          .ok loadedOrder ∧
      valueAt [.field "shipTo"] (.obj loadedOrder.document) =
        some (.obj [("type", .str "object")]) ∧
      valid Json.pyEq .draft202012 (.obj [("type", .str "object")]) .null = false := by
  refine ⟨rfl, nonCircular_of_referenced rfl rfl, loads_order, rfl, ?_⟩
  simp [valid_obj, admitsNull, allHold, holds_type, typeHolds, hasType]

theorem nullable_reference_iff_note :
    ∃ target converted,
      orderResolver.Unfolds asciiTables (fun _ => true) orderResolver.entryRoot "#/defs/Note"
          target ∧
        (convert30Schema target : Except (PyException Unit) Json) = .ok converted ∧
        ((valid Json.pyEq .draft202012 (.obj [("type", .arr [.str "null", .str "object"])]) .null =
              true ∧
            ∀ given, valid Json.pyEq .draft202012 converted given = true →
              valid Json.pyEq .draft202012
                (.obj [("type", .arr [.str "null", .str "object"])]) given = true) ↔
          valid Json.pyEq .openApi30 target .null = true) ∧
        ∀ schema, target = .obj schema → PlainObject schema →
          (valid Json.pyEq .openApi30 target .null = true ↔ isTrue schema "nullable" = true) :=
  have is30 : isOpenApi31 ((Json.str "3.0.3").text asciiTables.isPrintable) = false := by decide
  have stands : standsAt [.field "note"] (.obj orderDocument) =
      some (.obj [("$ref", .str "#/defs/Note"), ("nullable", .bool true)]) := rfl
  nullable_reference_iff pyEq_null distinctDocuments_order parsed_order rfl rfl is30 resolves_order
    loads_order stands rfl (by simp) (nonCircular_of_referenced rfl rfl) rfl

end McpPortal
