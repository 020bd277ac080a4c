import McpPortal.Foundation.DictAlike
import McpPortal.Sources.GraphQlSource
import McpPortal.Sources.IntrospectionResult

/-!
# Upstreams that answer the introspection query

An upstream has types whose fields and arguments refer to types, through any number of wrappers. Its
answer holds what the query selects of them. It may be printed in any way, and with the fields of
its objects in any order.
-/

namespace McpPortal

open Foundation

def textOrNull : Option String → Json
  | some text => .str text
  | none => .null

def TypeRef.value : TypeRef → Json
  | .bare kind name => .obj [("kind", .str kind), ("name", textOrNull name), ("ofType", .null)]
  | .wrapping kind name ofType =>
      .obj [("kind", .str kind), ("name", textOrNull name), ("ofType", ofType.value)]

def FieldArg.value (arg : FieldArg) : Json :=
  .obj [("name", .str arg.name), ("type", arg.type.value)]

def FieldInfo.value (field : FieldInfo) : Json :=
  .obj [
    ("name", .str field.name),
    ("description", textOrNull field.description),
    ("args", .arr (field.args.map (·.value))),
    ("type", field.type.value)]

/-- Only objects and interfaces have fields. -/
def TypeInfo.value (type : TypeInfo) : Json :=
  .obj [
    ("kind", .str type.kind),
    ("name", .str type.name),
    ("fields", if type.kind ∈ expandedKinds then .arr (type.fields.map (·.value)) else .null)]

/-- What an upstream offers: its types, the meta types among them, with the fields that are not
deprecated. -/
structure UpstreamSchema where
  queryType : String
  mutationType : Option String := none
  types : List TypeInfo

namespace UpstreamSchema

def namedObject (name : String) : Json :=
  .obj [("name", .str name)]

def value (upstream : UpstreamSchema) : Json :=
  .obj [
    ("queryType", namedObject upstream.queryType),
    ("mutationType", (upstream.mutationType.map namedObject).getD .null),
    ("types", .arr (upstream.types.map (·.value)))]

/-- The answer to the introspection query. -/
def answer (upstream : UpstreamSchema) : Json :=
  .obj (SelectedField.answerAll (introspectionSelection (typeRefFragment wrappersAsked))
    [("__schema", upstream.value)])

/-- A body that reports no errors, and whose data is the answer but for the order of fields. -/
structure AnsweredBy (upstream : UpstreamSchema) (body : JsonObject) : Prop where
  noErrors : (Unchecked.field body "errors").truthy = false
  hasData : ∃ data, Dict.get? body "data" = some data ∧ Json.pyEq upstream.answer data = true

end UpstreamSchema

/-- The reference without what is wrapped more than `wrappers` times. -/
def TypeRef.cut : Nat → TypeRef → TypeRef
  | _, .bare kind name => .bare kind name
  | 0, .wrapping kind name _ => .bare kind name
  | wrappers + 1, .wrapping kind name ofType => .wrapping kind name (ofType.cut wrappers)

def FieldArg.cut (wrappers : Nat) (arg : FieldArg) : FieldArg :=
  { arg with type := arg.type.cut wrappers }

def FieldInfo.cut (wrappers : Nat) (field : FieldInfo) : FieldInfo :=
  { field with type := field.type.cut wrappers, args := field.args.map (·.cut wrappers) }

def TypeInfo.cut (wrappers : Nat) (type : TypeInfo) : TypeInfo :=
  { type with
    fields := if type.kind ∈ expandedKinds then type.fields.map (·.cut wrappers) else [] }

/-- The types that an answer tells of. -/
def UpstreamSchema.seen (upstream : UpstreamSchema) : IntrospectedSchema where
  queryType := upstream.queryType
  mutationType := upstream.mutationType
  typesByName := Dict.ofList ((upstream.types.filter fun type =>
    !Fetched.isMetaType type.name).map fun type => (type.name, type.cut wrappersAsked))

def TypeRef.unchecked : TypeRef → Fetched.TypeRef
  | .bare kind name => .bare (.str kind) (textOrNull name)
  | .wrapping kind name ofType => .wrapping (.str kind) (textOrNull name) ofType.unchecked

def FieldArg.unchecked (arg : FieldArg) : Fetched.FieldArg where
  name := .str arg.name
  type := arg.type.unchecked

def FieldInfo.unchecked (field : FieldInfo) : Fetched.FieldInfo where
  name := .str field.name
  type := field.type.unchecked
  args := field.args.map (·.unchecked)
  description := textOrNull field.description

def TypeInfo.unchecked (type : TypeInfo) : Fetched.TypeInfo where
  kind := .str type.kind
  name := type.name
  fields := type.fields.map (·.unchecked)

def IntrospectedSchema.unchecked (schema : IntrospectedSchema) : Fetched.IntrospectedSchema where
  queryType := .str schema.queryType
  mutationType := textOrNull schema.mutationType
  typesByName := schema.typesByName.map fun entry => (entry.1, entry.2.unchecked)

section Reply

open Fetched
open SelectedField (answerAll cutDown cutObject)
open Json (SameFields pyEq exists_fields_of_pyEq exists_items_of_pyEq)

@[simp]
theorem cutDown_textOrNull (cut : JsonObject → JsonObject) (text : Option String) :
    cutDown cut (textOrNull text) = textOrNull text := by
  cases text <;> rfl

theorem get?_textOrNull {left right : JsonObject} (same : SameFields left right) {key : String}
    {text : Option String} (found : Dict.get? left key = some (textOrNull text)) :
    Dict.get? right key = some (textOrNull text) := by
  cases text with
  | none => exact same.get?_null found
  | some text => exact same.get?_str found

theorem parseOfType_of_get? {fields : JsonObject} {value : Json}
    (found : Dict.get? fields "ofType" = some value) :
    parseOfType fields =
      if JsonSchema.isNull value then .ok none else some <$> parseTypeRef value := by
  induction fields with
  | nil => cases found
  | cons field rest ih =>
      rcases field with ⟨key, other⟩
      rw [Dict.get?_cons] at found
      rw [parseOfType]
      split at found
      case isTrue isKey =>
        cases found
        rw [if_pos isKey]
        rfl
      case isFalse isOther =>
        rw [if_neg isOther]
        exact ih found

theorem parseOfType_of_absent {fields : JsonObject}
    (absent : Dict.get? fields "ofType" = none) : parseOfType fields = .ok none := by
  induction fields with
  | nil => rfl
  | cons field rest ih =>
      rcases field with ⟨key, other⟩
      rw [Dict.get?_cons] at absent
      rw [parseOfType]
      split at absent
      case isTrue => cases absent
      case isFalse isOther =>
        rw [if_neg isOther]
        exact ih absent

section Refers

variable {fields : JsonObject} {kind name : Json}
  (isKind : Dict.get? fields "kind" = some kind) (isName : Dict.get? fields "name" = some name)
include isKind isName

theorem parseTypeRef_bare (wrapsNothing : parseOfType fields = .ok none) :
    parseTypeRef (.obj fields) = .ok (.bare kind name) := by
  rw [parseTypeRef, wrapsNothing, member, isKind, Unchecked.field, isName]
  rfl

theorem parseTypeRef_wrapping {ofType : Fetched.TypeRef}
    (wraps : parseOfType fields = .ok (some ofType)) :
    parseTypeRef (.obj fields) = .ok (.wrapping kind name ofType) := by
  rw [parseTypeRef, wraps, member, isKind, Unchecked.field, isName]
  rfl

end Refers

theorem parseTypeRef_of_leaves {kind : String} {name : Option String} {data : Json}
    (same : pyEq (.obj [("kind", .str kind), ("name", textOrNull name)]) data = true) :
    parseTypeRef data = .ok (TypeRef.bare kind name).unchecked := by
  rcases exists_fields_of_pyEq same (by simp) with ⟨fields, rfl, sameFields⟩
  apply parseTypeRef_bare
  · exact sameFields.get?_str rfl
  · exact get?_textOrNull sameFields rfl
  · exact parseOfType_of_absent (sameFields.get?_none rfl)

/-- A reference is read back as deep as it was asked for. -/
theorem parseTypeRef_of_pyEq (ref : TypeRef) (wrappers : Nat) {data : Json}
    (same : pyEq (cutDown (answerAll (typeRefFragment wrappers)) ref.value) data = true) :
    parseTypeRef data = .ok (ref.cut wrappers).unchecked := by
  induction ref generalizing wrappers data with
  | bare kind name =>
      cases wrappers with
      | zero =>
          have shape : cutDown (answerAll (typeRefFragment 0)) (TypeRef.bare kind name).value =
              .obj [("kind", .str kind), ("name", textOrNull name)] := by
            cases name <;> rfl
          rw [shape] at same
          exact parseTypeRef_of_leaves same
      | succ wrappers =>
          have shape : cutDown (answerAll (typeRefFragment (wrappers + 1)))
              (TypeRef.bare kind name).value =
                .obj [("kind", .str kind), ("name", textOrNull name), ("ofType", .null)] := by
            cases name <;> rfl
          rw [shape] at same
          rcases exists_fields_of_pyEq same (by simp) with ⟨fields, rfl, sameFields⟩
          apply parseTypeRef_bare
          · exact sameFields.get?_str rfl
          · exact get?_textOrNull sameFields rfl
          · rw [parseOfType_of_get? (sameFields.get?_null rfl)]
            rfl
  | wrapping kind name ofType ih =>
      cases wrappers with
      | zero =>
          have shape : cutDown (answerAll (typeRefFragment 0))
              (TypeRef.wrapping kind name ofType).value =
                .obj [("kind", .str kind), ("name", textOrNull name)] := by
            cases name <;> rfl
          rw [shape] at same
          exact parseTypeRef_of_leaves same
      | succ wrappers =>
          have shape : cutDown (answerAll (typeRefFragment (wrappers + 1)))
              (TypeRef.wrapping kind name ofType).value =
                .obj [("kind", .str kind), ("name", textOrNull name),
                  ("ofType", cutDown (answerAll (typeRefFragment wrappers)) ofType.value)] := by
            cases name <;> rfl
          rw [shape] at same
          rcases exists_fields_of_pyEq same (by simp) with ⟨fields, rfl, sameFields⟩
          rcases sameFields.exists_get? (show Dict.get? _ "ofType" = some _ from rfl) with
            ⟨inner, found, sameInner⟩
          have parsed := ih wrappers sameInner
          have notNull : JsonSchema.isNull inner = false := by
            cases inner with
            | null => cases parsed
            | _ => rfl
          apply parseTypeRef_wrapping
          · exact sameFields.get?_str rfl
          · exact get?_textOrNull sameFields rfl
          · rw [parseOfType_of_get? found, notNull, parsed]
            rfl

/-- Items that are read back one by one are read back together. -/
theorem mapM_selected {Item Parsed : Type} {parse : Json → Introspecting Parsed}
    {value : Item → Json} {cut : Json → Json} {read : Item → Parsed} {items : List Item}
    {others : List Json}
    (reads : ∀ item other, pyEq (cut (value item)) other = true → parse other = .ok (read item))
    (same : List.Forall₂ (fun item other => pyEq item other = true)
      ((items.map value).map cut) others) :
    others.mapM parse = .ok (items.map read) := by
  rw [mapM_eq_ok_iff_forall₂, List.forall₂_map_right_iff]
  rw [List.map_map, List.forall₂_map_left_iff] at same
  exact same.flip.imp fun other item equal => reads item other equal

/-- What is selected of an argument, and of a field. -/
def argSelection (typeRef : List SelectedField) : List SelectedField :=
  [.leaf "name", .object "type" typeRef]

def fieldSelection (typeRef : List SelectedField) : List SelectedField :=
  [.leaf "name", .leaf "description", .object "args" (argSelection typeRef), .object "type" typeRef]

variable {wrappers : Nat}

theorem parseArg_of_pyEq (arg : FieldArg) (data : Json)
    (same : pyEq (cutObject (answerAll (argSelection (typeRefFragment wrappers))) arg.value) data =
      true) :
    parseArg data = .ok (arg.cut wrappers).unchecked := by
  change pyEq (.obj [("name", .str arg.name),
    ("type", cutDown (answerAll (typeRefFragment wrappers)) arg.type.value)]) data = true at same
  rcases exists_fields_of_pyEq same (by simp) with ⟨fields, rfl, sameFields⟩
  have isName : Dict.get? fields "name" = some (.str arg.name) := sameFields.get?_str rfl
  rcases sameFields.exists_get? (show Dict.get? _ "type" = some _ from rfl) with
    ⟨type, isType, sameType⟩
  have parsed := parseTypeRef_of_pyEq arg.type wrappers sameType
  simp only [parseArg, member, isName, isType, pure_bind, parsed]
  rfl

theorem parseField_of_pyEq (own : FieldInfo) (data : Json)
    (same : pyEq (cutObject (answerAll (fieldSelection (typeRefFragment wrappers))) own.value)
      data = true) :
    parseField data = .ok (own.cut wrappers).unchecked := by
  change pyEq (.obj [("name", .str own.name),
    ("description", cutDown (answerAll []) (textOrNull own.description)),
    ("args", .arr ((own.args.map (·.value)).map (cutObject (answerAll
      (argSelection (typeRefFragment wrappers)))))),
    ("type", cutDown (answerAll (typeRefFragment wrappers)) own.type.value)]) data = true at same
  rw [cutDown_textOrNull] at same
  rcases exists_fields_of_pyEq same (by simp) with ⟨fields, rfl, sameFields⟩
  have isName : Dict.get? fields "name" = some (.str own.name) := sameFields.get?_str rfl
  have isDescription : Dict.get? fields "description" = some (textOrNull own.description) :=
    get?_textOrNull sameFields rfl
  rcases sameFields.exists_get? (show Dict.get? _ "type" = some _ from rfl) with
    ⟨type, isType, sameType⟩
  rcases sameFields.exists_get? (show Dict.get? _ "args" = some _ from rfl) with
    ⟨args, isArgs, sameArgs⟩
  rcases exists_items_of_pyEq sameArgs with ⟨others, rfl, sameOthers⟩
  have parsed := mapM_selected (@parseArg_of_pyEq wrappers) sameOthers
  simp only [parseField, member, isName, isType, pure_bind, Unchecked.listField, Unchecked.field,
    isArgs, isDescription, Option.getD_some, parseTypeRef_of_pyEq own.type wrappers sameType]
  change (do
    let args ← others.mapM parseArg
    return ({
      name := .str own.name, type := (own.type.cut wrappers).unchecked, args
      description := textOrNull own.description } : Fetched.FieldInfo)) = _
  rw [parsed]
  dsimp only [FieldInfo.cut, FieldInfo.unchecked]
  rw [List.map_map]
  rfl

def typeSelection (typeRef : List SelectedField) : List SelectedField :=
  [ .leaf "kind", .leaf "name",
    .field "fields" "(includeDeprecated: false)" (fieldSelection typeRef)]

/-- What is read of a type; of a meta type it is nothing. -/
def readType (wrappers : Nat) (type : TypeInfo) : Option (String × Fetched.TypeInfo) :=
  if isMetaType type.name then none else some (type.name, (type.cut wrappers).unchecked)

/-- The fields that are listed, or null, are read back. -/
theorem parseFields_of_pyEq (type : TypeInfo) {fields : JsonObject} {listed : Json}
    (isListed : Dict.get? fields "fields" = some listed)
    (same : pyEq (cutDown (answerAll (fieldSelection (typeRefFragment wrappers)))
      (if type.kind ∈ expandedKinds then .arr (type.fields.map (·.value)) else .null)) listed =
        true) :
    parseFields fields = .ok (type.cut wrappers).unchecked.fields := by
  have eachItem (items : List Json) : (if (Json.arr items).truthy then do
        let items ← iterate (.arr items)
        items.mapM parseField
      else return []) = items.mapM parseField := by
    cases items <;> rfl
  unfold parseFields
  rw [Unchecked.field, isListed, Option.getD_some]
  dsimp only [TypeInfo.cut, TypeInfo.unchecked]
  split at same
  case isTrue expanded =>
    rcases exists_items_of_pyEq same with ⟨others, rfl, sameOthers⟩
    rw [if_pos expanded, eachItem, mapM_selected (@parseField_of_pyEq wrappers) sameOthers,
      List.map_map]
    rfl
  case isFalse other =>
    rw [Json.null_pyEq_iff.mp same, if_neg other]
    rfl

theorem parseType_of_pyEq (type : TypeInfo) (data : Json)
    (same : pyEq (cutObject (answerAll (typeSelection (typeRefFragment wrappers))) type.value)
      data = true) :
    parseType data = .ok (readType wrappers type) := by
  change pyEq (.obj [("kind", .str type.kind), ("name", .str type.name),
    ("fields", cutDown (answerAll (fieldSelection (typeRefFragment wrappers)))
      (if type.kind ∈ expandedKinds then .arr (type.fields.map (·.value)) else .null))]) data =
        true at same
  rcases exists_fields_of_pyEq same (by simp) with ⟨fields, rfl, sameFields⟩
  have isKind : Dict.get? fields "kind" = some (.str type.kind) := sameFields.get?_str rfl
  have isName : Dict.get? fields "name" = some (.str type.name) := sameFields.get?_str rfl
  rcases sameFields.exists_get? (show Dict.get? _ "fields" = some _ from rfl) with
    ⟨listed, isListed, sameListed⟩
  rw [parseType, Unchecked.field, isName]
  unfold readType
  change (if isMetaType type.name = true then _ else _) = _
  split
  · rfl
  · rw [parseFields_of_pyEq type isListed sameListed, member, isKind]
    rfl

theorem reduceOption_readType (types : List TypeInfo) :
    (types.map (readType wrappers)).reduceOption =
      (types.filter fun type => !isMetaType type.name).map fun type =>
        (type.name, (type.cut wrappers).unchecked) := by
  induction types with
  | nil => rfl
  | cons type rest ih =>
      rw [List.map_cons, List.filter_cons]
      cases isMeta : isMetaType type.name with
      | true =>
          rw [readType, if_pos isMeta, List.reduceOption_cons_of_none, ih]
          rfl
      | false =>
          rw [readType, if_neg (by simp [isMeta]), List.reduceOption_cons_of_some, ih]
          rfl

theorem parseSchema_eq_ok (queryType : String) (mutationType : Option String)
    {fields query : JsonObject} {mutation : Json} {items : List Json}
    {types : List (Option (String × Fetched.TypeInfo))}
    (isTypes : Dict.get? fields "types" = some (.arr items))
    (parsed : items.mapM parseType = .ok types)
    (isQuery : Dict.get? fields "queryType" = some (.obj query))
    (isQueryName : Dict.get? query "name" = some (.str queryType))
    (isMutation : Dict.get? fields "mutationType" = some mutation)
    (isMutationName : nameOf (if mutation.truthy then mutation else .obj []) =
      .ok (textOrNull mutationType)) :
    parseSchema fields =
      .ok {
        queryType := .str queryType
        mutationType := textOrNull mutationType
        typesByName := Dict.ofList types.reduceOption } := by
  have isName : nameOf (Unchecked.objectField fields "queryType") = .ok (.str queryType) := by
    rw [Unchecked.objectField, isQuery]
    change Except.ok (Unchecked.field query "name") = _
    rw [Unchecked.field, isQueryName]
    rfl
  unfold parseSchema
  rw [Unchecked.listField, isTypes, Option.getD_some, isName, Unchecked.field, isMutation,
    Option.getD_some]
  change (do
    let types ← items.mapM parseType
    let mutationType ← nameOf (if mutation.truthy then mutation else .obj [])
    return ({
      queryType := .str queryType, mutationType, typesByName := Dict.ofList types.reduceOption } :
        Fetched.IntrospectedSchema)) = _
  rw [parsed, isMutationName]
  rfl

/-- The name of the mutation type is read back, if there is one. -/
theorem nameOf_of_pyEq (mutationType : Option String) {mutation : Json}
    (same : pyEq (cutDown (answerAll [.leaf "name"])
      ((mutationType.map UpstreamSchema.namedObject).getD .null)) mutation = true) :
    nameOf (if mutation.truthy then mutation else .obj []) = .ok (textOrNull mutationType) := by
  cases mutationType with
  | none =>
      rw [Json.null_pyEq_iff.mp same]
      rfl
  | some name =>
      change pyEq (.obj [("name", .str name)]) mutation = true at same
      rcases exists_fields_of_pyEq same (by simp) with ⟨fields, rfl, sameFields⟩
      have isName : Dict.get? fields "name" = some (.str name) := sameFields.get?_str rfl
      have nonempty : (Json.obj fields).truthy = true := by
        cases fields with
        | nil => cases isName
        | cons => rfl
      rw [if_pos nonempty]
      change Except.ok (Unchecked.field fields "name") = _
      rw [Unchecked.field, isName]
      rfl

/-- The schema of an upstream is read from its answer. -/
theorem parse_of_answeredBy {upstream : UpstreamSchema} {body : JsonObject}
    (answered : upstream.AnsweredBy body) :
    parseIntrospectionResult body = .ok upstream.seen.unchecked := by
  rcases answered.hasData with ⟨data, isData, same⟩
  change pyEq (.obj [("__schema", .obj [
    ("queryType", .obj [("name", .str upstream.queryType)]),
    ("mutationType", cutDown (answerAll [.leaf "name"])
      ((upstream.mutationType.map UpstreamSchema.namedObject).getD .null)),
    ("types", .arr ((upstream.types.map (·.value)).map (cutObject (answerAll
      (typeSelection (typeRefFragment wrappersAsked))))))])]) data = true at same
  rcases exists_fields_of_pyEq same (by simp) with ⟨fields, rfl, sameFields⟩
  rcases sameFields.exists_get? (show Dict.get? _ "__schema" = some _ from rfl) with
    ⟨schema, isSchema, sameSchema⟩
  rcases exists_fields_of_pyEq sameSchema (by simp) with ⟨parts, rfl, sameParts⟩
  rcases sameParts.exists_get? (show Dict.get? _ "types" = some _ from rfl) with
    ⟨types, isTypes, sameTypes⟩
  rcases exists_items_of_pyEq sameTypes with ⟨items, rfl, sameItems⟩
  rcases sameParts.exists_get? (show Dict.get? _ "queryType" = some _ from rfl) with
    ⟨query, isQuery, sameQuery⟩
  rcases exists_fields_of_pyEq sameQuery (by simp) with ⟨queryFields, rfl, sameQueryFields⟩
  rcases sameParts.exists_get? (show Dict.get? _ "mutationType" = some _ from rfl) with
    ⟨mutation, isMutation, sameMutation⟩
  have parsed := parseSchema_eq_ok upstream.queryType upstream.mutationType isTypes
    (mapM_selected (@parseType_of_pyEq wrappersAsked) sameItems) isQuery
    (sameQueryFields.get?_str rfl) isMutation (nameOf_of_pyEq upstream.mutationType sameMutation)
  have types := Dict.ofList_mapped TypeInfo.unchecked
    ((upstream.types.filter fun type => !isMetaType type.name).map fun type =>
      (type.name, type.cut wrappersAsked))
  rw [List.map_map] at types
  unfold parseIntrospectionResult
  rw [Unchecked.field, isData, Option.getD_some]
  dsimp only
  rw [Unchecked.field, isSchema, Option.getD_some]
  dsimp only
  rw [parsed, reduceOption_readType]
  exact congrArg (fun typesByName => Except.ok ({
    queryType := .str upstream.queryType
    mutationType := textOrNull upstream.mutationType
    typesByName } : Fetched.IntrospectedSchema)) types

theorem checkErrors_of_answeredBy {upstream : UpstreamSchema} {body : JsonObject}
    (answered : upstream.AnsweredBy body) : checkErrors body = .ok () := by
  rw [checkErrors, answered.noErrors]
  rfl

/-- An upstream that answers the query with its schema is fetched. -/
theorem fetchSchema_of_answeredBy (outside : GraphQlOutside) (url : String)
    {upstream : UpstreamSchema} {text : String} {body : JsonObject}
    (posted : outside.post url (.obj [("query", .str introspectionQuery)]) = .ok text)
    (loaded : loads outside.readFloat text = some (.obj body))
    (answered : upstream.AnsweredBy body) :
    fetchSchema outside url = .ok upstream.seen.unchecked := by
  unfold fetchSchema
  rw [posted]
  simp only [Except.mapError, bind, Except.bind, loaded, checkErrors_of_answeredBy answered]
  exact parse_of_answeredBy answered

open JsonText (Readable readableItems_iff)

variable {readFloat : String → PyFloat}

theorem readable_textOrNull (text : Option String) : Readable readFloat (textOrNull text) := by
  cases text <;> exact trivial

theorem readable_typeRef (ref : TypeRef) : Readable readFloat ref.value := by
  induction ref with
  | bare kind name => exact ⟨by simp, trivial, readable_textOrNull name, trivial, trivial⟩
  | wrapping kind name ofType ih =>
      exact ⟨by simp, trivial, readable_textOrNull name, ih, trivial⟩

theorem readable_values {Item : Type} {value : Item → Json} (items : List Item)
    (readable : ∀ item, Readable readFloat (value item)) :
    Readable readFloat (.arr (items.map value)) := by
  apply readableItems_iff.mpr
  intro data dataMem
  rcases List.mem_map.mp dataMem with ⟨item, _, rfl⟩
  exact readable item

theorem readable_arg (arg : FieldArg) : Readable readFloat arg.value :=
  ⟨by simp, trivial, readable_typeRef arg.type, trivial⟩

theorem readable_field (own : FieldInfo) : Readable readFloat own.value :=
  ⟨by simp, trivial, readable_textOrNull own.description, readable_values own.args readable_arg,
    readable_typeRef own.type, trivial⟩

theorem readable_type (type : TypeInfo) : Readable readFloat type.value := by
  have fields : Readable readFloat (if type.kind ∈ expandedKinds then
      .arr (type.fields.map (·.value)) else .null) := by
    split
    · exact readable_values type.fields readable_field
    · trivial
  exact ⟨by simp, trivial, trivial, fields, trivial⟩

theorem readable_upstream (upstream : UpstreamSchema) : Readable readFloat upstream.value := by
  have mutationType : Readable readFloat
      ((upstream.mutationType.map UpstreamSchema.namedObject).getD .null) := by
    cases upstream.mutationType with
    | none => trivial
    | some name => exact ⟨by simp, trivial, trivial⟩
  exact ⟨by simp, ⟨by simp, trivial, trivial⟩, mutationType,
    readable_values upstream.types readable_type, trivial⟩

theorem readable_answer (upstream : UpstreamSchema) : Readable readFloat upstream.answer := by
  have distinct : SelectedField.DistinctAll
      (introspectionSelection (typeRefFragment wrappersAsked)) := by
    simp [introspectionSelection, typeRefFragment, wrappersAsked, SelectedField.DistinctAll,
      SelectedField.Distinct, SelectedField.name]
  exact SelectedField.readable_answerAll _ distinct
    (⟨by simp, readable_upstream upstream, trivial⟩ :
      Readable readFloat (.obj [("__schema", upstream.value)]))

end Reply

/-- How often the type of a reference is wrapped. -/
def TypeRef.wrappers : TypeRef → Nat
  | .bare _ _ => 0
  | .wrapping _ _ ofType => ofType.wrappers + 1

/-- Just the wrappers wrap something. -/
def TypeRef.ProperlyWrapped : TypeRef → Prop
  | .bare kind _ => isWrapper kind = false
  | .wrapping kind _ ofType => isWrapper kind = true ∧ ofType.ProperlyWrapped

theorem TypeRef.cut_eq_self {ref : TypeRef} {wrappers : Nat} (shallow : ref.wrappers ≤ wrappers) :
    ref.cut wrappers = ref := by
  induction ref generalizing wrappers with
  | bare kind name => cases wrappers <;> rfl
  | wrapping kind name ofType ih =>
      cases wrappers with
      | zero => cases shallow
      | succ wrappers => rw [TypeRef.cut, ih (Nat.le_of_succ_le_succ shallow)]

/-- The named type of a reference is lost if it is wrapped too often. -/
theorem TypeRef.namedType_cut {Error : Type} {ref : TypeRef} (wellFormed : ref.ProperlyWrapped)
    {wrappers : Nat} (deep : wrappers < ref.wrappers) :
    namedType (ref.cut wrappers) =
      (.error .assertionError : Except (PyException Error) TypeRef) := by
  induction ref generalizing wrappers with
  | bare kind name => cases deep
  | wrapping kind name ofType ih =>
      cases wrappers with
      | zero => rw [TypeRef.cut, namedType, if_pos wellFormed.1]; rfl
      | succ wrappers =>
          rw [TypeRef.cut, namedType, if_pos wellFormed.1]
          exact ih wellFormed.2 (Nat.lt_of_succ_lt_succ deep)

/-- The type as its upstream has it. -/
def TypeInfo.own (type : TypeInfo) : TypeInfo :=
  { type with fields := if type.kind ∈ expandedKinds then type.fields else [] }

/-- The references of the fields and their arguments. -/
def TypeInfo.references (type : TypeInfo) : List TypeRef :=
  type.own.fields.flatMap fun own => own.type :: own.args.map (·.type)

theorem FieldInfo.cut_eq_self {own : FieldInfo} {wrappers : Nat}
    (shallow : ∀ ref ∈ own.type :: own.args.map (·.type), ref.wrappers ≤ wrappers) :
    own.cut wrappers = own := by
  rw [List.forall_mem_cons, List.forall_mem_map] at shallow
  have args : own.args.map (·.cut wrappers) = own.args.map id := by
    apply List.map_congr_left
    intro arg argMem
    rw [FieldArg.cut, TypeRef.cut_eq_self (shallow.2 arg argMem)]
    rfl
  rw [FieldInfo.cut, TypeRef.cut_eq_self shallow.1, args, List.map_id]

/-- The fields of the type, cut down. -/
def TypeInfo.cutFields (wrappers : Nat) (type : TypeInfo) : TypeInfo :=
  { type with fields := type.fields.map (·.cut wrappers) }

theorem TypeInfo.cut_eq_cutFields (type : TypeInfo) (wrappers : Nat) :
    type.cut wrappers = type.own.cutFields wrappers := by
  unfold TypeInfo.cut TypeInfo.cutFields TypeInfo.own
  dsimp only
  split <;> rfl

theorem TypeInfo.cut_eq_own {type : TypeInfo} {wrappers : Nat}
    (shallow : ∀ ref ∈ type.references, ref.wrappers ≤ wrappers) :
    type.cut wrappers = type.own := by
  have fields : type.own.fields.map (·.cut wrappers) = type.own.fields.map id := by
    apply List.map_congr_left
    intro own ownMem
    apply FieldInfo.cut_eq_self
    intro ref refMem
    exact shallow ref (List.mem_flatMap.mpr ⟨own, ownMem, refMem⟩)
  rw [TypeInfo.cut_eq_cutFields, TypeInfo.cutFields, fields, List.map_id]

namespace UpstreamSchema

/-- The types that are no meta types. -/
def ownTypes (upstream : UpstreamSchema) : List TypeInfo :=
  upstream.types.filter fun type => !Fetched.isMetaType type.name

/-- The schema of an upstream, without its meta types. -/
def own (upstream : UpstreamSchema) : IntrospectedSchema where
  queryType := upstream.queryType
  mutationType := upstream.mutationType
  typesByName := Dict.ofList (upstream.ownTypes.map fun type => (type.name, type.own))

/-- Where nothing is wrapped too often, the own schema is seen. -/
theorem seen_eq_own {upstream : UpstreamSchema}
    (shallow : ∀ type ∈ upstream.ownTypes, ∀ ref ∈ type.references, ref.wrappers ≤ wrappersAsked) :
    upstream.seen = upstream.own := by
  have types : (upstream.ownTypes.map fun type => (type.name, type.cut wrappersAsked)) =
      upstream.ownTypes.map fun type => (type.name, type.own) := by
    apply List.map_congr_left
    intro type typeMem
    rw [TypeInfo.cut_eq_own (shallow type typeMem)]
  unfold seen own
  rw [← types]
  rfl

theorem typesByName_seen (upstream : UpstreamSchema) :
    upstream.seen.typesByName = upstream.own.typesByName.map fun entry =>
      (entry.1, entry.2.cutFields wrappersAsked) := by
  have mapped := Dict.ofList_mapped (TypeInfo.cutFields wrappersAsked)
    (upstream.ownTypes.map fun type => (type.name, type.own))
  rw [List.map_map] at mapped
  have types : (upstream.ownTypes.map fun type => (type.name, type.cut wrappersAsked)) =
      upstream.ownTypes.map ((fun entry => (entry.1, entry.2.cutFields wrappersAsked)) ∘
        fun type => (type.name, type.own)) := by
    apply List.map_congr_left
    intro type _
    rw [TypeInfo.cut_eq_cutFields]
    rfl
  rw [own, ← mapped, ← types]
  rfl

open GraphQlSource

theorem rootFields_seen (upstream : UpstreamSchema) (operationType : GraphQlOperationType)
    (typeName : Option String) :
    rootFields upstream.seen operationType typeName =
      (rootFields upstream.own operationType typeName).map fun rootField =>
        (rootField.1, rootField.2.cut wrappersAsked) := by
  unfold rootFields
  rw [typesByName_seen]
  cases typeName with
  | none => rfl
  | some name =>
      rw [Option.bind_some, Option.bind_some, Dict.get?_mapped]
      cases Dict.get? upstream.own.typesByName name with
      | none => rfl
      | some root =>
          dsimp only [Option.map_some, TypeInfo.cutFields]
          rw [List.map_map, List.map_map]
          rfl

theorem allRootFields_seen (upstream : UpstreamSchema) :
    allRootFields upstream.seen = (allRootFields upstream.own).map fun rootField =>
      (rootField.1, rootField.2.cut wrappersAsked) := by
  unfold allRootFields
  rw [List.map_append, ← rootFields_seen, ← rootFields_seen]
  rfl

/-- A root field whose type is wrapped too often ends the load. -/
theorem not_operations_of_deep {upstream : UpstreamSchema} (upstreamKey : String)
    (typePolicy : List (String × List String)) (depth : Nat)
    {rootField : GraphQlOperationType × FieldInfo} (isRoot : rootField ∈ allRootFields upstream.own)
    (wellFormed : rootField.2.type.ProperlyWrapped)
    (deep : wrappersAsked < rootField.2.type.wrappers)
    (operations : List Operation) :
    GraphQlSource.operations upstreamKey upstream.seen typePolicy depth ≠ .ok operations := by
  intro ran
  simp only [GraphQlSource.operations, bind_eq_ok, pure_eq_ok] at ran
  rcases ran with ⟨built, each, _⟩
  rw [mapM_eq_ok_iff_forall₂, allRootFields_seen, List.forall₂_map_left_iff] at each
  rcases exists_right_of_forall₂ each isRoot with ⟨operation, _, builds⟩
  simp only [GraphQlSource.build, bind_eq_ok] at builds
  rcases builds with ⟨returnType, isNamed, _⟩
  have lost := @TypeRef.namedType_cut SelectionError _ wellFormed _ deep
  cases isNamed.symm.trans lost

/--
An upstream that answers the introspection query, in a text that is read as its answer, is fetched:
its types but the meta types, and nothing is missing if no reference is wrapped more than six times.
If the type of a root field is, its operations cannot be loaded.
-/
theorem fetched_of_answers (outside : Fetched.GraphQlOutside) (url : String)
    (upstream : UpstreamSchema) {text : String} {body : JsonObject}
    (posted : outside.post url (.obj [("query", .str introspectionQuery)]) = .ok text)
    (loaded : loads outside.readFloat text = some (.obj body))
    (answered : upstream.AnsweredBy body) :
    Fetched.fetchSchema outside url = .ok upstream.seen.unchecked ∧
      ((∀ type ∈ upstream.ownTypes, ∀ ref ∈ type.references, ref.wrappers ≤ wrappersAsked) →
        upstream.seen = upstream.own) ∧
      ∀ rootField ∈ allRootFields upstream.own, rootField.2.type.ProperlyWrapped →
        wrappersAsked < rootField.2.type.wrappers →
        ∀ upstreamKey typePolicy depth operations,
          GraphQlSource.operations upstreamKey upstream.seen typePolicy depth ≠ .ok operations := by
  refine ⟨fetchSchema_of_answeredBy outside url posted loaded answered, seen_eq_own, ?_⟩
  intro rootField isRoot wellFormed deep upstreamKey typePolicy depth operations
  exact not_operations_of_deep upstreamKey typePolicy depth isRoot wellFormed deep operations

section Grid

theorem mem_rootFields {schema : IntrospectedSchema} {operationType : GraphQlOperationType}
    {name : String} {root : TypeInfo} (isRoot : Dict.get? schema.typesByName name = some root)
    {field : FieldInfo} (fieldMem : field ∈ root.fields) :
    (operationType, field) ∈ rootFields schema operationType (some name) := by
  unfold rootFields
  rw [Option.bind_some, isRoot]
  exact List.mem_map_of_mem fieldMem

private def cellRef : Nat → TypeRef
  | 0 => .bare "SCALAR" (some "Int")
  | wrappers + 1 => .wrapping "LIST" none (cellRef wrappers)

/-- A field that is a list of lists, and a meta type. -/
private def gridUpstream (wrappers : Nat) : UpstreamSchema where
  queryType := "Query"
  types :=
    [ { kind := "OBJECT", name := "Query"
        fields := [{ name := "grid", type := cellRef wrappers }] },
      { kind := "OBJECT", name := "__Type" } ]

/-- The answer with the parts of the schema in another order. -/
private def gridData (wrappers : Nat) : Json :=
  let types := (gridUpstream wrappers).types.map fun type =>
    SelectedField.cutObject (SelectedField.answerAll (typeSelection (typeRefFragment wrappersAsked)))
      type.value
  .obj [
    ("__schema", .obj [
      ("types", .arr types), ("mutationType", .null), ("queryType", namedObject "Query")])]

private def gridBody (wrappers : Nat) : JsonObject :=
  [("extensions", .obj []), ("data", gridData wrappers)]

private def gridOutside (wrappers : Nat) : Fetched.GraphQlOutside where
  post _ _ := .ok (dumps (.obj (gridBody wrappers)))
  readFloat text := { value := 0, repr := text }
  jsonError _ := ""

private theorem loads_gridBody (wrappers : Nat) :
    loads (gridOutside wrappers).readFloat (dumps (.obj (gridBody wrappers))) =
      some (.obj (gridBody wrappers)) := by
  apply loads_dumps
  rcases @readable_answer (gridOutside wrappers).readFloat (gridUpstream wrappers) with
    ⟨_, ⟨_, _, _, types, _⟩, _⟩
  exact ⟨by simp [gridBody], ⟨by simp, trivial⟩,
    ⟨by simp, ⟨by simp, types, trivial, ⟨by simp, trivial, trivial⟩, trivial⟩, trivial⟩, trivial⟩

/-- Two dimensions are fetched; seven are too many. -/
theorem fetched_of_answers_grid :
    (∃ schema : IntrospectedSchema,
      Fetched.fetchSchema (gridOutside 2) "https://grid.example/graphql" = .ok schema.unchecked ∧
      schema = (gridUpstream 2).own ∧ Dict.keys schema.typesByName = ["Query"]) ∧
    ∀ operations, GraphQlSource.operations "grid" (gridUpstream 7).seen [] 10 ≠ .ok operations := by
  have shallow := fetched_of_answers (gridOutside 2) "https://grid.example/graphql" (gridUpstream 2)
    rfl (loads_gridBody 2) ⟨rfl, gridData 2, rfl, by decide +kernel⟩
  have deep := fetched_of_answers (gridOutside 7) "https://grid.example/graphql" (gridUpstream 7)
    rfl (loads_gridBody 7) ⟨rfl, gridData 7, rfl, by decide +kernel⟩
  refine ⟨⟨_, shallow.1, shallow.2.1 (by decide +kernel), by decide +kernel⟩, ?_⟩
  apply deep.2.2 (.query, { name := "grid", type := cellRef 7 })
  · have isQuery : Dict.get? (gridUpstream 7).own.typesByName "Query" = some {
        kind := "OBJECT", name := "Query", fields := [{ name := "grid", type := cellRef 7 }] } := rfl
    apply List.mem_append_left
    exact mem_rootFields isQuery (List.mem_singleton_self _)
  · simp [cellRef, TypeRef.ProperlyWrapped, isWrapper]
  · decide

end Grid

end UpstreamSchema

end McpPortal
