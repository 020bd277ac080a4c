import McpPortal.Configure.Introspected
import McpPortal.Foundation.JsonEq
import McpPortal.Sources.DeclaredOperations
import McpPortal.Sources.ExplicitEntries
import McpPortal.Sources.FlattenSettled

/-!
# Flattening a binding with equal schemas

A recorded binding that compares equal to the one of a document has the same names, and its schemas
are equal values. So it is settled if the other is, unless its body lists its properties as
dictionaries: the order of their fields, which equality ignores, then decides on the names.
-/

namespace McpPortal

open Foundation

/-- A list of which some item is a dictionary. -/
def ListsDictionary : Json → Prop
  | .arr items => ∃ fields, Json.obj fields ∈ items
  | _ => False

section Dictionaries

variable {Error : Type}

theorem keys_assign_congr {left right : PyDict Json} (same : Dict.keys left = Dict.keys right)
    {key other : DictKey} (sameKey : key.key = other.key) (value valueToo : Json) :
    Dict.keys (left.assign key value) = Dict.keys (right.assign other valueToo) := by
  have inserts : ∀ (entries : PyDict Json) (key : DictKey) (value : Json),
      ∃ spelling, entries.assign key value = Dict.insert entries key.key spelling := by
    intro entries key value
    unfold PyDict.assign
    split <;> exact ⟨_, rfl⟩
  rcases inserts left key value with ⟨spelling, assigned⟩
  rcases inserts right other valueToo with ⟨spellingToo, assignedToo⟩
  rw [assigned, assignedToo, sameKey]
  exact Dict.keys_insert_congr same other.key spelling spellingToo

theorem keys_assignAll_congr {left right : List (DictKey × Json)}
    (same : left.map (·.1.key) = right.map (·.1.key)) {start other : PyDict Json}
    (sameStart : Dict.keys start = Dict.keys other) :
    Dict.keys (start.assignAll left) = Dict.keys (other.assignAll right) := by
  induction left generalizing right start other with
  | nil =>
      cases right with
      | nil => exact sameStart
      | cons => cases same
  | cons first rest ih =>
      cases right with
      | nil => cases same
      | cons firstToo restToo =>
          rw [List.map_cons, List.map_cons, List.cons.injEq] at same
          exact ih same.2 (keys_assign_congr sameStart same.1 first.2 firstToo.2)

/-- Equal items that are no dictionaries make pairs with the same key. -/
theorem pairOf_of_pyEq {left right : Json} (same : Json.pyEq left right = true)
    (plain : ∀ fields, left ≠ .obj fields) {pair : DictKey × Json}
    (ran : (pairOf right : Except (PyException Error) _) = .ok pair) :
    ∃ other, (pairOf left : Except (PyException Error) _) = .ok other ∧
      other.1.key = pair.1.key := by
  cases right with
  | null => cases ran
  | bool _ => cases ran
  | int _ => cases ran
  | float _ => cases ran
  | str text =>
      rw [Json.pyEq_str_iff.mp same]
      exact ⟨pair, ran, rfl⟩
  | obj fields =>
      rcases Json.pyEq_obj_iff.mp same with ⟨lefts, isObject, _⟩
      exact absurd isObject (plain lefts)
  | arr items =>
      rcases Json.pyEq_arr_iff.mp same with ⟨lefts, rfl, sameItems⟩
      rw [Json.pyEqItems_iff_forall₂] at sameItems
      unfold pairOf at ran
      split at ran
      · cases ran
      case h_2 key value isPair =>
        cases isPair
        rcases List.forall₂_cons_right_iff.mp sameItems with ⟨first, _, sameKey, rest, rfl⟩
        rcases List.forall₂_cons_right_iff.mp rest with ⟨second, _, _, nothing, rfl⟩
        cases nothing
        rcases bind_eq_ok.mp ran with ⟨hashedKey, hashes, result⟩
        cases result
        have isKey : first.hashKey? = some hashedKey.key := by
          rw [Json.hashKey?_of_pyEq sameKey, ← Unchecked.value_of_hashed hashes]
          exact hashedKey.hashes
        refine ⟨(⟨first, hashedKey.key, isKey⟩, second), ?_, rfl⟩
        simp only [pairOf, Json.iterate?, hashed_of_some isKey]
        rfl
      · cases ran

theorem mapM_pairOf_of_pyEq {lefts rights : List Json}
    (same : List.Forall₂ (fun left right => Json.pyEq left right = true) lefts rights)
    (plain : ∀ fields, Json.obj fields ∉ lefts) {pairs : List (DictKey × Json)}
    (ran : (rights.mapM pairOf : Except (PyException Error) _) = .ok pairs) :
    ∃ others, (lefts.mapM pairOf : Except (PyException Error) _) = .ok others ∧
      others.map (·.1.key) = pairs.map (·.1.key) := by
  rw [mapM_eq_ok_iff_forall₂] at ran
  simp only [mapM_eq_ok_iff_forall₂]
  induction same generalizing pairs with
  | nil =>
      cases ran
      exact ⟨[], .nil, rfl⟩
  | @cons left right lefts rights sameItem _ ih =>
      rcases List.forall₂_cons_left_iff.mp ran with ⟨pair, rest, converted, restRan, rfl⟩
      have notObject : ∀ fields, left ≠ .obj fields := by
        rintro fields rfl
        exact plain fields List.mem_cons_self
      rcases pairOf_of_pyEq sameItem notObject converted with ⟨other, otherConverted, sameKey⟩
      rcases ih (fun fields fieldsMem => plain fields (List.mem_cons_of_mem _ fieldsMem)) restRan
        with ⟨others, othersRan, sameKeys⟩
      refine ⟨other :: others, .cons otherConverted othersRan, ?_⟩
      rw [List.map_cons, List.map_cons, sameKey, sameKeys]

/-- The keys of a dictionary that is built from pairs. -/
theorem keys_map_assignAll (pairs : List (DictKey × Json)) :
    (PyDict.keys (PyDict.assignAll [] pairs)).map (·.key) =
      Dict.keys (PyDict.assignAll [] pairs) := by
  have noEntries : PyDict.Spelled ([] : PyDict Json) := ⟨List.nodup_nil, nofun⟩
  rw [PyDict.keys, List.map_map, Dict.keys]
  exact List.map_congr_left (PyDict.spelled_assignAll pairs noEntries).spelled

/-- The keys of a dictionary that is built from an object. -/
theorem keys_map_fields (fields : JsonObject) :
    (PyDict.keys (fields.map fun field =>
      ((.text field.1, .ofText field.1, field.2) : HashKey × DictKey × Json))).map (·.key) =
        (Dict.keys fields).map HashKey.text := by
  rw [PyDict.keys, List.map_map, List.map_map, Dict.keys, List.map_map]
  rfl

theorem dictOf_of_pyEq {left right : Json} (same : Json.pyEq left right = true)
    (distinct : Json.Distinct left) (plain : ¬ListsDictionary left) {entries : PyDict Json}
    (ran : (dictOf right : Except (PyException Error) _) = .ok entries) :
    ∃ others, (dictOf left : Except (PyException Error) _) = .ok others ∧
      (others.keys.map (·.key)).Perm (entries.keys.map (·.key)) := by
  cases right with
  | null => cases ran
  | bool _ => cases ran
  | int _ => cases ran
  | float _ => cases ran
  | str text =>
      rw [Json.pyEq_str_iff.mp same]
      exact ⟨entries, ran, .refl _⟩
  | obj rights =>
      rcases Json.pyEq_obj_iff.mp same with ⟨lefts, rfl, sameFields⟩
      cases ran
      refine ⟨_, rfl, ?_⟩
      rw [keys_map_fields, keys_map_fields]
      exact (Json.keys_perm_of_pyEq sameFields distinct.1).map HashKey.text
  | arr items =>
      rcases Json.pyEq_arr_iff.mp same with ⟨lefts, rfl, sameItems⟩
      rw [Json.pyEqItems_iff_forall₂] at sameItems
      have noObjects : ∀ fields, Json.obj fields ∉ lefts := fun fields isItem =>
        plain ⟨fields, isItem⟩
      simp only [dictOf, iterate, Json.iterate?, bind_eq_ok, pure_eq_ok, Except.ok.injEq,
        exists_eq_left'] at ran ⊢
      rcases ran with ⟨pairs, converted, rfl⟩
      rcases mapM_pairOf_of_pyEq sameItems noObjects converted with ⟨others, othersRan, sameKeys⟩
      refine ⟨_, ⟨others, othersRan, rfl⟩, ?_⟩
      rw [keys_map_assignAll, keys_map_assignAll, keys_assignAll_congr sameKeys rfl]

end Dictionaries

theorem iterate?_of_pyEq {left right : Json} (same : Json.pyEq left right = true)
    {items : List Json} (iterated : right.iterate? = some items) :
    ∃ others, left.iterate? = some others := by
  cases right with
  | null => cases iterated
  | bool _ => cases iterated
  | int _ => cases iterated
  | float _ => cases iterated
  | str text =>
      rw [Json.pyEq_str_iff.mp same]
      exact ⟨_, rfl⟩
  | obj fields =>
      rcases Json.pyEq_obj_iff.mp same with ⟨lefts, rfl, _⟩
      exact ⟨_, rfl⟩
  | arr items =>
      rcases Json.pyEq_arr_iff.mp same with ⟨lefts, rfl, _⟩
      exact ⟨_, rfl⟩

section Body

variable {left : BodySpec} {right : Unchecked.BodySpec}

/-- The flattened body lists its properties, and some of them as dictionaries. -/
def BodySpec.ListsDictionaries (body : BodySpec) : Prop :=
  body.isFlattened = true ∧ ListsDictionary body.declaredProperties

/-- A body of a document that equals a recorded one. -/
structure EqualsBody (left : BodySpec) (right : Unchecked.BodySpec) : Prop where
  contentType : right.contentType.value = .str left.contentType
  flattens : left.mode = .flatten
  schema : ∃ schema, right.schema = .obj schema ∧ Json.SameFields left.schema schema

theorem equalsBody_of_sameBody (distinct : (Dict.keys left.schema).Nodup)
    (same : PyConfigure.sameBody (some left) (some right) = true) : EqualsBody left right := by
  simp only [PyConfigure.sameBody, Bool.and_eq_true, decide_eq_true_eq] at same
  exact ⟨Json.str_pyEq_iff.mp same.1.1, same.1.2, Json.exists_fields_of_pyEq same.2 distinct⟩

theorem EqualsBody.looked_schema (equal : EqualsBody left right) :
    left.looked.schema = .obj left.schema := by
  rw [BodySpec.looked, if_pos equal.flattens]

theorem string?_of_pyEq {value other : Json} (same : Json.pyEq value other = true) :
    value.string? = other.string? := by
  cases other with
  | str text => rw [Json.pyEq_str_iff.mp same]
  | _ => cases value <;> first | rfl | simp [Json.pyEq] at same

/-- A field of equal objects that may be left out. -/
theorem pyEq_getD {fields others : JsonObject} (same : Json.SameFields fields others) (key : String)
    {fallback : Json} (reflexive : Json.pyEq fallback fallback = true) :
    Json.pyEq ((Dict.get? fields key).getD fallback) ((Dict.get? others key).getD fallback) = true := by
  have related := same key
  generalize Dict.get? fields key = found at related
  generalize Dict.get? others key = foundToo at related
  cases related with
  | none => exact reflexive
  | some equal => exact equal

theorem EqualsBody.type {schema : JsonObject} (same : Json.SameFields left.schema schema) :
    (Unchecked.field left.schema "type").string? = (Unchecked.field schema "type").string? :=
  string?_of_pyEq (pyEq_getD same "type" rfl)

theorem bodyNames_of_equalsBody (equal : EqualsBody left right)
    (distinct : Json.Distinct (.obj left.schema)) (plain : ¬left.ListsDictionaries)
    {names : List DictKey} (read : Unchecked.bodyNames (some right) = .ok names) :
    ∃ others, Unchecked.bodyNames (some left.looked) = .ok others ∧
      (others.map (·.key)).Perm (names.map (·.key)) := by
  rcases equal.schema with ⟨schema, isObject, same⟩
  have sameType := EqualsBody.type same
  unfold Unchecked.bodyNames Unchecked.bodyProperties at read ⊢
  dsimp only at read ⊢
  rw [isObject] at read
  rw [equal.looked_schema]
  dsimp only at read ⊢
  by_cases isType : (Unchecked.field left.schema "type").string? = some "object"
  · rw [sameType] at isType
    rw [if_pos isType] at read
    rw [← sameType] at isType
    rw [if_pos isType]
    simp only [bind_assoc, pure_bind, bind_eq_ok, pure_eq_ok] at read ⊢
    rcases read with ⟨entries, lifted, rfl⟩
    have flattened := (isFlattened_iff equal.flattens).mpr isType
    have distinctProperties : Json.Distinct (Unchecked.objectField left.schema "properties") := by
      unfold Unchecked.objectField
      cases found : Dict.get? left.schema "properties" with
      | none => exact ⟨List.nodup_nil, trivial⟩
      | some value => exact Json.distinct_of_get? distinct found
    rcases dictOf_of_pyEq (pyEq_getD same "properties" rfl) distinctProperties
      (fun lists => plain ⟨flattened, lists⟩) lifted with ⟨others, othersLifted, sameKeys⟩
    exact ⟨_, ⟨others, othersLifted, rfl⟩, sameKeys⟩
  · rw [if_neg isType]
    rw [sameType] at isType
    rw [if_neg isType] at read
    exact ⟨names, read, .refl _⟩

theorem listed_of_equalsBody (equal : EqualsBody left right)
    (listed : ¬Unchecked.RequiredUnlistable right) : ¬Unchecked.RequiredUnlistable left.looked := by
  rcases equal.schema with ⟨schema, isObject, same⟩
  rintro ⟨own, isOwn, isType, unlistable⟩
  rw [equal.looked_schema] at isOwn
  cases isOwn
  apply listed
  refine ⟨schema, isObject, EqualsBody.type same ▸ isType, ?_⟩
  cases iterated : (Unchecked.listField schema "required").iterate? with
  | none => rfl
  | some items =>
      rcases iterate?_of_pyEq (pyEq_getD same "required" rfl) iterated with ⟨others, iteratedToo⟩
      cases unlistable.symm.trans iteratedToo

end Body

section Binding

variable {left : HttpBinding} {right : Unchecked.HttpBinding}

theorem looked_parameters (binding : HttpBinding) :
    binding.looked.parameters = binding.parameters.map (·.unchecked) := rfl

/-- Schemas of checked parameters can be copied. -/
theorem not_schemaUnreadable_looked (binding : HttpBinding) :
    ¬Unchecked.SchemaUnreadable binding.looked.parameters := by
  rintro ⟨parameter, parameterMem, unreadable⟩
  rcases List.mem_map.mp parameterMem with ⟨own, _, rfl⟩
  exact unreadable (Or.inl ⟨own.schema, rfl⟩)

theorem sameParameter_of_sameBinding (same : PyConfigure.sameBinding left right = true) :
    List.Forall₂ (fun own other => PyConfigure.sameParameter own other = true)
      left.parameters right.parameters := by
  simp only [PyConfigure.sameBinding, Bool.and_eq_true, decide_eq_true_eq, List.all_eq_true] at same
  rw [List.forall₂_iff_zip]
  exact ⟨same.1.1.2, fun pairMem => same.1.2 _ pairMem⟩

/-- Equal parameters have the same names and places. -/
theorem shape_of_sameParameter {own : Parameter} {other : Unchecked.Parameter}
    (equal : PyConfigure.sameParameter own other = true) :
    own.unchecked.shape = other.shape ∧ own.unchecked.arg.key = other.arg.key := by
  simp only [PyConfigure.sameParameter, Bool.and_eq_true, decide_eq_true_eq] at equal
  rcases equal with ⟨⟨⟨⟨⟨⟨sameArg, sameLocation⟩, sameWireName⟩, sameRequired⟩, _⟩, _⟩, _⟩
  have key_eq {key : DictKey} {text : String} (isText : Json.pyEq (.str text) key.value = true) :
      HashKey.text text = key.key := by
    have hashes := key.hashes
    rw [Json.str_pyEq_iff.mp isText] at hashes
    exact Option.some.inj hashes
  refine ⟨?_, key_eq sameArg⟩
  change (own.location, own.required, HashKey.text own.wireName) =
    (other.location, other.required, other.wireName.key)
  rw [sameLocation, sameRequired, key_eq sameWireName]

theorem equalsBody_of_sameBinding (same : PyConfigure.sameBinding left right = true)
    (distinct : ∀ body ∈ left.body, Json.Distinct (.obj body.schema)) :
    (left.body = none ∧ right.body = none) ∨
      ∃ body other, left.body = some body ∧ right.body = some other ∧ EqualsBody body other := by
  simp only [PyConfigure.sameBinding, Bool.and_eq_true] at same
  have sameBodies := same.2
  cases isLeft : left.body with
  | none =>
      cases isRight : right.body with
      | none => exact Or.inl ⟨rfl, rfl⟩
      | some other => simp [isLeft, isRight, PyConfigure.sameBody] at sameBodies
  | some body =>
      cases isRight : right.body with
      | none => simp [isLeft, isRight, PyConfigure.sameBody] at sameBodies
      | some other =>
          rw [isLeft, isRight] at sameBodies
          exact Or.inr ⟨body, other, rfl, rfl,
            equalsBody_of_sameBody (distinct body isLeft).1 sameBodies⟩

/-- A recorded binding that compares equal to a settled one is settled as well. -/
theorem settled_of_sameBinding (settled : Unchecked.Settled right)
    (same : PyConfigure.sameBinding left right = true)
    (distinct : ∀ body ∈ left.body, Json.Distinct (.obj body.schema))
    (plain : ∀ body ∈ left.body, ¬body.ListsDictionaries) : Unchecked.Settled left.looked := by
  have sameParameters := sameParameter_of_sameBinding same
  have samePath : left.path = right.path := by
    simp only [PyConfigure.sameBinding, Bool.and_eq_true, decide_eq_true_eq] at same
    exact same.1.1.1.2
  have sameShapes : left.looked.parameters.map Unchecked.Parameter.shape =
      right.parameters.map Unchecked.Parameter.shape := by
    rw [looked_parameters, List.map_map]
    refine map_eq_map_of_forall₂ ?_ sameParameters
    intro own other equal
    exact (shape_of_sameParameter equal).1
  have sameArgs : left.looked.parameters.map (·.arg.key) = right.parameters.map (·.arg.key) := by
    rw [looked_parameters, List.map_map]
    refine map_eq_map_of_forall₂ ?_ sameParameters
    intro own other equal
    exact (shape_of_sameParameter equal).2
  have isBody : left.looked.body = left.body.map (·.looked) := rfl
  have sameOnPath : (Unchecked.pathParameters left.looked.parameters).map
      Unchecked.Parameter.shape = (Unchecked.pathParameters right.parameters).map
        Unchecked.Parameter.shape := by
    rw [Unchecked.map_shape_pathParameters, Unchecked.map_shape_pathParameters, sameShapes]
  apply settled.congr samePath sameOnPath sameArgs (not_schemaUnreadable_looked left)
  all_goals rw [isBody]
  all_goals
    rcases equalsBody_of_sameBinding same distinct with
      ⟨noBody, noBodyToo⟩ | ⟨body, other, isLeft, isRight, equal⟩
  · rw [noBody]
    intro spec isSpec
    cases isSpec
  · rw [isLeft]
    intro spec isSpec
    cases isSpec
    have supported := settled.supported other isRight
    have hashes := other.contentType.hashes
    rw [equal.contentType, supported] at hashes
    exact Option.some.inj hashes
  · rw [noBody, noBodyToo]
    exact fun names read => ⟨names, read, .refl _⟩
  · rw [isLeft, isRight]
    exact fun names read => bodyNames_of_equalsBody equal (distinct body isLeft)
      (plain body isLeft) read
  · rw [noBody]
    intro spec isSpec
    cases isSpec
  · rw [isLeft]
    intro spec isSpec
    cases isSpec
    exact listed_of_equalsBody equal (settled.listed other isRight)

end Binding

end McpPortal
