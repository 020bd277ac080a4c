import McpPortal.Sources.OpenApiPaths

/-!
# Failures of reading an operation object

Reading catches what a missing key or a value of another type makes the built-ins raise.
An index outside a list of media types is the one failure that is not caught.
-/

namespace McpPortal

namespace Unchecked

open Foundation

section Reading

variable {Error : Type}

theorem not_uncaught_hashed (value : Json) :
    ¬Uncaught isMalformed (hashed value : Except (PyException Error) DictKey) := by
  cases hashes : value.hashKey? with
  | none => simp [hashed_of_none hashes, isMalformed]
  | some key => simp [hashed_of_some hashes]

theorem not_uncaught_iterate (value : Json) :
    ¬Uncaught isMalformed (iterate value : Except (PyException Error) (List Json)) := by
  unfold iterate
  split <;> simp [isMalformed]

theorem not_uncaught_addParameter (byKey : ByKey) (param : Json) :
    ¬Uncaught isMalformed (addParameter byKey param : Except (PyException Error) ByKey) := by
  unfold addParameter
  split
  · simp only [uncaught_bind, not_uncaught_hashed, uncaught_pure, and_false, exists_false, or_self,
      not_false_eq_true]
  · simp [isMalformed]

theorem not_uncaught_rawParameter (fields : JsonObject) :
    ¬Uncaught isMalformed
      (rawParameter fields : Except (PyException Error) (Option RawParameter)) := by
  unfold rawParameter
  rw [uncaught_bind]
  rintro (unhashed | ⟨location, _, passes⟩)
  · exact not_uncaught_hashed _ unhashed
  · split at passes
    · exact passes
    · split at passes
      · simp [isMalformed] at passes
      · rcases uncaught_bind.mp passes with unhashed | ⟨_, _, built⟩
        · exact not_uncaught_hashed _ unhashed
        · exact built

/-- Whatever is wrong with the parameters is caught. -/
theorem not_uncaught_mergedParameters (pathParams opParams : Json) :
    ¬Uncaught isMalformed
      (mergedParameters pathParams opParams : Except (PyException Error) (List RawParameter)) := by
  simp only [mergedParameters, uncaught_bind, not_uncaught_iterate, uncaught_pure,
    not_uncaught_foldlM not_uncaught_addParameter, and_false, exists_false, or_false,
    not_uncaught_mapM fun entry _ => not_uncaught_rawParameter (Prod.snd entry), not_false_eq_true]

/-- A list of media types begins with an index that lies outside it. -/
def IndexOutside (content : Json) : Prop :=
  ∃ first rest index, content = .arr (first :: rest) ∧ .str jsonContentType ∉ first :: rest ∧
    indexOf first = some index ∧ itemAt (first :: rest) index = none

theorem not_uncaught_contentTypeOf (content : Json) :
    ¬Uncaught isMalformed (contentTypeOf content : Except (PyException Error) Json) := by
  have contains : ¬Uncaught isMalformed
      (containsKey jsonContentType content : Except (PyException Error) Bool) := by
    cases content <;> simp [containsKey, isMalformed]
  have first : ¬Uncaught isMalformed (firstKey content : Except (PyException Error) Json) := by
    unfold firstKey
    split <;> simp [isMalformed]
  unfold contentTypeOf
  rw [uncaught_bind]
  rintro (passes | ⟨found, _, passes⟩)
  · exact contains passes
  · cases found with
    | true => exact passes
    | false => exact first passes

theorem uncaught_indexItem_iff {items : List Json} {key : Json} :
    Uncaught isMalformed (indexItem items key : Except (PyException Error) Json) ↔
      ∃ index, indexOf key = some index ∧ itemAt items index = none := by
  unfold indexItem
  cases indexOf key with
  | none => simp [isMalformed]
  | some index => cases found : itemAt items index <;> simp [found, isMalformed]

/-- The key of a list is JSON, or what the list begins with. -/
theorem contentTypeOf_arr {items : List Json} {key : Json} :
    (contentTypeOf (.arr items) : Except (PyException Error) Json) = .ok key ↔
      (.str jsonContentType ∈ items ∧ key = .str jsonContentType) ∨
        (.str jsonContentType ∉ items ∧ items.head? = some key) := by
  have contains : (containsKey jsonContentType (.arr items) : Except (PyException Error) Bool) =
      .ok (items.any fun item => item.pyEq (.str jsonContentType)) := rfl
  have isListed : (items.any fun item => item.pyEq (.str jsonContentType)) = true ↔
      .str jsonContentType ∈ items := by
    simp only [List.any_eq_true, Json.pyEq_str_iff, exists_eq_right]
  unfold contentTypeOf
  rw [contains, ← isListed]
  cases items.any fun item => item.pyEq (.str jsonContentType) with
  | true => simp [bind, Except.bind, pure, Except.pure, eq_comm]
  | false => cases items <;> simp [bind, Except.bind, firstKey, Json.iterate?]

/-- The key of a text or an object is a text. -/
theorem indexOf_contentTypeOf {content key : Json} (notList : ∀ items, content ≠ .arr items)
    (isKey : (contentTypeOf content : Except (PyException Error) Json) = .ok key) :
    indexOf key = none := by
  unfold contentTypeOf at isKey
  rcases bind_eq_ok.mp isKey with ⟨found, _, chosen⟩
  cases found with
  | true =>
      cases chosen
      rfl
  | false =>
      simp only [Bool.false_eq_true, if_false, firstKey] at chosen
      split at chosen
      case h_1 first rest iterates =>
        cases chosen
        cases content with
        | arr items => exact absurd rfl (notList items)
        | obj fields =>
            cases fields with
            | nil => cases iterates
            | cons field later =>
                cases iterates
                rfl
        | str text =>
            simp only [Json.iterate?, Option.some.injEq] at iterates
            have firstMem : key ∈ key :: rest := List.mem_cons_self
            rw [← iterates] at firstMem
            rcases List.mem_map.mp firstMem with ⟨char, _, rfl⟩
            rfl
        | _ => cases iterates
      case h_2 => cases chosen

/-- Looking a media type up raises what is not caught just for an index outside a list. -/
theorem uncaught_subscript_iff {content key : Json}
    (isKey : (contentTypeOf content : Except (PyException Error) Json) = .ok key) :
    Uncaught isMalformed (subscript content key : Except (PyException Error) Json) ↔
      ∃ items index, content = .arr items ∧ indexOf key = some index ∧
        itemAt items index = none := by
  cases content with
  | arr items =>
      rw [subscript, uncaught_indexItem_iff]
      simp
  | str text =>
      have notList : ∀ items, Json.str text ≠ .arr items := fun items same => by cases same
      have noIndex := indexOf_contentTypeOf notList isKey
      rw [subscript, uncaught_indexItem_iff]
      simp [noIndex]
  | obj fields =>
      simp only [subscript, reduceCtorEq, false_and, exists_false, iff_false]
      split
      · split <;> simp [isMalformed]
      · split <;> simp [isMalformed]
  | _ => simp [subscript, isMalformed]

theorem uncaught_readContent_iff {content : Json} :
    Uncaught isMalformed (readContent content : Except (PyException Error) RequestBody) ↔
      IndexOutside content := by
  have onlySubscript : Uncaught isMalformed
        (readContent content : Except (PyException Error) RequestBody) ↔
      ∃ key, (contentTypeOf content : Except (PyException Error) Json) = .ok key ∧
        Uncaught isMalformed (subscript content key : Except (PyException Error) Json) := by
    rw [readContent, uncaught_bind]
    constructor
    · rintro (passes | ⟨key, isKey, passes⟩)
      · exact absurd passes (not_uncaught_contentTypeOf content)
      · refine ⟨key, isKey, ?_⟩
        rcases uncaught_bind.mp passes with passes | ⟨media, _, passes⟩
        · exact passes
        · split at passes
          · rcases uncaught_bind.mp passes with unhashed | ⟨_, _, read⟩
            · exact absurd unhashed (not_uncaught_hashed key)
            · cases read
          · simp [isMalformed] at passes
    · rintro ⟨key, isKey, passes⟩
      exact Or.inr ⟨key, isKey, uncaught_bind.mpr (Or.inl passes)⟩
  rw [onlySubscript]
  constructor
  · rintro ⟨key, isKey, passes⟩
    rcases (uncaught_subscript_iff isKey).mp passes with ⟨items, index, rfl, isIndex, outside⟩
    rcases contentTypeOf_arr.mp isKey with ⟨_, rfl⟩ | ⟨notListed, isFirst⟩
    · cases isIndex
    · cases items with
      | nil => cases isFirst
      | cons first rest =>
          cases isFirst
          exact ⟨key, rest, index, rfl, notListed, isIndex, outside⟩
  · rintro ⟨first, rest, index, rfl, notListed, isIndex, outside⟩
    have isKey : (contentTypeOf (.arr (first :: rest)) : Except (PyException Error) Json) =
        .ok first := contentTypeOf_arr.mpr (Or.inr ⟨notListed, rfl⟩)
    exact ⟨first, isKey, (uncaught_subscript_iff isKey).mpr ⟨_, index, rfl, isIndex, outside⟩⟩

theorem uncaught_requestBody_iff {op : JsonObject} :
    Uncaught isMalformed (requestBody op : Except (PyException Error) (Option RequestBody)) ↔
      ∃ body, field op "requestBody" = .obj body ∧ IndexOutside (objectField body "content") := by
  unfold requestBody
  cases isBody : field op "requestBody" with
  | obj fields =>
      simp only [Json.obj.injEq, exists_eq_left']
      split
      case isTrue empty =>
        simp only [uncaught_pure, false_iff]
        rintro ⟨first, rest, index, isList, _⟩
        cases fields with
        | nil => cases isList
        | cons entry later => cases empty
      case isFalse =>
        split
        case isTrue empty =>
          simp only [uncaught_pure, false_iff]
          rintro ⟨first, rest, index, isList, _⟩
          rw [isList] at empty
          cases empty
        case isFalse =>
          rw [uncaught_bind, uncaught_readContent_iff]
          simp
  | _ =>
      simp only [reduceCtorEq, false_and, exists_false, iff_false]
      split <;> simp [isMalformed]

end Reading

/-- An operation object is reached whose request body begins with such an index. -/
def IndexFails (includeDeprecated : Bool) (place : Place) : Prop :=
  ∃ op parameters body, place.op = .obj op ∧ leftOut includeDeprecated op = false ∧
    (mergedParameters place.pathParams (listField op "parameters") :
      Except (PyException PathsError) (List RawParameter)) = .ok parameters ∧
    field op "requestBody" = .obj body ∧ IndexOutside (objectField body "content")

/-- Everything else that is wrong with an operation object is caught where it is read. -/
theorem exists_extractAt_iff {includeDeprecated : Bool} {place : Place} :
    (∃ found, (extractAt includeDeprecated place :
        Except (PyException PathsError) (Option RawOperation)) = .ok found) ↔
      ¬IndexFails includeDeprecated place := by
  rw [extractAt, exists_orSkip_eq_ok_iff]
  apply not_congr
  unfold rawOperation IndexFails
  cases isObject : place.op with
  | obj op =>
      cases isLeftOut : leftOut includeDeprecated op with
      | true =>
          simp only [isLeftOut, if_true, uncaught_pure, false_iff]
          rintro ⟨_, _, _, same, reached, _⟩
          cases same
          cases isLeftOut.symm.trans reached
      | false =>
          simp only [isLeftOut, Bool.false_eq_true, if_false, uncaught_bind,
            not_uncaught_mergedParameters, uncaught_requestBody_iff, uncaught_pure, and_false,
            exists_false, or_false, false_or]
          constructor
          · rintro ⟨parameters, merged, body, isBody, outside⟩
            exact ⟨op, parameters, body, rfl, isLeftOut, merged, isBody, outside⟩
          · rintro ⟨_, parameters, body, same, _, merged, isBody, outside⟩
            cases same
            exact ⟨parameters, merged, body, isBody, outside⟩
  | _ => simp [isMalformed]

end Unchecked

end McpPortal
