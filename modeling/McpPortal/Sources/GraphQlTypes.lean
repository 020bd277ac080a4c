import McpPortal.Sources.Explicit
import McpPortal.Sources.GraphQlSource

/-!
# The types of arguments as references and as texts

An introspected argument has a type reference, a hand-written variable the text of one. The schema
of an argument is computed from either. The text is read from both of its ends inwards: a mark at
its end is dropped, brackets around it are those of a list, and what is left is a name.
-/

namespace McpPortal

open Foundation

/-- `/[_A-Za-z][_0-9A-Za-z]*/`. -/
def isGraphqlName (text : String) : Bool :=
  match text.toList with
  | [] => false
  | first :: rest =>
      (first.isAlpha || first = '_') && rest.all fun char => char.isAlphanum || char = '_'

/-- Wrappers wrap something, no non-null type wraps another one, and what is wrapped in the end has
a name of the grammar. -/
def TypeRef.WellFormed : TypeRef → Prop
  | .bare kind name => isWrapper kind = false ∧ ∃ text, name = some text ∧ isGraphqlName text = true
  | .wrapping kind name ofType =>
      if isWrapper kind then
        ofType.WellFormed ∧ (kind = "NON_NULL" → ofType.kind ≠ "NON_NULL")
      else ∃ text, name = some text ∧ isGraphqlName text = true

/-- The text begins with no space, and ends with neither a space nor a mark. -/
structure Unmarked (text : List Char) : Prop where
  opens : ∃ first, text.head? = some first ∧ isPySpace first = false
  closes : ∃ last, text.getLast? = some last ∧ isPySpace last = false ∧ last ≠ '!'

theorem Unmarked.unmarkedType_eq {text : List Char} (unmarked : Unmarked text) :
    unmarkedType text = text := by
  rcases unmarked with ⟨⟨first, isFirst, solidFirst⟩, last, isLast, solidLast, noMark⟩
  have stripped : stripBy isPySpace text = text := by
    apply stripBy_eq_self
    · simp [isFirst, solidFirst]
    · simp [isLast, solidLast]
  rw [unmarkedType, stripped, isLast, if_neg (by simpa using noMark)]

/-- The mark at the end is dropped. -/
theorem Unmarked.unmarkedType_marked {text : List Char} (unmarked : Unmarked text) :
    unmarkedType (text ++ ['!']) = text := by
  rcases unmarked.opens with ⟨first, isFirst, solidFirst⟩
  have stripped : stripBy isPySpace (text ++ ['!']) = text ++ ['!'] := by
    apply stripBy_eq_self
    · simp [List.head?_append, isFirst, solidFirst]
    · simp only [List.getLast?_concat, Option.mem_some_iff, forall_eq']
      decide
  rw [unmarkedType, stripped, List.getLast?_concat, if_pos rfl, List.dropLast_concat]

theorem unmarked_bracketed (inner : List Char) : Unmarked ('[' :: inner ++ [']']) := by
  constructor
  · exact ⟨'[', rfl, by decide⟩
  · exact ⟨']', List.getLast?_concat, by decide, by decide⟩

/-- A character of a name is no space, no mark and no bracket. -/
theorem nameChar_plain {char : Char} (isName : (char.isAlphanum || char = '_') = true) :
    isPySpace char = false ∧ char ≠ '!' ∧ char ≠ '[' := by
  refine ⟨?_, ?_, ?_⟩
  · rw [Bool.or_eq_true, decide_eq_true_eq] at isName
    rcases isName with alphanumeric | rfl
    · exact isPySpace_of_visible (visible_of_isAlphanum alphanumeric)
    · decide
  · rintro rfl
    revert isName
    decide
  · rintro rfl
    revert isName
    decide

theorem unmarked_name {text : String} (isName : isGraphqlName text = true) :
    Unmarked text.toList ∧ text.toList.head? ≠ some '[' := by
  rw [isGraphqlName] at isName
  cases chars : text.toList with
  | nil => simp [chars] at isName
  | cons first rest =>
      simp only [chars, Bool.and_eq_true, List.all_eq_true] at isName
      have opens : (first.isAlphanum || first = '_') = true := by
        have start := isName.1
        simp only [Bool.or_eq_true] at start ⊢
        exact start.imp_left fun letter => by simp [Char.isAlphanum, letter]
      have each : ∀ char ∈ first :: rest, (char.isAlphanum || char = '_') = true :=
        List.forall_mem_cons.mpr ⟨opens, isName.2⟩
      have solidFirst := nameChar_plain (each first List.mem_cons_self)
      have last := List.getLast?_eq_some_getLast (List.cons_ne_nil first rest)
      have solidLast := nameChar_plain (each _ (List.getLast_mem (List.cons_ne_nil first rest)))
      refine ⟨⟨⟨first, rfl, solidFirst.1⟩, _, last, solidLast.1, solidLast.2.1⟩, ?_⟩
      simpa using solidFirst.2.2

/-- Only the unmarked text counts. -/
theorem jsonTypeForGraphqlType_congr {left right : List Char}
    (same : unmarkedType left = unmarkedType right) :
    jsonTypeForGraphqlType left = jsonTypeForGraphqlType right := by
  rw [jsonTypeForGraphqlType, jsonTypeForGraphqlType.eq_1 right]
  simp only [same]

theorem jsonTypeForGraphqlType_marked {text : List Char} (unmarked : Unmarked text) :
    jsonTypeForGraphqlType (text ++ ['!']) = jsonTypeForGraphqlType text := by
  apply jsonTypeForGraphqlType_congr
  rw [unmarked.unmarkedType_marked, unmarked.unmarkedType_eq]

theorem jsonTypeForGraphqlType_bracketed (inner : List Char) :
    jsonTypeForGraphqlType ('[' :: inner ++ [']']) =
      [("type", .str "array"), ("items", .obj (jsonTypeForGraphqlType inner))] := by
  have bracketed : ('[' :: inner ++ [']']).head? = some '[' ∧
      ('[' :: inner ++ [']']).getLast? = some ']' := ⟨rfl, List.getLast?_concat⟩
  have within : ('[' :: inner ++ [']']).tail.dropLast = inner := List.dropLast_concat
  rw [jsonTypeForGraphqlType]
  simp only [(unmarked_bracketed inner).unmarkedType_eq, dif_pos bracketed, within]

theorem jsonTypeForGraphqlType_name {text : String} (isName : isGraphqlName text = true) :
    jsonTypeForGraphqlType text.toList = scalarSchema (some text) := by
  rcases unmarked_name isName with ⟨unmarked, noBracket⟩
  have notBracketed : ¬(text.toList.head? = some '[' ∧ text.toList.getLast? = some ']') :=
    fun bracketed => noBracket bracketed.1
  rw [jsonTypeForGraphqlType]
  simp only [unmarked.unmarkedType_eq, dif_neg notBracketed, String.ofList_toList, scalarSchema,
    Option.some.injEq]

section Agreement

variable {Error : Type}

/-- The text of a reference, which has no mark at its end unless the reference is a non-null type. -/
theorem exists_renderTypeRef {ref : TypeRef} (wellFormed : ref.WellFormed) :
    ∃ rendered, renderTypeRef ref = (.ok rendered : Except (PyException Error) String) ∧
      jsonTypeFor ref =
        (.ok (jsonTypeForGraphqlType rendered.toList) : Except (PyException Error) JsonObject) ∧
      (ref.kind ≠ "NON_NULL" → Unmarked rendered.toList) := by
  induction ref with
  | bare kind name =>
      rcases wellFormed with ⟨noWrapper, text, rfl, isName⟩
      refine ⟨text, ?_, ?_, fun _ => (unmarked_name isName).1⟩
      · simp [renderTypeRef, noWrapper, pure, Except.pure]
      · simp [jsonTypeFor, noWrapper, jsonTypeForGraphqlType_name isName, pure, Except.pure]
  | wrapping kind name ofType ih =>
      rw [TypeRef.WellFormed] at wellFormed
      by_cases nonNull : kind = "NON_NULL"
      · subst kind
        rcases wellFormed with ⟨inner, notAgain⟩
        rcases ih inner with ⟨rendered, renders, typed, unmarked⟩
        refine ⟨rendered ++ "!", ?_, ?_, fun otherKind => absurd rfl otherKind⟩
        · simp [renderTypeRef, renders, bind, Except.bind, pure, Except.pure]
        · rw [String.toList_append]
          have marked := jsonTypeForGraphqlType_marked (unmarked (notAgain rfl))
          simp only [jsonTypeFor, if_true, typed]
          exact congrArg _ marked.symm
      · by_cases list : kind = "LIST"
        · subst kind
          rcases wellFormed with ⟨inner, _⟩
          rcases ih inner with ⟨rendered, renders, typed, _⟩
          have brackets : ("[" ++ rendered ++ "]").toList = '[' :: rendered.toList ++ [']'] := by
            rw [String.toList_append, String.toList_append]
            rfl
          refine ⟨"[" ++ rendered ++ "]", ?_, ?_, fun _ => brackets ▸ unmarked_bracketed _⟩
          · simp [renderTypeRef, renders, bind, Except.bind, pure, Except.pure]
          · rw [brackets, jsonTypeForGraphqlType_bracketed]
            simp [jsonTypeFor, typed, bind, Except.bind, pure, Except.pure]
        · have noWrapper : isWrapper kind = false := by simp [isWrapper, nonNull, list]
          rw [noWrapper, if_neg Bool.false_ne_true] at wellFormed
          rcases wellFormed with ⟨text, rfl, isName⟩
          refine ⟨text, ?_, ?_, fun _ => (unmarked_name isName).1⟩
          · simp [renderTypeRef, nonNull, list, pure, Except.pure]
          · simp [jsonTypeFor, nonNull, list, jsonTypeForGraphqlType_name isName, pure, Except.pure]

end Agreement

/-- A variable of an entry is the argument, with its type rendered. -/
structure SpellsOut (arg : FieldArg) (given : GraphQlVariableEntry) : Prop where
  name : given.name = arg.name
  type : renderTypeRef arg.type = (.ok given.graphqlType : Selecting String)
  required : given.required = arg.required

theorem jsonTypeFor_of_spellsOut {arg : FieldArg} {given : GraphQlVariableEntry}
    (wellFormed : arg.type.WellFormed) (spells : SpellsOut arg given) :
    jsonTypeFor arg.type =
      (.ok (jsonTypeForGraphqlType given.graphqlType.toList) : Selecting JsonObject) := by
  rcases exists_renderTypeRef wellFormed with ⟨rendered, renders, typed, _⟩
  cases renders.symm.trans spells.type
  exact typed

theorem properties_of_spellsOut {args : List FieldArg} {given : List GraphQlVariableEntry}
    (wellFormed : ∀ arg ∈ args, arg.type.WellFormed) (spells : List.Forall₂ SpellsOut args given) :
    args.mapM (fun arg => do
      let schema ← jsonTypeFor arg.type
      return (arg.name, Json.obj schema)) =
        (.ok (given.map fun declared => (declared.name,
          .obj (jsonTypeForGraphqlType declared.graphqlType.toList))) :
            Selecting (List (String × Json))) := by
  induction spells with
  | nil => rfl
  | @cons arg declared args given spells _ ih =>
      rw [List.forall_mem_cons] at wellFormed
      have typed := jsonTypeFor_of_spellsOut wellFormed.1 spells
      rw [List.mapM_cons, ih wellFormed.2, typed, List.map_cons, spells.name]
      rfl

theorem required_of_spellsOut {args : List FieldArg} {given : List GraphQlVariableEntry}
    (spells : List.Forall₂ SpellsOut args given) :
    (args.filter (·.required)).map (fun arg => Json.str arg.name) =
      (given.filter (·.required)).map fun declared => .str declared.name := by
  induction spells with
  | nil => rfl
  | @cons arg declared args given spells _ ih =>
      rw [List.filter_cons, List.filter_cons, spells.required]
      split
      · rw [List.map_cons, List.map_cons, ih, spells.name]
      · exact ih

/-- The arguments of a field and the variables that spell them out have the same schema. -/
theorem fieldInputSchema_of_spellsOut {field : FieldInfo} {entry : GraphQlBindingEntry}
    (wellFormed : ∀ arg ∈ field.args, arg.type.WellFormed)
    (spells : List.Forall₂ SpellsOut field.args entry.variableList) :
    fieldInputSchema field =
      (.ok (graphqlInputSchema entry.graphqlBinding) : Selecting JsonObject) := by
  have inputSchema_eq : graphqlInputSchema entry.graphqlBinding =
      [ ("type", .str "object"),
        ("properties", .obj (Dict.ofList (entry.variableList.map fun declared =>
          (declared.name, .obj (jsonTypeForGraphqlType declared.graphqlType.toList))))),
        ("required", .arr ((entry.variableList.filter (·.required)).map fun declared =>
          .str declared.name)) ] := by
    simp only [graphqlInputSchema, GraphQlBindingEntry.graphqlBinding, List.map_map,
      List.filter_map, Function.comp_def]
  rw [fieldInputSchema, properties_of_spellsOut wellFormed spells, required_of_spellsOut spells,
    inputSchema_eq]
  rfl

/-- The entry declares the variables of the operation, whose types are rendered. -/
def DeclaresVariablesOf (entry : OperationEntry) (operation : Operation) : Prop :=
  ∃ bindingEntry binding, entry.binding = .graphQl bindingEntry ∧
    operation.binding = .graphQl binding ∧
    bindingEntry.graphqlBinding.variableList = binding.variableList

theorem spellsOut_of_fieldVariables {field : FieldInfo} {entry : GraphQlBindingEntry}
    (declares : fieldVariables field =
      (.ok entry.graphqlBinding.variableList : Selecting (List Variable))) :
    List.Forall₂ SpellsOut field.args entry.variableList := by
  rw [fieldVariables, mapM_eq_ok_iff_forall₂, GraphQlBindingEntry.graphqlBinding,
    List.forall₂_map_right_iff] at declares
  apply declares.imp
  intro arg declared made
  rcases bind_eq_ok.mp made with ⟨rendered, renders, collected⟩
  simp only [pure_eq_ok, Variable.mk.injEq] at collected
  rcases collected with ⟨name, rfl, required⟩
  exact ⟨name.symm, renders, required.symm⟩

theorem inputSchema_agrees {unicode : PyUnicode} {upstreamKey : String}
    {schema : IntrospectedSchema} {typePolicy : List (String × List String)} {depth : Nat}
    {operationType : GraphQlOperationType} {field : FieldInfo}
    {introspected handWritten : Operation} {entry : OperationEntry}
    (wellFormed : ∀ arg ∈ field.args, arg.type.WellFormed)
    (built : GraphQlSource.build upstreamKey schema typePolicy depth operationType field =
      .ok (some introspected))
    (builtToo : ExplicitSource.build unicode entry = .ok (some handWritten))
    (declares : DeclaresVariablesOf entry introspected) :
    handWritten.inputSchema = introspected.inputSchema := by
  rcases declares with ⟨bindingEntry, binding, isGraphql, isBinding, sameVariables⟩
  rcases bind_eq_ok.mp built with ⟨returnType, _, later⟩
  split at later
  case h_1 => cases later
  case h_2 => cases later
  case h_3 selection _ =>
    rw [map_eq_pure_bind, bind_eq_ok] at later
    rcases later with ⟨operation, isOperation, collected⟩
    cases collected
    simp only [GraphQlSource.operationOf, bind_eq_ok, pure_eq_ok] at isOperation
    rcases isOperation with ⟨text, _, variableList, rendered, inputSchema, synthesized, rfl⟩
    cases isBinding
    have declared : fieldVariables field =
        (.ok bindingEntry.graphqlBinding.variableList : Selecting (List Variable)) := by
      rw [sameVariables]
      exact rendered
    have spells := spellsOut_of_fieldVariables declared
    cases (fieldInputSchema_of_spellsOut wellFormed spells).symm.trans synthesized
    simp only [ExplicitSource.build, isGraphql, pure_eq_ok, Option.some.injEq] at builtToo
    subst handWritten
    rfl

/--
The schema of a well-formed reference is that of its text, so an entry that declares the
variables of an introspected operation has the operation's input schema.
-/
theorem graphqlTypes_agree :
    (∀ (Error : Type) (ref : TypeRef), ref.WellFormed →
      ∃ rendered, renderTypeRef ref = (.ok rendered : Except (PyException Error) String) ∧
        jsonTypeFor ref = (.ok (jsonTypeForGraphqlType rendered.toList) :
          Except (PyException Error) JsonObject)) ∧
    ∀ (unicode : PyUnicode) (upstreamKey : String) (schema : IntrospectedSchema)
      (typePolicy : List (String × List String)) (depth : Nat)
      (operationType : GraphQlOperationType) (field : FieldInfo)
      (introspected handWritten : Operation) (entry : OperationEntry),
      (∀ arg ∈ field.args, arg.type.WellFormed) →
      GraphQlSource.build upstreamKey schema typePolicy depth operationType field =
        .ok (some introspected) →
      ExplicitSource.build unicode entry = .ok (some handWritten) →
      DeclaresVariablesOf entry introspected →
      handWritten.inputSchema = introspected.inputSchema := by
  constructor
  · intro Error ref wellFormed
    rcases exists_renderTypeRef wellFormed with ⟨rendered, renders, typed, _⟩
    exact ⟨rendered, renders, typed⟩
  · intro unicode upstreamKey schema typePolicy depth operationType field introspected handWritten
      entry wellFormed built builtToo declares
    exact inputSchema_agrees wellFormed built builtToo declares

section Totals

private def idsType : TypeRef :=
  .wrapping "NON_NULL" none
    (.wrapping "LIST" none (.wrapping "NON_NULL" none (.bare "SCALAR" (some "Int"))))

private theorem wellFormed_idsType : idsType.WellFormed := by
  have isName : isGraphqlName "Int" = true := by decide
  simp [idsType, TypeRef.WellFormed, isWrapper, TypeRef.kind, isName]

private def totalField : FieldInfo where
  name := "total"
  type := .bare "SCALAR" (some "Int")
  args := [{ name := "ids", type := idsType }]

private def noTypes : IntrospectedSchema where
  queryType := "Query"
  typesByName := []

private def totalEntry : OperationEntry where
  id := "total"
  upstream := "shop"
  description := "The total of some items."
  binding := .graphQl {
    operationType := .query
    document := "query ($ids: [Int!]!) \x7b total(ids: $ids) \x7d"
    variableList := [{ name := "ids", graphqlType := "[Int!]!", required := true }] }

/-- The list of identifiers is one of integers, introspected or written by hand. -/
theorem graphqlTypes_agree_total :
    (∃ rendered, renderTypeRef idsType = (.ok rendered : Selecting String) ∧
      jsonTypeFor idsType =
        (.ok (jsonTypeForGraphqlType rendered.toList) : Selecting JsonObject)) ∧
    ∃ introspected handWritten,
      GraphQlSource.build "shop" noTypes [] 0 .query totalField = .ok (some introspected) ∧
      ExplicitSource.build asciiTables totalEntry = .ok (some handWritten) ∧
      handWritten.inputSchema = introspected.inputSchema := by
  refine ⟨graphqlTypes_agree.1 SelectionError idsType wellFormed_idsType, ?_⟩
  have wellFormed : ∀ arg ∈ totalField.args, arg.type.WellFormed := by
    simp [totalField, wellFormed_idsType]
  refine ⟨_, _, rfl, rfl, ?_⟩
  exact graphqlTypes_agree.2 asciiTables "shop" noTypes [] 0 .query totalField _ _ totalEntry
    wellFormed rfl rfl ⟨_, _, rfl, rfl, rfl⟩

end Totals

end McpPortal
