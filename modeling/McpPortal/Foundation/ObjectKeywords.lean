import McpPortal.Foundation.JsonSchema

/-!
# What a schema asks of an object

The keywords at the top of a JSON Schema 2020-12 schema, as far as they can reject an object.
What the schemas below the top accept, and what the keywords mean that combine schemas or
count and name fields, is an argument. All other keywords are about instances of other types.
-/

namespace Foundation

namespace JsonSchema

/-- The keywords that can reject an object besides `type`, `properties`, `required`, `enum` and
`const`. -/
def furtherObjectKeywords : List String :=
  [ "allOf", "anyOf", "oneOf", "not", "if", "then", "else", "dependentSchemas",
    "patternProperties", "additionalProperties", "propertyNames", "unevaluatedProperties",
    "minProperties", "maxProperties", "dependentRequired" ]

/-- What schemas below the top accept, which values are equal, and what the further keywords of
a schema ask of an object. -/
structure Meaning where
  accepts : Json → Json → Prop
  same : Json → Json → Prop
  constrains : JsonObject → String → JsonObject → Prop

section Object

variable (meaning : Meaning) (schema object : JsonObject)

/-- A field that has a schema among the properties is accepted by it. -/
def PropertiesAccept (properties : Json) : Prop :=
  ∀ fields, properties = .obj fields → ∀ name subschema value,
    Dict.get? fields name = some subschema → Dict.get? object name = some value →
      meaning.accepts subschema value

/-- The object is one of the values, where they are a list. -/
def Enumerates (values : Json) : Prop :=
  ∀ items, values = .arr items → ∃ item ∈ items, meaning.same item (.obj object)

def KeywordHolds (key : String) (value : Json) : Prop :=
  if key = "type" then typeHolds value (.obj object) = true
  else if key = "properties" then PropertiesAccept meaning object value
  else if key = "required" then requiredHolds value (.obj object) = true
  else if key = "enum" then Enumerates meaning object value
  else if key = "const" then meaning.same value (.obj object)
  else if key ∈ furtherObjectKeywords then meaning.constrains schema key object
  else True

/-- The object is valid: every keyword of the schema holds. -/
def ValidObject : Prop :=
  ∀ key value, Dict.get? schema key = some value → KeywordHolds meaning schema object key value

/-- What `properties` and `required` ask. -/
def MeetsDeclared : Prop :=
  (∀ properties, Dict.get? schema "properties" = some properties →
      PropertiesAccept meaning object properties) ∧
    ∀ names, Dict.get? schema "required" = some names → requiredHolds names (.obj object) = true

/-- What `enum` and `const` ask. -/
def MeetsEnumerated : Prop :=
  (∀ values, Dict.get? schema "enum" = some values → Enumerates meaning object values) ∧
    ∀ value, Dict.get? schema "const" = some value → meaning.same value (.obj object)

variable {meaning schema object}

/-- Without further keywords an object schema asks what is declared and what is enumerated. -/
theorem validObject_iff (isObject : Dict.get? schema "type" = some (.str "object"))
    (noFurther : ∀ key ∈ furtherObjectKeywords, Dict.get? schema key = none) :
    ValidObject meaning schema object ↔
      MeetsDeclared meaning schema object ∧ MeetsEnumerated meaning schema object := by
  constructor
  · intro valid
    have holds {key : String} (value : Json) (found : Dict.get? schema key = some value) :=
      valid key value found
    refine ⟨⟨?_, ?_⟩, ?_, ?_⟩
    · intro properties found
      simpa [KeywordHolds] using holds properties found
    · intro names found
      simpa [KeywordHolds] using holds names found
    · intro values found
      simpa [KeywordHolds] using holds values found
    · intro value found
      simpa [KeywordHolds] using holds value found
  · rintro ⟨⟨properties, required⟩, enum, const⟩ key value found
    unfold KeywordHolds
    split_ifs with isType isProperties isRequired isEnum isConst isFurther
    · subst isType
      cases isObject.symm.trans found
      rfl
    · exact properties value (isProperties ▸ found)
    · exact required value (isRequired ▸ found)
    · exact enum value (isEnum ▸ found)
    · exact const value (isConst ▸ found)
    · rw [noFurther key isFurther] at found
      cases found

end Object

end JsonSchema

end Foundation
