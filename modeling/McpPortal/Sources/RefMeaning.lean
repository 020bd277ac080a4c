import McpPortal.Foundation.JsonSchema
import McpPortal.Sources.Places
import McpPortal.Sources.RefSettles

/-!
# What a schema with references means

A reference means what it points to, however often the reading comes back to it. The
open object that is left where a circular reference is cut accepts every object, so an
instance that has objects under the circular references is not rejected for the cut. The
references of the document itself are never cut.
-/

namespace McpPortal

open Foundation JsonSchema

section Reads

variable (same : Json → Json → Bool) (refs : String → Json → Prop)

mutual

/-- An instance is valid under a schema when its references are read as given. Values of
keywords that are no schemas have no references, and `oneOf` is not read. -/
def Reads : Json → Json → Prop
  | .obj fields, given =>
      match refOf? fields with
      | some ref => refs ref given
      | none => KeywordsRead fields given
  | .bool accepts, _ => accepts = true
  | _, _ => False
termination_by structural schema => schema

def KeywordsRead : List (String × Json) → Json → Prop
  | [], _ => True
  | (key, value) :: rest, given => KeywordReads key value given ∧ KeywordsRead rest given
termination_by structural fields => fields

def KeywordReads (key : String) : Json → Json → Prop
  | .obj fields, given =>
      if key = "properties" then refOf? fields = none ∧ PropertiesRead fields given
      else if key = "items" then
        ∀ item ∈ itemsOf given,
          match refOf? fields with
          | some ref => refs ref item
          | none => KeywordsRead fields item
      else refsOf (.obj fields) = [] ∧ leafHolds same .draft202012 [] key (.obj fields) given = true
  | .arr items, given =>
      if key = "allOf" then AllRead items given
      else if key = "anyOf" then SomeReads items given
      else key ≠ "oneOf" ∧ refsOf (.arr items) = [] ∧
        leafHolds same .draft202012 [] key (.arr items) given = true
  | .bool accepts, given =>
      if key = "items" then accepts = true ∨ itemsOf given = []
      else leafHolds same .draft202012 [] key (.bool accepts) given = true
  | value, given => leafHolds same .draft202012 [] key value given = true
termination_by structural value => value

def PropertiesRead : List (String × Json) → Json → Prop
  | [], _ => True
  | (name, schema) :: rest, given =>
      (∀ value, fieldOf name given = some value → Reads schema value) ∧ PropertiesRead rest given
termination_by structural properties => properties

def AllRead : List Json → Json → Prop
  | [], _ => True
  | schema :: rest, given => Reads schema given ∧ AllRead rest given
termination_by structural schemas => schemas

def SomeReads : List Json → Json → Prop
  | [], _ => False
  | schema :: rest, given => Reads schema given ∨ SomeReads rest given
termination_by structural schemas => schemas

end

end Reads

section Relaxed

variable {same : Json → Json → Bool} {refs : String → Json → Prop}
  {related : String → Json → Prop}

/-- What stands for a reference accepts what the reference is read to accept. -/
def Relaxes (same : Json → Json → Bool) (refs : String → Json → Prop) (ref : String)
    (schema : Json) : Prop :=
  ∀ given, refs ref given → valid same .draft202012 schema given = true

theorem countValid_pos_of_mem {schemas : List Json} {schema given : Json}
    (present : schema ∈ schemas) (accepts : valid same .draft202012 schema given = true) :
    0 < countValid same .draft202012 schemas given := by
  induction schemas with
  | nil => cases present
  | cons first rest ih =>
      rw [countValid]
      rcases List.mem_cons.mp present with rfl | later
      · rw [if_pos accepts]
        omega
      · have := ih later
        omega

theorem countValid_eq_length {schemas : List Json} {given : Json}
    (accept : ∀ schema ∈ schemas, valid same .draft202012 schema given = true) :
    countValid same .draft202012 schemas given = schemas.length := by
  induction schemas with
  | nil => simp only [countValid, List.length_nil]
  | cons first rest ih =>
      rw [List.forall_mem_cons] at accept
      rw [countValid, if_pos accept.1, ih accept.2, List.length_cons]
      omega

theorem admitsNull_draft (fields : JsonObject) (given : Json) :
    admitsNull .draft202012 fields given = false := by
  simp [admitsNull]

/-- Items are held to a schema of any form. -/
theorem holds_items {schema given : Json} (siblings : JsonObject)
    (accepts : ∀ item ∈ itemsOf given, valid same .draft202012 schema item = true) :
    holds same .draft202012 siblings "items" schema given = true := by
  cases schema with
  | obj fields =>
      rw [holds, if_neg (by decide), if_pos rfl, List.all_eq_true]
      intro item itemMem
      rw [← valid_obj]
      exact accepts item itemMem
  | bool allowed =>
      rw [holds, if_pos rfl, Bool.or_eq_true, List.isEmpty_iff]
      cases items : itemsOf given with
      | nil => exact Or.inr rfl
      | cons item rest =>
          have itemMem : item ∈ itemsOf given := items ▸ List.mem_cons_self
          have accepted := accepts item itemMem
          rw [valid] at accepted
          exact Or.inl accepted
  | _ => simp [holds, leafHolds]

mutual

/-- With relaxed values in place of its references a schema accepts what it is read to accept. -/
theorem Reads.valid_of_walked {node result given : Json}
    (walked : Walked (Relaxes same refs) node result) (reads : Reads same refs node given) :
    valid same .draft202012 result given = true := by
  cases node with
  | obj fields =>
      cases isRef : refOf? fields with
      | some ref =>
          simp only [Walked, Reads, isRef] at walked reads
          exact walked given reads
      | none =>
          simp only [Walked, Reads, isRef] at walked reads
          rcases walked with ⟨values, walked, rfl⟩
          rw [valid_obj, admitsNull_draft, Bool.false_or]
          exact KeywordsRead.allHold_of_walked walked reads values
  | bool accepts =>
      cases walked
      rw [valid]
      exact reads
  | _ => cases reads
termination_by structural node

theorem KeywordsRead.allHold_of_walked {fields result : List (String × Json)} {given : Json}
    (walked : WalkedFields (Relaxes same refs) fields result)
    (reads : KeywordsRead same refs fields given) (siblings : JsonObject) :
    allHold same .draft202012 siblings result given = true := by
  cases fields with
  | nil =>
      cases walked
      rw [allHold]
  | cons field rest =>
      rcases walked with ⟨value, walkedFirst, others, walkedRest, rfl⟩
      rw [allHold, Bool.and_eq_true]
      exact ⟨KeywordReads.holds_of_walked walkedFirst reads.1 siblings,
        KeywordsRead.allHold_of_walked walkedRest reads.2 siblings⟩
termination_by structural fields

theorem KeywordReads.holds_of_walked {key : String} {value result given : Json}
    (walked : Walked (Relaxes same refs) value result)
    (reads : KeywordReads same refs key value given) (siblings : JsonObject) :
    holds same .draft202012 siblings key result given = true := by
  rw [holds_draft []]
  cases value with
  | obj fields =>
      rw [KeywordReads] at reads
      split at reads
      case isTrue isProperties =>
        simp only [Walked, reads.1] at walked
        rcases walked with ⟨values, walked, rfl⟩
        rw [holds, if_pos isProperties]
        exact PropertiesRead.propertiesHold_of_walked walked reads.2
      case isFalse noProperties =>
        split at reads
        case isTrue isItems =>
          cases isRef : refOf? fields with
          | some ref =>
              simp only [Walked, isRef] at walked reads
              subst isItems
              exact holds_items [] fun item itemMem => walked item (reads item itemMem)
          | none =>
              simp only [Walked, isRef] at walked reads
              rcases walked with ⟨values, walked, rfl⟩
              rw [holds, if_neg noProperties, if_pos isItems, List.all_eq_true]
              intro item itemMem
              rw [admitsNull_draft, Bool.false_or]
              exact KeywordsRead.allHold_of_walked walked (reads item itemMem) values
        case isFalse noItems =>
          rw [walked.eq_of_refsOf reads.1, holds, if_neg noProperties, if_neg noItems]
          exact reads.2
  | arr items =>
      rw [KeywordReads] at reads
      split at reads
      case isTrue isAllOf =>
        rcases walked with ⟨values, walked, rfl⟩
        rw [holds, if_pos isAllOf, decide_eq_true_eq]
        exact countValid_eq_length (AllRead.valid_of_walked walked reads)
      case isFalse noAllOf =>
        split at reads
        case isTrue isAnyOf =>
          rcases walked with ⟨values, walked, rfl⟩
          rcases SomeReads.valid_of_walked walked reads with ⟨schema, present, accepts⟩
          rw [holds, if_neg noAllOf, if_pos isAnyOf, decide_eq_true_eq]
          exact countValid_pos_of_mem present accepts
        case isFalse noAnyOf =>
          rw [walked.eq_of_refsOf reads.2.1, holds, if_neg noAllOf, if_neg noAnyOf,
            if_neg reads.1]
          exact reads.2.2
  | bool accepts =>
      cases walked
      rw [KeywordReads] at reads
      rw [holds]
      split at reads
      case isTrue isItems => simpa [isItems] using reads
      case isFalse noItems => rwa [if_neg noItems]
  | _ =>
      cases walked
      simpa only [holds, KeywordReads] using reads
termination_by structural value

theorem PropertiesRead.propertiesHold_of_walked {properties result : List (String × Json)}
    {given : Json} (walked : WalkedFields (Relaxes same refs) properties result)
    (reads : PropertiesRead same refs properties given) :
    propertiesHold same .draft202012 result given = true := by
  cases properties with
  | nil =>
      cases walked
      rw [propertiesHold]
  | cons property rest =>
      rcases walked with ⟨schema, walkedFirst, others, walkedRest, rfl⟩
      rw [propertiesHold, Bool.and_eq_true]
      refine ⟨?_, PropertiesRead.propertiesHold_of_walked walkedRest reads.2⟩
      split
      case h_1 value isField => exact Reads.valid_of_walked walkedFirst (reads.1 value isField)
      case h_2 => rfl
termination_by structural properties

theorem AllRead.valid_of_walked {schemas result : List Json} {given : Json}
    (walked : WalkedItems (Relaxes same refs) schemas result)
    (reads : AllRead same refs schemas given) :
    ∀ schema ∈ result, valid same .draft202012 schema given = true := by
  cases schemas with
  | nil =>
      cases walked
      exact List.forall_mem_nil _
  | cons schema rest =>
      rcases walked with ⟨value, walkedFirst, others, walkedRest, rfl⟩
      rw [List.forall_mem_cons]
      exact ⟨Reads.valid_of_walked walkedFirst reads.1,
        AllRead.valid_of_walked walkedRest reads.2⟩
termination_by structural schemas

theorem SomeReads.valid_of_walked {schemas result : List Json} {given : Json}
    (walked : WalkedItems (Relaxes same refs) schemas result)
    (reads : SomeReads same refs schemas given) :
    ∃ schema ∈ result, valid same .draft202012 schema given = true := by
  cases schemas with
  | nil => cases reads
  | cons schema rest =>
      rcases walked with ⟨value, walkedFirst, others, walkedRest, rfl⟩
      rcases reads with first | later
      · exact ⟨value, List.mem_cons_self, Reads.valid_of_walked walkedFirst first⟩
      · rcases SomeReads.valid_of_walked walkedRest later with ⟨other, present, accepts⟩
        exact ⟨other, List.mem_cons_of_mem _ present, accepts⟩
termination_by structural schemas

end

end Relaxed

namespace RefResolver

variable {Access FetchError : Type}

section Read

variable (unicode : PyUnicode) (acceptsNetloc : List Char → Bool)
  (resolver : RefResolver Access FetchError) (same : Json → Json → Bool)
  (admitted : RefKey → Json → Prop)

/-- The instances accepted by what a reference points to, read to a depth of references. Under
every reference stands an admitted instance. -/
def Accepts : Nat → DocumentRoot → String → Json → Prop
  | 0, _, _, _ => False
  | depth + 1, root, ref, given => admitted (root.key ref) given ∧
      ∃ newRoot node, resolver.referenced unicode acceptsNetloc root ref = .ok (newRoot, node) ∧
        Reads same (Accepts depth newRoot) node given

/-- The instances accepted by what an outermost reference points to. Any instance is admitted
under that reference itself. -/
def AcceptsOutermost (depth : Nat) (root : DocumentRoot) (ref : String) (given : Json) : Prop :=
  ∃ newRoot node, resolver.referenced unicode acceptsNetloc root ref = .ok (newRoot, node) ∧
    Reads same (resolver.Accepts unicode acceptsNetloc same admitted depth newRoot) node given

/-- The instance is valid under the schema with references read recursively. -/
def ReadsRecursively (root : DocumentRoot) (schema given : Json) : Prop :=
  ∃ depth, Reads same (resolver.AcceptsOutermost unicode acceptsNetloc same admitted depth root)
    schema given

/-- The reference is met while it is being expanded. -/
def Circular (key : RefKey) : Prop :=
  ∃ chain root ref, resolver.Visits unicode acceptsNetloc chain root ref ∧ root.key ref = key ∧
    key ∈ chain

/-- Under a circular reference stands an object. -/
def ObjectAtCycle (key : RefKey) (given : Json) : Prop :=
  resolver.Circular unicode acceptsNetloc key → ∃ fields, given = .obj fields

end Read

section Facts

variable {unicode : PyUnicode} {acceptsNetloc : List Char → Bool}
  {resolver : RefResolver Access FetchError} {same : Json → Json → Bool}

theorem valid_openObject (fields : JsonObject) :
    valid same .draft202012 openObject (.obj fields) = true := by
  simp [openObject, valid_obj, allHold, holds_type, typeHolds, hasType]

/-- A value that stands for a reference relaxes it. -/
def Relaxing (unicode : PyUnicode) (acceptsNetloc : List Char → Bool)
    (resolver : RefResolver Access FetchError) (same : Json → Json → Bool) (root : DocumentRoot)
    (ref : String) (value : Json) : Prop :=
  ∀ depth, Relaxes same (resolver.Accepts unicode acceptsNetloc same
    (resolver.ObjectAtCycle unicode acceptsNetloc) depth root) ref value

/-- The open object relaxes a reference that is met while it is being expanded. -/
theorem relaxing_openObject {chain : List RefKey} {root : DocumentRoot} {ref : String}
    (visits : resolver.Visits unicode acceptsNetloc chain root ref) (isOpen : root.key ref ∈ chain) :
    resolver.Relaxing unicode acceptsNetloc same root ref openObject := by
  intro depth given accepts
  cases depth with
  | zero => cases accepts
  | succ depth =>
      rcases accepts.1 ⟨chain, root, ref, visits, rfl, isOpen⟩ with ⟨fields, rfl⟩
      exact valid_openObject fields

/-- What stands for a reference that is not cut relaxes it, whatever it is asked to accept itself. -/
theorem relaxes_of_walkedFrom {root : DocumentRoot} {ref : String} {value : Json}
    (walkedFrom : resolver.WalkedFrom unicode acceptsNetloc
      (resolver.Relaxing unicode acceptsNetloc same) root ref value) (depth : Nat) :
    Relaxes same (resolver.AcceptsOutermost unicode acceptsNetloc same
      (resolver.ObjectAtCycle unicode acceptsNetloc) depth root) ref value := by
  rcases walkedFrom with ⟨newRoot, node, points, walked⟩
  rintro given ⟨otherRoot, otherNode, otherPoints, reads⟩
  cases points.symm.trans otherPoints
  exact reads.valid_of_walked (walked.mono fun _ _ _ relaxing => relaxing depth)

theorem stands_relaxing : resolver.Stands unicode acceptsNetloc
    (resolver.Relaxing unicode acceptsNetloc same) where
  cut := fun _ _ _ => relaxing_openObject
  walked := by
    intro _ root ref newRoot node value _ _ points walked depth given accepts
    cases depth with
    | zero => cases accepts
    | succ depth =>
        exact relaxes_of_walkedFrom ⟨newRoot, node, points, walked⟩ depth given accepts.2

/--
What is left in the place of a schema accepts every instance that is valid with references read
recursively, if under the circular references within others it has objects.
-/
theorem resolve_relaxes {depth : Nat} {result : JsonObject} {path : List PathSegment} {schema : Json}
    (resolved : (resolver.resolve unicode acceptsNetloc depth {}).1 = .ok result)
    (stands : standsAt path (.obj resolver.root) = some schema) :
    ∃ left, valueAt path (.obj result) = some left ∧
      ∀ given, resolver.ReadsRecursively unicode acceptsNetloc same
          (resolver.ObjectAtCycle unicode acceptsNetloc) resolver.entryRoot schema given →
        valid same .draft202012 left given = true := by
  rcases (stands_relaxing.walkedFrom_resolve resolved).at stands with ⟨left, found, walkedLeft⟩
  refine ⟨left, found, ?_⟩
  rintro given ⟨readDepth, reads⟩
  exact reads.valid_of_walked
    (walkedLeft.mono fun _ _ _ walkedFrom => relaxes_of_walkedFrom walkedFrom readDepth)

end Facts

/-- A tree of texts: a text, or a list of trees. -/
def treeSchema : Json :=
  .obj [("anyOf", .arr
    [ .obj [("type", .str "string")],
      .obj [("type", .str "array"), ("items", refTo "#/components/Tree")] ])]

/-- A node with a child that is a node. -/
def nodeSchema : Json :=
  .obj [("type", .str "object"), ("properties", .obj [("child", refTo "#/components/Node")])]

def recursiveSchemas : RefResolver Unit Unit where
  root :=
    [ ("tree", refTo "#/components/Tree"),
      ("node", refTo "#/components/Node"),
      ("components", .obj [("Tree", treeSchema), ("Node", nodeSchema)]) ]
  allowExternal := false

theorem reads_treeSchema {same : Json → Json → Bool} {refs : String → Json → Prop} {given : Json} :
    Reads same refs treeSchema given ↔ hasType "string" given = true ∨
      hasType "array" given = true ∧ ∀ item ∈ itemsOf given, refs "#/components/Tree" item := by
  simp [treeSchema, refTo, Reads, KeywordsRead, KeywordReads, SomeReads, refOf?, Dict.get?_cons,
    Json.string?, leafHolds, typeHolds]

theorem reads_nodeSchema {same : Json → Json → Bool} {refs : String → Json → Prop} {given : Json} :
    Reads same refs nodeSchema given ↔ hasType "object" given = true ∧
      ∀ child, fieldOf "child" given = some child → refs "#/components/Node" child := by
  simp [nodeSchema, refTo, Reads, KeywordsRead, KeywordReads, PropertiesRead, refOf?,
    Dict.get?_cons, Json.string?, leafHolds, typeHolds]

theorem recursiveSchemas_tree :
    recursiveSchemas.referenced asciiTables (fun _ => true) recursiveSchemas.entryRoot
      "#/components/Tree" = .ok (recursiveSchemas.entryRoot, treeSchema) := rfl

theorem recursiveSchemas_node :
    recursiveSchemas.referenced asciiTables (fun _ => true) recursiveSchemas.entryRoot
      "#/components/Node" = .ok (recursiveSchemas.entryRoot, nodeSchema) := rfl

/-- A list of one text is a tree, and is rejected by what is left of the schema. -/
theorem resolve_rejects_tree :
    ∃ result left,
      (recursiveSchemas.resolve asciiTables (fun _ => true) 3 {}).1 = .ok result ∧
      standsAt [.field "tree"] (.obj recursiveSchemas.root) = some (refTo "#/components/Tree") ∧
      valueAt [.field "tree"] (.obj result) = some left ∧
      recursiveSchemas.ReadsRecursively asciiTables (fun _ => true) Json.pyEq (fun _ _ => True)
        recursiveSchemas.entryRoot (refTo "#/components/Tree") (.arr [.str "leaf"]) ∧
      valid Json.pyEq .draft202012 left (.arr [.str "leaf"]) = false := by
  have readsLeaf : recursiveSchemas.Accepts asciiTables (fun _ => true) Json.pyEq (fun _ _ => True) 1
      recursiveSchemas.entryRoot "#/components/Tree" (.str "leaf") :=
    ⟨trivial, _, _, recursiveSchemas_tree, reads_treeSchema.mpr (Or.inl rfl)⟩
  refine ⟨_, _, rfl, rfl, rfl, ⟨1, _, _, recursiveSchemas_tree, ?_⟩, ?_⟩
  · refine reads_treeSchema.mpr (Or.inr ⟨rfl, ?_⟩)
    simpa [itemsOf] using readsLeaf
  · simp [valid_obj, admitsNull, allHold, holds, countValid, leafHolds, typeHolds, hasType, itemsOf,
      openObject]

theorem resolve_relaxes_node :
    ∃ result left,
      (recursiveSchemas.resolve asciiTables (fun _ => true) 3 {}).1 = .ok result ∧
      valueAt [.field "node"] (.obj result) = some left ∧
      valid Json.pyEq .draft202012 left (.obj [("child", .obj [("child", .obj [])])]) = true := by
  have resolved : ∃ result,
      (recursiveSchemas.resolve asciiTables (fun _ => true) 3 {}).1 = .ok result := ⟨_, rfl⟩
  rcases resolved with ⟨result, resolved⟩
  have stands : standsAt [.field "node"] (.obj recursiveSchemas.root) =
      some (refTo "#/components/Node") := rfl
  rcases resolve_relaxes resolved stands with ⟨left, found, relaxes⟩
  refine ⟨result, left, resolved, found, relaxes _ ⟨2, ?_⟩⟩
  refine ⟨_, _, recursiveSchemas_node, reads_nodeSchema.mpr ⟨rfl, ?_⟩⟩
  rintro child isChild
  cases isChild
  refine ⟨fun _ => ⟨_, rfl⟩, _, _, recursiveSchemas_node, reads_nodeSchema.mpr ⟨rfl, ?_⟩⟩
  rintro child isChild
  cases isChild
  refine ⟨fun _ => ⟨_, rfl⟩, _, _, recursiveSchemas_node, reads_nodeSchema.mpr ⟨rfl, ?_⟩⟩
  rintro child isChild
  cases isChild

end RefResolver

end McpPortal
