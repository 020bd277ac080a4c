import McpPortal.Sources.RefInvariant
import McpPortal.Sources.WalkRuns

/-!
# Values without references

A walked value has no reference unless one was put under the key `$ref` of a mapping that
was none: its value there may be a reference itself, to a text.
-/

namespace McpPortal

open Foundation

/-- No mapping within the value has a text under `$ref`. -/
def RefFree (value : Json) : Prop :=
  ∀ fields, Within (.obj fields) value → refOf? fields = none

/-- The walk of a value comes to the part: no object around it is a reference. -/
inductive MetIn (part : Json) : Json → Prop
  | here : MetIn part part
  | item {items : List Json} {item : Json} (itemMem : item ∈ items) (met : MetIn part item) :
      MetIn part (.arr items)
  | field {fields : JsonObject} {key : String} {value : Json} (noReference : refOf? fields = none)
      (fieldMem : (key, value) ∈ fields) (met : MetIn part value) : MetIn part (.obj fields)

/-- The walk comes to a mapping whose `$ref` is itself a reference, of the marked ones. -/
def TaintedBy (marked : String → Prop) (node : Json) : Prop :=
  ∃ fields inner next, MetIn (.obj fields) node ∧ refOf? fields = none ∧
    Dict.get? fields "$ref" = some (.obj inner) ∧ refOf? inner = some next ∧ marked next

section Walked

variable {related : String → Json → Prop} {marked : String → Prop}

theorem refFree_openObject : RefFree openObject := by
  intro fields within
  cases within with
  | here => rfl
  | field fieldMem inside =>
      cases List.mem_singleton.mp fieldMem
      cases inside

theorem refOf?_eq_some_iff {fields : JsonObject} {text : String} :
    refOf? fields = some text ↔ Dict.get? fields "$ref" = some (.str text) := by
  unfold refOf?
  cases found : Dict.get? fields "$ref" with
  | none => simp
  | some value => cases value <;> simp [Json.string?]

theorem WalkedFields.get?_of_left {fields result : List (String × Json)}
    (walked : WalkedFields related fields result) {key : String} {left : Json}
    (found : Dict.get? result key = some left) :
    ∃ value, Dict.get? fields key = some value ∧ Walked related value left := by
  cases present : Dict.get? fields key with
  | none =>
      rw [Dict.get?_eq_none_iff, ← walked.keys, ← Dict.get?_eq_none_iff] at present
      cases present.symm.trans found
  | some value =>
      rcases walked.get? present with ⟨other, otherFound, walkedValue⟩
      cases found.symm.trans otherFound
      exact ⟨value, rfl, walkedValue⟩

/-- A mapping that is no reference is walked to one that is none, if it is not tainted. -/
theorem refOf?_walked (texts : ∀ ref text, related ref (.str text) → marked ref)
    {fields walkedFields : JsonObject} (walked : WalkedFields related fields walkedFields)
    (noReference : refOf? fields = none) (clean : ¬TaintedBy marked (.obj fields)) :
    refOf? walkedFields = none := by
  rw [Option.eq_none_iff_forall_ne_some]
  intro text isRef
  rcases walked.get?_of_left (refOf?_eq_some_iff.mp isRef) with ⟨value, found, walkedValue⟩
  cases value with
  | obj inner =>
      cases isInner : refOf? inner with
      | some next =>
          simp only [Walked, isInner] at walkedValue
          exact clean ⟨fields, inner, next, .here, noReference, found, isInner, texts next text
            walkedValue⟩
      | none =>
          simp only [Walked, isInner, reduceCtorEq, and_false, exists_false] at walkedValue
  | arr items =>
      rcases walkedValue with ⟨_, _, isText⟩
      cases isText
  | str other =>
      cases noReference.symm.trans (refOf?_eq_some_iff.mpr found)
  | _ => cases walkedValue

theorem TaintedBy.of_item {items : List Json} {item : Json} (itemMem : item ∈ items)
    (tainted : TaintedBy marked item) : TaintedBy marked (.arr items) := by
  rcases tainted with ⟨fields, inner, next, met, rest⟩
  exact ⟨fields, inner, next, .item itemMem met, rest⟩

theorem TaintedBy.of_field {fields : JsonObject} {key : String} {value : Json}
    (noReference : refOf? fields = none) (fieldMem : (key, value) ∈ fields)
    (tainted : TaintedBy marked value) : TaintedBy marked (.obj fields) := by
  rcases tainted with ⟨inside, inner, next, met, rest⟩
  exact ⟨inside, inner, next, .field noReference fieldMem met, rest⟩

section Clean

mutual

/-- Walking a node that is not tainted gives a value without references, if expanding does. -/
theorem Walked.refFree (free : ∀ ref value, related ref value → RefFree value)
    (texts : ∀ ref text, related ref (.str text) → marked ref) {node result : Json}
    (walked : Walked related node result) (clean : ¬TaintedBy marked node) : RefFree result := by
  cases node with
  | obj fields =>
      cases isRef : refOf? fields with
      | some ref =>
          simp only [Walked, isRef] at walked
          exact free ref result walked
      | none =>
          simp only [Walked, isRef] at walked
          rcases walked with ⟨values, walked, rfl⟩
          have inside := WalkedFields.refFree free texts walked fun key value fieldMem tainted =>
            clean (tainted.of_field isRef fieldMem)
          intro part within
          cases within with
          | here => exact refOf?_walked texts walked isRef clean
          | field fieldMem within => exact inside _ _ fieldMem part within
  | arr items =>
      rcases walked with ⟨values, walked, rfl⟩
      have inside := WalkedItems.refFree free texts walked fun item itemMem tainted =>
        clean (tainted.of_item itemMem)
      intro part within
      cases within with
      | item itemMem within => exact inside _ itemMem part within
  | _ =>
      cases walked
      intro part within
      cases within

theorem WalkedItems.refFree (free : ∀ ref value, related ref value → RefFree value)
    (texts : ∀ ref text, related ref (.str text) → marked ref) {items result : List Json}
    (walked : WalkedItems related items result) (clean : ∀ item ∈ items, ¬TaintedBy marked item) :
    ∀ item ∈ result, RefFree item := by
  cases items with
  | nil =>
      cases walked
      exact List.forall_mem_nil _
  | cons item rest =>
      rcases walked with ⟨value, walkedFirst, others, later, rfl⟩
      rw [List.forall_mem_cons] at clean ⊢
      exact ⟨walkedFirst.refFree free texts clean.1,
        WalkedItems.refFree free texts later clean.2⟩

theorem WalkedFields.refFree (free : ∀ ref value, related ref value → RefFree value)
    (texts : ∀ ref text, related ref (.str text) → marked ref)
    {fields result : List (String × Json)} (walked : WalkedFields related fields result)
    (clean : ∀ key value, (key, value) ∈ fields → ¬TaintedBy marked value) :
    ∀ key value, (key, value) ∈ result → RefFree value := by
  cases fields with
  | nil =>
      cases walked
      simp
  | cons field rest =>
      rcases walked with ⟨left, walkedFirst, others, later, rfl⟩
      intro key value fieldMem
      rcases List.mem_cons.mp fieldMem with isFirst | isLater
      · cases isFirst
        exact walkedFirst.refFree free texts (clean field.1 field.2 List.mem_cons_self)
      · exact WalkedFields.refFree free texts later
          (fun key value mem => clean key value (List.mem_cons_of_mem field mem)) key value isLater

end

end Clean

theorem WalkedItems.mem {items result : List Json} (walked : WalkedItems related items result)
    {item : Json} (itemMem : item ∈ items) :
    ∃ left ∈ result, Walked related item left := by
  rcases List.mem_iff_getElem?.mp itemMem with ⟨index, present⟩
  rcases walked.get? present with ⟨left, found, walkedItem⟩
  exact ⟨left, List.mem_of_getElem? found, walkedItem⟩

theorem WalkedFields.mem {fields result : List (String × Json)}
    (walked : WalkedFields related fields result) {key : String} {value : Json}
    (fieldMem : (key, value) ∈ fields) : ∃ left, (key, left) ∈ result ∧ Walked related value left := by
  induction fields generalizing result with
  | nil => cases fieldMem
  | cons field rest ih =>
      rcases walked with ⟨left, walkedFirst, others, later, rfl⟩
      rcases List.mem_cons.mp fieldMem with isFirst | isLater
      · cases isFirst
        exact ⟨left, List.mem_cons_self, walkedFirst⟩
      · rcases ih later isLater with ⟨other, otherMem, walkedValue⟩
        exact ⟨other, List.mem_cons_of_mem _ otherMem, walkedValue⟩

/-- What a walk comes to is walked within the result. -/
theorem MetIn.walked {part node result : Json} (met : MetIn part node)
    (walked : Walked related node result) : ∃ left, Walked related part left ∧ Within left result := by
  induction met generalizing result with
  | here => exact ⟨result, walked, .here⟩
  | item itemMem _ ih =>
      rcases walked with ⟨values, walked, rfl⟩
      rcases walked.mem itemMem with ⟨inside, insideMem, walkedItem⟩
      rcases ih walkedItem with ⟨left, walkedPart, within⟩
      exact ⟨left, walkedPart, .item insideMem within⟩
  | field noReference fieldMem _ ih =>
      simp only [Walked, noReference] at walked
      rcases walked with ⟨values, walked, rfl⟩
      rcases walked.mem fieldMem with ⟨inside, insideMem, walkedValue⟩
      rcases ih walkedValue with ⟨left, walkedPart, within⟩
      exact ⟨left, walkedPart, .field insideMem within⟩

/-- Walking a tainted node leaves a reference. -/
theorem TaintedBy.not_refFree (marks : ∀ ref value, related ref value → marked ref →
      ∃ text, value = .str text) {node result : Json} (tainted : TaintedBy marked node)
    (walked : Walked related node result) : ¬RefFree result := by
  intro free
  rcases tainted with ⟨fields, inner, next, met, noReference, found, isInner, isMarked⟩
  rcases met.walked walked with ⟨left, walkedPart, within⟩
  simp only [Walked, noReference] at walkedPart
  rcases walkedPart with ⟨values, walkedFields, rfl⟩
  rcases walkedFields.get? found with ⟨value, leftFound, walkedValue⟩
  simp only [Walked, isInner] at walkedValue
  rcases marks next value walkedValue isMarked with ⟨text, rfl⟩
  cases (free values within).symm.trans (refOf?_eq_some_iff.mpr leftFound)

end Walked

end McpPortal
