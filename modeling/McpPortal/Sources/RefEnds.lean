import McpPortal.Foundation.Reach
import McpPortal.Sources.Pointers
import McpPortal.Sources.RefMemory

/-!
# The end of a resolution

Along a chain no reference is expanded twice, and the references of finitely many documents
are finitely many, so they bound the depth of the traversal.
-/

namespace McpPortal

open Foundation

mutual

/-- The texts of all references within a value, those next to a `$ref` included. -/
def refTexts : Json → List String
  | .obj fields => (refOf? fields).toList ++ refTextsOfFields fields
  | .arr items => refTextsOfItems items
  | _ => []

def refTextsOfItems : List Json → List String
  | [] => []
  | item :: rest => refTexts item ++ refTextsOfItems rest

def refTextsOfFields : List (String × Json) → List String
  | [] => []
  | (_, value) :: rest => refTexts value ++ refTextsOfFields rest

end

theorem refTexts_subset_items {items : List Json} {item : Json} (itemMem : item ∈ items) :
    refTexts item ⊆ refTextsOfItems items := by
  induction items with
  | nil => cases itemMem
  | cons first rest ih =>
      rw [refTextsOfItems]
      rcases List.mem_cons.mp itemMem with rfl | later
      · exact List.subset_append_left _ _
      · exact List.Subset.trans (ih later) (List.subset_append_right _ _)

theorem refTexts_subset_fields {fields : List (String × Json)} {key : String} {value : Json}
    (fieldMem : (key, value) ∈ fields) : refTexts value ⊆ refTextsOfFields fields := by
  induction fields with
  | nil => cases fieldMem
  | cons field rest ih =>
      rw [refTextsOfFields]
      rcases List.mem_cons.mp fieldMem with rfl | later
      · exact List.subset_append_left _ _
      · exact List.Subset.trans (ih later) (List.subset_append_right _ _)

/-- What is within a value has no other references. -/
theorem Within.refTexts_subset {part value : Json} (within : Within part value) :
    refTexts part ⊆ refTexts value := by
  induction within with
  | here => exact List.Subset.refl _
  | item itemMem _ ih => exact List.Subset.trans ih (refTexts_subset_items itemMem)
  | field fieldMem _ ih =>
      rw [refTexts]
      have inFields := List.Subset.trans ih (refTexts_subset_fields fieldMem)
      exact List.Subset.trans inFields (List.subset_append_right _ _)

mutual

/-- The references that a walk meets are among all. -/
theorem refsOf_subset_refTexts (node : Json) : refsOf node ⊆ refTexts node := by
  cases node with
  | obj fields =>
      rw [refsOf, refTexts]
      cases refOf? fields with
      | some ref => simp
      | none => exact refsOfFields_subset_refTexts fields
  | arr items => exact refsOfItems_subset_refTexts items
  | _ => exact List.nil_subset _

theorem refsOfItems_subset_refTexts (items : List Json) :
    refsOfItems items ⊆ refTextsOfItems items := by
  cases items with
  | nil => exact List.nil_subset _
  | cons item rest =>
      rw [refsOfItems, refTextsOfItems]
      apply List.append_subset.mpr
      constructor
      · exact List.Subset.trans (refsOf_subset_refTexts item) (List.subset_append_left _ _)
      · exact List.Subset.trans (refsOfItems_subset_refTexts rest) (List.subset_append_right _ _)

theorem refsOfFields_subset_refTexts (fields : List (String × Json)) :
    refsOfFields fields ⊆ refTextsOfFields fields := by
  cases fields with
  | nil => exact List.nil_subset _
  | cons field rest =>
      rw [refsOfFields, refTextsOfFields]
      apply List.append_subset.mpr
      constructor
      · exact List.Subset.trans (refsOf_subset_refTexts field.2) (List.subset_append_left _ _)
      · exact List.Subset.trans (refsOfFields_subset_refTexts rest) (List.subset_append_right _ _)

end

namespace RefResolver

variable {Access FetchError : Type}

/-- The fetcher has documents for the targets only. -/
def Covers (resolver : RefResolver Access FetchError) (targets : List String) : Prop :=
  ∀ fetchExternal, resolver.fetchExternal = some fetchExternal →
    ∀ target document, (fetchExternal target).result = .ok document → target ∈ targets

/-- The external documents are finitely many. -/
def FiniteFamily (resolver : RefResolver Access FetchError) : Prop :=
  ∃ targets, resolver.Covers targets

/-- The keys of all references of the entry document and of those fetched for the targets. -/
def refKeys (acceptsNetloc : List Char → Bool) (resolver : RefResolver Access FetchError)
    (targets : List String) : List RefKey :=
  (refTexts (.obj resolver.root)).map resolver.entryRoot.key ++
    targets.flatMap fun target =>
      match resolver.documentAt acceptsNetloc target with
      | .ok root => (refTexts (.obj root.document)).map root.key
      | .error _ => []

variable {unicode : PyUnicode} {acceptsNetloc : List Char → Bool}
  {resolver : RefResolver Access FetchError} {targets : List String}

theorem mem_of_documentAt {target : String} {root : DocumentRoot} (covers : resolver.Covers targets)
    (fetched : resolver.documentAt acceptsNetloc target = .ok root) : target ∈ targets := by
  simp only [documentAt, bind_eq_ok] at fetched
  rcases fetched with ⟨_, _, fetched⟩
  split at fetched
  · cases fetched
  case h_2 fetchExternal isFetcher =>
    simp only [bind_eq_ok, mapError_eq_ok] at fetched
    rcases fetched with ⟨document, fetched, _⟩
    exact covers fetchExternal isFetcher target document fetched

theorem key_mem_refKeys (covers : resolver.Covers targets) {root : DocumentRoot} {ref : String}
    (genuine : resolver.Genuine acceptsNetloc root)
    (isText : ref ∈ refTexts (.obj root.document)) :
    root.key ref ∈ resolver.refKeys acceptsNetloc targets := by
  unfold refKeys
  rcases genuine with rfl | ⟨target, fetched⟩
  · exact List.mem_append_left _ (List.mem_map_of_mem isText)
  · apply List.mem_append_right
    refine List.mem_flatMap.mpr ⟨target, mem_of_documentAt covers fetched, ?_⟩
    rw [fetched]
    exact List.mem_map_of_mem isText

/-- A reference that the traversal meets is one of its document. -/
theorem Visits.mem_refTexts {chain : List RefKey} {root : DocumentRoot} {ref : String}
    (visits : resolver.Visits unicode acceptsNetloc chain root ref) :
    ref ∈ refTexts (.obj root.document) := by
  refine Visits.induction (motive := fun _ root ref => ref ∈ refTexts (.obj root.document))
    ?_ ?_ visits
  · intro first firstMem
    exact refsOf_subset_refTexts _ firstMem
  · intro chain root ref newRoot node next _ points nextMem _
    exact (within_of_referenced points).refTexts_subset (refsOf_subset_refTexts node nextMem)

/-- With enough depth a resolution does not run into its bound. -/
theorem resolveRef_ends {stands : DocumentRoot → String → Json → Prop}
    (isStands : resolver.Stands unicode acceptsNetloc stands) (covers : resolver.Covers targets)
    {depth : Nat} {chain : List RefKey} {root : DocumentRoot} {ref : String}
    {state later : ResolverState Access} {error : ResolveException FetchError}
    (enough : offPath (resolver.refKeys acceptsNetloc targets) chain < depth)
    (visits : resolver.Visits unicode acceptsNetloc chain root ref)
    (complete : resolver.Complete unicode acceptsNetloc stands chain state)
    (ran : resolver.resolveRef unicode acceptsNetloc depth chain root ref state =
      (.error error, later)) : error ≠ .raised .recursionLimit := by
  induction depth generalizing chain root ref state later with
  | zero => cases enough
  | succ depth ih =>
      rcases resolveRef_run_error complete.keepsFetched ran with
        ⟨closed, notFound | ⟨newRoot, node, before, lookedUp, stopped⟩⟩
      · rintro rfl
        exact referenced_ne_recursionLimit notFound
      · have visitsNext := fun (next : String) (nextMem : next ∈ refsOf node) =>
          visits.inside closed lookedUp.points nextMem
        have inside := (complete.fetches lookedUp.fetches).append [root.key ref]
        rcases isStands.stops visitsNext inside stopped with
          ⟨_, next, _, _, _, nextMem, _, nextComplete, nextFailed⟩
        have fewer := offPath_lt (key_mem_refKeys covers visits.genuine visits.mem_refTexts) closed
        exact ih (by omega) (visitsNext next nextMem) nextComplete nextFailed

end RefResolver

end McpPortal
