import McpPortal.Sources.Places
import McpPortal.Sources.RefPlain

/-!
# What a pointer leads to

Every segment of a pointer goes one step into a value, so it leads to something within the
document it is followed in.
-/

namespace McpPortal

open Foundation

section Pointers

variable {unicode : PyUnicode}

theorem mem_of_itemAt {items : List Json} {index : Int} {item : Json}
    (found : itemAt items index = some item) : item ∈ items := by
  unfold itemAt at found
  split at found
  · exact List.mem_of_getElem? found
  · split at found
    · exact List.mem_of_getElem? found
    · cases found

theorem within_of_pointerStep {node inside : Json} {key : String}
    (stepped : pointerStep unicode node key = .ok inside) : Within inside node := by
  cases node with
  | obj fields =>
      rw [pointerStep] at stepped
      split at stepped
      case h_1 value found =>
        cases stepped
        exact .field (Dict.mem_of_get? found) .here
      case h_2 => cases stepped
  | arr items =>
      rw [pointerStep] at stepped
      split at stepped
      · cases stepped
      · split at stepped
        case h_1 found =>
          cases stepped
          exact .item (mem_of_itemAt found) .here
        case h_2 => cases stepped
  | _ => cases stepped

theorem within_of_foldlM_pointerStep {keys : List String} {node found : Json}
    (followed : keys.foldlM (pointerStep unicode) node = .ok found) : Within found node := by
  induction keys generalizing node with
  | nil =>
      cases followed
      exact .here
  | cons key rest ih =>
      rw [List.foldlM_cons, bind_eq_ok] at followed
      rcases followed with ⟨inside, stepped, followed⟩
      exact (ih followed).trans (within_of_pointerStep stepped)

/-- A pointer leads to something within the document. -/
theorem within_of_pointerLookup {root : JsonObject} {pointer : String} {node : Json}
    (found : pointerLookup unicode root pointer = .ok node) : Within node (.obj root) := by
  unfold pointerLookup at found
  split at found
  · cases found
    exact .here
  · split at found
    · exact within_of_foldlM_pointerStep (mapError_eq_ok.mp found)
    · cases found

end Pointers

/-- What a reference points to is within the document it lies in. -/
theorem RefResolver.within_of_referenced {Access FetchError : Type} {unicode : PyUnicode}
    {acceptsNetloc : List Char → Bool} {resolver : RefResolver Access FetchError}
    {root newRoot : DocumentRoot} {ref : String} {node : Json}
    (points : resolver.referenced unicode acceptsNetloc root ref = .ok (newRoot, node)) :
    Within node (.obj newRoot.document) := by
  simp only [referenced, bind_eq_ok, pure_eq_ok, Prod.mk.injEq] at points
  rcases points with ⟨_, _, _, found, rfl, rfl⟩
  exact within_of_pointerLookup (mapError_eq_ok.mp found)

end McpPortal
