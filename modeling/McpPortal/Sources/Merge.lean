import McpPortal.Naming

/-!
# Merging introspected and explicit operations

An explicit operation replaces the introspected one of the same id entirely, and
one with a new id is added. Two entries of one id are refused before the lookup
table is built, which would keep only the last of them.
-/

namespace McpPortal

open Foundation

def mergeOperations (introspected explicit : List Operation) : Naming (List Operation) := do
  let duplicates := sortedRepeats (explicit.map (·.id))
  if duplicates ≠ [] then throw (.raised (.duplicateEntryIds duplicates))
  let explicitById := Dict.indexBy (·.id) explicit
  let seen := introspected.map (·.id)
  return introspected.map (fun op => (Dict.get? explicitById op.id).getD op) ++
    (explicitById.map (·.2)).filter fun op => op.id ∉ seen

variable {introspected explicit merged : List Operation}

theorem mergeOperations_ok (ran : mergeOperations introspected explicit = .ok merged) :
    (explicit.map (·.id)).Nodup ∧
      merged = introspected.map (fun op =>
          (Dict.get? (Dict.indexBy (·.id) explicit) op.id).getD op) ++
        explicit.filter fun op => op.id ∉ introspected.map (·.id) := by
  simp only [mergeOperations, throw_bind, check_eq_ok, pure_eq_ok, ne_eq, not_not,
    sortedRepeats_eq_nil_iff] at ran
  rcases ran with ⟨unique, rfl⟩
  refine ⟨unique, ?_⟩
  rw [Dict.indexBy_of_nodup unique, List.map_map]
  congr 2
  exact List.map_id explicit

/-- What is merged: every explicit operation, and the introspected ones no entry replaces. -/
theorem mem_mergeOperations (ran : mergeOperations introspected explicit = .ok merged)
    {op : Operation} :
    op ∈ merged ↔ op ∈ explicit ∨ (op ∈ introspected ∧ op.id ∉ explicit.map (·.id)) := by
  rcases mergeOperations_ok ran with ⟨unique, rfl⟩
  rw [List.mem_append, List.mem_map, List.mem_filter, decide_eq_true_eq]
  constructor
  · rintro (⟨found, foundMem, rfl⟩ | ⟨opMem, _⟩)
    · cases replaced : Dict.get? (Dict.indexBy (·.id) explicit) found.id with
      | some entry => exact Or.inl ((Dict.get?_indexBy_eq_some_iff unique).mp replaced).1
      | none => exact Or.inr ⟨foundMem, Dict.get?_indexBy_eq_none_iff.mp replaced⟩
    · exact Or.inl opMem
  · rintro (opMem | ⟨opMem, notReplaced⟩)
    · by_cases introspectedId : op.id ∈ introspected.map (·.id)
      · rcases List.mem_map.mp introspectedId with ⟨found, foundMem, sameId⟩
        refine Or.inl ⟨found, foundMem, ?_⟩
        rw [(Dict.get?_indexBy_eq_some_iff unique).mpr ⟨opMem, sameId.symm⟩, Option.getD_some]
      · exact Or.inr ⟨opMem, introspectedId⟩
    · refine Or.inl ⟨op, opMem, ?_⟩
      rw [Dict.get?_indexBy_eq_none_iff.mpr notReplaced, Option.getD_none]

end McpPortal
