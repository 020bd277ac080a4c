import McpPortal.Foundation.Dict
import McpPortal.Foundation.Fallible

/-!
# Claiming keys one by one

A fold that adds an entry for each item, and fails at an item whose key is taken,
succeeds just if the keys are distinct and none was taken before.
-/

namespace Foundation

universe u v w

section Claim

variable {Key : Type u} {Value : Type u} {Item : Type v} {Error : Type w} [DecidableEq Key]

/-- The step succeeds at a free key only, and takes it. -/
structure Claims (step : List (Key × Value) → Item → Except Error (List (Key × Value)))
    (key : Item → Key) (value : Item → Value) : Prop where
  taken : ∀ entries item next, step entries item = .ok next → key item ∉ Dict.keys entries
  free : ∀ entries item, key item ∉ Dict.keys entries →
    step entries item = .ok (Dict.insert entries (key item) (value item))

variable {step : List (Key × Value) → Item → Except Error (List (Key × Value))}
  {key : Item → Key} {value : Item → Value}

theorem Claims.keys {entries next : List (Key × Value)} {item : Item}
    (claims : Claims step key value) (stepped : step entries item = .ok next) :
    key item ∉ Dict.keys entries ∧ Dict.keys next = Dict.keys entries ++ [key item] := by
  have isFree := claims.taken entries item next stepped
  refine ⟨isFree, ?_⟩
  cases (claims.free entries item isFree).symm.trans stepped
  rw [Dict.insert_of_notMem isFree]
  simp [Dict.keys]

theorem Claims.keys_foldlM {items : List Item} {start final : List (Key × Value)}
    (claims : Claims step key value) (ran : items.foldlM step start = .ok final) :
    Dict.keys final = Dict.keys start ++ items.map key := by
  induction items generalizing start with
  | nil =>
      cases ran
      simp
  | cons item rest ih =>
      rcases foldlM_cons_eq_ok.mp ran with ⟨next, stepped, later⟩
      rw [ih later, (claims.keys stepped).2, List.map_cons, List.append_assoc,
        List.singleton_append]

/-- A run that succeeds adds the entries in order. -/
theorem Claims.entries_foldlM {items : List Item} {start final : List (Key × Value)}
    (claims : Claims step key value) (ran : items.foldlM step start = .ok final) :
    final = start ++ items.map fun item => (key item, value item) := by
  induction items generalizing start with
  | nil =>
      cases ran
      simp
  | cons item rest ih =>
      rcases foldlM_cons_eq_ok.mp ran with ⟨next, stepped, later⟩
      have isFree := claims.taken start item next stepped
      cases (claims.free start item isFree).symm.trans stepped
      rw [ih later, Dict.insert_of_notMem isFree, List.map_cons, List.append_assoc,
        List.singleton_append]

theorem Claims.foldlM_ok_iff (claims : Claims step key value) {items : List Item}
    {start : List (Key × Value)} :
    (∃ final, items.foldlM step start = .ok final) ↔
      (items.map key).Nodup ∧ ∀ item ∈ items, key item ∉ Dict.keys start := by
  induction items generalizing start with
  | nil => simp [pure, Except.pure]
  | cons item rest ih =>
      rw [List.map_cons, List.nodup_cons, List.forall_mem_cons]
      constructor
      · rintro ⟨final, ran⟩
        rcases foldlM_cons_eq_ok.mp ran with ⟨next, stepped, later⟩
        rcases claims.keys stepped with ⟨isFree, keys_next⟩
        rcases ih.mp ⟨final, later⟩ with ⟨distinct, unclaimed⟩
        rw [keys_next] at unclaimed
        refine ⟨⟨?_, distinct⟩, isFree, ?_⟩
        · intro repeated
          rcases List.mem_map.mp repeated with ⟨other, otherMem, same⟩
          apply unclaimed other otherMem
          exact List.mem_append_right _ (List.mem_singleton.mpr same)
        · intro other otherMem taken
          exact unclaimed other otherMem (List.mem_append_left _ taken)
      · rintro ⟨⟨notRepeated, distinct⟩, isFree, unclaimed⟩
        have stepped := claims.free start item isFree
        have rest_ok : ∃ final,
            rest.foldlM step (Dict.insert start (key item) (value item)) = .ok final := by
          rw [ih]
          refine ⟨distinct, fun other otherMem taken => ?_⟩
          rcases Dict.mem_keys_insert.mp taken with same | before
          · exact notRepeated (same ▸ List.mem_map_of_mem otherMem)
          · exact unclaimed other otherMem before
        rcases rest_ok with ⟨final, later⟩
        exact ⟨final, foldlM_cons_eq_ok.mpr ⟨_, stepped, later⟩⟩

end Claim

end Foundation
