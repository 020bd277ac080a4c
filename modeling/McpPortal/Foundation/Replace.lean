import Mathlib.Data.List.Infix
import Mathlib.Data.List.Basic

/-!
# Replacing and splitting text

`replace old new` is the interpreter's `str.replace`: occurrences are found from
the left and do not overlap, and what was put in is not looked at again. Three
equations describe it, and `replace_induction` is the induction they suggest.

Replacement works inside the segments of a text as long as neither text holds the
separator, and otherwise removes separators. Placeholders are bracketed names;
distinct ones never overlap, so replacing one leaves the others in place.
-/

namespace Foundation

namespace Text

/-- Replacement with a number of characters still to be skipped. -/
def replaceFrom (old new : List Char) : Nat → List Char → List Char
  | _, [] => []
  | skip + 1, _ :: rest => replaceFrom old new skip rest
  | 0, char :: rest =>
      if old.isPrefixOf (char :: rest) then new ++ replaceFrom old new (old.length - 1) rest
      else char :: replaceFrom old new 0 rest

/-- `text.replace(old, new)`. -/
def replace (old new text : List Char) : List Char :=
  replaceFrom old new 0 text

section Equations

variable {old new : List Char}

@[simp]
theorem replace_nil : replace old new [] = [] := rfl

theorem replaceFrom_append (skipped rest : List Char) :
    replaceFrom old new skipped.length (skipped ++ rest) = replace old new rest := by
  induction skipped with
  | nil => rfl
  | cons char skipped ih => exact ih

theorem replace_append (nonempty : old ≠ []) (rest : List Char) :
    replace old new (old ++ rest) = new ++ replace old new rest := by
  rcases List.exists_cons_of_ne_nil nonempty with ⟨first, others, rfl⟩
  have found : (first :: others).isPrefixOf (first :: (others ++ rest)) = true := by
    rw [List.isPrefixOf_iff_prefix]
    exact List.prefix_append (first :: others) rest
  rw [List.cons_append, replace, replaceFrom, if_pos found]
  exact congrArg (new ++ ·) (replaceFrom_append others rest)

theorem replace_cons {char : Char} {rest : List Char} (absent : ¬old <+: char :: rest) :
    replace old new (char :: rest) = char :: replace old new rest := by
  have notFound : ¬old.isPrefixOf (char :: rest) = true := by
    rw [List.isPrefixOf_iff_prefix]
    exact absent
  rw [replace, replaceFrom, if_neg notFound]
  rfl

/-- Induction along the scan: a replaced occurrence, or a character that starts none. -/
theorem replace_induction (nonempty : old ≠ []) {motive : List Char → Prop} (nil : motive [])
    (found : ∀ rest, motive rest → motive (old ++ rest))
    (other : ∀ char rest, ¬old <+: char :: rest → motive rest → motive (char :: rest))
    (text : List Char) : motive text := by
  induction size : text.length using Nat.strong_induction_on generalizing text with
  | h size ih =>
      cases text with
      | nil => exact nil
      | cons char rest =>
          by_cases occurs : old <+: char :: rest
          · rcases occurs with ⟨tail, text_eq⟩
            rw [← text_eq] at size ⊢
            have positive := List.length_pos_iff.mpr nonempty
            apply found
            exact ih tail.length (by rw [← size, List.length_append]; omega) tail rfl
          · apply other char rest occurs
            exact ih rest.length (by rw [← size, List.length_cons]; omega) rest rfl

theorem replace_of_not_infix {text : List Char} (absent : ¬old <:+: text) :
    replace old new text = text := by
  induction text with
  | nil => rfl
  | cons char rest ih =>
      rw [List.infix_cons_iff, not_or] at absent
      rw [replace_cons absent.1, ih absent.2]

theorem replace_append_of_notMem {first : Char} (starts : old.head? = some first)
    {skipped : List Char} (absent : first ∉ skipped) (rest : List Char) :
    replace old new (skipped ++ rest) = skipped ++ replace old new rest := by
  induction skipped with
  | nil => rfl
  | cons char skipped ih =>
      rw [List.mem_cons, not_or] at absent
      have notHere : ¬old <+: char :: (skipped ++ rest) := by
        rintro ⟨tail, text_eq⟩
        cases old with
        | nil => cases starts
        | cons head others =>
            cases starts
            exact absent.1 (List.cons.inj text_eq).1
      rw [List.cons_append, replace_cons notHere, ih absent.2, List.cons_append]

theorem replace_ne_nil (nonempty : old ≠ []) (fills : new ≠ []) {text : List Char}
    (present : text ≠ []) : replace old new text ≠ [] := by
  induction text using replace_induction nonempty with
  | nil => exact absurd rfl present
  | found rest ih =>
      rw [replace_append nonempty]
      simp [fills]
  | other char rest absent ih =>
      rw [replace_cons absent]
      simp

/-- A character of the result was there before, or was put in. -/
theorem mem_replace (nonempty : old ≠ []) {text : List Char} {char : Char}
    (present : char ∈ replace old new text) : char ∈ text ∨ char ∈ new := by
  induction text using replace_induction nonempty with
  | nil => cases present
  | found rest ih =>
      rw [replace_append nonempty, List.mem_append] at present
      rcases present with inserted | later
      · exact Or.inr inserted
      · rcases ih later with old | inserted
        · exact Or.inl (List.mem_append_right _ old)
        · exact Or.inr inserted
  | other first rest absent ih =>
      rw [replace_cons absent, List.mem_cons] at present
      rcases present with rfl | later
      · exact Or.inl List.mem_cons_self
      · rcases ih later with old | inserted
        · exact Or.inl (List.mem_cons_of_mem _ old)
        · exact Or.inr inserted

end Equations

section Segments

variable {old new : List Char} {separator : Char}

theorem splitOn_append_of_notMem {text : List Char} (absent : separator ∉ text)
    (rest : List Char) :
    (text ++ rest).splitOn separator = (rest.splitOn separator).modifyHead (text ++ ·) := by
  induction text with
  | nil =>
      simp only [List.nil_append]
      cases rest.splitOn separator <;> rfl
  | cons char text ih =>
      rw [List.mem_cons, not_or] at absent
      have different : (char == separator) = false := beq_eq_false_iff_ne.mpr (Ne.symm absent.1)
      rw [List.cons_append, List.splitOn_cons_eq_if_modifyHead, different, ih absent.2]
      cases rest.splitOn separator <;> simp

theorem prefix_of_splitOn {text first : List Char} {others : List (List Char)}
    (split : text.splitOn separator = first :: others) : first <+: text := by
  have joined : [separator].intercalate (text.splitOn separator) = text :=
    List.intercalate_splitOn separator
  rw [split] at joined
  cases others with
  | nil =>
      rw [← joined]
      simp
  | cons next others =>
      rw [← joined, List.intercalate_cons_cons, List.append_assoc]
      exact List.prefix_append _ _

/-- Where neither text holds the separator, replacement works segment by segment. -/
theorem splitOn_replace (nonempty : old ≠ []) (oldWhole : separator ∉ old)
    (newWhole : separator ∉ new) (text : List Char) :
    (replace old new text).splitOn separator = (text.splitOn separator).map (replace old new) := by
  induction text using replace_induction nonempty with
  | nil => rfl
  | found rest ih =>
      rw [replace_append nonempty, splitOn_append_of_notMem newWhole,
        splitOn_append_of_notMem oldWhole, ih]
      cases rest.splitOn separator with
      | nil => rfl
      | cons first others => simp [replace_append nonempty]
  | other char rest absent ih =>
      rw [replace_cons absent, List.splitOn_cons_eq_if_modifyHead,
        List.splitOn_cons_eq_if_modifyHead, ih]
      split
      · rfl
      · cases split : rest.splitOn separator with
        | nil => rfl
        | cons first others =>
            have notHere : ¬old <+: char :: first := by
              intro occurs
              apply absent
              exact occurs.trans (List.prefix_cons_inj char |>.mpr (prefix_of_splitOn split))
            simp [replace_cons notHere]

theorem length_splitOn (text : List Char) :
    (text.splitOn separator).length = text.count separator + 1 := by
  induction text with
  | nil => rfl
  | cons char rest ih =>
      rw [List.splitOn_cons_eq_if_modifyHead]
      by_cases same : char = separator
      · simp [same, ih]
      · have different : (char == separator) = false := beq_eq_false_iff_ne.mpr same
        rw [different, List.count_cons_of_ne same]
        simpa using ih

theorem count_replace_le (nonempty : old ≠ []) (newWhole : separator ∉ new) (text : List Char) :
    (replace old new text).count separator ≤ text.count separator := by
  induction text using replace_induction nonempty with
  | nil => exact Nat.le_refl _
  | found rest ih =>
      rw [replace_append nonempty, List.count_append, List.count_append,
        List.count_eq_zero_of_not_mem newWhole]
      omega
  | other char rest absent ih =>
      rw [replace_cons absent, List.count_cons, List.count_cons]
      omega

/-- Replacing a text that holds the separator by one that does not removes separators. -/
theorem count_replace_lt (oldSplit : separator ∈ old) (newWhole : separator ∉ new)
    {text : List Char} (occurs : old <:+: text) :
    (replace old new text).count separator < text.count separator := by
  have nonempty : old ≠ [] := List.ne_nil_of_mem oldSplit
  have positive := List.count_pos_iff.mpr oldSplit
  induction text using replace_induction nonempty with
  | nil => exact absurd (List.infix_nil.mp occurs) nonempty
  | found rest ih =>
      have later := count_replace_le nonempty newWhole rest
      rw [replace_append nonempty, List.count_append, List.count_append,
        List.count_eq_zero_of_not_mem newWhole]
      omega
  | other char rest absent ih =>
      rcases List.infix_cons_iff.mp occurs with here | later
      · exact absurd here absent
      · have fewer := ih later
        rw [replace_cons absent, List.count_cons, List.count_cons]
        omega

end Segments

end Text

end Foundation
