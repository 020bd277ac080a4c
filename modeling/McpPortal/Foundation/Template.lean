import Mathlib.Data.List.TakeWhile
import McpPortal.Foundation.Replace

/-!
# Placeholders in a text

A placeholder is a name in braces that holds no brace itself. `placeholders` finds
them as the regular expression `\{([^{}]*)\}` does; `mem_placeholders_iff` says
that these are all bracketed names that occur anywhere. Distinct placeholders do
not overlap, so filling one keeps the others.
-/

namespace Foundation

namespace Text

def braced (name : List Char) : List Char :=
  '\x7b' :: name ++ ['\x7d']

def braceFree (text : List Char) : Prop :=
  '\x7b' ∉ text ∧ '\x7d' ∉ text

/-- The scan, with the characters since the last opening brace, latest first. -/
def scanPlaceholders : Option (List Char) → List Char → List (List Char)
  | _, [] => []
  | opened, char :: rest =>
      if char = '\x7b' then scanPlaceholders (some []) rest
      else
        match opened with
        | none => scanPlaceholders none rest
        | some name =>
            if char = '\x7d' then name.reverse :: scanPlaceholders none rest
            else scanPlaceholders (some (char :: name)) rest

/-- `re.compile(r"\{([^{}]*)\}").findall(text)`. -/
def placeholders (text : List Char) : List (List Char) :=
  scanPlaceholders none text

theorem braced_ne_nil (name : List Char) : braced name ≠ [] :=
  List.cons_ne_nil _ _

/-- After an opening brace, what comes up to the next closing one is a name. -/
def Closes (name rest : List Char) : Prop :=
  braceFree name ∧ ∃ tail, rest = name ++ '\x7d' :: tail

theorem braced_prefix_iff {name rest : List Char} :
    braced name <+: '\x7b' :: rest ↔ ∃ tail, rest = name ++ '\x7d' :: tail := by
  simp only [List.IsPrefix, braced, List.cons_append, List.append_assoc, List.cons.injEq, true_and,
    List.nil_append]
  exact exists_congr fun tail => eq_comm

theorem notPrefix_of_ne {name rest : List Char} {char : Char} (other : char ≠ '\x7b') :
    ¬braced name <+: char :: rest := by
  rintro ⟨tail, text_eq⟩
  exact other (List.cons.inj text_eq).1.symm

theorem mem_scanPlaceholders_iff (name text : List Char) :
    (name ∈ scanPlaceholders none text ↔ braceFree name ∧ braced name <:+: text) ∧
      ∀ opened, braceFree opened →
        (name ∈ scanPlaceholders (some opened) text ↔
          (∃ closing, Closes closing text ∧ name = opened.reverse ++ closing) ∨
            (braceFree name ∧ braced name <:+: text)) := by
  induction text with
  | nil =>
      constructor
      · simp [scanPlaceholders, braced]
      · intro opened _
        simp [scanPlaceholders, braced, Closes]
  | cons char rest ih =>
      rcases ih with ⟨outside, inside⟩
      by_cases opening : char = '\x7b'
      · subst char
        have scanned := inside [] (by simp [braceFree])
        have notClosing : ∀ closing, ¬Closes closing ('\x7b' :: rest) := by
          rintro (_ | ⟨first, closing⟩) ⟨⟨free, _⟩, tail, text_eq⟩
          · simp at text_eq
          · simp only [List.cons_append, List.cons.injEq] at text_eq
            exact free (text_eq.1 ▸ List.mem_cons_self)
        have here : (∃ closing, Closes closing rest ∧ name = [].reverse ++ closing) ↔
            braceFree name ∧ braced name <+: '\x7b' :: rest := by
          rw [braced_prefix_iff]
          simp [Closes]
        constructor
        · simp only [scanPlaceholders, if_true, scanned, here, List.infix_cons_iff]
          tauto
        · intro opened _
          simp only [scanPlaceholders, if_true, scanned, here, List.infix_cons_iff]
          constructor
          · tauto
          · rintro (⟨closing, closes, _⟩ | found)
            · exact absurd closes (notClosing closing)
            · tauto
      · have notHere : ¬braced name <+: char :: rest := notPrefix_of_ne opening
        constructor
        · simp only [scanPlaceholders, opening, if_false, outside, List.infix_cons_iff, notHere,
            false_or]
        · intro opened free
          by_cases closing : char = '\x7d'
          · subst char
            have closes : ∀ closing, Closes closing ('\x7d' :: rest) ↔ closing = [] := by
              intro closing
              constructor
              · rintro ⟨⟨_, noClosing⟩, tail, text_eq⟩
                cases closing with
                | nil => rfl
                | cons first closing =>
                    simp only [List.cons_append, List.cons.injEq] at text_eq
                    exact absurd (text_eq.1 ▸ List.mem_cons_self) noClosing
              · rintro rfl
                exact ⟨by simp [braceFree], rest, rfl⟩
            simp only [scanPlaceholders, opening, if_false, if_true, List.mem_cons, outside,
              List.infix_cons_iff, notHere, false_or, closes, exists_eq_left, List.append_nil]
          · have grown : braceFree (char :: opened) := by
              simp only [braceFree, List.mem_cons, not_or]
              exact ⟨⟨Ne.symm opening, free.1⟩, Ne.symm closing, free.2⟩
            have later := inside (char :: opened) grown
            have closes : (∃ tail, Closes tail (char :: rest) ∧ name = opened.reverse ++ tail) ↔
                ∃ tail, Closes tail rest ∧ name = (char :: opened).reverse ++ tail := by
              constructor
              · rintro ⟨_ | ⟨first, closed⟩, ⟨bracesFree, tail, text_eq⟩, rfl⟩
                · simp only [List.nil_append, List.cons.injEq] at text_eq
                  exact absurd text_eq.1 closing
                · simp only [List.cons_append, List.cons.injEq] at text_eq
                  rcases text_eq with ⟨rfl, rest_eq⟩
                  simp only [braceFree, List.mem_cons, not_or] at bracesFree
                  exact ⟨closed, ⟨⟨bracesFree.1.2, bracesFree.2.2⟩, tail, rest_eq⟩, by simp⟩
              · rintro ⟨closed, ⟨⟨noOpening, noClosing⟩, tail, rfl⟩, rfl⟩
                refine ⟨char :: closed, ⟨?_, tail, rfl⟩, by simp⟩
                simp only [braceFree, List.mem_cons, not_or]
                exact ⟨⟨Ne.symm opening, noOpening⟩, Ne.symm closing, noClosing⟩
            simp only [scanPlaceholders, opening, closing, if_false, later, closes,
              List.infix_cons_iff, notHere, false_or]

/-- The placeholders are the bracketed names that occur in the text. -/
theorem mem_placeholders_iff {name text : List Char} :
    name ∈ placeholders text ↔ braceFree name ∧ braced name <:+: text :=
  (mem_scanPlaceholders_iff name text).1

section Fill

variable {name other new : List Char}

theorem eq_of_append_closing {left right leftRest rightRest : List Char}
    (leftFree : '\x7d' ∉ left) (rightFree : '\x7d' ∉ right)
    (same : left ++ '\x7d' :: leftRest = right ++ '\x7d' :: rightRest) : left = right := by
  induction left generalizing right with
  | nil =>
      cases right with
      | nil => rfl
      | cons char right =>
          rw [List.mem_cons, not_or] at rightFree
          exact absurd (List.cons.inj same).1 rightFree.1
  | cons char left ih =>
      rw [List.mem_cons, not_or] at leftFree
      cases right with
      | nil => exact absurd (List.cons.inj same).1.symm leftFree.1
      | cons first right =>
          rw [List.mem_cons, not_or] at rightFree
          rcases List.cons.inj same with ⟨rfl, rest⟩
          rw [ih leftFree.2 rightFree.2 rest]

theorem braced_infix_skip {skipped : List Char} (noOpening : '\x7b' ∉ skipped) {rest : List Char}
    (occurs : braced other <:+: skipped ++ rest) : braced other <:+: rest := by
  induction skipped with
  | nil => exact occurs
  | cons char skipped ih =>
      rw [List.mem_cons, not_or] at noOpening
      rw [List.cons_append, List.infix_cons_iff] at occurs
      rcases occurs with here | later
      · exact absurd here (notPrefix_of_ne (Ne.symm noOpening.1))
      · exact ih noOpening.2 later

/-- A bracketed name does not start inside another one. -/
theorem braced_infix_append (free : braceFree name) (otherFree : braceFree other)
    (different : other ≠ name) {rest : List Char}
    (occurs : braced other <:+: braced name ++ rest) : braced other <:+: rest := by
  have unfolded : braced name ++ rest = '\x7b' :: ((name ++ ['\x7d']) ++ rest) := rfl
  have noOpening : '\x7b' ∉ name ++ ['\x7d'] := by simp [free.1]
  rw [unfolded, List.infix_cons_iff] at occurs
  rcases occurs with here | later
  · exfalso
    rcases braced_prefix_iff.mp here with ⟨tail, text_eq⟩
    rw [List.append_assoc] at text_eq
    exact different (eq_of_append_closing free.2 otherFree.2 text_eq).symm
  · exact braced_infix_skip noOpening later

/-- Filling a placeholder keeps every other one. -/
theorem braced_infix_replace (free : braceFree name) (otherFree : braceFree other)
    (different : other ≠ name) {text : List Char}
    (occurs : braced other <:+: text) : braced other <:+: replace (braced name) new text := by
  induction text using replace_induction (braced_ne_nil name) with
  | nil => exact occurs
  | found rest ih =>
      rw [replace_append (braced_ne_nil name)]
      have later := ih (braced_infix_append free otherFree different occurs)
      exact later.trans (List.suffix_append _ _).isInfix
  | other char rest absent ih =>
      rw [replace_cons absent]
      rcases List.infix_cons_iff.mp occurs with here | later
      · by_cases opening : char = '\x7b'
        · subst char
          rcases braced_prefix_iff.mp here with ⟨tail, rfl⟩
          have noOpening : '\x7b' ∉ other ++ ['\x7d'] := by simp [otherFree.1]
          have kept : replace (braced name) new ((other ++ ['\x7d']) ++ tail) =
              (other ++ ['\x7d']) ++ replace (braced name) new tail :=
            replace_append_of_notMem rfl noOpening tail
          rw [List.append_assoc, List.singleton_append] at kept
          rw [kept]
          exact (List.prefix_append (braced other) _).isInfix
        · exact absurd here (notPrefix_of_ne opening)
      · exact (ih later).trans (List.suffix_cons _ _).isInfix

end Fill

/-- Names of placeholders with the texts that replace them. -/
abbrev Fillings := List (List Char × List Char)

def fillAll (fillings : Fillings) (text : List Char) : List Char :=
  fillings.foldl (fun text filling => replace (braced filling.1) filling.2 text) text

section FillAll

variable {fillings : Fillings} {separator : Char}

@[simp]
theorem fillAll_nil (text : List Char) : fillAll [] text = text := rfl

theorem fillAll_cons (filling : List Char × List Char) (rest : Fillings) (text : List Char) :
    fillAll (filling :: rest) text =
      fillAll rest (replace (braced filling.1) filling.2 text) := rfl

theorem fillAll_of_no_placeholder (free : ∀ filling ∈ fillings, braceFree filling.1)
    {text : List Char} (none : placeholders text = []) : fillAll fillings text = text := by
  induction fillings with
  | nil => rfl
  | cons filling rest ih =>
      rw [List.forall_mem_cons] at free
      have absent : ¬braced filling.1 <:+: text := by
        intro occurs
        have found := mem_placeholders_iff.mpr ⟨free.1, occurs⟩
        rw [none] at found
        cases found
      rw [fillAll_cons, replace_of_not_infix absent, ih free.2]

theorem placeholders_eq_nil {text : List Char} (noOpening : '\x7b' ∉ text) :
    placeholders text = [] := by
  rw [List.eq_nil_iff_forall_not_mem]
  intro name present
  have occurs := (mem_placeholders_iff.mp present).2
  exact noOpening (occurs.subset List.mem_cons_self)

/-- A text that is one placeholder is filled with the text of its own name. -/
theorem fillAll_braced (free : ∀ filling ∈ fillings, braceFree filling.1)
    (closed : ∀ filling ∈ fillings, '\x7b' ∉ filling.2)
    (distinct : (fillings.map Prod.fst).Nodup) {filling : List Char × List Char}
    (present : filling ∈ fillings) : fillAll fillings (braced filling.1) = filling.2 := by
  induction fillings with
  | nil => cases present
  | cons first rest ih =>
      rw [List.forall_mem_cons] at free closed
      rw [List.map_cons, List.nodup_cons] at distinct
      rcases List.mem_cons.mp present with rfl | later
      · have filled : replace (braced filling.1) filling.2 (braced filling.1) = filling.2 := by
          have whole := @replace_append _ filling.2 (braced_ne_nil filling.1) []
          simpa using whole
        rw [fillAll_cons, filled]
        exact fillAll_of_no_placeholder free.2 (placeholders_eq_nil closed.1)
      · have different : first.1 ≠ filling.1 := by
          intro same
          exact distinct.1 (same ▸ List.mem_map_of_mem later)
        have absent : ¬braced first.1 <:+: braced filling.1 := by
          intro occurs
          rw [← List.append_nil (braced filling.1)] at occurs
          have inRest := braced_infix_append (free.2 filling later) free.1 different occurs
          exact braced_ne_nil first.1 (List.infix_nil.mp inRest)
        rw [fillAll_cons, replace_of_not_infix absent]
        exact ih free.2 closed.2 distinct.2 later

theorem fillAll_ne_nil (filled : ∀ filling ∈ fillings, filling.2 ≠ []) {text : List Char}
    (present : text ≠ []) : fillAll fillings text ≠ [] := by
  induction fillings generalizing text with
  | nil => exact present
  | cons filling rest ih =>
      rw [List.forall_mem_cons] at filled
      exact ih filled.2 (replace_ne_nil (braced_ne_nil _) filled.1 present)

theorem mem_fillAll {text : List Char} {char : Char} (present : char ∈ fillAll fillings text) :
    char ∈ text ∨ ∃ filling ∈ fillings, char ∈ filling.2 := by
  induction fillings generalizing text with
  | nil => exact Or.inl present
  | cons filling rest ih =>
      rcases ih present with early | ⟨later, laterMem, inserted⟩
      · rcases mem_replace (braced_ne_nil _) early with old | inserted
        · exact Or.inl old
        · exact Or.inr ⟨filling, List.mem_cons_self, inserted⟩
      · exact Or.inr ⟨later, List.mem_cons_of_mem _ laterMem, inserted⟩

/-- As long as no name and no text holds the separator, segments are filled one by one. -/
theorem splitOn_fillAll (notBrace : separator ≠ '\x7b' ∧ separator ≠ '\x7d')
    (whole : ∀ filling ∈ fillings, separator ∉ filling.1 ∧ separator ∉ filling.2)
    (text : List Char) :
    (fillAll fillings text).splitOn separator =
      (text.splitOn separator).map (fillAll fillings) := by
  induction fillings generalizing text with
  | nil => exact (List.map_id _).symm
  | cons filling rest ih =>
      rw [List.forall_mem_cons] at whole
      have nameWhole : separator ∉ braced filling.1 := by
        simp [braced, notBrace, whole.1.1]
      rw [fillAll_cons, ih whole.2, splitOn_replace (braced_ne_nil _) nameWhole whole.1.2,
        List.map_map]
      rfl

theorem count_fillAll_le (whole : ∀ filling ∈ fillings, separator ∉ filling.2)
    (text : List Char) : (fillAll fillings text).count separator ≤ text.count separator := by
  induction fillings generalizing text with
  | nil => exact Nat.le_refl _
  | cons filling rest ih =>
      rw [List.forall_mem_cons] at whole
      exact (ih whole.2 _).trans (count_replace_le (braced_ne_nil _) whole.1 text)

/-- Filling a placeholder whose name holds the separator removes a separator. -/
theorem count_fillAll_lt (free : ∀ filling ∈ fillings, braceFree filling.1)
    (whole : ∀ filling ∈ fillings, separator ∉ filling.2) {name : List Char}
    (nameMem : name ∈ fillings.map Prod.fst) (nameSplit : separator ∈ name)
    {text : List Char} (occurs : braced name <:+: text) :
    (fillAll fillings text).count separator < text.count separator := by
  induction fillings generalizing text with
  | nil => cases nameMem
  | cons filling rest ih =>
      rw [List.forall_mem_cons] at free whole
      rw [fillAll_cons]
      have removed := count_fillAll_le whole.2 (replace (braced filling.1) filling.2 text)
      by_cases same : filling.1 = name
      · subst name
        have bracedSplit : separator ∈ braced filling.1 := by simp [braced, nameSplit]
        exact removed.trans_lt (count_replace_lt bracedSplit whole.1 occurs)
      · have later : name ∈ rest.map Prod.fst := by
          rw [List.map_cons, List.mem_cons] at nameMem
          exact nameMem.resolve_left (Ne.symm same)
        rcases List.mem_map.mp later with ⟨other, otherMem, rfl⟩
        have kept : braced other.1 <:+: replace (braced filling.1) filling.2 text :=
          braced_infix_replace free.1 (free.2 other otherMem) (Ne.symm same) occurs
        have fewer := ih free.2 whole.2 later kept
        have noMore := count_replace_le (braced_ne_nil filling.1) whole.1 text
        omega

/-- Replacement does not touch leading separators, and puts none in front. -/
theorem dropWhile_replace {name new : List Char} (notBrace : separator ≠ '\x7b')
    (fills : new ≠ []) (newWhole : separator ∉ new) (text : List Char) :
    (replace (braced name) new text).dropWhile (· = separator) =
      replace (braced name) new (text.dropWhile (· = separator)) := by
  have noBrace : '\x7b' ∉ text.takeWhile (· = separator) := by
    intro present
    have isSeparator := List.mem_takeWhile_imp present
    exact notBrace (of_decide_eq_true isSeparator).symm
  have removed : ∀ rest : List Char,
      (text.takeWhile (· = separator) ++ rest).dropWhile (· = separator) =
        rest.dropWhile (· = separator) := by
    intro rest
    apply List.dropWhile_append_of_pos
    intro char present
    have isSeparator := List.mem_takeWhile_imp present
    exact isSeparator
  have stays : (replace (braced name) new (text.dropWhile (· = separator))).head? ≠
      some separator := by
    cases rest_eq : text.dropWhile (· = separator) with
    | nil => simp
    | cons char rest =>
        have other : char ≠ separator := by
          have stopped := List.head?_dropWhile_not (· = separator) text
          simpa [rest_eq] using stopped
        by_cases occurs : braced name <+: char :: rest
        · rcases occurs with ⟨tail, text_eq⟩
          rw [← text_eq, replace_append (braced_ne_nil name)]
          rcases List.exists_cons_of_ne_nil fills with ⟨first, others, rfl⟩
          simp only [List.cons_append, List.head?_cons, ne_eq, Option.some.injEq]
          rintro rfl
          exact newWhole List.mem_cons_self
        · rw [replace_cons occurs]
          simpa using other
  calc (replace (braced name) new text).dropWhile (· = separator)
      = (replace (braced name) new
          (text.takeWhile (· = separator) ++ text.dropWhile (· = separator))).dropWhile
            (· = separator) := by rw [List.takeWhile_append_dropWhile]
    _ = (replace (braced name) new (text.dropWhile (· = separator))).dropWhile
          (· = separator) := by
        rw [replace_append_of_notMem rfl noBrace, removed]
    _ = replace (braced name) new (text.dropWhile (· = separator)) := by
        cases filled : replace (braced name) new (text.dropWhile (· = separator)) with
        | nil => rfl
        | cons char rest =>
            rw [filled, List.head?_cons, ne_eq, Option.some.injEq] at stays
            simp [stays]

theorem dropWhile_fillAll (notBrace : separator ≠ '\x7b')
    (whole : ∀ filling ∈ fillings, filling.2 ≠ [] ∧ separator ∉ filling.2) (text : List Char) :
    (fillAll fillings text).dropWhile (· = separator) =
      fillAll fillings (text.dropWhile (· = separator)) := by
  induction fillings generalizing text with
  | nil => rfl
  | cons filling rest ih =>
      rw [List.forall_mem_cons] at whole
      rw [fillAll_cons, fillAll_cons, ih whole.2,
        dropWhile_replace notBrace whole.1.1 whole.1.2]

end FillAll

end Text

end Foundation
