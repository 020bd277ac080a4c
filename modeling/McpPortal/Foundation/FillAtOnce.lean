import McpPortal.Foundation.Template

/-!
# Filling all placeholders at once

A text is a sequence of literal pieces and placeholders. Filling it at once replaces every
placeholder that has a filling and looks at nothing else. Filling one name after the other
comes to the same as long as each name, when its turn comes, occurs in braces only where
the text itself has it as a placeholder.
-/

namespace Foundation

namespace Text

inductive Piece where
  | literal (text : List Char)
  | placeholder (name : List Char)
  deriving DecidableEq

namespace Piece

def name? : Piece → Option (List Char)
  | .literal _ => none
  | .placeholder name => some name

/-- A placeholder without a filling stays as it is. -/
def fill (fillings : Fillings) : Piece → List Char
  | .literal text => text
  | .placeholder name => (fillings.lookup name).getD (braced name)

end Piece

/-- The scan of `scanPlaceholders`, which keeps what is between the placeholders. -/
def scanPieces : Option (List Char) → List Char → List Piece
  | none, [] => []
  | some name, [] => [.literal ('\x7b' :: name.reverse)]
  | none, char :: rest =>
      if char = '\x7b' then scanPieces (some []) rest else .literal [char] :: scanPieces none rest
  | some name, char :: rest =>
      if char = '\x7b' then .literal ('\x7b' :: name.reverse) :: scanPieces (some []) rest
      else if char = '\x7d' then .placeholder name.reverse :: scanPieces none rest
      else scanPieces (some (char :: name)) rest

def pieces (text : List Char) : List Piece :=
  scanPieces none text

def fillAtOnce (fillings : Fillings) (text : List Char) : List Char :=
  (pieces text).flatMap (Piece.fill fillings)

/-- What was scanned since an opening brace. -/
def openedText : Option (List Char) → List Char
  | none => []
  | some name => '\x7b' :: name.reverse

theorem flatMap_scanPieces (opened : Option (List Char)) (text : List Char) :
    (scanPieces opened text).flatMap (Piece.fill []) = openedText opened ++ text := by
  induction text generalizing opened with
  | nil => cases opened <;> simp [scanPieces, Piece.fill, openedText]
  | cons char rest ih =>
      cases opened with
      | none =>
          simp only [scanPieces]
          split
          case isTrue opening => simp [ih, openedText, opening]
          case isFalse => simp [ih, openedText, Piece.fill]
      | some name =>
          simp only [scanPieces]
          split
          case isTrue opening => simp [ih, openedText, Piece.fill, opening]
          case isFalse =>
            split
            case isTrue closing => simp [ih, openedText, Piece.fill, braced, closing]
            case isFalse => simp [ih, openedText]

@[simp]
theorem fillAtOnce_nil (text : List Char) : fillAtOnce [] text = text :=
  flatMap_scanPieces none text

theorem filterMap_scanPieces (opened : Option (List Char)) (text : List Char) :
    (scanPieces opened text).filterMap Piece.name? = scanPlaceholders opened text := by
  induction text generalizing opened with
  | nil => cases opened <;> rfl
  | cons char rest ih =>
      cases opened with
      | none =>
          simp only [scanPieces, scanPlaceholders]
          split
          · exact ih _
          · rw [List.filterMap_cons_none rfl, ih]
      | some name =>
          simp only [scanPieces, scanPlaceholders]
          split
          · rw [List.filterMap_cons_none rfl, ih]
          · split
            · have isName : (Piece.placeholder name.reverse).name? = some name.reverse := rfl
              rw [List.filterMap_cons_some isName, ih]
            · exact ih _

theorem placeholder_mem_pieces_iff {name text : List Char} :
    .placeholder name ∈ pieces text ↔ name ∈ placeholders text := by
  rw [placeholders, ← filterMap_scanPieces, List.mem_filterMap]
  constructor
  · intro present
    exact ⟨.placeholder name, present, rfl⟩
  · rintro ⟨piece, present, isName⟩
    cases piece with
    | literal text => cases isName
    | placeholder other =>
        cases isName
        exact present

/-- A name in braces occurs in the partly filled pieces only as a placeholder. -/
def OccursAsPlaceholder (fillings : Fillings) (pieces : List Piece) (name : List Char) : Prop :=
  ∀ before after, pieces.flatMap (Piece.fill fillings) = before ++ (braced name ++ after) →
    ∃ left right, pieces = left ++ .placeholder name :: right ∧
      before = left.flatMap (Piece.fill fillings)

/-- Each name occurs as a placeholder only, once the names before it are filled. -/
structure FillsApart (fillings : Fillings) (text : List Char) : Prop where
  distinct : (fillings.map Prod.fst).Nodup
  apart : ∀ before filling after, fillings = before ++ filling :: after →
    OccursAsPlaceholder before (pieces text) filling.1

section Steps

variable {fillings : Fillings} {name new : List Char} {piece : Piece} {rest : List Piece}

theorem fill_placeholder_of_unfilled (unfilled : fillings.lookup name = none) :
    (Piece.placeholder name).fill fillings = braced name := by
  rw [Piece.fill, unfilled, Option.getD_none]

/-- Behind a piece that has come to something, a name occurs as a placeholder if it does at all. -/
theorem OccursAsPlaceholder.tail (unfilled : fillings.lookup name = none)
    (occurs : OccursAsPlaceholder fillings (piece :: rest) name) :
    OccursAsPlaceholder fillings rest name := by
  intro before after same
  have whole : (piece :: rest).flatMap (Piece.fill fillings) =
      (piece.fill fillings ++ before) ++ (braced name ++ after) := by
    rw [List.flatMap_cons, same, List.append_assoc]
  rcases occurs _ _ whole with ⟨left, right, isPieces, isBefore⟩
  cases left with
  | nil =>
      rw [List.nil_append, List.cons.injEq] at isPieces
      rw [List.flatMap_nil, List.append_eq_nil_iff, isPieces.1,
        fill_placeholder_of_unfilled unfilled] at isBefore
      exact absurd isBefore.1 (braced_ne_nil name)
  | cons first left =>
      rw [List.cons_append, List.cons.injEq] at isPieces
      rcases isPieces with ⟨rfl, isRest⟩
      rw [List.flatMap_cons, List.append_cancel_left_eq] at isBefore
      exact ⟨left, right, isRest, isBefore⟩

/-- Replacement passes over a piece that is not the placeholder. -/
theorem replace_skip (occurs : OccursAsPlaceholder fillings (piece :: rest) name)
    (different : piece ≠ .placeholder name) :
    replace (braced name) new (piece.fill fillings ++ rest.flatMap (Piece.fill fillings)) =
      piece.fill fillings ++ replace (braced name) new (rest.flatMap (Piece.fill fillings)) := by
  have skips : ∀ passed left, piece.fill fillings = passed ++ left →
      replace (braced name) new (left ++ rest.flatMap (Piece.fill fillings)) =
        left ++ replace (braced name) new (rest.flatMap (Piece.fill fillings)) := by
    intro passed left
    induction left generalizing passed with
    | nil =>
        intro _
        rfl
    | cons char left ih =>
        intro isFill
        have absent : ¬braced name <+: char :: (left ++ rest.flatMap (Piece.fill fillings)) := by
          rintro ⟨after, same⟩
          have whole : (piece :: rest).flatMap (Piece.fill fillings) =
              passed ++ (braced name ++ after) := by
            rw [List.flatMap_cons, isFill, same, List.append_assoc, List.cons_append]
          rcases occurs _ _ whole with ⟨first, right, isPieces, isPassed⟩
          cases first with
          | nil =>
              rw [List.nil_append, List.cons.injEq] at isPieces
              exact different isPieces.1
          | cons head others =>
              rw [List.cons_append, List.cons.injEq] at isPieces
              rw [List.flatMap_cons, ← isPieces.1, isFill] at isPassed
              have length := congrArg List.length isPassed
              simp only [List.length_append, List.length_cons] at length
              omega
        rw [List.cons_append, replace_cons absent, ih (passed ++ [char]) (by simp [isFill]),
          List.cons_append]
  exact skips [] _ rfl

/-- Replacing a name that occurs as a placeholder only fills its placeholders. -/
theorem replace_flatMap_fill (unfilled : fillings.lookup name = none) {pieces : List Piece}
    (occurs : OccursAsPlaceholder fillings pieces name) :
    replace (braced name) new (pieces.flatMap (Piece.fill fillings)) =
      pieces.flatMap (Piece.fill (fillings ++ [(name, new)])) := by
  induction pieces with
  | nil => rfl
  | cons piece rest ih =>
      have later := ih (occurs.tail unfilled)
      rw [List.flatMap_cons, List.flatMap_cons]
      by_cases same : piece = .placeholder name
      · subst piece
        have filled : (Piece.placeholder name).fill (fillings ++ [(name, new)]) = new := by
          simp [Piece.fill, List.lookup_append, unfilled]
        rw [fill_placeholder_of_unfilled unfilled, replace_append (braced_ne_nil name), later, filled]
      · have kept : piece.fill (fillings ++ [(name, new)]) = piece.fill fillings := by
          cases piece with
          | literal text => rfl
          | placeholder other =>
              have different : (other == name) = false := by
                rw [beq_eq_false_iff_ne]
                rintro rfl
                exact same rfl
              simp [Piece.fill, List.lookup_append, List.lookup_cons, different]
        rw [replace_skip occurs same, later, kept]

end Steps

theorem lookup_eq_none_of_notMem {fillings : Fillings} {name : List Char}
    (absent : name ∉ fillings.map Prod.fst) : fillings.lookup name = none := by
  rw [List.lookup_eq_none_iff]
  intro filling present
  rw [bne_iff_ne]
  rintro rfl
  exact absent (List.mem_map_of_mem present)

/-- Filling one name after the other is filling at once. -/
theorem fillAll_eq_fillAtOnce {fillings : Fillings} {text : List Char}
    (apart : FillsApart fillings text) : fillAll fillings text = fillAtOnce fillings text := by
  have fills : ∀ later before, fillings = before ++ later →
      fillAll later (fillAtOnce before text) = fillAtOnce fillings text := by
    intro later
    induction later with
    | nil =>
        intro before isFillings
        rw [isFillings, List.append_nil, fillAll_nil]
    | cons filling later ih =>
        intro before isFillings
        have distinct := apart.distinct
        rw [isFillings, List.map_append, List.map_cons, List.nodup_append] at distinct
        have unfilled : before.lookup filling.1 = none := by
          apply lookup_eq_none_of_notMem
          intro present
          exact distinct.2.2 _ present _ List.mem_cons_self rfl
        rw [fillAll_cons, fillAtOnce, replace_flatMap_fill unfilled (apart.apart _ _ _ isFillings)]
        apply ih
        rw [isFillings, List.append_assoc, List.singleton_append]
  have whole := fills fillings [] rfl
  rwa [fillAtOnce_nil] at whole

/-- Every opening brace of the text opens a placeholder. -/
def NoStrayBrace (text : List Char) : Prop :=
  ∀ literal, .literal literal ∈ pieces text → '\x7b' ∉ literal

theorem occursAsPlaceholder_of_plain {fillings : Fillings} {name : List Char}
    (nameClosed : '\x7d' ∉ name) (plain : ∀ filling ∈ fillings, '\x7b' ∉ filling.2)
    {pieces : List Piece} (literals : ∀ literal, .literal literal ∈ pieces → '\x7b' ∉ literal)
    (names : ∀ other, .placeholder other ∈ pieces → braceFree other) :
    OccursAsPlaceholder fillings pieces name := by
  induction pieces with
  | nil =>
      intro before after same
      rw [List.flatMap_nil, eq_comm, List.append_eq_nil_iff, List.append_eq_nil_iff] at same
      exact absurd same.2.1 (braced_ne_nil name)
  | cons piece rest ih =>
      have later := ih (fun literal present => literals literal (List.mem_cons_of_mem _ present))
        fun other present => names other (List.mem_cons_of_mem _ present)
      intro before after same
      rw [List.flatMap_cons] at same
      have behind : ∀ passed, before = piece.fill fillings ++ passed →
          ∃ left right, piece :: rest = left ++ .placeholder name :: right ∧
            before = left.flatMap (Piece.fill fillings) := by
        rintro passed rfl
        rw [List.append_assoc, List.append_cancel_left_eq] at same
        rcases later passed after same with ⟨left, right, rfl, rfl⟩
        exact ⟨piece :: left, right, rfl, by rw [List.flatMap_cons]⟩
      rcases List.append_eq_append_iff.mp same with ⟨passed, isBefore, _⟩ | ⟨inside, isFill, isRest⟩
      · exact behind passed isBefore
      · cases inside with
        | nil => exact behind [] (by rw [List.append_nil] at isFill ⊢; exact isFill.symm)
        | cons char inside =>
            have opening : char = '\x7b' := (List.cons.inj isRest).1.symm
            subst char
            have present : '\x7b' ∈ piece.fill fillings := by
              rw [isFill]
              exact List.mem_append_right _ List.mem_cons_self
            cases piece with
            | literal literal => exact absurd present (literals literal List.mem_cons_self)
            | placeholder other =>
                cases found : fillings.lookup other with
                | some new =>
                    rw [Piece.fill, found, Option.getD_some] at present
                    rcases List.lookup_eq_some_iff.mp found with ⟨earlier, others, rfl, _⟩
                    exact absurd present (plain (other, new) (by simp))
                | none =>
                    have otherFree := names other List.mem_cons_self
                    rw [fill_placeholder_of_unfilled found] at isFill same
                    cases before with
                    | cons first passed =>
                        have inName : other ++ ['\x7d'] = passed ++ '\x7b' :: inside :=
                          (List.cons.inj isFill).2
                        have opening : '\x7b' ∈ other ++ ['\x7d'] := by
                          rw [inName]
                          exact List.mem_append_right _ List.mem_cons_self
                        simp [otherFree.1] at opening
                    | nil =>
                        rw [List.nil_append, braced, braced, List.cons_append, List.cons_append,
                          List.append_assoc, List.append_assoc] at same
                        have sameName := eq_of_append_closing otherFree.2 nameClosed
                          (List.cons.inj same).2
                        subst other
                        exact ⟨[], rest, rfl, rfl⟩

/-- Fillings without an opening brace fill apart from each other where every brace is in its place. -/
theorem fillsApart_of_plain {fillings : Fillings} {text : List Char}
    (distinct : (fillings.map Prod.fst).Nodup)
    (plain : ∀ filling ∈ fillings, '\x7d' ∉ filling.1 ∧ '\x7b' ∉ filling.2)
    (noStray : NoStrayBrace text) : FillsApart fillings text := by
  constructor
  · exact distinct
  · rintro before filling after rfl
    have names : ∀ other, .placeholder other ∈ pieces text → braceFree other := by
      intro other present
      exact (mem_placeholders_iff.mp (placeholder_mem_pieces_iff.mp present)).1
    apply occursAsPlaceholder_of_plain _ _ noStray names
    · exact (plain filling (by simp)).1
    · intro other present
      exact (plain other (List.mem_append_left _ present)).2

end Text

end Foundation
