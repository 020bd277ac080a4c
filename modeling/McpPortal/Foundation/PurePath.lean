import Mathlib.Data.List.Basic

/-!
# Paths of a POSIX file system

A path is its root and its parts. Empty parts and single dots are dropped when a
text is read; `..` is not resolved, which needs the file system. The text of a path
that was read reads as the same path.
-/

namespace Foundation

structure PurePath where
  root : List Char
  parts : List (List Char)
  deriving DecidableEq

namespace PurePath

/-- Exactly two leading slashes are a root of their own. -/
def rootOf : List Char → List Char
  | '/' :: '/' :: '/' :: _ => ['/']
  | '/' :: '/' :: _ => ['/', '/']
  | '/' :: _ => ['/']
  | _ => []

/-- `Path(text)`. -/
def ofText (text : String) : PurePath where
  root := rootOf text.toList
  parts := (text.toList.splitOn '/').filter fun part => part ≠ [] && part ≠ ['.']

def isAbsolute (path : PurePath) : Bool :=
  path.root ≠ []

/-- `base / path`, for a path that is not absolute. -/
def join (base path : PurePath) : PurePath where
  root := base.root
  parts := base.parts ++ path.parts

def isRelativeTo (path base : PurePath) : Bool :=
  path.root = base.root && base.parts.isPrefixOf path.parts

/-- From the last dot of the name on, not counting leading dots. -/
def suffix (path : PurePath) : List Char :=
  let name := (path.parts.getLastD []).dropWhile (· = '.')
  if '.' ∈ name then '.' :: (name.reverse.takeWhile (· ≠ '.')).reverse else []

def text (path : PurePath) : String :=
  if path.root = [] ∧ path.parts = [] then "."
  else String.ofList (path.root ++ ['/'].intercalate path.parts)

/-- `path.parent`. -/
def parent (path : PurePath) : PurePath :=
  { path with parts := path.parts.dropLast }

example : (join (ofText "/etc/portal") (ofText "a/./b.yaml")).suffix = ".yaml".toList := by decide

/-- A path as it is read from a text. -/
structure WellFormed (path : PurePath) : Prop where
  root : path.root ∈ [[], ['/'], ['/', '/']]
  parts : ∀ part ∈ path.parts, part ≠ [] ∧ part ≠ ['.'] ∧ '/' ∉ part

theorem notMem_of_mem_splitOn {text part : List Char} {separator : Char}
    (present : part ∈ text.splitOn separator) : separator ∉ part := by
  induction text generalizing part with
  | nil =>
      rw [List.splitOn_nil, List.mem_singleton] at present
      simp [present]
  | cons char rest ih =>
      rw [List.splitOn_cons_eq_if_modifyHead] at present
      split at present
      · rcases List.mem_cons.mp present with rfl | later
        · exact List.not_mem_nil
        · exact ih later
      case isFalse different =>
        cases split : rest.splitOn separator with
        | nil => simp [split] at present
        | cons first others =>
            rw [split] at ih present
            rw [List.modifyHead_cons] at present
            rcases List.mem_cons.mp present with rfl | later
            · have fresh := ih List.mem_cons_self
              have notChar : separator ≠ char := by
                rintro rfl
                exact different (beq_self_eq_true separator)
              simp [fresh, notChar]
            · exact ih (List.mem_cons_of_mem _ later)

theorem wellFormed_ofText (text : String) : (ofText text).WellFormed := by
  constructor
  · simp only [ofText, rootOf]
    split <;> simp
  · intro part present
    simp only [ofText, List.mem_filter, Bool.and_eq_true, decide_eq_true_eq] at present
    exact ⟨present.2.1, present.2.2, notMem_of_mem_splitOn present.1⟩

theorem WellFormed.join {base path : PurePath} (baseWell : base.WellFormed)
    (pathWell : path.WellFormed) : (base.join path).WellFormed := by
  constructor
  · exact baseWell.root
  · intro part present
    rcases List.mem_append.mp present with before | later
    · exact baseWell.parts part before
    · exact pathWell.parts part later

theorem WellFormed.parent {path : PurePath} (wellFormed : path.WellFormed) :
    path.parent.WellFormed := by
  constructor
  · exact wellFormed.root
  · intro part present
    exact wellFormed.parts part (List.dropLast_subset _ present)

/-- Joined parts do not begin with a slash. -/
theorem head?_intercalate_ne {parts : List (List Char)}
    (wellFormed : ∀ part ∈ parts, part ≠ [] ∧ part ≠ ['.'] ∧ '/' ∉ part) :
    (['/'].intercalate parts).head? ≠ some '/' := by
  cases parts with
  | nil => simp
  | cons first others =>
      rcases List.exists_cons_of_ne_nil (wellFormed first List.mem_cons_self).1 with
        ⟨char, rest, rfl⟩
      have noSlash := (wellFormed (char :: rest) List.mem_cons_self).2.2
      rw [List.mem_cons, not_or] at noSlash
      cases others with
      | nil => simpa using Ne.symm noSlash.1
      | cons next others => simpa [List.intercalate_cons_cons] using Ne.symm noSlash.1

theorem filter_splitOn_intercalate {parts : List (List Char)}
    (wellFormed : ∀ part ∈ parts, part ≠ [] ∧ part ≠ ['.'] ∧ '/' ∉ part) :
    ((['/'].intercalate parts).splitOn '/').filter (fun part => part ≠ [] && part ≠ ['.']) =
      parts := by
  by_cases empty : parts = []
  · subst empty
    rfl
  · rw [List.splitOn_intercalate '/' (fun part present => (wellFormed part present).2.2) empty,
      List.filter_eq_self]
    intro part present
    simp [wellFormed part present]

theorem rootOf_append {root rest : List Char} (roots : root ∈ [[], ['/'], ['/', '/']])
    (noSlash : rest.head? ≠ some '/') : rootOf (root ++ rest) = root := by
  simp only [List.mem_cons, List.not_mem_nil, or_false] at roots
  cases rest with
  | nil => rcases roots with rfl | rfl | rfl <;> rfl
  | cons char rest =>
      have different : char ≠ '/' := by simpa using noSlash
      rcases roots with rfl | rfl | rfl <;> simp [rootOf, different]

/-- The slashes of a root split off empty parts only. -/
theorem filter_splitOn_append {root : List Char} (roots : root ∈ [[], ['/'], ['/', '/']])
    (rest : List Char) :
    ((root ++ rest).splitOn '/').filter (fun part => part ≠ [] && part ≠ ['.']) =
      (rest.splitOn '/').filter (fun part => part ≠ [] && part ≠ ['.']) := by
  simp only [List.mem_cons, List.not_mem_nil, or_false] at roots
  rcases roots with rfl | rfl | rfl <;> simp [List.splitOn_cons_eq_if_modifyHead]

/-- The text of a path reads as the path. -/
theorem ofText_text {path : PurePath} (wellFormed : path.WellFormed) : ofText path.text = path := by
  rcases path with ⟨root, parts⟩
  have split := filter_splitOn_intercalate wellFormed.parts
  have noSlash := head?_intercalate_ne wellFormed.parts
  simp only at split
  by_cases empty : root = [] ∧ parts = []
  · rcases empty with ⟨rfl, rfl⟩
    rfl
  · rw [text, if_neg empty, ofText, String.toList_ofList, rootOf_append wellFormed.root noSlash,
      filter_splitOn_append wellFormed.root, split]

end PurePath

end Foundation
