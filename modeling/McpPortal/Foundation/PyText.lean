import Mathlib.Data.List.DropRight

/-!
# Operations on text

`str.strip`, the first of `str.splitlines`, `int` of a text, and the reduction of a
text to letters, digits and single underscores.
-/

namespace Foundation

/-- `str.isspace` of one character. -/
def isPySpace (char : Char) : Bool :=
  (9 ≤ char.toNat && char.toNat ≤ 13) || (0x1c ≤ char.toNat && char.toNat ≤ 0x20) ||
    char.toNat = 0x85 || char.toNat = 0xa0 || char.toNat = 0x1680 ||
    (0x2000 ≤ char.toNat && char.toNat ≤ 0x200a) || char.toNat = 0x2028 || char.toNat = 0x2029 ||
    char.toNat = 0x202f || char.toNat = 0x205f || char.toNat = 0x3000

theorem visible_of_isAlphanum {char : Char} (alphanumeric : char.isAlphanum = true) :
    0x20 < char.toNat ∧ char.toNat < 0x7f := by
  rw [Char.isAlphanum, Bool.or_eq_true] at alphanumeric
  rcases alphanumeric with letter | digit
  · have ranges : (decide ('A'.val ≤ char.val ∧ char.val ≤ 'Z'.val) ||
      ('a'.val ≤ char.val && char.val ≤ 'z'.val)) = true := letter
    simp only [Bool.or_eq_true, Bool.and_eq_true, decide_eq_true_eq, UInt32.le_iff_toNat_le,
      Char.toNat_val, Char.reduceToNat] at ranges
    omega
  · have range : 48 ≤ char.toNat ∧ char.toNat ≤ 57 := Char.isDigit_iff_toNat.mp digit
    omega

/-- The visible characters of ASCII are no spaces. -/
theorem isPySpace_of_visible {char : Char} (visible : 0x20 < char.toNat ∧ char.toNat < 0x7f) :
    isPySpace char = false := by
  simp only [isPySpace, Bool.or_eq_false_iff, Bool.and_eq_false_iff, decide_eq_false_iff_not]
  omega

def stripBy (dropped : Char → Bool) (text : List Char) : List Char :=
  (text.dropWhile dropped).rdropWhile dropped

/-- A text that neither begins nor ends with what is stripped is left alone. -/
theorem stripBy_eq_self {dropped : Char → Bool} {text : List Char}
    (opens : ∀ char ∈ text.head?, dropped char = false)
    (closes : ∀ char ∈ text.getLast?, dropped char = false) : stripBy dropped text = text := by
  have unopened : text.dropWhile dropped = text := by
    cases text with
    | nil => rfl
    | cons first rest => rw [List.dropWhile_cons_of_neg (by simp [opens first rfl])]
  rw [stripBy, unopened, List.rdropWhile_eq_self_iff]
  intro nonempty
  simp [closes _ (List.getLast_mem_getLast? nonempty)]

/-- The characters at which `str.splitlines` splits. -/
def isLineBoundary (char : Char) : Bool :=
  (10 ≤ char.toNat && char.toNat ≤ 13) || (0x1c ≤ char.toNat && char.toNat ≤ 0x1e) ||
    char.toNat = 0x85 || char.toNat = 0x2028 || char.toNat = 0x2029

/-- `next(iter(text.splitlines()), default)`. -/
def firstLine (text default : String) : String :=
  if text = "" then default
  else String.ofList (text.toList.takeWhile fun char => !isLineBoundary char)

/-- The runs of characters that are no space, after the beginning of one. -/
def wordsAfter : List Char → List Char → List (List Char)
  | word, [] => if word.isEmpty then [] else [word]
  | word, char :: rest =>
      if !isPySpace char then wordsAfter (word ++ [char]) rest
      else if word.isEmpty then wordsAfter [] rest
      else word :: wordsAfter [] rest

/-- `text.split()`. -/
def splitWords (text : String) : List String :=
  (wordsAfter [] text.toList).map String.ofList

/-- Digits with single underscores between them, after those that make up `value`. -/
def readDigits (decimal : Char → Option Nat) : Nat → Bool → List Char → Option Nat
  | value, afterDigit, [] => if afterDigit then some value else none
  | value, afterDigit, char :: rest =>
      if char = '_' then if afterDigit then readDigits decimal value false rest else none
      else (decimal char).bind fun digit => readDigits decimal (10 * value + digit) true rest

/-- `int(text)`; `none` is a `ValueError`. -/
def pyInt (decimal : Char → Option Nat) (text : List Char) : Option Int :=
  match stripBy isPySpace text with
  | '-' :: digits => (readDigits decimal 0 false digits).map fun value => -value
  | '+' :: digits => (readDigits decimal 0 false digits).map Int.ofNat
  | digits => (readDigits decimal 0 false digits).map Int.ofNat

def isSlugChar (char : Char) : Bool :=
  ('a' ≤ char && char ≤ 'z') || ('0' ≤ char && char ≤ '9')

/-- Every run of other characters becomes one underscore. -/
def collapseRuns : Bool → List Char → List Char
  | _, [] => []
  | inRun, char :: rest =>
      if isSlugChar char then char :: collapseRuns false rest
      else if inRun then collapseRuns true rest
      else '_' :: collapseRuns true rest

/-- `re.sub("[^a-z0-9]+", "_", text).strip("_")`. -/
def slug (text : String) : String :=
  String.ofList (stripBy (· = '_') (collapseRuns false text.toList))

example : slug "get_/v1/invoices/\x7bid\x7d" = "get_v1_invoices_id" := by decide

end Foundation
