import McpPortal.Foundation.PyText

/-!
# Scheme and authority of a URL

`urlSplit` is the part of `urllib.parse.urlsplit` that finds the scheme and the
network location. It drops leading control characters and spaces, and tabs and line
breaks anywhere. The checks of the network location (brackets, characters that
normalise to a delimiter) can only refuse a text, and are an argument.

`authority` is the authority of an absolute URL by the generic syntax.
-/

namespace Foundation

namespace Url

structure SplitUrl where
  scheme : List Char
  netloc : List Char
  deriving DecidableEq

def isSchemeChar (char : Char) : Bool :=
  char.isAlphanum || char = '+' || char = '-' || char = '.'

def isDelimiter (char : Char) : Bool :=
  char = '/' || char = '?' || char = '#'

/-- The characters that a URL text may hold without being rewritten or refused. -/
def isPlain (url : List Char) : Bool :=
  url.all fun char => 0x20 ≤ char.toNat

def cleaned (url : List Char) : List Char :=
  (url.dropWhile fun char => char.toNat ≤ 0x20).filter fun char =>
    char ≠ '\t' && char ≠ '\r' && char ≠ '\n'

/-- The scheme in lower case, and what follows the colon; all of the text without a scheme. -/
def splitScheme (url : List Char) : List Char × List Char :=
  let scheme := url.takeWhile (· ≠ ':')
  match url.drop scheme.length with
  | ':' :: rest =>
      if (scheme.head?.any Char.isAlpha) && scheme.all isSchemeChar then
        (scheme.map Char.toLower, rest)
      else ([], url)
  | _ => ([], url)

def authorityOf : List Char → List Char
  | '/' :: '/' :: rest => rest.takeWhile fun char => !isDelimiter char
  | _ => []

/-- `urlsplit(url)`; `none` is a `ValueError`. -/
def urlSplit (acceptsNetloc : List Char → Bool) (url : List Char) : Option SplitUrl :=
  let (scheme, rest) := splitScheme (cleaned url)
  let netloc := authorityOf rest
  if acceptsNetloc netloc then some { scheme, netloc } else none

def authority (url : List Char) : List Char :=
  authorityOf (url.dropWhile (· ≠ ':')).tail

theorem cleaned_of_isPlain {url : List Char} (plain : isPlain url = true)
    (visible : ∀ first ∈ url.head?, 0x20 < first.toNat) : cleaned url = url := by
  have kept : url.dropWhile (fun char => char.toNat ≤ 0x20) = url := by
    cases url with
    | nil => rfl
    | cons first rest =>
        have above := visible first rfl
        simp only [List.dropWhile_cons]
        rw [if_neg (by simpa using above)]
  rw [cleaned, kept, List.filter_eq_self]
  intro char charMem
  have above := List.all_eq_true.mp plain char charMem
  simp only [decide_eq_true_eq] at above
  simp only [Bool.and_eq_true, decide_eq_true_eq, ne_eq]
  refine ⟨⟨?_, ?_⟩, ?_⟩
  all_goals
    rintro rfl
    revert above
    decide

/-- On a text of visible characters with a scheme, the parts are those of the generic syntax. -/
theorem urlSplit_of_scheme {acceptsNetloc : List Char → Bool} {scheme rest : List Char}
    {parts : SplitUrl} (nonempty : scheme ≠ []) (letters : ∀ char ∈ scheme, char.isAlpha = true)
    (plain : isPlain (scheme ++ ':' :: rest) = true)
    (split : urlSplit acceptsNetloc (scheme ++ ':' :: rest) = some parts) :
    parts.scheme ≠ [] ∧ parts.netloc = authority (scheme ++ ':' :: rest) := by
  rcases List.exists_cons_of_ne_nil nonempty with ⟨first, others, rfl⟩
  have firstLetter := letters first List.mem_cons_self
  have noColon : ∀ char ∈ first :: others, decide (char ≠ ':') = true := by
    intro char charMem
    have letter := letters char charMem
    apply decide_eq_true
    rintro rfl
    cases letter
  have visible : ∀ head ∈ (first :: others ++ ':' :: rest).head?, 0x20 < head.toNat := by
    intro head isHead
    cases isHead
    exact (visible_of_isAlphanum (by simp [Char.isAlphanum, firstLetter])).1
  have taken : (first :: others ++ ':' :: rest).takeWhile (· ≠ ':') = first :: others := by
    rw [List.takeWhile_append_of_pos noColon]
    simp
  have dropped : (first :: others ++ ':' :: rest).dropWhile (· ≠ ':') = ':' :: rest := by
    rw [List.dropWhile_append_of_pos noColon]
    simp
  have schemeChars : (first :: others).all isSchemeChar = true := by
    rw [List.all_eq_true]
    intro char charMem
    simp [isSchemeChar, Char.isAlphanum, letters char charMem]
  have separated : splitScheme (first :: others ++ ':' :: rest) =
      ((first :: others).map Char.toLower, rest) := by
    simp only [splitScheme, taken, List.drop_left, List.head?_cons, Option.any_some, firstLetter,
      schemeChars, Bool.and_self, if_true]
  rw [urlSplit, cleaned_of_isPlain plain visible, separated] at split
  simp only [Option.ite_none_right_eq_some, Option.some.injEq] at split
  rcases split with ⟨_, rfl⟩
  refine ⟨List.cons_ne_nil _ _, ?_⟩
  rw [authority, dropped]
  rfl

end Url

end Foundation
