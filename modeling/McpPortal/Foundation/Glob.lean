import Mathlib.Data.List.Basic
import Mathlib.Data.List.TakeWhile

/-!
# Shell-style patterns

The matcher of the interpreter's `fnmatch.fnmatchcase`. `translate` reads a
pattern as a list of tokens where the library builds a regular expression, and
`matchTokens` is what that expression accepts on the whole name. `*` matches any
text, `?` any one character, and `[...]` one character of a set given by single
characters and ranges, complemented by a leading `!`. There is no way to quote a
metacharacter; a `[` with no closing bracket stands for itself.

Names are compared as they are, which is `fnmatch.fnmatch` on a POSIX system.
-/

namespace Foundation

namespace Glob

/-- One piece of a translated pattern. -/
inductive Token where
  | literal (char : Char)
  | anyChar
  | star
  | oneOf (negated : Bool) (ranges : List (Char × Char))
  deriving DecidableEq

/-- The pieces of a bracket set between the hyphens that form ranges. A hyphen is
a range hyphen only after `skip` further characters. -/
def chunks (current : List Char) (skip : Nat) : List Char → List (List Char)
  | [] => [current.reverse]
  | char :: rest =>
      match skip with
      | 0 =>
          if char = '-' then current.reverse :: chunks [] 2 rest
          else chunks (char :: current) 0 rest
      | skip + 1 => chunks (char :: current) skip rest

/-- A hyphen with nothing after it belongs to the piece before it. -/
def closeChunks : List (List Char) → List (List Char)
  | [] => []
  | [piece, []] => [piece ++ ['-']]
  | piece :: rest => piece :: closeChunks rest

/-- Empty ranges, which a regular expression does not allow, take both of their
endpoints with them. -/
def dropEmptyRanges : List (List Char) → List (List Char)
  | [] => []
  | piece :: rest =>
      match dropEmptyRanges rest with
      | [] => [piece]
      | next :: others =>
          match piece.getLast?, next.head? with
          | some low, some high =>
              if high < low then (piece.dropLast ++ next.tail) :: others
              else piece :: next :: others
          | _, _ => piece :: next :: others

/-- A set of single characters. -/
def singles (chars : List Char) : List (Char × Char) :=
  chars.map fun char => (char, char)

/-- The ranges spelled by consecutive pieces joined by range hyphens. -/
def rangesFrom (current : List Char) : List (List Char) → List (Char × Char)
  | [] => singles current
  | next :: rest =>
      match current.getLast?, next with
      | some low, high :: others =>
          singles current.dropLast ++ (low, high) :: rangesFrom others rest
      | _, _ => singles current ++ ('-', '-') :: rangesFrom next rest

/-- The token of a bracket expression whose text between the brackets is `stuff`. -/
def bracket (stuff : List Char) : Token :=
  let pieces :=
    if '-' ∈ stuff then
      dropEmptyRanges (closeChunks (chunks [] (if stuff.head? = some '!' then 2 else 1) stuff))
    else [stuff]
  match pieces with
  | [] => .oneOf false []
  | ('!' :: first) :: rest =>
      if first.isEmpty && rest.isEmpty then .oneOf true [] else .oneOf true (rangesFrom first rest)
  | first :: rest => .oneOf false (rangesFrom first rest)

/-- What follows `[` up to its closing bracket, and the text after that bracket. A
`]` right after the opening bracket or after its `!` does not close it. -/
def closing? (rest : List Char) : Option (List Char × List Char) :=
  let bang := if rest.head? = some '!' then 1 else 0
  let skip := if (rest.drop bang).head? = some ']' then bang + 1 else bang
  match (rest.drop skip).dropWhile (· ≠ ']') with
  | [] => none
  | _ :: remainder => some (rest.take skip ++ (rest.drop skip).takeWhile (· ≠ ']'), remainder)

/-- `fnmatch.translate`. Every step consumes a character, so the length of the
pattern is enough fuel. -/
def translate : Nat → List Char → List Token
  | 0, _ => []
  | _ + 1, [] => []
  | fuel + 1, char :: rest =>
      if char = '*' then .star :: translate fuel (rest.dropWhile (· = '*'))
      else if char = '?' then .anyChar :: translate fuel rest
      else if char = '[' then
        match closing? rest with
        | none => .literal '[' :: translate fuel rest
        | some (stuff, remainder) => bracket stuff :: translate fuel remainder
      else .literal char :: translate fuel rest

/-- Does the token match one character? A `star` is treated by `matchTokens`. -/
def Token.accepts : Token → Char → Bool
  | .literal expected, char => expected = char
  | .anyChar, _ => true
  | .star, _ => true
  | .oneOf negated ranges, char =>
      (ranges.any fun range => decide (range.1 ≤ char ∧ char ≤ range.2)) != negated

/-- The translated pattern matches the whole text. -/
def matchTokens : List Token → List Char → Bool
  | [], text => text.isEmpty
  | .star :: tokens, text => text.tails.any fun suffix => matchTokens tokens suffix
  | token :: tokens, text =>
      match text with
      | [] => false
      | char :: rest => token.accepts char && matchTokens tokens rest

end Glob

/-- `fnmatch.fnmatch(name, pattern)`. -/
def fnmatch (name pattern : String) : Bool :=
  Glob.matchTokens (Glob.translate pattern.toList.length pattern.toList) name.toList

example : fnmatch "orders.list" "orders.*" = true := by decide
example : fnmatch "a[b]" "a[b]" = false := by decide

end Foundation
