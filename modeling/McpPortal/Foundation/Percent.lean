import Mathlib.Data.List.Basic

/-!
# Percent encoding

`quote` is `urllib.parse.quote(text, safe="")`: the unreserved characters stand
for themselves, every other character becomes the escapes of its UTF-8 bytes.
`quotePlus` writes a space as `+`, and `urlencode` joins quoted pairs into a
query string.
-/

namespace Foundation

namespace Percent

/-- Letters, digits and `_.-~`. -/
def unreserved (char : Char) : Bool :=
  char.isAlphanum || char = '_' || char = '.' || char = '-' || char = '~'

/-- `%XX` with upper-case digits. -/
def escapeByte (byte : UInt8) : List Char :=
  ['%', (Nat.digitChar (byte.toNat / 16)).toUpper, (Nat.digitChar (byte.toNat % 16)).toUpper]

def quoteChar (char : Char) : List Char :=
  if unreserved char then [char] else (String.utf8EncodeChar char).flatMap escapeByte

def quoteChars (text : List Char) : List Char :=
  text.flatMap quoteChar

def quotePlusChars (text : List Char) : List Char :=
  text.flatMap fun char => if char = ' ' then ['+'] else quoteChar char

end Percent

/-- `quote(text, safe="")`. -/
def quote (text : String) : String :=
  String.ofList (Percent.quoteChars text.toList)

def quotePlus (text : String) : String :=
  String.ofList (Percent.quotePlusChars text.toList)

/-- `urlencode(pairs)`. -/
def urlencode (pairs : List (String × String)) : String :=
  "&".intercalate (pairs.map fun pair => quotePlus pair.1 ++ "=" ++ quotePlus pair.2)

namespace Percent

theorem escapeByte_chars (byte : UInt8) : ∀ char ∈ escapeByte byte, char = '%' ∨ unreserved char := by
  have digits : ∀ digit : Fin 16, unreserved (Nat.digitChar digit).toUpper = true := by decide
  intro char present
  simp only [escapeByte, List.mem_cons, List.not_mem_nil, or_false] at present
  rcases present with rfl | rfl | rfl
  · exact Or.inl rfl
  · have small : byte.toNat / 16 < 16 := by
      have bound := byte.toNat_lt
      omega
    exact Or.inr (digits ⟨_, small⟩)
  · exact Or.inr (digits ⟨_, Nat.mod_lt _ (by decide)⟩)

/-- Quoted text consists of unreserved characters and percent signs. -/
theorem mem_quoteChars {text : List Char} {char : Char} (present : char ∈ quoteChars text) :
    char = '%' ∨ unreserved char = true := by
  rcases List.mem_flatMap.mp present with ⟨source, _, quoted⟩
  unfold quoteChar at quoted
  split at quoted
  case isTrue plain =>
    rw [List.mem_singleton] at quoted
    subst char
    exact Or.inr plain
  case isFalse =>
    rcases List.mem_flatMap.mp quoted with ⟨byte, _, escaped⟩
    exact escapeByte_chars byte char escaped

theorem quoteChar_ne_nil (char : Char) : quoteChar char ≠ [] := by
  unfold quoteChar
  split
  · simp
  · have bytes : String.utf8EncodeChar char ≠ [] := String.utf8EncodeChar_ne_nil
    rcases List.exists_cons_of_ne_nil bytes with ⟨byte, rest, equal⟩
    simp [equal, escapeByte]

theorem quoteChars_ne_nil {text : List Char} (present : text ≠ []) : quoteChars text ≠ [] := by
  rcases List.exists_cons_of_ne_nil present with ⟨char, rest, rfl⟩
  simp [quoteChars, quoteChar_ne_nil]

/-- None of the characters that structure a URL or a template survives quoting. -/
theorem notMem_quoteChars {text : List Char} {char : Char} (notPercent : char ≠ '%')
    (reserved : unreserved char = false) : char ∉ quoteChars text := by
  intro present
  rcases mem_quoteChars present with percent | plain
  · exact notPercent percent
  · rw [reserved] at plain
    cases plain

end Percent

example : quote "../a b" = "..%2Fa%20b" := by decide

end Foundation
