import Mathlib.Data.List.Basic

/-!
# Texts of arbitrary code points

A string of the interpreter is a sequence of code points, surrogates included. Lone surrogates
have no UTF-8 encoding. The names of files and of environment variables are encoded with those
surrogates that stand for a byte.
-/

namespace Foundation

abbrev CodePoint := Fin 0x110000

/-- A string of the interpreter. -/
abbrev CodePoints := List CodePoint

namespace CodePoint

def ofChar (char : Char) : CodePoint :=
  ⟨char.toNat, by
    rcases char with ⟨value, valid⟩
    rcases valid with low | high
    · exact Nat.lt_trans low (by decide)
    · exact high.2⟩

def ofNat? (value : Nat) : Option CodePoint :=
  if valid : value < 0x110000 then some ⟨value, valid⟩ else none

def isSurrogate (point : CodePoint) : Bool :=
  0xd800 ≤ point.val && point.val ≤ 0xdfff

/-- A surrogate that stands for a byte that is not UTF-8. -/
def standsForByte (point : CodePoint) : Bool :=
  0xdc80 ≤ point.val && point.val ≤ 0xdcff

/-- The character of a code point that is no surrogate. -/
def toChar? (point : CodePoint) : Option Char :=
  if valid : point.val.isValidChar then some (Char.ofNatAux point.val valid) else none

theorem ofChar_injective : Function.Injective ofChar := by
  intro left right same
  have sameNat : (ofChar left).val = (ofChar right).val := by rw [same]
  exact Char.toNat_inj.mp sameNat

theorem isSurrogate_ofChar (char : Char) : isSurrogate (ofChar char) = false := by
  have apart : char.toNat < 0xd800 ∨ 0xdfff < char.toNat := char.valid.imp id And.left
  rw [isSurrogate, Bool.and_eq_false_iff]
  rcases apart with below | above
  · left
    exact decide_eq_false (Nat.not_le.mpr below)
  · right
    exact decide_eq_false (Nat.not_le.mpr above)

end CodePoint

def codePoints (text : String) : CodePoints :=
  text.toList.map CodePoint.ofChar

namespace CodePoints

/-- `text.encode()` does not fail. -/
def isEncodable (text : CodePoints) : Bool :=
  text.all fun point => !point.isSurrogate

/-- `os.fsencode(text)` does not fail. -/
def isFsEncodable (text : CodePoints) : Bool :=
  text.all fun point => !point.isSurrogate || point.standsForByte

/-- The text without lone surrogates, which are replaced. -/
def replaced (text : CodePoints) : String :=
  String.ofList (text.map fun point => point.toChar?.getD (Char.ofNat 0xfffd))

end CodePoints

theorem isEncodable_codePoints (text : String) : (codePoints text).isEncodable = true := by
  simp [CodePoints.isEncodable, codePoints, CodePoint.isSurrogate_ofChar]

theorem isPrefixOf_codePoints (opening text : List Char) :
    (opening.map CodePoint.ofChar).isPrefixOf (text.map CodePoint.ofChar) =
      opening.isPrefixOf text := by
  induction opening generalizing text with
  | nil => rfl
  | cons char rest ih =>
      cases text with
      | nil => rfl
      | cons first others =>
          have same : (CodePoint.ofChar char == CodePoint.ofChar first) = (char == first) := by
            rw [Bool.eq_iff_iff, beq_iff_eq, beq_iff_eq]
            exact CodePoint.ofChar_injective.eq_iff
          simp only [List.map_cons, List.isPrefixOf_cons_cons, ih, same]

end Foundation
