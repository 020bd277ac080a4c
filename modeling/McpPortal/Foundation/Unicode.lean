import Mathlib.Data.List.Basic

/-!
# The interpreter's Unicode tables

Case mapping, digits and printability follow tables that ship with the interpreter.
What the program relies on is that they treat ASCII letters alike and one by one, and
that a text in upper case is left alone; the rest of the tables stays open.
-/

namespace Foundation

/-- Case mapping of ASCII letters alone. -/
def asciiLower (text : String) : String :=
  String.ofList (text.toList.map Char.toLower)

def asciiUpper (text : String) : String :=
  String.ofList (text.toList.map Char.toUpper)

def isAscii (text : String) : Bool :=
  text.toList.all fun char => char.toNat < 128

/-- `str.isprintable` and `unicodedata.decimal` of one character, `str.lower` and `str.upper`. -/
structure PyUnicode where
  isPrintable : Char → Bool
  decimal : Char → Option Nat
  lower : String → String
  upper : String → String
  lowerCongr : ∀ {left right}, asciiLower left = asciiLower right → lower left = lower right
  lowerOfAscii : ∀ {text}, isAscii text = true → lower text = asciiLower text
  lowerAsciiAppend : ∀ {text} (rest), isAscii text = true →
    ∃ lowered, lower (text ++ rest) = asciiLower text ++ lowered
  upperOfAscii : ∀ {text}, isAscii text = true → upper text = asciiUpper text
  upperIdem : ∀ text, upper (upper text) = upper text

theorem asciiLower_append (left right : String) :
    asciiLower (left ++ right) = asciiLower left ++ asciiLower right := by
  simp [asciiLower, String.ofList_append]

theorem toUpper_toUpper (char : Char) : char.toUpper.toUpper = char.toUpper := by
  unfold Char.toUpper
  split
  case isTrue lower =>
    have first : ('a' : Char).val.toNat = 97 := rfl
    have last : ('z' : Char).val.toNat = 122 := rfl
    have shift : (('A' : Char).val - ('a' : Char).val).toNat = 4294967264 := rfl
    rw [dif_neg]
    simp only [UInt32.le_iff_toNat_le, UInt32.toNat_add] at lower ⊢
    omega
  case isFalse => rfl

theorem asciiUpper_asciiUpper (text : String) : asciiUpper (asciiUpper text) = asciiUpper text := by
  simp [asciiUpper, Function.comp_def, toUpper_toUpper]

/-- Tables that know ASCII only. -/
def asciiTables : PyUnicode where
  isPrintable char := char.toNat < 0x7f
  decimal char := if char.isDigit then some (char.toNat - '0'.toNat) else none
  lower := asciiLower
  upper := asciiUpper
  lowerCongr same := same
  lowerOfAscii _ := rfl
  lowerAsciiAppend rest _ := ⟨asciiLower rest, asciiLower_append _ _⟩
  upperOfAscii _ := rfl
  upperIdem := asciiUpper_asciiUpper

end Foundation
