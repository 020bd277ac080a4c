import Mathlib.Data.List.Flatten
import Mathlib.Data.List.Infix

/-!
# Reading bytes as UTF-8 with replacement

Bytes that encode no character are read as replacement characters. A replacement stands
for the longest run of bytes that a character could begin with, or for a single byte that
begins none. What is read is at most three times as long as the bytes, and text that is
cut within a character is read as the characters before the cut and one replacement.
-/

namespace Foundation

namespace Utf8

def encode (text : List Char) : List UInt8 :=
  text.flatMap String.utf8EncodeChar

def replacement : Char := Char.ofNat 0xfffd

/-- A character of which some bytes are read: its bits so far, how many bytes follow the next
one, and the range of the next one. -/
structure Opened where
  bits : Nat
  more : Nat
  low : Nat := 0x80
  high : Nat := 0xbf
  deriving DecidableEq

def openedTwo (lead : Nat) : Opened where
  bits := lead
  more := 0

/-- The range of the second byte keeps out overlong forms and surrogates. -/
def openedThree (lead : Nat) : Opened where
  bits := lead
  more := 1
  low := if lead = 0 then 0xa0 else 0x80
  high := if lead = 0xd then 0x9f else 0xbf

/-- The range of the second byte keeps out overlong forms and what is beyond the last character. -/
def openedFour (lead : Nat) : Opened where
  bits := lead
  more := 2
  low := if lead = 0 then 0x90 else 0x80
  high := if lead = 4 then 0x8f else 0xbf

/-- What a first byte opens. -/
def opened? (byte : Nat) : Option Opened :=
  if 0xc2 ≤ byte ∧ byte < 0xe0 then some (openedTwo (byte - 0xc0))
  else if 0xe0 ≤ byte ∧ byte < 0xf0 then some (openedThree (byte - 0xe0))
  else if 0xf0 ≤ byte ∧ byte < 0xf5 then some (openedFour (byte - 0xf0))
  else none

/-- What is read of a byte between characters, and what is open after it. -/
def stepFirst (byte : Nat) : List Char × Option Opened :=
  if byte < 0x80 then ([Char.ofNat byte], none)
  else
    match opened? byte with
    | some opened => ([], some opened)
    | none => ([replacement], none)

/-- The next byte of an open character. -/
def Opened.extend (opened : Opened) (byte : Nat) : List Char × Option Opened :=
  let bits := opened.bits * 0x40 + byte % 0x40
  match opened.more with
  | 0 => ([Char.ofNat bits], none)
  | more + 1 => ([], some { bits, more })

def step : Option Opened → Nat → List Char × Option Opened
  | none, byte => stepFirst byte
  | some opened, byte =>
      if opened.low ≤ byte ∧ byte ≤ opened.high then opened.extend byte
      else (replacement :: (stepFirst byte).1, (stepFirst byte).2)

def decodeFrom : Option Opened → List UInt8 → List Char
  | none, [] => []
  | some _, [] => [replacement]
  | state, byte :: rest =>
      (step state byte.toNat).1 ++ decodeFrom (step state byte.toNat).2 rest

/-- `bytes.decode(errors="replace")`. -/
def decode (bytes : List UInt8) : List Char :=
  decodeFrom none bytes

@[simp]
theorem encode_nil : encode [] = [] := rfl

@[simp]
theorem encode_cons (char : Char) (text : List Char) :
    encode (char :: text) = String.utf8EncodeChar char ++ encode text :=
  List.flatMap_cons

@[simp]
theorem encode_append (text other : List Char) :
    encode (text ++ other) = encode text ++ encode other :=
  List.flatMap_append

theorem decodeFrom_cons (state : Option Opened) (byte : UInt8) (rest : List UInt8) :
    decodeFrom state (byte :: rest) =
      (step state byte.toNat).1 ++ decodeFrom (step state byte.toNat).2 rest := by
  cases state <;> rfl

/-- What an open character may still come to: its replacement. -/
def owed : Option Opened → Nat
  | none => 0
  | some _ => 3

@[simp]
theorem utf8Size_replacement : replacement.utf8Size = 3 := by decide +kernel

theorem utf8Size_ascii {byte : Nat} (ascii : byte < 0x80) : (Char.ofNat byte).utf8Size = 1 := by
  have all : ∀ small < 0x80, (Char.ofNat small).utf8Size = 1 := by decide +kernel
  exact all byte ascii

/-- A byte between characters adds at most three bytes, or opens a character. -/
theorem length_stepFirst_le (byte : Nat) :
    (encode (stepFirst byte).1).length + owed (stepFirst byte).2 ≤ 3 := by
  unfold stepFirst
  split
  case isTrue ascii =>
    simp [owed, utf8Size_ascii ascii]
  case isFalse =>
    cases opened? byte with
    | some opened => simp [owed]
    | none => simp [owed]

theorem length_step_le (state : Option Opened) (byte : Nat) :
    (encode (step state byte).1).length + owed (step state byte).2 ≤ owed state + 3 := by
  cases state with
  | none => simpa [step, owed] using length_stepFirst_le byte
  | some opened =>
      simp only [step]
      split
      case isTrue =>
        unfold Opened.extend
        cases opened.more with
        | zero =>
            have atMost := Char.utf8Size_le_four (Char.ofNat (opened.bits * 0x40 + byte % 0x40))
            simp only [encode_cons, encode_nil, List.append_nil, String.length_utf8EncodeChar, owed]
            omega
        | succ more => simp [owed]
      case isFalse =>
        have first := length_stepFirst_le byte
        have pending : owed (some opened) = 3 := rfl
        simp only [encode_cons, List.length_append, String.length_utf8EncodeChar,
          utf8Size_replacement]
        omega

theorem length_decodeFrom_le (bytes : List UInt8) (state : Option Opened) :
    (encode (decodeFrom state bytes)).length ≤ owed state + 3 * bytes.length := by
  induction bytes generalizing state with
  | nil =>
      cases state with
      | none => simp [decodeFrom]
      | some opened => simp [decodeFrom, owed]
  | cons byte rest ih =>
      have first := length_step_le state byte.toNat
      have later := ih (step state byte.toNat).2
      rw [decodeFrom_cons, encode_append, List.length_append, List.length_cons]
      omega

/-- What is read is at most three times as long as the bytes. -/
theorem length_decode_le (bytes : List UInt8) :
    (encode (decode bytes)).length ≤ 3 * bytes.length := by
  simpa [decode, owed] using length_decodeFrom_le bytes none

theorem toNat_ofNat {byte : Nat} (small : byte < 0x100) : (UInt8.ofNat byte).toNat = byte := by
  rw [UInt8.toNat_ofNat']
  exact Nat.mod_eq_of_lt small

theorem decodeFrom_open {byte : Nat} {opened : Opened} (opens : opened? byte = some opened)
    (range : 0x80 ≤ byte ∧ byte < 0x100) (rest : List UInt8) :
    decodeFrom none (UInt8.ofNat byte :: rest) = decodeFrom (some opened) rest := by
  have notAscii : ¬byte < 0x80 := by omega
  rw [decodeFrom_cons, toNat_ofNat range.2, step, stepFirst, if_neg notAscii, opens]
  rfl

/-- A further byte in the range, of which `unit` are the bits, is one more byte of the character. -/
theorem decodeFrom_more (opened : Opened) {unit more : Nat} (small : unit < 0x40)
    (isMore : opened.more = more + 1)
    (accepts : opened.low ≤ unit + 0x80 ∧ unit + 0x80 ≤ opened.high) (rest : List UInt8) :
    decodeFrom (some opened) (UInt8.ofNat (unit + 0x80) :: rest) =
      decodeFrom (some { bits := opened.bits * 0x40 + unit, more := more }) rest := by
  have bits : (unit + 0x80) % 0x40 = unit := by omega
  rw [decodeFrom_cons, toNat_ofNat (by omega), step, if_pos accepts, Opened.extend, isMore, bits]
  rfl

/-- The last byte closes the character. -/
theorem decodeFrom_last (opened : Opened) {unit : Nat} (small : unit < 0x40)
    (isLast : opened.more = 0)
    (accepts : opened.low ≤ unit + 0x80 ∧ unit + 0x80 ≤ opened.high) (rest : List UInt8) :
    decodeFrom (some opened) (UInt8.ofNat (unit + 0x80) :: rest) =
      Char.ofNat (opened.bits * 0x40 + unit) :: decodeFrom none rest := by
  have bits : (unit + 0x80) % 0x40 = unit := by omega
  rw [decodeFrom_cons, toNat_ofNat (by omega), step, if_pos accepts, Opened.extend, isLast, bits]
  rfl

theorem toNat_of_char (char : Char) :
    char.toNat < 0xd800 ∨ 0xdfff < char.toNat ∧ char.toNat < 0x110000 := by
  have valid := char.valid
  exact valid

theorem opened?_two {lead : Nat} (range : 2 ≤ lead ∧ lead < 0x20) :
    opened? (lead + 0xc0) = some (openedTwo lead) := by
  rw [opened?, if_pos (by omega), Nat.add_sub_cancel]

theorem opened?_three {lead : Nat} (range : lead < 0x10) :
    opened? (lead + 0xe0) = some (openedThree lead) := by
  rw [opened?, if_neg (by omega), if_pos (by omega), Nat.add_sub_cancel]

theorem opened?_four {lead : Nat} (range : lead < 5) :
    opened? (lead + 0xf0) = some (openedFour lead) := by
  rw [opened?, if_neg (by omega), if_neg (by omega), if_pos (by omega), Nat.add_sub_cancel]

/-- The bytes of a character read as the character, and its first bytes alone as a replacement. -/
structure Reads (bytes : List UInt8) (char : Char) : Prop where
  whole : ∀ rest, decodeFrom none (bytes ++ rest) = char :: decodeFrom none rest
  cut : ∀ count, 0 < count → count < bytes.length →
    decodeFrom none (bytes.take count) = [replacement]

theorem reads_one {code : Nat} (range : code < 0x80) :
    Reads [UInt8.ofNat code] (Char.ofNat code) := by
  constructor
  · intro rest
    rw [List.singleton_append, decodeFrom_cons, toNat_ofNat (by omega), step, stepFirst, if_pos range]
    rfl
  · intro count positive short
    simp only [List.length_singleton] at short
    omega

theorem reads_two {lead last : Nat} (leadRange : 2 ≤ lead ∧ lead < 0x20) (lastRange : last < 0x40) :
    Reads [UInt8.ofNat (lead + 0xc0), UInt8.ofNat (last + 0x80)]
      (Char.ofNat (lead * 0x40 + last)) := by
  have opens := decodeFrom_open (opened?_two leadRange) (by omega)
  have closes := decodeFrom_last (openedTwo lead) lastRange rfl
    ⟨Nat.le_add_left _ _, by simp only [openedTwo]; omega⟩
  constructor
  · intro rest
    exact (opens _).trans (closes rest)
  · intro count positive short
    simp only [List.length_cons, List.length_nil] at short
    rw [show count = 1 by omega]
    exact opens []

theorem reads_three {lead middle last : Nat} (leadRange : lead < 0x10) (middleRange : middle < 0x40)
    (lastRange : last < 0x40) (long : lead = 0 → 0x20 ≤ middle)
    (noSurrogate : lead = 0xd → middle < 0x20) :
    Reads [UInt8.ofNat (lead + 0xe0), UInt8.ofNat (middle + 0x80), UInt8.ofNat (last + 0x80)]
      (Char.ofNat ((lead * 0x40 + middle) * 0x40 + last)) := by
  have opens := decodeFrom_open (opened?_three leadRange) (by omega)
  have middleAccepted : (openedThree lead).low ≤ middle + 0x80 ∧
      middle + 0x80 ≤ (openedThree lead).high := by
    simp only [openedThree]
    split <;> split <;> omega
  have continues := decodeFrom_more (openedThree lead) middleRange rfl middleAccepted
  have closes := decodeFrom_last { bits := lead * 0x40 + middle, more := 0 } lastRange rfl
    ⟨Nat.le_add_left _ _, by simp only; omega⟩
  constructor
  · intro rest
    exact ((opens _).trans (continues _)).trans (closes rest)
  · intro count positive short
    simp only [List.length_cons, List.length_nil] at short
    rcases (by omega : count = 1 ∨ count = 2) with rfl | rfl
    · exact opens []
    · exact (opens _).trans (continues [])

theorem reads_four {lead second third last : Nat} (leadRange : lead < 5)
    (secondRange : second < 0x40) (thirdRange : third < 0x40) (lastRange : last < 0x40)
    (long : lead = 0 → 0x10 ≤ second) (within : lead = 4 → second < 0x10) :
    Reads
      [ UInt8.ofNat (lead + 0xf0), UInt8.ofNat (second + 0x80), UInt8.ofNat (third + 0x80),
        UInt8.ofNat (last + 0x80) ]
      (Char.ofNat (((lead * 0x40 + second) * 0x40 + third) * 0x40 + last)) := by
  have opens := decodeFrom_open (opened?_four leadRange) (by omega)
  have secondAccepted : (openedFour lead).low ≤ second + 0x80 ∧
      second + 0x80 ≤ (openedFour lead).high := by
    simp only [openedFour]
    split <;> split <;> omega
  have continues := decodeFrom_more (openedFour lead) secondRange rfl secondAccepted
  have continuesAgain := decodeFrom_more { bits := lead * 0x40 + second, more := 1 }
    thirdRange rfl ⟨Nat.le_add_left _ _, by simp only; omega⟩
  have closes := decodeFrom_last
    { bits := (lead * 0x40 + second) * 0x40 + third, more := 0 } lastRange rfl
    ⟨Nat.le_add_left _ _, by simp only; omega⟩
  constructor
  · intro rest
    exact (((opens _).trans (continues _)).trans (continuesAgain _)).trans (closes rest)
  · intro count positive short
    simp only [List.length_cons, List.length_nil] at short
    rcases (by omega : count = 1 ∨ count = 2 ∨ count = 3) with rfl | rfl | rfl
    · exact opens []
    · exact (opens _).trans (continues [])
    · exact ((opens _).trans (continues _)).trans (continuesAgain [])

theorem reads_utf8EncodeChar (char : Char) : Reads (String.utf8EncodeChar char) char := by
  have valid := toNat_of_char char
  have isChar : ∀ code, code = char.toNat → Char.ofNat code = char := by
    rintro _ rfl
    exact Char.ofNat_toNat char
  have isCode : char.val.toNat = char.toNat := rfl
  unfold String.utf8EncodeChar
  rw [isCode]
  generalize char.toNat = code at valid isChar
  dsimp only
  split
  case isTrue small =>
    rw [← isChar code rfl]
    exact reads_one (Nat.lt_succ_of_le small)
  case isFalse large =>
    split
    case isTrue small =>
      rw [← isChar (code / 64 % 0x20 * 0x40 + code % 0x40) (by omega)]
      exact reads_two (by omega) (by omega)
    case isFalse larger =>
      split
      case isTrue small =>
        rw [← isChar ((code / 4096 % 0x10 * 0x40 + code / 64 % 0x40) * 0x40 + code % 0x40) (by omega)]
        exact reads_three (by omega) (by omega) (by omega) (by omega) (by omega)
      case isFalse largest =>
        rw [← isChar (((code / 262144 % 0x08 * 0x40 + code / 4096 % 0x40) * 0x40 +
          code / 64 % 0x40) * 0x40 + code % 0x40) (by omega)]
        exact reads_four (by omega) (by omega) (by omega) (by omega) (by omega) (by omega)

theorem decode_encode_append (text : List Char) (rest : List UInt8) :
    decode (encode text ++ rest) = text ++ decode rest := by
  induction text with
  | nil => rfl
  | cons char text ih =>
      rw [encode_cons, List.append_assoc, decode, (reads_utf8EncodeChar char).whole, List.cons_append]
      exact congrArg _ ih

/-- The first bytes of a text are those of its first characters, and those of a part of the next. -/
theorem exists_take_encode (text : List Char) (count : Nat) :
    ∃ kept part, kept <+: text ∧ (encode text).take count = encode kept ++ part ∧
      (part = [] ∨ part ≠ [] ∧ decode part = [replacement]) := by
  induction text generalizing count with
  | nil => exact ⟨[], [], List.prefix_refl _, by simp, Or.inl rfl⟩
  | cons char text ih =>
      by_cases fits : (String.utf8EncodeChar char).length ≤ count
      · rcases ih (count - (String.utf8EncodeChar char).length) with
          ⟨kept, part, isPrefix, taken, cut⟩
        refine ⟨char :: kept, part, ?_, ?_, cut⟩
        · exact (List.prefix_cons_inj char).mpr isPrefix
        · rw [encode_cons, List.take_append, List.take_of_length_le fits, taken, encode_cons,
            List.append_assoc]
      · refine ⟨[], (String.utf8EncodeChar char).take count, List.nil_prefix, ?_, ?_⟩
        · rw [encode_cons, List.take_append_of_le_length (Nat.le_of_not_le fits)]
          rfl
        · cases count with
          | zero => exact Or.inl rfl
          | succ count =>
              have short := Nat.lt_of_not_le fits
              refine Or.inr ⟨?_, (reads_utf8EncodeChar char).cut _ (Nat.succ_pos _) short⟩
              intro empty
              have length := congrArg List.length empty
              rw [List.length_take, List.length_nil] at length
              omega

/-- The first bytes of a text read as its first characters, and a replacement where it is cut. -/
theorem exists_decode_take_encode (text : List Char) (count : Nat) :
    ∃ kept, kept <+: text ∧ (encode kept).length ≤ count ∧
      (decode ((encode text).take count) = kept ∨
        (encode kept).length < count ∧ decode ((encode text).take count) = kept ++ [replacement]) := by
  rcases exists_take_encode text count with ⟨kept, part, isPrefix, taken, cut⟩
  have length := congrArg List.length taken
  rw [List.length_take, List.length_append] at length
  refine ⟨kept, isPrefix, by omega, ?_⟩
  rw [taken, decode_encode_append]
  rcases cut with rfl | ⟨nonempty, replaced⟩
  · exact Or.inl (List.append_nil kept)
  · have positive := List.length_pos_iff.mpr nonempty
    exact Or.inr ⟨by omega, by rw [replaced]⟩

end Utf8

end Foundation
