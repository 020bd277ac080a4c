import McpPortal.Foundation.Utf8
import McpPortal.Transports.Common

/-!
# The size of response texts

The cap of a response is one on the bytes of its body. A body that fits is shown as the
HTTP client decodes it, and of a longer one the first bytes are decoded. What is decoded
can be longer than the bytes it comes from, but it is bounded by them.
-/

namespace McpPortal

open Foundation

/-- The same wire with `bytes.decode(errors="replace")` for its decoding. -/
def WireText.replacing (wire : WireText) : WireText :=
  { wire with decode := fun bytes => String.ofList (Utf8.decode bytes) }

theorem replacing_decode (wire : WireText) (bytes : List UInt8) :
    wire.replacing.decode bytes = String.ofList (Utf8.decode bytes) := rfl

def truncationMarker (raw : List UInt8) (cap : Nat) : String :=
  "\n\n[truncated: " ++ toString raw.length ++ " bytes total, " ++ toString cap ++ " shown]"

/-- A text less one final replacement character. -/
def lessReplacement (shown : List Char) : List Char :=
  if shown.getLast? = some Utf8.replacement then shown.dropLast else shown

theorem lessReplacement_beginning (shown : List Char) : lessReplacement shown <+: shown := by
  unfold lessReplacement
  split
  · exact List.dropLast_prefix shown
  · exact List.prefix_refl shown

theorem lessReplacement_append (kept : List Char) :
    lessReplacement (kept ++ [Utf8.replacement]) = kept := by
  rw [lessReplacement, List.getLast?_concat, if_pos rfl, List.dropLast_concat]

theorem encode_beginning {text other : List Char} (isPrefix : text <+: other) :
    Utf8.encode text <+: Utf8.encode other := by
  rcases isPrefix with ⟨rest, rfl⟩
  rw [Utf8.encode_append]
  exact List.prefix_append _ _

theorem utf8ByteSize_ofList (text : List Char) :
    (String.ofList text).utf8ByteSize = (Utf8.encode text).length := by
  simp [Utf8.encode, String.utf8ByteSize, List.utf8Encode]

section Capped

variable (wire : WireText) (raw : List UInt8) (contentType : String) (cap : Nat)
  (decodedText : Option String)

/-- Apart from the marker the text takes at most as many bytes as the cap. -/
structure RespectsCap : Prop where
  capped : ∃ shown,
    (mapBody wire.replacing raw contentType cap decodedText).1 =
      shown ++ (if (mapBody wire.replacing raw contentType cap decodedText).2
        then truncationMarker raw cap else "") ∧
    shown.utf8ByteSize ≤ cap
  marked : (mapBody wire.replacing raw contentType cap decodedText).2 = true ↔ cap < raw.length
  beginning : ∀ text, raw = Utf8.encode text → cap < raw.length → ∃ shown,
    (mapBody wire.replacing raw contentType cap decodedText).1 =
      shown ++ truncationMarker raw cap ∧
    Utf8.encode (lessReplacement shown.toList) <+: raw

/-- The body is shown in whole where it fits, and of a longer one as many bytes as the cap, each of
which may become a replacement character. -/
structure ShowsCapped : Prop where
  marked : (mapBody wire.replacing raw contentType cap decodedText).2 = true ↔ cap < raw.length
  fits : raw.length ≤ cap →
    (mapBody wire.replacing raw contentType cap decodedText).1 =
      decodedText.getD (String.ofList (Utf8.decode raw))
  decoded : raw.length ≤ cap → decodedText = none →
    (mapBody wire.replacing raw contentType cap decodedText).1.utf8ByteSize ≤ 3 * cap
  truncated : cap < raw.length → ∃ shown,
    (mapBody wire.replacing raw contentType cap decodedText).1 =
      shown ++ truncationMarker raw cap ∧
    shown = String.ofList (Utf8.decode (raw.take cap)) ∧
    shown.utf8ByteSize ≤ 3 * cap ∧
    ∀ text, raw = Utf8.encode text →
      Utf8.encode (lessReplacement shown.toList) <+: raw ∧
      (Utf8.encode (lessReplacement shown.toList)).length ≤ cap ∧
      shown.utf8ByteSize ≤ cap + 2

variable {wire raw contentType cap decodedText}

/-- What is decoded of a text that is cut is the beginning of the text, and at most one replacement. -/
theorem beginning_of_decode_take (text : List Char) (count : Nat) :
    let shown := Utf8.decode ((Utf8.encode text).take count)
    Utf8.encode (lessReplacement shown) <+: Utf8.encode text ∧
      (Utf8.encode (lessReplacement shown)).length ≤ count ∧
      (Utf8.encode shown).length ≤ count + 2 := by
  rcases Utf8.exists_decode_take_encode text count with ⟨kept, isPrefix, fits, whole | ⟨short, cut⟩⟩
  · dsimp only
    rw [whole]
    have less := lessReplacement_beginning kept
    have shorter := (encode_beginning less).length_le
    exact ⟨encode_beginning (less.trans isPrefix), by omega, by omega⟩
  · dsimp only
    rw [cut, lessReplacement_append]
    refine ⟨encode_beginning isPrefix, fits, ?_⟩
    rw [Utf8.encode_append, List.length_append, Utf8.encode_cons, List.length_append,
      String.length_utf8EncodeChar, Utf8.utf8Size_replacement, Utf8.encode_nil, List.length_nil]
    omega

theorem mapBody_longer (textual : isTextual contentType = true) (longer : cap < raw.length) :
    mapBody wire raw contentType cap decodedText =
      (wire.decode (raw.take cap) ++ truncationMarker raw cap, true) := by
  have exceeds : ¬raw.length ≤ cap := Nat.not_le_of_gt longer
  unfold mapBody truncationMarker
  simp only [textual, Bool.not_true, Bool.false_eq_true, if_false, exceeds]
  simp only [String.append_assoc]

/-- A textual body is capped by its bytes. -/
theorem mapBody_showsCapped (textual : isTextual contentType = true) :
    ShowsCapped wire raw contentType cap decodedText := by
  by_cases fits : raw.length ≤ cap
  · have mapped : mapBody wire.replacing raw contentType cap decodedText =
        (decodedText.getD (String.ofList (Utf8.decode raw)), false) := by
      rw [mapBody, textual, Bool.not_true, if_neg Bool.false_ne_true, if_pos fits]
      rfl
    constructor
    · rw [mapped]
      simpa using fits
    · intro _
      rw [mapped]
    · intro _ undecoded
      have bound := Utf8.length_decode_le raw
      rw [mapped, undecoded, Option.getD_none, utf8ByteSize_ofList]
      omega
    · intro longer
      omega
  · have mapped : mapBody wire.replacing raw contentType cap decodedText =
        (String.ofList (Utf8.decode (raw.take cap)) ++ truncationMarker raw cap, true) := by
      rw [mapBody_longer textual (Nat.lt_of_not_le fits), replacing_decode]
    have longer := Nat.lt_of_not_le fits
    constructor
    · rw [mapped]
      simpa using longer
    · intro short
      omega
    · intro short
      omega
    · intro _
      have bound := Utf8.length_decode_le (raw.take cap)
      rw [List.length_take] at bound
      refine ⟨_, congrArg Prod.fst mapped, rfl, ?_, ?_⟩
      · rw [utf8ByteSize_ofList]
        omega
      · rintro text rfl
        rw [utf8ByteSize_ofList, String.toList_ofList]
        exact beginning_of_decode_take text cap

section Accents

private def anyWire : WireText where
  isDigit := Char.isDigit
  decimal char := if char.isDigit then some (char.toNat - '0'.toNat) else none
  decimalOfDigit := @decimal_of_isDigit
  decode _ := ""
  decodeJson _ := none
  readFloat literal := { repr := literal, value := 0 }

private def accents : List UInt8 := Utf8.encode "éé".toList

theorem mapBody_showsCapped_accents : ShowsCapped anyWire accents "text/plain" 3 (some "éé") :=
  mapBody_showsCapped (by decide +kernel)

/-- One byte of Latin-1 is shown as two bytes, and half of a character as three. -/
theorem mapBody_exceeds_cap :
    ¬RespectsCap anyWire [0xe9] "text/plain" 1 (some "é") ∧
      ¬RespectsCap anyWire accents "text/plain" 3 (some "éé") := by
  constructor
  · intro respects
    rcases respects.capped with ⟨shown, isShown, fits⟩
    have text : (mapBody anyWire.replacing [0xe9] "text/plain" 1 (some "é")) = ("é", false) := by
      decide +kernel
    rw [text] at isShown
    simp only [Bool.false_eq_true, if_false, String.append_empty] at isShown
    rw [← isShown] at fits
    revert fits
    decide
  · intro respects
    rcases respects.capped with ⟨shown, isShown, fits⟩
    have text : mapBody anyWire.replacing accents "text/plain" 3 (some "éé") =
        ("é\ufffd" ++ truncationMarker accents 3, true) := by decide +kernel
    rw [text] at isShown
    simp only [if_true] at isShown
    rw [← (String.append_left_inj _).mp isShown] at fits
    revert fits
    decide

end Accents

end Capped

end McpPortal
