import Keywarden.Json.Text
import Keywarden.Proofs.Json.Token

/-!
# Texts between quotation marks

Whatever a text holds, its escaped form ends at the quotation mark after it, and stands
for the text again.
-/

namespace Keywarden.Json

open Reader (isHexDigit isSimpleEscape)

namespace Text

/-- The three ways in which a byte is written inside a string. -/
inductive Escaped (byte : UInt8) : Bytes → Prop
  | plain (notQuote : byte ≠ 34) (notBackslash : byte ≠ 92) (printable : ¬ byte < 32) :
      Escaped byte [byte]
  | sign {sign : UInt8} (known : isSimpleEscape sign = true) (notNumber : sign ≠ 117)
      (meant : unescapeByte sign = byte) : Escaped byte [92, sign]
  | number {high low : UInt8} (highDigit : isHexDigit high = true)
      (lowDigit : isHexDigit low = true) (control : codeUnit 48 48 high low < 128)
      (meant : encodePoint (codeUnit 48 48 high low) = [byte]) :
      Escaped byte [92, 117, 48, 48, high, low]

/-- The number of a control, in four digits. -/
theorem control_digits (byte : UInt8) : byte < 32 →
    isHexDigit (hexDigit (byte >>> 4)) = true ∧ isHexDigit (hexDigit (byte &&& 15)) = true ∧
      codeUnit 48 48 (hexDigit (byte >>> 4)) (hexDigit (byte &&& 15)) < 128 ∧
      encodePoint (codeUnit 48 48 (hexDigit (byte >>> 4)) (hexDigit (byte &&& 15))) = [byte] :=
  Bytes.forall_byte (fun byte => byte < 32 →
    isHexDigit (hexDigit (byte >>> 4)) = true ∧ isHexDigit (hexDigit (byte &&& 15)) = true ∧
      codeUnit 48 48 (hexDigit (byte >>> 4)) (hexDigit (byte &&& 15)) < 128 ∧
      encodePoint (codeUnit 48 48 (hexDigit (byte >>> 4)) (hexDigit (byte &&& 15))) = [byte])
    (by decide +kernel) byte

theorem escaped (byte : UInt8) : Escaped byte (escapeByte byte) := by
  by_cases quote : byte = 34
  · subst quote
    exact .sign (by decide) (by decide) rfl
  by_cases backslash : byte = 92
  · subst backslash
    exact .sign (by decide) (by decide) rfl
  by_cases control : byte < 32
  · by_cases named : byte = 8 ∨ byte = 9 ∨ byte = 10 ∨ byte = 12 ∨ byte = 13
    · rcases named with rfl | rfl | rfl | rfl | rfl <;>
        exact .sign (by decide) (by decide) rfl
    · obtain ⟨highDigit, lowDigit, small, meant⟩ := control_digits byte control
      simp only [not_or] at named
      have written : escapeByte byte =
          [92, 117, 48, 48, hexDigit (byte >>> 4), hexDigit (byte &&& 15)] := by
        simp [escapeByte, quote, backslash, named, control]
      rw [written]
      exact .number highDigit lowDigit small meant
  · have written : escapeByte byte = [byte] := by
      have above (bound : UInt8) (low : bound < 32) : byte ≠ bound := by
        rintro rfl
        exact control low
      simp [escapeByte, quote, backslash, above 8 (by decide), above 9 (by decide),
        above 10 (by decide), above 12 (by decide), above 13 (by decide), control]
    rw [written]
    exact .plain quote backslash control

/-! ### Between quotation marks -/

private theorem inscription_escaped {byte : UInt8} {written : Bytes}
    (escaped : Escaped byte written)
    {raw : Bytes} (more : Inscription raw) : Inscription (written ++ raw) := by
  cases escaped with
  | plain notQuote notBackslash printable => exact .plain printable notQuote notBackslash more
  | sign known notNumber meant => exact .sign known more
  | number highDigit lowDigit control meant =>
    have zero : isHexDigit 48 = true := by decide
    exact .number (by simp [zero, highDigit, lowDigit]) more

private theorem inscription_flatMap (bytes : Bytes) : Inscription (bytes.flatMap escapeByte) := by
  induction bytes with
  | nil => exact .nil
  | cons byte bytes ih =>
    rw [List.flatMap_cons]
    exact inscription_escaped (escaped byte) ih

theorem inscription_encode (text : String) : Inscription (encode text) :=
  inscription_flatMap _

/-! ### The text behind the escapes -/

private theorem unescape_escaped {byte : UInt8} {written : Bytes} (escaped : Escaped byte written)
    {input bytes : Bytes} (read : unescape input = .ok bytes) :
    unescape (written ++ input) = .ok (byte :: bytes) := by
  cases escaped with
  | plain notQuote notBackslash printable =>
    simp [unescape, notBackslash, read, follow]
  | sign known notNumber meant =>
    simp [unescape, notNumber, meant, read, follow]
  | @number high low highDigit lowDigit control meant =>
    have notPair : ¬ (0xdc00 ≤ codeUnit 48 48 high low ∧ codeUnit 48 48 high low ≤ 0xdfff) := by
      omega
    have alone : codeUnit 48 48 high low < 0xd800 ∨ 0xdbff < codeUnit 48 48 high low := by
      omega
    change unescape (92 :: 117 :: 48 :: 48 :: high :: low :: input) = _
    unfold unescape
    simp only [if_neg notPair, if_pos alone, meant, read, follow]
    rfl

private theorem unescape_flatMap (bytes : Bytes) :
    unescape (bytes.flatMap escapeByte) = .ok bytes := by
  induction bytes with
  | nil => rfl
  | cons byte bytes ih =>
    rw [List.flatMap_cons]
    exact unescape_escaped (escaped byte) ih

/-- Reading the escaped form of a text gives the text. -/
theorem decode_encode (text : String) : decode (encode text) = .ok text := by
  rw [decode, encode, unescape_flatMap]
  simp only [Bytes.text?_ofString]

end Text

end Keywarden.Json
