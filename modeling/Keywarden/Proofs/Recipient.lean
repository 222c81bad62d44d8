import Keywarden.Proofs.Encoding.Hex
import Keywarden.Recipient

/-!
# The spellings of a recipient

Hexadecimal text is fixed by the bytes it stands for up to the case of its letters.  Two
identifiers of one public key can therefore differ in letter case and in the white space
around them, and in nothing else.  Under all such spellings the key is recognized.
-/

namespace Keywarden

namespace Text

private theorem dropWhile_isBlank {front rest : List Char}
    (blank : ∀ char ∈ front, isBlank char = true) (bare : ∀ char ∈ rest, isBlank char = false) :
    (front ++ rest).dropWhile isBlank = rest := by
  rw [List.dropWhile_append_of_pos blank]
  cases rest with
  | nil => rfl
  | cons char others => exact List.dropWhile_cons_of_neg (by simp [bare char])

/-- White space around a text without any is taken away. -/
theorem trimChars_around {front middle back : List Char}
    (blankFront : ∀ char ∈ front, isBlank char = true)
    (bare : ∀ char ∈ middle, isBlank char = false)
    (blankBack : ∀ char ∈ back, isBlank char = true) :
    trimChars (front ++ middle ++ back) = middle := by
  unfold trimChars
  cases middle with
  | nil =>
    have blank : ∀ char ∈ front ++ [] ++ back, isBlank char = true := by
      simpa [or_imp, forall_and] using ⟨blankFront, blankBack⟩
    rw [← List.append_nil (front ++ [] ++ back), dropWhile_isBlank blank (by simp)]
    rfl
  | cons char rest =>
    have fromMiddle : (front ++ char :: rest ++ back).dropWhile isBlank = char :: rest ++ back := by
      rw [List.append_assoc, List.dropWhile_append_of_pos blankFront]
      exact List.dropWhile_cons_of_neg (by simp [bare char])
    rw [fromMiddle, List.reverse_append, dropWhile_isBlank, List.reverse_reverse]
    · exact fun char member => blankBack char (List.mem_reverse.mp member)
    · exact fun char member => bare char (List.mem_reverse.mp member)

end Text

theorem Text.equalFold_comm (left right : String) :
    Text.equalFold left right = Text.equalFold right left := by
  rw [Bool.eq_iff_iff, Text.equalFold, Text.equalFold, beq_iff_eq, beq_iff_eq, eq_comm]

namespace Recipient

theorem decode_trim_of_parse {id : String} {key : PublicKey} (parsed : parse id = .ok key) :
    Hex.decode (Bytes.ofString (Text.trim id)) = .ok key.bytes := by
  unfold parse at parsed
  split at parsed
  · cases parsed
  · rename_i bytes decoded
    split at parsed
    · cases parsed
      exact decoded
    · cases parsed

/-- A text is another one up to letter case and white space around it. -/
inductive Spelling (id : String) : String → Prop
  | spelled {front middle back : String}
      (blankFront : ∀ char ∈ front.toList, Text.isBlank char = true)
      (same : Text.equalFold middle id = true)
      (blankBack : ∀ char ∈ back.toList, Text.isBlank char = true) :
      Spelling id (front ++ middle ++ back)

/-- Under every spelling of its identifier a public key is recognized. -/
theorem parse_of_spelling {key : PublicKey} {text : String}
    (spelling : Spelling key.recipientId text) : parse text = .ok key := by
  cases spelling with
  | @spelled front middle back blankFront same blankBack =>
    have folded : middle.toList.map Char.toLower = (Hex.encode key.bytes).toList := by
      rw [Text.equalFold, beq_iff_eq] at same
      rw [same]
      exact Hex.folded_of_decode (Hex.decode_encode key.bytes)
    obtain ⟨decoded, bare⟩ := Hex.decode_of_folded folded
    have trimmed : Text.trim (front ++ middle ++ back) = middle := by
      rw [Text.trim, String.toList_append, String.toList_append,
        Text.trimChars_around blankFront bare blankBack, String.ofList_toList]
    unfold parse
    rw [trimmed, decoded]
    simp [key.length_eq]

/-- Identifiers of one public key are the same up to letter case once the white space
around them is gone. -/
theorem equalFold_trim_of_parse {left right : String} {key : PublicKey}
    (leftParsed : parse left = .ok key) (rightParsed : parse right = .ok key) :
    Text.equalFold (Text.trim left) (Text.trim right) = true := by
  have leftFolded := Hex.folded_of_decode (decode_trim_of_parse leftParsed)
  have rightFolded := Hex.folded_of_decode (decode_trim_of_parse rightParsed)
  rw [Text.equalFold, beq_iff_eq, leftFolded, rightFolded]

end Recipient

end Keywarden
