import Keywarden.Identity
import Keywarden.Proofs.Recipient

/-!
# The identifiers that are read

The public keys are written with 64 hexadecimal digits, and an identifier is read as a key just
when it is such a text in either letter case, with any white space around it.  What else comes
as an identifier is refused, and the refusal says what is wrong with it.
-/

namespace Keywarden

namespace Text

/-- Around a trimmed text there was only white space. -/
theorem exists_around_trim (text : String) :
    ∃ front back : List Char, text.toList = front ++ (trim text).toList ++ back ∧
      (∀ char ∈ front, isBlank char = true) ∧ ∀ char ∈ back, isBlank char = true := by
  let inner := text.toList.dropWhile isBlank
  refine ⟨text.toList.takeWhile isBlank, (inner.reverse.takeWhile isBlank).reverse, ?_, ?_, ?_⟩
  · have kept : (trim text).toList ++ (inner.reverse.takeWhile isBlank).reverse = inner := by
      rw [trim, String.toList_ofList, trimChars, ← List.reverse_append,
        List.takeWhile_append_dropWhile, List.reverse_reverse]
    rw [List.append_assoc, kept, List.takeWhile_append_dropWhile]
  · intro char member
    exact List.all_eq_true.mp List.all_takeWhile char member
  · intro char member
    exact List.all_eq_true.mp List.all_takeWhile char (List.mem_reverse.mp member)

end Text

theorem PublicKey.recipientId_injective : Function.Injective recipientId := by
  intro left right same
  apply PublicKey.ext
  exact Hex.encode_injective same

namespace Recipient

variable {id text detail : String} {key : PublicKey}

/-! ### Public keys and their texts -/

/-- The texts that write a public key: 64 hexadecimal digits, of either case. -/
structure IsKeyText (text : String) : Prop where
  length_eq : text.length = 64
  digits : ∀ char ∈ text.toList, Hex.IsDigit char

/-- An identifier is read as the key whose identifier it is, once it is trimmed and in small
letters. -/
theorem parse_eq_ok : parse id = .ok key ↔ (Text.trim id).toLower = key.recipientId := by
  constructor
  · intro parsed
    exact Hex.decode_eq_ok.mp (decode_trim_of_parse parsed)
  · intro same
    have decoded := Hex.decode_eq_ok.mpr same
    rw [parse, decoded]
    simp [key.length_eq]

theorem exists_parse : (∃ key, parse id = .ok key) ↔ IsKeyText (Text.trim id) := by
  calc
    (∃ key, parse id = .ok key) ↔
        ∃ bytes, bytes.length = 32 ∧ (Text.trim id).toLower = Hex.encode bytes := by
      simp only [parse_eq_ok]
      constructor
      · rintro ⟨key, same⟩
        exact ⟨key.bytes, key.length_eq, same⟩
      · rintro ⟨bytes, length, same⟩
        exact ⟨⟨bytes, length⟩, same⟩
    _ ↔ (Text.trim id).length = 64 ∧ ∀ char ∈ (Text.trim id).toList, Hex.IsDigit char :=
      Hex.exists_toLower_eq_encode
    _ ↔ IsKeyText (Text.trim id) :=
      ⟨fun both => ⟨both.1, both.2⟩, fun keyText => ⟨keyText.length_eq, keyText.digits⟩⟩

/-- An identifier is read as a key exactly when it is a spelling of the identifier of the key. -/
theorem parse_eq_ok_iff_spelling : parse text = .ok key ↔ Spelling key.recipientId text := by
  constructor
  · intro parsed
    obtain ⟨front, back, around, blankFront, blankBack⟩ := Text.exists_around_trim text
    have whole : text = String.ofList front ++ Text.trim text ++ String.ofList back := by
      rw [← String.toList_inj, around]
      simp
    have same : Text.equalFold (Text.trim text) key.recipientId = true := by
      rw [Text.equalFold, beq_iff_eq, Hex.folded_of_decode (decode_trim_of_parse parsed)]
      exact (Hex.folded_of_decode (Hex.decode_encode key.bytes)).symm
    rw [whole]
    refine .spelled ?_ same ?_
    · rwa [String.toList_ofList]
    · rwa [String.toList_ofList]
  · exact parse_of_spelling

private theorem parse_recipientId (key : PublicKey) : parse key.recipientId = .ok key := by
  have plain : Spelling key.recipientId ("" ++ key.recipientId ++ "") :=
    .spelled (by simp) (by simp [Text.equalFold]) (by simp)
  rw [String.empty_append, String.append_empty] at plain
  exact parse_of_spelling plain

/-! ### What is wrong with an identifier -/

/-- The faults of an identifier, each with the words for it.  An odd number of bytes is noticed
before a character that is no digit.  Of such characters the first one counts, and it is shown by
its first byte.  The last fault gives the number of bytes with the white space. -/
inductive Faulty (id : String) : String → Prop
  | oddLength (odd : (Bytes.ofString (Text.trim id)).length % 2 = 1) :
      Faulty id "recipient id is not hex: Odd number of digits"
  | wrongDigit {front back : List Char} {char : Char} {byte : UInt8} {others : Bytes}
      (even : (Bytes.ofString (Text.trim id)).length % 2 = 0)
      (split : (Text.trim id).toList = front ++ char :: back)
      (shown : ∀ char ∈ front, Hex.IsDigit char) (wrong : ¬ Hex.IsDigit char)
      (encoded : String.utf8EncodeChar char = byte :: others) :
      Faulty id ("recipient id is not hex: " ++ ("Invalid character " ++
        Text.quotedChar (Char.ofNat byte.toNat) ++ " at position " ++ toString front.length))
  | wrongLength (even : (Bytes.ofString (Text.trim id)).length % 2 = 0)
      (shown : ∀ char ∈ (Text.trim id).toList, Hex.IsDigit char)
      (length : (Text.trim id).length ≠ 64) :
      Faulty id ("recipient id must be 64 hex characters, got " ++
        toString (Bytes.ofString id).length)

private theorem parse_of_faulty (faulty : Faulty id detail) :
    parse id = .error (failure detail) := by
  cases faulty with
  | oddLength odd =>
    have words : "recipient id is not hex: " ++ hexFault .oddLength =
        "recipient id is not hex: Odd number of digits" := by decide +kernel
    rw [parse, Hex.decode_odd odd]
    simp only [words]
  | wrongDigit even split shown wrong encoded =>
    rw [parse, Hex.decode_wrong even split shown wrong encoded]
    rfl
  | wrongLength even shown length =>
    have half : (Text.trim id).length = 2 * ((Text.trim id).length / 2) := by
      obtain ⟨same, -⟩ := Hex.flatMap_digits shown
      rw [← Hex.ofString_eq_flatMap, String.length_toList] at same
      omega
    obtain ⟨bytes, size, folded⟩ := Hex.exists_toLower_eq_encode.mpr ⟨half, shown⟩
    have other : bytes.length ≠ 32 := by omega
    rw [parse, Hex.decode_eq_ok.mpr folded]
    simp only [dif_neg other]

/-- A letter of two bytes is shown by the first of them. -/
example : parse "ab\u00e9" =
    .error (failure "recipient id is not hex: Invalid character '\u00c3' at position 2") := by
  decide +kernel

private theorem isKeyText_or_faulty (id : String) :
    IsKeyText (Text.trim id) ∨ ∃ detail, Faulty id detail := by
  rcases Nat.mod_two_eq_zero_or_one (Bytes.ofString (Text.trim id)).length with even | odd
  · cases found : (Text.trim id).toList.find? fun char => ¬ Hex.IsDigit char with
    | some char =>
      obtain ⟨wrong, front, back, split, before⟩ := List.find?_eq_some_iff_append.mp found
      have wrong : ¬ Hex.IsDigit char := by simpa using wrong
      have shown : ∀ char ∈ front, Hex.IsDigit char := by simpa using before
      obtain ⟨byte, others, encoded, -⟩ := Hex.exists_head_of_not_isDigit wrong
      exact .inr ⟨_, .wrongDigit even split shown wrong encoded⟩
    | none =>
      have shown : ∀ char ∈ (Text.trim id).toList, Hex.IsDigit char := by
        simpa using List.find?_eq_none.mp found
      by_cases length : (Text.trim id).length = 64
      · exact .inl ⟨length, shown⟩
      · exact .inr ⟨_, .wrongLength even shown length⟩
  · exact .inr ⟨_, .oddLength odd⟩

/-- An identifier is refused just when it is no text of a public key, with the words for its
fault. -/
theorem not_isKeyText_iff :
    ¬ IsKeyText (Text.trim id) ↔
      ∃ detail, Faulty id detail ∧ parse id = .error (failure detail) := by
  constructor
  · intro other
    obtain ⟨detail, faulty⟩ := (isKeyText_or_faulty id).resolve_left other
    exact ⟨detail, faulty, parse_of_faulty faulty⟩
  · rintro ⟨detail, -, refused⟩ keyText
    obtain ⟨key, parsed⟩ := exists_parse.mpr keyText
    rw [parsed] at refused
    cases refused

/-! ### Exactly the texts of public keys -/

/-- What is read as a public key is, without the white space around it, a text of 64 digits, and
in small letters it is the identifier of the key; so it is a spelling of this identifier.  All
else fails with the words for its fault.

Each identity is addressed by its identifier, and two identifiers that are read name one key just
when they are the same once trimmed and in small letters. -/
theorem identifiers_read_exactly :
    (∀ id : String,
      ((∃ key, parse id = .ok key) ↔ IsKeyText (Text.trim id)) ∧
      (∀ key, parse id = .ok key ↔ (Text.trim id).toLower = key.recipientId) ∧
      (∀ key, parse id = .ok key ↔ Spelling key.recipientId id) ∧
      (¬ IsKeyText (Text.trim id) ↔ ∃ detail, Faulty id detail ∧
        parse id = .error
          (.primitive "Error encrypting the master key for the recipient" detail))) ∧
    (∀ identity : Identity, parse identity.recipientId = .ok identity.publicKey) ∧
    ∀ (left right : String) (leftKey rightKey : PublicKey),
      parse left = .ok leftKey → parse right = .ok rightKey →
      (leftKey = rightKey ↔ (Text.trim left).toLower = (Text.trim right).toLower) := by
  refine ⟨?_, ?_, ?_⟩
  · intro id
    exact ⟨exists_parse, fun key => parse_eq_ok, fun key => parse_eq_ok_iff_spelling,
      not_isKeyText_iff⟩
  · intro identity
    exact parse_recipientId identity.publicKey
  · intro left right leftKey rightKey leftParsed rightParsed
    rw [parse_eq_ok.mp leftParsed, parse_eq_ok.mp rightParsed]
    exact PublicKey.recipientId_injective.eq_iff.symm

/-- An identifier in capitals between white space of several kinds, and the one in small
letters. -/
theorem identifiers_read_capitals :
    let key : PublicKey := ⟨List.replicate 32 0xcd, rfl⟩
    let capitals := "\u3000\u0085" ++
      "CDCDCDCDCDCDCDCDCDCDCDCDCDCDCDCDCDCDCDCDCDCDCDCDCDCDCDCDCDCDCDCD" ++ "\n"
    parse capitals = .ok key ∧ parse key.recipientId = .ok key ∧
      (Text.trim capitals).toLower = (Text.trim key.recipientId).toLower := by
  intro key capitals
  have capitalsParsed : parse capitals = .ok key := by decide +kernel
  have plainParsed : parse key.recipientId = .ok key := by decide +kernel
  have one := identifiers_read_exactly.2.2 capitals key.recipientId key key capitalsParsed
    plainParsed
  exact ⟨capitalsParsed, plainParsed, one.mp rfl⟩

end Recipient

end Keywarden
