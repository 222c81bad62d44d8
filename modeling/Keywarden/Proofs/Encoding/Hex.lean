import Keywarden.Encoding.Hex
import Keywarden.Proofs.Action
import Keywarden.Text.Blank

/-!
# Hexadecimal texts and their bytes

A text is read as bytes when, in small letters, it is what is written for them.  So two digits
for each byte are read, whatever their case, and nothing else is: a text of another kind has an
odd number of bytes, or a first character that is no digit, which is reported with its place.
-/

namespace Keywarden

namespace Hex

/-! ### Letter case -/

theorem toList_encode (bytes : Bytes) :
    (encode bytes).toList = (digits bytes).map fun byte => Char.ofNat byte.toNat := by
  rw [encode, Bytes.ascii, String.toList_ofList]

/-- A digit that is read is an ASCII character, and its small form is the digit that is
written for its value. -/
theorem toLower_of_digitValue? {byte value : UInt8} (read : digitValue? byte = some value) :
    byte < 128 ∧ value < 16 ∧
      (Char.ofNat byte.toNat).toLower = Char.ofNat (digit value).toNat := by
  -- The value is taken from the option, so that deciding does not go through all values.
  have each : ∀ byte : UInt8, (digitValue? byte).all (fun value => byte < 128 ∧ value < 16 ∧
      (Char.ofNat byte.toNat).toLower = Char.ofNat (digit value).toNat) = true :=
    Bytes.forall_byte _ (by decide +kernel)
  have here := each byte
  rw [read] at here
  simpa using here

/-- The two digits of a byte that was put together from two values. -/
theorem high_low_of_values {high low : UInt8} (highSmall : high < 16) (lowSmall : low < 16) :
    (high <<< 4 ||| low) >>> 4 = high ∧ (high <<< 4 ||| low) &&& 15 = low := by
  have each : ∀ high low : Fin 16,
      (UInt8.ofNat high.val <<< 4 ||| UInt8.ofNat low.val) >>> 4 = UInt8.ofNat high.val ∧
        (UInt8.ofNat high.val <<< 4 ||| UInt8.ofNat low.val) &&& 15 = UInt8.ofNat low.val := by
    decide +kernel
  have here := each ⟨high.toNat, highSmall⟩ ⟨low.toNat, lowSmall⟩
  rwa [UInt8.ofNat_toNat, UInt8.ofNat_toNat] at here

private theorem of_readDigit {byte value : UInt8} {index : Nat}
    (read : readDigit byte index = .ok value) : digitValue? byte = some value := by
  unfold readDigit at read
  split at read
  · cases read
    assumption
  · cases read

/-- What is read in pairs is ASCII, and its small form is what is written for the bytes. -/
theorem of_readPairs {index : Nat} {text bytes : Bytes} (even : text.length % 2 = 0)
    (read : readPairs index text = .ok bytes) :
    (∀ byte ∈ text, byte < 128) ∧
      text.map (fun byte => (Char.ofNat byte.toNat).toLower) =
        (digits bytes).map fun byte => Char.ofNat byte.toNat := by
  match text with
  | [] =>
    cases read
    simp [digits]
  | [_] => simp at even
  | high :: low :: rest =>
    rw [readPairs] at read
    obtain ⟨highValue, first, read⟩ := bind_eq_ok.mp read
    obtain ⟨lowValue, second, read⟩ := bind_eq_ok.mp read
    obtain ⟨tail, others, read⟩ := bind_eq_ok.mp read
    cases read
    have restEven : rest.length % 2 = 0 := by
      simp only [List.length_cons] at even
      omega
    obtain ⟨small, folded⟩ := of_readPairs restEven others
    obtain ⟨highAscii, highSmall, highFold⟩ := toLower_of_digitValue? (of_readDigit first)
    obtain ⟨lowAscii, lowSmall, lowFold⟩ := toLower_of_digitValue? (of_readDigit second)
    obtain ⟨highBack, lowBack⟩ := high_low_of_values highSmall lowSmall
    constructor
    · intro byte member
      rcases List.mem_cons.mp member with rfl | member
      · exact highAscii
      · rcases List.mem_cons.mp member with rfl | member
        · exact lowAscii
        · exact small byte member
    · simp only [List.map_cons, digits, highBack, lowBack, highFold, lowFold, folded]

/-- A character whose small form is a written digit is an ASCII character that reads as the value
of the digit, and is not blank. -/
theorem of_toLower_digit {char : Char} {value : UInt8} (small : value < 16)
    (folded : char.toLower = Char.ofNat (digit value).toNat) :
    ∃ byte : UInt8, byte < 128 ∧ char = Char.ofNat byte.toNat ∧ digitValue? byte = some value ∧
      Text.isBlank char = false := by
  have ascii : char.toNat < 128 := by
    unfold Char.toLower at folded
    split at folded
    · next upper =>
      have below : char.val.toNat ≤ 90 := upper.2
      exact Nat.lt_of_le_of_lt below (by decide)
    · have written : ∀ value : UInt8, value < 16 →
          (Char.ofNat (digit value).toNat).toNat < 128 :=
        Bytes.forall_byte _ (by decide +kernel)
      rw [folded]
      exact written value small
  have each : ∀ code < 128, ∀ value < 16,
      (Char.ofNat code).toLower = Char.ofNat (digit (UInt8.ofNat value)).toNat →
        UInt8.ofNat code < 128 ∧ Char.ofNat code = Char.ofNat (UInt8.ofNat code).toNat ∧
        digitValue? (UInt8.ofNat code) = some (UInt8.ofNat value) ∧
        Text.isBlank (Char.ofNat code) = false := by
    decide +kernel
  have here := each char.toNat ascii value.toNat small
  rw [Char.ofNat_toNat, UInt8.ofNat_toNat] at here
  exact ⟨UInt8.ofNat char.toNat, here folded⟩

/-- A text that is read as bytes is, in small letters, the text written for the bytes. -/
theorem folded_of_decode {text : String} {bytes : Bytes}
    (read : decode (Bytes.ofString text) = .ok bytes) :
    text.toList.map Char.toLower = (encode bytes).toList := by
  unfold decode at read
  split at read
  · cases read
  · rename_i even
    obtain ⟨small, folded⟩ := of_readPairs (by omega) read
    have same : Bytes.ascii (Bytes.ofString text) = text := by
      have written := congrArg Bytes.text? (Bytes.ofString_ascii (Bytes.ofString text) small)
      rw [Bytes.text?_ofString, Bytes.text?_ofString] at written
      exact Option.some.inj written
    calc
      text.toList.map Char.toLower =
          (Bytes.ascii (Bytes.ofString text)).toList.map Char.toLower := by rw [same]
      _ = (Bytes.ofString text).map fun byte => (Char.ofNat byte.toNat).toLower := by
        rw [Bytes.ascii, String.toList_ofList, List.map_map]
        rfl
      _ = (digits bytes).map fun byte => Char.ofNat byte.toNat := folded
      _ = (encode bytes).toList := (toList_encode bytes).symm

/-- What is, in small letters, written for some bytes is read in pairs as these bytes. -/
theorem readPairs_of_folded (index : Nat) {chars : List Char} {bytes : Bytes}
    (folded : chars.map Char.toLower =
      (digits bytes).map fun byte => Char.ofNat byte.toNat) :
    ∃ text : Bytes, chars = text.map (fun byte => Char.ofNat byte.toNat) ∧
      (∀ byte ∈ text, byte < 128) ∧ text.length % 2 = 0 ∧ readPairs index text = .ok bytes ∧
      ∀ char ∈ chars, Text.isBlank char = false := by
  induction bytes generalizing index chars with
  | nil =>
    obtain rfl : chars = [] := by simpa [digits] using folded
    exact ⟨[], rfl, by simp, rfl, rfl, by simp⟩
  | cons byte rest ih =>
    obtain ⟨high, low, join⟩ := high_low byte
    rw [digits, List.map_cons, List.map_cons] at folded
    obtain ⟨first, others, rfl, firstFolded, othersFolded⟩ := List.map_eq_cons_iff.mp folded
    obtain ⟨second, tail, rfl, secondFolded, tailFolded⟩ := List.map_eq_cons_iff.mp othersFolded
    obtain ⟨firstByte, firstAscii, rfl, firstRead, firstBare⟩ := of_toLower_digit high firstFolded
    obtain ⟨secondByte, secondAscii, rfl, secondRead, secondBare⟩ :=
      of_toLower_digit low secondFolded
    obtain ⟨text, rfl, ascii, even, read, bare⟩ := ih (index + 2) tailFolded
    refine ⟨firstByte :: secondByte :: text, rfl, ?_, ?_, ?_, ?_⟩
    · simpa [firstAscii, secondAscii] using ascii
    · simpa [Nat.add_assoc] using even
    · simp [readPairs, readDigit, firstRead, secondRead, read, join, bind, Except.bind, pure,
        Except.pure]
    · simpa [firstBare, secondBare] using bare

/-- A text that is, in small letters, written for some bytes is read as these bytes, and has no
white space in it. -/
theorem decode_of_folded {text : String} {bytes : Bytes}
    (folded : text.toList.map Char.toLower = (encode bytes).toList) :
    decode (Bytes.ofString text) = .ok bytes ∧
      ∀ char ∈ text.toList, Text.isBlank char = false := by
  rw [toList_encode] at folded
  obtain ⟨written, chars, ascii, even, read, bare⟩ := readPairs_of_folded 0 folded
  have same : text = Bytes.ascii written := by
    rw [Bytes.ascii, ← chars, String.ofList_toList]
  refine ⟨?_, bare⟩
  rw [same, Bytes.ofString_ascii written ascii, decode, if_neg (by omega), read]

/-! ### The texts that are read -/

/-- The ASCII characters that are hexadecimal digits, of either case. -/
def IsDigit (char : Char) : Prop :=
  ('0' ≤ char ∧ char ≤ '9') ∨ ('a' ≤ char ∧ char ≤ 'f') ∨ ('A' ≤ char ∧ char ≤ 'F')

instance : DecidablePred IsDigit := fun char =>
  inferInstanceAs (Decidable (('0' ≤ char ∧ char ≤ '9') ∨ ('a' ≤ char ∧ char ≤ 'f') ∨
    ('A' ≤ char ∧ char ≤ 'F')))

theorem IsDigit.ascii {char : Char} (shown : IsDigit char) : char.toNat < 128 := by
  have bounded : ∀ last : Char, last.toNat < 128 → char ≤ last → char.toNat < 128 :=
    fun last small below => Nat.lt_of_le_of_lt (UInt32.le_iff_toNat_le.mp below) small
  rcases shown with ⟨-, below⟩ | ⟨-, below⟩ | ⟨-, below⟩
  · exact bounded '9' (by decide) below
  · exact bounded 'f' (by decide) below
  · exact bounded 'F' (by decide) below

theorem isDigit_ofNat {byte : UInt8} (ascii : byte < 128) :
    IsDigit (Char.ofNat byte.toNat) ↔ (digitValue? byte).isSome := by
  revert ascii
  exact Bytes.forall_byte (fun byte => byte < 128 →
    (IsDigit (Char.ofNat byte.toNat) ↔ (digitValue? byte).isSome)) (by decide +kernel) byte

theorem exists_byte_of_ascii {char : Char} (ascii : char.toNat < 128) :
    ∃ byte : UInt8, byte < 128 ∧ char = Char.ofNat byte.toNat := by
  have back : (UInt8.ofNat char.toNat).toNat = char.toNat :=
    UInt8.toNat_ofNat_of_lt' (Nat.lt_trans ascii (by decide))
  refine ⟨UInt8.ofNat char.toNat, ?_, ?_⟩
  · rw [UInt8.lt_iff_toNat_lt, back]
    exact ascii
  · rw [back, Char.ofNat_toNat]

theorem isDigit_iff_toLower {char : Char} :
    IsDigit char ↔
      ∃ value : UInt8, value < 16 ∧ char.toLower = Char.ofNat (digit value).toNat := by
  constructor
  · intro shown
    obtain ⟨byte, ascii, rfl⟩ := exists_byte_of_ascii shown.ascii
    obtain ⟨value, read⟩ := Option.isSome_iff_exists.mp ((isDigit_ofNat ascii).mp shown)
    obtain ⟨-, small, folded⟩ := toLower_of_digitValue? read
    exact ⟨value, small, folded⟩
  · rintro ⟨value, small, folded⟩
    obtain ⟨byte, ascii, rfl, read, -⟩ := of_toLower_digit small folded
    rw [isDigit_ofNat ascii, read]
    rfl

theorem exists_value_of_mem_digits {bytes : Bytes} {byte : UInt8} (member : byte ∈ digits bytes) :
    ∃ value : UInt8, value < 16 ∧ byte = digit value := by
  induction bytes with
  | nil => simp [digits] at member
  | cons first rest ih =>
    obtain ⟨high, low, -⟩ := high_low first
    simp only [digits, List.mem_cons] at member
    rcases member with rfl | rfl | member
    · exact ⟨_, high, rfl⟩
    · exact ⟨_, low, rfl⟩
    · exact ih member

private theorem length_of_folded {chars : List Char} {bytes : Bytes}
    (folded : chars.map Char.toLower = (digits bytes).map fun byte => Char.ofNat byte.toNat) :
    chars.length = 2 * bytes.length := by
  have lengths := congrArg List.length folded
  rwa [List.length_map, List.length_map, length_digits] at lengths

/-- Digits in pairs are, in small letters, what is written for some bytes. -/
theorem exists_folded {chars : List Char} (even : chars.length % 2 = 0)
    (shown : ∀ char ∈ chars, IsDigit char) :
    ∃ bytes, chars.map Char.toLower = (digits bytes).map fun byte => Char.ofNat byte.toNat := by
  match chars with
  | [] => exact ⟨[], rfl⟩
  | [_] => simp at even
  | first :: second :: rest =>
    simp only [List.forall_mem_cons] at shown
    obtain ⟨firstShown, secondShown, restShown⟩ := shown
    obtain ⟨high, highSmall, highFolded⟩ := isDigit_iff_toLower.mp firstShown
    obtain ⟨low, lowSmall, lowFolded⟩ := isDigit_iff_toLower.mp secondShown
    have restEven : rest.length % 2 = 0 := by
      simp only [List.length_cons] at even
      omega
    obtain ⟨bytes, folded⟩ := exists_folded restEven restShown
    obtain ⟨highBack, lowBack⟩ := high_low_of_values highSmall lowSmall
    refine ⟨(high <<< 4 ||| low) :: bytes, ?_⟩
    simp only [List.map_cons, digits, highBack, lowBack, highFolded, lowFolded, folded]

theorem toLower_eq_encode {text : String} {bytes : Bytes} :
    text.toLower = encode bytes ↔ text.toList.map Char.toLower = (encode bytes).toList := by
  change text.map Char.toLower = encode bytes ↔ _
  rw [← String.toList_inj, String.toList_map]

/-- A text is read as the bytes whose text it is in small letters. -/
theorem decode_eq_ok {text : String} {bytes : Bytes} :
    decode (Bytes.ofString text) = .ok bytes ↔ text.toLower = encode bytes := by
  rw [toLower_eq_encode]
  exact ⟨folded_of_decode, fun folded => (decode_of_folded folded).1⟩

/-- The texts of a number of bytes are those with two digits for each. -/
theorem exists_toLower_eq_encode {text : String} {count : Nat} :
    (∃ bytes, bytes.length = count ∧ text.toLower = encode bytes) ↔
      text.length = 2 * count ∧ ∀ char ∈ text.toList, IsDigit char := by
  simp only [toLower_eq_encode, toList_encode, ← String.length_toList]
  constructor
  · rintro ⟨bytes, rfl, folded⟩
    constructor
    · exact length_of_folded folded
    · intro char member
      have written := List.mem_map_of_mem (f := Char.toLower) member
      rw [folded] at written
      obtain ⟨byte, byteMember, isByte⟩ := List.mem_map.mp written
      obtain ⟨value, small, rfl⟩ := exists_value_of_mem_digits byteMember
      exact isDigit_iff_toLower.mpr ⟨value, small, isByte.symm⟩
  · rintro ⟨length, shown⟩
    obtain ⟨bytes, folded⟩ := exists_folded (by omega) shown
    have same := length_of_folded folded
    exact ⟨bytes, by omega, folded⟩

theorem encode_injective : Function.Injective encode := by
  intro left right same
  have read := decode_encode left
  rw [same, decode_encode] at read
  exact (Except.ok.inj read).symm

/-! ### What is wrong with the others -/

theorem ofString_eq_flatMap (text : String) :
    Bytes.ofString text = text.toList.flatMap String.utf8EncodeChar := by
  conv_lhs => rw [← String.ofList_toList (s := text)]
  rw [Bytes.ofString, String.toByteArray_ofList, List.utf8Encode, List.toList_data_toByteArray]

theorem decode_odd {text : Bytes} (odd : text.length % 2 = 1) :
    decode text = .error .oddLength :=
  if_pos odd

private theorem digitValue?_high {byte : UInt8} (high : 128 ≤ byte) : digitValue? byte = none := by
  revert high
  exact Bytes.forall_byte (fun byte => 128 ≤ byte → digitValue? byte = none)
    (by decide +kernel) byte

/-- The first byte of a character beyond ASCII is no digit. -/
theorem exists_head_of_high {char : Char} (high : 128 ≤ char.toNat) :
    ∃ byte others, String.utf8EncodeChar char = byte :: others ∧ 128 ≤ byte := by
  have large : ∀ code, 128 ≤ code → code < 256 → 128 ≤ UInt8.ofNat code := by
    intro code above below
    rw [UInt8.le_iff_toNat_le, UInt8.toNat_ofNat_of_lt' below]
    exact above
  have code : char.val.toNat = char.toNat := rfl
  unfold String.utf8EncodeChar
  simp only [code]
  split
  · omega
  · split
    · exact ⟨_, _, rfl, large _ (by omega) (by omega)⟩
    · split
      · exact ⟨_, _, rfl, large _ (by omega) (by omega)⟩
      · exact ⟨_, _, rfl, large _ (by omega) (by omega)⟩

theorem exists_head_of_not_isDigit {char : Char} (wrong : ¬ IsDigit char) :
    ∃ byte others, String.utf8EncodeChar char = byte :: others ∧ digitValue? byte = none := by
  rcases Nat.lt_or_ge char.toNat 128 with ascii | high
  · obtain ⟨byte, small, rfl⟩ := exists_byte_of_ascii ascii
    rw [isDigit_ofNat small, Option.not_isSome_iff_eq_none] at wrong
    exact ⟨byte, [], Bytes.utf8EncodeChar_ascii byte small, wrong⟩
  · obtain ⟨byte, others, encoded, large⟩ := exists_head_of_high high
    exact ⟨byte, others, encoded, digitValue?_high large⟩

theorem flatMap_digits {chars : List Char} (shown : ∀ char ∈ chars, IsDigit char) :
    (chars.flatMap String.utf8EncodeChar).length = chars.length ∧
      ∀ byte ∈ chars.flatMap String.utf8EncodeChar, (digitValue? byte).isSome := by
  induction chars with
  | nil => simp
  | cons char rest ih =>
    rw [List.forall_mem_cons] at shown
    obtain ⟨byte, ascii, rfl⟩ := exists_byte_of_ascii shown.1.ascii
    obtain ⟨length, values⟩ := ih shown.2
    rw [List.flatMap_cons, Bytes.utf8EncodeChar_ascii byte ascii]
    constructor
    · simp [length]
    · rw [List.singleton_append, List.forall_mem_cons]
      exact ⟨(isDigit_ofNat ascii).mp shown.1, values⟩

/-- Reading in pairs stops at the first byte that is no digit. -/
theorem readPairs_wrong {front others : Bytes} {byte : UInt8} (index : Nat)
    (even : (front ++ byte :: others).length % 2 = 0)
    (values : ∀ byte ∈ front, (digitValue? byte).isSome) (wrong : digitValue? byte = none) :
    readPairs index (front ++ byte :: others) =
      .error (.invalidDigit byte (index + front.length)) := by
  match front, others with
  | [], [] => simp at even
  | [], next :: others => simp [readPairs, readDigit, wrong, bind, Except.bind]
  | [high], others =>
    obtain ⟨value, read⟩ := Option.isSome_iff_exists.mp (values high (by simp))
    simp [readPairs, readDigit, read, wrong, bind, Except.bind]
  | high :: low :: rest, others =>
    simp only [List.forall_mem_cons] at values
    obtain ⟨first, firstRead⟩ := Option.isSome_iff_exists.mp values.1
    obtain ⟨second, secondRead⟩ := Option.isSome_iff_exists.mp values.2.1
    have restEven : (rest ++ byte :: others).length % 2 = 0 := by
      simp only [List.cons_append, List.length_cons] at even
      omega
    have stopped := readPairs_wrong (index + 2) restEven values.2.2 wrong
    simp only [List.cons_append, readPairs, readDigit, firstRead, secondRead, stopped, bind,
      Except.bind, List.length_cons]
    congr 2
    omega

/-- The first character that is no digit is reported by its first byte, with the number of
digits before it. -/
theorem decode_wrong {text : String} {front back : List Char} {char : Char} {byte : UInt8}
    {others : Bytes} (even : (Bytes.ofString text).length % 2 = 0)
    (split : text.toList = front ++ char :: back) (shown : ∀ char ∈ front, IsDigit char)
    (wrong : ¬ IsDigit char) (encoded : String.utf8EncodeChar char = byte :: others) :
    decode (Bytes.ofString text) = .error (.invalidDigit byte front.length) := by
  obtain ⟨head, tail, headed, unread⟩ := exists_head_of_not_isDigit wrong
  obtain ⟨rfl, rfl⟩ := List.cons.inj (headed.symm.trans encoded)
  obtain ⟨length, values⟩ := flatMap_digits shown
  have bytes : Bytes.ofString text = front.flatMap String.utf8EncodeChar ++
      head :: (tail ++ back.flatMap String.utf8EncodeChar) := by
    rw [ofString_eq_flatMap, split, List.flatMap_append, List.flatMap_cons, encoded,
      List.cons_append]
  rw [decode, if_neg (by omega)]
  rw [bytes] at even ⊢
  rw [readPairs_wrong 0 even values unread, length, Nat.zero_add]

end Hex

end Keywarden
