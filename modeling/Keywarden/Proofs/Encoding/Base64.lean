import Keywarden.Encoding.Base64
import Keywarden.Proofs.Action

/-!
# Base64 and its bytes

Every byte string has a base64 text, and reading that text gives the bytes back.  No other
text is read: padding, alphabet and unused bits leave one spelling for each byte string.
-/

namespace Keywarden

theorem Bytes.ofString_injective : Function.Injective Bytes.ofString := by
  intro left right same
  have read := Bytes.text?_ofString left
  rw [same, Bytes.text?_ofString] at read
  exact (Option.some.inj read).symm

namespace Base64

/-- Every value below 64 has a symbol of its own, which is never the padding. -/
theorem symbol_of_small {value : UInt8} (low : value < 64) :
    symbol value < 128 ∧ symbol value ≠ padding ∧ value? (symbol value) = some value := by
  revert low
  exact Bytes.forall_byte (fun value => value < 64 →
    symbol value < 128 ∧ symbol value ≠ padding ∧ value? (symbol value) = some value)
    (by decide +kernel) value

private theorem symbol_small {value : UInt8} (low : value < 64) : symbol value < 128 :=
  (symbol_of_small low).1

theorem readSymbol_symbol {value : UInt8} (low : value < 64) (offset : Nat) :
    readSymbol (symbol value) offset = .ok value := by
  obtain ⟨-, -, known⟩ := symbol_of_small low
  rw [readSymbol, known]

/-! ### The bits of three bytes in four symbols -/

/-- The parts that a byte is cut into are values of symbols. -/
theorem cut (byte : UInt8) :
    byte >>> 2 < 64 ∧ (byte &&& 3) <<< 4 < 64 ∧ byte >>> 4 < 64 ∧ (byte &&& 15) <<< 2 < 64 ∧
      byte >>> 6 < 64 ∧ byte &&& 63 < 64 :=
  Bytes.forall_byte (fun byte => byte >>> 2 < 64 ∧ (byte &&& 3) <<< 4 < 64 ∧ byte >>> 4 < 64 ∧
    (byte &&& 15) <<< 2 < 64 ∧ byte >>> 6 < 64 ∧ byte &&& 63 < 64) (by decide +kernel) byte

/-- The two parts of a byte, for each place of the cut, are the byte again. -/
theorem joined (byte : UInt8) :
    (byte >>> 2) <<< 2 ||| ((byte &&& 3) <<< 4) >>> 4 = byte ∧
      (byte >>> 4) <<< 4 ||| ((byte &&& 15) <<< 2) >>> 2 = byte ∧
      (byte >>> 6) <<< 6 ||| (byte &&& 63) = byte :=
  Bytes.forall_byte (fun byte => (byte >>> 2) <<< 2 ||| ((byte &&& 3) <<< 4) >>> 4 = byte ∧
    (byte >>> 4) <<< 4 ||| ((byte &&& 15) <<< 2) >>> 2 = byte ∧
    (byte >>> 6) <<< 6 ||| (byte &&& 63) = byte) (by decide +kernel) byte

/-- What the neighbours of a byte share a symbol with is shifted out of it. -/
theorem shifted_out (byte : UInt8) :
    (byte >>> 4) >>> 4 = 0 ∧ ((byte &&& 3) <<< 4) <<< 4 = 0 ∧ (byte >>> 6) >>> 2 = 0 ∧
      ((byte &&& 15) <<< 2) <<< 6 = 0 ∧ (byte &&& 15) <<< 2 &&& 3 = 0 ∧
      (byte &&& 3) <<< 4 &&& 15 = 0 :=
  Bytes.forall_byte (fun byte => (byte >>> 4) >>> 4 = 0 ∧ ((byte &&& 3) <<< 4) <<< 4 = 0 ∧
    (byte >>> 6) >>> 2 = 0 ∧ ((byte &&& 15) <<< 2) <<< 6 = 0 ∧ (byte &&& 15) <<< 2 &&& 3 = 0 ∧
    (byte &&& 3) <<< 4 &&& 15 = 0) (by decide +kernel) byte

private theorem or_small {left right : UInt8} (leftLow : left < 64) (rightLow : right < 64) :
    left ||| right < 64 := by
  rw [UInt8.lt_iff_toNat_lt] at leftLow rightLow ⊢
  rw [UInt8.toNat_or]
  exact Nat.or_lt_two_pow (n := 6) leftLow rightLow

theorem join_first (a b : UInt8) :
    (a >>> 2) <<< 2 ||| ((a &&& 3) <<< 4 ||| b >>> 4) >>> 4 = a := by
  obtain ⟨kept, -, -⟩ := joined a
  obtain ⟨gone, -⟩ := shifted_out b
  rw [UInt8.shiftRight_or, gone, UInt8.or_zero, kept]

theorem join_second (a b c : UInt8) :
    ((a &&& 3) <<< 4 ||| b >>> 4) <<< 4 ||| ((b &&& 15) <<< 2 ||| c >>> 6) >>> 2 = b := by
  obtain ⟨-, goneLeft, -⟩ := shifted_out a
  obtain ⟨-, kept, -⟩ := joined b
  obtain ⟨-, -, goneRight, -⟩ := shifted_out c
  rw [UInt8.shiftLeft_or, UInt8.shiftRight_or, goneLeft, goneRight, UInt8.zero_or,
    UInt8.or_zero, kept]

private theorem join_third (b c : UInt8) :
    ((b &&& 15) <<< 2 ||| c >>> 6) <<< 6 ||| (c &&& 63) = c := by
  obtain ⟨-, -, -, gone, -⟩ := shifted_out b
  obtain ⟨-, -, kept⟩ := joined c
  rw [UInt8.shiftLeft_or, gone, UInt8.zero_or, kept]

/-- The four values of three bytes. -/
theorem unpack_three (a b c : UInt8) :
    unpack [a >>> 2, (a &&& 3) <<< 4 ||| b >>> 4, (b &&& 15) <<< 2 ||| c >>> 6, c &&& 63] =
      ([a, b, c], 0) := by
  rw [unpack, join_first, join_second, join_third]

private theorem unpack_two (a b : UInt8) :
    unpack [a >>> 2, (a &&& 3) <<< 4 ||| b >>> 4, (b &&& 15) <<< 2] = ([a, b], 0) := by
  have second : ((a &&& 3) <<< 4 ||| b >>> 4) <<< 4 ||| ((b &&& 15) <<< 2) >>> 2 = b := by
    have joined := join_second a b 0
    rwa [show (0 : UInt8) >>> 6 = 0 from rfl, UInt8.or_zero] at joined
  obtain ⟨-, -, -, -, unused, -⟩ := shifted_out b
  rw [unpack, join_first, second, unused]

private theorem unpack_one (a : UInt8) : unpack [a >>> 2, (a &&& 3) <<< 4] = ([a], 0) := by
  have first : (a >>> 2) <<< 2 ||| ((a &&& 3) <<< 4) >>> 4 = a := by
    have joined := join_first a 0
    rwa [show (0 : UInt8) >>> 4 = 0 from rfl, UInt8.or_zero] at joined
  obtain ⟨-, -, -, -, -, unused⟩ := shifted_out a
  rw [unpack, first, unused]

/-! ### Reading what was written -/

private theorem readGroup_symbol {offset index : Nat} {group : Group} {value : UInt8}
    (unpadded : group.pads = 0) (low : value < 64) (rest : Bytes) :
    readGroup offset index group (symbol value :: rest) =
      readGroup offset (index + 1) ⟨group.values ++ [value], symbol value, 0⟩ rest := by
  obtain ⟨-, notPadding, -⟩ := symbol_of_small low
  rw [readGroup, if_neg notPadding, if_neg (by simp [unpadded]), readSymbol_symbol low]
  rfl

private theorem readGroup_padding {offset index : Nat} (group : Group) (late : 2 ≤ index)
    (rest : Bytes) :
    readGroup offset index group (padding :: rest) =
      readGroup offset (index + 1) { group with pads := group.pads + 1 } rest := by
  rw [readGroup, if_pos rfl, if_neg (by omega)]

private theorem decodeLast_of_group {offset : Nat} {bytes output : Bytes} {group : Group}
    (read : readGroup offset 0 ⟨[], 0, 0⟩ bytes = .ok group)
    (enough : 2 ≤ group.values.length) (full : group.pads + group.values.length = 4)
    (unpacked : unpack group.values = (output, 0)) :
    decodeLast offset bytes = .ok output := by
  have few : ¬ (bytes ≠ [] ∧ group.values.length < 2) := by omega
  have aligned : ¬ (group.pads + group.values.length) % 4 ≠ 0 := by omega
  simp only [decodeLast, read, bind, Except.bind, if_neg few, if_neg aligned, unpacked,
    if_true]

/-- The values that the symbols of up to three bytes stand for are below 64. -/
theorem values_small (a b c : UInt8) :
    a >>> 2 < 64 ∧ (a &&& 3) <<< 4 ||| b >>> 4 < 64 ∧ (b &&& 15) <<< 2 ||| c >>> 6 < 64 ∧
      c &&& 63 < 64 := by
  obtain ⟨first, second, -, -, -, -⟩ := cut a
  obtain ⟨-, -, secondRest, third, -, -⟩ := cut b
  obtain ⟨-, -, -, -, thirdRest, fourth⟩ := cut c
  exact ⟨first, or_small second secondRest, or_small third thirdRest, fourth⟩

/-- The last group of a text, which holds one to three bytes. -/
theorem decodeLast_symbols (offset : Nat) (bytes : Bytes) (nonempty : bytes ≠ [])
    (few : bytes.length ≤ 3) : decodeLast offset (symbols bytes) = .ok bytes := by
  match bytes with
  | [] => exact absurd rfl nonempty
  | [a] =>
    obtain ⟨first, second, -, -⟩ := values_small a 0 0
    rw [show (0 : UInt8) >>> 4 = 0 from rfl, UInt8.or_zero] at second
    have read : readGroup offset 0 ⟨[], 0, 0⟩ (symbols [a]) =
        .ok ⟨[a >>> 2, (a &&& 3) <<< 4], symbol ((a &&& 3) <<< 4), 2⟩ := by
      rw [symbols, readGroup_symbol rfl first, readGroup_symbol rfl second,
        readGroup_padding _ (by omega), readGroup_padding _ (by omega)]
      rfl
    exact decodeLast_of_group read (by simp) (by simp) (unpack_one a)
  | [a, b] =>
    obtain ⟨first, second, third, -⟩ := values_small a b 0
    rw [show (0 : UInt8) >>> 6 = 0 from rfl, UInt8.or_zero] at third
    have read : readGroup offset 0 ⟨[], 0, 0⟩ (symbols [a, b]) =
        .ok ⟨[a >>> 2, (a &&& 3) <<< 4 ||| b >>> 4, (b &&& 15) <<< 2],
          symbol ((b &&& 15) <<< 2), 1⟩ := by
      rw [symbols, readGroup_symbol rfl first, readGroup_symbol rfl second,
        readGroup_symbol rfl third, readGroup_padding _ (by omega)]
      rfl
    exact decodeLast_of_group read (by simp) (by simp) (unpack_two a b)
  | [a, b, c] =>
    obtain ⟨first, second, third, fourth⟩ := values_small a b c
    have read : readGroup offset 0 ⟨[], 0, 0⟩ (symbols [a, b, c]) =
        .ok ⟨[a >>> 2, (a &&& 3) <<< 4 ||| b >>> 4, (b &&& 15) <<< 2 ||| c >>> 6, c &&& 63],
          symbol (c &&& 63), 0⟩ := by
      rw [symbols, symbols, readGroup_symbol rfl first, readGroup_symbol rfl second,
        readGroup_symbol rfl third, readGroup_symbol rfl fourth]
      rfl
    exact decodeLast_of_group read (by simp) (by simp) (unpack_three a b c)
  | _ :: _ :: _ :: _ :: _ =>
    simp only [List.length_cons] at few
    omega

private theorem symbols_ne_nil {bytes : Bytes} (nonempty : bytes ≠ []) : symbols bytes ≠ [] := by
  match bytes with
  | [] => exact absurd rfl nonempty
  | [_] | [_, _] | _ :: _ :: _ :: _ => simp [symbols]

private theorem decodeGroups_symbols (offset : Nat) (bytes : Bytes) :
    decodeGroups offset (symbols bytes) = .ok bytes := by
  match bytes with
  | [] => rfl
  | [a] => exact decodeLast_symbols offset [a] (by simp) (by simp)
  | [a, b] => exact decodeLast_symbols offset [a, b] (by simp) (by simp)
  | [a, b, c] => exact decodeLast_symbols offset [a, b, c] (by simp) (by simp)
  | a :: b :: c :: d :: rest =>
    obtain ⟨first, second, third, fourth⟩ := values_small a b c
    have others := decodeGroups_symbols (offset + 4) (d :: rest)
    obtain ⟨next, more, further⟩ := List.exists_cons_of_ne_nil
      (symbols_ne_nil (List.cons_ne_nil d rest))
    rw [symbols, further]
    rw [further] at others
    simp only [decodeGroups, readSymbol_symbol first, readSymbol_symbol second,
      readSymbol_symbol third, readSymbol_symbol fourth, others, unpack_three, bind,
      Except.bind, pure, Except.pure]
    rfl

theorem symbols_small (bytes : Bytes) : ∀ byte ∈ symbols bytes, byte < 128 := by
  have pad : padding < 128 := by decide
  match bytes with
  | [] => simp [symbols]
  | [a] =>
    obtain ⟨first, second, -, -, -, -⟩ := cut a
    simp [symbols, symbol_small first, symbol_small second, pad]
  | [a, b] =>
    obtain ⟨first, second, -, -⟩ := values_small a b 0
    obtain ⟨-, -, -, third, -, -⟩ := cut b
    simp [symbols, symbol_small first, symbol_small second, symbol_small third, pad]
  | a :: b :: c :: rest =>
    obtain ⟨first, second, third, fourth⟩ := values_small a b c
    simpa [symbols, symbol_small first, symbol_small second, symbol_small third,
      symbol_small fourth] using symbols_small rest

private theorem length_symbols (bytes : Bytes) : (symbols bytes).length % 4 = 0 := by
  match bytes with
  | [] | [_] | [_, _] => simp [symbols]
  | _ :: _ :: _ :: rest =>
    have others := length_symbols rest
    simp only [symbols, List.length_cons]
    omega

/-- Reading the text of a byte string gives the bytes. -/
theorem decode_encode (bytes : Bytes) :
    decode (Bytes.ofString (encode bytes)) = .ok bytes := by
  have written : Bytes.ofString (encode bytes) = symbols bytes :=
    Bytes.ofString_ascii _ (symbols_small bytes)
  have noStray : strayEnd? (symbols bytes) = none := by
    have aligned := length_symbols bytes
    unfold strayEnd?
    split
    · rw [if_neg (by omega)]
    · rfl
  rw [decode, written, noStray]
  exact decodeGroups_symbols 0 bytes

/-! ### Only canonical texts are read -/

/-- A symbol with a value is the symbol of this value. -/
theorem of_value? (byte : UInt8) :
    ∀ value ∈ value? byte, value < 64 ∧ symbol value = byte :=
  Bytes.forall_byte (fun byte => ∀ value ∈ value? byte, value < 64 ∧ symbol value = byte)
    (by decide +kernel) byte

theorem of_readSymbol {byte value : UInt8} {offset : Nat}
    (read : readSymbol byte offset = .ok value) : value < 64 ∧ symbol value = byte := by
  unfold readSymbol at read
  split at read
  · rename_i known
    cases read
    exact of_value? byte value known
  · cases read

theorem or_and (left right mask : UInt8) :
    (left ||| right) &&& mask = (left &&& mask) ||| (right &&& mask) := by
  apply UInt8.toBitVec_inj.mp
  ext place
  simp [Bool.and_or_distrib_right]

/-- Where a value is cut, its upper part keeps clear of what stands before it in a byte. -/
theorem upper_parts (value : UInt8) : value < 64 →
    (value <<< 2) >>> 2 = value ∧ (value >>> 4) >>> 2 = 0 ∧ (value >>> 2) >>> 4 = 0 ∧
      value >>> 6 = 0 ∧ (value >>> 4) &&& (3 : UInt8) = value >>> 4 ∧
      (value >>> 2) &&& (15 : UInt8) = value >>> 2 ∧ value &&& 63 = value :=
  Bytes.forall_byte (fun value => value < 64 →
    (value <<< 2) >>> 2 = value ∧ (value >>> 4) >>> 2 = 0 ∧ (value >>> 2) >>> 4 = 0 ∧
      value >>> 6 = 0 ∧ (value >>> 4) &&& (3 : UInt8) = value >>> 4 ∧
      (value >>> 2) &&& (15 : UInt8) = value >>> 2 ∧ value &&& 63 = value)
    (by decide +kernel) value

/-- Its lower part is all that is left of it where a byte is cut again. -/
theorem lower_parts (value : UInt8) :
    value <<< 2 &&& (3 : UInt8) = 0 ∧ value <<< 4 &&& (15 : UInt8) = 0 ∧
      value <<< 6 &&& (63 : UInt8) = 0 ∧
      (value >>> 4) <<< 4 ||| (value <<< 4) >>> 4 = value ∧
      (value >>> 2) <<< 2 ||| (value <<< 6) >>> 6 = value ∧
      (value &&& 15 = 0 → (value >>> 4) <<< 4 = value) ∧
      (value &&& 3 = 0 → (value >>> 2) <<< 2 = value) :=
  Bytes.forall_byte (fun value =>
    value <<< 2 &&& (3 : UInt8) = 0 ∧ value <<< 4 &&& (15 : UInt8) = 0 ∧
      value <<< 6 &&& (63 : UInt8) = 0 ∧
      (value >>> 4) <<< 4 ||| (value <<< 4) >>> 4 = value ∧
      (value >>> 2) <<< 2 ||| (value <<< 6) >>> 6 = value ∧
      (value &&& 15 = 0 → (value >>> 4) <<< 4 = value) ∧
      (value &&& 3 = 0 → (value >>> 2) <<< 2 = value))
    (by decide +kernel) value

theorem first_of_joined {a b : UInt8} (aLow : a < 64) (bLow : b < 64) :
    (a <<< 2 ||| b >>> 4) >>> 2 = a := by
  obtain ⟨kept, -⟩ := upper_parts a aLow
  obtain ⟨-, gone, -⟩ := upper_parts b bLow
  rw [UInt8.shiftRight_or, kept, gone, UInt8.or_zero]

theorem second_of_joined (a : UInt8) {b c : UInt8} (bLow : b < 64) (cLow : c < 64) :
    ((a <<< 2 ||| b >>> 4) &&& 3) <<< 4 ||| (b <<< 4 ||| c >>> 2) >>> 4 = b := by
  obtain ⟨goneLeft, -⟩ := lower_parts a
  obtain ⟨-, -, -, -, upper, -⟩ := upper_parts b bLow
  obtain ⟨-, -, goneRight, -⟩ := upper_parts c cLow
  obtain ⟨-, -, -, whole, -⟩ := lower_parts b
  rw [or_and, goneLeft, UInt8.zero_or, upper, UInt8.shiftRight_or, goneRight, UInt8.or_zero, whole]

private theorem third_of_joined (b : UInt8) {c d : UInt8} (cLow : c < 64) (dLow : d < 64) :
    ((b <<< 4 ||| c >>> 2) &&& 15) <<< 2 ||| (c <<< 6 ||| d) >>> 6 = c := by
  obtain ⟨-, goneLeft, -⟩ := lower_parts b
  obtain ⟨-, -, -, -, -, upper, -⟩ := upper_parts c cLow
  obtain ⟨-, -, -, goneRight, -⟩ := upper_parts d dLow
  obtain ⟨-, -, -, -, whole, -⟩ := lower_parts c
  rw [or_and, goneLeft, UInt8.zero_or, upper, UInt8.shiftRight_or, goneRight, UInt8.or_zero, whole]

private theorem fourth_of_joined (c : UInt8) {d : UInt8} (dLow : d < 64) :
    (c <<< 6 ||| d) &&& 63 = d := by
  obtain ⟨-, -, gone, -⟩ := lower_parts c
  obtain ⟨-, -, -, -, -, -, whole⟩ := upper_parts d dLow
  rw [or_and, gone, UInt8.zero_or, whole]

theorem symbols_unpack_four {a b c d : UInt8} (aLow : a < 64) (bLow : b < 64) (cLow : c < 64)
    (dLow : d < 64) (rest : Bytes) :
    symbols ((unpack [a, b, c, d]).1 ++ rest) =
      symbol a :: symbol b :: symbol c :: symbol d :: symbols rest := by
  rw [unpack, List.cons_append, List.cons_append, List.cons_append, List.nil_append, symbols,
    first_of_joined aLow bLow, second_of_joined a bLow cLow, third_of_joined b cLow dLow,
    fourth_of_joined c dLow]

private theorem symbols_unpack_three {a b c : UInt8} (aLow : a < 64) (bLow : b < 64) (cLow : c < 64)
    (unused : c &&& 3 = 0) :
    symbols (unpack [a, b, c]).1 = [symbol a, symbol b, symbol c, padding] := by
  obtain ⟨-, goneLeft, -⟩ := lower_parts b
  obtain ⟨-, -, -, -, -, upper, -⟩ := upper_parts c cLow
  obtain ⟨-, -, -, -, -, -, whole⟩ := lower_parts c
  rw [unpack, symbols, first_of_joined aLow bLow, second_of_joined a bLow cLow, or_and, goneLeft,
    UInt8.zero_or, upper, whole unused]

private theorem symbols_unpack_two {a b : UInt8} (aLow : a < 64) (bLow : b < 64)
    (unused : b &&& 15 = 0) :
    symbols (unpack [a, b]).1 = [symbol a, symbol b, padding, padding] := by
  obtain ⟨goneLeft, -⟩ := lower_parts a
  obtain ⟨-, -, -, -, upper, -⟩ := upper_parts b bLow
  obtain ⟨-, -, -, -, -, whole, -⟩ := lower_parts b
  rw [unpack, symbols, first_of_joined aLow bLow, or_and, goneLeft, UInt8.zero_or, upper,
    whole unused]

/-- The last group consists of symbols and of padding behind them. -/
theorem of_readGroup {offset index : Nat} {group final : Group} {bytes : Bytes}
    (read : readGroup offset index group bytes = .ok final) :
    ∃ values count, bytes = values.map symbol ++ List.replicate count padding ∧
      (∀ value ∈ values, value < 64) ∧ final.values = group.values ++ values ∧
      final.pads = group.pads + count ∧ (group.pads ≠ 0 → values = []) := by
  induction bytes generalizing index group with
  | nil =>
    cases read
    exact ⟨[], 0, rfl, by simp, by simp, rfl, fun _ => rfl⟩
  | cons byte rest ih =>
    rw [readGroup] at read
    split at read
    · rename_i isPadding
      split at read
      · cases read
      · obtain ⟨values, count, rfl, low, held, pads, none⟩ := ih read
        obtain rfl := none (Nat.succ_ne_zero _)
        refine ⟨[], count + 1, ?_, by simp, held, ?_, fun _ => rfl⟩
        · simp [isPadding, List.replicate_succ]
        · simp only at pads
          omega
    · split at read
      · cases read
      · rename_i unpadded
        obtain ⟨value, symbolRead, read⟩ := bind_eq_ok.mp read
        obtain ⟨low, rfl⟩ := of_readSymbol symbolRead
        obtain ⟨values, count, rfl, others, held, pads, -⟩ := ih read
        refine ⟨value :: values, count, rfl, ?_, ?_, ?_, fun padded => absurd padded unpadded⟩
        · simpa [low] using others
        · simp [held]
        · simp only at pads
          omega

private theorem eq_symbols_of_decodeLast {offset : Nat} {bytes output : Bytes}
    (few : bytes.length ≤ 4)
    (read : decodeLast offset bytes = .ok output) : bytes = symbols output := by
  obtain ⟨group, grouped, read⟩ := bind_eq_ok.mp read
  obtain ⟨values, count, rfl, low, held, pads, -⟩ := of_readGroup grouped
  simp only [List.nil_append, Nat.zero_add] at held pads
  simp only [List.length_append, List.length_map, List.length_replicate] at few
  dsimp only at read
  rw [held, pads] at read
  split at read
  · cases read
  · rename_i enough
    split at read
    · cases read
    · rename_i aligned
      split at read
      · rename_i unused
        cases read
        match values, low, enough, aligned, few, unused with
        | [], _, enough, _, few, _ =>
          obtain rfl : count = 0 := by
            by_contra some
            exact enough ⟨by simp [some], by simp⟩
          rfl
        | [_], _, enough, _, _, _ => exact absurd ⟨by simp, by simp⟩ enough
        | [a, b], low, _, aligned, few, unused =>
          obtain rfl : count = 2 := by
            simp only [List.length_cons, List.length_nil] at aligned few
            omega
          simp only [List.forall_mem_cons] at low
          exact (symbols_unpack_two low.1 low.2.1 unused).symm
        | [a, b, c], low, _, aligned, few, unused =>
          obtain rfl : count = 1 := by
            simp only [List.length_cons, List.length_nil] at aligned few
            omega
          simp only [List.forall_mem_cons] at low
          exact (symbols_unpack_three low.1 low.2.1 low.2.2.1 unused).symm
        | [a, b, c, d], low, _, _, few, _ =>
          obtain rfl : count = 0 := by
            simp only [List.length_cons, List.length_nil] at few
            omega
          simp only [List.forall_mem_cons] at low
          have four := symbols_unpack_four low.1 low.2.1 low.2.2.1 low.2.2.2.1 []
          rw [List.append_nil] at four
          exact four.symm
        | _ :: _ :: _ :: _ :: _ :: _, _, _, _, few, _ =>
          simp only [List.length_cons] at few
          omega
      · cases read

private theorem eq_symbols_of_decodeGroups {offset : Nat} {text bytes : Bytes}
    (read : decodeGroups offset text = .ok bytes) : text = symbols bytes := by
  fun_induction decodeGroups offset text generalizing bytes with
  | case1 offset a b c d e rest ih =>
    obtain ⟨first, firstRead, read⟩ := bind_eq_ok.mp read
    obtain ⟨second, secondRead, read⟩ := bind_eq_ok.mp read
    obtain ⟨third, thirdRead, read⟩ := bind_eq_ok.mp read
    obtain ⟨fourth, fourthRead, read⟩ := bind_eq_ok.mp read
    obtain ⟨others, othersRead, read⟩ := bind_eq_ok.mp read
    cases read
    obtain ⟨firstLow, rfl⟩ := of_readSymbol firstRead
    obtain ⟨secondLow, rfl⟩ := of_readSymbol secondRead
    obtain ⟨thirdLow, rfl⟩ := of_readSymbol thirdRead
    obtain ⟨fourthLow, rfl⟩ := of_readSymbol fourthRead
    rw [symbols_unpack_four firstLow secondLow thirdLow fourthLow, ← ih othersRead]
  | case2 offset last short =>
    refine eq_symbols_of_decodeLast ?_ read
    match last, short with
    | [], _ | [_], _ | [_, _], _ | [_, _, _], _ | [_, _, _, _], _ => simp
    | a :: b :: c :: d :: e :: rest, short => exact absurd rfl (short a b c d e rest)

/-- A text is read only if it is the text of the bytes that it stands for. -/
theorem decode_eq_ok {text : String} {bytes : Bytes} :
    decode (Bytes.ofString text) = .ok bytes ↔ text = encode bytes := by
  constructor
  · intro read
    unfold decode at read
    split at read
    · cases read
    · apply Bytes.ofString_injective
      rw [eq_symbols_of_decodeGroups read]
      exact (Bytes.ofString_ascii _ (symbols_small bytes)).symm
  · rintro rfl
    exact decode_encode bytes

theorem encode_injective : Function.Injective encode := by
  intro left right same
  have read := decode_encode left
  rw [same, decode_encode] at read
  exact (Except.ok.inj read).symm

end Base64

end Keywarden
