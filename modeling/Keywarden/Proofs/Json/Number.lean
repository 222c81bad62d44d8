import Keywarden.Json.Printer
import Keywarden.Json.Shape
import Keywarden.Proofs.Json.Token

/-!
# Whole numbers in documents

The digits of a whole number are read back digit by digit: the reader of documents takes
all of them and nothing else, and what they stand for is the number.
-/

namespace Keywarden.Json

open Reader (isDigit)

/-! ### Decimal digits -/

theorem natDigits_of_lt {value : Nat} (low : value < 10) :
    natDigits value = [UInt8.ofNat (48 + value)] := by
  have each : ∀ digit : Fin 10, natDigits digit.val = [UInt8.ofNat (48 + digit.val)] := by
    decide +kernel
  exact each ⟨value, low⟩

/-- All digits but the last one are those of the tenth part. -/
theorem natDigits_of_le {value : Nat} (high : 10 ≤ value) :
    natDigits value = natDigits (value / 10) ++ [UInt8.ofNat (48 + value % 10)] := by
  have split : Nat.toDigits 10 value =
      Nat.toDigits 10 (value / 10) ++ Nat.toDigits 10 (value % 10) := by
    rw [Nat.toDigits_append_toDigits (by omega) (by omega) (by omega),
      Nat.div_add_mod value 10]
  rw [natDigits, split, List.map_append]
  have last : value % 10 < 10 := by omega
  rw [← natDigits_of_lt last]
  rfl

/-- A property of digit strings that holds of single digits and survives a further digit
after a number above zero holds of all decimal digits. -/
theorem natDigits_induction (Holds : Nat → Bytes → Prop)
    (single : ∀ digit < 10, Holds digit [UInt8.ofNat (48 + digit)])
    (more : ∀ front digit, 0 < front → digit < 10 → Holds front (natDigits front) →
      Holds (10 * front + digit) (natDigits front ++ [UInt8.ofNat (48 + digit)]))
    (value : Nat) : Holds value (natDigits value) := by
  induction value using Nat.strongRecOn with
  | ind value ih =>
    by_cases low : value < 10
    · rw [natDigits_of_lt low]
      exact single value low
    · rw [natDigits_of_le (by omega)]
      have step := more (value / 10) (value % 10) (by omega) (by omega)
        (ih (value / 10) (by omega))
      rwa [Nat.div_add_mod value 10] at step

private theorem isDigit_ofNat {digit : Nat} (low : digit < 10) :
    isDigit (UInt8.ofNat (48 + digit)) = true := by
  have each : ∀ digit : Fin 10, isDigit (UInt8.ofNat (48 + digit.val)) = true := by decide
  exact each ⟨digit, low⟩

theorem digitValue_ofNat {digit : Nat} (low : digit < 10) :
    Number.digitValue (UInt8.ofNat (48 + digit)) = digit := by
  have each : ∀ digit : Fin 10,
      Number.digitValue (UInt8.ofNat (48 + digit.val)) = digit.val := by decide
  exact each ⟨digit, low⟩

private theorem natDigits_isDigit (value : Nat) :
    ∀ byte ∈ natDigits value, isDigit byte = true := by
  refine natDigits_induction (fun _ digits => ∀ byte ∈ digits, isDigit byte = true)
    ?_ ?_ value
  · intro digit low byte member
    rw [List.mem_singleton.mp member]
    exact isDigit_ofNat low
  · intro front digit _ low holds byte member
    rcases List.mem_append.mp member with inFront | last
    · exact holds byte inFront
    · rw [List.mem_singleton.mp last]
      exact isDigit_ofNat low

/-- Zero alone starts with the digit zero. -/
theorem natDigits_cons (value : Nat) :
    ∃ first rest, natDigits value = first :: rest ∧ (first = 48 → rest = []) := by
  have strong : ∃ first rest, natDigits value = first :: rest ∧
      (first = 48 → rest = [] ∧ value = 0) := by
    refine natDigits_induction (fun value digits => ∃ first rest, digits = first :: rest ∧
      (first = 48 → rest = [] ∧ value = 0)) ?_ ?_ value
    · intro digit low
      refine ⟨_, [], rfl, fun isZero => ⟨rfl, ?_⟩⟩
      have meant := digitValue_ofNat low
      rw [isZero] at meant
      exact meant.symm
    · rintro front digit positive low ⟨first, rest, digits, zero⟩
      refine ⟨first, rest ++ [UInt8.ofNat (48 + digit)], by rw [digits, List.cons_append], ?_⟩
      intro isZero
      have frontZero := (zero isZero).2
      omega
  obtain ⟨first, rest, digits, zero⟩ := strong
  exact ⟨first, rest, digits, fun isZero => (zero isZero).1⟩

/-- However a number was written, the printer has a spelling of it. -/
theorem Magnitude.numeral_toBytes {isNegative : Bool} {text : NumberText} {bytes : Bytes}
    (magnitude : Magnitude isNegative text bytes) : Numeral text text.toBytes := by
  obtain ⟨isWhole, isFraction, isExponent⟩ := magnitude
  rename_i whole _ _ fraction exponent
  have numeral {first second : Bytes} (isFraction : Fraction fraction first)
      (isExponent : Exponent exponent second) :
      Numeral ⟨isNegative, whole, fraction, exponent⟩
        ((if isNegative then [45] else []) ++ (whole ++ (first ++ second))) := by
    cases isNegative with
    | true => exact .negative (.mk isWhole isFraction isExponent)
    | false => exact .positive (.mk isWhole isFraction isExponent)
  have sign (isNegative : Bool) : Sign isNegative [if isNegative then 45 else 43] := by
    cases isNegative with
    | true => exact .minus
    | false => exact .plus
  cases isFraction with
  | absent =>
    cases isExponent with
    | absent => simpa [NumberText.toBytes] using numeral .absent .absent
    | present known signed run =>
      simpa [NumberText.toBytes] using numeral .absent (.present (.inl rfl) (sign _) run)
  | present digits =>
    cases isExponent with
    | absent => simpa [NumberText.toBytes] using numeral (.present digits) .absent
    | present known signed run =>
      simpa [NumberText.toBytes] using numeral (.present digits) (.present (.inl rfl) (sign _) run)

theorem Numeral.toBytes {text : NumberText} {bytes : Bytes} (numeral : Numeral text bytes) :
    Numeral text text.toBytes := by
  cases numeral with
  | negative magnitude => exact magnitude.numeral_toBytes
  | positive magnitude => exact magnitude.numeral_toBytes

/-- A whole number is written as its digits. -/
theorem numeral_natDigits (isNegative : Bool) (value : Nat) :
    Numeral ⟨isNegative, natDigits value, none, none⟩
      (⟨isNegative, natDigits value, none, none⟩ : NumberText).toBytes := by
  obtain ⟨first, rest, digits, zero⟩ := natDigits_cons value
  have whole : Whole (natDigits value) := by
    refine ⟨⟨by simp [digits], natDigits_isDigit value⟩, fun leading => ?_⟩
    rw [digits] at leading ⊢
    cases Option.some.inj leading
    rw [zero rfl]
  exact (show Magnitude isNegative _ _ from .mk whole .absent .absent).numeral_toBytes

/-! ### What the digits stand for -/

private theorem take_ofNat {value digit taken : Nat} (low : digit < 10)
    (fits : 10 * value + digit < UInt64.size) :
    Number.Intake.take ⟨value, 0, taken⟩ (UInt8.ofNat (48 + digit)) =
      ⟨10 * value + digit, 0, taken + 1⟩ := by
  simp only [Number.Intake.take, digitValue_ofNat low]
  rw [if_neg (by omega)]

theorem intake_natDigits (value : Nat) (fits : value < UInt64.size) :
    Number.Intake.of 0 (natDigits value) = ⟨value, 0, (natDigits value).length⟩ := by
  revert fits
  refine natDigits_induction (fun value digits => value < UInt64.size →
    Number.Intake.of 0 digits = ⟨value, 0, digits.length⟩) ?_ ?_ value
  · intro digit low fits
    rw [Number.Intake.of, List.foldl_cons, List.foldl_nil, take_ofNat low (by omega)]
    simp
  · intro front digit _ low holds fits
    have before := holds (by omega)
    rw [Number.Intake.of] at before ⊢
    rw [List.foldl_append, before, List.foldl_cons, List.foldl_nil, take_ofNat low fits,
      List.length_append, List.length_singleton]

/-- A negative number of 32 bits is what its document stands for. -/
theorem head_ofInt_negative {value : Int} (fits : value.natAbs < UInt32.size)
    (negative : value < 0) : (Value.ofInt value).head = .ok (.number (.negative value)) := by
  have small : UInt32.size = 4294967296 := rfl
  have size : UInt64.size = 18446744073709551616 := rfl
  have taken := intake_natDigits value.natAbs (by omega)
  have inRange : ¬ (value = 0 ∨ UInt64.size / 2 < value.natAbs) := by omega
  have read : (Value.ofInt value).head = .ok (.number (.negative (-(value.natAbs : Int)))) := by
    simp [Value.ofInt, Value.head, askNumber, Number.ofText?, taken, negative, inRange,
      Except.map]
  have meant : -(value.natAbs : Int) = value := by omega
  rw [read, meant]

theorem head_ofInt_natural {value : Int} (fits : value.natAbs < UInt64.size)
    (natural : ¬ value < 0) :
    (Value.ofInt value).head = .ok (.number (.unsigned value.natAbs)) := by
  have taken := intake_natDigits value.natAbs fits
  simp [Value.ofInt, Value.head, askNumber, Number.ofText?, taken, natural, Except.map]

theorem wantInteger_ofInt {least greatest value : Int} (expected : String)
    (fits : value.natAbs < UInt32.size) (low : least ≤ value) (high : value ≤ greatest) :
    ((Value.ofInt value).head >>= wantInteger least greatest expected) = .ok value := by
  by_cases negative : value < 0
  · rw [head_ofInt_negative fits negative]
    simp [wantInteger, low, high, bind, Except.bind]
  · have small : UInt32.size = 4294967296 := rfl
    have size : UInt64.size = 18446744073709551616 := rfl
    rw [head_ofInt_natural (by omega) negative]
    have meant : (value.natAbs : Int) = value := by omega
    simp only [wantInteger, bind, Except.bind, meant, low, high, and_self, if_true]

theorem wantInt32_ofInt (value : Int32) :
    ((Value.ofInt value.toInt).head >>= wantInt32) = .ok value := by
  have low := value.le_toInt
  have high := value.toInt_lt
  have size : UInt32.size = 4294967296 := rfl
  have read := wantInteger_ofInt "i32" (by omega) value.minValue_le_toInt value.toInt_le
  cases asked : (Value.ofInt value.toInt).head with
  | error mismatch => simp [asked, bind, Except.bind] at read
  | ok head =>
    rw [asked] at read
    change (wantInteger _ _ "i32" head).map Int32.ofInt = .ok value
    change wantInteger _ _ "i32" head = .ok value.toInt at read
    rw [read, Except.map, Int32.ofInt_toInt]

theorem wantUInt32_ofInt (value : UInt32) :
    ((Value.ofInt value.toNat).head >>= wantUInt32) = .ok value := by
  have fits := value.toNat_lt
  have size : UInt32.size = 4294967296 := rfl
  have low : (0 : Int) ≤ (value.toNat : Int) := by omega
  have high : (value.toNat : Int) ≤ UInt32.size - 1 := by omega
  have read := wantInteger_ofInt "u32" (by omega) low high
  cases asked : (Value.ofInt value.toNat).head with
  | error mismatch => simp [asked, bind, Except.bind] at read
  | ok head =>
    rw [asked] at read
    change (wantInteger _ _ "u32" head).map _ = .ok value
    change wantInteger _ _ "u32" head = .ok (value.toNat : Int) at read
    rw [read, Except.map, Int.toNat_natCast, UInt32.ofNat_toNat]

end Keywarden.Json
