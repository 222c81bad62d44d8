import Keywarden.Json.Reader
import Mathlib.Data.List.TakeDrop
import Mathlib.Data.List.TakeWhile

/-!
# Tokens of documents

White space, strings and numbers, said without a reader, and that the reader takes exactly these.
A number needs to know what follows: its digits go on as long as they can.
-/

namespace Keywarden.Json

open Reader (isBlank isDigit isHexDigit isSimpleEscape skipBlank readString readDigits readWhole
  readFraction readSign readExponent readMagnitude readNumber)

/-! ### White space -/

/-- The input is the rest after white space. -/
inductive Gap : Bytes → Bytes → Prop
  | nil {rest : Bytes} : Gap rest rest
  | cons {byte : UInt8} {input rest : Bytes} (blank : isBlank byte = true) (more : Gap input rest) :
      Gap (byte :: input) rest

theorem gap_skipBlank (input : Bytes) : Gap input (skipBlank input) := by
  induction input with
  | nil => exact .nil
  | cons byte input ih =>
    cases blank : isBlank byte with
    | true =>
      rw [skipBlank, List.dropWhile_cons_of_pos blank]
      exact .cons blank ih
    | false =>
      rw [skipBlank, List.dropWhile_cons_of_neg (by simp [blank])]
      exact .nil

private theorem skipBlank_cons {first : UInt8} (visible : isBlank first = false) (rest : Bytes) :
    skipBlank (first :: rest) = first :: rest := by
  simp [skipBlank, visible]

theorem Gap.skipBlank_eq {input rest : Bytes} (gap : Gap input rest) :
    skipBlank input = skipBlank rest := by
  induction gap with
  | nil => rfl
  | cons blank more ih =>
    rw [skipBlank, List.dropWhile_cons_of_pos blank]
    exact ih

/-- A byte that is not white space ends it. -/
theorem Gap.skip {input rest : Bytes} {first : UInt8} (gap : Gap input (first :: rest))
    (visible : isBlank first = false) : skipBlank input = first :: rest := by
  rw [gap.skipBlank_eq, skipBlank_cons visible]

theorem Gap.length_le {input rest : Bytes} (gap : Gap input rest) :
    rest.length ≤ input.length := by
  induction gap with
  | nil => exact Nat.le_refl _
  | cons blank more ih => exact Nat.le_succ_of_le ih

theorem Gap.length_lt {input rest : Bytes} {byte : UInt8} (gap : Gap input (byte :: rest)) :
    rest.length < input.length :=
  gap.length_le

/-! ### Strings -/

/-- The bytes that may stand between quotation marks. -/
inductive Inscription : Bytes → Prop
  | nil : Inscription []
  | plain {byte : UInt8} {raw : Bytes} (printable : ¬ byte < 32) (notQuote : byte ≠ 34)
      (notBackslash : byte ≠ 92) (more : Inscription raw) : Inscription (byte :: raw)
  | sign {sign : UInt8} {raw : Bytes} (known : isSimpleEscape sign = true)
      (more : Inscription raw) : Inscription (92 :: sign :: raw)
  | number {a b c d : UInt8} {raw : Bytes}
      (digits : ∀ digit ∈ [a, b, c, d], isHexDigit digit = true)
      (more : Inscription raw) : Inscription (92 :: 117 :: a :: b :: c :: d :: raw)

theorem Inscription.read {raw : Bytes} (inscription : Inscription raw) (rest : Bytes) :
    readString (raw ++ 34 :: rest) = some (raw, rest) := by
  induction inscription with
  | nil => rfl
  | plain printable notQuote notBackslash more ih =>
    simp [readString, printable, notBackslash, ih]
  | sign known more ih =>
    rename_i sign raw
    have notNumber : sign ≠ 117 := by
      rintro rfl
      exact absurd known (by decide)
    simp [readString, notNumber, known, ih]
  | number digits more ih =>
    simp only [List.mem_cons, List.not_mem_nil, or_false, forall_eq_or_imp, forall_eq] at digits
    simp [readString, digits, ih]

theorem inscription_of_readString {input raw rest : Bytes}
    (read : readString input = some (raw, rest)) :
    Inscription raw ∧ input = raw ++ 34 :: rest := by
  fun_induction readString input generalizing raw rest with
  | case2 after =>
    cases read
    exact ⟨.nil, rfl⟩
  | case3 a b c d after digits raw' rest' inner ih =>
    cases read
    obtain ⟨inscription, same⟩ := ih inner
    simp only [Bool.and_eq_true] at digits
    refine ⟨.number ?_ inscription, by rw [same]; rfl⟩
    simp [digits]
  | case6 sign after notNumber known raw' rest' inner ih =>
    cases read
    obtain ⟨inscription, same⟩ := ih inner
    exact ⟨.sign known inscription, by rw [same]; rfl⟩
  | case10 byte after notQuote _ _ plain raw' rest' inner ih =>
    cases read
    obtain ⟨inscription, same⟩ := ih inner
    simp only [Bool.or_eq_true, decide_eq_true_eq, beq_iff_eq, not_or] at plain
    exact ⟨.plain plain.1 notQuote plain.2 inscription, by rw [same]; rfl⟩
  | _ => cases read

/-! ### Digits -/

def Digits (digits : Bytes) : Prop :=
  digits ≠ [] ∧ ∀ byte ∈ digits, isDigit byte = true

def NoDigit (rest : Bytes) : Prop :=
  ∀ byte ∈ rest.head?, isDigit byte = false

private theorem span_digits {digits rest : Bytes} (all : ∀ byte ∈ digits, isDigit byte = true)
    (ends : NoDigit rest) : (digits ++ rest).span isDigit = (digits, rest) := by
  have stops : rest.takeWhile isDigit = [] ∧ rest.dropWhile isDigit = rest := by
    cases rest with
    | nil => exact ⟨rfl, rfl⟩
    | cons byte rest => simp [ends byte (by simp)]
  rw [List.span_eq_takeWhile_dropWhile, List.takeWhile_append_of_pos all,
    List.dropWhile_append_of_pos all, stops.1, stops.2, List.append_nil]

theorem Digits.read {digits rest : Bytes} (run : Digits digits) (ends : NoDigit rest) :
    readDigits (digits ++ rest) = some (digits, rest) := by
  rw [readDigits, span_digits run.2 ends]
  cases digits with
  | nil => exact absurd rfl run.1
  | cons digit digits => rfl

theorem digits_of_readDigits {input digits rest : Bytes}
    (read : readDigits input = some (digits, rest)) :
    Digits digits ∧ input = digits ++ rest ∧ NoDigit rest := by
  have ends : NoDigit (input.dropWhile isDigit) := fun byte first => by
    have left := List.head?_dropWhile_not isDigit input
    rw [Option.mem_def.mp first] at left
    simpa using left
  have whole := List.takeWhile_append_dropWhile (p := isDigit) (l := input)
  rw [readDigits, List.span_eq_takeWhile_dropWhile] at read
  split at read
  · cases read
  · rename_i taken left notEmpty spanned
    cases read
    cases spanned
    exact ⟨⟨notEmpty, fun byte member => List.mem_takeWhile_imp member⟩, whole.symm, ends⟩

/-! ### Numbers -/

/-- The digits before the point: a zero alone, or digits that start otherwise. -/
def Whole (digits : Bytes) : Prop :=
  Digits digits ∧ (digits.head? = some 48 → digits = [48])

/-- A point and the digits after it, or neither. -/
inductive Fraction : Option Bytes → Bytes → Prop
  | absent : Fraction none []
  | present {digits : Bytes} (run : Digits digits) : Fraction (some digits) (46 :: digits)

/-- The sign of an exponent, which may be missing. -/
inductive Sign : Bool → Bytes → Prop
  | minus : Sign true [45]
  | plus : Sign false [43]
  | missing : Sign false []

inductive Exponent : Option (Bool × Bytes) → Bytes → Prop
  | absent : Exponent none []
  | present {letter : UInt8} {isNegative : Bool} {sign digits : Bytes}
      (known : letter = 101 ∨ letter = 69) (signed : Sign isNegative sign) (run : Digits digits) :
      Exponent (some (isNegative, digits)) (letter :: (sign ++ digits))

/-- A number without its minus. -/
inductive Magnitude (isNegative : Bool) : NumberText → Bytes → Prop
  | mk {whole fractionBytes exponentBytes : Bytes} {fraction : Option Bytes}
      {exponent : Option (Bool × Bytes)} (isWhole : Whole whole)
      (isFraction : Fraction fraction fractionBytes)
      (isExponent : Exponent exponent exponentBytes) :
      Magnitude isNegative ⟨isNegative, whole, fraction, exponent⟩
        (whole ++ (fractionBytes ++ exponentBytes))

/-- A number as it may be written. -/
inductive Numeral : NumberText → Bytes → Prop
  | negative {text : NumberText} {bytes : Bytes} (magnitude : Magnitude true text bytes) :
      Numeral text (45 :: bytes)
  | positive {text : NumberText} {bytes : Bytes} (magnitude : Magnitude false text bytes) :
      Numeral text bytes

/-- What follows does not prolong a number. -/
structure Ends (rest : Bytes) : Prop where
  noDigit : NoDigit rest
  noPoint : rest.head? ≠ some 46
  noLetter : ∀ byte ∈ rest.head?, ¬ (byte = 101 ∨ byte = 69)

theorem ends_nil : Ends [] :=
  ⟨nofun, nofun, nofun⟩

theorem ends_cons {byte : UInt8}
    (known : byte = 44 ∨ byte = 93 ∨ byte = 125 ∨ isBlank byte = true) (rest : Bytes) :
    Ends (byte :: rest) := by
  have quiet : ∀ byte : UInt8,
      byte = 44 ∨ byte = 93 ∨ byte = 125 ∨ isBlank byte = true →
        isDigit byte = false ∧ byte ≠ 46 ∧ ¬ (byte = 101 ∨ byte = 69) :=
    Bytes.forall_byte _ (by decide +kernel)
  obtain ⟨noDigit, noPoint, noLetter⟩ := quiet byte known
  constructor
  · rintro _ ⟨⟩
    exact noDigit
  · rintro ⟨⟩
    exact noPoint rfl
  · rintro _ ⟨⟩
    exact noLetter

theorem Gap.ends {input rest : Bytes} (gap : Gap input rest) (ends : Ends rest) : Ends input := by
  cases gap with
  | nil => exact ends
  | cons blank more => exact ends_cons (.inr (.inr (.inr blank))) _

theorem Whole.read {digits rest : Bytes} (whole : Whole digits) (ends : NoDigit rest) :
    readWhole (digits ++ rest) = some (digits, rest) := by
  obtain ⟨run, zero⟩ := whole
  by_cases leading : digits.head? = some 48
  · rw [zero leading]
    cases rest with
    | nil => rfl
    | cons byte rest => simp [readWhole, ends byte (by simp)]
  · rw [readWhole]
    · exact run.read ends
    · intro others same
      obtain ⟨first, digits, rfl⟩ := List.exists_cons_of_ne_nil run.1
      exact leading (congrArg some (List.cons.inj same).1)

private theorem whole_of_readWhole {input digits rest : Bytes}
    (read : readWhole input = some (digits, rest)) :
    Whole digits ∧ input = digits ++ rest ∧ NoDigit rest := by
  unfold readWhole at read
  split at read
  · have zero : Whole [48] := ⟨⟨by simp, by simp; rfl⟩, fun _ => rfl⟩
    split at read
    · split at read
      · cases read
      · rename_i notDigit
        cases read
        refine ⟨zero, rfl, fun byte first => ?_⟩
        cases Option.mem_some_iff.mp first
        simpa using notDigit
    · cases read
      exact ⟨zero, rfl, nofun⟩
  · rename_i notZero
    obtain ⟨run, same, ends⟩ := digits_of_readDigits read
    refine ⟨⟨run, fun leading => ?_⟩, same, ends⟩
    cases digits with
    | nil => cases leading
    | cons first digits =>
      cases Option.some.inj leading
      exact absurd same (notZero _)

theorem Fraction.read {fraction : Option Bytes} {bytes rest : Bytes}
    (isFraction : Fraction fraction bytes) (ends : NoDigit rest)
    (noPoint : rest.head? ≠ some 46) : readFraction (bytes ++ rest) = some (fraction, rest) := by
  cases isFraction with
  | absent =>
    rw [List.nil_append, readFraction]
    rintro others rfl
    exact noPoint rfl
  | present run =>
    rw [List.cons_append, readFraction, run.read ends]

private theorem fraction_of_readFraction {input rest : Bytes} {fraction : Option Bytes}
    (read : readFraction input = some (fraction, rest)) :
    ∃ bytes, Fraction fraction bytes ∧ input = bytes ++ rest := by
  unfold readFraction at read
  split at read
  · split at read
    · rename_i found
      cases read
      obtain ⟨run, same, -⟩ := digits_of_readDigits found
      exact ⟨_, .present run, by rw [same]; rfl⟩
    · cases read
  · cases read
    exact ⟨[], .absent, rfl⟩

theorem Exponent.read {exponent : Option (Bool × Bytes)} {bytes rest : Bytes}
    (isExponent : Exponent exponent bytes) (ends : Ends rest) :
    readExponent (bytes ++ rest) = some (exponent, rest) := by
  cases isExponent with
  | absent =>
    cases rest with
    | nil => rfl
    | cons byte rest =>
      have other := ends.noLetter byte rfl
      simp only [List.nil_append, readExponent, if_neg other]
  | @present letter isNegative sign digits known signed run =>
    have signRead : readSign (sign ++ digits ++ rest) = (isNegative, digits ++ rest) := by
      cases signed with
      | minus => rfl
      | plus => rfl
      | missing =>
        obtain ⟨first, others, rfl⟩ := List.exists_cons_of_ne_nil run.1
        have isDigit := run.2 first (by simp)
        rw [List.nil_append, List.cons_append, readSign]
        · rintro others same
          cases (List.cons.inj same).1
          exact absurd isDigit (by decide)
        · rintro others same
          cases (List.cons.inj same).1
          exact absurd isDigit (by decide)
    simp only [List.cons_append, readExponent, if_pos known, signRead, run.read ends.noDigit]

private theorem sign_of_readSign (input : Bytes) :
    ∃ bytes, Sign (readSign input).1 bytes ∧ input = bytes ++ (readSign input).2 := by
  unfold readSign
  split
  · exact ⟨_, .minus, rfl⟩
  · exact ⟨_, .plus, rfl⟩
  · exact ⟨_, .missing, rfl⟩

private theorem exponent_of_readExponent {input rest : Bytes} {exponent : Option (Bool × Bytes)}
    (read : readExponent input = some (exponent, rest)) :
    ∃ bytes, Exponent exponent bytes ∧ input = bytes ++ rest := by
  unfold readExponent at read
  split at read
  · rename_i letter input
    split at read
    · rename_i known
      obtain ⟨sign, signed, same⟩ := sign_of_readSign input
      dsimp only at read
      split at read
      · rename_i found
        cases read
        obtain ⟨run, digits, -⟩ := digits_of_readDigits found
        exact ⟨_, .present known signed run, by rw [same, digits]; simp⟩
      · cases read
    · cases read
      exact ⟨[], .absent, rfl⟩
  · cases read
    exact ⟨[], .absent, rfl⟩

/-- After the digits before the point comes no digit, and after those behind it neither. -/
theorem Fraction.noDigit {fraction : Option Bytes} {exponent : Option (Bool × Bytes)}
    {first second rest : Bytes} (isFraction : Fraction fraction first)
    (isExponent : Exponent exponent second) (ends : Ends rest) :
    NoDigit (first ++ (second ++ rest)) ∧ NoDigit (second ++ rest) ∧
      (second ++ rest).head? ≠ some 46 := by
  have later : NoDigit (second ++ rest) ∧ (second ++ rest).head? ≠ some 46 := by
    cases isExponent with
    | absent => exact ⟨ends.noDigit, ends.noPoint⟩
    | present known signed run =>
      rcases known with rfl | rfl
      · exact ⟨fun byte head => by cases head; rfl, nofun⟩
      · exact ⟨fun byte head => by cases head; rfl, nofun⟩
  refine ⟨?_, later⟩
  cases isFraction with
  | absent => exact later.1
  | present run => exact fun byte head => by cases head; rfl

theorem Magnitude.read {isNegative : Bool} {text : NumberText} {bytes rest : Bytes}
    (magnitude : Magnitude isNegative text bytes) (ends : Ends rest) :
    readMagnitude isNegative (bytes ++ rest) = some (text, rest) := by
  obtain ⟨isWhole, isFraction, isExponent⟩ := magnitude
  obtain ⟨afterWhole, afterFraction, noPoint⟩ := isFraction.noDigit isExponent ends
  simp only [List.append_assoc, readMagnitude, isWhole.read afterWhole,
    isFraction.read afterFraction noPoint, isExponent.read ends]

private theorem magnitude_of_readMagnitude {isNegative : Bool} {text : NumberText}
    {input rest : Bytes} (read : readMagnitude isNegative input = some (text, rest)) :
    ∃ bytes, Magnitude isNegative text bytes ∧ input = bytes ++ rest := by
  unfold readMagnitude at read
  split at read
  · cases read
  · rename_i wholeRead
    split at read
    · cases read
    · rename_i fractionRead
      split at read
      · cases read
      · rename_i exponentRead
        cases read
        obtain ⟨isWhole, rfl, -⟩ := whole_of_readWhole wholeRead
        obtain ⟨_, isFraction, rfl⟩ := fraction_of_readFraction fractionRead
        obtain ⟨_, isExponent, rfl⟩ := exponent_of_readExponent exponentRead
        exact ⟨_, .mk isWhole isFraction isExponent, by simp⟩

theorem Magnitude.cons {isNegative : Bool} {text : NumberText} {bytes : Bytes}
    (magnitude : Magnitude isNegative text bytes) :
    ∃ first others, bytes = first :: others ∧ isDigit first = true := by
  obtain ⟨isWhole, isFraction, isExponent⟩ := magnitude
  obtain ⟨first, others, rfl⟩ := List.exists_cons_of_ne_nil isWhole.1.1
  exact ⟨first, _, rfl, isWhole.1.2 first (by simp)⟩

theorem Numeral.read {text : NumberText} {bytes rest : Bytes} (numeral : Numeral text bytes)
    (ends : Ends rest) : readNumber (bytes ++ rest) = some (text, rest) := by
  cases numeral with
  | negative magnitude => exact magnitude.read ends
  | positive magnitude =>
    have read := magnitude.read ends
    obtain ⟨first, others, rfl, isDigit⟩ := magnitude.cons
    rw [readNumber]
    · exact read
    · intro others same
      cases (List.cons.inj same).1
      exact absurd isDigit (by decide)

theorem numeral_of_readNumber {text : NumberText} {input rest : Bytes}
    (read : readNumber input = some (text, rest)) :
    ∃ bytes, Numeral text bytes ∧ input = bytes ++ rest := by
  unfold readNumber at read
  split at read
  · obtain ⟨bytes, magnitude, rfl⟩ := magnitude_of_readMagnitude read
    exact ⟨_, .negative magnitude, rfl⟩
  · obtain ⟨bytes, magnitude, rfl⟩ := magnitude_of_readMagnitude read
    exact ⟨_, .positive magnitude, rfl⟩

/-- A number starts with a digit or with a minus. -/
theorem Numeral.cons {text : NumberText} {bytes : Bytes} (numeral : Numeral text bytes) :
    ∃ first others, bytes = first :: others ∧ (first = 45 ∨ isDigit first = true) := by
  cases numeral with
  | negative magnitude => exact ⟨45, _, rfl, .inl rfl⟩
  | positive magnitude =>
    obtain ⟨first, others, same, isDigit⟩ := magnitude.cons
    exact ⟨first, others, same, .inr isDigit⟩

end Keywarden.Json
