import Keywarden.Bytes

/-!
# Hexadecimal text

Two digits a byte, the more significant first.  Writing uses the lower case;
reading takes either.  Main statement: reading what was written gives the bytes.
-/

namespace Keywarden.Hex

/-- Why a text is not hexadecimal. -/
inductive Fault
  | oddLength
  | invalidDigit (byte : UInt8) (index : Nat)
deriving DecidableEq, Repr

def digit (value : UInt8) : UInt8 :=
  if value < 10 then 48 + value else 87 + value

def digitValue? (byte : UInt8) : Option UInt8 :=
  if 48 ≤ byte ∧ byte ≤ 57 then some (byte - 48)
  else if 97 ≤ byte ∧ byte ≤ 102 then some (byte - 87)
  else if 65 ≤ byte ∧ byte ≤ 70 then some (byte - 55)
  else none

def digits : Bytes → Bytes
  | [] => []
  | byte :: rest => digit (byte >>> 4) :: digit (byte &&& 15) :: digits rest

/-- The lower-case hexadecimal text of a byte string. -/
def encode (bytes : Bytes) : String :=
  Bytes.ascii (digits bytes)

/-- The value of the digit at a position. -/
def readDigit (byte : UInt8) (index : Nat) : Except Fault UInt8 :=
  match digitValue? byte with
  | some value => .ok value
  | none => .error (.invalidDigit byte index)

def readPairs (index : Nat) : Bytes → Except Fault Bytes
  | high :: low :: rest => do
    let first ← readDigit high index
    let second ← readDigit low (index + 1)
    let others ← readPairs (index + 2) rest
    return (first <<< 4 ||| second) :: others
  | _ => .ok []

/-- The bytes that a text, given in UTF-8, writes; an odd length is noticed
before any wrong digit. -/
def decode (text : Bytes) : Except Fault Bytes :=
  if text.length % 2 = 1 then .error .oddLength else readPairs 0 text

theorem length_digits (bytes : Bytes) : (digits bytes).length = 2 * bytes.length := by
  induction bytes with
  | nil => rfl
  | cons byte rest ih => simp [digits, ih]; omega

theorem digit_small (value : UInt8) (low : value < 16) : digit value < 128 := by
  revert low
  exact Bytes.forall_byte (fun value => value < 16 → digit value < 128)
    (by decide +kernel) value

theorem high_low (byte : UInt8) :
    byte >>> 4 < 16 ∧ byte &&& 15 < 16 ∧ (byte >>> 4) <<< 4 ||| (byte &&& 15) = byte :=
  Bytes.forall_byte (fun byte => byte >>> 4 < 16 ∧ byte &&& 15 < 16 ∧
    (byte >>> 4) <<< 4 ||| (byte &&& 15) = byte) (by decide +kernel) byte

theorem digitValue?_digit (value : UInt8) (low : value < 16) :
    digitValue? (digit value) = some value := by
  revert low
  exact Bytes.forall_byte
    (fun value => value < 16 → digitValue? (digit value) = some value)
    (by decide +kernel) value

theorem digits_small (bytes : Bytes) : ∀ byte ∈ digits bytes, byte < 128 := by
  induction bytes with
  | nil => simp [digits]
  | cons byte rest ih =>
    obtain ⟨high, low, _⟩ := high_low byte
    simp only [digits, List.mem_cons]
    rintro other (rfl | rfl | member)
    · exact digit_small _ high
    · exact digit_small _ low
    · exact ih other member

theorem ofString_encode (bytes : Bytes) : Bytes.ofString (encode bytes) = digits bytes :=
  Bytes.ofString_ascii _ (digits_small bytes)

theorem readPairs_digits (index : Nat) (bytes : Bytes) :
    readPairs index (digits bytes) = .ok bytes := by
  induction bytes generalizing index with
  | nil => rfl
  | cons byte rest ih =>
    obtain ⟨high, low, join⟩ := high_low byte
    simp [digits, readPairs, readDigit, digitValue?_digit _ high, digitValue?_digit _ low,
      ih, join, bind, Except.bind, pure, Except.pure]

/-- Reading the text of a byte string gives the bytes. -/
theorem decode_encode (bytes : Bytes) :
    decode (Bytes.ofString (encode bytes)) = .ok bytes := by
  simp [decode, ofString_encode, length_digits, readPairs_digits]

end Keywarden.Hex
