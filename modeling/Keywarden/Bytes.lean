/-!
# Byte strings

A byte string is a list of bytes.  This module fixes the numeric readings that
the ciphers and hashes share: little- and big-endian numbers of a given width,
the exclusive or of two strings, and the cut of a string into blocks.
-/

namespace Keywarden

abbrev Bytes := List UInt8

namespace Bytes

/-- The number whose base-256 digits, least significant first, are the bytes. -/
def toNatLE : Bytes → Nat
  | [] => 0
  | byte :: rest => byte.toNat + 256 * toNatLE rest

/-- The number whose base-256 digits, most significant first, are the bytes. -/
def toNatBE (bytes : Bytes) : Nat :=
  bytes.foldl (fun acc byte => 256 * acc + byte.toNat) 0

/-- The lowest `width` base-256 digits of a number, least significant first. -/
def ofNatLE : (width : Nat) → Nat → Bytes
  | 0, _ => []
  | width + 1, value => UInt8.ofNat value :: ofNatLE width (value / 256)

/-- The lowest `width` base-256 digits of a number, most significant first. -/
def ofNatBE (width value : Nat) : Bytes :=
  (ofNatLE width value).reverse

/-- Bytewise exclusive or, as long as the shorter argument. -/
def xor (left right : Bytes) : Bytes :=
  List.zipWith (· ^^^ ·) left right

/-- `count` zero bytes. -/
def zeros (count : Nat) : Bytes :=
  List.replicate count 0

/-- Consecutive blocks of `size + 1` bytes; the last one may be shorter. -/
def blocks (size : Nat) (bytes : Bytes) : List Bytes :=
  match bytes with
  | [] => []
  | byte :: rest =>
    (byte :: rest.take size) :: blocks size (rest.drop size)
termination_by bytes.length
decreasing_by simp only [List.length_drop, List.length_cons]; omega

def ofString (text : String) : Bytes :=
  text.toByteArray.data.toList

def text? (bytes : Bytes) : Option String :=
  String.fromUTF8? ⟨bytes.toArray⟩

/-- The text whose characters are the bytes; meant for ASCII. -/
def ascii (bytes : Bytes) : String :=
  String.ofList (bytes.map fun byte => Char.ofNat byte.toNat)

/-- What holds of the 256 bytes one by one holds of every byte. -/
theorem forall_byte (Holds : UInt8 → Prop)
    (each : ∀ code : Fin 256, Holds (UInt8.ofNat code.val)) (byte : UInt8) : Holds byte := by
  have this := each ⟨byte.toNat, byte.toNat_lt⟩
  rwa [UInt8.ofNat_toNat] at this

theorem length_ofNatLE (width value : Nat) :
    (ofNatLE width value).length = width := by
  induction width generalizing value with
  | zero => rfl
  | succ width ih => simp [ofNatLE, ih]

theorem length_ofNatBE (width value : Nat) :
    (ofNatBE width value).length = width := by
  simp [ofNatBE, length_ofNatLE]

theorem length_xor (left right : Bytes) :
    (xor left right).length = min left.length right.length := by
  simp [xor]

/-- Applying the same pad twice gives back the bytes that the pad covers. -/
theorem xor_xor_cancel (bytes pad : Bytes) (covered : bytes.length ≤ pad.length) :
    xor (xor bytes pad) pad = bytes := by
  induction bytes generalizing pad with
  | nil => simp [xor]
  | cons byte rest ih =>
    cases pad with
    | nil => simp at covered
    | cons key keys =>
      have restCovered : rest.length ≤ keys.length := by simpa using covered
      have tail := ih keys restCovered
      have cancelled : byte ^^^ key ^^^ key = byte := by
        rw [UInt8.xor_assoc, UInt8.xor_self, UInt8.xor_zero]
      simp only [xor] at tail
      simp only [xor, List.zipWith_cons_cons, cancelled, tail]

/-- Encoding and reading a text gives it back. -/
theorem text?_ofString (text : String) : (ofString text).text? = some text := by
  simp [text?, ofString, String.fromUTF8?, text.isValidUTF8, String.fromUTF8]

theorem utf8EncodeChar_ascii (byte : UInt8) (small : byte < 128) :
    String.utf8EncodeChar (Char.ofNat byte.toNat) = [byte] := by
  revert small
  exact forall_byte (fun byte => byte < 128 →
    String.utf8EncodeChar (Char.ofNat byte.toNat) = [byte]) (by decide +kernel) byte

/-- The encoding of an ASCII text is the text itself. -/
theorem ofString_ascii (bytes : Bytes) (small : ∀ byte ∈ bytes, byte < 128) :
    ofString (ascii bytes) = bytes := by
  have encoded : (bytes.map fun byte => Char.ofNat byte.toNat).flatMap
      String.utf8EncodeChar = bytes := by
    induction bytes with
    | nil => rfl
    | cons byte rest ih =>
      rw [List.map_cons, List.flatMap_cons, utf8EncodeChar_ascii byte (small byte (by simp)),
        ih fun other member => small other (by simp [member])]
      rfl
  rw [ofString, ascii, String.toByteArray_ofList, List.utf8Encode, encoded,
    List.toList_data_toByteArray]

end Bytes

end Keywarden
