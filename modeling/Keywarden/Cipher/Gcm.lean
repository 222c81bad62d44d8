import Keywarden.Cipher.Aes256

/-!
# AES-256 in Galois counter mode

Authenticated encryption with nonces of twelve bytes, tags of sixteen bytes and
no associated data.  Main statements: decryption undoes encryption under the
same key and nonce, and accepts nothing else.
-/

namespace Keywarden.Cipher.Gcm

open Aes256 (Block)

/-- One bit of a product in the field with 2¹²⁸ elements: `remaining` bits of the
first factor are still to be read, from the most significant down. -/
def multiplyBits (remaining : Nat) (x v z : Nat) : Nat :=
  match remaining with
  | 0 => z
  | remaining + 1 =>
    let z := if x.testBit remaining then z ^^^ v else z
    let v := if v % 2 == 1 then (v >>> 1) ^^^ (0xe1 <<< 120) else v >>> 1
    multiplyBits remaining x v z

/-- The product in the field with 2¹²⁸ elements. -/
def multiply (x y : Nat) : Nat :=
  multiplyBits 128 x y 0

/-- A block of at most sixteen bytes as a field element, filled with zeros. -/
def element (block : Bytes) : Nat :=
  Bytes.toNatBE (block ++ Bytes.zeros (16 - block.length))

def hash (subkey : Nat) (ciphertext : Bytes) : Nat :=
  let lengths := 8 * ciphertext.length
  let elements := (Bytes.blocks 15 ciphertext).map element ++ [lengths]
  elements.foldl (fun acc x => multiply (acc ^^^ x) subkey) 0

def counter (nonce : Bytes) (number : Nat) : Block :=
  .ofBytes (nonce ++ Bytes.ofNatBE 4 number)

/-- The blocks of the key stream from counter `number` on. -/
def streamBlocks (keys : List Block) (nonce : Bytes) (count number : Nat) : Bytes :=
  match count with
  | 0 => []
  | count + 1 =>
    (Aes256.encrypt keys (counter nonce number)).toList ++
      streamBlocks keys nonce count (number + 1)

/-- The key stream for `length` bytes. -/
def stream (keys : List Block) (nonce : Bytes) (length : Nat) : Bytes :=
  (streamBlocks keys nonce ((length + 15) / 16) 2).take length

def tag (keys : List Block) (nonce ciphertext : Bytes) : Bytes :=
  let subkey := Bytes.toNatBE (Aes256.encrypt keys (Vector.replicate 16 0)).toList
  Bytes.xor (Bytes.ofNatBE 16 (hash subkey ciphertext))
    (Aes256.encrypt keys (counter nonce 1)).toList

/-- The ciphertext followed by its tag. -/
def encrypt (key nonce plaintext : Bytes) : Bytes :=
  let keys := Aes256.roundKeys key
  let ciphertext := Bytes.xor plaintext (stream keys nonce plaintext.length)
  ciphertext ++ tag keys nonce ciphertext

/-- The plaintext of a ciphertext whose last sixteen bytes are its tag. -/
def decrypt? (key nonce sealed : Bytes) : Option Bytes :=
  if sealed.length < 16 then
    none
  else
    let keys := Aes256.roundKeys key
    let ciphertext := sealed.take (sealed.length - 16)
    if sealed.drop (sealed.length - 16) = tag keys nonce ciphertext then
      some (Bytes.xor ciphertext (stream keys nonce ciphertext.length))
    else
      none

theorem length_streamBlocks (keys : List Block) (nonce : Bytes) (count number : Nat) :
    (streamBlocks keys nonce count number).length = 16 * count := by
  induction count generalizing number with
  | zero => rfl
  | succ count ih => simp [streamBlocks, ih]; omega

theorem length_stream (keys : List Block) (nonce : Bytes) (length : Nat) :
    (stream keys nonce length).length = length := by
  simp [stream, length_streamBlocks]
  omega

theorem length_tag (keys : List Block) (nonce ciphertext : Bytes) :
    (tag keys nonce ciphertext).length = 16 := by
  simp [tag, Bytes.length_xor, Bytes.length_ofNatBE]

theorem length_encrypt (key nonce plaintext : Bytes) :
    (encrypt key nonce plaintext).length = plaintext.length + 16 := by
  simp [encrypt, Bytes.length_xor, length_stream, length_tag]

/-- Decryption undoes encryption. -/
theorem decrypt?_encrypt (key nonce plaintext : Bytes) :
    decrypt? key nonce (encrypt key nonce plaintext) = some plaintext := by
  have tagLength := length_tag (Aes256.roundKeys key) nonce
    (Bytes.xor plaintext (stream (Aes256.roundKeys key) nonce plaintext.length))
  have bodyLength :
      (Bytes.xor plaintext (stream (Aes256.roundKeys key) nonce plaintext.length)).length =
        plaintext.length := by
    simp [Bytes.length_xor, length_stream]
  have cancel := Bytes.xor_xor_cancel plaintext
    (stream (Aes256.roundKeys key) nonce plaintext.length)
    (Nat.le_of_eq (length_stream _ _ _).symm)
  simp [decrypt?, encrypt, tagLength, bodyLength, cancel]

/-- Only what encryption produces is decrypted. -/
theorem eq_encrypt_of_decrypt? {key nonce sealed plaintext : Bytes}
    (opened : decrypt? key nonce sealed = some plaintext) :
    sealed = encrypt key nonce plaintext := by
  unfold decrypt? at opened
  split at opened
  · cases opened
  · rename_i long
    simp only at opened
    split at opened
    · rename_i tagMatches
      cases opened
      have cancel := Bytes.xor_xor_cancel (sealed.take (sealed.length - 16))
        (stream (Aes256.roundKeys key) nonce (sealed.take (sealed.length - 16)).length)
        (Nat.le_of_eq (length_stream _ _ _).symm)
      simp only [encrypt, Bytes.length_xor, length_stream, Nat.min_self, cancel]
      rw [← tagMatches, List.take_append_drop]
    · cases opened

end Keywarden.Cipher.Gcm
