import Keywarden.Cipher.Salsa20

/-!
# Secret boxes

XSalsa20 with the one-time authenticator Poly1305.  The first 32 bytes of the
key stream are the authenticator's key; the box is the tag followed by the
ciphertext.  Main statements: opening undoes closing, and opens nothing else.
-/

namespace Keywarden.Cipher.SecretBox

def modulus : Nat :=
  Nat.pow 2 130 - 5

/-- The Poly1305 tag of a message under a one-time key of 32 bytes. -/
def authenticate (key message : Bytes) : Bytes :=
  let point := Bytes.toNatLE (key.take 16) &&& 0x0ffffffc0ffffffc0ffffffc0fffffff
  let offset := Bytes.toNatLE (key.drop 16)
  let sum := (Bytes.blocks 15 message).foldl
    (fun acc block => (acc + Bytes.toNatLE (block ++ [1])) * point % modulus) 0
  Bytes.ofNatLE 16 (sum + offset)

def close (key nonce payload : Bytes) : Bytes :=
  let stream := Salsa20.extendedStream key nonce (32 + payload.length)
  let ciphertext := Bytes.xor payload (stream.drop 32)
  authenticate (stream.take 32) ciphertext ++ ciphertext

def open? (key nonce box : Bytes) : Option Bytes :=
  if box.length < 16 then
    none
  else
    let ciphertext := box.drop 16
    let stream := Salsa20.extendedStream key nonce (32 + ciphertext.length)
    if box.take 16 = authenticate (stream.take 32) ciphertext then
      some (Bytes.xor ciphertext (stream.drop 32))
    else
      none

theorem length_authenticate (key message : Bytes) :
    (authenticate key message).length = 16 := by
  simp [authenticate, Bytes.length_ofNatLE]

theorem length_close (key nonce payload : Bytes) :
    (close key nonce payload).length = payload.length + 16 := by
  simp [close, length_authenticate, Bytes.length_xor, Salsa20.length_extendedStream]
  omega

/-- Opening a box gives the payload. -/
theorem open?_close (key nonce payload : Bytes) :
    open? key nonce (close key nonce payload) = some payload := by
  have streamLength := Salsa20.length_extendedStream key nonce (32 + payload.length)
  have bodyLength : (Bytes.xor payload
      ((Salsa20.extendedStream key nonce (32 + payload.length)).drop 32)).length =
        payload.length := by
    simp [Bytes.length_xor, streamLength]
  have cancel := Bytes.xor_xor_cancel payload
    ((Salsa20.extendedStream key nonce (32 + payload.length)).drop 32)
    (by simp [streamLength])
  simp [open?, close, length_authenticate, bodyLength, cancel]

/-- Only what closing produces is opened. -/
theorem eq_close_of_open? {key nonce box payload : Bytes}
    (opened : open? key nonce box = some payload) : box = close key nonce payload := by
  unfold open? at opened
  split at opened
  · cases opened
  · simp only at opened
    split at opened
    · next tagMatches =>
      cases opened
      have covered : (box.drop 16).length ≤
          ((Salsa20.extendedStream key nonce (32 + (box.drop 16).length)).drop 32).length := by
        simp [Salsa20.length_extendedStream]
      have cancel := Bytes.xor_xor_cancel _ _ covered
      have length_eq : (Bytes.xor (box.drop 16)
          ((Salsa20.extendedStream key nonce (32 + (box.drop 16).length)).drop 32)).length =
            (box.drop 16).length := by
        simp [Bytes.length_xor, Salsa20.length_extendedStream]
      simp only [close, length_eq, cancel]
      rw [← tagMatches, List.take_append_drop]
    · cases opened

end Keywarden.Cipher.SecretBox
