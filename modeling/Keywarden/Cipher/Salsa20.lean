import Keywarden.Bytes

/-!
# Salsa20

The core permutation on sixteen 32-bit words and its two uses: the key stream
of Salsa20 and the key derivation HSalsa20, from which XSalsa20 takes its
subkey.
-/

namespace Keywarden.Cipher.Salsa20

/-- Sixteen words, row by row. -/
abbrev Square := Vector UInt32 16

@[inline]
def rotateLeft (word count : UInt32) : UInt32 :=
  (word <<< count) ||| (word >>> (32 - count))

/-- Adds to one word the rotated sum of two others. -/
@[inline]
def step (square : Square) (target left right : Fin 16) (count : UInt32) : Square :=
  square.set target.val (square[target] ^^^ rotateLeft (square[left] + square[right]) count)

def quarterRound (square : Square) (a b c d : Fin 16) : Square :=
  let square := step square b a d 7
  let square := step square c b a 9
  let square := step square d c b 13
  step square a d c 18

/-- A round on the columns followed by a round on the rows. -/
def doubleRound (square : Square) : Square :=
  let square := quarterRound square 0 4 8 12
  let square := quarterRound square 5 9 13 1
  let square := quarterRound square 10 14 2 6
  let square := quarterRound square 15 3 7 11
  let square := quarterRound square 0 1 2 3
  let square := quarterRound square 5 6 7 4
  let square := quarterRound square 10 11 8 9
  quarterRound square 15 12 13 14

/-- Twenty rounds. -/
def permute (square : Square) : Square :=
  (List.range 10).foldl (fun square _ => doubleRound square) square

def words (bytes : Bytes) : List UInt32 :=
  (Bytes.blocks 3 bytes).map fun digits => UInt32.ofNat (Bytes.toNatLE digits)

/-- The square of a key of 32 bytes and an input of 16 bytes, with the four
constant words on the diagonal. -/
def square (key input : Bytes) : Square :=
  let keyWords := words key
  let inputWords := words input
  let all := [0x61707865] ++ keyWords.take 4 ++ [0x3320646e] ++ inputWords.take 4 ++
    [0x79622d32] ++ (keyWords.drop 4).take 4 ++ [0x6b206574]
  Vector.ofFn fun index => all.getD index.val 0

def bytes (words : List UInt32) : Bytes :=
  words.flatMap fun word => Bytes.ofNatLE 4 word.toNat

def derive (key input : Bytes) : Bytes :=
  let final := permute (square key input)
  bytes [final[0], final[5], final[10], final[15], final[6], final[7], final[8], final[9]]

def streamBlock (key nonce : Bytes) (number : Nat) : Bytes :=
  let first := square key (nonce ++ Bytes.ofNatLE 8 number)
  bytes (Vector.zipWith (· + ·) first (permute first)).toList

/-- `count` blocks of the key stream from the given number on. -/
def streamBlocks (key nonce : Bytes) (count number : Nat) : Bytes :=
  match count with
  | 0 => []
  | count + 1 => streamBlock key nonce number ++ streamBlocks key nonce count (number + 1)

/-- The first `length` bytes of the XSalsa20 key stream for a nonce of 24 bytes. -/
def extendedStream (key nonce : Bytes) (length : Nat) : Bytes :=
  let subkey := derive key (nonce.take 16)
  (streamBlocks subkey (nonce.drop 16) ((length + 63) / 64) 0).take length

theorem length_bytes (words : List UInt32) : (bytes words).length = 4 * words.length := by
  induction words with
  | nil => rfl
  | cons word words ih =>
    simp only [bytes, List.flatMap_cons, List.length_append, Bytes.length_ofNatLE] at ih ⊢
    rw [ih, List.length_cons]
    omega

theorem length_streamBlock (key nonce : Bytes) (number : Nat) :
    (streamBlock key nonce number).length = 64 := by
  rw [streamBlock, length_bytes, Vector.length_toList]

theorem length_streamBlocks (key nonce : Bytes) (count number : Nat) :
    (streamBlocks key nonce count number).length = 64 * count := by
  induction count generalizing number with
  | zero => rfl
  | succ count ih => simp [streamBlocks, ih, length_streamBlock]; omega

theorem length_extendedStream (key nonce : Bytes) (length : Nat) :
    (extendedStream key nonce length).length = length := by
  simp [extendedStream, length_streamBlocks]
  omega

end Keywarden.Cipher.Salsa20
