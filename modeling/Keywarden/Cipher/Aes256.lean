import Keywarden.Bytes

/-!
# AES-256

Encryption of one block of sixteen bytes.  The bytes of a block fill a
four-by-four square column by column.  The substitution is computed from the
field with 256 elements, so that no table has to be trusted.
-/

namespace Keywarden.Cipher.Aes256

abbrev Block := Vector UInt8 16

/-- The double of a field element modulo x⁸ + x⁴ + x³ + x + 1. -/
@[inline]
def double (x : UInt8) : UInt8 :=
  if x &&& 0x80 == 0 then x <<< 1 else (x <<< 1) ^^^ 0x1b

/-- The product of two field elements, by the lowest `bits` bits of the first. -/
def times (bits : Nat) (x y : UInt8) : UInt8 :=
  match bits with
  | 0 => 0
  | bits + 1 =>
    (if x &&& 1 == 1 then y else 0) ^^^ times bits (x >>> 1) (double y)

def power (x : UInt8) : Nat → UInt8
  | 0 => 1
  | exponent + 1 => times 8 x (power x exponent)

/-- The inverse of a field element, and zero for zero. -/
def inverse (x : UInt8) : UInt8 :=
  power x 254

def rotateLeft (x count : UInt8) : UInt8 :=
  (x <<< count) ||| (x >>> (8 - count))

/-- The substitution: inversion, then an affine map. -/
def substitution (x : UInt8) : UInt8 :=
  let y := inverse x
  y ^^^ rotateLeft y 1 ^^^ rotateLeft y 2 ^^^ rotateLeft y 3 ^^^ rotateLeft y 4 ^^^ 0x63

/-- The substitution of every byte. -/
def table : Vector UInt8 256 :=
  Vector.ofFn fun index => substitution (UInt8.ofNat index.val)

@[inline]
def substitute (x : UInt8) : UInt8 :=
  table.get ⟨x.toNat, x.toNat_lt⟩

/-- Substitutes every byte and rotates row `r` of the square by `r` columns. -/
def substituteAndShift (block : Block) : Block :=
  Vector.ofFn fun index =>
    substitute (block.get ⟨(index.val + 4 * (index.val % 4)) % 16, Nat.mod_lt _ (by decide)⟩)

/-- The byte `offset` rows below a position in the same column, cyclically. -/
@[inline]
def below (block : Block) (index offset : Nat) : UInt8 :=
  block.get ⟨(4 * (index / 4) + (index % 4 + offset) % 4) % 16, Nat.mod_lt _ (by decide)⟩

/-- Mixes the bytes of every column. -/
def mixColumns (block : Block) : Block :=
  Vector.ofFn fun index =>
    let x := below block index.val 0
    let y := below block index.val 1
    double x ^^^ double y ^^^ y ^^^ below block index.val 2 ^^^ below block index.val 3

def addKey (block key : Block) : Block :=
  Vector.zipWith (· ^^^ ·) block key

/-- The next word of the key schedule, from the last eight words, newest first. -/
def nextWord (recent : List Bytes) (index : Nat) (constant : UInt8) : Bytes :=
  let last := recent.getD 0 []
  let turned :=
    if index % 8 == 0 then
      Bytes.xor ((last.drop 1 ++ last.take 1).map substitute) [constant, 0, 0, 0]
    else if index % 8 == 4 then last.map substitute
    else last
  Bytes.xor (recent.getD 7 []) turned

/-- Prepends `count` further words to a key schedule. -/
def extendKey (count index : Nat) (constant : UInt8) (words : List Bytes) : List Bytes :=
  match count with
  | 0 => words
  | count + 1 =>
    let next := nextWord words index constant
    let constant := if index % 8 == 0 then double constant else constant
    extendKey count (index + 1) constant (next :: words)

/-- A block read from the front of a byte string, with zeros where it is too
short. -/
def Block.ofBytes (bytes : Bytes) : Block :=
  let source := bytes.toArray
  Vector.ofFn fun index => source.getD index.val 0

def roundKeys (key : Bytes) : List Block :=
  let words := (extendKey 52 8 1 (Bytes.blocks 3 key).reverse).reverse
  (Bytes.blocks 15 words.flatten).map Block.ofBytes

/-- The rounds after the first addition of a round key; the last round does not
mix the columns. -/
def encryptRounds (block : Block) : List Block → Block
  | [] => block
  | [last] => addKey (substituteAndShift block) last
  | key :: keys => encryptRounds (addKey (mixColumns (substituteAndShift block)) key) keys

def encrypt (keys : List Block) (block : Block) : Block :=
  match keys with
  | [] => block
  | first :: rest => encryptRounds (addKey block first) rest

end Keywarden.Cipher.Aes256
