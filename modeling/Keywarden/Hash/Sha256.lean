import Keywarden.Bytes

/-!
# SHA-256, HMAC and HKDF

The hash, the message authentication code built on it, and the two steps of
key derivation: extraction with an empty salt, and expansion.
-/

namespace Keywarden.Hash

namespace Sha256

/-- The round constants: the fractional parts of the cube roots of the first 64
primes. -/
def constants : List UInt32 :=
  [0x428a2f98, 0x71374491, 0xb5c0fbcf, 0xe9b5dba5, 0x3956c25b, 0x59f111f1, 0x923f82a4, 0xab1c5ed5,
    0xd807aa98, 0x12835b01, 0x243185be, 0x550c7dc3, 0x72be5d74, 0x80deb1fe, 0x9bdc06a7, 0xc19bf174,
    0xe49b69c1, 0xefbe4786, 0x0fc19dc6, 0x240ca1cc, 0x2de92c6f, 0x4a7484aa, 0x5cb0a9dc, 0x76f988da,
    0x983e5152, 0xa831c66d, 0xb00327c8, 0xbf597fc7, 0xc6e00bf3, 0xd5a79147, 0x06ca6351, 0x14292967,
    0x27b70a85, 0x2e1b2138, 0x4d2c6dfc, 0x53380d13, 0x650a7354, 0x766a0abb, 0x81c2c92e, 0x92722c85,
    0xa2bfe8a1, 0xa81a664b, 0xc24b8b70, 0xc76c51a3, 0xd192e819, 0xd6990624, 0xf40e3585, 0x106aa070,
    0x19a4c116, 0x1e376c08, 0x2748774c, 0x34b0bcb5, 0x391c0cb3, 0x4ed8aa4a, 0x5b9cca4f, 0x682e6ff3,
    0x748f82ee, 0x78a5636f, 0x84c87814, 0x8cc70208, 0x90befffa, 0xa4506ceb, 0xbef9a3f7, 0xc67178f2]

/-- The eight chaining words. -/
structure State where
  a : UInt32
  b : UInt32
  c : UInt32
  d : UInt32
  e : UInt32
  f : UInt32
  g : UInt32
  h : UInt32

/-- The state before the first block. -/
def State.initial : State :=
  ⟨0x6a09e667, 0xbb67ae85, 0x3c6ef372, 0xa54ff53a,
    0x510e527f, 0x9b05688c, 0x1f83d9ab, 0x5be0cd19⟩

@[inline]
def rotate (word count : UInt32) : UInt32 :=
  (word >>> count) ||| (word <<< (32 - count))

/-- One round with the sum of its constant and its message word. -/
def State.round (s : State) (input : UInt32) : State :=
  let mixE := rotate s.e 6 ^^^ rotate s.e 11 ^^^ rotate s.e 25
  let choice := (s.e &&& s.f) ^^^ (~~~s.e &&& s.g)
  let first := s.h + mixE + choice + input
  let mixA := rotate s.a 2 ^^^ rotate s.a 13 ^^^ rotate s.a 22
  let majority := (s.a &&& s.b) ^^^ (s.a &&& s.c) ^^^ (s.b &&& s.c)
  ⟨first + mixA + majority, s.a, s.b, s.c, s.d + first, s.e, s.f, s.g⟩

/-- Wordwise sum. -/
def State.add (s t : State) : State :=
  ⟨s.a + t.a, s.b + t.b, s.c + t.c, s.d + t.d, s.e + t.e, s.f + t.f, s.g + t.g, s.h + t.h⟩

/-- Extends the message schedule by `count` words. -/
def extend (count : Nat) (words : Array UInt32) : Array UInt32 :=
  match count with
  | 0 => words
  | count + 1 =>
    let size := words.size
    let early := words.getD (size - 15) 0
    let late := words.getD (size - 2) 0
    let next := words.getD (size - 16) 0 +
      (rotate early 7 ^^^ rotate early 18 ^^^ (early >>> 3)) +
      words.getD (size - 7) 0 +
      (rotate late 17 ^^^ rotate late 19 ^^^ (late >>> 10))
    extend count (words.push next)

def compress (state : State) (block : Bytes) : State :=
  let message := (Bytes.blocks 3 block).map fun digits => UInt32.ofNat (Bytes.toNatBE digits)
  let schedule := (extend 48 message.toArray).toList
  let inputs := List.zipWith (· + ·) constants schedule
  (inputs.foldl State.round state).add state

/-- The message followed by a one bit, zeros, and its length in bits. -/
def pad (message : Bytes) : Bytes :=
  let zeros := (119 - message.length % 64) % 64
  message ++ [0x80] ++ Bytes.zeros zeros ++ Bytes.ofNatBE 8 (8 * message.length)

def digest (message : Bytes) : Bytes :=
  let s := (Bytes.blocks 63 (pad message)).foldl compress State.initial
  [s.a, s.b, s.c, s.d, s.e, s.f, s.g, s.h].flatMap fun word => Bytes.ofNatBE 4 word.toNat

theorem length_digest (message : Bytes) : (digest message).length = 32 := by
  simp [digest, Bytes.length_ofNatBE]

end Sha256

namespace Hmac

def digest (key message : Bytes) : Bytes :=
  let short := if key.length ≤ 64 then key else Sha256.digest key
  let full := short ++ Bytes.zeros (64 - short.length)
  let inner := full.map (· ^^^ 0x36)
  let outer := full.map (· ^^^ 0x5c)
  Sha256.digest (outer ++ Sha256.digest (inner ++ message))

theorem length_digest (key message : Bytes) : (digest key message).length = 32 :=
  Sha256.length_digest _

end Hmac

namespace Hkdf

/-- The pseudorandom key extracted from a secret, with the default salt of zeros. -/
def extract (secret : Bytes) : Bytes :=
  Hmac.digest (Bytes.zeros 32) secret

def expand (key purpose : Bytes) : Bytes :=
  Hmac.digest key (purpose ++ [1])

end Hkdf

end Keywarden.Hash
