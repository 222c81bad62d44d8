import Keywarden.Bytes
import Keywarden.Hash.Row

/-!
# BLAKE2b

The unkeyed hash with digests of 1 to 64 bytes.
-/

namespace Keywarden.Hash.Blake2b

/-- The eight initial words: the fractional parts of the square roots of the
first eight primes. -/
def initial : List UInt64 :=
  [0x6a09e667f3bcc908, 0xbb67ae8584caa73b, 0x3c6ef372fe94f82b, 0xa54ff53a5f1d36f1,
    0x510e527fade682d1, 0x9b05688c2b3e6c1f, 0x1f83d9abfb41bd6b, 0x5be0cd19137e2179]

/-- The order in which each of the ten distinct rounds reads the message. -/
def schedule : List (List Nat) :=
  [[0, 1, 2, 3, 4, 5, 6, 7, 8, 9, 10, 11, 12, 13, 14, 15],
    [14, 10, 4, 8, 9, 15, 13, 6, 1, 12, 0, 2, 11, 7, 5, 3],
    [11, 8, 12, 0, 5, 2, 15, 13, 10, 14, 3, 6, 7, 1, 9, 4],
    [7, 9, 3, 1, 13, 12, 11, 14, 2, 6, 5, 10, 4, 0, 15, 8],
    [9, 0, 5, 7, 2, 4, 10, 15, 14, 1, 11, 12, 6, 8, 3, 13],
    [2, 12, 6, 10, 0, 11, 8, 3, 4, 13, 7, 5, 15, 14, 1, 9],
    [12, 5, 1, 15, 14, 13, 4, 10, 0, 7, 6, 3, 9, 2, 8, 11],
    [13, 11, 7, 14, 12, 1, 3, 9, 5, 0, 15, 4, 8, 6, 2, 10],
    [6, 15, 14, 9, 11, 3, 0, 8, 12, 2, 13, 7, 1, 4, 10, 5],
    [10, 2, 8, 4, 7, 6, 1, 5, 15, 11, 9, 14, 3, 12, 13, 0]]

/-- The order of all twelve rounds; the last two repeat the first two. -/
def rounds : List (List Nat) :=
  schedule ++ schedule.take 2

/-- The quarter round, which takes in two message words. -/
@[inline]
def quarterRound (a b c d x y : UInt64) : Quarter :=
  let a := a + b + x
  let d := rotateRight (d ^^^ a) 32
  let c := c + d
  let b := rotateRight (b ^^^ c) 24
  let a := a + b + y
  let d := rotateRight (d ^^^ a) 16
  let c := c + d
  let b := rotateRight (b ^^^ c) 63
  ⟨a, b, c, d⟩

/-- One round: the columns of the square, then its diagonals.  The message
words come in the order of use. -/
def round (v m : Row) : Row :=
  let p := quarterRound v.w0 v.w4 v.w8 v.w12 m.w0 m.w1
  let q := quarterRound v.w1 v.w5 v.w9 v.w13 m.w2 m.w3
  let r := quarterRound v.w2 v.w6 v.w10 v.w14 m.w4 m.w5
  let s := quarterRound v.w3 v.w7 v.w11 v.w15 m.w6 m.w7
  let t := quarterRound p.a q.b r.c s.d m.w8 m.w9
  let u := quarterRound q.a r.b s.c p.d m.w10 m.w11
  let w := quarterRound r.a s.b p.c q.d m.w12 m.w13
  let x := quarterRound s.a p.b q.c r.d m.w14 m.w15
  ⟨t.a, u.a, w.a, x.a, x.b, t.b, u.b, w.b, w.c, x.c, t.c, u.c, u.d, w.d, x.d, t.d⟩

def words (block : Bytes) : List UInt64 :=
  (Bytes.blocks 7 block).map fun digits => UInt64.ofNat (Bytes.toNatLE digits)

/-- The state after one block; `total` counts the bytes up to its end. -/
def compress (state : List UInt64) (block : Bytes) (total : Nat) (isLast : Bool) :
    List UInt64 :=
  let message := (words block).toArray
  let start := Row.ofList (state ++ initial)
  let start := { start with
    w12 := start.w12 ^^^ UInt64.ofNat total
    w13 := start.w13 ^^^ UInt64.ofNat (total / UInt64.size)
    w14 := if isLast then ~~~start.w14 else start.w14 }
  let final := rounds.foldl (fun row order =>
    round row (.ofList (order.map fun index => message.getD index 0))) start
  let mixed := final.toList
  List.zipWith (· ^^^ ·) state (List.zipWith (· ^^^ ·) mixed (mixed.drop 8))

/-- The state after a list of blocks, `before` bytes into the message. -/
def absorb (state : List UInt64) (before : Nat) : List Bytes → List UInt64
  | [] => compress state [] before true
  | [block] => compress state block (before + block.length) true
  | block :: rest =>
    absorb (compress state block (before + 128) false) (before + 128) rest

/-- The digest of `length` bytes, at most 64. -/
def digest (length : Nat) (message : Bytes) : Bytes :=
  let start := match initial with
    | first :: rest => (first ^^^ UInt64.ofNat (0x01010000 + length)) :: rest
    | [] => []
  let final := absorb start 0 (Bytes.blocks 127 message)
  (final.flatMap fun word => Bytes.ofNatLE 8 word.toNat).take length

end Keywarden.Hash.Blake2b
