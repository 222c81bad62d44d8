/-!
# Rows of sixteen words

BLAKE2b and Argon2 both work on rows of sixteen 64-bit words and mix them in
the same pattern: the four columns of a four-by-four square, then its four
diagonals.  The pattern is stated once, over the quarter round that differs
between the two.
-/

namespace Keywarden.Hash

/-- Sixteen 64-bit words. -/
structure Row where
  w0 : UInt64
  w1 : UInt64
  w2 : UInt64
  w3 : UInt64
  w4 : UInt64
  w5 : UInt64
  w6 : UInt64
  w7 : UInt64
  w8 : UInt64
  w9 : UInt64
  w10 : UInt64
  w11 : UInt64
  w12 : UInt64
  w13 : UInt64
  w14 : UInt64
  w15 : UInt64
deriving DecidableEq, Inhabited

/-- Four words on their way through a quarter round. -/
structure Quarter where
  a : UInt64
  b : UInt64
  c : UInt64
  d : UInt64

/-- Rotation of a word to the right; `count` lies strictly between 0 and 64. -/
@[inline]
def rotateRight (word : UInt64) (count : UInt64) : UInt64 :=
  (word >>> count) ||| (word <<< (64 - count))

namespace Row

def zero : Row :=
  ⟨0, 0, 0, 0, 0, 0, 0, 0, 0, 0, 0, 0, 0, 0, 0, 0⟩

/-- Wordwise exclusive or. -/
@[inline]
def xor (x y : Row) : Row :=
  ⟨x.w0 ^^^ y.w0, x.w1 ^^^ y.w1, x.w2 ^^^ y.w2, x.w3 ^^^ y.w3,
    x.w4 ^^^ y.w4, x.w5 ^^^ y.w5, x.w6 ^^^ y.w6, x.w7 ^^^ y.w7,
    x.w8 ^^^ y.w8, x.w9 ^^^ y.w9, x.w10 ^^^ y.w10, x.w11 ^^^ y.w11,
    x.w12 ^^^ y.w12, x.w13 ^^^ y.w13, x.w14 ^^^ y.w14, x.w15 ^^^ y.w15⟩

/-- The words in order. -/
def toList (x : Row) : List UInt64 :=
  [x.w0, x.w1, x.w2, x.w3, x.w4, x.w5, x.w6, x.w7,
    x.w8, x.w9, x.w10, x.w11, x.w12, x.w13, x.w14, x.w15]

/-- The first sixteen words of a list, with zeros where it is too short. -/
def ofList (words : List UInt64) : Row :=
  let word (index : Nat) : UInt64 := words.getD index 0
  ⟨word 0, word 1, word 2, word 3, word 4, word 5, word 6, word 7,
    word 8, word 9, word 10, word 11, word 12, word 13, word 14, word 15⟩

end Row

end Keywarden.Hash
