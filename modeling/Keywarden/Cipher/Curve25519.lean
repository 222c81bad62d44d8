import Keywarden.Bytes

/-!
# X25519

Scalar multiplication on the Montgomery form of Curve25519, by its x
coordinate alone.
-/

namespace Keywarden.Cipher.Curve25519

def prime : Nat :=
  Nat.pow 2 255 - 19

/-- The field sum. -/
@[inline]
def add (x y : Nat) : Nat :=
  (x + y) % prime

/-- The field difference of reduced elements. -/
@[inline]
def sub (x y : Nat) : Nat :=
  (x + prime - y) % prime

/-- The field product. -/
@[inline]
def mul (x y : Nat) : Nat :=
  x * y % prime

/-- The field power by the lowest `bits` bits of the exponent. -/
def power (bits : Nat) (base exponent acc : Nat) : Nat :=
  match bits with
  | 0 => acc
  | bits + 1 =>
    let squared := mul acc acc
    power bits base exponent (if exponent.testBit bits then mul squared base else squared)

/-- The field inverse, and zero for zero. -/
def inverse (x : Nat) : Nat :=
  power 255 x (prime - 2) 1

/-- Two neighbouring multiples of a point in projective coordinates. -/
structure Rung where
  x2 : Nat
  z2 : Nat
  x3 : Nat
  z3 : Nat

namespace Rung

/-- The two multiples exchanged. -/
def swap (rung : Rung) : Rung :=
  ⟨rung.x3, rung.z3, rung.x2, rung.z2⟩

/-- The double of the first multiple and the sum of both, whose difference is
the point with coordinate `x1`. -/
def climb (rung : Rung) (x1 : Nat) : Rung :=
  let a := add rung.x2 rung.z2
  let aa := mul a a
  let b := sub rung.x2 rung.z2
  let bb := mul b b
  let e := sub aa bb
  let c := add rung.x3 rung.z3
  let d := sub rung.x3 rung.z3
  let da := mul d a
  let cb := mul c b
  let sum := add da cb
  let difference := sub da cb
  ⟨mul aa bb, mul e (add aa (mul 121665 e)),
    mul sum sum, mul x1 (mul difference difference)⟩

end Rung

/-- The ladder over the lowest `bits` bits of a scalar. -/
def ladder (bits : Nat) (scalar x1 : Nat) (rung : Rung) : Rung :=
  match bits with
  | 0 => rung
  | bits + 1 =>
    let next :=
      if scalar.testBit bits then ((rung.swap).climb x1).swap else rung.climb x1
    ladder bits scalar x1 next

def order : Nat :=
  Nat.pow 2 252 + 27742317777372353535851937790883648493

/-- The scalar of a secret: a multiple of eight with its highest bit fixed, reduced
modulo the order of the base point.  The reduction shows with points of other orders
alone. -/
def scalar (secret : Bytes) : Nat :=
  let value := Bytes.toNatLE secret % Nat.pow 2 254
  (Nat.pow 2 254 + (value - value % 8)) % order

/-- The coordinate that a public key names; its highest bit is ignored. -/
def coordinate (point : Bytes) : Nat :=
  Bytes.toNatLE point % Nat.pow 2 255 % prime

def multiply (secret point : Bytes) : Bytes :=
  let x1 := coordinate point
  let final := ladder 255 (scalar secret) x1 ⟨1, 0, x1, 1⟩
  Bytes.ofNatLE 32 (mul final.x2 (inverse final.z2))

def base : Bytes :=
  9 :: Bytes.zeros 31

def publicKey (secret : Bytes) : Bytes :=
  multiply secret base

theorem length_multiply (secret point : Bytes) : (multiply secret point).length = 32 := by
  simp [multiply, Bytes.length_ofNatLE]

end Keywarden.Cipher.Curve25519
