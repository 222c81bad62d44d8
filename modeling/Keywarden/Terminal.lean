import Keywarden.Bytes

/-!
# Typing at a terminal

A terminal collects the keys of a line and hands the line over when it is closed; some
keys change what was collected.  Nothing is shown meanwhile, and what is typed after the
line is lost.
-/

namespace Keywarden.Terminal

/-- The most bytes of a line that are kept. -/
def lineLimit : Nat := 4095

/-- Whether a key closes the line. -/
def isReturn (key : UInt8) : Bool :=
  key = 0x0a || key = 0x0d

def isWordByte (byte : UInt8) : Bool :=
  let char := Char.ofNat byte.toNat
  char.isAlphanum || char = '_' || (0xc0 ≤ byte && byte ≠ 0xd7 && byte ≠ 0xf7)

def withoutWord (reversed : Bytes) : Bytes :=
  (reversed.dropWhile fun byte => !isWordByte byte).dropWhile isWordByte

/-- The line that is handed over for keys that are still to come; what was handed over
already and what was collected since are given reversed. -/
def collect (given collected : Bytes) : Bytes → Bytes
  | [] => (collected ++ given).reverse
  | key :: rest =>
    if isReturn key then (collected ++ given).reverse
    else if key = 0x04 then
      if collected.isEmpty then given.reverse else collect (collected ++ given) [] rest
    else if key = 0x7f then collect given collected.tail rest
    else if key = 0x15 then collect given [] rest
    else if key = 0x17 then collect given (withoutWord collected) rest
    else if key = 0x11 || key = 0x13 then collect given collected rest
    else if key = 0x16 then
      match rest with
      | [] => (collected ++ given).reverse
      | plain :: rest => collect given (plain :: collected) rest
    else collect given (key :: collected) rest

def line (keys : Bytes) : Bytes :=
  (collect [] [] keys).take lineLimit

/-- Keys that give the bytes of a line whatever they are: each follows the key that takes the
next one as it is. -/
def keysOf (bytes : Bytes) : Bytes :=
  bytes.flatMap fun byte => [0x16, byte]

theorem collect_keysOf (given collected bytes : Bytes) :
    collect given collected (keysOf bytes) = (collected ++ given).reverse ++ bytes := by
  induction bytes generalizing collected with
  | nil => simp [keysOf, collect]
  | cons byte rest ih =>
    have next : keysOf (byte :: rest) = 0x16 :: byte :: keysOf rest := rfl
    have taken : collect given collected (0x16 :: byte :: keysOf rest) =
        collect given (byte :: collected) (keysOf rest) := by
      rw [collect]
      rfl
    rw [next, taken, ih]
    simp

/-- What was typed for a line gives that line, up to its limit. -/
theorem line_keysOf (bytes : Bytes) : line (keysOf bytes) = bytes.take lineLimit := by
  simp [line, collect_keysOf]

end Keywarden.Terminal
