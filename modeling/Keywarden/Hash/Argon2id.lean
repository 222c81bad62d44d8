import Keywarden.Hash.Blake2b
import Keywarden.Hash.Argon2Block

/-!
# Argon2id

The memory-hard password hash, version 1.3, without secret or associated data.
The memory is a rectangle of `lanes` rows of blocks; each row is cut into four
segments.  Every pass fills the memory segment by segment.  In the first half
of the first pass the references do not depend on the password; afterwards the
preceding block chooses them.
-/

namespace Keywarden.Hash.Argon2

/-- The cost parameters: kibibytes of memory, passes, and lanes. -/
structure Cost where
  memory : Nat
  passes : Nat
  lanes : Nat
deriving DecidableEq

/-- Four bytes, least significant first. -/
def le32 (value : Nat) : Bytes :=
  Bytes.ofNatLE 4 value

/-- The tail of the long hash: half of every digest but the last. -/
def stretch (fuel remaining : Nat) (previous : Bytes) : Bytes :=
  match fuel with
  | 0 => []
  | fuel + 1 =>
    if remaining ≤ 64 then
      Blake2b.digest remaining previous
    else
      let next := Blake2b.digest 64 previous
      next.take 32 ++ stretch fuel (remaining - 32) next

def longHash (length : Nat) (message : Bytes) : Bytes :=
  let input := le32 length ++ message
  if length ≤ 64 then
    Blake2b.digest length input
  else
    let first := Blake2b.digest 64 input
    first.take 32 ++ stretch length (length - 32) first

def Block.ofBytes (bytes : Bytes) : Block :=
  .ofList ((Bytes.blocks 7 bytes).map fun digits => UInt64.ofNat (Bytes.toNatLE digits))

def Block.toBytes (block : Block) : Bytes :=
  block.toList.flatMap fun word => Bytes.ofNatLE 8 word.toNat

/-- The digest from which every block descends. -/
def seed (cost : Cost) (length : Nat) (password salt : Bytes) : Bytes :=
  Blake2b.digest 64 <|
    le32 cost.lanes ++ le32 length ++ le32 cost.memory ++ le32 cost.passes ++
    le32 0x13 ++ le32 2 ++
    le32 password.length ++ password ++ le32 salt.length ++ salt ++ le32 0 ++ le32 0

/-- The shape of the memory: lanes, and blocks in a quarter of a lane. -/
structure Shape where
  lanes : Nat
  segment : Nat

namespace Shape

/-- The largest shape that fits in the memory. -/
def ofCost (cost : Cost) : Shape where
  lanes := cost.lanes
  segment := cost.memory / (4 * cost.lanes)

def lane (shape : Shape) : Nat :=
  4 * shape.segment

/-- Blocks in the memory. -/
def size (shape : Shape) : Nat :=
  shape.lanes * shape.lane

end Shape

/-- Where the filling stands: the pass, the quarter, and the lane. -/
structure Cursor where
  pass : Nat
  slice : Nat
  lane : Nat

/-- Whether references are independent of the password here. -/
def Cursor.isIndependent (cursor : Cursor) : Bool :=
  cursor.pass == 0 && cursor.slice < 2

/-- The block of 128 independent reference words with the given number. -/
def addressBlock (cost : Cost) (shape : Shape) (cursor : Cursor) (number : Nat) : Block :=
  let input := Block.ofList <| [cursor.pass, cursor.lane, cursor.slice, shape.size,
    cost.passes, 2, number].map UInt64.ofNat
  Block.zero.compress (Block.zero.compress input)

def referencePosition (shape : Shape) (cursor : Cursor) (index : Nat) (word : UInt64) :
    Nat :=
  let low := word &&& 0xffffffff
  let high := word >>> 32
  let lane :=
    if cursor.pass == 0 && cursor.slice == 0 then cursor.lane
    else high.toNat % shape.lanes
  let isOwnLane := lane == cursor.lane
  let finished :=
    if cursor.pass == 0 then cursor.slice * shape.segment
    else shape.lane - shape.segment
  let area :=
    if isOwnLane then finished + index - 1
    else if index == 0 then finished - 1 else finished
  let square := (low * low) >>> 32
  let back := (UInt64.ofNat area * square) >>> 32
  let relative := area - 1 - back.toNat
  let start :=
    if cursor.pass == 0 || cursor.slice == 3 then 0
    else (cursor.slice + 1) * shape.segment
  lane * shape.lane + (start + relative) % shape.lane

/-- Fills `remaining` blocks of a segment from block `index` on. -/
def fillSegment (cost : Cost) (shape : Shape) (cursor : Cursor) (remaining : Nat)
    (index : Nat) (addresses : Array UInt64) (memory : Array Block) : Array Block :=
  match remaining with
  | 0 => memory
  | remaining + 1 =>
    let column := cursor.slice * shape.segment + index
    let base := cursor.lane * shape.lane
    let previous := memory.getD
      (base + (if column == 0 then shape.lane - 1 else column - 1)) .zero
    let addresses :=
      if cursor.isIndependent && (index % 128 == 0 || addresses.isEmpty) then
        (addressBlock cost shape cursor (index / 128 + 1)).toList.toArray
      else addresses
    let word :=
      if cursor.isIndependent then addresses.getD (index % 128) 0 else previous.r0.w0
    let reference := memory.getD (referencePosition shape cursor index word) .zero
    let fresh := previous.compress reference
    let position := base + column
    let fresh :=
      if cursor.pass == 0 then fresh else fresh.xor (memory.getD position .zero)
    fillSegment cost shape cursor remaining (index + 1) addresses
      (memory.setIfInBounds position fresh)

/-- The memory with the first two blocks of every lane. -/
def start (shape : Shape) (seed : Bytes) : Array Block :=
  (List.range shape.lanes).foldl (fun memory lane =>
      (List.range 2).foldl (fun memory column =>
          memory.setIfInBounds (lane * shape.lane + column) <|
            .ofBytes (longHash 1024 (seed ++ le32 column ++ le32 lane)))
        memory)
    (Array.replicate shape.size .zero)

/-- The memory after all passes. -/
def fill (cost : Cost) (shape : Shape) (memory : Array Block) : Array Block :=
  (List.range cost.passes).foldl (fun memory pass =>
      (List.range 4).foldl (fun memory slice =>
          (List.range shape.lanes).foldl (fun memory lane =>
              let skipped := if pass == 0 && slice == 0 then 2 else 0
              fillSegment cost shape ⟨pass, slice, lane⟩ (shape.segment - skipped)
                skipped #[] memory)
            memory)
        memory)
    memory

def lastColumn (shape : Shape) (memory : Array Block) : Block :=
  (List.range shape.lanes).foldl (fun sum lane =>
    sum.xor (memory.getD (lane * shape.lane + (shape.lane - 1)) .zero)) .zero

/-- The digest of `length` bytes. -/
def hash (cost : Cost) (length : Nat) (password salt : Bytes) : Bytes :=
  let shape := Shape.ofCost cost
  let memory := start shape (seed cost length password salt)
  longHash length (lastColumn shape (fill cost shape memory)).toBytes

end Keywarden.Hash.Argon2
