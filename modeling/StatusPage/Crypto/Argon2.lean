import StatusPage.Crypto.Blake2b

/-!
The password hash Argon2 in its three variants: blocks of 1024 bytes fill a memory in lanes, each
made from the one before it and another one, several times over.
-/

set_option autoImplicit false

namespace StatusPage.Crypto.Argon2

open Text (Bytes)

/-- How the second block is chosen: by the contents, by the place, or by the place in the first half
of the first pass and by the contents after it. -/
inductive Variant where
  | dependent
  | independent
  | hybrid
  deriving DecidableEq, Repr

def Variant.code : Variant → Nat
  | .dependent => 0
  | .independent => 1
  | .hybrid => 2

/-- Costs, and the version, of which 16 overwrites old blocks and 19 mixes them in. -/
structure Parameters where
  variant : Variant
  version : Nat
  memory : Nat
  passes : Nat
  lanes : Nat
  deriving DecidableEq, Repr

abbrev Block := Array UInt64

def zeroBlock : Block := Array.replicate 128 0

def xorBlocks (a b : Block) : Block := Array.zipWith (· ^^^ ·) a b

@[inline] def add (x y : UInt64) : UInt64 :=
  x + y + 2 * ((x &&& 0xFFFFFFFF) * (y &&& 0xFFFFFFFF))

structure Quad where
  a : UInt64
  b : UInt64
  c : UInt64
  d : UInt64

def mix (a b c d : UInt64) : Quad :=
  let a := add a b
  let d := rotateRight (d ^^^ a) 32
  let c := add c d
  let b := rotateRight (b ^^^ c) 24
  let a := add a b
  let d := rotateRight (d ^^^ a) 16
  let c := add c d
  let b := rotateRight (b ^^^ c) 63
  ⟨a, b, c, d⟩

def mixAt (block : Block) (i j k l : Nat) : Block :=
  let q := mix (block.getD i 0) (block.getD j 0) (block.getD k 0) (block.getD l 0)
  (((block.setIfInBounds i q.a).setIfInBounds j q.b).setIfInBounds k q.c).setIfInBounds l q.d

/-- One round on the sixteen words that `place` picks: the columns of the
square, then its diagonals. -/
def permute (block : Block) (place : Nat → Nat) : Block :=
  Blake2b.steps.foldl (fun block (i, j, k, l) =>
    mixAt block (place i) (place j) (place k) (place l)) block

def compress (x y : Block) : Block :=
  let r := xorBlocks x y
  let rows := (List.range 8).foldl (fun block row => permute block fun i => 16 * row + i) r
  let columns := (List.range 8).foldl
    (fun block column => permute block fun i => 2 * column + 16 * (i / 2) + i % 2) rows
  xorBlocks r columns

/-- A hash of any size, chained from pieces of 32 bytes. -/
def longHash (size : Nat) (input : Bytes) : Bytes :=
  let first := littleEndian 4 size ++ input
  if size ≤ 64 then blake2b size first
  else
    let pieces := (size + 31) / 32 - 2
    let v := blake2b 64 first
    let step (state : Bytes × Bytes) (_ : Nat) : Bytes × Bytes :=
      let next := blake2b 64 state.2
      (state.1 ++ next.take 32, next)
    let (output, last) := (List.range (pieces - 1)).foldl step (v.take 32, v)
    output ++ blake2b (size - 32 * pieces) last

def blockOfBytes (bytes : Bytes) : Block := (wordsOfBytes bytes).toArray

namespace Parameters

variable (p : Parameters)

/-- Blocks in a quarter of a lane. -/
def segment : Nat := p.memory / (4 * p.lanes)

def laneLength : Nat := 4 * p.segment

def blocks : Nat := p.laneLength * p.lanes

def seed (password salt associated : Bytes) (size : Nat) : Bytes :=
  let counted (bytes : Bytes) : Bytes := littleEndian 4 bytes.length ++ bytes
  blake2b 64 ([p.lanes, size, p.memory, p.passes, p.version, p.variant.code].flatMap
    (littleEndian 4) ++ counted password ++ counted salt ++ counted [] ++ counted associated)

def start (seed : Bytes) : Array Block :=
  let block (lane column : Nat) : Block :=
    blockOfBytes (longHash 1024 (seed ++ littleEndian 4 column ++ littleEndian 4 lane))
  (List.range p.lanes).foldl (fun memory lane =>
    (memory.setIfInBounds (lane * p.laneLength) (block lane 0)).setIfInBounds
      (lane * p.laneLength + 1) (block lane 1))
    (Array.replicate p.blocks zeroBlock)

/-- A quarter of a lane in a pass. -/
structure Place where
  pass : Nat
  slice : Nat
  lane : Nat

def byPlace (place : Place) : Bool :=
  match p.variant with
  | .dependent => false
  | .independent => true
  | .hybrid => place.pass == 0 && place.slice < 2

/-- A block of pseudo-random words that depend on the place only. -/
def addresses (place : Place) (counter : Nat) : Block :=
  let input := [place.pass, place.lane, place.slice, p.blocks, p.passes, p.variant.code, counter]
  let block : Block := (input.map Nat.toUInt64).toArray ++ Array.replicate 121 0
  compress zeroBlock (compress zeroBlock block)

/-- The place in memory that a pseudo-random word leads to, seen from the
block `index` of a segment. -/
def reference (place : Place) (index : Nat) (word : UInt64) : Nat :=
  let low := (word &&& 0xffffffff).toNat
  let high := (word >>> 32).toNat
  let first := place.pass = 0 ∧ place.slice = 0
  let lane := if first then place.lane else high % p.lanes
  let full := if place.pass = 0 then place.slice * p.segment else p.laneLength - p.segment
  let area :=
    if lane = place.lane then full + index - 1 else if index = 0 then full - 1 else full
  let back := (area * ((low * low) >>> 32)) >>> 32
  let begin := if place.pass = 0 ∨ place.slice = 3 then 0 else (place.slice + 1) * p.segment
  lane * p.laneLength + (begin + (area - 1 - back)) % p.laneLength

def fillBlock (place : Place) (memory : Array Block) (addresses : Block) (index : Nat) :
    Array Block :=
  let column := place.slice * p.segment + index
  let base := place.lane * p.laneLength
  let previous := memory.getD (base + (column + p.laneLength - 1) % p.laneLength) zeroBlock
  let word := if p.byPlace place then addresses.getD (index % 128) 0 else previous.getD 0 0
  let other := memory.getD (p.reference place index word) zeroBlock
  let block := compress previous other
  let block :=
    if place.pass = 0 ∨ p.version = 16 then block
    else xorBlocks block (memory.getD (base + column) zeroBlock)
  memory.setIfInBounds (base + column) block

def fillSegment (memory : Array Block) (place : Place) : Array Block :=
  let skipped := if place.pass = 0 ∧ place.slice = 0 then 2 else 0
  let step (state : Array Block × Block) (index : Nat) : Array Block × Block :=
    let addresses :=
      if p.byPlace place ∧ (index % 128 = 0 ∨ index = skipped)
        then p.addresses place (index / 128 + 1)
      else state.2
    (p.fillBlock place state.1 addresses index, addresses)
  (((List.range p.segment).drop skipped).foldl step (memory, zeroBlock)).1

def fill (memory : Array Block) : Array Block :=
  let places := (List.range p.passes).flatMap fun pass =>
    (List.range 4).flatMap fun slice => (List.range p.lanes).map fun lane =>
      Place.mk pass slice lane
  places.foldl p.fillSegment memory

end Parameters

def hash (p : Parameters) (password salt associated : Bytes) (size : Nat) : Bytes :=
  let memory := p.fill (p.start (p.seed password salt associated size))
  let last := (List.range p.lanes).foldl (fun block lane =>
    xorBlocks block (memory.getD ((lane + 1) * p.laneLength - 1) zeroBlock)) zeroBlock
  longHash size (bytesOfWords last.toList)

end StatusPage.Crypto.Argon2
