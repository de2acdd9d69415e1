import StatusPage.Crypto.Sha256

/-!
The hash function BLAKE2b without a key, for results of up to 64 bytes.
-/

set_option autoImplicit false

namespace StatusPage.Crypto

open Text (Bytes)

def littleEndian (width n : Nat) : Bytes :=
  (List.range width).map fun i => (n >>> (8 * i) % 256).toUInt8

def wordsOfBytes (bytes : Bytes) : List UInt64 :=
  (chunks 8 bytes).map fun word => word.foldr (fun b n => n * 256 + b.toUInt64) 0

def bytesOfWords (words : List UInt64) : Bytes :=
  words.flatMap fun word => (List.range 8).map fun i => (word >>> (8 * i).toUInt64).toUInt8

def rotateRight (x n : UInt64) : UInt64 := (x >>> n) ||| (x <<< (64 - n))

namespace Blake2b

def start : List UInt64 :=
  [0x6a09e667f3bcc908, 0xbb67ae8584caa73b, 0x3c6ef372fe94f82b, 0xa54ff53a5f1d36f1,
    0x510e527fade682d1, 0x9b05688c2b3e6c1f, 0x1f83d9abfb41bd6b, 0x5be0cd19137e2179]

/-- The order in which the rounds take the words of a block. -/
def schedules : List (List Nat) :=
  [[0, 1, 2, 3, 4, 5, 6, 7, 8, 9, 10, 11, 12, 13, 14, 15],
    [14, 10, 4, 8, 9, 15, 13, 6, 1, 12, 0, 2, 11, 7, 5, 3],
    [11, 8, 12, 0, 5, 2, 15, 13, 10, 14, 3, 6, 7, 1, 9, 4],
    [7, 9, 3, 1, 13, 12, 11, 14, 2, 6, 5, 10, 4, 0, 15, 8],
    [9, 0, 5, 7, 2, 4, 10, 15, 14, 1, 11, 12, 6, 8, 3, 13],
    [2, 12, 6, 10, 0, 11, 8, 3, 4, 13, 7, 5, 15, 14, 1, 9],
    [12, 5, 1, 15, 14, 13, 4, 10, 0, 7, 6, 3, 9, 2, 8, 11],
    [13, 11, 7, 14, 12, 1, 3, 9, 5, 0, 15, 4, 8, 6, 2, 10],
    [6, 15, 14, 9, 11, 3, 0, 8, 12, 2, 13, 7, 1, 4, 10, 5],
    [10, 2, 8, 4, 7, 6, 1, 5, 15, 11, 9, 14, 3, 12, 13, 0],
    [0, 1, 2, 3, 4, 5, 6, 7, 8, 9, 10, 11, 12, 13, 14, 15],
    [14, 10, 4, 8, 9, 15, 13, 6, 1, 12, 0, 2, 11, 7, 5, 3]]

/-- Which words of the state the eight steps of a round mix: the columns, then the diagonals. -/
def steps : List (Nat × Nat × Nat × Nat) :=
  [(0, 4, 8, 12), (1, 5, 9, 13), (2, 6, 10, 14), (3, 7, 11, 15),
    (0, 5, 10, 15), (1, 6, 11, 12), (2, 7, 8, 13), (3, 4, 9, 14)]

def mix (v : Array UInt64) (at_ : Nat × Nat × Nat × Nat) (x y : UInt64) : Array UInt64 :=
  let (i, j, k, l) := at_
  let a := v.getD i 0 + v.getD j 0 + x
  let d := rotateRight (v.getD l 0 ^^^ a) 32
  let c := v.getD k 0 + d
  let b := rotateRight (v.getD j 0 ^^^ c) 24
  let a := a + b + y
  let d := rotateRight (d ^^^ a) 16
  let c := c + d
  let b := rotateRight (b ^^^ c) 63
  (((v.setIfInBounds i a).setIfInBounds j b).setIfInBounds k c).setIfInBounds l d

def round (block : Array UInt64) (v : Array UInt64) (schedule : List Nat) : Array UInt64 :=
  ((steps.zip (chunks 2 schedule)).foldl (fun v (at_, pair) =>
    mix v at_ (block.getD (pair.getD 0 0) 0) (block.getD (pair.getD 1 0) 0)) v)

def compress (state : List UInt64) (block : Bytes) (count : Nat) (last : Bool) : List UInt64 :=
  let words := (wordsOfBytes block).toArray
  let counted :=
    (start.getD 4 0 ^^^ count.toUInt64) :: (start.getD 5 0 ^^^ (count >>> 64).toUInt64) ::
    (if last then ~~~ (start.getD 6 0) else start.getD 6 0) :: start.drop 7
  let v := schedules.foldl (round words) (state ++ start.take 4 ++ counted).toArray
  (List.range 8).map fun i => state.getD i 0 ^^^ v.getD i 0 ^^^ v.getD (i + 8) 0

/-- Takes in the blocks of a message, of which the last is padded with zeros. -/
def absorb (state : List UInt64) (count : Nat) : List Bytes → List UInt64
  | [] => compress state (List.replicate 128 0) count true
  | [block] =>
    compress state (block ++ List.replicate (128 - block.length) 0) (count + block.length) true
  | block :: rest => absorb (compress state block (count + 128) false) (count + 128) rest

end Blake2b

def blake2b (size : Nat) (message : Bytes) : Bytes :=
  let parameters := 0x01010000 ^^^ size.toUInt64
  let start := match Blake2b.start with
    | first :: rest => (first ^^^ parameters) :: rest
    | [] => []
  (bytesOfWords (Blake2b.absorb start 0 (chunks 128 message))).take size

end StatusPage.Crypto
