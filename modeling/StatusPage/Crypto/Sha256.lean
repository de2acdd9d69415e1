import StatusPage.Text.Utf8

/-!
The hash function SHA-256 and its keyed form HMAC.
-/

set_option autoImplicit false

namespace StatusPage.Crypto

open Text (Bytes)

def bigEndian (width n : Nat) : Bytes :=
  (List.range width).map fun i => (n >>> (8 * (width - 1 - i)) % 256).toUInt8

def numberOfBytes (bytes : Bytes) : Nat := bytes.foldl (fun n b => n * 256 + b.toNat) 0

def chunks {α : Type} (size : Nat) (items : List α) : List (List α) :=
  if _h : size = 0 ∨ items = [] then []
  else items.take size :: chunks size (items.drop size)
  termination_by items.length
  decreasing_by
    have : items.length ≠ 0 := by simp; exact fun e => _h (.inr e)
    simp only [List.length_drop]
    omega

/-- The message, a set bit, zeros, and the message's length in bits, in full blocks. -/
def padMessage (block lengthWidth : Nat) (message : Bytes) : Bytes :=
  let zeros := (block - (message.length + 1 + lengthWidth) % block) % block
  message ++ 0x80 :: List.replicate zeros 0 ++ bigEndian lengthWidth (message.length * 8)

namespace Sha256

def roundConstants : List UInt32 :=
  [0x428a2f98, 0x71374491, 0xb5c0fbcf, 0xe9b5dba5, 0x3956c25b, 0x59f111f1, 0x923f82a4, 0xab1c5ed5,
    0xd807aa98, 0x12835b01, 0x243185be, 0x550c7dc3, 0x72be5d74, 0x80deb1fe, 0x9bdc06a7, 0xc19bf174,
    0xe49b69c1, 0xefbe4786, 0x0fc19dc6, 0x240ca1cc, 0x2de92c6f, 0x4a7484aa, 0x5cb0a9dc, 0x76f988da,
    0x983e5152, 0xa831c66d, 0xb00327c8, 0xbf597fc7, 0xc6e00bf3, 0xd5a79147, 0x06ca6351, 0x14292967,
    0x27b70a85, 0x2e1b2138, 0x4d2c6dfc, 0x53380d13, 0x650a7354, 0x766a0abb, 0x81c2c92e, 0x92722c85,
    0xa2bfe8a1, 0xa81a664b, 0xc24b8b70, 0xc76c51a3, 0xd192e819, 0xd6990624, 0xf40e3585, 0x106aa070,
    0x19a4c116, 0x1e376c08, 0x2748774c, 0x34b0bcb5, 0x391c0cb3, 0x4ed8aa4a, 0x5b9cca4f, 0x682e6ff3,
    0x748f82ee, 0x78a5636f, 0x84c87814, 0x8cc70208, 0x90befffa, 0xa4506ceb, 0xbef9a3f7, 0xc67178f2]

structure State where
  a : UInt32
  b : UInt32
  c : UInt32
  d : UInt32
  e : UInt32
  f : UInt32
  g : UInt32
  h : UInt32

def start : State :=
  ⟨0x6a09e667, 0xbb67ae85, 0x3c6ef372, 0xa54ff53a, 0x510e527f, 0x9b05688c,
    0x1f83d9ab, 0x5be0cd19⟩

def rotate (x n : UInt32) : UInt32 := (x >>> n) ||| (x <<< (32 - n))

/-- The next word of the schedule from the last sixteen, of which the newest comes first. -/
def nextWord (words : List UInt32) : UInt32 :=
  let w15 := words.getD 14 0
  let w2 := words.getD 1 0
  let s0 := rotate w15 7 ^^^ rotate w15 18 ^^^ (w15 >>> 3)
  let s1 := rotate w2 17 ^^^ rotate w2 19 ^^^ (w2 >>> 10)
  words.getD 15 0 + s0 + words.getD 6 0 + s1

def extend : Nat → List UInt32 → List UInt32
  | 0, words => words
  | count + 1, words => extend count (nextWord words :: words)

def round (s : State) (constant word : UInt32) : State :=
  let s1 := rotate s.e 6 ^^^ rotate s.e 11 ^^^ rotate s.e 25
  let choice := (s.e &&& s.f) ^^^ ((~~~ s.e) &&& s.g)
  let t1 := s.h + s1 + choice + constant + word
  let s0 := rotate s.a 2 ^^^ rotate s.a 13 ^^^ rotate s.a 22
  let majority := (s.a &&& s.b) ^^^ (s.a &&& s.c) ^^^ (s.b &&& s.c)
  ⟨t1 + (s0 + majority), s.a, s.b, s.c, s.d + t1, s.e, s.f, s.g⟩

def compress (s : State) (block : Bytes) : State :=
  let words := (chunks 4 block).map fun bytes => (numberOfBytes bytes).toUInt32
  let schedule := (extend 48 words.reverse).reverse
  let t := (roundConstants.zip schedule).foldl (fun s (k, w) => round s k w) s
  ⟨s.a + t.a, s.b + t.b, s.c + t.c, s.d + t.d, s.e + t.e, s.f + t.f, s.g + t.g, s.h + t.h⟩

end Sha256

def sha256 (message : Bytes) : Bytes :=
  let s := (chunks 64 (padMessage 64 8 message)).foldl Sha256.compress Sha256.start
  [s.a, s.b, s.c, s.d, s.e, s.f, s.g, s.h].flatMap fun word => bigEndian 4 word.toNat

/-- The keyed hash; a key longer than a block is hashed first. -/
def hmacSha256 (key message : Bytes) : Bytes :=
  let key := if 64 < key.length then sha256 key else key
  let block := key ++ List.replicate (64 - key.length) 0
  sha256 (block.map (· ^^^ 0x5C) ++ sha256 (block.map (· ^^^ 0x36) ++ message))

end StatusPage.Crypto
