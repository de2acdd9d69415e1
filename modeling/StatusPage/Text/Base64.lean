import StatusPage.Text.Utf8

/-!
Base 64 without padding, in the standard and the URL-safe alphabet. Reading is strict: a last group
of one character, a foreign character or left-over bits that are not zero are refused, so that every
sequence of bytes has one text.
-/

set_option autoImplicit false

namespace StatusPage.Text

inductive Base64Alphabet where
  | standard
  | urlSafe
  deriving DecidableEq, Repr

namespace Base64Alphabet

def digits : Base64Alphabet → List Char
  | .standard => "ABCDEFGHIJKLMNOPQRSTUVWXYZabcdefghijklmnopqrstuvwxyz0123456789+/".toList
  | .urlSafe => "ABCDEFGHIJKLMNOPQRSTUVWXYZabcdefghijklmnopqrstuvwxyz0123456789-_".toList

def digit (alphabet : Base64Alphabet) (n : Nat) : Char := alphabet.digits.getD n 'A'

def value? (alphabet : Base64Alphabet) (c : Char) : Option Nat :=
  alphabet.digits.findIdx? (· == c)

def encode (alphabet : Base64Alphabet) : Bytes → List Char
  | a :: b :: c :: rest =>
      let n := a.toNat * 65536 + b.toNat * 256 + c.toNat
      alphabet.digit (n / 262144) :: alphabet.digit (n / 4096 % 64) ::
        alphabet.digit (n / 64 % 64) :: alphabet.digit (n % 64) :: alphabet.encode rest
  | [a, b] =>
      let n := a.toNat * 256 + b.toNat
      [alphabet.digit (n / 1024), alphabet.digit (n / 16 % 64), alphabet.digit (n % 16 * 4)]
  | [a] => [alphabet.digit (a.toNat / 4), alphabet.digit (a.toNat % 4 * 16)]
  | [] => []

def decode? (alphabet : Base64Alphabet) : List Char → Option Bytes
  | c :: d :: e :: f :: rest => do
      let n := ((← alphabet.value? c) * 64 + (← alphabet.value? d)) * 4096 +
        ((← alphabet.value? e) * 64 + (← alphabet.value? f))
      let bytes ← alphabet.decode? rest
      return (n / 65536).toUInt8 :: (n / 256 % 256).toUInt8 :: (n % 256).toUInt8 :: bytes
  | [c, d, e] => do
      let n :=
        ((← alphabet.value? c) * 64 + (← alphabet.value? d)) * 64 + (← alphabet.value? e)
      if n % 4 = 0 then return [(n / 1024).toUInt8, (n / 4 % 256).toUInt8] else none
  | [c, d] => do
      let n := (← alphabet.value? c) * 64 + (← alphabet.value? d)
      if n % 16 = 0 then return [(n / 16).toUInt8] else none
  | [_] => none
  | [] => some []

end Base64Alphabet

end StatusPage.Text
