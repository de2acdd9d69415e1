import StatusPage.Text.Utf8

/-!
Hexadecimal text: two lower-case digits a byte when written, either case when read.
-/

set_option autoImplicit false

namespace StatusPage.Text

def hexDigit (n : Nat) : Char := "0123456789abcdef".toList.getD n '0'

def hexValue (c : Char) : Option Nat :=
  if '0' ≤ c && c ≤ '9' then some (c.toNat - 48)
  else if 'a' ≤ c && c ≤ 'f' then some (c.toNat - 87)
  else if 'A' ≤ c && c ≤ 'F' then some (c.toNat - 55)
  else none

def hexOfByte (b : UInt8) : List Char := [hexDigit (b.toNat / 16), hexDigit (b.toNat % 16)]

def hexOfBytes (bytes : Bytes) : String := String.ofList (bytes.flatMap hexOfByte)

def hexNumber (digits : List Char) : Option Nat :=
  digits.foldlM (fun value c => (hexValue c).map (value * 16 + ·)) 0

def bytesOfHex? : List Char → Option Bytes
  | [] => some []
  | high :: low :: rest => do
      let byte := (← hexValue high) * 16 + (← hexValue low)
      return byte.toUInt8 :: (← bytesOfHex? rest)
  | [_] => none

theorem hexValue_hexDigit {n : Nat} (h : n < 16) : hexValue (hexDigit n) = some n := by
  have all : ∀ m ∈ List.range 16, hexValue (hexDigit m) = some m := by decide
  exact all n (List.mem_range.mpr h)

end StatusPage.Text
