import StatusPage.Text.Hex

/-!
Identifiers of 128 bits. They are written in lower case in groups of 8, 4, 4, 4 and 12 digits, and
ordered as numbers, which is the order of their written forms.
-/

set_option autoImplicit false

namespace StatusPage

structure Uuid where
  bits : BitVec 128
  deriving DecidableEq, Repr, Inhabited

namespace Uuid

def ofNat (n : Nat) : Uuid := ⟨BitVec.ofNat 128 n⟩

def toNat (id : Uuid) : Nat := id.bits.toNat

instance : LT Uuid := ⟨fun a b => a.toNat < b.toNat⟩
instance : LE Uuid := ⟨fun a b => a.toNat ≤ b.toNat⟩
instance (a b : Uuid) : Decidable (a < b) := inferInstanceAs (Decidable (a.toNat < b.toNat))
instance (a b : Uuid) : Decidable (a ≤ b) := inferInstanceAs (Decidable (a.toNat ≤ b.toNat))

def digitsOf : Nat → Nat → List Char
  | 0, _ => []
  | count + 1, n => Text.hexDigit (n >>> (4 * count) % 16) :: digitsOf count n

def toDigits (id : Uuid) : List Char := digitsOf 32 id.toNat

/-- Puts a hyphen after the 8th, 12th, 16th and 20th digit. -/
def hyphenate (digits : List Char) : List Char :=
  digits.take 8 ++ '-' :: (digits.drop 8).take 4 ++ '-' :: (digits.drop 12).take 4 ++
    '-' :: (digits.drop 16).take 4 ++ '-' :: digits.drop 20

def toText (id : Uuid) : String := String.ofList (hyphenate id.toDigits)

instance : ToString Uuid := ⟨toText⟩

def ofDigits? (digits : List Char) : Option Uuid :=
  if digits.length = 32 then (Text.hexNumber digits).map ofNat else none

def ofHyphenated? (text : List Char) : Option Uuid :=
  if text.length = 36 ∧ text[8]? = some '-' ∧ text[13]? = some '-' ∧ text[18]? = some '-' ∧
      text[23]? = some '-' then
    ofDigits? (text.take 8 ++ (text.drop 9).take 4 ++ (text.drop 14).take 4 ++
      (text.drop 19).take 4 ++ text.drop 24)
  else none

/-- Accepts 32 digits, the hyphenated form, and the hyphenated form in braces or behind
`urn:uuid:`. -/
def ofChars? (text : List Char) : Option Uuid :=
  match text.length with
  | 32 => ofDigits? text
  | 36 => ofHyphenated? text
  | 38 =>
      if text.head? = some '\x7b' ∧ text.getLast? = some '\x7d' then
        ofHyphenated? ((text.drop 1).take 36)
      else none
  | 45 =>
      if (text.take 9).map Char.toLower = "urn:uuid:".toList
        then ofHyphenated? (text.drop 9) else none
  | _ => none

def ofText? (text : String) : Option Uuid := ofChars? text.toList

end Uuid

end StatusPage
