/-!
Decimal numerals: reading with bounds, and writing with a least width.
-/

set_option autoImplicit false

namespace StatusPage.Text

inductive NumeralError where
  | empty
  | invalidDigit
  | posOverflow
  | negOverflow
  deriving DecidableEq, Repr

def isDigit (c : Char) : Bool := '0' ≤ c && c ≤ '9'

def digitValue (c : Char) : Nat := c.toNat - '0'.toNat

/-- Reads digits onto `value`, from the left; the first digit that leaves
the bound ends the reading. -/
def digitsUpTo (bound : Nat) (overflow : NumeralError) :
    Nat → List Char → Except NumeralError Nat
  | value, [] => .ok value
  | value, c :: rest =>
      if !isDigit c then .error .invalidDigit
      else if bound < value * 10 + digitValue c then .error overflow
      else digitsUpTo bound overflow (value * 10 + digitValue c) rest

/-- A numeral from `lowest` to `highest`. A plus sign may lead; a minus sign only where negative
numbers exist. -/
def readNumeral (lowest highest : Int) : List Char → Except NumeralError Int
  | [] => .error .empty
  | [c] => if isDigit c then (digitsUpTo highest.toNat .posOverflow 0 [c]).map Int.ofNat
      else .error .invalidDigit
  | '+' :: digits => (digitsUpTo highest.toNat .posOverflow 0 digits).map Int.ofNat
  | '-' :: digits =>
      if lowest < 0 then (digitsUpTo (-lowest).toNat .negOverflow 0 digits).map (fun n =>
        -Int.ofNat n)
      else .error .invalidDigit
  | digits => (digitsUpTo highest.toNat .posOverflow 0 digits).map Int.ofNat

def int64Min : Int := -9223372036854775808
def int64Max : Int := 9223372036854775807
def word64Max : Int := 18446744073709551615
def word32Max : Int := 4294967295
def word16Max : Int := 65535

def NumeralError.name : NumeralError → String
  | .empty => "Empty"
  | .invalidDigit => "InvalidDigit"
  | .posOverflow => "PosOverflow"
  | .negOverflow => "NegOverflow"

def decimal (n : Nat) : List Char := Nat.toDigits 10 n

def padded (width n : Nat) : List Char :=
  let digits := decimal n
  List.replicate (width - digits.length) '0' ++ digits

def decimalInt (n : Int) : List Char :=
  if n < 0 then '-' :: decimal n.natAbs else decimal n.natAbs

end StatusPage.Text
