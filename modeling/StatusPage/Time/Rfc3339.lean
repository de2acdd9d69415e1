import StatusPage.Text.Blank
import StatusPage.Text.Numeral
import StatusPage.Time.Instant

/-!
Instants as text. Written in UTC with 0, 3, 6 or 9 digits of fraction, the fewest that hold the
value. Read with blanks around the parts, short fields, a missing colon in the offset and `UTC` as a
zone.
-/

set_option autoImplicit false

namespace StatusPage.Time

open Text

/-- Four digits, with a sign outside 0 to 9999. -/
def yearText (year : Int) : List Char :=
  if 0 ≤ year ∧ year ≤ 9999 then padded 4 year.natAbs
  else (if year < 0 then '-' else '+') :: padded 4 year.natAbs

def dateText (date : Date) : List Char :=
  yearText date.year ++ '-' :: padded 2 date.month ++ '-' :: padded 2 date.day

/-- Hours, minutes and seconds; the second is 60 in a leap second. -/
def clockText (t : Instant) : List Char :=
  let s := t.secondOfDay
  padded 2 (s / 3600) ++ ':' :: padded 2 (s / 60 % 60) ++ ':' ::
    padded 2 (s % 60 + t.nanos / 1000000000)

def fractionText (nanos : Nat) : List Char :=
  let n := nanos % 1000000000
  if n = 0 then []
  else if n % 1000000 = 0 then '.' :: padded 3 (n / 1000000)
  else if n % 1000 = 0 then '.' :: padded 6 (n / 1000)
  else '.' :: padded 9 n

namespace Instant

def toText (t : Instant) : String :=
  String.ofList (dateText t.date ++ 'T' :: clockText t ++ fractionText t.nanos ++ ['Z'])

def toSentence (t : Instant) : String :=
  String.ofList (dateText t.date ++ ' ' :: clockText t ++ " UTC".toList)

end Instant

def microsText (micros : Int) : String :=
  let whole : Instant := ⟨micros / 1000000, 0⟩
  String.ofList (dateText whole.date ++ 'T' :: clockText whole ++
    '.' :: padded 6 (micros % 1000000).toNat ++ ['Z'])

def readDigits (width : Nat) (text : List Char) : Option (Nat × List Char) :=
  let digits := (text.take width).takeWhile isDigit
  if digits.isEmpty then none
  else some (digits.foldl (fun n c => n * 10 + digitValue c) 0, text.drop digits.length)

def readField (text : List Char) : Option (Nat × List Char) := readDigits 2 (dropBlanks text)

def readMark (mark : Char) (text : List Char) : Option (List Char) :=
  match dropBlanks text with
  | c :: rest => if c = mark then some rest else none
  | [] => none

/-- A year of up to four digits, or of any length behind a sign. -/
def readYear (text : List Char) : Option (Int × List Char) :=
  match dropBlanks text with
  | '-' :: rest => (readDigits rest.length rest).map fun (n, rest) => (-(n : Int), rest)
  | '+' :: rest => (readDigits rest.length rest).map fun (n, rest) => ((n : Int), rest)
  | text => (readDigits 4 text).map fun (n, rest) => ((n : Int), rest)

def readDate (text : List Char) : Option (Date × List Char) := do
  let (year, text) ← readYear text
  let text ← readMark '-' text
  let (month, text) ← readField text
  let text ← readMark '-' text
  let (day, text) ← readField text
  return (⟨year, month, day⟩, text)

/-- A fraction of a second in nanoseconds; digits after the ninth do not count. -/
def readFraction : List Char → Option (Nat × List Char)
  | '.' :: rest => do
      let digits := (rest.take 9).takeWhile isDigit
      if digits.isEmpty then none
      else
        let value := digits.foldl (fun n c => n * 10 + digitValue c) 0
        return (value * Nat.pow 10 (9 - digits.length), rest.dropWhile isDigit)
  | text => some (0, text)

def readSign : List Char → Option (Int × List Char)
  | '+' :: rest => some (1, rest)
  | '-' :: rest => some (-1, rest)
  | '−' :: rest => some (-1, rest)
  | _ => none

/-- The offset of a zone in seconds. Hours and minutes have two digits each; colons and blanks may
stand between them. -/
def readZone (text : List Char) : Option (Int × List Char) :=
  let text := dropBlanks text
  if (text.take 3).map Char.toUpper = ['U', 'T', 'C'] then some (0, text.drop 3)
  else
    match text with
    | 'Z' :: rest => some (0, rest)
    | 'z' :: rest => some (0, rest)
    | _ => do
        let (sign, rest) ← readSign text
        match rest with
        | h :: h' :: rest =>
            match rest.dropWhile (fun c => c = ':' || isBlank c) with
            | m :: m' :: rest =>
                if isDigit h && isDigit h' && isDigit m && isDigit m' && m < '6' then
                  let seconds : Nat := (digitValue h * 10 + digitValue h') * 3600 +
                    (digitValue m * 10 + digitValue m') * 60
                  if seconds < 86400 then some (sign * seconds, rest) else none
                else none
            | _ => none
        | _ => none

def readSeparator : List Char → Option (List Char)
  | 'T' :: rest => some rest
  | 't' :: rest => some rest
  | ' ' :: rest => some rest
  | _ => none

def instantOf (date : Date) (hour minute second nanos : Nat) (offset : Int) :
    Option Instant :=
  let leap := if second = 60 then 1000000000 else 0
  let t : Instant := ⟨date.toDays * 86400 + hour * 3600 + minute * 60 + min second 59 - offset,
    nanos + leap⟩
  if date.Valid ∧ firstYear ≤ date.year ∧ date.year ≤ lastYear ∧ hour < 24 ∧
    minute < 60 ∧ second ≤ 60 ∧
      t.InRange then some t
  else none

namespace Instant

def ofChars? (text : List Char) : Option Instant := do
  let (date, text) ← readDate text
  let text ← readSeparator text
  let (hour, text) ← readField text
  let text ← readMark ':' text
  let (minute, text) ← readField text
  let text ← readMark ':' text
  let (second, text) ← readField text
  let (nanos, text) ← readFraction text
  let (offset, text) ← readZone text
  if (dropBlanks text).isEmpty then instantOf date hour minute second nanos offset else none

def ofText? (text : String) : Option Instant := ofChars? text.toList

end Instant

end StatusPage.Time
