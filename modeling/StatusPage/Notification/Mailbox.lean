import StatusPage.Text.Blank
import StatusPage.Text.Domain
import StatusPage.Text.Utf8

/-!
Mailboxes as the headers of a mail name them: an address, or a display name with an address in angle
brackets.
-/

set_option autoImplicit false

namespace StatusPage.Notification

inductive AddressError where
  | invalidInput
  | invalidUser
  | invalidDomain
  deriving DecidableEq, Repr

def AddressError.message : AddressError → String
  | .invalidInput => "Invalid input"
  | .invalidUser => "Invalid email user"
  | .invalidDomain => "Invalid email domain"

namespace Mailbox

private def isAtomChar (c : Char) : Bool :=
  c.isAlphanum || 0x80 ≤ c.toNat || "!#$%&'*+-/=?^_`|~\x7b\x7d".toList.contains c

private def isSpace (c : Char) : Bool := c = ' ' || c = '\t'

private def isDotAtom (text : List Char) : Bool :=
  (text.splitOn '.').all fun atom => !atom.isEmpty && atom.all isAtomChar

private def isQuotedChar (c : Char) : Bool :=
  c ≠ '"' && c ≠ '\\' && (' ' ≤ c || c = '\t') && c.toNat ≠ 0x7F

/-- The content of a text in quotes, and what follows the closing quote; a backslash takes the next
character as it is. -/
private def readQuoted : List Char → Option (List Char × List Char)
  | [] => none
  | '"' :: rest => some ([], rest)
  | '\\' :: c :: rest => (readQuoted rest).map fun (content, rest) => (c :: content, rest)
  | c :: rest =>
      if isQuotedChar c then (readQuoted rest).map fun (content, rest) =>
        (c :: content, rest) else none

/-- A dot-atom, with a blank if blanks stand before it. -/
private def readDotAtom (text : List Char) : Option (List Char × List Char) :=
  let blanks := text.takeWhile isSpace
  let rest := text.drop blanks.length
  let atoms := rest.takeWhile fun c => isAtomChar c || c = '.'
  if isDotAtom atoms then some (blanks.take 1 ++ atoms, rest.drop atoms.length) else none

private def readLocalPart : List Char → Option (List Char × List Char)
  | '"' :: rest =>
      (readQuoted rest).map fun (content, rest) =>
        ((content.reverse.dropWhile isSpace).reverse, rest)
  | text => readDotAtom text

private def isLiteralChar (c : Char) : Bool :=
  '!' ≤ c && c ≤ '~' && c ≠ '[' && c ≠ ']' && c ≠ '\\'

private def readDomain : List Char → Option (List Char × List Char)
  | '[' :: rest =>
      let literal := rest.takeWhile isLiteralChar
      match rest.drop literal.length with
      | ']' :: rest => some ('[' :: literal ++ [']'], rest)
      | _ => none
  | text => readDotAtom text

private def readAddress (text : List Char) : Option ((List Char × List Char) × List Char) := do
  let (user, rest) ← readLocalPart text
  match rest with
  | '@' :: rest => (readDomain rest).map fun (domain, rest) => ((user, domain), rest)
  | _ => none

/-- What follows the bracket after a display name; the flag says whether a quote is open. -/
private def afterName : Bool → List Char → Option (List Char)
  | _, [] => none
  | true, '"' :: rest => afterName false rest
  | true, '\\' :: _ :: rest => afterName true rest
  | true, c :: rest => if isQuotedChar c then afterName true rest else none
  | false, '<' :: rest => some rest
  | false, '"' :: rest => afterName true rest
  | false, c :: rest => if isAtomChar c || isSpace c || c = '.' then afterName false rest else none

private def readBracketed (text : List Char) : Option (List Char × List Char) := do
  if text.head? = some '.' then none
  match ← readAddress (← afterName false text) with
  | (address, ['>']) => some address
  | _ => none

private def readPlain (text : List Char) : Option (List Char × List Char) := do
  match ← readAddress text with
  | (address, []) => some address
  | _ => none

private def isLabel (label : List Char) : Bool :=
  let isEnd (c : Option Char) : Bool := c.any fun c => c.isAlphanum || 0x80 ≤ c.toNat
  Text.utf8Length label ≤ 63 && isEnd label.head? && isEnd label.getLast? && label.all isAtomChar

private def isDomain (domain : List Char) : Bool :=
  domain.head? == some '[' || Text.utf8Length domain ≤ 254 && (domain.splitOn '.').all isLabel

private def checkDomain (domain : List Char) : Except AddressError Unit :=
  if isDomain domain || (Text.Domain.toAscii? domain).any isDomain then .ok ()
  else .error .invalidDomain

def check (text : String) : Except AddressError Unit :=
  let text := Text.trim text.toList
  match (readBracketed text).or (readPlain text) with
  | none => .error .invalidInput
  | some (user, domain) =>
      if Text.utf8Length user ≤ 64 && isDotAtom user then checkDomain domain
        else .error .invalidUser

end Mailbox

end StatusPage.Notification
