import StatusPage.Text.Domain
import StatusPage.Text.Hex
import StatusPage.Text.Numeral

/-!
Which texts are e-mail addresses: a local part of letters, digits and certain signs, and a domain of
host labels, an internationalised domain, or an IP address in brackets.
-/

set_option autoImplicit false

namespace StatusPage.Account

open Text

private def isLocalChar (c : Char) : Bool :=
  c.isAlphanum || ".!#$%&'*+/=?^_`|~-\x7b\x7d".toList.contains c

/-- One to 63 letters, digits and hyphens, with no hyphen at either end. -/
def isHostLabel (label : List Char) : Bool :=
  label.all (fun c => c.isAlphanum || c = '-') && 1 ≤ label.length && label.length ≤ 63 &&
    label.head? != some '-' && label.getLast? != some '-'

def isHostName (name : List Char) : Bool := (Domain.splitLabels name).all isHostLabel

private def isOctet (digits : List Char) : Bool :=
  digits.all isDigit && 1 ≤ digits.length && digits.length ≤ 3 &&
    (digits.length = 1 || digits.head? != some '0') &&
    digits.foldl (fun n c => n * 10 + digitValue c) 0 ≤ 255

def isIpv4 (text : List Char) : Bool :=
  let parts := text.splitOn '.'
  parts.length = 4 && parts.all isOctet

private def isGroup (digits : List Char) : Bool :=
  1 ≤ digits.length && digits.length ≤ 4 && digits.all fun c => (hexValue c).isSome

/-- How many 16-bit groups a run of groups between colons holds; the last may be an IPv4 address. -/
private def groupCount (ipv4Last : Bool) : List (List Char) → Option Nat
  | [] => some 0
  | [last] =>
      if isGroup last then some 1 else if ipv4Last && isIpv4 last then some 2 else none
  | group :: rest => if isGroup group then (groupCount ipv4Last rest).map (· + 1) else none

private def splitAtGap : List Char → Option (List Char × List Char)
  | ':' :: ':' :: rest => some ([], rest)
  | c :: rest => (splitAtGap rest).map fun (before, after) => (c :: before, after)
  | [] => none

private def groupsOf (text : List Char) : List (List Char) :=
  if text.isEmpty then [] else text.splitOn ':'

/-- Eight groups, or fewer around one double colon. -/
def isIpv6 (text : List Char) : Bool :=
  match splitAtGap text with
  | none => groupCount true (groupsOf text) == some 8
  | some (before, after) =>
      match groupCount false (groupsOf before), groupCount true (groupsOf after) with
      | some m, some n => m + n ≤ 7
      | _, _ => false

private def endsInAddressLiteral (domain : List Char) : Bool :=
  match domain.reverse with
  | ']' :: rest =>
      let inner := (rest.takeWhile (· ≠ '[')).reverse
      rest.contains '[' && (isIpv4 inner || isIpv6 inner)
  | _ => false

private def isDomain (domain : List Char) : Bool := isHostName domain || endsInAddressLiteral domain

def isEmailAddress (text : String) : Bool :=
  let chars := text.toList
  let domain := (chars.reverse.takeWhile (· ≠ '@')).reverse
  let localPart := (chars.reverse.dropWhile (· ≠ '@')).drop 1 |>.reverse
  chars.contains '@' && localPart.length ≤ 64 && domain.length ≤ 255 &&
    !localPart.isEmpty && localPart.all isLocalChar &&
    (isDomain domain || (Domain.toAscii? domain).any isDomain)

end StatusPage.Account
