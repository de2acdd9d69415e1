import StatusPage.Text.Composition
import StatusPage.Text.Direction
import StatusPage.Text.Domain.Mapping
import StatusPage.Text.Joiner
import StatusPage.Text.Punycode

/-!
Internationalised domain names in their ASCII form.
-/

set_option autoImplicit false

namespace StatusPage.Text.Domain

def isAscii (text : List Char) : Bool := text.all fun c => c.toNat < 0x80

def splitLabels (name : List Char) : List (List Char) := name.splitOn '.'

/-- A text as names hold it: each character as what it stands for, and
marks joined to their letters. -/
def normal? (text : List Char) : Option (List Char) := do
  let parts ← text.mapM standsFor?
  return composed parts.flatten

/-- The text that a label shows; a label that is written in ASCII has to show a normal text. -/
def shown? : List Char → Option (List Char)
  | 'x' :: 'n' :: '-' :: '-' :: written =>
      if isAscii written && written.getLast?.any (· ≠ '-') then
        (Punycode.decode written).filter fun text => normal? text == some text
      else none
  | label => some label

private def isWellFormed (label : List Char) : Bool :=
  !label.head?.any isMark && joinersFit [] label

private def asciiLabel (label : List Char) : List Char :=
  if isAscii label then label else "xn--".toList ++ Punycode.encode label

def toAscii? (name : List Char) : Option (List Char) := do
  let labels := splitLabels (← normal? name)
  let texts ← labels.mapM shown?
  let isBidirectional := texts.any Direction.hasRightToLeft
  if texts.all fun text =>
    isWellFormed text && (!isBidirectional || Direction.isConsistent text) then
    return List.intercalate ['.'] (labels.map asciiLabel)
  else none

end StatusPage.Text.Domain
