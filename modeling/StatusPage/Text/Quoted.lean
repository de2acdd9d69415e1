import StatusPage.Text.Printable

/-!
Quoted text: a text between double quotes in which quotes, backslashes and characters that would not
show are written as escapes.
-/

set_option autoImplicit false

namespace StatusPage.Text

def hexNumeral (n : Nat) : List Char := Nat.toDigits 16 n

def quoteChar (c : Char) : List Char :=
  if c = '"' then ['\\', '"']
  else if c = '\\' then ['\\', '\\']
  else if c = '\n' then ['\\', 'n']
  else if c = '\r' then ['\\', 'r']
  else if c = '\t' then ['\\', 't']
  else if c = '\x00' then ['\\', '0']
  else if isPrintable c then [c]
  else '\\' :: 'u' :: '\x7b' :: (hexNumeral c.toNat ++ ['\x7d'])

def quote (text : String) : String :=
  String.ofList ('"' :: (text.toList.flatMap quoteChar ++ ['"']))

end StatusPage.Text
