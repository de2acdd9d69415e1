import StatusPage.Text.Hex
import StatusPage.Json.Basic

/-!
JSON values as text without blanks. Quotes, backslashes and control characters are escaped,
everything else stands as it is.
-/

set_option autoImplicit false

namespace StatusPage.Json

open Text (Bytes ascii utf8)

def escapeByte (b : UInt8) : Bytes :=
  if b = ascii '"' then [ascii '\\', ascii '"']
  else if b = ascii '\\' then [ascii '\\', ascii '\\']
  else if b = 8 then [ascii '\\', ascii 'b']
  else if b = 9 then [ascii '\\', ascii 't']
  else if b = 10 then [ascii '\\', ascii 'n']
  else if b = 12 then [ascii '\\', ascii 'f']
  else if b = 13 then [ascii '\\', ascii 'r']
  else if b < 0x20 then
    ascii '\\' :: ascii 'u' :: ascii '0' :: ascii '0' :: (Text.hexOfByte b).map ascii
  else [b]

def writeText (text : String) : Bytes :=
  ascii '"' :: ((utf8 text).flatMap escapeByte ++ [ascii '"'])

/-- An integer is written plain; any other number as an integer with an exponent. -/
def writeNumber (n : Number) : Bytes :=
  let sign := if n.negative then [ascii '-'] else []
  let exponent := if n.integral then [] else ascii 'e' :: (Text.decimalInt n.exponent).map ascii
  sign ++ (Text.decimal n.digits).map ascii ++ exponent

mutual

def write : Json → Bytes
  | .null => utf8 "null"
  | .bool true => utf8 "true"
  | .bool false => utf8 "false"
  | .number n => writeNumber n
  | .text t => writeText (t.getD "")
  | .list items => ascii '[' :: (writeItems items ++ [ascii ']'])
  | .record members => 0x7B :: (writeMembers members ++ [0x7D])
  | .broken _ => []

def writeItems : List Json → Bytes
  | [] => []
  | [item] => write item
  | item :: rest => write item ++ ascii ',' :: writeItems rest

def writeMembers : List (Option String × Json) → Bytes
  | [] => []
  | [(key, value)] => writeText (key.getD "") ++ ascii ':' :: write value
  | (key, value) :: rest =>
      writeText (key.getD "") ++ ascii ':' :: (write value ++ ascii ',' :: writeMembers rest)

end

end StatusPage.Json
