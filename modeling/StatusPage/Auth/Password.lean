import StatusPage.Crypto.Argon2
import StatusPage.Text.Base64
import StatusPage.Text.Numeral
import StatusPage.Text.Quoted

/-!
Password hashes as text: `$` in front of each of the algorithm, the version, the costs, the salt and
the hash. The text says how to compute the hash, so that old ones stay good when the settings
change.
-/

set_option autoImplicit false

namespace StatusPage.Auth

open Text (Bytes Base64Alphabet)
open Crypto (Argon2.Variant Argon2.Parameters)

inductive ValueFlaw where
  | invalidChar (c : Char)
  | invalidFormat
  | malformed
  | tooLong
  | tooShort
  deriving DecidableEq, Repr

def ValueFlaw.message : ValueFlaw → String
  | .invalidChar c => "contains invalid character: '" ++ c.toString ++ "'"
  | .invalidFormat => "value format is invalid"
  | .malformed => "value malformed"
  | .tooLong => "value to long"
  | .tooShort => "value to short"

inductive PasswordError where
  | algorithm
  | encoding
  | encodedLength
  | outputTooShort (least : Nat)
  | outputTooLong (most : Nat)
  | paramName
  | paramValue (flaw : ValueFlaw)
  | paramsTooLong
  | missingField
  | trailingField
  | salt (flaw : ValueFlaw)
  | version
  deriving DecidableEq, Repr

def PasswordError.message : PasswordError → String
  | .algorithm => "unsupported algorithm"
  | .encoding => "invalid Base64 encoding"
  | .encodedLength => "invalid Base64 length"
  | .outputTooShort least =>
      "output size too short, expected at least " ++ toString least ++ " bytes"
  | .outputTooLong most => "output size too long, expected at most " ++ toString most ++ " bytes"
  | .paramName => "invalid parameter name"
  | .paramValue flaw => "invalid parameter value: " ++ flaw.message
  | .paramsTooLong => "maximum number of parameters reached"
  | .missingField => "password hash string missing field"
  | .trailingField => "password hash string contains trailing characters"
  | .salt flaw => "salt invalid: " ++ flaw.message
  | .version => "invalid algorithm version"

/-- The costs of hashing: memory in KiB, passes over it, and lanes. -/
structure PasswordCosts where
  memoryKib : Nat
  iterations : Nat
  parallelism : Nat
  deriving DecidableEq, Repr

namespace PasswordCosts

def default : PasswordCosts := ⟨19456, 2, 1⟩

def check (costs : PasswordCosts) : Except PasswordError Unit :=
  if costs.memoryKib < 8 ∨ costs.memoryKib < 8 * costs.parallelism
    then .error (.paramValue .tooShort)
  else if costs.iterations < 1 ∨ costs.parallelism < 1 then .error (.paramValue .tooShort)
  else if 0xFFFFFF < costs.parallelism then .error (.paramValue .tooLong)
  else .ok ()

end PasswordCosts

/-- A hash text taken apart; the costs are still names and values. -/
structure PasswordHash where
  algorithm : String
  version : Option Nat
  params : List (String × List Char)
  salt : Option (List Char)
  hash : Option Bytes
  deriving DecidableEq, Repr

namespace PasswordHash

def isNameChar (c : Char) : Bool :=
  ('a' ≤ c && c ≤ 'z') || ('0' ≤ c && c ≤ '9') || c == '-'

def isValueChar (c : Char) : Bool :=
  c.isAlphanum || c == '/' || c == '+' || c == '.' || c == '-'

def readName (text : List Char) : Except PasswordError String :=
  if text.isEmpty ∨ 32 < text.length ∨ !text.all isNameChar then .error .paramName
  else .ok (String.ofList text)

def checkValue (wrap : ValueFlaw → PasswordError) (text : List Char) :
    Except PasswordError (List Char) :=
  if 64 < Text.utf8Length text then .error (wrap .tooLong)
  else
    match text.find? fun c => !isValueChar c with
    | some c => .error (wrap (.invalidChar c))
    | none => .ok text

def readNumber (text : List Char) : Except PasswordError Nat :=
  if text.isEmpty then .error (.paramValue .malformed)
  else
    match text.find? fun c => !Text.isDigit c with
    | some c => .error (.paramValue (.invalidChar c))
    | none =>
        if text.head? = some '0' ∧ 1 < text.length then .error (.paramValue .invalidFormat)
        else
          match Text.readNumeral 0 Text.word32Max text with
          | .ok n => .ok n.toNat
          | .error _ => .error (.paramValue .invalidFormat)

def readParam (text : List Char) : Except PasswordError (String × List Char) :=
  match text.splitOn '=' with
  | [] => .error .paramName
  | [name] => do
      let _ ← readName name
      .error (.paramValue .malformed)
  | [name, value] => return ((← readName name), (← checkValue .paramValue value))
  | name :: value :: _ => do
      let _ ← readName name
      let _ ← checkValue .paramValue value
      .error (.paramValue .malformed)

def readParams (text : List Char) : Except PasswordError (List (String × List Char)) :=
  if 127 < Text.utf8Length text then .error .paramsTooLong else (text.splitOn ',').mapM readParam

def readSalt (text : List Char) : Except PasswordError (List Char) :=
  if Text.utf8Length text < 4 then .error (.salt .tooShort) else checkValue .salt text

def decode (text : List Char) : Except PasswordError Bytes :=
  match Base64Alphabet.standard.decode? text with
  | some bytes => .ok bytes
  | none => .error .encoding

def readOutput (text : List Char) : Except PasswordError Bytes := do
  if 64 < Text.utf8Length text * 3 / 4 then .error .encodedLength
  else
    let bytes ← decode text
    if bytes.length < 10 then .error (.outputTooShort 10) else .ok bytes

def readVersion : List Char → Except PasswordError Nat
  | text => do readNumber (← checkValue .paramValue text)

/-- Salt and hash, which may be missing, at the end. -/
def readTail (algorithm : String) (version : Option Nat) (params : List (String × List Char)) :
    List (List Char) → Except PasswordError PasswordHash
  | [] => .ok ⟨algorithm, version, params, none, none⟩
  | [salt] => return ⟨algorithm, version, params, some (← readSalt salt), none⟩
  | [salt, hash] =>
      return ⟨algorithm, version, params, some (← readSalt salt), some (← readOutput hash)⟩
  | salt :: hash :: _ => do
      let _ ← readSalt salt
      let _ ← readOutput hash
      .error .trailingField

/-- The costs are the next field, if it holds an equals sign. -/
def readRest (algorithm : String) (version : Option Nat) :
    List (List Char) → Except PasswordError PasswordHash
  | [] => readTail algorithm version [] []
  | field :: rest => do
      if field.contains '=' then readTail algorithm version (← readParams field) rest
      else readTail algorithm version [] (field :: rest)

def readFields : List (List Char) → Except PasswordError PasswordHash
  | [] :: algorithm :: rest => do
      let algorithm ← readName algorithm
      match rest with
      | [] => readRest algorithm none []
      | field :: rest =>
          match field with
          | 'v' :: '=' :: version =>
              if version.contains ',' then readRest algorithm none (field :: rest)
              else readRest algorithm (some (← readVersion version)) rest
          | _ => readRest algorithm none (field :: rest)
  | _ => .error .missingField

def ofText (text : String) : Except PasswordError PasswordHash :=
  if text = "" then .error .missingField else readFields (text.toList.splitOn '$')

structure Settings where
  costs : PasswordCosts
  associated : Bytes
  deriving DecidableEq, Repr

def limited (most : Nat) (value : List Char) : Except PasswordError Bytes := do
  let bytes ← decode value
  if most < bytes.length then .error (.paramValue .tooLong) else .ok bytes

def applyParam (settings : Settings) : String × List Char → Except PasswordError Settings
  | ("m", value) =>
      return { settings with costs := { settings.costs with memoryKib := (← readNumber value) } }
  | ("t", value) =>
      return { settings with costs := { settings.costs with iterations := (← readNumber value) } }
  | ("p", value) =>
      return { settings with
        costs := { settings.costs with parallelism := (← readNumber value) } }
  | ("keyid", value) => do
      let _ ← limited 8 value
      return settings
  | ("data", value) => return { settings with associated := (← limited 32 value) }
  | _ => .error .paramName

def settings (parsed : PasswordHash) : Except PasswordError Settings := do
  let settings ← parsed.params.foldlM applyParam ⟨PasswordCosts.default, []⟩
  settings.costs.check
  return settings

def variantOf : String → Except PasswordError Argon2.Variant
  | "argon2d" => .ok .dependent
  | "argon2i" => .ok .independent
  | "argon2id" => .ok .hybrid
  | _ => .error .algorithm

def versionOf : Option Nat → Except PasswordError Nat
  | none => .ok 19
  | some 16 => .ok 16
  | some 19 => .ok 19
  | some _ => .error .version

def saltBytes (salt : List Char) : Except PasswordError Bytes := do
  let bytes ← decode salt
  if bytes.length < 8 then .error (.salt .tooShort) else .ok bytes

/-- Whether a password has the hash. A text without salt or hash is the hash of nothing. -/
def accepts (parsed : PasswordHash) (password : String) : Except PasswordError Bool :=
  match parsed.salt, parsed.hash with
  | some salt, some hash => do
      let settings ← parsed.settings
      let variant ← variantOf parsed.algorithm
      let version ← versionOf parsed.version
      let salt ← saltBytes salt
      let costs := settings.costs
      let p : Argon2.Parameters :=
        ⟨variant, version, costs.memoryKib, costs.iterations, costs.parallelism⟩
      return Crypto.Argon2.hash p (Text.utf8 password) salt settings.associated hash.length == hash
  | _, _ => .ok false

end PasswordHash

def verifyPassword (password hash : String) : Except PasswordError Bool := do
  (← PasswordHash.ofText hash).accepts password

def hashPassword (costs : PasswordCosts) (salt : Bytes) (password : String) : String :=
  let p : Argon2.Parameters :=
    ⟨.hybrid, 19, costs.memoryKib, costs.iterations, costs.parallelism⟩
  let hash := Crypto.Argon2.hash p (Text.utf8 password) salt [] 32
  String.ofList ("$argon2id$v=19$m=".toList ++ Text.decimal costs.memoryKib ++ ",t=".toList ++
    Text.decimal costs.iterations ++ ",p=".toList ++ Text.decimal costs.parallelism ++
    '$' :: Base64Alphabet.standard.encode salt ++ '$' :: Base64Alphabet.standard.encode hash)

end StatusPage.Auth
