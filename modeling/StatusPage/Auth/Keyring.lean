import StatusPage.Crypto.Sha256
import StatusPage.Form.Account
import StatusPage.Json.Printer
import StatusPage.Program
import StatusPage.Text.Base64

/-!
Access tokens: claims signed with HMAC-SHA256. A keyring signs with its active key and accepts
tokens of that key and of retired ones. A token names its key; of several keys of one name the first
counts.
-/

set_option autoImplicit false

namespace StatusPage.Auth

open Json (Fields Reader)
open Text (Bytes utf8 Base64Alphabet)

/-- Signing keys by name, and the lifetime of new tokens in seconds. -/
structure Keyring where
  activeId : String
  activeSecret : String
  retired : List (String × String)
  lifetime : Int
  deriving DecidableEq, Repr

/-- Arithmetic on 64-bit integers, which starts over beyond the largest. -/
def wrap64 (n : Int) : Int := n.bmod (1 <<< 64)

def Keyring.ofMinutes (activeId activeSecret : String) (retired : List (String × String))
    (minutes : Int) : Keyring :=
  ⟨activeId, activeSecret, retired, wrap64 (minutes * 60)⟩

namespace Keyring

def entries (keyring : Keyring) : List (String × String) :=
  (keyring.activeId, keyring.activeSecret) :: keyring.retired

/-- The secret of the key that a token names; one that names none is of the active key. -/
def secretFor (keyring : Keyring) (keyId : Option String) : Option String :=
  keyring.entries.lookup (keyId.getD keyring.activeId)

end Keyring

def algorithms : List String :=
  ["HS256", "HS384", "HS512", "ES256", "ES384", "RS256", "RS384", "RS512", "PS256",
    "PS384", "PS512", "EdDSA"]

structure TokenHeader where
  algorithm : String
  keyId : Option String
  deriving DecidableEq, Repr

namespace TokenHeader

def signed (keyId : String) : TokenHeader := ⟨"HS256", some keyId⟩

def toJson (header : TokenHeader) : Json :=
  .object ([("typ", .str "JWT"), ("alg", .str header.algorithm)] ++
    (header.keyId.map fun id => ("kid", .str id)).toList)

def readAlgorithm : Reader String :=
  Reader.variant fun name => if algorithms.contains name then some name else none

def keyMembers : List (String × List String) :=
  [("EC", ["crv", "x", "y"]), ("RSA", ["n", "e"]), ("oct", ["k"]), ("OKP", ["crv", "x"])]

/-- A public key in a header; its use is not needed, its shape is checked. -/
def readKey : Reader Unit
  | .record members => do
      Reader.ignored (.record members)
      let textOf (name : String) : Option String :=
        match members.lookup (some name) with
        | some (.text t) => t
        | _ => none
      match (textOf "kty").bind fun kind => keyMembers.lookup kind with
      | some names =>
        if names.all fun name => (textOf name).isSome then .ok () else .error .mismatch
      | none => .error .mismatch
  | j => .error (Json.refusal j)

def fields : Fields TokenHeader :=
  (fun _ algorithm _ _ _ keyId _ _ _ _ => ⟨algorithm, keyId⟩) <$> .nullable "typ" Reader.text
    <*> .required "alg" readAlgorithm <*> .nullable "cty" Reader.text
    <*> .nullable "jku" Reader.text <*> .nullable "jwk" readKey <*> .nullable "kid" Reader.text
    <*> .nullable "x5u" Reader.text <*> .nullable "x5c" (Reader.list Reader.text)
    <*> .nullable "x5t" Reader.text <*> .nullable "x5t#S256" Reader.text

/-- A header is a record with its keys; the list form is not accepted here. -/
def read : Reader TokenHeader
  | .record members => Reader.record fields (.record members)
  | j => .error (Json.refusal j)

end TokenHeader

/-- The parts of a token: header, claims and signature. The last two dots count. -/
structure TokenParts where
  header : List Char
  claims : List Char
  signature : List Char
  deriving DecidableEq, Repr

def splitLastDot (text : List Char) : Option (List Char × List Char) :=
  let after := (text.reverse.takeWhile (· ≠ '.')).reverse
  if after.length = text.length then none
    else some (text.take (text.length - after.length - 1), after)

def TokenParts.ofText? (token : String) : Option TokenParts := do
  let (message, signature) ← splitLastDot token.toList
  let (header, claims) ← splitLastDot message
  return ⟨header, claims, signature⟩

/-- What is signed: header and claims as they are written. -/
def TokenParts.message (parts : TokenParts) : List Char := parts.header ++ '.' :: parts.claims

def signature (secret : String) (message : List Char) : List Char :=
  Base64Alphabet.urlSafe.encode (Crypto.hmacSha256 (utf8 secret) (utf8 (String.ofList message)))

def encodePart (j : Json) : List Char := Base64Alphabet.urlSafe.encode (Json.write j)

def decodePart {α : Type} (read : Reader α) (part : List Char) : Option α := do
  let bytes ← Base64Alphabet.urlSafe.decode? part
  (Json.readAll read bytes).toOption

def assemble (secret : String) (header claims : Json) : String :=
  let message := encodePart header ++ '.' :: encodePart claims
  String.ofList (message ++ '.' :: signature secret message)

/-- A token that starts at `now`, in seconds, and its lifetime. -/
def Keyring.sign (keyring : Keyring) (now : Int) (tokenId : String) (identity : Identity) :
    String × Int :=
  let claims : Claims :=
    { subject := identity.userId, role := identity.role, expires := wrap64 (now + keyring.lifetime),
      issued := now, tokenId := tokenId }
  (assemble keyring.activeSecret (TokenHeader.signed keyring.activeId).toJson claims.toJson,
    keyring.lifetime)

/-- Seconds that a token is accepted beyond its end. -/
def leeway : Int := 60

/-- What the registered claims say about the use of a token: when it ends, and whether it is meant
for a particular audience. -/
structure Restrictions where
  expires : Option Int
  audience : Bool
  deriving DecidableEq, Repr

namespace Restrictions

def readExpiry : Reader (Option Int)
  | .number n => .ok (n.toInt?.filter (0 ≤ ·))
  | _ => .ok none

/-- A time before which a token is not valid is not looked at, but a list or record in its place is
not passed over. -/
def readNotBefore : Reader Unit
  | .list (_ :: _) => .error .malformed
  | .record (_ :: _) => .error .malformed
  | _ => .ok ()

def readAudience : Reader Bool
  | .text _ => .ok true
  | .list items => .ok (items.all fun
      | .text _ => true
      | _ => false)
  | _ => .ok false

def readAny : Reader Unit := fun _ => .ok ()

def fields : Fields Restrictions :=
  (fun expires _ _ _ audience => ⟨expires, audience⟩) <$> .withDefault "exp" readExpiry none
    <*> .withDefault "nbf" readNotBefore () <*> .withDefault "sub" readAny ()
    <*> .withDefault "iss" readAny () <*> .withDefault "aud" readAudience false

end Restrictions

def readClaims : Reader (Claims × Restrictions) := fun j => do
  let claims ← Reader.record Claims.fields j
  let restrictions ← Reader.record Restrictions.fields j
  return (claims, restrictions)

/-- Whom a token speaks for at a time in seconds. Key and signature are checked first, so that only
the holder of a key can find out that a token has expired. -/
def Keyring.verify (keyring : Keyring) (now : Int) (token : String) :
    Except AuthError Identity := do
  let some parts := TokenParts.ofText? token | .error .invalidToken
  let some header := decodePart TokenHeader.read parts.header | .error .invalidToken
  let some secret := keyring.secretFor header.keyId | .error .invalidToken
  if header.algorithm ≠ "HS256" ∨ parts.signature ≠ signature secret parts.message then
    .error .invalidToken
  let some (claims, restrictions) := decodePart readClaims parts.claims | .error .invalidToken
  let some expires := restrictions.expires | .error .invalidToken
  if expires < now - leeway then .error .tokenExpired
  if restrictions.audience then .error .invalidToken
  return ⟨claims.subject, claims.role⟩

end StatusPage.Auth
