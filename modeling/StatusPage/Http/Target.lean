import StatusPage.Http.Message
import StatusPage.Request
import StatusPage.Text.Utf8

/-!
Request targets: the path, whose segments may hold percent-encoded bytes, and the query, which is a
list of names and values.
-/

set_option autoImplicit false

namespace StatusPage.Http

open Text (Bytes utf8)

structure Target where
  path : List Char
  query : List Char
  deriving DecidableEq, Repr

def isPathChar (c : Char) : Bool :=
  let n := c.toNat
  n = 0x21 || n = 0x22 || (0x24 ≤ n && n ≤ 0x3B) || n = 0x3D || (0x40 ≤ n && n ≤ 0x5F) ||
    (0x61 ≤ n && n ≤ 0x7E) || 0x7F ≤ n

def isQueryChar (c : Char) : Bool :=
  let n := c.toNat
  n = 0x21 || (0x24 ≤ n && n ≤ 0x3B) || n = 0x3D || (0x3F ≤ n && n ≤ 0x7E) || 0x7F < n

def isAuthorityChar (c : Char) : Bool := c.isAlphanum || "-._~!$&'()*+,;=:@[]%".toList.contains c

/-- A path, which a question mark ends, and a query; a number sign ends both. -/
def ofPathAndQuery (text : List Char) : Option Target :=
  let text := text.takeWhile (· ≠ '#')
  let path := text.takeWhile (· ≠ '?')
  let query := (text.dropWhile (· ≠ '?')).drop 1
  if path.all isPathChar && query.all isQueryChar then some ⟨path, query⟩ else none

def afterScheme (text : List Char) : Option (List Char) :=
  let scheme := text.takeWhile fun c => c.isAlphanum || c = '+' || c = '-' || c = '.'
  match text.drop scheme.length with
  | ':' :: '/' :: '/' :: rest => if scheme.isEmpty then none else some rest
  | _ => none

def isAuthorityEnd (c : Char) : Bool := c = '/' || c = '?' || c = '#'

/-- A target as a request line gives it: a path, or a whole address. -/
def Target.ofText? (text : String) : Option Target :=
  let chars := text.toList
  if 65534 < Text.utf8Length chars then none
  else
    match chars with
    | [] => none
    | ['*'] => some ⟨['*'], []⟩
    | '/' :: _ => ofPathAndQuery chars
    | _ =>
        match afterScheme chars with
        | some rest =>
            let authority := rest.takeWhile fun c => !isAuthorityEnd c
            if authority.isEmpty || !authority.all isAuthorityChar then none
            else
              (ofPathAndQuery (rest.drop authority.length)).map fun target =>
                { target with path := if target.path.isEmpty then ['/'] else target.path }
        | none => if chars.all isAuthorityChar then some ⟨[], []⟩ else none

def Request.ofParts? (method target : String) (headers : List (String × String)) (body : Bytes) :
    Option Request := do
  let target ← Target.ofText? target
  if isToken method && headers.all fun (name, value) => isToken name && isHeaderText value then
    return {
      method := method
      path := target.path
      query := target.query
      headers :=
        headers.map fun (name, value) => (String.ofList (name.toList.map Char.toLower), value)
      body := body }
  else none

def segments (path : List Char) : Option (List (List Char)) :=
  match path with
  | '/' :: rest => some (rest.splitOn '/')
  | _ => none

def digitPair : Bytes → Option UInt8
  | h :: l :: _ => do
      let high ← Text.hexValue (Char.ofNat h.toNat)
      let low ← Text.hexValue (Char.ofNat l.toNat)
      return (high * 16 + low).toUInt8
  | _ => none

/-- Puts in the byte that a percent sign and two digits stand for; other percent signs stay. -/
def percentDecode : Bytes → Bytes
  | [] => []
  | b :: rest =>
      match if b = Text.ascii '%' then digitPair rest else none with
      | some byte => byte :: percentDecode (rest.drop 2)
      | none => b :: percentDecode rest
  termination_by bytes => bytes.length
  decreasing_by all_goals simp; try omega

def decodeSegment (segment : List Char) : Option String :=
  Text.ofUtf8? (percentDecode (utf8 (String.ofList segment)))

def decodeQueryText (text : List Char) : String :=
  let blanks := text.map fun c => if c = '+' then ' ' else c
  String.ofList (Text.decodeLossy (percentDecode (utf8 (String.ofList blanks))))

def queryPairs (query : List Char) : List (String × String) :=
  ((query.splitOn '&').filter (!·.isEmpty)).map fun pair =>
    (decodeQueryText (pair.takeWhile (· ≠ '=')),
      decodeQueryText ((pair.dropWhile (· ≠ '=')).drop 1))

def soleValue (pairs : List (String × String)) (name : String) : Option (Option String) :=
  match pairs.filter fun (n, _) => n == name with
  | [] => some none
  | [(_, value)] => some (some value)
  | _ => none

def readInt64 : Option String → Option (Option Int)
  | none => some none
  | some text => ((Text.readNumeral Text.int64Min Text.int64Max text.toList).toOption).map some

/-- The query of a list of events. Unknown names do not matter. -/
def eventQuery? (query : List Char) : Option EventQuery := do
  let pairs := queryPairs query
  let kind ← soleValue pairs "type"
  let status ← soleValue pairs "status"
  let limit ← readInt64 (← soleValue pairs "limit")
  let offset ← readInt64 (← soleValue pairs "offset")
  return ⟨kind, status, limit, offset⟩

end StatusPage.Http
