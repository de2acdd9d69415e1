import StatusPage.Json.Printer
import StatusPage.Text.Hex

/-!
HTTP requests and responses.
-/

set_option autoImplicit false

namespace StatusPage.Http

open Text (Bytes)

/-- Header names are in lower case; of several values of one name the first counts. -/
structure Request where
  method : String
  path : List Char
  query : List Char
  headers : List (String × String)
  body : Bytes

inductive Body where
  | empty
  | json (value : Json)
  | plain (text : String)

structure Response where
  status : Nat
  headers : List (String × String)
  body : Body

def Request.header? (request : Request) (name : String) : Option String :=
  request.headers.lookup name

def isToken (text : String) : Bool :=
  !text.isEmpty && text.toList.all fun c => c.isAlphanum || "!#$%&'*+-.^_`|~".toList.contains c

def isHeaderText (text : String) : Bool :=
  text.toList.all fun c => c = '\t' || (0x20 ≤ c.toNat && c.toNat ≠ 0x7F)

def isVisibleAscii (c : Char) : Bool := c = '\t' || (' ' ≤ c && c ≤ '~')

/-- The value of a header, if all its characters are visible ASCII. -/
def Request.asciiHeader? (request : Request) (name : String) : Option String :=
  (request.header? name).filter fun value => value.toList.all isVisibleAscii

namespace Response

def noBody (status : Nat) : Response := ⟨status, [], .empty⟩

def ofJson (status : Nat) (value : Json) : Response :=
  ⟨status, [("content-type", "application/json")], .json value⟩

def plain (status : Nat) (text : String) : Response :=
  ⟨status, [("content-type", "text/plain; charset=utf-8")], .plain text⟩

def data (status : Nat) (value : Json) : Response := ofJson status (.object [("data", value)])

def withHeaders (response : Response) (headers : List (String × String)) : Response :=
  { response with headers := response.headers ++ headers }

end Response

end StatusPage.Http
