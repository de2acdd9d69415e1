import StatusPage.Json.Token

/-!
From tokens to a value. The parser keeps the lists and records that are still open; where the tokens
stop making sense it closes them all around `broken`.
-/

set_option autoImplicit false

namespace StatusPage.Json

open Text (Bytes)

/-- A list or record under construction, its parts in reverse; `member` is a record that waits for
the value of a key. -/
inductive Frame where
  | list (items : List Json)
  | record (members : List (Option String × Json))
  | member (members : List (Option String × Json)) (key : Option String)

/-- What the next token may be. After `firstItem` and `firstKey` the list or record may also end. -/
inductive Expect where
  | value
  | firstItem
  | firstKey
  | key
  | colon
  | next

/-- A parsed text: its value, and whether anything but blanks comes after it. -/
structure Document where
  value : Json
  trailing : Bool

inductive Step where
  | more (stack : List Frame) (expect : Expect)
  | done (value : Json)
  | fail (stray : Bool)

/-- Puts a value into the innermost open list or record, and closes all of them. -/
def closeAll : List Frame → Json → Json
  | [], value => value
  | .list items :: stack, value => closeAll stack (.list (value :: items).reverse)
  | .record members :: stack, value => closeAll stack (.record ((none, value) :: members).reverse)
  | .member members key :: stack, value =>
    closeAll stack (.record ((key, value) :: members).reverse)

def complete (value : Json) : List Frame → Step
  | [] => .done value
  | .list items :: stack => .more (.list (value :: items) :: stack) .next
  | .record members :: stack => .more (.record members :: stack) .next
  | .member members key :: stack => .more (.record ((key, value) :: members) :: stack) .next

def closeTop (stack : List Frame) (token : Token) : Step :=
  match token, stack with
  | .closeList, .list items :: stack => complete (.list items.reverse) stack
  | .closeRecord, .record members :: stack => complete (.record members.reverse) stack
  | _, _ => .fail false

def startValue (stack : List Frame) : Token → Step
  | .null => complete .null stack
  | .bool b => complete (.bool b) stack
  | .number n => complete (.number n) stack
  | .text t => complete (.text t) stack
  | .openList => .more (.list [] :: stack) .firstItem
  | .openRecord => .more (.record [] :: stack) .firstKey
  | _ => .fail false

/-- A key, or a token that is none; a value in its place is told apart from other tokens. -/
def startMember (stack : List Frame) (token : Token) : Step :=
  match token, stack with
  | .text key, .record members :: stack => .more (.member members key :: stack) .colon
  | _, _ =>
      match startValue stack token with
      | .fail _ => .fail false
      | _ => .fail true

def step (stack : List Frame) : Expect → Token → Step
  | .value, token => startValue stack token
  | .firstItem, .closeList => closeTop stack .closeList
  | .firstItem, token => startValue stack token
  | .firstKey, .closeRecord => closeTop stack .closeRecord
  | .firstKey, token => startMember stack token
  | .key, token => startMember stack token
  | .colon, .colon => .more stack .value
  | .colon, _ => .fail false
  | .next, .comma =>
      match stack with
      | .list items :: stack => .more (.list items :: stack) .value
      | .record members :: stack => .more (.record members :: stack) .key
      | _ => .fail false
  | .next, token => closeTop stack token

def build (stack : List Frame) (expect : Expect) : List Token → Document
  | [] => ⟨closeAll stack (.broken false), false⟩
  | token :: rest =>
      match step stack expect token with
      | .more stack expect => build stack expect rest
      | .done value => ⟨value, !rest.isEmpty⟩
      | .fail stray => ⟨closeAll stack (.broken stray), false⟩

def parse (input : Bytes) : Document := build [] .value (lex input)

end StatusPage.Json
