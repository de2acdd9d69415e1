import StatusPage.Text.Quoted

/-!
Closed sets of names. A type of this kind lists its values and gives each a name; a text that is
none of the names is reported with what it should have named.
-/

set_option autoImplicit false

namespace StatusPage

class Named (α : Type) where
  noun : String
  all : List α
  name : α → String

structure UnknownName where
  noun : String
  value : String
  deriving DecidableEq, Repr

def UnknownName.message (e : UnknownName) : String :=
  "unknown " ++ e.noun ++ ": " ++ Text.quote e.value

namespace Named

variable {α : Type} [Named α]

def ofName? (text : String) : Option α := (all (α := α)).find? fun a => name a == text

def ofName (text : String) : Except UnknownName α :=
  match ofName? (α := α) text with
  | some a => .ok a
  | none => .error ⟨noun α, text⟩

end Named

end StatusPage
