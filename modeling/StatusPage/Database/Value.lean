import StatusPage.Named
import StatusPage.Text.Utf8
import StatusPage.Time.Instant
import StatusPage.Uuid

/-!
The values that a database takes and gives back. Names are texts there, an instant is a number of
microseconds, and anything may be null, the identifiers in a list included.
-/

set_option autoImplicit false

namespace StatusPage.Database

open Time (Instant)

/-- An instant is counted in microseconds from 1970. -/
inductive Value where
  | null
  | bool (value : Bool)
  | int (value : Int)
  | text (value : String)
  | bytes (value : Text.Bytes)
  | uuid (id : Uuid)
  | uuids (ids : List (Option Uuid))
  | instant (micros : Int)
  deriving DecidableEq, Repr

namespace Value

def ofInstant (t : Instant) : Value := .instant t.microsTowards2000

def ofName {α : Type} [Named α] (a : α) : Value := .text (Named.name a)

def ofUuids (ids : List Uuid) : Value := .uuids (ids.map some)

def orNull {α : Type} (write : α → Value) : Option α → Value
  | none => .null
  | some a => write a

end Value

def instantOfMicros (micros : Int) : Instant :=
  ⟨micros / 1000000, (micros % 1000000).toNat * 1000⟩

end StatusPage.Database
