import StatusPage.Database.Error
import StatusPage.Database.Value

/-!
Rows, and how columns are read. Columns are found by their names, whatever their order and whatever
else the row holds; the first one that cannot be read is the error.
-/

set_option autoImplicit false

namespace StatusPage.Database

open Time (Instant)

/-- Columns with their values, in order. Of several columns of one name the last counts. -/
abbrev Row := List (String × Value)

structure Decoder (α : Type) where
  read : Column → Value → Except Error α

namespace Decoder

variable {α : Type}

/-- Null is an error of its own, and so is a value of another kind. -/
def ofKind (take : Value → Option α) : Decoder α where
  read column
    | .null => .error (.unexpectedNull column)
    | value =>
        match take value with
        | some a => .ok a
        | none => .error (.unexpectedType column)

def text : Decoder String := ofKind fun
  | .text value => some value
  | _ => none

def bool : Decoder Bool := ofKind fun
  | .bool value => some value
  | _ => none

def int : Decoder Int := ofKind fun
  | .int value => some value
  | _ => none

def bytes : Decoder Text.Bytes := ofKind fun
  | .bytes value => some value
  | _ => none

def uuid : Decoder Uuid := ofKind fun
  | .uuid id => some id
  | _ => none

def instant : Decoder Instant := ofKind fun
  | .instant micros => some (instantOfMicros micros)
  | _ => none

def uuids : Decoder (List Uuid) where
  read column
    | .null => .error (.unexpectedNull column)
    | .uuids ids =>
        match ids.mapM id with
        | some ids => .ok ids
        | none => .error (.unexpectedNull column)
    | _ => .error (.unexpectedType column)

def orNull (decoder : Decoder α) : Decoder (Option α) where
  read column
    | .null => .ok none
    | value => (decoder.read column value).map some

end Decoder

namespace Row

variable {α : Type}

def get (row : Row) (name : String) (decoder : Decoder α) : Except Error α :=
  match row.reverse.lookup name with
  | some value => decoder.read (.named name) value
  | none => .error (.columnNotFound name)

def first (row : Row) (decoder : Decoder α) : Except Error α :=
  match row with
  | (_, value) :: _ => decoder.read (.at 0) value
  | [] => .error (.columnNotFound "0")

def readName [Named α] (column text : String) : Except Error α :=
  (Named.ofName text).mapError (.unknownName column)

def getName [Named α] (row : Row) (column : String) : Except Error α := do
  readName column (← row.get column .text)

def getNameOrNull [Named α] (row : Row) (column : String) : Except Error (Option α) := do
  match ← row.get column (.orNull .text) with
  | some text => return some (← readName column text)
  | none => return none

end Row

end StatusPage.Database
