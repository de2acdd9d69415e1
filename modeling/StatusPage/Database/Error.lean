import StatusPage.Named
import StatusPage.Store.Call

/-!
What can go wrong between the store and its database, and what a caller of the store is told of it:
that a row is missing, that one exists already, or the text of the failure.
-/

set_option autoImplicit false

namespace StatusPage.Database

/-- Why a command has no reply. A refusal by the database comes with the code that the SQL standard
gives to its kind; there is no code when the connection is lost. -/
structure Refusal where
  code : Option String
  text : String
  deriving DecidableEq, Repr

inductive Column where
  | named (name : String)
  | at (index : Nat)
  deriving DecidableEq, Repr

def Column.text : Column → String
  | .named name => "\"" ++ name ++ "\""
  | .at index => toString index

inductive Error where
  | rowNotFound
  | poolTimedOut
  | poolClosed
  | protocol (text : String)
  | columnNotFound (name : String)
  | unexpectedNull (column : Column)
  | unexpectedType (column : Column)
  | unknownName (column : String) (cause : UnknownName)
  | refused (refusal : Refusal)
  deriving DecidableEq, Repr

namespace Error

def undecoded (column cause : String) : String :=
  "error occurred while decoding column " ++ column ++ ": " ++ cause

def message : Error → String
  | .rowNotFound =>
      "no rows returned by a query that expected to return at least one row"
  | .poolTimedOut => "pool timed out while waiting for an open connection"
  | .poolClosed => "attempted to acquire a connection on a closed pool"
  | .protocol text => "encountered unexpected or invalid data: " ++ text
  | .columnNotFound name => "no column found for name: " ++ name
  | .unexpectedNull column =>
      undecoded column.text "unexpected null; try decoding as an `Option`"
  | .unexpectedType column => undecoded column.text "mismatched types"
  | .unknownName column cause => undecoded column cause.message
  | .refused ⟨some _, text⟩ => "error returned from database: " ++ text
  | .refused ⟨none, text⟩ => "error communicating with database: " ++ text

end Error

def uniqueViolation : String := "23505"

def foreignKeyViolation : String := "23503"

def Error.toStoreError : Error → StoreError
  | .rowNotFound => .notFound
  | .refused refusal =>
      if refusal.code = uniqueViolation then .alreadyExists
      else if refusal.code = foreignKeyViolation then .notFound
      else .backend (Error.refused refusal).message
  | e => .backend e.message

end StatusPage.Database
