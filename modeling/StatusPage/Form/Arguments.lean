import StatusPage.Event.Rules
import StatusPage.Form.Scalar

/-!
Arguments by name: a record whose members are looked up and read one at a time. A missing argument
and null are the same.
-/

set_option autoImplicit false

namespace StatusPage.Form

open Json (Reader)

inductive ArgumentError where
  /-- An argument that is missing or of another form. -/
  | unreadable (name : String)
  | unknownName (cause : UnknownName)
  | refused (cause : EventError)
  | unknownMethod (name : String)
  deriving DecidableEq, Repr

abbrev Arguments (α : Type) := Except ArgumentError α

variable {α : Type}

def argument (arguments : Json) (name : String) : Json :=
  match arguments with
  | .record members => (members.lookup (some name)).getD .null
  | _ => .null

def required (arguments : Json) (name : String) (read : Reader α) : Arguments α :=
  (read (argument arguments name)).mapError fun _ => .unreadable name

def optional (arguments : Json) (name : String) (read : Reader α) : Arguments (Option α) :=
  required arguments name read.orNull

def defaulted (arguments : Json) (name : String) (read : Reader α) (default : α) :
    Arguments α := do
  return (← optional arguments name read).getD default

def textArgument (arguments : Json) (name : String) : Arguments String :=
  required arguments name Reader.text

def idArgument (arguments : Json) (name : String) : Arguments Uuid :=
  required arguments name readUuid

private def nameOfText [Named α] (text : String) : Arguments α :=
  (Named.ofName text).mapError .unknownName

def nameArgument [Named α] (arguments : Json) (name : String) : Arguments α := do
  nameOfText (← textArgument arguments name)

def optionalName [Named α] (arguments : Json) (name : String) : Arguments (Option α) := do
  match ← optional arguments name Reader.text with
  | some text => return some (← nameOfText text)
  | none => return none

end StatusPage.Form
