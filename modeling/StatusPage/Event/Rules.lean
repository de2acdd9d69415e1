import StatusPage.Event.Basic
import StatusPage.Template.Parser

/-!
The rules of an event's life: which kind, status and severity it may start with, which status may
follow, and when it counts as resolved.
-/

set_option autoImplicit false

namespace StatusPage

open Time (Instant)

inductive EventError where
  | eventNotFound
  | templateNotFound
  | invalidStatus
  | invalidSeverity
  | invalidKind
  | invalidTemplate (cause : TemplateError)
  | slugTaken (slug : String)
  | internal (context : String)
  deriving DecidableEq, Repr

def EventError.message : EventError → String
  | .eventNotFound => "event not found"
  | .templateNotFound => "template not found"
  | .invalidStatus => "invalid status for event type"
  | .invalidSeverity =>
      "severity is required for incidents and must be one of minor, major, critical"
  | .invalidKind => "event type must be one of incident, maintenance"
  | .invalidTemplate cause => "invalid template: " ++ cause.message
  | .slugTaken slug => "template slug already exists: " ++ slug
  | .internal context => "internal error: " ++ context

def EventKind.readStatus (kind : EventKind) (text : String) : Except EventError EventStatus :=
  match (Named.ofName? text : Option EventStatus) with
  | some status => if status.LegalFor kind then .ok status else .error .invalidStatus
  | none => .error .invalidStatus

def readKind (text : String) : Except EventError EventKind :=
  match (Named.ofName? text : Option EventKind) with
  | some kind => .ok kind
  | none => .error .invalidKind

/-- An incident has a severity; maintenance has none, whatever was given. -/
def EventKind.readSeverity (kind : EventKind) (text : Option String) :
    Except EventError (Option Severity) :=
  match kind with
  | .maintenance => .ok none
  | .incident =>
      match text.bind (fun t => (Named.ofName? t : Option Severity)) with
      | some severity => .ok (some severity)
      | none => .error .invalidSeverity

structure Classification where
  kind : EventKind
  status : EventStatus
  severity : Option Severity
  deriving DecidableEq, Repr

def classify (kind status : String) (severity : Option String) :
    Except EventError Classification := do
  let kind ← readKind kind
  let status ← kind.readStatus status
  let severity ← kind.readSeverity severity
  return ⟨kind, status, severity⟩

def planUpdate (kind : EventKind) (status : String) : Except EventError StatusChange := do
  let status ← kind.readStatus status
  return ⟨status, status.isFinal⟩

/-- The time of resolution after a change: the first one stays. -/
def nextResolvedAt (current : Option Instant) (change : StatusChange) (now : Instant) :
    Option Instant :=
  match current with
  | some t => some t
  | none => if change.resolves then some now else none

end StatusPage
