import StatusPage.Named
import StatusPage.Uuid
import StatusPage.Time.Instant

/-!
Events of a status page: incidents and maintenance windows, the updates that report on them, and the
templates that their texts come from. A kind of event has statuses of its own.
-/

set_option autoImplicit false

namespace StatusPage

open Time (Instant)

inductive EventKind where
  | incident
  | maintenance
  deriving DecidableEq, Repr

inductive EventStatus where
  | investigating
  | identified
  | monitoring
  | resolved
  | scheduled
  | inProgress
  | completed
  deriving DecidableEq, Repr

inductive Severity where
  | minor
  | major
  | critical
  deriving DecidableEq, Repr

namespace EventKind

def name : EventKind → String
  | .incident => "incident"
  | .maintenance => "maintenance"

instance : Named EventKind := ⟨"event type", [.incident, .maintenance], name⟩

end EventKind

namespace EventStatus

def name : EventStatus → String
  | .investigating => "investigating"
  | .identified => "identified"
  | .monitoring => "monitoring"
  | .resolved => "resolved"
  | .scheduled => "scheduled"
  | .inProgress => "in_progress"
  | .completed => "completed"

instance : Named EventStatus :=
  ⟨"event status",
    [.investigating, .identified, .monitoring, .resolved, .scheduled, .inProgress,
      .completed], name⟩

def kind : EventStatus → EventKind
  | .investigating | .identified | .monitoring | .resolved => .incident
  | .scheduled | .inProgress | .completed => .maintenance

def LegalFor (status : EventStatus) (kind : EventKind) : Prop := status.kind = kind

instance (status : EventStatus) (kind : EventKind) : Decidable (status.LegalFor kind) :=
  inferInstanceAs (Decidable (status.kind = kind))

def isFinal : EventStatus → Bool
  | .resolved | .completed => true
  | _ => false

end EventStatus

def EventKind.statuses (kind : EventKind) : List EventStatus :=
  (Named.all (α := EventStatus)).filter fun status => status.LegalFor kind

namespace Severity

def name : Severity → String
  | .minor => "minor"
  | .major => "major"
  | .critical => "critical"

instance : Named Severity := ⟨"severity", [.minor, .major, .critical], name⟩

end Severity

structure Event where
  id : Uuid
  title : String
  kind : EventKind
  status : EventStatus
  severity : Option Severity
  description : String
  startedAt : Option Instant
  resolvedAt : Option Instant
  scheduledStart : Option Instant
  scheduledEnd : Option Instant
  notify : Bool
  templateId : Option Uuid
  createdBy : Uuid
  serviceIds : List Uuid
  createdAt : Instant
  updatedAt : Instant
  deriving DecidableEq, Repr

structure NewEvent where
  title : String
  kind : EventKind
  status : EventStatus
  severity : Option Severity
  description : String
  startedAt : Option Instant
  scheduledStart : Option Instant
  scheduledEnd : Option Instant
  notify : Bool
  templateId : Option Uuid
  createdBy : Uuid
  serviceIds : List Uuid
  deriving DecidableEq, Repr

structure EventUpdate where
  id : Uuid
  eventId : Uuid
  status : EventStatus
  message : String
  notify : Bool
  createdBy : Uuid
  createdAt : Instant
  deriving DecidableEq, Repr

structure StatusChange where
  status : EventStatus
  resolves : Bool
  deriving DecidableEq, Repr

structure NewUpdate where
  change : StatusChange
  message : String
  notify : Bool
  createdBy : Uuid
  deriving DecidableEq, Repr

structure EventTemplate where
  id : Uuid
  slug : String
  kind : EventKind
  titleSource : String
  bodySource : String
  createdAt : Instant
  updatedAt : Instant
  deriving DecidableEq, Repr

structure NewTemplate where
  slug : String
  kind : EventKind
  titleSource : String
  bodySource : String
  deriving DecidableEq, Repr

/-- The parts of a template that change; the others stay. -/
structure TemplateChange where
  kind : Option EventKind
  titleSource : Option String
  bodySource : Option String
  deriving DecidableEq, Repr

structure EventFilter where
  kind : Option EventKind
  status : Option EventStatus
  limit : Option Int
  offset : Option Int
  deriving DecidableEq, Repr

end StatusPage
