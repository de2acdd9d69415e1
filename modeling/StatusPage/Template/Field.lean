import StatusPage.Named
import StatusPage.Time.Rfc3339

/-!
The values that a template can show.
-/

set_option autoImplicit false

namespace StatusPage

open Time (Instant)

inductive Field where
  | serviceName
  | serviceGroupName
  | startedAt
  | resolvedAt
  | scheduledStart
  | scheduledEnd
  deriving DecidableEq, Repr

namespace Field

def name : Field → String
  | .serviceName => "service_name"
  | .serviceGroupName => "service_group_name"
  | .startedAt => "started_at"
  | .resolvedAt => "resolved_at"
  | .scheduledStart => "scheduled_start"
  | .scheduledEnd => "scheduled_end"

instance : Named Field :=
  ⟨"field",
    [.serviceName, .serviceGroupName, .startedAt, .resolvedAt, .scheduledStart,
      .scheduledEnd], name⟩

end Field

structure TemplateData where
  serviceName : Option String
  serviceGroupName : Option String
  startedAt : Option Instant
  resolvedAt : Option Instant
  scheduledStart : Option Instant
  scheduledEnd : Option Instant
  deriving DecidableEq, Repr

/-- The text shown for a field. An empty text counts as no value. -/
def TemplateData.value (data : TemplateData) : Field → Option String
  | .serviceName => data.serviceName.filter (· ≠ "")
  | .serviceGroupName => data.serviceGroupName.filter (· ≠ "")
  | .startedAt => data.startedAt.map Instant.toSentence
  | .resolvedAt => data.resolvedAt.map Instant.toSentence
  | .scheduledStart => data.scheduledStart.map Instant.toSentence
  | .scheduledEnd => data.scheduledEnd.map Instant.toSentence

end StatusPage
