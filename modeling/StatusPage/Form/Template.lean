import StatusPage.Form.Scalar
import StatusPage.Template.Field

/-!
The JSON forms of the values of a template and of a rendered template.
-/

set_option autoImplicit false

namespace StatusPage

open Json (Fields Reader)
open Form

def TemplateData.toJson (data : TemplateData) : Json :=
  .object
    [("service_name", .orNull .str data.serviceName),
      ("service_group_name", .orNull .str data.serviceGroupName),
      ("started_at", .orNull instant data.startedAt),
      ("resolved_at", .orNull instant data.resolvedAt),
      ("scheduled_start", .orNull instant data.scheduledStart),
      ("scheduled_end", .orNull instant data.scheduledEnd)]

def TemplateData.fields : Fields TemplateData :=
  TemplateData.mk <$> .omissible "service_name" Reader.text
    <*> .omissible "service_group_name" Reader.text <*> .omissible "started_at" readInstant
    <*> .omissible "resolved_at" readInstant <*> .omissible "scheduled_start" readInstant
    <*> .omissible "scheduled_end" readInstant

structure RenderedTemplate where
  title : String
  body : String
  deriving DecidableEq, Repr

def RenderedTemplate.toJson (rendered : RenderedTemplate) : Json :=
  .object [("title", .str rendered.title), ("body", .str rendered.body)]

def RenderedTemplate.fields : Fields RenderedTemplate :=
  RenderedTemplate.mk <$> .required "title" Reader.text <*> .required "body" Reader.text

end StatusPage
