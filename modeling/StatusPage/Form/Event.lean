import StatusPage.Event.Basic
import StatusPage.Form.Scalar

/-!
The JSON forms of events, updates and templates.
-/

set_option autoImplicit false

namespace StatusPage

open Json (Fields Reader)
open Form

def Event.toJson (event : Event) : Json :=
  .object
    [("id", uuid event.id), ("title", .str event.title), ("type", named event.kind),
      ("status", named event.status), ("severity", .orNull named event.severity),
      ("description", .str event.description), ("started_at", .orNull instant event.startedAt),
      ("resolved_at", .orNull instant event.resolvedAt),
      ("scheduled_start_at", .orNull instant event.scheduledStart),
      ("scheduled_end_at", .orNull instant event.scheduledEnd),
      ("notify_subscribers", .bool event.notify), ("template_id", .orNull uuid event.templateId),
      ("created_by", uuid event.createdBy), ("service_ids", uuids event.serviceIds),
      ("created_at", instant event.createdAt), ("updated_at", instant event.updatedAt)]

def Event.fields : Fields Event :=
  Event.mk <$> .required "id" readUuid <*> .required "title" Reader.text
    <*> .required "type" readNamed <*> .required "status" readNamed
    <*> .nullable "severity" readNamed <*> .required "description" Reader.text
    <*> .nullable "started_at" readInstant <*> .nullable "resolved_at" readInstant
    <*> .nullable "scheduled_start_at" readInstant <*> .nullable "scheduled_end_at" readInstant
    <*> .required "notify_subscribers" Reader.bool <*> .nullable "template_id" readUuid
    <*> .required "created_by" readUuid <*> .required "service_ids" (Reader.list readUuid)
    <*> .required "created_at" readInstant <*> .required "updated_at" readInstant

def EventUpdate.toJson (update : EventUpdate) : Json :=
  .object
    [("id", uuid update.id), ("event_id", uuid update.eventId), ("status", named update.status),
      ("message", .str update.message), ("notify_subscribers", .bool update.notify),
      ("created_by", uuid update.createdBy), ("created_at", instant update.createdAt)]

def EventUpdate.fields : Fields EventUpdate :=
  EventUpdate.mk <$> .required "id" readUuid <*> .required "event_id" readUuid
    <*> .required "status" readNamed <*> .required "message" Reader.text
    <*> .required "notify_subscribers" Reader.bool <*> .required "created_by" readUuid
    <*> .required "created_at" readInstant

def recordedUpdate (recorded : Event × EventUpdate) : Json :=
  .object [("event", recorded.1.toJson), ("update", recorded.2.toJson)]

def EventTemplate.toJson (template : EventTemplate) : Json :=
  .object
    [("id", uuid template.id), ("slug", .str template.slug), ("type", named template.kind),
      ("title_template", .str template.titleSource), ("body_template", .str template.bodySource),
      ("created_at", instant template.createdAt), ("updated_at", instant template.updatedAt)]

def EventTemplate.fields : Fields EventTemplate :=
  EventTemplate.mk <$> .required "id" readUuid <*> .required "slug" Reader.text
    <*> .required "type" readNamed <*> .required "title_template" Reader.text
    <*> .required "body_template" Reader.text <*> .required "created_at" readInstant
    <*> .required "updated_at" readInstant

end StatusPage
