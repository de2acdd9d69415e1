import StatusPage.Database.Exchange
import StatusPage.Event.Basic
import StatusPage.Paging

/-!
Events and their history in the database. An event is written together with its services, and a
change of its status together with the entry in its history, each in one transaction.
-/

set_option autoImplicit false

namespace StatusPage.Database

def readEvent (row : Row) : Except Error Event := do
  return {
    id := ← row.get "id" .uuid
    title := ← row.get "title" .text
    kind := ← row.getName "event_type"
    status := ← row.getName "status"
    severity := ← row.getNameOrNull "severity"
    description := ← row.get "description" .text
    startedAt := ← row.get "started_at" (.orNull .instant)
    resolvedAt := ← row.get "resolved_at" (.orNull .instant)
    scheduledStart := ← row.get "scheduled_start_at" (.orNull .instant)
    scheduledEnd := ← row.get "scheduled_end_at" (.orNull .instant)
    notify := ← row.get "notify_subscribers" .bool
    templateId := ← row.get "template_id" (.orNull .uuid)
    createdBy := ← row.get "created_by" .uuid
    serviceIds := ← row.get "service_ids" .uuids
    createdAt := ← row.get "created_at" .instant
    updatedAt := ← row.get "updated_at" .instant }

def readEventUpdate (row : Row) : Except Error EventUpdate := do
  return {
    id := ← row.get "id" .uuid
    eventId := ← row.get "event_id" .uuid
    status := ← row.getName "status"
    message := ← row.get "message" .text
    notify := ← row.get "notify_subscribers" .bool
    createdBy := ← row.get "created_by" .uuid
    createdAt := ← row.get "created_at" .instant }

def eventColumns : String :=
  "e.id, e.title, e.event_type, e.status, e.severity, e.description, e.started_at, e.resolved_at, " ++
    "e.scheduled_start_at, e.scheduled_end_at, e.notify_subscribers, e.template_id, e.created_by, " ++
    "ARRAY(SELECT es.service_id FROM event_services es WHERE es.event_id = e.id " ++
    "ORDER BY es.service_id) AS service_ids, e.created_at, e.updated_at"

def eventUpdateColumns : String :=
  "id, event_id, status, message, notify_subscribers, created_by, created_at"

def insertEvent (new : NewEvent) : Statement :=
  .insert "events"
    [("title", .text new.title), ("event_type", .ofName new.kind), ("status", .ofName new.status),
      ("severity", .orNull .ofName new.severity), ("description", .text new.description),
      ("started_at", .orNull .ofInstant new.startedAt),
      ("scheduled_start_at", .orNull .ofInstant new.scheduledStart),
      ("scheduled_end_at", .orNull .ofInstant new.scheduledEnd),
      ("notify_subscribers", .bool new.notify), ("template_id", .orNull .uuid new.templateId),
      ("created_by", .uuid new.createdBy)]
    "RETURNING id"

def linkEventServices (eventId : Uuid) (serviceIds : List Uuid) : Statement :=
  .link "event_services" "event_id" "service_id" eventId serviceIds

def selectEvent (id : Uuid) : Statement :=
  ⟨"SELECT " ++ eventColumns ++ " FROM events e WHERE e.id = $1", [.uuid id]⟩

def selectEvents (filter : EventFilter) : Statement where
  text :=
    "SELECT " ++ eventColumns ++ " FROM events e WHERE ($1::text IS NULL OR e.event_type = $1) " ++
    "AND ($2::text IS NULL OR e.status = $2) ORDER BY e.created_at DESC, e.id DESC LIMIT $3 OFFSET $4"
  params :=
    [.orNull .ofName filter.kind, .orNull .ofName filter.status,
      .int (Paging.clampLimit filter.limit Paging.defaultLimit Paging.maxLimit),
      .int (Paging.clampOffset filter.offset)]

/-- The status changes; the time of resolution is filled in once and then stays. -/
def updateEventStatus (eventId : Uuid) (change : StatusChange) : Statement where
  text := "UPDATE events e SET status = $2, resolved_at = CASE WHEN $3 THEN " ++
    "COALESCE(e.resolved_at, NOW()) ELSE e.resolved_at END, updated_at = NOW() WHERE e.id = $1 " ++
    "RETURNING " ++ eventColumns
  params := [.uuid eventId, .ofName change.status, .bool change.resolves]

def insertEventUpdate (eventId : Uuid) (new : NewUpdate) : Statement :=
  .insert "event_updates"
    [("event_id", .uuid eventId), ("status", .ofName new.change.status),
      ("message", .text new.message),
      ("notify_subscribers", .bool new.notify), ("created_by", .uuid new.createdBy)]
    ("RETURNING " ++ eventUpdateColumns)

def selectEventUpdates (eventId : Uuid) : Statement :=
  ⟨"SELECT " ++ eventUpdateColumns ++
      " FROM event_updates WHERE event_id = $1 ORDER BY created_at DESC, id DESC",
    [.uuid eventId]⟩

def deleteEventRow (id : Uuid) : Statement := ⟨"DELETE FROM events WHERE id = $1", [.uuid id]⟩

def writeEvent (new : NewEvent) : Work Event := do
  let id ← Work.firstRow (insertEvent new) fun row => row.first .uuid
  if !new.serviceIds.isEmpty then
    let _ ← Work.affected (linkEventServices id new.serviceIds)
  Work.firstRow (selectEvent id) readEvent

def createEvent (new : NewEvent) : Work Event := Work.transaction (fun _ => true) (writeEvent new)

def findEvent (id : Uuid) : Work Event := Work.firstRow (selectEvent id) readEvent

def listEvents (filter : EventFilter) : Work (List Event) :=
  Work.allRows (selectEvents filter) readEvent

/-- Nothing is written when there is no such event. -/
def writeUpdate (eventId : Uuid) (new : NewUpdate) : Work (Option (Event × EventUpdate)) := do
  match ← Work.firstRow? (updateEventStatus eventId new.change) readEvent with
  | none => return none
  | some event =>
      return some (event, ← Work.firstRow (insertEventUpdate eventId new) readEventUpdate)

def recordUpdate (eventId : Uuid) (new : NewUpdate) : Work (Event × EventUpdate) := do
  match ← Work.transaction Option.isSome (writeUpdate eventId new) with
  | some pair => return pair
  | none => throw .rowNotFound

def listUpdates (eventId : Uuid) : Work (List EventUpdate) :=
  Work.allRows (selectEventUpdates eventId) readEventUpdate

def deleteEvent (id : Uuid) : Work Unit := Work.changeRow (deleteEventRow id)

end StatusPage.Database
