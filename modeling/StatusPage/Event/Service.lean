import StatusPage.Event.Rules
import StatusPage.Form.Template
import StatusPage.Program
import StatusPage.Request
import StatusPage.Template.Render

/-!
What can be done with events and templates. Everything is checked before the first write, and a
notice is sent after the write that it reports.
-/

set_option autoImplicit false

namespace StatusPage.Events

def failed (context : String) (e : StoreError) : EventError :=
  .internal (context ++ ": " ++ e.message)

def eventMissing (context : String) : StoreError → EventError
  | .notFound => .eventNotFound
  | e => failed context e

def templateMissing (context : String) : StoreError → EventError
  | .notFound => .templateNotFound
  | e => failed context e

def calling (call : Store.Call) (describe : StoreError → EventError) :
    Program (Except EventError call.Result) := do
  return (← Program.store call).mapError describe

def firstOccurrences (ids : List Uuid) : List Uuid := ids.eraseDups

/-- Tells the followers of the services, if there are services and notices are sent at all. -/
def notify (notices : Bool) (event : Event) (subject body : String) : Program Unit :=
  if notices && !event.serviceIds.isEmpty
    then Program.perform (.notify ⟨event.serviceIds, subject, body⟩)
  else return ()

def subjectLine (tag title : String) : String := "[" ++ tag ++ "] " ++ title

def create (notices : Bool) (createdBy : Uuid) (draft : EventDraft) :
    Program (Except EventError Event) := do
  match classify draft.kind draft.status draft.severity with
  | .error e => return .error e
  | .ok c =>
      let found ← match draft.templateId with
        | none => pure (.ok ())
        | some id => do
            let template ← calling (.findTemplate id) (templateMissing "loading template")
            pure (template.map fun _ => ())
      match found with
      | .error e => return .error e
      | .ok _ =>
          let new : NewEvent :=
            { title := draft.title, kind := c.kind, status := c.status, severity := c.severity,
              description := draft.description, startedAt := draft.startedAt,
              scheduledStart := draft.scheduledStart, scheduledEnd := draft.scheduledEnd,
              notify := draft.notify, templateId := draft.templateId, createdBy := createdBy,
              serviceIds := firstOccurrences draft.serviceIds }
          match ← calling (.createEvent new) (templateMissing "creating event") with
          | .error e => return .error e
          | .ok event =>
              if event.notify then
                notify notices event (subjectLine event.kind.name event.title) event.description
              return .ok event

def get (id : Uuid) : Program (Except EventError Event) :=
  calling (.findEvent id) (eventMissing "loading event")

def readFilter {α : Type} [Named α] (unknown : EventError) :
    Option String → Except EventError (Option α)
  | none => .ok none
  | some text =>
      match Named.ofName? text with
      | some a => .ok (some a)
      | none => .error unknown

def list (query : EventQuery) : Program (Except EventError (List Event)) :=
  match readFilter .invalidKind query.kind with
  | .error e => return .error e
  | .ok kind =>
      match readFilter .invalidStatus query.status with
      | .error e => return .error e
      | .ok status =>
          calling (.listEvents ⟨kind, status, query.limit, query.offset⟩)
            (failed "listing events")

def recent (limit : Int) : Program (Except EventError (List Event)) :=
  list ⟨none, none, some limit, none⟩

def addUpdate (notices : Bool) (eventId createdBy : Uuid) (draft : UpdateDraft) :
    Program (Except EventError (Event × EventUpdate)) := do
  match ← get eventId with
  | .error e => return .error e
  | .ok event =>
      match planUpdate event.kind draft.status with
      | .error e => return .error e
      | .ok change =>
          let new : NewUpdate := ⟨change, draft.message, draft.notify, createdBy⟩
          match ← calling (.recordUpdate eventId new) (eventMissing "recording update") with
          | .error e => return .error e
          | .ok (event, update) =>
              if update.notify then
                notify notices event (subjectLine update.status.name event.title) update.message
              return .ok (event, update)

def listUpdates (eventId : Uuid) : Program (Except EventError (List EventUpdate)) := do
  match ← get eventId with
  | .error e => return .error e
  | .ok _ => calling (.listUpdates eventId) (failed "listing updates")

def delete (id : Uuid) : Program (Except EventError Unit) :=
  calling (.deleteEvent id) (eventMissing "deleting event")

def checkSource (source : String) : Except EventError Unit :=
  (Template.validate source).mapError .invalidTemplate

def createTemplate (draft : TemplateDraft) : Program (Except EventError EventTemplate) := do
  match (do
      let kind ← readKind draft.kind
      checkSource draft.titleSource
      checkSource draft.bodySource
      return kind) with
  | .error e => return .error e
  | .ok kind =>
      calling (.createTemplate ⟨draft.slug, kind, draft.titleSource, draft.bodySource⟩) fun
        | .alreadyExists => .slugTaken draft.slug
        | e => failed "creating template" e

def getTemplate (slug : String) : Program (Except EventError EventTemplate) :=
  calling (.findTemplateBySlug slug) (templateMissing "loading template")

def listTemplates : Program (Except EventError (List EventTemplate)) :=
  calling .listTemplates (failed "listing templates")

def updateTemplate (id : Uuid) (edit : TemplateEdit) :
    Program (Except EventError EventTemplate) := do
  match (do
      let kind ← readFilter .invalidKind edit.kind
      if let some source := edit.titleSource then checkSource source
      if let some source := edit.bodySource then checkSource source
      return kind) with
  | .error e => return .error e
  | .ok kind =>
      calling (.updateTemplate id ⟨kind, edit.titleSource, edit.bodySource⟩)
        (templateMissing "updating template")

def deleteTemplate (id : Uuid) : Program (Except EventError Unit) :=
  calling (.deleteTemplate id) (templateMissing "deleting template")

def preview (slug : String) (data : TemplateData) :
    Program (Except EventError RenderedTemplate) := do
  match ← getTemplate slug with
  | .error e => return .error e
  | .ok template =>
      return (do
        let title ← Template.render template.titleSource data
        let body ← Template.render template.bodySource data
        return ⟨title, body⟩ : Except TemplateError RenderedTemplate).mapError .invalidTemplate

end StatusPage.Events
