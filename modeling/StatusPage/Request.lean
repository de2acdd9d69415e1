import StatusPage.Account.Email
import StatusPage.Form.Scalar

/-!
What clients send: the fields of each request and the checks that its texts must pass. Names of
kinds, statuses and severities arrive as plain texts, so that an unknown one is reported for what it
is.
-/

set_option autoImplicit false

namespace StatusPage

open Json (Fields Reader)
open Form

structure Problem where
  field : String
  text : String
  deriving DecidableEq, Repr

def Problem.line (problem : Problem) : String := problem.field ++ ": " ++ problem.text

/-- One line a problem, in the order of the lines. -/
def Problem.report (problems : List Problem) : String :=
  "\n".intercalate ((problems.map line).mergeSort fun a b => decide (a ≤ b))

def Problem.check (problems : List Problem) : Except String Unit :=
  if problems.isEmpty then .ok () else .error (report problems)

def problemUnless (ok : Bool) (field text : String) : List Problem :=
  if ok then [] else [⟨field, text⟩]

def hasLength (lowest highest : Nat) (text : String) : Bool :=
  lowest ≤ text.length && text.length ≤ highest

structure Registration where
  email : String
  password : String
  firstName : Option String
  lastName : Option String
  deriving DecidableEq, Repr

def Registration.fields : Fields Registration :=
  Registration.mk <$> .required "email" Reader.text <*> .required "password" Reader.text
    <*> .nullable "first_name" Reader.text <*> .nullable "last_name" Reader.text

def Registration.toJson (request : Registration) : Json :=
  .object
    [("email", .str request.email), ("password", .str request.password),
      ("first_name", .orNull .str request.firstName), ("last_name", .orNull .str request.lastName)]

def Registration.problems (request : Registration) : List Problem :=
  problemUnless (Account.isEmailAddress request.email) "email" "email must be a valid address" ++
  problemUnless (8 ≤ request.password.length) "password" "password must be at least 8 characters"

structure Credentials where
  email : String
  password : String
  deriving DecidableEq, Repr

def Credentials.fields : Fields Credentials :=
  Credentials.mk <$> .required "email" Reader.text <*> .required "password" Reader.text

structure PresentedToken where
  token : String
  deriving DecidableEq, Repr

def PresentedToken.fields : Fields PresentedToken :=
  PresentedToken.mk <$> .required "refresh_token" Reader.text

structure EventDraft where
  title : String
  kind : String
  status : String
  severity : Option String
  description : String
  startedAt : Option Time.Instant
  scheduledStart : Option Time.Instant
  scheduledEnd : Option Time.Instant
  notify : Bool
  templateId : Option Uuid
  serviceIds : List Uuid
  deriving DecidableEq, Repr

def EventDraft.fields : Fields EventDraft :=
  EventDraft.mk <$> .required "title" Reader.text <*> .required "type" Reader.text
    <*> .required "status" Reader.text <*> .nullable "severity" Reader.text
    <*> .withDefault "description" Reader.text "" <*> .nullable "started_at" readInstant
    <*> .nullable "scheduled_start_at" readInstant <*> .nullable "scheduled_end_at" readInstant
    <*> .withDefault "notify_subscribers" Reader.bool false <*> .nullable "template_id" readUuid
    <*> .withDefault "service_ids" (Reader.list readUuid) []

def EventDraft.toJson (draft : EventDraft) : Json :=
  .object
    [("title", .str draft.title), ("type", .str draft.kind), ("status", .str draft.status),
      ("severity", .orNull .str draft.severity), ("description", .str draft.description),
      ("started_at", .orNull instant draft.startedAt),
      ("scheduled_start_at", .orNull instant draft.scheduledStart),
      ("scheduled_end_at", .orNull instant draft.scheduledEnd),
      ("notify_subscribers", .bool draft.notify), ("template_id", .orNull uuid draft.templateId),
      ("service_ids", uuids draft.serviceIds)]

def EventDraft.problems (draft : EventDraft) : List Problem :=
  problemUnless (hasLength 1 255 draft.title) "title" "title must be 1-255 characters"

structure UpdateDraft where
  status : String
  message : String
  notify : Bool
  deriving DecidableEq, Repr

def UpdateDraft.fields : Fields UpdateDraft :=
  UpdateDraft.mk <$> .required "status" Reader.text <*> .required "message" Reader.text
    <*> .withDefault "notify_subscribers" Reader.bool false

def UpdateDraft.toJson (draft : UpdateDraft) : Json :=
  .object
    [("status", .str draft.status), ("message", .str draft.message),
      ("notify_subscribers", .bool draft.notify)]

def UpdateDraft.problems (draft : UpdateDraft) : List Problem :=
  problemUnless (draft.message ≠ "") "message" "message must not be empty"

structure TemplateDraft where
  slug : String
  kind : String
  titleSource : String
  bodySource : String
  deriving DecidableEq, Repr

def TemplateDraft.fields : Fields TemplateDraft :=
  TemplateDraft.mk <$> .required "slug" Reader.text <*> .required "type" Reader.text
    <*> .required "title_template" Reader.text <*> .withDefault "body_template" Reader.text ""

def TemplateDraft.toJson (draft : TemplateDraft) : Json :=
  .object
    [("slug", .str draft.slug), ("type", .str draft.kind),
      ("title_template", .str draft.titleSource), ("body_template", .str draft.bodySource)]

def titleSourceText : String := "title_template must not be empty"

def TemplateDraft.problems (draft : TemplateDraft) : List Problem :=
  problemUnless (hasLength 1 100 draft.slug) "slug" "slug must be 1-100 characters" ++
  problemUnless (draft.titleSource ≠ "") "title_template" titleSourceText

structure TemplateEdit where
  kind : Option String
  titleSource : Option String
  bodySource : Option String
  deriving DecidableEq, Repr

def TemplateEdit.fields : Fields TemplateEdit :=
  TemplateEdit.mk <$> .nullable "type" Reader.text <*> .nullable "title_template" Reader.text
    <*> .nullable "body_template" Reader.text

def TemplateEdit.toJson (edit : TemplateEdit) : Json :=
  .object
    [("type", .orNull .str edit.kind), ("title_template", .orNull .str edit.titleSource),
      ("body_template", .orNull .str edit.bodySource)]

def TemplateEdit.problems (edit : TemplateEdit) : List Problem :=
  problemUnless (edit.titleSource ≠ some "") "title_template" titleSourceText

structure EventQuery where
  kind : Option String
  status : Option String
  limit : Option Int
  offset : Option Int
  deriving DecidableEq, Repr

def EventQuery.fields : Fields EventQuery :=
  EventQuery.mk <$> .nullable "type" Reader.text <*> .nullable "status" Reader.text
    <*> .nullable "limit" Reader.int64 <*> .nullable "offset" Reader.int64

/-- The services to follow; none means all. -/
structure ServiceChoice where
  serviceIds : List Uuid
  deriving DecidableEq, Repr

def ServiceChoice.fields : Fields ServiceChoice :=
  ServiceChoice.mk <$> .withDefault "service_ids" (Reader.list readUuid) []

end StatusPage
