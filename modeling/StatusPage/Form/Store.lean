import StatusPage.Form.Account
import StatusPage.Form.Arguments
import StatusPage.Form.Event
import StatusPage.Form.Subscriber
import StatusPage.Store.Call

/-!
The JSON forms of store calls, which are a method's name and a record of arguments, and of their
results.
-/

set_option autoImplicit false

namespace StatusPage

open Json (Reader)
open Form

def serviceIdsArgument (arguments : Json) : Arguments (List Uuid) :=
  defaulted arguments "service_ids" (Reader.list readUuid) []

def NewUser.read (arguments : Json) : Arguments NewUser := do
  return {
    email := ← textArgument arguments "email"
    passwordHash := ← textArgument arguments "password_hash"
    firstName := ← optional arguments "first_name" Reader.text
    lastName := ← optional arguments "last_name" Reader.text
    role := ← nameArgument arguments "role" }

def NewRefreshToken.read (arguments : Json) : Arguments NewRefreshToken := do
  return {
    userId := ← idArgument arguments "user_id"
    digest := ← textArgument arguments "token_hash"
    expiresAt := ← required arguments "expires_at" readInstant }

def NewEvent.read (arguments : Json) : Arguments NewEvent := do
  return {
    title := ← textArgument arguments "title"
    kind := ← nameArgument arguments "type"
    status := ← nameArgument arguments "status"
    severity := ← optionalName arguments "severity"
    description := ← defaulted arguments "description" Reader.text ""
    startedAt := ← optional arguments "started_at" readInstant
    scheduledStart := ← optional arguments "scheduled_start_at" readInstant
    scheduledEnd := ← optional arguments "scheduled_end_at" readInstant
    notify := ← defaulted arguments "notify_subscribers" Reader.bool false
    templateId := ← optional arguments "template_id" readUuid
    createdBy := ← idArgument arguments "created_by"
    serviceIds := ← serviceIdsArgument arguments }

/-- The change of status is the one that the text asks of an event of the kind. -/
def NewUpdate.read (arguments : Json) : Arguments NewUpdate := do
  let kind ← nameArgument arguments "type"
  let status ← textArgument arguments "status"
  return {
    change := ← (planUpdate kind status).mapError .refused
    message := ← textArgument arguments "message"
    notify := ← defaulted arguments "notify_subscribers" Reader.bool false
    createdBy := ← idArgument arguments "created_by" }

def NewTemplate.read (arguments : Json) : Arguments NewTemplate := do
  return {
    slug := ← textArgument arguments "slug"
    kind := ← nameArgument arguments "type"
    titleSource := ← textArgument arguments "title_template"
    bodySource := ← textArgument arguments "body_template" }

def TemplateChange.read (arguments : Json) : Arguments TemplateChange := do
  return {
    kind := ← optionalName arguments "type"
    titleSource := ← optional arguments "title_template" Reader.text
    bodySource := ← optional arguments "body_template" Reader.text }

def EventFilter.read (arguments : Json) : Arguments EventFilter := do
  return {
    kind := ← optionalName arguments "type"
    status := ← optionalName arguments "status"
    limit := ← optional arguments "limit" Reader.int64
    offset := ← optional arguments "offset" Reader.int64 }

def NewChannel.read (arguments : Json) : Arguments NewChannel := do
  return {
    userId := ← idArgument arguments "user_id"
    kind := ← nameArgument arguments "channel_type"
    target := ← textArgument arguments "target"
    enabled := ← defaulted arguments "is_enabled" Reader.bool true
    verified := ← defaulted arguments "is_verified" Reader.bool true }

namespace Store.Call

def read (method : String) (arguments : Json) : Arguments Call := do
  match method with
  | "create_user" => return .createUser (← NewUser.read arguments)
  | "find_user_by_id" => return .findUserById (← idArgument arguments "id")
  | "find_user_by_email" => return .findUserByEmail (← textArgument arguments "email")
  | "create_refresh_token" => return .createRefreshToken (← NewRefreshToken.read arguments)
  | "take_refresh_token" => return .takeRefreshToken (← textArgument arguments "token_hash")
  | "delete_refresh_token" => return .deleteRefreshToken (← textArgument arguments "token_hash")
  | "delete_user_refresh_tokens" =>
    return .deleteUserRefreshTokens (← idArgument arguments "user_id")
  | "delete_expired_refresh_tokens" => return .deleteExpiredRefreshTokens
  | "create_event" => return .createEvent (← NewEvent.read arguments)
  | "find_event" => return .findEvent (← idArgument arguments "id")
  | "list_events" => return .listEvents (← EventFilter.read arguments)
  | "record_update" =>
      let new ← NewUpdate.read arguments
      return .recordUpdate (← idArgument arguments "event_id") new
  | "list_updates" => return .listUpdates (← idArgument arguments "event_id")
  | "delete_event" => return .deleteEvent (← idArgument arguments "id")
  | "create_template" => return .createTemplate (← NewTemplate.read arguments)
  | "find_template" => return .findTemplate (← idArgument arguments "id")
  | "find_template_by_slug" => return .findTemplateBySlug (← textArgument arguments "slug")
  | "list_templates" => return .listTemplates
  | "update_template" =>
      return .updateTemplate (← idArgument arguments "id") (← TemplateChange.read arguments)
  | "delete_template" => return .deleteTemplate (← idArgument arguments "id")
  | "add_channel" => return .addChannel (← NewChannel.read arguments)
  | "subscribers_for_services" =>
      return .subscribersFor (← serviceIdsArgument arguments)
  | "find_subscription" => return .findSubscription (← idArgument arguments "user_id")
  | "set_subscription" =>
      return .setSubscription (← idArgument arguments "user_id")
        (← serviceIdsArgument arguments)
  | "delete_subscription" => return .deleteSubscription (← idArgument arguments "user_id")
  | "ping" => return .ping
  | _ => throw (.unknownMethod method)

def finished : Json := .str "done"

def resultJson : (call : Call) → call.Result → Json
  | .createUser _, user => user.toJson
  | .findUserById _, user => user.toJson
  | .findUserByEmail _, user => user.toJson
  | .createRefreshToken _, token => token.toJson
  | .takeRefreshToken _, token => token.toJson
  | .deleteRefreshToken _, found => .bool found
  | .deleteUserRefreshTokens _, count => .int count
  | .deleteExpiredRefreshTokens, count => .int count
  | .createEvent _, event => event.toJson
  | .findEvent _, event => event.toJson
  | .listEvents _, events => .listOf Event.toJson events
  | .recordUpdate _ _, recorded => recordedUpdate recorded
  | .listUpdates _, updates => .listOf EventUpdate.toJson updates
  | .deleteEvent _, _ => finished
  | .createTemplate _, template => template.toJson
  | .findTemplate _, template => template.toJson
  | .findTemplateBySlug _, template => template.toJson
  | .listTemplates, templates => .listOf EventTemplate.toJson templates
  | .updateTemplate _ _, template => template.toJson
  | .deleteTemplate _, _ => finished
  | .addChannel _, channel => channel.toJson
  | .subscribersFor _, subscribers => .listOf Subscriber.toJson subscribers
  | .findSubscription _, subscription => subscription.toJson
  | .setSubscription _ _, subscription => subscription.toJson
  | .deleteSubscription _, _ => finished
  | .ping, _ => finished

end Store.Call

end StatusPage
