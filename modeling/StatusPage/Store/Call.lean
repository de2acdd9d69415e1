import StatusPage.Account
import StatusPage.Event.Basic
import StatusPage.Subscriber

/-!
What a store is asked. Each call is atomic and has an answer type of its own; a store answers it or
fails with one of three errors.
-/

set_option autoImplicit false

namespace StatusPage

inductive StoreError where
  | notFound
  | alreadyExists
  | backend (text : String)
  deriving DecidableEq, Repr

def StoreError.message : StoreError → String
  | .notFound => "not found"
  | .alreadyExists => "already exists"
  | .backend text => "backend error: " ++ text

namespace Store

inductive Call where
  | createUser (new : NewUser)
  | findUserById (id : Uuid)
  | findUserByEmail (email : String)
  | createRefreshToken (new : NewRefreshToken)
  | takeRefreshToken (digest : String)
  | deleteRefreshToken (digest : String)
  | deleteUserRefreshTokens (userId : Uuid)
  | deleteExpiredRefreshTokens
  | createEvent (new : NewEvent)
  | findEvent (id : Uuid)
  | listEvents (filter : EventFilter)
  | recordUpdate (eventId : Uuid) (new : NewUpdate)
  | listUpdates (eventId : Uuid)
  | deleteEvent (id : Uuid)
  | createTemplate (new : NewTemplate)
  | findTemplate (id : Uuid)
  | findTemplateBySlug (slug : String)
  | listTemplates
  | updateTemplate (id : Uuid) (change : TemplateChange)
  | deleteTemplate (id : Uuid)
  | addChannel (new : NewChannel)
  | subscribersFor (serviceIds : List Uuid)
  | findSubscription (userId : Uuid)
  | setSubscription (userId : Uuid) (serviceIds : List Uuid)
  | deleteSubscription (userId : Uuid)
  | ping
  deriving DecidableEq, Repr

@[reducible] def Call.Result : Call → Type
  | .createUser _ => User
  | .findUserById _ => User
  | .findUserByEmail _ => User
  | .createRefreshToken _ => RefreshToken
  | .takeRefreshToken _ => RefreshToken
  | .deleteRefreshToken _ => Bool
  | .deleteUserRefreshTokens _ => Nat
  | .deleteExpiredRefreshTokens => Nat
  | .createEvent _ => Event
  | .findEvent _ => Event
  | .listEvents _ => List Event
  | .recordUpdate _ _ => Event × EventUpdate
  | .listUpdates _ => List EventUpdate
  | .deleteEvent _ => Unit
  | .createTemplate _ => EventTemplate
  | .findTemplate _ => EventTemplate
  | .findTemplateBySlug _ => EventTemplate
  | .listTemplates => List EventTemplate
  | .updateTemplate _ _ => EventTemplate
  | .deleteTemplate _ => Unit
  | .addChannel _ => Channel
  | .subscribersFor _ => List Subscriber
  | .findSubscription _ => Subscription
  | .setSubscription _ _ => Subscription
  | .deleteSubscription _ => Unit
  | .ping => Unit

def Call.method : Call → String
  | .createUser _ => "create_user"
  | .findUserById _ => "find_user_by_id"
  | .findUserByEmail _ => "find_user_by_email"
  | .createRefreshToken _ => "create_refresh_token"
  | .takeRefreshToken _ => "take_refresh_token"
  | .deleteRefreshToken _ => "delete_refresh_token"
  | .deleteUserRefreshTokens _ => "delete_user_refresh_tokens"
  | .deleteExpiredRefreshTokens => "delete_expired_refresh_tokens"
  | .createEvent _ => "create_event"
  | .findEvent _ => "find_event"
  | .listEvents _ => "list_events"
  | .recordUpdate _ _ => "record_update"
  | .listUpdates _ => "list_updates"
  | .deleteEvent _ => "delete_event"
  | .createTemplate _ => "create_template"
  | .findTemplate _ => "find_template"
  | .findTemplateBySlug _ => "find_template_by_slug"
  | .listTemplates => "list_templates"
  | .updateTemplate _ _ => "update_template"
  | .deleteTemplate _ => "delete_template"
  | .addChannel _ => "add_channel"
  | .subscribersFor _ => "subscribers_for_services"
  | .findSubscription _ => "find_subscription"
  | .setSubscription _ _ => "set_subscription"
  | .deleteSubscription _ => "delete_subscription"
  | .ping => "ping"

end Store

end StatusPage
