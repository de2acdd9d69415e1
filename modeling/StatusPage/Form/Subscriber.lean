import StatusPage.Form.Scalar
import StatusPage.Subscriber

/-!
The JSON forms of channels and subscriptions.
-/

set_option autoImplicit false

namespace StatusPage

open Json (Fields Reader)
open Form

def Channel.toJson (channel : Channel) : Json :=
  .object
    [("id", uuid channel.id), ("user_id", uuid channel.userId),
      ("channel_type", named channel.kind), ("target", .str channel.target),
      ("is_enabled", .bool channel.enabled), ("is_verified", .bool channel.verified),
      ("created_at", instant channel.createdAt), ("updated_at", instant channel.updatedAt)]

def Channel.fields : Fields Channel :=
  Channel.mk <$> .required "id" readUuid <*> .required "user_id" readUuid
    <*> .required "channel_type" readNamed <*> .required "target" Reader.text
    <*> .required "is_enabled" Reader.bool <*> .required "is_verified" Reader.bool
    <*> .required "created_at" readInstant <*> .required "updated_at" readInstant

def Subscriber.toJson (subscriber : Subscriber) : Json :=
  .object
    [("user_id", uuid subscriber.userId), ("channels", .listOf Channel.toJson subscriber.channels)]

def Subscription.toJson (subscription : Subscription) : Json :=
  .object
    [("id", uuid subscription.id), ("user_id", uuid subscription.userId),
      ("service_ids", uuids subscription.serviceIds),
      ("created_at", instant subscription.createdAt)]

end StatusPage
