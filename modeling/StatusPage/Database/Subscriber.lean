import StatusPage.Database.Exchange
import StatusPage.Subscriber

/-!
Channels and subscriptions in the database. A subscription is replaced together with its services in
one transaction.
-/

set_option autoImplicit false

namespace StatusPage.Database

def readChannel (row : Row) : Except Error Channel := do
  return {
    id := ← row.get "id" .uuid
    userId := ← row.get "user_id" .uuid
    kind := ← row.getName "channel_type"
    target := ← row.get "target" .text
    enabled := ← row.get "is_enabled" .bool
    verified := ← row.get "is_verified" .bool
    createdAt := ← row.get "created_at" .instant
    updatedAt := ← row.get "updated_at" .instant }

def readSubscription (row : Row) : Except Error Subscription := do
  return {
    id := ← row.get "id" .uuid
    userId := ← row.get "user_id" .uuid
    serviceIds := ← row.get "service_ids" .uuids
    createdAt := ← row.get "created_at" .instant }

def channelColumns : String :=
  "c.id, c.user_id, c.channel_type, c.target, c.is_enabled, c.is_verified, c.created_at, c.updated_at"

def subscriptionColumns : String :=
  "s.id, s.user_id, ARRAY(SELECT ss.service_id FROM subscription_services ss " ++
    "WHERE ss.subscription_id = s.id ORDER BY ss.service_id) AS service_ids, s.created_at"

def insertChannel (new : NewChannel) : Statement :=
  .insert "notification_channels AS c"
    [("user_id", .uuid new.userId), ("channel_type", .ofName new.kind),
      ("target", .text new.target),
      ("is_enabled", .bool new.enabled), ("is_verified", .bool new.verified)]
    ("RETURNING " ++ channelColumns)

/-- The channels of everybody who follows all services or one of these, ordered by user. -/
def selectChannelsFor (serviceIds : List Uuid) : Statement where
  text := "SELECT " ++ channelColumns ++ " FROM notification_channels c WHERE c.user_id IN ( " ++
    "SELECT s.user_id FROM subscriptions s WHERE NOT EXISTS ( SELECT 1 FROM subscription_services ss " ++
    "WHERE ss.subscription_id = s.id) OR EXISTS ( SELECT 1 FROM subscription_services ss " ++
    "WHERE ss.subscription_id = s.id AND ss.service_id = ANY($1)) ) " ++
    "ORDER BY c.user_id, c.created_at, c.id"
  params := [.ofUuids serviceIds]

def selectSubscriptionOf (userId : Uuid) : Statement :=
  ⟨"SELECT " ++ subscriptionColumns ++ " FROM subscriptions s WHERE s.user_id = $1",
    [.uuid userId]⟩

def selectSubscription (id : Uuid) : Statement :=
  ⟨"SELECT " ++ subscriptionColumns ++ " FROM subscriptions s WHERE s.id = $1", [.uuid id]⟩

/-- Writes nothing new for a user who has a subscription, and answers its identifier. -/
def insertSubscription (userId : Uuid) : Statement :=
  .insert "subscriptions" [("user_id", .uuid userId)]
    "ON CONFLICT (user_id) DO UPDATE SET user_id = EXCLUDED.user_id RETURNING id"

def unlinkSubscriptionServices (id : Uuid) : Statement :=
  ⟨"DELETE FROM subscription_services WHERE subscription_id = $1", [.uuid id]⟩

def linkSubscriptionServices (id : Uuid) (serviceIds : List Uuid) : Statement :=
  .link "subscription_services" "subscription_id" "service_id" id serviceIds

def deleteSubscriptionRow (userId : Uuid) : Statement :=
  ⟨"DELETE FROM subscriptions WHERE user_id = $1", [.uuid userId]⟩

def addChannel (new : NewChannel) : Work Channel := Work.firstRow (insertChannel new) readChannel

def subscribersFor (serviceIds : List Uuid) : Work (List Subscriber) := do
  return groupByUser (← Work.allRows (selectChannelsFor serviceIds) readChannel)

def findSubscription (userId : Uuid) : Work Subscription :=
  Work.firstRow (selectSubscriptionOf userId) readSubscription

def writeSubscription (userId : Uuid) (serviceIds : List Uuid) : Work Subscription := do
  let id ← Work.firstRow (insertSubscription userId) fun row => row.first .uuid
  let _ ← Work.affected (unlinkSubscriptionServices id)
  if !serviceIds.isEmpty then
    let _ ← Work.affected (linkSubscriptionServices id serviceIds)
  Work.firstRow (selectSubscription id) readSubscription

def setSubscription (userId : Uuid) (serviceIds : List Uuid) : Work Subscription :=
  Work.transaction (fun _ => true) (writeSubscription userId serviceIds)

def deleteSubscription (userId : Uuid) : Work Unit := Work.changeRow (deleteSubscriptionRow userId)

end StatusPage.Database
