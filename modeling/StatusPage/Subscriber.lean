import StatusPage.Named
import StatusPage.Uuid
import StatusPage.Time.Instant

/-!
Who is told about events: the channels by which users are reached, and the services they follow.
-/

set_option autoImplicit false

namespace StatusPage

open Time (Instant)

inductive ChannelKind where
  | email
  | telegram
  deriving DecidableEq, Repr

namespace ChannelKind

def name : ChannelKind → String
  | .email => "email"
  | .telegram => "telegram"

instance : Named ChannelKind := ⟨"channel type", [.email, .telegram], name⟩

end ChannelKind

structure Channel where
  id : Uuid
  userId : Uuid
  kind : ChannelKind
  target : String
  enabled : Bool
  verified : Bool
  createdAt : Instant
  updatedAt : Instant
  deriving DecidableEq, Repr

def Channel.isDeliverable (channel : Channel) : Bool := channel.enabled && channel.verified

structure NewChannel where
  userId : Uuid
  kind : ChannelKind
  target : String
  enabled : Bool
  verified : Bool
  deriving DecidableEq, Repr

structure Subscriber where
  userId : Uuid
  channels : List Channel
  deriving DecidableEq, Repr

/-- The services a user follows; none means all. -/
structure Subscription where
  id : Uuid
  userId : Uuid
  serviceIds : List Uuid
  createdAt : Instant
  deriving DecidableEq, Repr

/-- Joins neighbours of one user into groups. -/
def groupByUser : List Channel → List Subscriber
  | [] => []
  | channel :: rest =>
      match groupByUser rest with
      | [] => [⟨channel.userId, [channel]⟩]
      | group :: groups =>
          if group.userId = channel.userId
            then ⟨group.userId, channel :: group.channels⟩ :: groups
          else ⟨channel.userId, [channel]⟩ :: group :: groups

end StatusPage
