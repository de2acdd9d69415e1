import StatusPage.Program

/-!
Notices to subscribers: one message for each of their channels that can be reached. A channel is
skipped when it is switched off or unverified, or when nothing delivers to its kind; a delivery that
fails does not hinder the others. First all channels are gone through, then all messages are sent
and their outcomes counted.
-/

set_option autoImplicit false

namespace StatusPage.Notification

structure Message where
  recipient : String
  subject : String
  body : String
  deriving DecidableEq, Repr

/-- A message for one of the registered senders, which are numbered in the order of registration. -/
structure Delivery where
  sender : Nat
  message : Message
  deriving DecidableEq, Repr

structure Report where
  attempted : Nat
  delivered : Nat
  failed : Nat
  skipped : Nat
  deriving DecidableEq, Repr

/-- The last sender that is registered for a kind of channel. -/
def senderFor (senders : List ChannelKind) (kind : ChannelKind) : Option Nat :=
  (senders.zipIdx.filter fun (k, _) => k == kind).getLast?.map Prod.snd

def allChannels (subscribers : List Subscriber) : List Channel :=
  subscribers.flatMap Subscriber.channels

/-- What has come of the channels so far: the messages to send, in order, and the
number of skipped channels. -/
structure Plan where
  sends : List Delivery
  skipped : Nat
  deriving DecidableEq, Repr

namespace Plan

def empty : Plan := ⟨[], 0⟩

def send (plan : Plan) (delivery : Delivery) : Plan :=
  { plan with sends := plan.sends ++ [delivery] }

def skip (plan : Plan) : Plan := { plan with skipped := plan.skipped + 1 }

def visit (senders : List ChannelKind) (notice : Notice) (plan : Plan) (channel : Channel) : Plan :=
  if !channel.isDeliverable then plan.skip
  else
    match senderFor senders channel.kind with
    | none => plan.skip
    | some sender => plan.send ⟨sender, channel.target, notice.subject, notice.body⟩

def build (senders : List ChannelKind) (notice : Notice) (subscribers : List Subscriber) : Plan :=
  (allChannels subscribers).foldl (visit senders notice) empty

end Plan

/-- What becomes of the messages; `succeeds` tells for each, by its
number, whether it is delivered. -/
def outcomes (succeeds : Nat → Delivery → Bool) (sends : List Delivery) :
    List (Delivery × Bool) :=
  sends.zipIdx.map fun (delivery, i) => (delivery, succeeds i delivery)

namespace Report

def start (plan : Plan) : Report := ⟨plan.sends.length, 0, 0, plan.skipped⟩

def count (report : Report) (result : Delivery × Bool) : Report :=
  if result.2 then { report with delivered := report.delivered + 1 }
  else { report with failed := report.failed + 1 }

end Report

def dispatch (senders : List ChannelKind) (succeeds : Nat → Delivery → Bool) (notice : Notice) :
    Program (Except StoreError (List (Delivery × Bool) × Report)) := do
  match ← Program.store (.subscribersFor notice.serviceIds) with
  | .error e => return .error e
  | .ok subscribers =>
      let plan := Plan.build senders notice subscribers
      let results := outcomes succeeds plan.sends
      return .ok (results, results.foldl Report.count (.start plan))

end StatusPage.Notification
