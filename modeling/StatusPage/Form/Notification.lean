import StatusPage.Json.Basic
import StatusPage.Notification.Dispatch

/-!
The JSON forms of deliveries and their numbers.
-/

set_option autoImplicit false

namespace StatusPage.Notification

def Report.toJson (report : Report) : Json :=
  .object
    [("attempted", .int report.attempted), ("delivered", .int report.delivered),
      ("failed", .int report.failed), ("skipped", .int report.skipped)]

def outcomeJson (outcome : Delivery × Bool) : Json :=
  let (delivery, ok) := outcome
  .object
    [("sender", .int delivery.sender), ("to", .str delivery.message.recipient),
      ("subject", .str delivery.message.subject), ("body", .str delivery.message.body),
      ("ok", .bool ok)]

end StatusPage.Notification
