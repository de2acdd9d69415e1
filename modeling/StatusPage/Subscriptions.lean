import StatusPage.Program
import StatusPage.Request

/-!
The subscription of a user: which services they want to hear of.
-/

set_option autoImplicit false

namespace StatusPage

/-- Errors that name no particular part of the service. -/
inductive CoreError where
  | notFound (what : String)
  | validation (report : String)
  | unauthorized (text : String)
  | forbidden (text : String)
  | internal (context : String)
  deriving DecidableEq, Repr

def CoreError.message : CoreError → String
  | .notFound what => "Not found: " ++ what
  | .validation report => "Validation failed: " ++ report
  | .unauthorized text => "Unauthorized: " ++ text
  | .forbidden text => "Forbidden: " ++ text
  | .internal context => "Internal error: " ++ context

namespace Subscriptions

def failed (context : String) (e : StoreError) : CoreError :=
  .internal (context ++ ": " ++ e.message)

def missing (context : String) : StoreError → CoreError
  | .notFound => .notFound "Subscription"
  | e => failed context e

def get (userId : Uuid) : Program (Except CoreError Subscription) := do
  return (← Program.store (.findSubscription userId)).mapError (missing "loading subscription")

def subscribe (userId : Uuid) (choice : ServiceChoice) :
    Program (Except CoreError Subscription) := do
  return (← Program.store (.setSubscription userId choice.serviceIds)).mapError
    (failed "saving subscription")

def unsubscribe (userId : Uuid) : Program (Except CoreError Unit) := do
  return (← Program.store (.deleteSubscription userId)).mapError (missing "deleting subscription")

end Subscriptions

end StatusPage
