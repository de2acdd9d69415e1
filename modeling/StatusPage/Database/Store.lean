import StatusPage.Database.Account
import StatusPage.Database.Event
import StatusPage.Database.Subscriber
import StatusPage.Database.Template

/-!
The store over a database: what is said to the database for each call, and what the caller is told
of its failures.
-/

set_option autoImplicit false

namespace StatusPage.Database

/-- Any answer shows that the database can be reached. -/
def ping : Work Unit := do
  let _ ← Work.affected ⟨"SELECT 1", []⟩

def work : (call : Store.Call) → Work call.Result
  | .createUser new => createUser new
  | .findUserById id => findUserById id
  | .findUserByEmail email => findUserByEmail email
  | .createRefreshToken new => createRefreshToken new
  | .takeRefreshToken digest => takeRefreshToken digest
  | .deleteRefreshToken digest => deleteRefreshToken digest
  | .deleteUserRefreshTokens userId => deleteUserRefreshTokens userId
  | .deleteExpiredRefreshTokens => deleteExpiredRefreshTokens
  | .createEvent new => createEvent new
  | .findEvent id => findEvent id
  | .listEvents filter => listEvents filter
  | .recordUpdate eventId new => recordUpdate eventId new
  | .listUpdates eventId => listUpdates eventId
  | .deleteEvent id => deleteEvent id
  | .createTemplate new => createTemplate new
  | .findTemplate id => findTemplate id
  | .findTemplateBySlug slug => findTemplateBySlug slug
  | .listTemplates => listTemplates
  | .updateTemplate id change => updateTemplate id change
  | .deleteTemplate id => deleteTemplate id
  | .addChannel new => addChannel new
  | .subscribersFor serviceIds => subscribersFor serviceIds
  | .findSubscription userId => findSubscription userId
  | .setSubscription userId serviceIds => setSubscription userId serviceIds
  | .deleteSubscription userId => deleteSubscription userId
  | .ping => ping

def perform (call : Store.Call) : Exchange (Except StoreError call.Result) := do
  return (← (work call).run).mapError Error.toStoreError

end StatusPage.Database
