import StatusPage.Event.Rules
import StatusPage.Paging
import StatusPage.Store.Call

/-!
A store in memory: seven collections, and how each call reads and changes them. A call that fails
changes nothing. Deleting an event takes its updates along; deleting a template clears the
references to it.
-/

set_option autoImplicit false

namespace StatusPage.Store

open Time (Instant)

/-- Users, refresh tokens and subscriptions in no particular order; events and updates with the
newest first; templates and channels with the oldest first. There are no keys beside the rows: a
user is found by the identifier, a refresh token by the digest and a subscription by the user that
the row itself has. -/
structure Memory where
  users : List User
  refreshTokens : List RefreshToken
  events : List Event
  updates : List EventUpdate
  templates : List EventTemplate
  channels : List Channel
  subscriptions : List Subscription

/-- The instant at which a call is carried out and the identifier that it may give out. -/
structure Stamp where
  now : Instant
  id : Uuid

/-- Puts an identifier into its place in an increasing list, if it is not there. -/
def insertId (id : Uuid) : List Uuid → List Uuid
  | [] => [id]
  | first :: rest =>
      if id < first then id :: first :: rest
      else if id = first then first :: rest
      else first :: insertId id rest

def idSet (ids : List Uuid) : List Uuid := ids.foldr insertId []

namespace Memory

def empty : Memory := ⟨[], [], [], [], [], [], []⟩

variable (memory : Memory) (stamp : Stamp)

def reading {α : Type} (found : Option α) : Except StoreError α × Memory :=
  (match found with
    | some a => .ok a
    | none => .error .notFound, memory)

def createUser (new : NewUser) : Except StoreError User × Memory :=
  if memory.users.any fun user => user.email == new.email then (.error .alreadyExists, memory)
  else
    let user : User :=
      { id := stamp.id, email := new.email, passwordHash := new.passwordHash,
        firstName := new.firstName, lastName := new.lastName, role := new.role.name,
        createdAt := stamp.now, updatedAt := stamp.now }
    (.ok user, { memory with users := user :: memory.users })

def hasUser (id : Uuid) : Bool := memory.users.any fun user => user.id == id

def findRefreshToken (digest : String) : Option RefreshToken :=
  memory.refreshTokens.find? fun token => token.digest == digest

def createRefreshToken (new : NewRefreshToken) : Except StoreError RefreshToken × Memory :=
  if !memory.hasUser new.userId then
    (.error (.backend ("refresh token references unknown user " ++ new.userId.toText)), memory)
  else if (memory.findRefreshToken new.digest).isSome then (.error .alreadyExists, memory)
  else
    let token : RefreshToken :=
      { id := stamp.id, userId := new.userId, digest := new.digest, expiresAt := new.expiresAt,
        createdAt := stamp.now }
    (.ok token, { memory with refreshTokens := token :: memory.refreshTokens })

def dropRefreshTokens (drop : RefreshToken → Bool) : Memory :=
  { memory with refreshTokens := memory.refreshTokens.filter fun token => !drop token }

def takeRefreshToken (digest : String) : Except StoreError RefreshToken × Memory :=
  match memory.findRefreshToken digest with
  | none => (.error .notFound, memory)
  | some token => (.ok token, memory.dropRefreshTokens fun token => token.digest == digest)

def deleteRefreshToken (digest : String) : Except StoreError Bool × Memory :=
  (.ok (memory.findRefreshToken digest).isSome,
    memory.dropRefreshTokens fun token => token.digest == digest)

def deleteRefreshTokens (drop : RefreshToken → Bool) : Except StoreError Nat × Memory :=
  (.ok (memory.refreshTokens.countP drop), memory.dropRefreshTokens drop)

def findEvent (id : Uuid) : Option Event := memory.events.find? fun event => event.id == id

def findTemplate (id : Uuid) : Option EventTemplate :=
  memory.templates.find? fun template => template.id == id

def createEvent (new : NewEvent) : Except StoreError Event × Memory :=
  if new.templateId.any fun id => (memory.findTemplate id).isNone then (.error .notFound, memory)
  else
    let event : Event :=
      { id := stamp.id, title := new.title, kind := new.kind, status := new.status,
        severity := new.severity, description := new.description, startedAt := new.startedAt,
        resolvedAt := none, scheduledStart := new.scheduledStart, scheduledEnd := new.scheduledEnd,
        notify := new.notify, templateId := new.templateId, createdBy := new.createdBy,
        serviceIds := idSet new.serviceIds, createdAt := stamp.now, updatedAt := stamp.now }
    (.ok event, { memory with events := event :: memory.events })

def matchingEvents (filter : EventFilter) : List Event :=
  memory.events.filter fun event =>
    filter.kind.all (· == event.kind) && filter.status.all (· == event.status)

def listEvents (filter : EventFilter) : List Event :=
  Paging.page filter.limit filter.offset (memory.matchingEvents filter)

def changed (event : Event) (change : StatusChange) (now : Instant) : Event :=
  { event with
    status := change.status
    resolvedAt := nextResolvedAt event.resolvedAt change now
    updatedAt := now }

def recordUpdate (eventId : Uuid) (new : NewUpdate) :
    Except StoreError (Event × EventUpdate) × Memory :=
  match memory.findEvent eventId with
  | none => (.error .notFound, memory)
  | some event =>
      let event' := changed event new.change stamp.now
      let update : EventUpdate :=
        { id := stamp.id, eventId := eventId, status := new.change.status, message := new.message,
          notify := new.notify, createdBy := new.createdBy, createdAt := stamp.now }
      (.ok (event', update),
        { memory with
          events := memory.events.map fun e => if e.id = eventId then event' else e
          updates := update :: memory.updates })

def listUpdates (eventId : Uuid) : List EventUpdate :=
  memory.updates.filter fun update => update.eventId == eventId

def deleteEvent (id : Uuid) : Except StoreError Unit × Memory :=
  if (memory.findEvent id).isNone then (.error .notFound, memory)
  else
    (.ok (),
      { memory with
        events := memory.events.filter fun event => event.id != id
        updates := memory.updates.filter fun update => update.eventId != id })

def findTemplateBySlug (slug : String) : Option EventTemplate :=
  memory.templates.find? fun template => template.slug == slug

def createTemplate (new : NewTemplate) : Except StoreError EventTemplate × Memory :=
  if (memory.findTemplateBySlug new.slug).isSome then (.error .alreadyExists, memory)
  else
    let template : EventTemplate :=
      { id := stamp.id, slug := new.slug, kind := new.kind, titleSource := new.titleSource,
        bodySource := new.bodySource, createdAt := stamp.now, updatedAt := stamp.now }
    (.ok template, { memory with templates := memory.templates ++ [template] })

def listTemplates : List EventTemplate :=
  memory.templates.mergeSort fun a b => decide (a.slug ≤ b.slug)

def edited (template : EventTemplate) (change : TemplateChange) (now : Instant) : EventTemplate :=
  { template with
    kind := change.kind.getD template.kind
    titleSource := change.titleSource.getD template.titleSource
    bodySource := change.bodySource.getD template.bodySource
    updatedAt := now }

def updateTemplate (id : Uuid) (change : TemplateChange) :
    Except StoreError EventTemplate × Memory :=
  match memory.findTemplate id with
  | none => (.error .notFound, memory)
  | some template =>
      let template' := edited template change stamp.now
      (.ok template',
        { memory with
          templates := memory.templates.map fun t => if t.id = id then template' else t })

def deleteTemplate (id : Uuid) : Except StoreError Unit × Memory :=
  if (memory.findTemplate id).isNone then (.error .notFound, memory)
  else
    (.ok (),
      { memory with
        templates := memory.templates.filter fun template => template.id != id
        events := memory.events.map fun event =>
          if event.templateId = some id then { event with templateId := none } else event })

def addChannel (new : NewChannel) : Except StoreError Channel × Memory :=
  let channel : Channel :=
    { id := stamp.id, userId := new.userId, kind := new.kind, target := new.target,
      enabled := new.enabled, verified := new.verified, createdAt := stamp.now,
      updatedAt := stamp.now }
  (.ok channel, { memory with channels := memory.channels ++ [channel] })

def findSubscription (userId : Uuid) : Option Subscription :=
  memory.subscriptions.find? fun subscription => subscription.userId == userId

/-- A subscription without services covers all. -/
def covers (subscription : Subscription) (serviceIds : List Uuid) : Bool :=
  subscription.serviceIds.isEmpty || subscription.serviceIds.any fun id => serviceIds.contains id

def subscribersFor (serviceIds : List Uuid) : List Subscriber :=
  let channels := memory.channels.filter fun channel =>
    (memory.findSubscription channel.userId).any fun subscription => covers subscription serviceIds
  groupByUser (channels.mergeSort fun a b => decide (a.userId ≤ b.userId))

/-- A subscription that exists keeps its identifier and its time of creation. -/
def setSubscription (userId : Uuid) (serviceIds : List Uuid) :
    Except StoreError Subscription × Memory :=
  if !memory.hasUser userId then (.error .notFound, memory)
  else
    let old := (memory.findSubscription userId).getD ⟨stamp.id, userId, [], stamp.now⟩
    let subscription := { old with serviceIds := idSet serviceIds }
    let others := memory.subscriptions.filter fun subscription => subscription.userId != userId
    (.ok subscription, { memory with subscriptions := subscription :: others })

def deleteSubscription (userId : Uuid) : Except StoreError Unit × Memory :=
  if (memory.findSubscription userId).isNone then (.error .notFound, memory)
  else
    (.ok (),
      { memory with
        subscriptions :=
          memory.subscriptions.filter fun subscription => subscription.userId != userId })

def perform : (call : Call) → Except StoreError call.Result × Memory
  | .createUser new => memory.createUser stamp new
  | .findUserById id => memory.reading (memory.users.find? fun user => user.id == id)
  | .findUserByEmail email => memory.reading (memory.users.find? fun user => user.email == email)
  | .createRefreshToken new => memory.createRefreshToken stamp new
  | .takeRefreshToken digest => memory.takeRefreshToken digest
  | .deleteRefreshToken digest => memory.deleteRefreshToken digest
  | .deleteUserRefreshTokens userId =>
    memory.deleteRefreshTokens fun token => token.userId == userId
  | .deleteExpiredRefreshTokens => memory.deleteRefreshTokens fun token => token.isExpired stamp.now
  | .createEvent new => memory.createEvent stamp new
  | .findEvent id => memory.reading (memory.findEvent id)
  | .listEvents filter => (.ok (memory.listEvents filter), memory)
  | .recordUpdate eventId new => memory.recordUpdate stamp eventId new
  | .listUpdates eventId => (.ok (memory.listUpdates eventId), memory)
  | .deleteEvent id => memory.deleteEvent id
  | .createTemplate new => memory.createTemplate stamp new
  | .findTemplate id => memory.reading (memory.findTemplate id)
  | .findTemplateBySlug slug => memory.reading (memory.findTemplateBySlug slug)
  | .listTemplates => (.ok memory.listTemplates, memory)
  | .updateTemplate id change => memory.updateTemplate stamp id change
  | .deleteTemplate id => memory.deleteTemplate id
  | .addChannel new => memory.addChannel stamp new
  | .subscribersFor serviceIds => (.ok (memory.subscribersFor serviceIds), memory)
  | .findSubscription userId => memory.reading (memory.findSubscription userId)
  | .setSubscription userId serviceIds => memory.setSubscription stamp userId serviceIds
  | .deleteSubscription userId => memory.deleteSubscription userId
  | .ping => (.ok (), memory)

end Memory

end StatusPage.Store
