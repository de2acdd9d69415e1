import StatusPage.Auth.Service
import StatusPage.Event.Service
import StatusPage.Form.Account
import StatusPage.Form.Event
import StatusPage.Form.Subscriber
import StatusPage.Http.Failure
import StatusPage.Http.MediaType
import StatusPage.Http.Route
import StatusPage.Http.Target
import StatusPage.Role
import StatusPage.Subscriptions

/-!
What each endpoint does with a request. The caller is checked first, then the parts of the path,
then query or body, then the texts in the body; only then is the store asked for anything.
-/

set_option autoImplicit false

namespace StatusPage.Http

open Json (Fields Reader)
open Text (Bytes)

structure Settings where
  auth : Auth.Settings
  notices : Bool

/-! ### Reading requests -/

def bodyLimit : Nat := 2097152

def readBody {α : Type} (read : Reader α) (request : Request) : Except Response α :=
  if !(request.asciiHeader? "content-type").any isJsonType then
    .error (.plain 415 "Expected request with `Content-Type")
  else if bodyLimit < request.body.length
    then .error (.plain 413 "Failed to buffer the request body")
  else
    match Json.readAll read request.body with
    | .ok a => .ok a
    | .error .malformed => .error (.plain 400 "Failed to parse the request body as JSON")
    | .error .mismatch =>
        .error (.plain 422 "Failed to deserialize the JSON body into the target type")

def readRecord {α : Type} (fields : Fields α) (request : Request) : Except Response α :=
  readBody (Reader.record fields) request

def checked (problems : List Problem) : Except Response Unit :=
  (Problem.check problems).mapError fun report => Failure.response (.core (.validation report))

def badPath : Response := .plain 400 "Invalid URL"

def pathText (captured : List (List Char)) : Except Response String :=
  match captured.head?.bind decodeSegment with
  | some text => .ok text
  | none => .error badPath

def pathId (captured : List (List Char)) : Except Response Uuid := do
  match Uuid.ofText? (← pathText captured) with
  | some id => .ok id
  | none => .error badPath

def templateId (key : String) : Except Response Uuid :=
  match Uuid.ofText? key with
  | some id => .ok id
  | none => .error (Failure.response (.badRequest ("Invalid template id: " ++ Text.quote key)))

def readQuery (request : Request) : Except Response EventQuery :=
  match eventQuery? request.query with
  | some query => .ok query
  | none => .error (.plain 400 "Failed to deserialize query string")

/-! ### Callers -/

def unauthorized (text : String) : Response := Failure.response (.core (.unauthorized text))

def bearerToken (header : String) : Option String :=
  let chars := header.toList
  let scheme := chars.takeWhile (· ≠ ' ')
  let token := Text.trim (chars.drop (scheme.length + 1))
  if String.ofList (scheme.map Char.toLower) = "bearer" ∧ !token.isEmpty
    then some (String.ofList token)
  else none

def authenticate (request : Request) : Program (Except Response Identity) := do
  match request.asciiHeader? "authorization" with
  | none => return .error (unauthorized "Missing Authorization header")
  | some header =>
      match bearerToken header with
      | none =>
          return .error (unauthorized "Invalid Authorization format. Expected: Bearer <token>")
      | some token =>
          match ← Auth.validateAccessToken token with
          | .ok identity => return .ok identity
          | .error _ => return .error (unauthorized "Invalid or expired token")

/-- Lets pass whoever has a role, or, if none is asked for, everybody who is known. -/
def authorize (required : Option Role) (request : Request) :
    Program (Except Response Identity) := do
  match ← authenticate request with
  | .error response => return .error response
  | .ok identity =>
      match required with
      | none => return .ok identity
      | some role =>
          if Role.permits identity.role role then return .ok identity
          else return .error (Failure.response (.core (.forbidden (role.name ++ " role required"))))

/-! ### Answering -/

/-- Goes on with what was read, or answers with the refusal. -/
def withRead {α : Type} (read : Except Response α) (next : α → Program Response) :
    Program Response :=
  match read with
  | .ok a => next a
  | .error response => return response

def respond {ε α : Type} (wrap : ε → Failure) (write : α → Response) :
    Except ε α → Response
  | .ok a => write a
  | .error e => Failure.response (wrap e)

def respondAuth {α : Type} (write : α → Response) : Except AuthError α → Response :=
  respond .auth write

def respondEvent {α : Type} (write : α → Response) : Except EventError α → Response :=
  respond .event write

def respondCore {α : Type} (write : α → Response) : Except CoreError α → Response :=
  respond .core write

def done {α : Type} (_ : α) : Response := .noBody 204

/-! ### Endpoints -/

def health : Response := .ofJson 200 (.object [("status", .str "ok"), ("version", .str "0.1.0")])

def readiness (healthy : Bool) : Response :=
  .ofJson (if healthy then 200 else 503)
    (.object [("status", .str (if healthy then "ready" else "unavailable")),
      ("store_healthy", .bool healthy)])

def showEvents (result : Except EventError (List Event)) : Response :=
  respondEvent (fun events => .data 200 (Json.listOf Event.toJson events)) result

def recentLimit : Int := 10
def historyLimit : Int := 50

def PublicEndpoint.serve (settings : Settings) (request : Request) :
    PublicEndpoint → Program Response
  | .health => return Http.health
  | .readiness => do
      match ← Program.store .ping with
      | .ok _ => return Http.readiness true
      | .error _ => return Http.readiness false
  | .register =>
      withRead (do
          let registration ← readRecord Registration.fields request
          checked registration.problems
          return registration) fun registration => do
        return respondAuth (fun user => .data 201 user.profile.toJson)
          (← Auth.register registration)
  | .login =>
      withRead (readRecord Credentials.fields request) fun credentials => do
        return respondAuth (fun login => .data 200 (loginJson login))
          (← Auth.login settings.auth credentials.email credentials.password)
  | .refresh =>
      withRead (readRecord PresentedToken.fields request) fun presented => do
        return respondAuth (fun tokens => .data 200 tokens.toJson)
          (← Auth.refresh settings.auth presented.token)
  | .logout =>
      withRead (readRecord PresentedToken.fields request) fun presented => do
        return respondAuth done (← Auth.logout presented.token)
  | .status => return showEvents (← Events.recent recentLimit)
  | .history => return showEvents (← Events.recent historyLimit)

def MemberEndpoint.serve (caller : Identity) (request : Request) :
    MemberEndpoint → Program Response
  | .logoutAll => return respondAuth done (← Auth.logoutAll caller.userId)
  | .me =>
      return respondAuth (fun user => .data 200 user.profile.toJson)
        (← Auth.getUser caller.userId)
  | .showSubscription =>
      return respondCore (fun s => .data 200 s.toJson) (← Subscriptions.get caller.userId)
  | .subscribe =>
      withRead (readRecord ServiceChoice.fields request) fun choice => do
        return respondCore (fun s => .data 200 s.toJson)
          (← Subscriptions.subscribe caller.userId choice)
  | .unsubscribe => return respondCore done (← Subscriptions.unsubscribe caller.userId)

def OperatorEndpoint.serve (settings : Settings) (caller : Identity) (captured : List (List Char))
    (request : Request) : OperatorEndpoint → Program Response
  | .listEvents =>
      withRead (readQuery request) fun query => return showEvents (← Events.list query)
  | .createEvent =>
      withRead (do
          let draft ← readRecord EventDraft.fields request
          checked draft.problems
          return draft) fun draft => do
        return respondEvent (fun event => .data 201 event.toJson)
          (← Events.create settings.notices caller.userId draft)
  | .showEvent =>
      withRead (pathId captured) fun id => do
        return respondEvent (fun event => .data 200 event.toJson) (← Events.get id)
  | .listUpdates =>
      withRead (pathId captured) fun id => do
        return respondEvent (fun updates => .data 200 (Json.listOf EventUpdate.toJson updates))
          (← Events.listUpdates id)
  | .addUpdate =>
      withRead (do
          let id ← pathId captured
          let draft ← readRecord UpdateDraft.fields request
          checked draft.problems
          return (id, draft)) fun (id, draft) => do
        return respondEvent (fun (_, update) => .data 201 update.toJson)
          (← Events.addUpdate settings.notices id caller.userId draft)

def AdminEndpoint.serve (captured : List (List Char)) (request : Request) :
    AdminEndpoint → Program Response
  | .deleteEvent =>
      withRead (pathId captured) fun id => return respondEvent done (← Events.delete id)
  | .listTemplates => do
      return respondEvent (fun templates => .data 200 (Json.listOf EventTemplate.toJson templates))
        (← Events.listTemplates)
  | .createTemplate =>
      withRead (do
          let draft ← readRecord TemplateDraft.fields request
          checked draft.problems
          return draft) fun draft => do
        return respondEvent (fun template => .data 201 template.toJson)
          (← Events.createTemplate draft)
  | .showTemplate =>
      withRead (pathText captured) fun slug => do
        return respondEvent (fun template => .data 200 template.toJson)
          (← Events.getTemplate slug)
  | .updateTemplate =>
      withRead (do
          let key ← pathText captured
          let edit ← readRecord TemplateEdit.fields request
          let id ← templateId key
          checked edit.problems
          return (id, edit)) fun (id, edit) => do
        return respondEvent (fun template => .data 200 template.toJson)
          (← Events.updateTemplate id edit)
  | .deleteTemplate =>
      withRead (do templateId (← pathText captured)) fun id => do
        return respondEvent done (← Events.deleteTemplate id)
  | .preview =>
      withRead (do
          let slug ← pathText captured
          let data ← readRecord TemplateData.fields request
          return (slug, data)) fun (slug, data) => do
        return respondEvent (fun rendered => .data 200 rendered.toJson)
          (← Events.preview slug data)

/-- The response of an endpoint; `captured` are the segments at the open places of its path. -/
def Endpoint.serve (settings : Settings) (captured : List (List Char)) (request : Request)
    (endpoint : Endpoint) : Program Response :=
  match endpoint with
  | .everybody endpoint => endpoint.serve settings request
  | .member endpoint => do
      match ← authorize none request with
      | .error response => return response
      | .ok caller => endpoint.serve caller request
  | .operator endpoint => do
      match ← authorize (some .operator) request with
      | .error response => return response
      | .ok caller => endpoint.serve settings caller captured request
  | .admin endpoint => do
      match ← authorize (some .admin) request with
      | .error response => return response
      | .ok _ => endpoint.serve captured request

def route (settings : Settings) (request : Request) : Program Response :=
  match (segments request.path).bind findRoute with
  | none => return .noBody 404
  | some (found, captured) =>
      match found.endpoint? request.method with
      | none => return (Response.noBody 405).withHeaders [("allow", found.allow)]
      | some endpoint => endpoint.serve settings captured request

end StatusPage.Http
