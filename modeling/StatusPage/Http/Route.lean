/-!
The table of routes. Endpoints are sorted by who may use them: everybody, whoever is signed in,
operators, or admins.
-/

set_option autoImplicit false

namespace StatusPage.Http

inductive PublicEndpoint where
  | health
  | readiness
  | register
  | login
  | refresh
  | logout
  | status
  | history
  deriving DecidableEq, Repr

inductive MemberEndpoint where
  | logoutAll
  | me
  | showSubscription
  | subscribe
  | unsubscribe
  deriving DecidableEq, Repr

inductive OperatorEndpoint where
  | listEvents
  | createEvent
  | showEvent
  | listUpdates
  | addUpdate
  deriving DecidableEq, Repr

inductive AdminEndpoint where
  | deleteEvent
  | listTemplates
  | createTemplate
  | showTemplate
  | updateTemplate
  | deleteTemplate
  | preview
  deriving DecidableEq, Repr

inductive Endpoint where
  | everybody (endpoint : PublicEndpoint)
  | member (endpoint : MemberEndpoint)
  | operator (endpoint : OperatorEndpoint)
  | admin (endpoint : AdminEndpoint)
  deriving DecidableEq, Repr

/-- A part of a path: a fixed text, or any text that is not empty. -/
inductive PathPart where
  | fixed (text : String)
  | any
  deriving DecidableEq, Repr

/-- A path and its endpoints by method, in the order in which they are announced. -/
structure Route where
  parts : List PathPart
  endpoints : List (String × Endpoint)
  deriving DecidableEq, Repr

def apiPath (parts : List PathPart) : List PathPart := .fixed "api" :: .fixed "v1" :: parts

def authRoute (name : String) (endpoint : Endpoint) : Route :=
  ⟨apiPath [.fixed "auth", .fixed name], [("POST", endpoint)]⟩

def routes : List Route :=
  [⟨[.fixed "health"], [("GET", .everybody .health)]⟩,
    ⟨[.fixed "ready"], [("GET", .everybody .readiness)]⟩,
    authRoute "register" (.everybody .register),
    authRoute "login" (.everybody .login),
    authRoute "refresh" (.everybody .refresh),
    authRoute "logout" (.everybody .logout),
    authRoute "logout-all" (.member .logoutAll),
    ⟨apiPath [.fixed "me"], [("GET", .member .me)]⟩,
    ⟨apiPath [.fixed "me", .fixed "subscriptions"],
      [("GET", .member .showSubscription), ("POST", .member .subscribe),
        ("DELETE", .member .unsubscribe)]⟩,
    ⟨apiPath [.fixed "status"], [("GET", .everybody .status)]⟩,
    ⟨apiPath [.fixed "status", .fixed "history"], [("GET", .everybody .history)]⟩,
    ⟨apiPath [.fixed "events"],
      [("GET", .operator .listEvents), ("POST", .operator .createEvent)]⟩,
    ⟨apiPath [.fixed "events", .any],
      [("GET", .operator .showEvent), ("DELETE", .admin .deleteEvent)]⟩,
    ⟨apiPath [.fixed "events", .any, .fixed "updates"],
      [("GET", .operator .listUpdates), ("POST", .operator .addUpdate)]⟩,
    ⟨apiPath [.fixed "templates"],
      [("GET", .admin .listTemplates), ("POST", .admin .createTemplate)]⟩,
    ⟨apiPath [.fixed "templates", .any],
      [("GET", .admin .showTemplate), ("PUT", .admin .updateTemplate),
        ("DELETE", .admin .deleteTemplate)]⟩,
    ⟨apiPath [.fixed "templates", .any, .fixed "preview"], [("POST", .admin .preview)]⟩]

def PathPart.capture : List PathPart → List (List Char) → Option (List (List Char))
  | [], [] => some []
  | .fixed text :: parts, segment :: segments =>
      if segment = text.toList then capture parts segments else none
  | .any :: parts, segment :: segments =>
      if segment.isEmpty then none else (capture parts segments).map (segment :: ·)
  | _, _ => none

def findRoute (segments : List (List Char)) : Option (Route × List (List Char)) :=
  routes.findSome? fun route => (PathPart.capture route.parts segments).map fun found =>
    (route, found)

/-- The endpoint of a method; a request for the head of a page goes where
a request for the page does. -/
def Route.endpoint? (route : Route) (method : String) : Option Endpoint :=
  route.endpoints.lookup (if method = "HEAD" then "GET" else method)

/-- The methods of a route, as a response announces them. -/
def Route.allow (route : Route) : String :=
  ",".intercalate (route.endpoints.flatMap fun (method, _) =>
    if method = "GET" then ["GET", "HEAD"] else [method])

end StatusPage.Http
