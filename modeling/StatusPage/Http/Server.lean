import StatusPage.Http.Handler

/-!
Around the router: the answer to a program that does not end well, the request's identifier, and who
may read responses in a browser. A question from a browser whether it may send a request is answered
at once, on any path.
-/

set_option autoImplicit false

namespace StatusPage.Http

structure Cors where
  origins : List String
  deriving DecidableEq, Repr

namespace Cors

/-- Refuses origins that no header can hold, and the wildcard, which does not go with
credentials. -/
def ofOrigins (origins : List String) : Except String Cors :=
  match origins.find? fun origin => !isHeaderText origin with
  | some origin => .error ("Invalid CORS origin '" ++ origin ++ "': failed to parse header value")
  | none =>
      if origins.contains "*" then
        .error "Wildcard origin (`*`) cannot be passed to `AllowOrigin::list`. Use `AllowOrigin::any()` instead"
      else .ok ⟨origins⟩

def allowedOrigin (cors : Cors) (request : Request) : List (String × String) :=
  match request.header? "origin" with
  | some origin =>
      if cors.origins.contains origin then [("access-control-allow-origin", origin)] else []
  | none => []

def headers (cors : Cors) (request : Request) : List (String × String) :=
  ("access-control-allow-credentials", "true") :: cors.allowedOrigin request ++
    [("vary", "origin, access-control-request-method, access-control-request-headers")]

def preflight (cors : Cors) (request : Request) : Response :=
  (Response.noBody 200).withHeaders
    (cors.headers request ++
      [("access-control-allow-headers", "content-type,authorization"),
        ("access-control-allow-methods", "GET,POST,PUT,DELETE"),
        ("access-control-max-age", "3600")])

end Cors

/-- A response for whatever a program comes to: one that never ends is cut off. -/
def ofReply : Reply Response → Response
  | .value response => response
  | .never => .noBody 408
  | .aborted _ => .plain 500 "Service panicked"

def headOnly (request : Request) (response : Response) : Response :=
  if request.method = "HEAD" then { response with body := .empty } else response

def allowHeader (request : Request) : List (String × String) :=
  match (segments request.path).bind findRoute with
  | some (found, _) =>
      if (found.endpoint? request.method).isNone then [("allow", found.allow)] else []
  | none => []

def serve {σ : Type} (interpreter : Interpreter σ) (settings : Settings) (cors : Cors)
    (freshId : String) (request : Request) (state : σ) : Response × σ :=
  if request.method = "OPTIONS" then
    ((cors.preflight request).withHeaders (allowHeader request), state)
  else
    let (reply, state) := (route settings request).run interpreter state
    let id := (request.header? "x-request-id").getD freshId
    (headOnly request
      ((ofReply reply).withHeaders (cors.headers request ++ [("x-request-id", id)])),
      state)

end StatusPage.Http
