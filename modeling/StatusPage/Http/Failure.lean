import StatusPage.Event.Rules
import StatusPage.Http.Message
import StatusPage.Subscriptions

/-!
Errors as responses: a status, a code that clients can rely on, and a text. What went wrong inside
is not told.
-/

set_option autoImplicit false

namespace StatusPage.Http

inductive ErrorCode where
  | notFound
  | validation
  | unauthorized
  | forbidden
  | internal
  | invalidCredentials
  | emailExists
  | invalidToken
  | tokenExpired
  | userNotFound
  | eventNotFound
  | templateNotFound
  | invalidStatus
  | invalidSeverity
  | invalidEventType
  | invalidTemplate
  | renderFailed
  | conflict
  | badRequest
  deriving DecidableEq, Repr

namespace ErrorCode

def text : ErrorCode → String
  | .notFound => "NOT_FOUND"
  | .validation => "VALIDATION_ERROR"
  | .unauthorized => "UNAUTHORIZED"
  | .forbidden => "FORBIDDEN"
  | .internal => "INTERNAL_ERROR"
  | .invalidCredentials => "INVALID_CREDENTIALS"
  | .emailExists => "EMAIL_EXISTS"
  | .invalidToken => "INVALID_TOKEN"
  | .tokenExpired => "TOKEN_EXPIRED"
  | .userNotFound => "USER_NOT_FOUND"
  | .eventNotFound => "EVENT_NOT_FOUND"
  | .templateNotFound => "TEMPLATE_NOT_FOUND"
  | .invalidStatus => "INVALID_STATUS"
  | .invalidSeverity => "INVALID_SEVERITY"
  | .invalidEventType => "INVALID_EVENT_TYPE"
  | .invalidTemplate => "INVALID_TEMPLATE"
  | .renderFailed => "TEMPLATE_RENDER_FAILED"
  | .conflict => "CONFLICT"
  | .badRequest => "BAD_REQUEST"

def status : ErrorCode → Nat
  | .notFound | .userNotFound | .eventNotFound | .templateNotFound => 404
  | .validation | .invalidStatus | .invalidSeverity | .invalidEventType | .invalidTemplate
  | .badRequest => 400
  | .unauthorized | .invalidCredentials | .invalidToken | .tokenExpired => 401
  | .forbidden => 403
  | .internal => 500
  | .emailExists | .conflict => 409
  | .renderFailed => 422

end ErrorCode

/-- What a request can fail with once it has been read. -/
inductive Failure where
  | core (e : CoreError)
  | auth (e : AuthError)
  | event (e : EventError)
  | badRequest (text : String)
  deriving DecidableEq, Repr

namespace Failure

def message : Failure → String
  | .core e => e.message
  | .auth e => e.message
  | .event e => e.message
  | .badRequest text => "Bad request: " ++ text

def internalText : String := "An internal error occurred"

def describe : Failure → ErrorCode × String
  | .core (.notFound what) => (.notFound, what ++ " not found")
  | .core (.validation report) => (.validation, report)
  | .core (.unauthorized text) => (.unauthorized, text)
  | .core (.forbidden text) => (.forbidden, text)
  | .core (.internal _) => (.internal, internalText)
  | .auth .invalidCredentials => (.invalidCredentials, "Invalid email or password")
  | .auth .emailExists => (.emailExists, "Email is already registered")
  | .auth .invalidToken => (.invalidToken, "Invalid token")
  | .auth .tokenExpired => (.tokenExpired, "Token has expired")
  | .auth .userNotFound => (.userNotFound, "User not found")
  | .auth (.internal _) => (.internal, internalText)
  | .event .eventNotFound => (.eventNotFound, "Event not found")
  | .event .templateNotFound => (.templateNotFound, "Template not found")
  | .event .invalidStatus => (.invalidStatus, EventError.invalidStatus.message)
  | .event .invalidSeverity => (.invalidSeverity, EventError.invalidSeverity.message)
  | .event .invalidKind => (.invalidEventType, EventError.invalidKind.message)
  | .event (.invalidTemplate (.parse offset reason)) =>
      (.invalidTemplate, (TemplateError.parse offset reason).message)
  | .event (.invalidTemplate (.render reason)) =>
    (.renderFailed, (TemplateError.render reason).message)
  | .event (.slugTaken slug) =>
    (.conflict, "Template slug " ++ Text.quote slug ++ " already exists")
  | .event (.internal _) => (.internal, internalText)
  | .badRequest text => (.badRequest, text)

def body (failure : Failure) : Json :=
  .object [("error", .str failure.describe.2), ("code", .str failure.describe.1.text)]

def response (failure : Failure) : Response := .ofJson failure.describe.1.status failure.body

end Failure

end StatusPage.Http
