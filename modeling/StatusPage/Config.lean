import StatusPage.Auth.Keyring
import StatusPage.Auth.Password
import StatusPage.Text.Blank
import StatusPage.Text.Numeral
import StatusPage.Text.Quoted

/-!
Configuration from named texts. A text that cannot be used stops the loading with a message; it is
never replaced by a default, but for the port of the mail server.
-/

set_option autoImplicit false

namespace StatusPage.Config

open Text (NumeralError)

abbrev Environment := List (String × String)

/-- Loading stops with the text that tells why. -/
abbrev Load := Except String

variable (env : Environment)

def textOr (name default : String) : String := (env.lookup name).getD default

def requiredText (name complaint : String) : Load String :=
  match env.lookup name with
  | some text => .ok text
  | none => .error (complaint ++ ": NotPresent")

def numeralComplaint (complaint : String) (e : NumeralError) : String :=
  complaint ++ ": ParseIntError \x7b kind: " ++ e.name ++ " \x7d"

def numberOr (name : String) (lowest highest : Int) (type : String) (default : Int) : Load Int :=
  match env.lookup name with
  | none => .ok default
  | some text =>
      (Text.readNumeral lowest highest text.toList).mapError
        (numeralComplaint (name ++ " must be a valid " ++ type))

/-- The entries of a list between commas, without blanks around them; empty ones do not count. -/
def entries (text : String) : List (List Char) :=
  ((text.toList.splitOn ',').map Text.trim).filter (!·.isEmpty)

structure Jwt where
  keyId : String
  secret : String
  previousKeys : List (String × String)
  accessMinutes : Int
  refreshDays : Int
  deriving DecidableEq, Repr

/-- A key's name and secret around the first equals sign. The name loses the blanks around it; the
secret is taken as it is. -/
def previousKey (entry : List Char) : Except (List Char) (String × String) :=
  let name := Text.trim (entry.takeWhile (· ≠ '='))
  let secret := (entry.dropWhile (· ≠ '=')).drop 1
  if entry.contains '=' && !name.isEmpty && !secret.isEmpty then
    .ok (String.ofList name, String.ofList secret)
  else .error entry

def readPreviousKeys (text : String) : Except String (List (String × String)) :=
  ((entries text).mapM previousKey).mapError String.ofList

def previousKeysComplaint (entry : String) : String :=
  "JWT_PREVIOUS_SECRETS must be a comma-separated list of kid=secret pairs: " ++
    Text.quote ("malformed key entry " ++ Text.quote entry)

def Jwt.load : Load Jwt := do
  let secret ← requiredText env "JWT_SECRET" "JWT_SECRET must be set in the environment"
  if secret = "" then .error "JWT_SECRET must not be empty"
  let retired ← (readPreviousKeys (textOr env "JWT_PREVIOUS_SECRETS" "")).mapError
    previousKeysComplaint
  let accessMinutes ← numberOr env "JWT_ACCESS_EXPIRY_MINS" Text.int64Min Text.int64Max "i64" 15
  let refreshDays ← numberOr env "JWT_REFRESH_EXPIRY_DAYS" Text.int64Min Text.int64Max "i64" 7
  return ⟨textOr env "JWT_KEY_ID" "primary", secret, retired, accessMinutes, refreshDays⟩

def Jwt.keyring (jwt : Jwt) : Auth.Keyring :=
  Auth.Keyring.ofMinutes jwt.keyId jwt.secret jwt.previousKeys jwt.accessMinutes

def costOr (name : String) (default : Nat) : Load Nat :=
  match env.lookup name with
  | none => .ok default
  | some text =>
      match Text.readNumeral 0 Text.word32Max text.toList with
      | .ok n => .ok n.toNat
      | .error _ => .error (name ++ " must be a valid u32")

def loadCosts : Load Auth.PasswordCosts := do
  let memory ← costOr env "PASSWORD_HASH_MEMORY_KIB" Auth.PasswordCosts.default.memoryKib
  let iterations ← costOr env "PASSWORD_HASH_ITERATIONS" Auth.PasswordCosts.default.iterations
  let parallelism ← costOr env "PASSWORD_HASH_PARALLELISM" Auth.PasswordCosts.default.parallelism
  return ⟨memory, iterations, parallelism⟩

inductive LogFormat where
  | pretty
  | json
  deriving DecidableEq, Repr

def loadLogFormat : Load LogFormat :=
  match env.lookup "LOG_FORMAT" with
  | none => .ok .pretty
  | some text =>
      if text = "json" then .ok .json
      else if text = "pretty" then .ok .pretty
      else .error ("LOG_FORMAT must be `pretty` or `json`, got " ++ Text.quote text)

structure Server where
  host : String
  port : Int
  corsOrigins : List String
  requestTimeoutSeconds : Int
  logFormat : LogFormat
  cleanupIntervalSeconds : Int
  jwt : Jwt
  password : Auth.PasswordCosts
  deriving DecidableEq, Repr

def Server.load : Load Server := do
  let port ← numberOr env "PORT" 0 Text.word16Max "u16" 8080
  let timeout ← numberOr env "REQUEST_TIMEOUT_SECS" 0 Text.word64Max "u64" 30
  let cleanup ← numberOr env "TOKEN_CLEANUP_INTERVAL_SECS" 0 Text.word64Max "u64" 3600
  if cleanup = 0 then .error "TOKEN_CLEANUP_INTERVAL_SECS must be positive"
  let logFormat ← loadLogFormat env
  let jwt ← Jwt.load env
  let password ← loadCosts env
  return {
    host := textOr env "HOST" "0.0.0.0"
    port := port
    corsOrigins := (entries (textOr env "CORS_ORIGINS" "http://localhost:5173")).map String.ofList
    requestTimeoutSeconds := timeout
    logFormat := logFormat
    cleanupIntervalSeconds := cleanup
    jwt := jwt
    password := password }

structure Database where
  url : String
  maxConnections : Int
  deriving DecidableEq, Repr

def Database.load : Load Database := do
  let url ← requiredText env "DATABASE_URL" "DATABASE_URL must be set"
  let maxConnections ← numberOr env "DATABASE_MAX_CONNECTIONS" 0 Text.word32Max "u32" 20
  return ⟨url, maxConnections⟩

structure Email where
  host : String
  port : Int
  sender : String
  user : Option String
  password : Option String
  deriving DecidableEq, Repr

/-- Nothing without a mail server. A port that is no number is the usual one. -/
def Email.load : Option Email :=
  (env.lookup "SMTP_HOST").map fun host =>
    let port := (env.lookup "SMTP_PORT").bind fun text =>
      (Text.readNumeral 0 Text.word16Max text.toList).toOption
    { host := host
      port := port.getD 587
      sender := textOr env "SMTP_FROM" "status@statuspage.local"
      user := env.lookup "SMTP_USER"
      password := env.lookup "SMTP_PASSWORD" }

structure Telegram where
  botToken : String
  apiBase : String
  deriving DecidableEq, Repr

def Telegram.load : Option Telegram :=
  (env.lookup "TELEGRAM_BOT_TOKEN").map fun token =>
    ⟨token, textOr env "TELEGRAM_API_BASE" "https://api.telegram.org"⟩

end StatusPage.Config
