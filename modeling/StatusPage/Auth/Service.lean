import StatusPage.Crypto.Sha256
import StatusPage.Program
import StatusPage.Request
import StatusPage.Text.Blank
import StatusPage.Text.Lowercase

/-!
Accounts and sessions: registering, logging in, exchanging a refresh token for a new pair, and
ending sessions. A refresh token is stored by its digest and is used up by its first use. A login
with an unknown address checks the password against a hash that matches nothing, so that it takes as
long as any other.
-/

set_option autoImplicit false

namespace StatusPage

open Time (Instant)

def refreshDigest (token : String) : String := Text.hexOfBytes (Crypto.sha256 (Text.utf8 token))

namespace Auth

/-- How long refresh tokens last, and the hash that no password has. -/
structure Settings where
  refreshDays : Int
  dummyHash : String
  deriving DecidableEq, Repr

/-- The longest time, in seconds, whose milliseconds are a number of 64 bits. -/
def longestDelay : Nat := (1 <<< 63 - 1) / 1000

/-- Settings for refresh tokens that last some days, if that is a time that can be counted. -/
def Settings.ofDays (days : Int) (dummyHash : String) : Except String Settings :=
  if (days * 86400).natAbs ≤ longestDelay then .ok ⟨days, dummyHash⟩
  else .error "TimeDelta::days out of bounds"

def normalizeEmail (email : String) : String :=
  String.ofList (Text.lowercase (Text.trim email.toList))

/-- A name without blanks around it, if anything is left. -/
def nonBlank (name : Option String) : Option String :=
  (name.map Text.trimString).filter (· ≠ "")

def failed (context : String) (e : StoreError) : AuthError :=
  .internal (context ++ ": " ++ e.message)

def register (request : Registration) : Program (Except AuthError User) := do
  let email := normalizeEmail request.email
  match ← Program.store (.findUserByEmail email) with
  | .ok _ => return .error .emailExists
  | .error .notFound =>
      match ← Program.perform (.hashPassword request.password) with
      | .error text => return .error (.internal ("hashing password: " ++ text))
      | .ok hash =>
          let new : NewUser :=
            { email := email, passwordHash := hash, firstName := nonBlank request.firstName,
              lastName := nonBlank request.lastName, role := .user }
          match ← Program.store (.createUser new) with
          | .ok user => return .ok user
          | .error .alreadyExists => return .error .emailExists
          | .error e => return .error (failed "creating user" e)
  | .error e => return .error (failed "looking up user by email" e)

/-- The moment some days from now. The calendar ends somewhere, and there
is no moment after its end. -/
def daysFrom (now : Instant) (days : Int) : Program Instant :=
  let later := now.addSeconds (days * 86400)
  if later.InRange then return later else Program.abort "`DateTime + TimeDelta` overflowed"

def generateTokens (settings : Settings) (user : User) : Program (Except AuthError TokenPair) := do
  match ← Program.perform (.sign ⟨user.id, user.role⟩) with
  | .error e => return .error e
  | .ok (accessToken, expiresIn) =>
      let refreshToken ← Program.perform .newRefreshToken
      let expiresAt ← daysFrom (← Program.perform .now) settings.refreshDays
      match ← Program.store
          (.createRefreshToken ⟨user.id, refreshDigest refreshToken, expiresAt⟩) with
      | .error e => return .error (failed "storing refresh token" e)
      | .ok _ => return .ok ⟨accessToken, refreshToken, expiresIn⟩

def login (settings : Settings) (email password : String) :
    Program (Except AuthError (User × TokenPair)) := do
  match ← Program.store (.findUserByEmail (normalizeEmail email)) with
  | .error .notFound =>
      let _ ← Program.perform (.verifyPassword password settings.dummyHash)
      return .error .invalidCredentials
  | .error e => return .error (failed "looking up user by email" e)
  | .ok user =>
      match ← Program.perform (.verifyPassword password user.passwordHash) with
      | .error text => return .error (.internal ("verifying password: " ++ text))
      | .ok false => return .error .invalidCredentials
      | .ok true => return (← generateTokens settings user).map fun tokens => (user, tokens)

def refresh (settings : Settings) (token : String) : Program (Except AuthError TokenPair) := do
  match ← Program.store (.takeRefreshToken (refreshDigest token)) with
  | .error .notFound => return .error .invalidToken
  | .error e => return .error (failed "taking refresh token" e)
  | .ok stored =>
      let now ← Program.perform .now
      if stored.isExpired now then return .error .invalidToken
      else
        match ← Program.store (.findUserById stored.userId) with
        | .error .notFound => return .error .invalidToken
        | .error e => return .error (failed "loading token owner" e)
        | .ok user => generateTokens settings user

def logout (token : String) : Program (Except AuthError Unit) := do
  match ← Program.store (.deleteRefreshToken (refreshDigest token)) with
  | .error e => return .error (failed "deleting refresh token" e)
  | .ok _ => return .ok ()

def logoutAll (userId : Uuid) : Program (Except AuthError Nat) := do
  match ← Program.store (.deleteUserRefreshTokens userId) with
  | .error e => return .error (failed "deleting user refresh tokens" e)
  | .ok count => return .ok count

def getUser (userId : Uuid) : Program (Except AuthError User) := do
  match ← Program.store (.findUserById userId) with
  | .ok user => return .ok user
  | .error .notFound => return .error .userNotFound
  | .error e => return .error (failed "loading user" e)

def validateAccessToken (token : String) : Program (Except AuthError Identity) :=
  Program.perform (.verify token)

def sweep : Program Unit := do
  let _ ← Program.store .deleteExpiredRefreshTokens

end Auth

end StatusPage
