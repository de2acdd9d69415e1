import StatusPage.Store.Call

/-!
Programs over a store and a few other services. A program asks one question at a time and goes on
with the answer; nothing else happens between two questions, so that several programs can be run in
turns. What the questions mean is left to whoever runs the program.
-/

set_option autoImplicit false

namespace StatusPage

open Time (Instant)

inductive AuthError where
  | invalidCredentials
  | emailExists
  | invalidToken
  | tokenExpired
  | userNotFound
  | internal (context : String)
  deriving DecidableEq, Repr

def AuthError.message : AuthError → String
  | .invalidCredentials => "invalid credentials"
  | .emailExists => "email already exists"
  | .invalidToken => "invalid token"
  | .tokenExpired => "token expired"
  | .userNotFound => "user not found"
  | .internal context => "internal error: " ++ context

/-- A message for everybody who follows one of the services. -/
structure Notice where
  serviceIds : List Uuid
  subject : String
  body : String
  deriving DecidableEq, Repr

inductive Op where
  | store (call : Store.Call)
  /-- The present time. -/
  | now
  /-- A refresh token that nobody can guess. -/
  | newRefreshToken
  | hashPassword (password : String)
  | verifyPassword (password hash : String)
  /-- An access token and its lifetime in seconds. -/
  | sign (identity : Identity)
  | verify (token : String)
  /-- Starts the delivery of a notice and does not wait for it. -/
  | notify (notice : Notice)
  /-- Gives up; there is no answer to go on with. -/
  | abort (reason : String)
  deriving DecidableEq, Repr

/-- What a question is answered with. Failures of password hashing come with their text. -/
@[reducible] def Op.Answer : Op → Type
  | .store call => Except StoreError call.Result
  | .now => Instant
  | .newRefreshToken => String
  | .hashPassword _ => Except String String
  | .verifyPassword _ _ => Except String Bool
  | .sign _ => Except AuthError (String × Int)
  | .verify _ => Except AuthError Identity
  | .notify _ => Unit
  | .abort _ => Empty

inductive Program (α : Type) where
  | done (value : α)
  | ask (op : Op) (next : op.Answer → Program α)

namespace Program

variable {α β : Type}

def bind : Program α → (α → Program β) → Program β
  | .done a, f => f a
  | .ask op next, f => .ask op fun answer => (next answer).bind f

instance : Monad Program where
  pure := .done
  bind := bind

def perform (op : Op) : Program op.Answer := .ask op .done

def store (call : Store.Call) : Program (Except StoreError call.Result) := perform (.store call)

def abort (reason : String) : Program α := .ask (.abort reason) nofun

end Program

/-- How a run ends: with a value, never, or with a reason to give up. -/
inductive Reply (α : Type) where
  | value (a : α)
  | never
  | aborted (reason : String)
  deriving DecidableEq, Repr

/-- The meaning of the questions, with a state that the answers may change. -/
structure Interpreter (σ : Type) where
  answer : (op : Op) → σ → Reply op.Answer × σ

def Program.run {σ α : Type} (interpreter : Interpreter σ) : Program α → σ → Reply α × σ
  | .done a, state => (.value a, state)
  | .ask op next, state =>
      match interpreter.answer op state with
      | (.value answer, state) => (next answer).run interpreter state
      | (.never, state) => (.never, state)
      | (.aborted reason, state) => (.aborted reason, state)

end StatusPage
