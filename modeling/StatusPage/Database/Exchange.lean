import StatusPage.Database.Row
import StatusPage.Database.Statement

/-!
Talks with a database. A talk sends one command at a time and goes on with the answer. A transaction
begins, does its work, and ends with a commit if the work is to be kept; whatever goes wrong on the
way, the last thing that is sent is a rollback.
-/

set_option autoImplicit false

namespace StatusPage.Database

inductive Command where
  | begin
  | commit
  | rollback
  | perform (statement : Statement)
  deriving DecidableEq, Repr

structure Reply where
  rows : List Row
  affected : Nat
  deriving DecidableEq, Repr

abbrev Answer := Except Refusal Reply

inductive Exchange (α : Type) where
  | done (value : α)
  | send (command : Command) (next : Answer → Exchange α)

namespace Exchange

variable {α β : Type}

def bind : Exchange α → (α → Exchange β) → Exchange β
  | .done a, f => f a
  | .send command next, f => .send command fun answer => (next answer).bind f

instance : Monad Exchange where
  pure := .done
  bind := bind

def ask (command : Command) : Exchange Answer := .send command .done

end Exchange

/-- A database, as far as a talk can tell: its answer to each command. -/
structure Server (σ : Type) where
  answer : Command → σ → Answer × σ

def Exchange.run {σ α : Type} (server : Server σ) : Exchange α → σ → α × List Command
  | .done a, _ => (a, [])
  | .send command next, state =>
      let (answer, state) := server.answer command state
      let (a, sent) := (next answer).run server state
      (a, command :: sent)

/-! ### Talks that can fail -/

abbrev Work (α : Type) := ExceptT Error Exchange α

namespace Work

variable {α : Type}

def request (command : Command) : Work Reply := do
  match ← (Exchange.ask command : Exchange Answer) with
  | .ok reply => return reply
  | .error refusal => throw (.refused refusal)

def affected (statement : Statement) : Work Nat := do
  return (← request (.perform statement)).affected

def firstRow? (statement : Statement) (read : Row → Except Error α) : Work (Option α) := do
  match (← request (.perform statement)).rows with
  | row :: _ => return some (← ExceptT.mk (pure (read row)))
  | [] => return none

def firstRow (statement : Statement) (read : Row → Except Error α) : Work α := do
  match ← firstRow? statement read with
  | some a => return a
  | none => throw .rowNotFound

def allRows (statement : Statement) (read : Row → Except Error α) : Work (List α) := do
  let rows := (← request (.perform statement)).rows
  ExceptT.mk (pure (rows.mapM read))

def changeRow (statement : Statement) : Work Unit := do
  if (← affected statement) = 0 then throw .rowNotFound

/-- Rolls back, however that ends, and fails. -/
def abandon {ε : Type} (e : ε) : ExceptT ε Exchange α := do
  let _ ← (Exchange.ask .rollback : Exchange Answer)
  throw e

/-- A transaction whose work is kept or taken back as `keep` tells. -/
def transaction (keep : α → Bool) (work : Work α) : Work α := do
  let _ ← request .begin
  let a ← tryCatch work abandon
  let _ ← tryCatch (request (if keep a then .commit else .rollback)) abandon
  return a

end Work

end StatusPage.Database
