import StatusPage.Database.Exchange

/-!
A database that answers from a script: its replies one by one to the statements, whatever they are,
and fixed answers to the commands that control transactions.
-/

set_option autoImplicit false

namespace StatusPage.Database

structure Script where
  replies : List Answer
  onBegin : Option Refusal
  onCommit : Option Refusal
  onRollback : Option Refusal
  deriving Repr

namespace Script

def control : Option Refusal → Answer
  | some refusal => .error refusal
  | none => .ok ⟨[], 0⟩

def exhausted : Refusal := ⟨"XX000", "no reply left"⟩

/-- The state holds the replies that are left. -/
def server (script : Script) : Server (List Answer) where
  answer
    | .begin, left => (control script.onBegin, left)
    | .commit, left => (control script.onCommit, left)
    | .rollback, left => (control script.onRollback, left)
    | .perform _, [] => (.error exhausted, [])
    | .perform _, reply :: left => (reply, left)

def play {α : Type} (script : Script) (talk : Exchange α) : α × List Command :=
  talk.run script.server script.replies

end Script

end StatusPage.Database
