import StatusPage.Json.Parser

/-!
Readers: from JSON values to data. A reader goes through a value from left to right and stops at the
first problem, which is either a part of the wrong shape or the point where the text is no JSON.
-/

set_option autoImplicit false

namespace StatusPage.Json

open Text (Bytes)

/-- `mismatch`: well-formed so far, and not what is asked for. `malformed`: not JSON. -/
inductive Fault where
  | mismatch
  | malformed
  deriving DecidableEq, Repr

abbrev Reader (α : Type) := Json → Except Fault α

/-- Why a value that nobody asked for is refused: a word, text or number is scanned to its end
before it is found to be of the wrong kind. -/
def refusal : Json → Fault
  | .broken _ => .malformed
  | .text none => .malformed
  | .number n => if n.fits then .mismatch else .malformed
  | _ => .mismatch

namespace Reader

/-- Passes over a value; only its form counts. -/
def ignored : Reader Unit := fun j => if j.isWhole then .ok () else .error .malformed

def text : Reader String
  | .text (some t) => .ok t
  | j => .error (refusal j)

def bool : Reader Bool
  | .bool b => .ok b
  | j => .error (refusal j)

def intIn (lowest highest : Int) : Reader Int
  | .number n =>
      match n.toInt? with
      | some i => if lowest ≤ i ∧ i ≤ highest then .ok i else .error (refusal (.number n))
      | none => .error (refusal (.number n))
  | j => .error (refusal j)

def int64 : Reader Int := intIn Text.int64Min Text.int64Max

def orNull {α : Type} (read : Reader α) : Reader (Option α)
  | .null => .ok none
  | j => (read j).map some

def list {α : Type} (read : Reader α) : Reader (List α)
  | .list items => items.mapM read
  | j => .error (refusal j)

def parsed {α : Type} (parse : String → Option α) : Reader α := fun j => do
  match parse (← text j) with
  | some a => .ok a
  | none => .error .mismatch

/-- One of several names, also in the form `{name: null}`. -/
def variant {α : Type} (parse : String → Option α) : Reader α
  | .text (some t) => (parse t).elim (.error .mismatch) .ok
  | .record [(none, .broken stray)] => .error (if stray then .mismatch else .malformed)
  | .record ((some key, value) :: rest) =>
      match parse key with
      | none => .error .mismatch
      | some a =>
          match value with
          | .null => if rest.isEmpty then .ok a else .error .malformed
          | _ => .error (refusal value)
  | _ => .error .malformed

end Reader

/-- Reads a whole text, after which only blanks may come. -/
def readAll {α : Type} (read : Reader α) (input : Bytes) : Except Fault α := do
  let document := parse input
  let a ← read document.value
  if document.trailing then .error .malformed else .ok a

end StatusPage.Json
