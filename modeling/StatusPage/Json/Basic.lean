import StatusPage.Text.Numeral

/-!
JSON values as they are found in a text. Members keep their order and may repeat a key. A text that
stops being JSON at some point still has a value: everything before that point, with `broken` in the
place where the next part should be. A reader that goes from left to right thus meets the parts of a
bad text in order.
-/

set_option autoImplicit false

namespace StatusPage

namespace Json

/-- The number ± `digits` · 10 ^ `exponent`; `integral` when neither
fraction nor exponent was written. -/
structure Number where
  negative : Bool
  digits : Nat
  exponent : Int
  integral : Bool
  deriving DecidableEq, Repr

namespace Number

def ofInt (n : Int) : Number := ⟨n < 0, n.natAbs, 0, true⟩

/-- The integer, unless a fraction, an exponent or the sign of a zero makes it a real number. -/
def toInt? (n : Number) : Option Int :=
  if n.integral && !(n.negative && n.digits == 0) then
    some (if n.negative then -n.digits else n.digits)
  else none

/-- The least number that rounds beyond the finite doubles. -/
def doubleBound : Nat := (1 <<< 54 - 1) <<< 970

def fits (n : Number) : Bool :=
  if n.digits = 0 then true
  else if 0 ≤ n.exponent then
    n.exponent ≤ 400 && n.digits * Nat.pow 10 n.exponent.toNat < doubleBound
  else
    let shift := n.exponent.natAbs
    let length := (Text.decimal n.digits).length
    if length ≤ shift then true else n.digits < doubleBound * Nat.pow 10 shift

end Number

end Json

/-- A text is `none` when its bytes or its escapes name no Unicode text. -/
inductive Json where
  | null
  | bool (value : Bool)
  | number (value : Json.Number)
  | text (value : Option String)
  | list (items : List Json)
  | record (members : List (Option String × Json))
  /-- The rest of the text is not JSON; `stray` when a value stands where a key should. -/
  | broken (stray : Bool)
  deriving Inhabited

namespace Json

def str (value : String) : Json := .text (some value)

def int (n : Int) : Json := .number (.ofInt n)

def object (members : List (String × Json)) : Json :=
  .record (members.map fun (key, value) => (some key, value))

def listOf {α : Type} (write : α → Json) (items : List α) : Json := .list (items.map write)

def orNull {α : Type} (write : α → Json) : Option α → Json
  | none => .null
  | some a => write a

mutual

def isWhole : Json → Bool
  | .broken _ => false
  | .list items => areWhole items
  | .record members => membersAreWhole members
  | _ => true

def areWhole : List Json → Bool
  | [] => true
  | item :: rest => isWhole item && areWhole rest

def membersAreWhole : List (Option String × Json) → Bool
  | [] => true
  | (_, value) :: rest => isWhole value && membersAreWhole rest

end

end Json

end StatusPage
