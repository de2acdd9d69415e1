import StatusPage.Time.Calendar

/-!
Points in time: whole seconds since 1970-01-01T00:00:00Z and nanoseconds on top. A leap second is
the second before it with a billion nanoseconds or more.
-/

set_option autoImplicit false

namespace StatusPage.Time

structure Instant where
  seconds : Int
  nanos : Nat
  deriving DecidableEq, Repr, Inhabited

namespace Instant

protected def le (a b : Instant) : Prop :=
  a.seconds < b.seconds ∨ a.seconds = b.seconds ∧ a.nanos ≤ b.nanos

protected def lt (a b : Instant) : Prop :=
  a.seconds < b.seconds ∨ a.seconds = b.seconds ∧ a.nanos < b.nanos

instance : LE Instant := ⟨Instant.le⟩
instance : LT Instant := ⟨Instant.lt⟩
instance (a b : Instant) : Decidable (a ≤ b) := inferInstanceAs (Decidable (_ ∨ _ ∧ _))
instance (a b : Instant) : Decidable (a < b) := inferInstanceAs (Decidable (_ ∨ _ ∧ _))

def addSeconds (t : Instant) (seconds : Int) : Instant := { t with seconds := t.seconds + seconds }

def date (t : Instant) : Date := Date.ofDays (t.seconds / 86400)

def secondOfDay (t : Instant) : Nat := (t.seconds % 86400).toNat

def firstSecond : Int := Date.toDays ⟨firstYear, 1, 1⟩ * 86400
def lastSecond : Int := Date.toDays ⟨lastYear, 12, 31⟩ * 86400 + 86399

def InRange (t : Instant) : Prop := firstSecond ≤ t.seconds ∧ t.seconds ≤ lastSecond

instance (t : Instant) : Decidable t.InRange := inferInstanceAs (Decidable (_ ∧ _))

/-- What the clocks and the texts of the program hold: an instant in range, with extra nanoseconds
only in the last second of a minute. -/
def Valid (t : Instant) : Prop :=
  t.InRange ∧ t.nanos < 2000000000 ∧ (1000000000 ≤ t.nanos → t.seconds % 60 = 59)

instance (t : Instant) : Decidable t.Valid := inferInstanceAs (Decidable (_ ∧ _ ∧ (_ → _)))

/-- Microseconds since 1970, rounded toward 2000-01-01T00:00:00Z. -/
def microsTowards2000 (t : Instant) : Int :=
  let nanos := (t.seconds - 946684800) * 1000000000 + t.nanos
  Int.tdiv nanos 1000 + 946684800000000

end Instant

end StatusPage.Time
