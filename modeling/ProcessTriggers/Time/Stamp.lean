import ProcessTriggers.Time.Calendar

/-!
Timestamps: a wall clock reading with an optional offset from universal time. Everything is
counted in microseconds.
-/

namespace ProcessTriggers

/-- Microseconds from the start of 0001-01-01 in universal time. -/
abbrev Instant := Int

/-- A wall clock reading, counted like an instant, and how far it is ahead of universal time; a
naive one has no offset. -/
structure Stamp where
  wall : Int
  offset : Option Int
  deriving DecidableEq, Repr, Inhabited

namespace Stamp

def second : Int := 1000000
def minute : Int := 60 * second
def hour : Int := 60 * minute
def day : Int := 24 * hour

/-- The universal time of an aware stamp; a naive one is taken as universal already. -/
def instant (t : Stamp) : Instant := t.wall - t.offset.getD 0

def ofInstant (t : Instant) : Stamp := ⟨t, some 0⟩

/-- The stamp so many microseconds later, with the same offset. -/
def shift (t : Stamp) (length : Int) : Stamp := { t with wall := t.wall + length }

def isAware (t : Stamp) : Bool := t.offset.isSome

/-- The instant 1970-01-01T00:00:00. -/
def epoch : Instant := 719162 * day

/-- The end of the years that have four digits. -/
def limit : Int := 3652059 * day

def InRange (t : Stamp) : Prop := 0 ≤ t.wall ∧ t.wall < limit

instance (t : Stamp) : Decidable t.InRange := inferInstanceAs (Decidable (_ ∧ _))

def date (t : Stamp) : Date := Date.ofDayNumber (t.wall.fdiv day).toNat

/-- Microseconds since midnight. -/
def timeOfDay (t : Stamp) : Nat := (t.wall.fmod day).toNat

def hourOf (t : Stamp) : Nat := t.timeOfDay / 3600000000
def minuteOf (t : Stamp) : Nat := t.timeOfDay / 60000000 % 60
def secondOf (t : Stamp) : Nat := t.timeOfDay / 1000000 % 60
def microsecondOf (t : Stamp) : Nat := t.timeOfDay % 1000000

/-- The wall clock reading of a date and a time of day. -/
def wallOf (d : Date) (hour minute second microsecond : Nat) : Int :=
  d.dayNumber * day + (((hour * 60 + minute) * 60 + second) * 1000000 + microsecond : Nat)

end Stamp
end ProcessTriggers
