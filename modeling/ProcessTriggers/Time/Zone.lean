import ProcessTriggers.Time.Stamp

/-!
Time zones: an offset from universal time, with daylight time for a part of the year in some of
them. Both changes of a year fall on Sundays.
-/

namespace ProcessTriggers

/-- Which Sunday of a month is meant. -/
inductive Sunday
  | first
  | second
  | last
  deriving DecidableEq, Repr

/-- A yearly change of the clocks. The time counts from the start of the Sunday in universal time,
and may lie before it. -/
structure ClockChange where
  month : Nat
  sunday : Sunday
  time : Int
  deriving DecidableEq, Repr

namespace ClockChange

/-- The day number of the Sunday of a month. -/
def dayNumber (y m : Nat) : Sunday → Nat
  | .first =>
    let n := (Date.mk y m 1).dayNumber
    n + (7 - Date.weekday n) % 7
  | .second =>
    let n := (Date.mk y m 1).dayNumber
    n + (7 - Date.weekday n) % 7 + 7
  | .last =>
    let n := (Date.mk y m (Date.daysInMonth y m)).dayNumber
    n - Date.weekday n

def instant (c : ClockChange) (y : Nat) : Instant :=
  dayNumber y c.month c.sunday * Stamp.day + c.time

end ClockChange

/-- Daylight time: how far the clocks are set ahead, and from when to when. -/
structure Daylight where
  saving : Int
  start : ClockChange
  stop : ClockChange
  deriving DecidableEq, Repr

structure Zone where
  key : String
  standard : Int
  daylight : Option Daylight := none
  deriving DecidableEq, Repr

namespace Zone

open Stamp (hour minute)

def utc : Zone := ⟨"UTC", 0, none⟩

/-- From the last Sunday of March to the last one of October, at one in the morning universal
time. -/
def european : Daylight := ⟨hour, ⟨3, .last, hour⟩, ⟨10, .last, hour⟩⟩

/-- The zones that are known by name. -/
def all : List Zone := [
  utc,
  ⟨"Europe/Moscow", 3 * hour, none⟩,
  ⟨"Asia/Tokyo", 9 * hour, none⟩,
  ⟨"Asia/Kolkata", 5 * hour + 30 * minute, none⟩,
  ⟨"America/New_York", -5 * hour,
    some ⟨hour, ⟨3, .second, 7 * hour⟩, ⟨11, .first, 6 * hour⟩⟩⟩,
  ⟨"Europe/London", 0, some european⟩,
  ⟨"Europe/Berlin", hour, some european⟩,
  ⟨"Australia/Sydney", 10 * hour,
    some ⟨hour, ⟨10, .first, -8 * hour⟩, ⟨4, .first, -8 * hour⟩⟩⟩,
  ⟨"Australia/Lord_Howe", 10 * hour + 30 * minute,
    some ⟨30 * minute, ⟨10, .first, -8 * hour - 30 * minute⟩, ⟨4, .first, -9 * hour⟩⟩⟩]

def ofKey? (key : String) : Option Zone := all.find? (·.key == key)

/-- The places that group zones. -/
def regions : List String :=
  ["Africa", "America", "America/Argentina", "America/Indiana", "America/Kentucky",
    "America/North_Dakota", "Antarctica", "Arctic", "Asia", "Atlantic", "Australia", "Brazil",
    "Canada", "Chile", "Etc", "Europe", "Indian", "Mexico", "Pacific", "US"]

/-- The most bytes that the last part of a key may have. -/
def maxNameBytes : Nat := 255

/-- What a key leads to. -/
inductive Found
  | zone (z : Zone)
  | region
  | tooLong
  | unknown

/-- Looks a key up. The parts of a key are set off by slashes; a key that is too long shows only
where its region is known. -/
def lookup (key : String) : Found :=
  let name := String.ofList ((key.toList.reverse.takeWhile (· ≠ '/')).reverse)
  let region := String.ofList ((key.toList.reverse.dropWhile (· ≠ '/')).drop 1).reverse
  match ofKey? key with
  | some z => .zone z
  | none =>
    if key = "." ∨ regions.contains key then .region
    else if maxNameBytes < name.utf8ByteSize ∧ (name = key ∨ regions.contains region) then .tooLong
    else .unknown

/-- Whether daylight time is in force. South of the equator it is in force at the turn of the
year. -/
def isDaylight (d : Daylight) (t : Instant) : Bool :=
  let y := (Stamp.ofInstant t).date.year
  let (start, stop) := (d.start.instant y, d.stop.instant y)
  if start ≤ stop then start ≤ t && t < stop else t < stop || start ≤ t

/-- How far the clocks are ahead of universal time. -/
def offsetAt (z : Zone) (t : Instant) : Int :=
  match z.daylight with
  | some d => if isDaylight d t then z.standard + d.saving else z.standard
  | none => z.standard

/-- The reading of the clocks at an instant. -/
def stampAt (z : Zone) (t : Instant) : Stamp :=
  let o := z.offsetAt t
  ⟨t + o, some o⟩

/-- The instants at which the clocks show a reading, earliest first: none while they are set ahead,
two after they are set back. -/
def instantsOf (z : Zone) (wall : Int) : List Instant :=
  let offsets := match z.daylight with
    | some d => [z.standard + d.saving, z.standard]
    | none => [z.standard]
  (offsets.map (wall - ·)).filter fun t => t + z.offsetAt t == wall

/-- The length of the gap when the clocks are set ahead. -/
def gap (z : Zone) : Nat := (z.daylight.elim 0 (·.saving)).toNat

end Zone
end ProcessTriggers
