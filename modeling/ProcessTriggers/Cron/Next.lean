import ProcessTriggers.Cron.Schedule
import ProcessTriggers.Time.Zone
import ProcessTriggers.Value.Access

/-!
The times at which a schedule fires. Readings of the wall clock are searched first, day by day and
then within a day; after that they are placed in a time zone, whose clocks may skip or repeat some.
-/

namespace ProcessTriggers.Cron

namespace Schedule

/-- The first time of day, in seconds and not before `start`, that matches. -/
def firstTime? (s : Schedule) (start : Nat) : Option Nat :=
  (List.range 24).findSome? fun h =>
    if selects s.hour h && start < (h + 1) * 3600 then
      (List.range 60).findSome? fun m =>
        let t := (h * 60 + m) * 60
        if selects s.minute m && start < t + 60 then
          (List.range 60).findSome? fun sec =>
            if selects s.second sec && start ≤ t + sec then some (t + sec) else none
        else none
    else none

/-- The first reading in seconds on or after the start of a day that matches, of `k` days at
most. -/
def firstSecond? (s : Schedule) : Nat → Nat → Option Nat
  | 0, _ => none
  | k + 1, n =>
    let here := if s.matchesDay n then s.firstTime? 0 else none
    match here with
    | some t => some (n * 86400 + t)
    | none => firstSecond? s k (n + 1)

/-- How many years the search looks ahead. -/
def horizon : Nat := 50

/-- What a search finds wrong that comes to the end of the years it looks at. Where the calendar
ends before them, a schedule that selects its last month runs out of days, and any other one out of
years. -/
def exhausted (s : Schedule) (startYear : Nat) : Fault :=
  if startYear + horizon < Date.maxYear ∨ !s.year.contains .star then .noDate
  else if selects s.month 12 then .outOfCalendar
  else .pastLastYear

/-- The first reading in seconds from `start` on that matches, within the years looked at. -/
def searchFrom (s : Schedule) (start : Nat) : Except Fault Nat :=
  let n := start / 86400
  let here := if s.matchesDay n then s.firstTime? (start % 86400) else none
  match here with
  | some t => .ok (n * 86400 + t)
  | none =>
    let year := (Date.ofDayNumber n).year
    let last := Date.daysBeforeYear (min (year + horizon) Date.maxYear + 1)
    match s.firstSecond? (last - (n + 1)) (n + 1) with
    | some t => .ok t
    | none => .error (s.exhausted year)

/-- The first second that is looked at after a reading: the next whole minute, or for a schedule by
the second the next whole second. -/
def firstTick (s : Schedule) (wall : Int) : Nat :=
  if s.bySecond then (wall.fdiv Stamp.second + 1).toNat
  else ((wall.fdiv Stamp.minute + 1) * 60).toNat

/-- The next reading of the wall clock that matches. -/
def nextWall (s : Schedule) (wall : Int) : Except Fault Int := do
  let start := s.firstTick wall
  if Stamp.limit ≤ start * Stamp.second then throw .outOfCalendar
  return (← s.searchFrom start) * Stamp.second

end Schedule

/-- A reading of the wall clock placed in a zone. A shifted one was skipped by the clocks and stands
for the first reading after the gap. -/
structure Placed where
  stamp : Stamp
  shifted : Bool

/-- Places a reading that comes after the instant `now`. Of the two instants of a repeated reading
the earlier one counts, unless it has passed. -/
def place (z : Zone) (now : Instant) (wall : Int) : Placed :=
  let at? (wall : Int) : Option Stamp :=
    let instants := z.instantsOf wall
    let chosen := (instants.find? (now < ·)).orElse fun _ => instants.getLast?
    chosen.map fun t => ⟨wall, some (wall - t)⟩
  match at? wall with
  | some t => ⟨t, false⟩
  | none =>
    let later := (List.range (z.gap / Stamp.minute.toNat + 1)).findSome? fun (k : Nat) =>
      at? (wall + (k + 1) * Stamp.minute)
    ⟨later.getD ⟨wall, some z.standard⟩, true⟩

namespace Schedule

/-- Goes on from a skipped reading until one is not skipped. -/
def leaveGap (s : Schedule) (z : Zone) (now : Instant) : Nat → Int → Except Fault Stamp
  | 0, _ => .error .noDate
  | k + 1, wall => do
    let wall ← s.nextWall wall
    let r := place z now wall
    if r.shifted then leaveGap s z now k wall else return r.stamp

/-- The next time that one alternative fires after `now`, on the clocks of a zone. A change of the
offset on the way is undone by a second search that starts from the new offset. -/
def nextIn (s : Schedule) (z : Zone) (now : Stamp) : Except Fault Stamp := do
  let wall ← s.nextWall now.wall
  let first := place z now.instant wall
  let r ←
    if first.shifted ∧ (first.stamp.instant ≤ now.instant ∨ s.hour.contains .star) then
      s.leaveGap z now.instant (z.gap / Stamp.second.toNat + 1) wall
    else .ok first.stamp
  let (before, after) := (now.offset.getD 0, r.offset.getD 0)
  if after = before then return r
  let wall ← s.nextWall (now.wall + after - before)
  let r' := place z now.instant wall
  if r'.shifted ∨ r'.stamp.instant ≤ now.instant then return r
  return if r'.stamp.instant < r.instant then r'.stamp else r

/-- The next time that a schedule fires on the clocks of a zone: of two alternatives the one with
the smaller reading. One of them may be without a time, unless the weekdays are restricted. -/
def nextStamp (s : Schedule) (z : Zone) (now : Stamp) : Except Fault Stamp := do
  if !s.hasAlternatives then s.nextIn z now
  else
    match s.anyWeekday.nextIn z now, s.anyDay.nextIn z now with
    | .error .noDate, byWeekday => if s.isRestricted then throw .noDate else byWeekday
    | .error f, _ => throw f
    | .ok byDay, .error .noDate => return byDay
    | .ok _, .error f => throw f
    | .ok byDay, .ok byWeekday => return if byWeekday.wall < byDay.wall then byWeekday else byDay

/-- The next time that a schedule fires after an instant. -/
def next (s : Schedule) (z : Zone) (after : Instant) : Except Fault Instant := do
  let now := z.stampAt after
  if ¬ now.InRange ∨ ¬ (Stamp.ofInstant after).InRange then throw .outOfCalendar
  let t := (← s.nextStamp z now).instant
  if ¬ (Stamp.ofInstant t).InRange then throw .outOfCalendar
  return t

end Schedule

/-- The zone that a value names. -/
def readZone (v : Value) : Except Error Zone :=
  match v with
  | .text key =>
    match Zone.lookup key with
    | .zone z => .ok z
    | .region => .error (.isDirectory key)
    | .tooLong => .error (.foreign .system "File name too long")
    | .unknown => .error (.invalidSchedule .null (.text ("unknown timezone " ++ Text.quoted key)))
  | _ => .error (.foreign .wrongType "a zone is known by its key")

/-- The text of an expression; no other value has one. -/
def readExpression (v : Value) : Except Error String :=
  match v with
  | .text s => .ok s
  | .bytes _ => .error (.foreign .wrongType "cannot use a string pattern on a bytes-like object")
  | v => .error (v.lacks "lower")

/-- Checks a cron expression and a zone. -/
def validate (expression zone : Value) : Except Error Zone := do
  if !expression.truthy then throw (.invalidSchedule expression (.text "no cron expression"))
  match Schedule.ofText (← readExpression expression) with
  | .ok _ => readZone zone
  | .error _ => throw (.invalidSchedule expression (.text "malformed cron expression"))

/-- The next time that an expression fires after an instant. -/
def nextFire (expression : Value) (z : Zone) (after : Instant) : Except Error Instant := do
  let text ← readExpression expression
  let next : Except Fault Instant := do (← Schedule.ofText text).next z after
  next.mapError (Fault.error text)

end ProcessTriggers.Cron
