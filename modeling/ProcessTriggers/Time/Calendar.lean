/-!
The Gregorian calendar from year 1. Days are counted from 0001-01-01, a Monday, which is day zero.
-/

namespace ProcessTriggers

/-- A calendar date; months and days count from one. -/
structure Date where
  year : Nat
  month : Nat
  day : Nat
  deriving DecidableEq, Repr

namespace Date

def isLeapYear (y : Nat) : Bool := y % 4 == 0 && (y % 100 != 0 || y % 400 == 0)

def daysInMonth (y m : Nat) : Nat :=
  match m with
  | 2 => if isLeapYear y then 29 else 28
  | 4 | 6 | 9 | 11 => 30
  | _ => 31

/-- The days of the years before `y ≥ 1`. -/
def daysBeforeYear (y : Nat) : Nat :=
  let p := y - 1
  p * 365 + p / 4 - p / 100 + p / 400

/-- The days of a year before month `m`. -/
def daysBeforeMonth (y m : Nat) : Nat :=
  (List.range (m - 1)).foldl (fun n i => n + daysInMonth y (i + 1)) 0

def dayNumber (d : Date) : Nat := daysBeforeYear d.year + daysBeforeMonth d.year d.month + d.day - 1

/-- The year that holds a day: whole periods of 400, 100, 4 and 1 years are taken off in turn, and
the last day of a long period stays in it. -/
def yearOf (n : Nat) : Nat :=
  let n400 := n % 146097
  let c := min (n400 / 36524) 3
  let n100 := n400 - c * 36524
  let q := n100 / 1461
  let n4 := n100 % 1461
  let y := min (n4 / 365) 3
  n / 146097 * 400 + c * 100 + q * 4 + y + 1

/-- Counts months off from `m` until day `n` lies in one. -/
def monthFrom (y : Nat) : Nat → Nat → Nat → Nat × Nat
  | 0, m, n => (m, n)
  | k + 1, m, n =>
    let len := daysInMonth y m
    if n < len then (m, n) else monthFrom y k (m + 1) (n - len)

def ofDayNumber (n : Nat) : Date :=
  let y := yearOf n
  let (m, d) := monthFrom y 11 1 (n - daysBeforeYear y)
  ⟨y, m, d + 1⟩

/-- Sunday is zero. -/
def weekday (n : Nat) : Nat := (n + 1) % 7

/-- The working day, Monday to Friday, nearest to a day of a month. It does not leave the month,
and a day that the month does not have counts as its last. -/
def nearestWorkday (y m day : Nat) : Nat :=
  let last := daysInMonth y m
  let day := min day last
  match weekday (dayNumber ⟨y, m, day⟩) with
  | 6 => if day = 1 then 3 else day - 1
  | 0 => if day = last then day - 2 else day + 1
  | _ => day

def minYear : Nat := 1
def maxYear : Nat := 9999

/-- A date of the years that have four digits. -/
def IsValid (d : Date) : Prop :=
  minYear ≤ d.year ∧ d.year ≤ maxYear ∧ 1 ≤ d.month ∧ d.month ≤ 12 ∧ 1 ≤ d.day ∧
    d.day ≤ daysInMonth d.year d.month

instance (d : Date) : Decidable d.IsValid := inferInstanceAs (Decidable (_ ∧ _))

/-- The day number of the Monday of a year's first week, the one with its first Thursday. -/
def firstWeekMonday (y : Nat) : Int :=
  let first := daysBeforeYear y
  let back := first % 7
  let monday : Int := (first : Int) - back
  if 3 < back then monday + 7 else monday

/-- A year has 53 weeks when it starts on a Thursday, or is a leap year that starts on a
Wednesday. -/
def weeksInYear (y : Nat) : Nat :=
  let back := daysBeforeYear y % 7
  if back = 3 ∨ (back = 2 ∧ isLeapYear y) then 53 else 52

/-- The date of a weekday, Monday being one, in a numbered week. -/
def ofWeek? (y week weekday : Nat) : Option Date :=
  if minYear ≤ y ∧ 1 ≤ week ∧ week ≤ weeksInYear y ∧ 1 ≤ weekday ∧ weekday ≤ 7 then
    let n := firstWeekMonday y + (week - 1) * 7 + (weekday - 1)
    if 0 ≤ n then some (ofDayNumber n.toNat) else none
  else none

end Date
end ProcessTriggers
