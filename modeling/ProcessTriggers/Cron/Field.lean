import ProcessTriggers.Double.Numeral
import ProcessTriggers.Text.Blank
import ProcessTriggers.Text.Lowercase

/-!
Fields of a cron expression and their items. An item is a star, a value, a range or a series of
steps; month and weekday values may be given by name.
-/

namespace ProcessTriggers.Cron

inductive FieldKind
  | minute
  | hour
  | day
  | month
  | weekday
  | second
  | year
  deriving DecidableEq, Repr

namespace FieldKind

/-- The fields in the order in which an expression gives them. -/
def all : List FieldKind := [.minute, .hour, .day, .month, .weekday, .second, .year]

def index : FieldKind → Nat
  | .minute => 0
  | .hour => 1
  | .day => 2
  | .month => 3
  | .weekday => 4
  | .second => 5
  | .year => 6

def low : FieldKind → Nat
  | .day | .month => 1
  | .year => 1970
  | _ => 0

def high : FieldKind → Nat
  | .minute | .second => 59
  | .hour => 23
  | .day => 31
  | .month => 12
  | .weekday => 6
  | .year => 2099

/-- The count of a field's values. -/
def size (k : FieldKind) : Nat := k.high + 1 - k.low

def names : FieldKind → List (String × Nat)
  | .month =>
    [("jan", 1), ("feb", 2), ("mar", 3), ("apr", 4), ("may", 5), ("jun", 6), ("jul", 7), ("aug", 8),
      ("sep", 9), ("oct", 10), ("nov", 11), ("dec", 12)]
  | .weekday =>
    [("sun", 0), ("mon", 1), ("tue", 2), ("wed", 3), ("thu", 4), ("fri", 5), ("sat", 6)]
  | _ => []

/-- Sunday may be written as the seventh day. -/
def canonical (k : FieldKind) (n : Nat) : Nat := if k = .weekday ∧ n = 7 then 0 else n

end FieldKind

/-- What is wrong with an expression. -/
inductive Fault
  | fieldCount
  | outOfRange
  | unknownName
  | negative
  | questionMarkMixed
  | questionMarkPlace
  | badStep (kind : FieldKind)
  | badBands (kind : FieldKind) (low high : String)
  | outOfBands
  | weekdayNumber (digits : String)
  | mixedWeekdays
  | workdayNotAlone
  | workdayRange (day : Nat)
  | needsHash
  /-- A range that goes down starts its second part from a value that the field does not have. -/
  | notInField (n : Nat)
  | tooManyDigits (count : Nat)
  | noDate
  /-- The search goes on in a year that the calendar does not have. -/
  | pastLastYear
  | outOfCalendar
  deriving DecidableEq

/-- Which weekdays of a month are meant. -/
inductive Occurrence
  | any
  | nth (n : Nat)
  | last
  deriving DecidableEq, Repr

/-- What one item of a field stands for. -/
inductive Entry
  | star
  | lastDay
  /-- The working day that is nearest to a day of the month. -/
  | workday (day : Nat)
  | value (n : Nat) (which : Occurrence)
  deriving DecidableEq, Repr

/-- Whether a text is a number: digits and at least one of them. -/
def isNumber (s : List Char) : Bool := !s.isEmpty && s.all Char.isDigit

/-- The number written by digits, which must not be too many. -/
def number (s : List Char) : Except Fault Nat :=
  if Numeral.maxDigits < s.length then .error (.tooManyDigits s.length)
  else .ok ((Numeral.natOf? 10 s).getD 0)

/-- The value that a name of the field stands for. -/
def named (k : FieldKind) (s : List Char) : Except Fault Nat :=
  match k.names.lookup (String.ofList s) with
  | some n => .ok n
  | none => .error .unknownName

/-- An item with two ends: the texts of both, and of the step if one is given. -/
structure Span where
  low : List Char
  high : List Char
  step : Option (List Char)
  deriving DecidableEq

/-- Splits at the first dash. The low end has none by that; the high end and the step may not have
one either. -/
def span? (s : List Char) : Option Span := do
  let low := s.takeWhile (· != '-')
  let rest ← (s.dropWhile (· != '-')).tail?
  let high := rest.takeWhile (· != '/')
  guard (!low.isEmpty && !high.isEmpty && !high.contains '-')
  match rest.dropWhile (· != '/') with
  | [] => return ⟨low, high, none⟩
  | _ :: step =>
    guard (isNumber step)
    return ⟨low, high, some step⟩

def decimal (n : Nat) : List Char := (toString n).toList

/-- A star with a step spans the whole field. -/
def starSpan (k : FieldKind) : List Char → List Char
  | '*' :: '/' :: c :: r => decimal k.low ++ '-' :: decimal k.high ++ '/' :: c :: r
  | s => s

/-- A start with a step spans the field from the start on. The last slash sets off the step. -/
def startSpan (k : FieldKind) (s : List Char) : List Char :=
  let step := (s.reverse.takeWhile (· != '/')).reverse
  let start := s.take (s.length - step.length - 1)
  if s.contains '/' && !start.isEmpty && !step.isEmpty then
    start ++ '-' :: decimal k.high ++ '/' :: step
  else s

/-- The numbers from `low` to `high` by `step`. -/
def series (low high step : Nat) : List Nat :=
  (List.range (high + 1 - low)).filterMap fun i => if i % step = 0 then some (low + i) else none

/-- The values of a range. One whose ends are the same covers the whole field, and one that goes
down wraps around, where a step across the end of the field may skip values at its start. -/
def rangeValues (k : FieldKind) (low high step : Nat) : Except Fault (List Nat) :=
  if low = high then .ok (series k.low k.high step)
  else if low < high then .ok (series low high step)
  else
    let upper := series low k.high step
    let last := upper.getLast?.getD k.high
    if last < k.low then .error (.notInField last)
    else
      let left := k.high - last
      let skip := if k.size < last - k.low + step ∧ left < step then step - left else 0
      .ok (upper ++ series (k.low + skip) high step)

/-- One end of a range in digits. The last day may be its upper end. -/
def bound (k : FieldKind) (s : List Char) : Except Fault (List Char) :=
  if isNumber s ∨ (k = .day ∧ s = ['l']) then .ok s else (named k s).map decimal

/-- The ends and the step of a span in numbers. -/
def spanNumbers (k : FieldKind) (r : Span) : Except Fault (Nat × Nat × Nat) := do
  let low ← bound k r.low
  let high ← bound k (if k = .day ∧ r.high = ['l'] then decimal k.high else r.high)
  let step ← number (r.step.getD ['1'])
  if step = 0 then throw (.badStep k)
  if !isNumber low || !isNumber high then
    throw (.badBands k (String.ofList low) (String.ofList high))
  let a := k.canonical (← number low)
  let b := k.canonical (← number high)
  if k.high < max a b then throw .outOfBands
  return (a, b, step)

/-- A single value of the field. -/
def value (k : FieldKind) (which : Occurrence) (n : Nat) : Except Fault Entry :=
  let n := k.canonical n
  if k.low ≤ n ∧ n ≤ k.high then .ok (.value n which) else .error .outOfRange

/-- An item that is no range. -/
def single (k : FieldKind) (which : Occurrence) (s : List Char) : Except Fault Entry := do
  if s.head? = some '-' then throw .negative
  else if s = ['*'] then return .star
  else if k = .day ∧ s = ['l'] then return .lastDay
  else value k which (← if isNumber s then number s else named k s)

/-- A text of ASCII letters, digits and underscores. -/
def isWord (s : List Char) : Bool := !s.isEmpty && s.all fun c => c.isAlphanum || c == '_'

/-- Two weekday or month names with a dash between them. -/
def isNameRange (s : List Char) : Bool :=
  let low := String.ofList (s.takeWhile (· != '-'))
  let high := String.ofList ((s.dropWhile (· != '-')).drop 1)
  [FieldKind.weekday, .month].any fun k =>
    (k.names.lookup low).isSome && (k.names.lookup high).isSome

/-- Splits a weekday item from the occurrence in the month that it is restricted to. -/
def occurrence (s : List Char) : Except Fault (Occurrence × List Char) := do
  let digits := (s.reverse.takeWhile Char.isDigit).reverse
  let front := s.take (s.length - digits.length)
  if digits.isEmpty then return (.any, s)
  if front = ['l'] then return (.last, digits)
  match front.reverse with
  | '#' :: r =>
    let base := r.reverse
    if isWord base || isNameRange base then
      let n ← number digits
      if 1 ≤ n ∧ n ≤ 5 then return (.nth n, base)
      throw (.weekdayNumber (String.ofList digits))
    else return (.any, s)
  | _ => return (.any, s)

/-- The text of a single restricted weekday. -/
def restrictedText : Entry → Option (List Char)
  | .value n (.nth k) => some (decimal n ++ '#' :: decimal k)
  | _ => none

/-- The values of a range, the last one first. A restricted value that an item further to the left
writes by itself counts there. Values below the field's least one are an error. -/
def spread (k : FieldKind) (which : Occurrence) (before : List (List Char)) (ns : List Nat) :
    Except Fault (List Entry) := do
  let es ← ns.mapM (value k which)
  return (es.filter fun e => !(restrictedText e).any before.contains).reverse

/-- What an item stands for; `before` are the items to its left. -/
def item (k : FieldKind) (before : List (List Char)) (s : List Char) :
    Except Fault (List Entry) := do
  let (which, s) ← if k = .weekday then occurrence s else .ok (.any, s)
  let starred := starSpan k s
  match span? starred with
  | some r =>
    let (a, b, step) ← spanNumbers k r
    spread k which before (← rangeValues k a b step)
  | none =>
    let started := startSpan k s
    match span? started with
    | some r =>
      let (a, b, step) ← spanNumbers k r
      spread k which before (← if a = b then .ok [a] else rangeValues k a b step)
    | none => return [← single k which (if started = s then starred else started)]

/-- What a list of items stands for. The items are given from the last to the first, so that of
several faulty ones the last is reported. -/
def items (k : FieldKind) : List (List Char) → Except Fault (List Entry)
  | [] => .ok []
  | s :: before => do
    let es ← item k before s
    return es ++ (← items k before)

/-- The working day nearest to a day of the month: the number of the day and the letter `w`. It
stands alone in its field. -/
def workdayEntry (s : List Char) : Except Fault Entry := do
  let digits := s.dropLast
  if s.getLast? ≠ some 'w' ∨ !isNumber digits then throw .workdayNotAlone
  let n ← number digits
  if 1 ≤ n ∧ n ≤ FieldKind.day.high then return .workday n
  throw (.workdayRange n)

end ProcessTriggers.Cron
