import ProcessTriggers.Cron.Field
import ProcessTriggers.Error
import ProcessTriggers.Text.Search
import ProcessTriggers.Time.Calendar

/-!
Cron expressions. An expression has five fields, a sixth for seconds and a seventh for years; what
each field selects is a list of entries, and a schedule says which dates and times of day match.
-/

namespace ProcessTriggers.Cron

def aliases : List (String × String) :=
  [("@midnight", "0 0 * * *"), ("@hourly", "0 * * * *"), ("@daily", "0 0 * * *"),
    ("@weekly", "0 0 * * 0"), ("@monthly", "0 0 1 * *"), ("@yearly", "0 0 1 1 *"),
    ("@annually", "0 0 1 1 *")]

/-- The fields of an expression as they are written, in small letters. -/
def columns (expression : String) : List (List Char) :=
  let small := Text.lower expression
  Text.words Text.isAsciiSpace ((aliases.lookup small).getD small).toList

/-- A field that asks for a value by hash or by chance: its letter, perhaps a range in brackets and
a divisor. -/
def isHashed (s : List Char) : Bool :=
  match s with
  | c :: r =>
    let afterRange := match r with
      | '(' :: r' =>
        let inside := r'.takeWhile (· != ')')
        let low := inside.takeWhile (· != '-')
        let high := (inside.dropWhile (· != '-')).drop 1
        if isNumber low && isNumber high then (r'.dropWhile (· != ')')).tail? else none
      | _ => some r
    (c == 'h' || c == 'r') &&
      match afterRange with
      | some [] => true
      | some ('/' :: d) => isNumber d
      | _ => false
  | [] => false

/-- What one field selects. -/
def fieldEntries (k : FieldKind) (s : List Char) : Except Fault (List Entry) := do
  if isHashed s then throw .needsHash
  if s.contains '?' then
    if s ≠ ['?'] then throw .questionMarkMixed
    if k ≠ .day ∧ k ≠ .weekday then throw .questionMarkPlace
    return [.star]
  if k = .day ∧ s.contains 'w' then return [← workdayEntry s]
  items k (Text.parts ',' s).reverse

/-- The entry without its restriction to an occurrence in the month. -/
def Entry.plain : Entry → Entry
  | .value n _ => .value n .any
  | e => e

/-- The count of distinct values that entries stand for. -/
def distinctCount (es : List Entry) : Nat := (es.map Entry.plain).eraseDups.length

/-- A field that lists every value selects all, just as a star does. Days and weekdays count as
listed only if the other of the two is written with a star. -/
def foldWhole (k : FieldKind) (dayText weekdayText : List Char) (es : List Entry) : List Entry :=
  let apart := (k = .day ∧ !weekdayText.contains '*') ∨ (k = .weekday ∧ !dayText.contains '*')
  if distinctCount es = k.size ∧ ¬ apart then [.star] else es

/-- The entries of each field of an expression. -/
structure Schedule where
  minute : List Entry
  hour : List Entry
  day : List Entry
  month : List Entry
  weekday : List Entry
  second : List Entry
  year : List Entry
  /-- The times that are looked at are whole seconds rather than whole minutes. -/
  bySecond : Bool

/-- The weekday entries that are restricted to an occurrence in the month. -/
def restricted (es : List Entry) : List Entry :=
  es.filter fun
    | .value _ .any => false
    | .value _ _ => true
    | _ => false

/-- The weekdays that are selected on every week and on no particular one. -/
def unrestricted (es : List Entry) : List Nat :=
  let values := es.filterMap fun
    | .value n _ => some n
    | _ => none
  let kept := (restricted es).filterMap fun
    | .value n _ => some n
    | _ => none
  (values.filter (!kept.contains ·)).eraseDups

/-- Restricted weekdays do not mix with others, unless all seven are there. -/
def weekdaysMix (written selected : List Entry) : Bool :=
  !(restricted written).isEmpty && !(selected.contains .star && selected.length == 1) &&
    !(unrestricted written).isEmpty && distinctCount selected != FieldKind.weekday.size

namespace Schedule

/-- Reads the columns of an expression. -/
def ofColumns (cols : List (List Char)) : Except Fault Schedule := do
  if cols.length < 5 ∨ 7 < cols.length then throw .fieldCount
  let written ← (FieldKind.all.zip cols).mapM fun (k, s) => do return (k, ← fieldEntries k s)
  let dayText := cols[FieldKind.day.index]?.getD []
  let weekdayText := cols[FieldKind.weekday.index]?.getD []
  let entries (k : FieldKind) (unwritten : Entry) : List Entry :=
    match written.lookup k with
    | some es => foldWhole k dayText weekdayText es
    | none => [unwritten]
  let weekday := (written.lookup .weekday).getD []
  if weekdaysMix weekday (entries .weekday .star) then throw .mixedWeekdays
  return {
    minute := entries .minute .star
    hour := entries .hour .star
    day := entries .day .star
    month := entries .month .star
    -- Where weekdays are restricted only the restricted ones count.
    weekday := if (restricted weekday).isEmpty then entries .weekday .star
      else if (entries .weekday .star).contains .star then .star :: restricted weekday
      else restricted weekday
    second := entries .second (.value 0 .any)
    year := entries .year .star
    bySecond := 5 < cols.length }

def ofText (expression : String) : Except Fault Schedule := ofColumns (columns expression)

/-- Whether the entries of a field select a value. -/
def selects (es : List Entry) (n : Nat) : Bool := es.contains .star || es.contains (.value n .any)

/-- Whether one day entry selects a date. -/
def dayEntrySelects (d : Date) : Entry → Bool
  | .star => true
  | .lastDay => d.day == Date.daysInMonth d.year d.month
  | .workday k => d.day == Date.nearestWorkday d.year d.month k
  | .value n _ => n == d.day

def selectsDay (es : List Entry) (d : Date) : Bool := es.any (dayEntrySelects d)

/-- Whether one weekday entry selects a date with the given weekday. -/
def entrySelects (d : Date) (weekday : Nat) : Entry → Bool
  | .star => true
  | .lastDay | .workday _ => false
  | .value n .any => n == weekday
  | .value n (.nth k) => n == weekday && (d.day - 1) / 7 + 1 == k
  | .value n .last => n == weekday && Date.daysInMonth d.year d.month < d.day + 7

/-- Restricted entries take the place of the star and of the others. -/
def selectsWeekday (es : List Entry) (d : Date) (weekday : Nat) : Bool :=
  let kept := restricted es
  (if kept.isEmpty then es else kept).any (entrySelects d weekday)

/-- Whether the date with the given day number matches. -/
def matchesDay (s : Schedule) (n : Nat) : Bool :=
  let d := Date.ofDayNumber n
  selects s.year d.year && selects s.month d.month && selectsDay s.day d &&
    selectsWeekday s.weekday d (Date.weekday n)

def matchesTime (s : Schedule) (hour minute second : Nat) : Bool :=
  selects s.hour hour && selects s.minute minute && selects s.second second

/-- Whether a wall clock reading, in seconds, matches in every field. -/
def matchesSecond (s : Schedule) (t : Nat) : Bool :=
  s.matchesDay (t / 86400) && s.matchesTime (t / 3600 % 24) (t / 60 % 60) (t % 60)

/-- The schedule that leaves the day free. -/
def anyDay (s : Schedule) : Schedule := { s with day := [.star] }

/-- The schedule that leaves the weekday free, apart from a restriction to occurrences in the
month. -/
def anyWeekday (s : Schedule) : Schedule := { s with weekday := .star :: restricted s.weekday }

/-- Whether weekdays are restricted to occurrences in the month. -/
def isRestricted (s : Schedule) : Bool := !(restricted s.weekday).isEmpty

/-- Whether days and weekdays are alternatives, which they are when both are written without a
star. -/
def hasAlternatives (s : Schedule) : Bool := !s.day.contains .star && !s.weekday.contains .star

end Schedule

/-- The set of the weekdays in a message. -/
def braced (items : List String) : String := "\x7b" ++ ", ".intercalate items ++ "\x7d"

/-- The occurrences that a weekday is restricted to, in rising order and the last one at the end. -/
def occurrencesText (es : List Entry) (weekday : Nat) : String :=
  let has (o : Occurrence) : Bool := es.contains (.value weekday o)
  let nth := (List.range 5).filterMap fun i =>
    if has (.nth (i + 1)) then some (toString (i + 1)) else none
  braced (nth ++ if has .last then ["'l'"] else [])

/-- How a fault of an expression is worded. The columns show what was read of it. -/
def Fault.message (expression : String) : Fault → String
  | .fieldCount => "Exactly 5, 6 or 7 columns has to be specified for iterator expression."
  | .outOfRange => "[" ++ expression ++ "] is not acceptable, out of range"
  | .unknownName =>
    "[" ++ " ".intercalate ((columns expression).map String.ofList) ++ "] is not acceptable"
  | .negative => "[" ++ expression ++ "] is not acceptable, negative numbers not allowed"
  | .questionMarkMixed =>
    "[" ++ expression ++
      "] is not acceptable. Question mark can not used with other characters"
  | .questionMarkPlace =>
    "[" ++ expression ++
      "] is not acceptable. Question mark can only used in day_of_month or day_of_week"
  | .badStep k => "[" ++ expression ++ s!"] step '0' in field {k.index} is not acceptable"
  | .badBands k low high =>
    "[" ++ expression ++ "] bands '" ++ low ++ "-" ++ high ++
      s!"' in field {k.index} are not acceptable"
  | .outOfBands => expression ++ " is out of bands"
  | .weekdayNumber digits =>
    "[" ++ expression ++ "] is not acceptable. Invalid day_of_week value: '" ++ digits ++ "'"
  | .workdayNotAlone =>
    "[" ++ expression ++
      "] is not acceptable. 'W' can only be used with a single day value, not in a list or range"
  | .workdayRange day =>
    "[" ++ expression ++ s!"] is not acceptable, nearest weekday day value '{day}' out of range"
  | .mixedWeekdays =>
    let text := (columns expression)[FieldKind.weekday.index]?.getD []
    let es := (fieldEntries .weekday text).toOption.getD []
    let plain := (List.range 7).filter ((unrestricted es).contains ·)
    let kept := ((restricted es).filterMap fun
      | .value n _ => some n
      | _ => none).eraseDups
    "day-of-week field does not support mixing literal values and nth day of week syntax.  Cron: '" ++
      expression ++ "'    dow=" ++ braced (plain.map toString) ++ " vs nth=" ++
      braced (kept.map fun n => toString n ++ ": " ++ occurrencesText es n)
  | .needsHash => "Hashed definitions must include hash_id"
  | .notInField n => s!"{n} is not in list"
  | .tooManyDigits count => Numeral.tooManyDigits count
  | .noDate => "failed to find next date"
  | .pastLastYear => s!"year {Date.maxYear + 1} is out of range"
  | .outOfCalendar => "date value out of range"

/-- The error that a fault of an expression is reported as. -/
def Fault.error (expression : String) (f : Fault) : Error :=
  let message := f.message expression
  match f with
  | .notInField _ | .tooManyDigits _ | .pastLastYear => .foreign .invalidValue message
  | .outOfCalendar => .foreign .outOfRange message
  | _ => .invalidSchedule (.text expression) (.text message)

end ProcessTriggers.Cron
