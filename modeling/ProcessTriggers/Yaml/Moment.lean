import ProcessTriggers.Double.Numeral
import ProcessTriggers.Error

/-!
Dates and timestamps. A timestamp has a clock reading after its date, and an offset if it ends with
one.
-/

namespace ProcessTriggers.Yaml

/-- The text without a line end at its end, which is not counted when a scalar is matched. -/
def dropFinalBreak (cs : List Char) : List Char :=
  if cs.getLast? = some '\n' then cs.dropLast else cs

/-- Reads one digit or two. -/
def takeShort? (cs : List Char) : Option (Nat × List Char) :=
  Stamp.takeDigits? (min 2 (cs.takeWhile Char.isDigit).length) cs |>.filter fun _ =>
    cs.head?.any Char.isDigit

/-- Reads a character that must come next. -/
def takeMark? (c : Char) : List Char → Option (List Char)
  | d :: r => if d = c then some r else none
  | [] => none

/-- The offset at the end of a timestamp. -/
def stampOffset? : List Char → Option (Option Int)
  | [] => some none
  | cs =>
    match cs.dropWhile fun c => c == ' ' || c == '\t' with
    | ['Z'] => some (some 0)
    | sign :: r => do
      guard (sign == '+' || sign == '-')
      let (hours, r) ← takeShort? r
      let minutes ← match r with
        | [] => some 0
        | _ => do
          let (minutes, r) ← Stamp.takeDigits? 2 (← takeMark? ':' r)
          guard r.isEmpty
          some minutes
      let n : Int := hours * Stamp.hour + minutes * Stamp.minute
      return some (if sign = '-' then -n else n)
    | [] => none

/-- The clock reading of a timestamp, and its offset. -/
def stampClock? (cs : List Char) : Option (Stamp.Reading × Option Int) := do
  let (hour, r) ← takeShort? cs
  let (minute, r) ← Stamp.takeDigits? 2 (← takeMark? ':' r)
  let (second, r) ← Stamp.takeDigits? 2 (← takeMark? ':' r)
  let (fraction, r) := match r with
    | '.' :: r => r.span Char.isDigit
    | r => ([], r)
  let digits := fraction.take 6 ++ List.replicate (6 - fraction.length) '0'
  let offset ← stampOffset? r
  return (⟨hour, minute, second, (Numeral.natOf? 10 digits).getD 0, false⟩, offset)

/-- The parts of a timestamp; one without a clock reading is a date. -/
def stampParts? (cs : List Char) : Option (Date × Option (Stamp.Reading × Option Int)) := do
  let (year, r) ← Stamp.takeDigits? 4 cs
  let (month, r) ← takeShort? (← takeMark? '-' r)
  let (day, r) ← takeShort? (← takeMark? '-' r)
  let date : Date := ⟨year, month, day⟩
  match r with
  | [] => return (date, none)
  | c :: r =>
    guard (['T', 't', ' ', '\t'].contains c)
    let r := if c = ' ' ∨ c = '\t' then r.dropWhile fun c => c == ' ' || c == '\t' else r
    return (date, ← stampClock? r)

/-- Whether a text is spelled as a timestamp. A date has all its digits. -/
def isStamp (cs : List Char) : Bool :=
  match stampParts? cs with
  | some (_, none) => cs.length == 10
  | some (_, some _) => true
  | none => false

/-- The date or the timestamp that a text writes, which must be one of the calendar. -/
def readMoment (s : String) : Except Error Value :=
  let check (r : Except Stamp.ParseError Stamp) : Except Error Stamp :=
    match r with
    | .ok t => .ok t
    | .error e => .error (.badTimestamp e)
  match stampParts? (dropFinalBreak s.toList) with
  | some (d, none) => do
    let _ ← check (Stamp.ofFields d ⟨0, 0, 0, 0, false⟩ none)
    return .date d
  | some (d, some (r, offset)) => do return .stamp (← check (Stamp.ofFields d r offset))
  | none => .error (.noMember "NoneType" "year")

end ProcessTriggers.Yaml
