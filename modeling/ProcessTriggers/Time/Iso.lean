import ProcessTriggers.Time.Stamp

/-!
ISO 8601 text of timestamps. Printing writes date, time and offset; reading also takes week dates,
the basic form without separators, and a time cut short.
-/

namespace ProcessTriggers.Stamp

/-- `n` with zeros in front up to `width` digits. -/
def padded (width n : Nat) : String :=
  let digits := toString n
  String.ofList (List.replicate (width - digits.length) '0') ++ digits

def dateText (d : Date) : String :=
  padded 4 d.year ++ "-" ++ padded 2 d.month ++ "-" ++ padded 2 d.day

/-- Hours, minutes and seconds; the fraction is written only when there is one. -/
def clockText (micro : Nat) : String :=
  let s := micro / 1000000
  let us := micro % 1000000
  padded 2 (s / 3600) ++ ":" ++ padded 2 (s / 60 % 60) ++ ":" ++ padded 2 (s % 60) ++
    if us = 0 then "" else "." ++ padded 6 us

/-- An offset has no seconds unless they count. -/
def offsetText (offset : Int) : String :=
  let text := clockText offset.natAbs
  (if offset < 0 then "-" else "+") ++
    if offset % minute = 0 then String.ofList (text.toList.take 5) else text

/-- The text of a stamp with `separator` between date and time. -/
def render (separator : String) (t : Stamp) : String :=
  dateText t.date ++ separator ++ clockText t.timeOfDay ++ (t.offset.map offsetText).getD ""

def isoText (t : Stamp) : String := t.render "T"

/-- Why a text is no timestamp. -/
inductive ParseError
  | malformed (text : String)
  | yearOutOfRange (year : Nat)
  | monthOutOfRange
  | dayOutOfRange
  | hourOutOfRange
  | minuteOutOfRange
  | secondOutOfRange
  | offsetTooLarge (offset : Int)
  deriving DecidableEq

/-- Reads exactly `n` digits. -/
def takeDigits? : Nat → List Char → Option (Nat × List Char)
  | n, cs =>
    let ds := cs.take n
    if ds.length = n ∧ ds.all Char.isDigit then
      some (ds.foldl (fun acc c => acc * 10 + (c.toNat - 48)) 0, cs.drop n)
    else none

/-- How many characters of a text belong to its date. A week date may end after the week or after
the day; digits that follow come in pairs, which tells the two apart. -/
def dateLength (cs : List Char) : Nat :=
  if cs.length = 7 then 7
  else match cs.drop 4 with
    | '-' :: 'W' :: _ =>
      if cs[8]? = some '-' then
        if (cs[10]?.map Char.isDigit).getD false then 8 else 10
      else 8
    | '-' :: _ => 10
    | 'W' :: _ =>
      let run := ((cs.drop 7).takeWhile Char.isDigit).length
      if run < 2 then 7 + run else if run % 2 = 1 then 7 else 8
    | _ => 8

def weekDate? (year : Nat) (dashed : Bool) (cs : List Char) : Option Date := do
  let (week, rest) ← takeDigits? 2 cs
  match rest with
  | [] => Date.ofWeek? year week 1
  | c :: r =>
    guard (!dashed || c == '-')
    let (weekday, rest) ← takeDigits? 1 (if dashed then r else rest)
    guard rest.isEmpty
    Date.ofWeek? year week weekday

def readDate? (cs : List Char) : Option Date := do
  let (year, rest) ← takeDigits? 4 cs
  let dashed := rest.head? == some '-'
  let rest := if dashed then rest.drop 1 else rest
  match rest with
  | 'W' :: r => weekDate? year dashed r
  | _ =>
    let (month, rest) ← takeDigits? 2 rest
    guard (!dashed || rest.head? == some '-')
    let (day, rest) ← takeDigits? 2 (if dashed then rest.drop 1 else rest)
    guard rest.isEmpty
    return ⟨year, month, day⟩

/-- Whether one character of ASCII is all that is left. -/
def isLast : List Char → Bool
  | [c] => c.toNat < 0x80
  | _ => false

/-- A clock reading, and whether a character was left over at its end. -/
structure Reading where
  hour : Nat
  minute : Nat
  second : Nat
  microsecond : Nat
  leftOver : Bool

/-- A fraction of a second counts to six digits; further digits are dropped. -/
def fraction? (cs : List Char) : Option (Nat × Bool) := do
  let n := min cs.length 6
  guard (n ≠ 0)
  let (v, rest) ← takeDigits? n cs
  return (v * Nat.pow 10 (6 - n), !(rest.dropWhile Char.isDigit).isEmpty)

/-- What follows the minutes: `colons` tells whether they were set off by a colon. -/
def readSeconds? (h m : Nat) (colons : Bool) (cs : List Char) : Option Reading := do
  let (s, rest) ← takeDigits? 2 cs
  match rest with
  | [] => return ⟨h, m, s, 0, false⟩
  | c :: r =>
    if isLast rest then return ⟨h, m, s, 0, true⟩
    else if c == '.' || c == ',' || (colons && c == ':') then
      let (us, left) ← fraction? r
      return ⟨h, m, s, us, left⟩
    else if colons then none
    else
      let (us, left) ← fraction? rest
      return ⟨h, m, s, us, left⟩

def readMinutes? (h : Nat) (colons : Bool) (cs : List Char) : Option Reading := do
  let (m, rest) ← takeDigits? 2 cs
  match rest with
  | [] => return ⟨h, m, 0, 0, false⟩
  | c :: r =>
    if isLast rest then return ⟨h, m, 0, 0, true⟩
    else if colons && c == ':' then readSeconds? h m colons r
    else if c == '.' || c == ',' then
      let (us, left) ← fraction? r
      return ⟨h, m, 0, us, left⟩
    else if colons then none
    else readSeconds? h m colons rest

def readClock? (cs : List Char) : Option Reading := do
  let (h, rest) ← takeDigits? 2 cs
  match rest with
  | [] => return ⟨h, 0, 0, 0, false⟩
  | c :: r =>
    if isLast rest then return ⟨h, 0, 0, 0, true⟩
    else if c == ':' then readMinutes? h true r
    else if c == '.' || c == ',' then
      let (us, left) ← fraction? r
      return ⟨h, 0, 0, us, left⟩
    else readMinutes? h false rest

def Reading.micros (r : Reading) : Int :=
  (((r.hour * 60 + r.minute) * 60 + r.second) * 1000000 + r.microsecond : Nat)

def isOffsetMark (c : Char) : Bool := c == '+' || c == '-' || c == 'Z'

/-- An offset: `Z`, or a sign and a clock reading. One of less than a second is none. -/
def readOffset? : List Char → Option Int
  | ['Z'] => some 0
  | 'Z' :: _ => none
  | sign :: cs => do
    let r ← readClock? cs
    guard !r.leftOver
    let n := r.micros
    return if n < second then 0 else if sign == '-' then -n else n
  | [] => none

/-- The time after a date, with its offset. A character left over is passed over only in front of
an offset. -/
def readTime? (cs : List Char) : Option (Reading × Option Int) := do
  let clock := cs.take 1 ++ (cs.drop 1).takeWhile (!isOffsetMark ·)
  let clock := if (cs.head?.map isOffsetMark).getD true then [] else clock
  let r ← readClock? clock
  match cs.drop clock.length with
  | [] => if r.leftOver then none else return (r, none)
  | tail => return (r, some (← readOffset? tail))

/-- Checks the fields of a timestamp in order. -/
def ofFields (d : Date) (r : Reading) (offset : Option Int) : Except ParseError Stamp :=
  if (offset.map Int.natAbs).getD 0 ≥ day.natAbs then .error (.offsetTooLarge (offset.getD 0))
  else if d.year < Date.minYear then .error (.yearOutOfRange d.year)
  else if d.month < 1 ∨ 12 < d.month then .error .monthOutOfRange
  else if d.day < 1 ∨ Date.daysInMonth d.year d.month < d.day then .error .dayOutOfRange
  else if 23 < r.hour then .error .hourOutOfRange
  else if 59 < r.minute then .error .minuteOutOfRange
  else if 59 < r.second then .error .secondOutOfRange
  else .ok ⟨wallOf d r.hour r.minute r.second r.microsecond, offset⟩

def parseFields? (cs : List Char) : Option (Date × Reading × Option Int) := do
  guard (7 ≤ cs.length)
  let n := dateLength cs
  let date ← readDate? (cs.take n)
  match cs.drop n with
  | [] => return (date, ⟨0, 0, 0, 0, false⟩, none)
  | [_] => none
  | _ :: time =>
    let (r, offset) ← readTime? time
    return (date, r, offset)

def parse (s : String) : Except ParseError Stamp :=
  match parseFields? s.toList with
  | some (d, r, offset) => ofFields d r offset
  | none => .error (.malformed s)

end ProcessTriggers.Stamp
