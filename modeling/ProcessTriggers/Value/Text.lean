import ProcessTriggers.Double.Text
import ProcessTriggers.Text.Quoted
import ProcessTriggers.Time.Iso
import ProcessTriggers.Value.Basic

/-!
The text of a dynamic value inside a message. A text stands for itself at the top and is quoted
inside another value.
-/

namespace ProcessTriggers

/-- The offset of a stamp as a message shows it. -/
def Stamp.quotedOffset (offset : Int) : String :=
  if offset = 0 then "datetime.timezone.utc"
  else
    let days := offset.fdiv day
    let rest := offset.fmod day
    let parts := (if days = 0 then [] else [s!"days={days}"]) ++
      (if rest / second = 0 then [] else [s!"seconds={rest / second}"]) ++
      if rest % second = 0 then [] else [s!"microseconds={rest % second}"]
    "datetime.timezone(datetime.timedelta(" ++ ", ".intercalate parts ++ "))"

/-- A stamp as a message shows it inside another value. -/
def Stamp.quoted (t : Stamp) : String :=
  let d := t.date
  let tail :=
    if t.microsecondOf ≠ 0 then [t.secondOf, t.microsecondOf]
    else if t.secondOf ≠ 0 then [t.secondOf] else []
  let fields := [d.year, d.month, d.day, t.hourOf, t.minuteOf] ++ tail
  let offset := t.offset.map fun o => ", tzinfo=" ++ quotedOffset o
  "datetime.datetime(" ++ ", ".intercalate (fields.map toString) ++ offset.getD "" ++ ")"

namespace Value

mutual

/-- A value as it is shown inside another value. -/
def quoted : Value → String
  | .null => "None"
  | .bool b => if b then "True" else "False"
  | .int n => toString n
  | .double x => x.text
  | .text s => Text.quoted s
  | .bytes bs => Text.quotedBytes bs
  | .list xs => "[" ++ ", ".intercalate (quotedItems xs) ++ "]"
  | .object es => "\x7b" ++ ", ".intercalate (quotedEntries es) ++ "\x7d"
  | .missing => "MISSING"
  | .record fs => "namespace(" ++ ", ".intercalate (quotedFields fs) ++ ")"
  | .stamp t => t.quoted
  | .date d => s!"datetime.date({d.year}, {d.month}, {d.day})"

def quotedItems : List Value → List String
  | [] => []
  | x :: xs => quoted x :: quotedItems xs

def quotedEntries : List (String × Value) → List String
  | [] => []
  | (k, v) :: es => (Text.quoted k ++ ": " ++ quoted v) :: quotedEntries es

def quotedFields : List (String × Value) → List String
  | [] => []
  | (k, v) :: es => (k ++ "=" ++ quoted v) :: quotedFields es

end

/-- A value as it is shown by itself. -/
def shown : Value → String
  | .text s => s
  | .stamp t => t.render " "
  | .date d => Stamp.dateText d
  | v => v.quoted

end Value
end ProcessTriggers
