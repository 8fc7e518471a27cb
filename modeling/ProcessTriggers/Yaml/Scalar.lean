import ProcessTriggers.Text.Base64
import ProcessTriggers.Yaml.Kind

/-!
What scalars mean, by their kinds.
-/

namespace ProcessTriggers.Yaml

/-- The fault of a node whose content does not suit its kind, or whose kind has no values. -/
def noValue : Error := .malformedDocument .noValue

def readSwitch (s : String) : Except Error Bool :=
  let word := Text.lower s
  match switchWords.lookup word with
  | some b => .ok b
  | none => .error (.missingEntry word)

def readBytes64 (s : String) : Except Error (List UInt8) :=
  let cs := s.toList
  match if cs.all (·.toNat < 0x80) then Text.Base64.decode? cs else none with
  | some bs => .ok bs
  | none => .error noValue

/-- The value of a scalar. -/
def Kind.read (kind : Kind) (s : String) : Except Error Value :=
  match kind with
  | .null => .ok .null
  | .switch => .bool <$> readSwitch s
  | .integer => .int <$> readInteger s
  | .real => .double <$> readReal s
  | .bytes => .bytes <$> readBytes64 s
  | .stamp => readMoment s
  | .text => .ok (.text s)
  | _ => .error noValue

end ProcessTriggers.Yaml
