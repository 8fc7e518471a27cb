import ProcessTriggers.Text.Lowercase
import ProcessTriggers.Text.Search
import ProcessTriggers.Value.Conversion

/-!
Numbers: how they are spelled, and what their texts are read as. Parts between colons count sixties,
and underscores do not count at all.
-/

namespace ProcessTriggers.Yaml

/-- The spellings of a word: small letters, a capital in front, or capitals. -/
def spellings (word : String) : List String :=
  [word, word.capitalize, String.ofList (word.toList.map Char.toUpper)]

/-- Underscores may stand among digits. -/
def isGroup (c : Char) : Bool := c.isDigit || c == '_'

/-- Digits of a base and underscores. -/
def isGrouped (base : Nat) (cs : List Char) : Bool :=
  cs.all fun c => c == '_' || (Numeral.digitIn? base c).isSome

/-- Digits of which the first is no underscore. -/
def isWhole (cs : List Char) : Bool := cs.head?.any Char.isDigit && cs.all isGroup

/-- A number up to fifty-nine, in one digit or two. -/
def isSixtieth : List Char → Bool
  | [a] => a.isDigit
  | [a, b] => '0' ≤ a && a ≤ '5' && b.isDigit
  | _ => false

/-- Whether a text without its sign is spelled as an integer: binary, octal or hexadecimal by its
beginning, else decimal, or with parts that count sixties. -/
def isNatural : List Char → Bool
  | ['0'] => true
  | '0' :: 'b' :: r => !r.isEmpty && isGrouped 2 r
  | '0' :: 'x' :: r => !r.isEmpty && isGrouped 16 r
  | '0' :: r => isGrouped 8 r
  | cs =>
    match Text.parts ':' cs with
    | [] => false
    | p :: ps => isWhole p && ps.all isSixtieth

def isInteger (cs : List Char) : Bool := isNatural (Numeral.takeSign cs).2

/-- The end of a real number: nothing, or an exponent with its sign. -/
def isExponent : List Char → Bool
  | [] => true
  | e :: s :: r =>
    (e == 'e' || e == 'E') && (s == '+' || s == '-') && !r.isEmpty && r.all Char.isDigit
  | _ => false

/-- Whether a text is spelled as a real number: it has a point with a digit before it, or after it
if there is no sign, or it is a word for a number without digits. -/
def isReal (cs : List Char) : Bool :=
  let (_, body) := Numeral.takeSign cs
  let isUnsigned := body.length == cs.length
  let isWord (word : String) : Bool := (spellings word).any fun w => body == '.' :: w.toList
  isWord "inf" || (isUnsigned && [".nan", ".NaN", ".NAN"].any fun w => body == w.toList) ||
    match body.span (· != '.') with
    | ([], _ :: r) => isUnsigned && r.head?.any Char.isDigit && isExponent (r.dropWhile isGroup)
    | (whole, _ :: r) =>
      match Text.parts ':' whole with
      | [w] => isWhole w && isExponent (r.dropWhile isGroup)
      | w :: ps => isWhole w && ps.all isSixtieth && r.all isGroup
      | [] => false
    | _ => false

/-- Numbers have at least one character. -/
def noDigits : Error := .foreign .badIndex "string index out of range"

/-- Takes off a sign in front of what is left. -/
def signed {α : Type} (cs : List Char) (read : List Char → Except Error α) (negate : α → α) :
    Except Error α := do
  if cs.isEmpty then throw noDigits
  let (negative, body) := Numeral.takeSign cs
  let a ← read body
  return if negative then negate a else a

def ungroup (s : String) : List Char := s.toList.filter (· != '_')

/-- The integer in a base that a text writes. -/
def integerIn (base : Nat) (cs : List Char) : Except Error Int :=
  Value.integerOf base (String.ofList cs)

/-- The integer that a text without its first sign stands for. Its beginning tells its base. -/
def readNatural : List Char → Except Error Int
  | [] => .error noDigits
  | ['0'] => .ok 0
  | '0' :: 'b' :: r => integerIn 2 r
  | '0' :: 'x' :: r => integerIn 16 r
  | '0' :: r => integerIn 8 ('0' :: r)
  | cs => do
    let parts ← (Text.parts ':' cs).mapM (integerIn 10)
    return parts.foldl (fun n p => n * 60 + p) 0

def readInteger (s : String) : Except Error Int := signed (ungroup s) readNatural (- ·)

/-- Doubles that count sixties, the last of them ones, added up from the last. -/
def sumSixties (parts : List Double) : Except Error Double := do
  let add (sum : Double) (p : Double × Nat) : Except Error Double := do
    return sum.add (p.1.times (← Value.nearestDouble (Nat.pow 60 p.2)))
  parts.reverse.zipIdx.foldlM add (.zero false)

/-- The number that a text without its first sign stands for. -/
def readUnsigned (cs : List Char) : Except Error Double :=
  let double (cs : List Char) : Except Error Double := (Value.text (String.ofList cs)).toDouble
  if cs = ".inf".toList then .ok (.infinite false)
  else if cs = ".nan".toList then .ok .nan
  else if cs.contains ':' then do sumSixties (← (Text.parts ':' cs).mapM double)
  else double cs

def readReal (s : String) : Except Error Double :=
  signed (Text.lower (String.ofList (ungroup s))).toList readUnsigned Double.negate

end ProcessTriggers.Yaml
