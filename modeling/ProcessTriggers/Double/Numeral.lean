import ProcessTriggers.Double.Basic
import ProcessTriggers.Text.Blank
import ProcessTriggers.Text.Digit

/-!
Numerals: reading integers and doubles from text. Digits of any script count, white space may
surround the numeral, and single underscores may separate digits.
-/

namespace ProcessTriggers.Numeral

/-- Digits of every script become ASCII digits; no other character changes. -/
def normalize (cs : List Char) : List Char :=
  (Text.trimBy Text.isSpace cs).map fun c => ((Text.digitValue? c).map Text.digitChar).getD c

/-- Splits off a sign; true for a minus. -/
def takeSign : List Char → Bool × List Char
  | '-' :: r => (true, r)
  | '+' :: r => (false, r)
  | cs => (false, cs)

/-- The value of a digit or letter in a base up to sixteen. -/
def digitIn? (base : Nat) (c : Char) : Option Nat :=
  let n := c.toNat
  let v :=
    if '0' ≤ c ∧ c ≤ '9' then some (n - 48)
    else if 'a' ≤ c ∧ c ≤ 'f' then some (n - 87)
    else if 'A' ≤ c ∧ c ≤ 'F' then some (n - 55)
    else none
  v.filter (· < base)

/-- Removes underscores that stand singly between two digits; none when one stands elsewhere. -/
def joinGroups? (isDigit : Char → Bool) : List Char → Option (List Char)
  | [] => some []
  | [c] => if c == '_' then none else some [c]
  | c :: d :: r =>
    if c == '_' then none
    else if d == '_' then
      match r with
      | e :: _ => if isDigit c && isDigit e then (joinGroups? isDigit r).map (c :: ·) else none
      | [] => none
    else (joinGroups? isDigit (d :: r)).map (c :: ·)

/-- The number written by digits of a base; none without a digit. -/
def natOf? (base : Nat) (cs : List Char) : Option Nat :=
  if cs.isEmpty then none
  else cs.foldl (fun acc c => do return (← acc) * base + (← digitIn? base c)) (some 0)

/-- Drops the letter mark of a base, such as `0x`, with one underscore after it. -/
def dropBaseMark (letter : Char) : List Char → List Char
  | '0' :: c :: r =>
    if c == letter || c == letter.toUpper then
      match r with
      | '_' :: r => r
      | r => r
    else '0' :: c :: r
  | cs => cs

/-- Integers written in a base that is a power of two may repeat its letter mark. -/
def intIn? (base : Nat) (letter : Char) (cs : List Char) : Option Int := do
  let (negative, body) := takeSign (normalize cs)
  let digits ← joinGroups? (digitIn? base · |>.isSome) (dropBaseMark letter body)
  let n ← natOf? base digits
  return if negative then -(n : Int) else n

/-- The most decimal digits an integer may be read from or written with. -/
def maxDigits : Nat := 4300

/-- The message about an integer with too many digits. -/
def tooManyDigits (count : Nat) : String :=
  s!"Exceeds the limit ({maxDigits} digits) for integer string conversion: " ++
    s!"value has {count} digits; use sys.set_int_max_str_digits() to increase the limit"

/-- The sign and the digits that a text begins with, and what follows them. -/
def leading? (cs : List Char) : Option (Bool × List Char × List Char) := do
  let (negative, body) := takeSign (normalize cs)
  let run := body.takeWhile fun c => c.isDigit || c == '_'
  let digits ← joinGroups? Char.isDigit run
  guard !digits.isEmpty
  return (negative, digits, body.drop run.length)

/-- A decimal integer; leading zeros are allowed. -/
def int? (cs : List Char) : Option Int := do
  let (negative, digits, rest) ← leading? cs
  guard (rest.isEmpty && digits.length ≤ maxDigits)
  let n ← natOf? 10 digits
  return if negative then -(n : Int) else n

/-- Digits, a point among them, and a power of ten. -/
structure Literal where
  digits : List Char
  exponent : Int
  deriving DecidableEq

/-- Exponents and lengths beyond these make a literal zero or infinite whatever its digits. -/
def exponentBound : Int := 400

/-- The double nearest to a literal. -/
def Literal.double (l : Literal) (negative : Bool) : Double :=
  let digits := l.digits.dropWhile (· == '0')
  let length := l.exponent + digits.length
  if digits.isEmpty then .zero negative
  else if exponentBound < length then .infinite negative
  else if length < -exponentBound then .zero negative
  else .ofMagnitude negative (((natOf? 10 digits).getD 0 : Nat) * (10 : Rat) ^ l.exponent)

/-- The integer written by an exponent: a sign and at least one digit. -/
def exponent? (cs : List Char) : Option Int := do
  let (negative, digits) := takeSign cs
  let n ← natOf? 10 digits
  return if negative then -(n : Int) else n

/-- An unsigned decimal literal: digits with an optional fraction, or a fraction alone, and then an
optional exponent. -/
def literal? (cs : List Char) : Option Literal := do
  let whole := cs.takeWhile Char.isDigit
  let rest := cs.dropWhile Char.isDigit
  let (fraction, rest) := match rest with
    | '.' :: r => (r.takeWhile Char.isDigit, r.dropWhile Char.isDigit)
    | r => ([], r)
  guard !(whole ++ fraction).isEmpty
  let e ← match rest with
    | [] => some 0
    | c :: r => if c == 'e' || c == 'E' then exponent? r else none
  return ⟨whole ++ fraction, e - fraction.length⟩

/-- The words for the values that have no digits. -/
def word? (negative : Bool) (cs : List Char) : Option Double :=
  let w := String.ofList (cs.map Char.toLower)
  if w = "inf" ∨ w = "infinity" then some (.infinite negative)
  else if w = "nan" then some .nan
  else none

def double? (cs : List Char) : Option Double := do
  let (negative, body) := takeSign (normalize cs)
  match word? negative body with
  | some x => some x
  | none =>
    let l ← literal? (← joinGroups? Char.isDigit body)
    return l.double negative

end ProcessTriggers.Numeral
