import ProcessTriggers.Double.Numeral
import ProcessTriggers.Double.Text
import ProcessTriggers.Error
import ProcessTriggers.Text.Lowercase
import ProcessTriggers.Text.Search

/-!
Operands of comparisons. A value is compared as text in the spelling that event producers use, and
as a number by a coercion that gives no number for what does not denote one.
-/

namespace ProcessTriggers.Operand

/-- A double as text: whole numbers have no point. -/
def doubleText : Double → String
  | .nan => "NaN"
  | .infinite negative => if negative then "-Infinity" else "Infinity"
  | x =>
    match x.value? with
    | some q => if q.den = 1 then toString q.num else x.text
    | none => x.text

def isAbsent : Value → Bool
  | .null | .missing => true
  | _ => false

mutual

/-- The text that a value is compared by. -/
def display : Value → String
  | .missing => "undefined"
  | .null => "null"
  | .bool b => if b then "true" else "false"
  | .double x => doubleText x
  | .list xs => ",".intercalate (displayItems xs)
  | .object _ => "[object Object]"
  | v => v.shown

/-- Absent items of a list leave their place empty. -/
def displayItems : List Value → List String
  | [] => []
  | x :: xs => (if isAbsent x then "" else display x) :: displayItems xs

end

/-- The double nearest to an integer, which must not round past the largest one. -/
def ofInt (n : Int) : Except Error Double :=
  let x := Double.ofInt n
  if x.isInfinite then .error .numberTooLarge else .ok x

/-- The base that a two-character mark announces. -/
def baseMark? : List Char → Option (Nat × Char × List Char)
  | '0' :: c :: r =>
    match c.toLower with
    | 'x' => some (16, 'x', r)
    | 'o' => some (8, 'o', r)
    | 'b' => some (2, 'b', r)
    | _ => none
  | _ => none

/-- Whether a text holds what a decimal literal never has: an underscore, or the words for values
without digits in another spelling than the accepted one. -/
def isExcluded (cs : List Char) : Bool :=
  let lowered := (Text.lower (String.ofList cs)).toList
  cs.contains '_' || Text.isRun "inf".toList lowered || Text.isRun "nan".toList lowered

/-- The number that a text denotes. A blank text is zero. -/
def ofText (s : String) : Except Error Double :=
  let cs := Text.trim s.toList
  if cs.isEmpty then .ok (.zero false)
  else if cs = "Infinity".toList ∨ cs = "+Infinity".toList then .ok (.infinite false)
  else if cs = "-Infinity".toList then .ok (.infinite true)
  else if isExcluded cs then .ok .nan
  else match baseMark? cs with
    | some (base, letter, digits) =>
      match Numeral.intIn? base letter digits with
      | some n => ofInt n
      | none => .ok .nan
    | none => .ok ((Numeral.double? cs).getD .nan)

/-- The number that a value is ordered by. A list of one item counts as the text of that item. -/
def number : Value → Except Error Double
  | .null => .ok (.zero false)
  | .bool b => .ok (.ofInt (if b then 1 else 0))
  | .int n => ofInt n
  | .double x => .ok x
  | .text s => ofText s
  | .list [] => .ok (.zero false)
  | .list [x] => ofText (display x)
  | _ => .ok .nan

end ProcessTriggers.Operand
