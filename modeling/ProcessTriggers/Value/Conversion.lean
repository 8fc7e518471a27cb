import ProcessTriggers.Double.Numeral
import ProcessTriggers.Value.Arithmetic

/-!
Numbers and entries from dynamic values. Texts are read as numerals, a double becomes an integer
without its fraction, and pairs become entries.
-/

namespace ProcessTriggers

/-- A double without its fraction. -/
def Double.whole (x : Double) : Except Error Int :=
  match x, x.value? with
  | _, some q => .ok (truncate q)
  | .nan, none => .error (.foreign .invalidValue "cannot convert float NaN to integer")
  | _, none => .error (.foreign .outOfRange "cannot convert float infinity to integer")

namespace Value

/-- The double nearest to an integer, which must not be too large for one. -/
def nearestDouble (n : Int) : Except Error Double :=
  let x := Double.ofInt n
  if x.isInfinite then .error .numberTooLarge else .ok x

/-- The characters of a text or of bytes. -/
def characters? : Value → Option (List Char)
  | .text s => some s.toList
  | .bytes bs => some (bs.map fun b => Char.ofNat b.toNat)
  | _ => none

def toDouble (v : Value) : Except Error Double :=
  match v.integer?, v, v.characters? with
  | some n, _, _ => nearestDouble n
  | none, .double x, _ => .ok x
  | none, _, some cs =>
    match Numeral.double? cs with
    | some x => .ok x
    | none =>
      .error (.foreign .invalidValue ("could not convert string to float: " ++ v.quoted))
  | none, v, none => .error (wrongType ("a number is needed, not " ++ v.kindName))

/-- A value that writes no integer in a base. Of a long one the beginning is shown. -/
def notInteger (base : Nat) (v : Value) : Error :=
  .foreign .invalidValue
    (s!"invalid literal for int() with base {base}: " ++ String.ofList (v.quoted.toList.take 200))

/-- The decimal integer that a value with characters writes. Too many digits at its beginning are
noticed before anything that is wrong behind them. -/
def decimalOf (v : Value) (cs : List Char) : Except Error Int :=
  let digits := ((Numeral.leading? cs).map fun (_, digits, _) => digits.length).getD 0
  match Numeral.int? cs with
  | some n => .ok n
  | none =>
    if Numeral.maxDigits < digits then
      .error (.foreign .invalidValue (Numeral.tooManyDigits digits))
    else .error (notInteger 10 v)

/-- The integer that a text writes in base 2, 8, 10 or 16. -/
def integerOf (base : Nat) (s : String) : Except Error Int :=
  if base = 10 then decimalOf (.text s) s.toList
  else
    let letter := if base = 2 then 'b' else if base = 8 then 'o' else 'x'
    match Numeral.intIn? base letter s.toList with
    | some n => .ok n
    | none => .error (notInteger base (.text s))

def toInteger (v : Value) : Except Error Int :=
  match v.integer?, v, v.characters? with
  | some n, _, _ => .ok n
  | none, .double x, _ => x.whole
  | none, v, some cs => decimalOf v cs
  | none, v, none => .error (wrongType ("an integer is needed, not " ++ v.kindName))

/-- The values in another one. -/
def items? (v : Value) : Option (List Value) :=
  match v with
  | .list xs => some xs
  | .object es => some (es.map fun e => .text e.1)
  | .text s => some (s.toList.map fun c => .text (String.ofList [c]))
  | .bytes bs => some (bs.map fun b => .int b.toNat)
  | _ => none

def items (v : Value) : Except Error (List Value) :=
  match v.items? with
  | some xs => .ok xs
  | none => .error (wrongType ("'" ++ v.kindName ++ "' object is not iterable"))

/-- The entry that the item at a position stands for, which must hold two values. -/
def toEntry (position : Nat) (v : Value) : Except Error (String × Value) :=
  match v.items? with
  | some [key, w] => do return ((← key.asKey).shown, w)
  | some xs =>
    .error (.foreign .invalidValue
      s!"dictionary update sequence element #{position} has length {xs.length}; 2 is required")
  | none =>
    .error (wrongType
      s!"cannot convert dictionary update sequence element #{position} to a sequence")

/-- The entries of an object, or those that pairs stand for. -/
def toEntries (v : Value) : Except Error Entries :=
  match v with
  | .object es => .ok es
  | v => do
    let pairs ← (← v.items).zipIdx.mapM fun (x, i) => toEntry i x
    return Entries.ofPairs pairs

end Value
end ProcessTriggers
