import ProcessTriggers.Double.Text

/-!
The text of a double with a chosen number of digits: after the point, or in all with an exponent.
The digits are those of the exact value, a half goes to the even neighbour.
-/

namespace ProcessTriggers.Double

/-- The digits of `n` before and after the last `places` of them. -/
def splitDigits (n places : Nat) : String :=
  let ds := (toString n).toList
  let ds := List.replicate (places + 1 - ds.length) '0' ++ ds
  let whole := String.ofList (ds.take (ds.length - places))
  if places = 0 then whole
  else whole ++ "." ++ String.ofList (ds.drop (ds.length - places))

/-- `q ≥ 0` with some digits after the point. -/
def fixedText (q : Rat) (places : Nat) : String :=
  splitDigits (roundHalfEven (q * 10 ^ places)).toNat places

/-- `q ≥ 0` as the integer that its first digits make after rounding, and the power of ten that the
first of them stands for. -/
def leadingDigits (q : Rat) (count : Nat) : Nat × Int :=
  if q = 0 then (0, 0)
  else
    let n := decimalLength q
    let m := (roundHalfEven (q / (10 : Rat) ^ (n - count))).toNat
    if m = Nat.pow 10 count then (Nat.pow 10 (count - 1), n) else (m, n - 1)

/-- `q ≥ 0` with one digit before the point, some after it, and an exponent. -/
def exponentialText (q : Rat) (places : Nat) : String :=
  let (m, k) := leadingDigits q (places + 1)
  splitDigits m places ++ exponentText k

/-- Drops zeros at the end of a fraction, and the point if nothing follows it. -/
def dropFractionZeros (s : String) : String :=
  if s.toList.contains '.' then
    let ds := (s.toList.reverse.dropWhile (· == '0')).reverse
    String.ofList (if ds.getLast? = some '.' then ds.dropLast else ds)
  else s

/-- `q ≥ 0` with some digits in all, positional unless the number is very large or small. The point
and zeros at the end are kept only if asked for. -/
def generalText (q : Rat) (count : Nat) (keepZeros : Bool) : String :=
  let count := max count 1
  let k := (leadingDigits q count).2
  let trim (s : String) : String :=
    if !keepZeros then dropFractionZeros s
    else if s.toList.contains '.' then s
    else s ++ "."
  if -4 ≤ k ∧ k < count then trim (fixedText q (count - 1 - k).toNat)
  else
    let (m, k) := leadingDigits q count
    trim (splitDigits m (count - 1)) ++ exponentText k

end ProcessTriggers.Double
