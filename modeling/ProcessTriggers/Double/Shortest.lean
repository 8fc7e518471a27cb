import ProcessTriggers.Double.Basic

/-!
The shortest decimal text of a double: the fewest digits that read back as the same double, and
among those the digits nearest to it.
-/

namespace ProcessTriggers.Double

/-- A decimal number `digits * 10 ^ exponent`. -/
structure Decimal where
  digits : Nat
  exponent : Int
  deriving DecidableEq

def Decimal.value (d : Decimal) : Rat := d.digits * (10 : Rat) ^ d.exponent

/-- Whether `x` rounds to the double of mantissa `m` and exponent `e`: it lies at most half a step
away, where the step below a full power of two is half as wide and the ends belong to an even
mantissa. -/
def roundsTo (m : Nat) (e : Int) (x : Rat) : Bool :=
  let below : Rat := if m = Nat.pow 2 52 ∧ minExponent < e then 1 / 4 else 1 / 2
  let unit : Rat := 2 ^ e
  let lo := (m - below) * unit
  let hi := (m + 1 / 2) * unit
  if m % 2 = 0 then lo ≤ x && x ≤ hi else lo < x && x < hi

/-- The least `n` with `q < 10 ^ n`, sought from an estimate by binary lengths. -/
def decimalLength (q : Rat) : Int :=
  let bits : Int := Nat.log2 q.num.toNat - Nat.log2 q.den - 1
  let estimate := (bits * 30103).fdiv 100000
  ([estimate, estimate + 1].find? fun n => q < 10 ^ n).getD (estimate + 2)

/-- The double's nearest neighbour with step `10 ^ p` that rounds to it, if one of the two does. -/
def neighbour? (m : Nat) (e p : Int) : Option Decimal :=
  let x : Rat := m * (2 : Rat) ^ e / 10 ^ p
  let below := x.floor
  let near := roundHalfEven x
  let far := if near = below then below + 1 else below
  ([near, far].map (⟨·.toNat, p⟩)).find? fun d => d.digits ≠ 0 && roundsTo m e d.value

/-- The shortest decimal that reads back as the double of mantissa `m` and exponent `e`. -/
def shortest (m : Nat) (e : Int) : Decimal :=
  let n := decimalLength (m * (2 : Rat) ^ e)
  ((List.range 17).findSome? fun k : Nat => neighbour? m e (n - 1 - k)).getD ⟨m, e⟩

end ProcessTriggers.Double
