/-!
Binary floating-point numbers of double precision, held as exact values. Every operation is
exact rational arithmetic followed by one rounding to the nearest double, ties to the even
mantissa.
-/

namespace ProcessTriggers

/-- A double. A finite one is `mantissa * 2 ^ exponent`, with its sign kept apart because zero has
one too. -/
inductive Double
  | nan
  | infinite (negative : Bool)
  | finite (negative : Bool) (mantissa : Nat) (exponent : Int)
  deriving DecidableEq, Inhabited

/-- The nearest integer, a half to the even neighbour. -/
def roundHalfEven (q : Rat) : Int :=
  let n := q.floor
  let part := q - n
  if part < 1 / 2 then n
  else if 1 / 2 < part then n + 1
  else if n % 2 = 0 then n else n + 1

/-- The integer left of the point, toward zero. -/
def truncate (q : Rat) : Int := q.num.tdiv q.den

namespace Double

/-- The exponent of the smallest doubles. -/
def minExponent : Int := -1074

/-- The exponent of the largest doubles. -/
def maxExponent : Int := 971

def zero (negative : Bool) : Double := .finite negative 0 minExponent

/-- The exponent at which a positive `q` has a mantissa of 53 bits, or the least exponent. -/
def exponentFor (q : Rat) : Int :=
  let e : Int := Nat.log2 q.num.toNat - Nat.log2 q.den - 52
  max (if q < 2 ^ (e + 52) then e - 1 else e) minExponent

/-- The double nearest to `q ≥ 0`, with the given sign; past the largest double it is infinite. -/
def ofMagnitude (negative : Bool) (q : Rat) : Double :=
  if q = 0 then zero negative
  else
    let e := exponentFor q
    let m := (roundHalfEven (q / 2 ^ e)).toNat
    let (m, e) := if m = Nat.pow 2 53 then (Nat.pow 2 52, e + 1) else (m, e)
    if maxExponent < e then .infinite negative else .finite negative m e

/-- The double nearest to `q`; zero is the positive one. -/
def ofRat (q : Rat) : Double :=
  if q < 0 then ofMagnitude true (-q) else ofMagnitude false q

def ofInt (n : Int) : Double := ofRat n

/-- The exact value of a finite double. -/
def value? : Double → Option Rat
  | .finite negative m e => some ((if negative then -(m : Rat) else m) * 2 ^ e)
  | _ => none

def isNaN : Double → Bool
  | .nan => true
  | _ => false

def isInfinite : Double → Bool
  | .infinite _ => true
  | _ => false

def isZero : Double → Bool
  | .finite _ m _ => m == 0
  | _ => false

def isNegative : Double → Bool
  | .nan => false
  | .infinite negative => negative
  | .finite negative _ _ => negative

def negate : Double → Double
  | .nan => .nan
  | .infinite negative => .infinite !negative
  | .finite negative m e => .finite (!negative) m e

/-- The sum of two doubles, rounded once; a sum of zero is positive. -/
def add (x y : Double) : Double :=
  match x, y, x.value?, y.value? with
  | _, _, some a, some b => ofRat (a + b)
  | .infinite a, .infinite b, _, _ => if a = b then x else .nan
  | .infinite _, .finite .., _, _ => x
  | .finite .., .infinite _, _, _ => y
  | _, _, _, _ => .nan

/-- The product of a double and a positive finite one, rounded once. -/
def times (x y : Double) : Double :=
  match x.value?, y.value? with
  | some a, some b => ofMagnitude x.isNegative (if a < 0 then -a * b else a * b)
  | _, _ => x

def compareRat (a b : Rat) : Ordering :=
  if a < b then .lt else if a = b then .eq else .gt

/-- The order of two doubles, none when one is not a number. -/
def compare? (x y : Double) : Option Ordering :=
  match x, y with
  | .nan, _ | _, .nan => none
  | .infinite a, .infinite b => some (compare b.toNat a.toNat)
  | .infinite negative, _ => some (if negative then .lt else .gt)
  | _, .infinite negative => some (if negative then .gt else .lt)
  | .finite .., .finite .. => some (compareRat (x.value?.getD 0) (y.value?.getD 0))

/-- The order of a double and an integer, which is not rounded for it. -/
def compareInt? (x : Double) (n : Int) : Option Ordering :=
  match x with
  | .nan => none
  | .infinite negative => some (if negative then .lt else .gt)
  | .finite .. => some (compareRat (x.value?.getD 0) n)

/-- Whether a double is finite with nothing after the point. -/
def isWhole (x : Double) : Bool :=
  match x.value? with
  | some q => q.den == 1
  | none => false

def lt (x y : Double) : Bool := x.compare? y == some .lt

def le (x y : Double) : Bool := x.compare? y == some .lt || x.compare? y == some .eq

theorem compare?_nan_left (y : Double) : compare? .nan y = none := by cases y <;> rfl

theorem compare?_nan_right (x : Double) : compare? x .nan = none := by cases x <;> rfl

end Double
end ProcessTriggers
