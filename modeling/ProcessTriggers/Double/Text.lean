import ProcessTriggers.Double.Shortest

/-!
The text of a double: its shortest digits, with a point between `10 ^ -4` and `10 ^ 16` and with
an exponent elsewhere.
-/

namespace ProcessTriggers.Double

/-- Numbers whose leading digit stands for `10 ^ k` are written with a point for these `k`. -/
def isPositional (k : Int) : Bool := -4 ≤ k && k < 16

def signText (negative : Bool) : String := if negative then "-" else ""

/-- An exponent has a sign and at least two digits. -/
def exponentText (k : Int) : String :=
  let digits := toString k.natAbs
  (if k < 0 then "e-" else "e+") ++ (if digits.length < 2 then "0" ++ digits else digits)

/-- The digits of a decimal, a point among them. -/
def positionalText (ds : List Char) (k : Int) : String :=
  if k < 0 then "0." ++ String.ofList (List.replicate (-k - 1).toNat '0' ++ ds)
  else
    let whole := (ds ++ List.replicate (k.toNat + 1 - ds.length) '0').take (k.toNat + 1)
    let rest := ds.drop (k.toNat + 1)
    String.ofList whole ++ "." ++ (if rest.isEmpty then "0" else String.ofList rest)

def scientificText (ds : List Char) (k : Int) : String :=
  let rest := ds.drop 1
  String.ofList (ds.take 1) ++ (if rest.isEmpty then "" else "." ++ String.ofList rest) ++
    exponentText k

/-- The digits without the zeros that end them. -/
def dropTrailingZeros (ds : List Char) : List Char := (ds.reverse.dropWhile (· == '0')).reverse

/-- A decimal is laid out by the power of ten that its first digit stands for. -/
def Decimal.text (d : Decimal) : String :=
  let ds := (toString d.digits).toList
  let k := d.exponent + ds.length - 1
  let ds := dropTrailingZeros ds
  if isPositional k then positionalText ds k else scientificText ds k

/-- `inf` and `nan` are the texts of the values that have no digits. -/
def text : Double → String
  | .nan => "nan"
  | .infinite negative => signText negative ++ "inf"
  | .finite negative m e =>
    signText negative ++ if m = 0 then "0.0" else (shortest m e).text

end ProcessTriggers.Double
