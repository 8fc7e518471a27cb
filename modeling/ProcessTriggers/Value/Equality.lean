import ProcessTriggers.Value.Basic

/-!
Equality of dynamic values. Numbers of different kinds are equal when they denote the same number,
and booleans count as zero and one; objects are compared without regard to order.
-/

namespace ProcessTriggers.Value

/-- The number a value denotes, if it is a number of a kind with exact values. -/
def integer? : Value → Option Int
  | .int n => some n
  | .bool b => some (if b then 1 else 0)
  | _ => none

/-- Whether two numbers are the same; none when one value is no number. -/
def sameNumber? (a b : Value) : Option Bool :=
  match a.integer?, b.integer?, a, b with
  | some m, some n, _, _ => some (m == n)
  | some m, none, _, .double y => some (y.compareInt? m == some .eq)
  | none, some n, .double x, _ => some (x.compareInt? n == some .eq)
  | none, none, .double x, .double y => some (x.compare? y == some .eq)
  | _, _, _, _ => none

/-- Stamps that both have an offset are equal when they denote the same instant. -/
def sameStamp (a b : Stamp) : Bool :=
  if a.isAware && b.isAware then a.instant == b.instant else a == b

mutual

def equal : Value → Value → Bool
  | .null, b => b.isNull
  | .missing, b => b.isMissing
  | .text s, .text t => s == t
  | .bytes s, .bytes t => s == t
  | .list xs, .list ys => equalList xs ys
  | .object es, .object fs => es.length == fs.length && equalEntries es fs
  | .record es, .record fs => es.length == fs.length && equalEntries es fs
  | .stamp s, .stamp t => sameStamp s t
  | .date d, .date e => d == e
  | a, b => (sameNumber? a b).getD false

def equalList : List Value → List Value → Bool
  | [], [] => true
  | x :: xs, y :: ys => equal x y && equalList xs ys
  | _, _ => false

/-- Every entry of the first has an equal one under the same key in the second. -/
def equalEntries : List (String × Value) → List (String × Value) → Bool
  | [], _ => true
  | (k, v) :: es, fs =>
    (match fs.lookup k with
    | some w => equal v w
    | none => false) && equalEntries es fs

end

end ProcessTriggers.Value
