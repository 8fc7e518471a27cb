import ProcessTriggers.Value.Access

/-!
Order and counting of dynamic values. Numbers of all kinds have one order, texts and bytes theirs,
and stamps are ordered as long as all of them have an offset or none has.
-/

namespace ProcessTriggers

/-- The double after adding an integer. -/
def Double.addInt (x : Double) (n : Int) : Double :=
  match x.value? with
  | some q => Double.ofRat (q + n)
  | none => x

namespace Value

def wrongType (message : String) : Error := .foreign .wrongType message

/-- The order of two numbers; the inner value is none when one is not a number. -/
def compareNumbers? (a b : Value) : Option (Option Ordering) :=
  match a.integer?, b.integer?, a, b with
  | some m, some n, _, _ => some (some (compare m n))
  | some m, none, _, .double y => some ((y.compareInt? m).map Ordering.swap)
  | none, some n, .double x, _ => some (x.compareInt? n)
  | none, none, .double x, .double y => some (x.compare? y)
  | _, _, _, _ => none

/-- The order of two stamps of which both or none have an offset. -/
def compareStamps (s t : Stamp) : Except Error Ordering :=
  if s.isAware = t.isAware then .ok (compare s.instant t.instant)
  else .error (.mixedOffsets "compare")

mutual

/-- The order of two values, which must be of one kind; none for what is not a number. -/
def order (operator : String) : Value → Value → Except Error (Option Ordering)
  | .text s, .text t => .ok (some (compare s t))
  | .bytes s, .bytes t => .ok (some (compare (s.map UInt8.toNat) (t.map UInt8.toNat)))
  | .stamp s, .stamp t => (compareStamps s t).map some
  | .list xs, .list ys => orderItems operator xs ys
  | a, b =>
    match compareNumbers? a b with
    | some o => .ok o
    | none =>
      .error (wrongType ("'" ++ operator ++ "' not supported between instances of '" ++
        a.kindName ++ "' and '" ++ b.kindName ++ "'"))

/-- Lists are ordered by the first items that differ, or else by length. -/
def orderItems (operator : String) : List Value → List Value → Except Error (Option Ordering)
  | x :: xs, y :: ys => if equal x y then orderItems operator xs ys else order operator x y
  | xs, ys => .ok (some (compare xs.length ys.length))

end

def isLess (a b : Value) : Except Error Bool := do return (← order "<" a b) == some .lt

def isGreater (a b : Value) : Except Error Bool := do return (← order ">" a b) == some .gt

/-- Whether a number is at most another. -/
def isAtMost (a b : Value) : Except Error Bool := do
  return match ← order "<=" a b with
  | some .gt | none => false
  | _ => true

/-- What remains of a count after one was taken. -/
def decrement (v : Value) : Except Error Value :=
  match v.integer?, v with
  | some n, _ => .ok (.int (n - 1))
  | none, .double x => .ok (.double (x.addInt (-1)))
  | none, v =>
    .error (wrongType ("unsupported operand type(s) for -: '" ++ v.kindName ++ "' and 'int'"))

/-- A count with one added. -/
def increment (v : Value) : Except Error Value :=
  match v.integer?, v with
  | some n, _ => .ok (.int (n + 1))
  | none, .double x => .ok (.double (x.addInt 1))
  | none, .text _ => .error (wrongType "can only concatenate str (not \"int\") to str")
  | none, .bytes _ => .error (wrongType "can't concat int to bytes")
  | none, .list _ => .error (wrongType "'int' object is not iterable")
  | none, v =>
    .error (wrongType ("unsupported operand type(s) for +=: '" ++ v.kindName ++ "' and 'int'"))

/-- The first items of a list up to a limit. A negative limit counts from the end. -/
def takeLimit {α : Type} (limit : Value) (xs : List α) : Except Error (List α) :=
  match limit, limit.integer? with
  | .null, _ => .ok xs
  | _, some n => .ok (if 0 ≤ n then xs.take n.toNat else xs.take (xs.length - n.natAbs))
  | _, none =>
    .error (wrongType "slice indices must be integers or None or have an __index__ method")

end Value
end ProcessTriggers
