import ProcessTriggers.Value.Arithmetic

/-!
Sorting by dynamic keys. Keys may turn out to have no order among them, which is an error, or be
numbers that are less than no other; which keys are compared is therefore part of the rule. The run
at the start that is in order, or in strictly falling order and then turned around, is taken as it
is; every later item is put behind the last one of which a search by halves finds that it is not
greater.
-/

namespace ProcessTriggers.Value

/-- How many items continue a run after one with key `a`; in a falling run each is less than the one
before it, in another none is. -/
def runLength {α : Type} (key : α → Value) (falling : Bool) (a : Value) :
    List α → Except Error Nat
  | [] => .ok 0
  | x :: xs => do
    if (← isLess (key x) a) == falling then return 1 + (← runLength key falling (key x) xs)
    else return 0

/-- The run at the start of a list in rising order, and the items behind it. -/
def firstRun {α : Type} (key : α → Value) : List α → Except Error (List α × List α)
  | x :: y :: xs => do
    let falling ← isLess (key y) (key x)
    let n := 2 + (← runLength key falling (key y) xs)
    let run := (x :: y :: xs).take n
    return (if falling then run.reverse else run, (x :: y :: xs).drop n)
  | xs => .ok (xs, [])

/-- The place of a key among sorted items, at least `low` and at most `high`. The number bounds the
halvings. -/
def placeOf {α : Type} (key : α → Value) (pivot : Value) (sorted : List α) :
    Nat → Nat → Nat → Except Error Nat
  | 0, low, _ => .ok low
  | n + 1, low, high =>
    if high ≤ low then .ok low
    else
      let middle := low + (high - low) / 2
      match sorted[middle]? with
      | none => .ok low
      | some x => do
        if ← isLess pivot (key x) then placeOf key pivot sorted n low middle
        else placeOf key pivot sorted n (middle + 1) high

/-- Puts an item into a sorted list, behind those with an equal key. -/
def insertSorted {α : Type} (key : α → Value) (sorted : List α) (x : α) :
    Except Error (List α) := do
  let place ← placeOf key (key x) sorted (sorted.length + 1) 0 sorted.length
  return sorted.take place ++ x :: sorted.drop place

/-- Sorts by a key, the least first; those with equal keys keep their order. -/
def sortBy {α : Type} (key : α → Value) (xs : List α) : Except Error (List α) := do
  let (run, rest) ← firstRun key xs
  rest.foldlM (insertSorted key) run

/-- Sorts by a key, the greatest first; those with equal keys keep their order. -/
def sortNewestFirst {α : Type} (key : α → Value) (xs : List α) : Except Error (List α) := do
  return (← sortBy key xs.reverse).reverse

end ProcessTriggers.Value
