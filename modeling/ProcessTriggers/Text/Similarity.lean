/-!
How alike two texts are: the share of their characters that lie in common runs. The longest common
run is taken first, then the longest ones on either side of it.
-/

namespace ProcessTriggers.Text

/-- How many characters two texts have in common at their beginnings. -/
def commonBeginning : List Char → List Char → Nat
  | a :: as, b :: bs => if a = b then commonBeginning as bs + 1 else 0
  | _, _ => 0

/-- A run that two texts have in common: where it starts in each, and its length. -/
structure CommonRun where
  left : Nat
  right : Nat
  length : Nat

/-- The longest common run, the first one if there are several. -/
def longestCommonRun (a b : List Char) : CommonRun :=
  let runs := (List.range a.length).flatMap fun i =>
    (List.range b.length).map fun j => CommonRun.mk i j (commonBeginning (a.drop i) (b.drop j))
  runs.foldl (fun best r => if best.length < r.length then r else best) ⟨0, 0, 0⟩

/-- How many characters of the first text lie in common runs. The number bounds their count. -/
def matched : Nat → List Char → List Char → Nat
  | 0, _, _ => 0
  | n + 1, a, b =>
    let r := longestCommonRun a b
    if r.length = 0 then 0
    else
      matched n (a.take r.left) (b.take r.right) + r.length +
        matched n (a.drop (r.left + r.length)) (b.drop (r.right + r.length))

/-- Whether at least three fifths of two texts lie in common runs. -/
def isSimilar (a b : String) : Bool :=
  let m := matched (a.length + 1) a.toList b.toList
  3 * (a.length + b.length) ≤ 10 * m

end ProcessTriggers.Text
