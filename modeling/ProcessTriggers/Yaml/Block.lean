import ProcessTriggers.Yaml.Cursor

/-!
Block scalars: indented lines after a bar, which keeps the line ends, or after a greater sign, which
folds them.
-/

namespace ProcessTriggers.Yaml

/-- What becomes of the line ends at the end of a block scalar: one stays, none, or all. -/
inductive Chomping
  | clip
  | strip
  | keep
  deriving DecidableEq, Repr

def chomping? : Char → Option Chomping
  | '+' => some .keep
  | '-' => some .strip
  | _ => none

/-- An indentation of one to nine, if a digit comes next. -/
def readIncrement (k : Cursor) : Except Error (Option Nat × Cursor) :=
  match k.next? with
  | some c =>
    if c = '0' then .error badWord
    else if c.isDigit then .ok (some (c.toNat - 48), k.step)
    else .ok (none, k)
  | none => .ok (none, k)

/-- The indicators behind the mark of a block scalar, in either order. -/
def readIndicators (k : Cursor) : Except Error (Chomping × Option Nat × Cursor) := do
  let chomping (k : Cursor) : Option Chomping × Cursor :=
    match k.next?.bind chomping? with
    | some c => (some c, k.step)
    | none => (none, k)
  let (before, k) := chomping k
  let (increment, k) ← readIncrement k
  let (after, k) := if before.isNone && increment.isSome then chomping k else (none, k)
  if endsItem k.next? then return (((before.or after).getD .clip), increment, k)
  else throw badWord

/-- Spaces up to a column. -/
def skipIndent (indent : Nat) (k : Cursor) : Cursor :=
  k.skip (min (k.rest.takeWhile (· == ' ')).length (indent - k.column))

/-- The line ends before the next line that is not empty, with the place where its text begins. The
number bounds the length. -/
def blockBreaks (indent : Nat) : Nat → Cursor → List Char × Cursor
  | 0, k => ([], k)
  | n + 1, k =>
    let k := skipIndent indent k
    match k.break? with
    | some (c, k) =>
      let (cs, k) := blockBreaks indent n k
      (c :: cs, k)
    | none => ([], k)

/-- The line ends before the first line that is not empty, and the greatest column that spaces
reach. -/
def firstBreaks : Nat → Cursor → List Char × Nat × Cursor
  | 0, k => ([], 0, k)
  | n + 1, k =>
    match k.break? with
    | some (c, k) =>
      let (cs, column, k) := firstBreaks n k
      (c :: cs, column, k)
    | none =>
      if k.next? = some ' ' then
        let (cs, column, k') := firstBreaks n k.step
        (cs, max column k.step.column, k')
      else ([], 0, k)

/-- The lines of a block scalar, from one that belongs to it on, the line end after the last and the
ones after that. The number bounds the lines. -/
def blockLines (folds : Bool) (indent : Nat) :
    Nat → Cursor → List Char × List Char × List Char × Cursor
  | 0, k => ([], [], [], k)
  | n + 1, k =>
    let isDeeper (k : Cursor) : Bool := k.next?.any isBlank
    let deeper := isDeeper k
    let (line, k) := k.span (!isBreak ·)
    let (lineEnd, k) := match k.break? with
      | some (c, k) => ([c], k)
      | none => ([], k)
    let (breaks, k) := blockBreaks indent k.fuel k
    if k.column = indent && !k.rest.isEmpty then
      let between :=
        if folds && lineEnd == ['\n'] && !deeper && !isDeeper k then
          if breaks.isEmpty then [' '] else []
        else lineEnd
      let (more, lastEnd, tail, k) := blockLines folds indent n k
      (line ++ between ++ breaks ++ more, lastEnd, tail, k)
    else (line, lineEnd, breaks, k)

/-- A block scalar after its mark, in a block whose inner column is at least `inner`. -/
def readBlock (folds : Bool) (inner : Nat) : Reader (List Char) := fun k => do
  let (chomping, increment, k) ← readIndicators k
  let k ← k.endLine
  let least := max inner 1
  let (breaks, indent, k) := match increment with
    | some n =>
      let (breaks, k) := blockBreaks (least + n - 1) k.fuel k
      (breaks, least + n - 1, k)
    | none =>
      let (breaks, column, k) := firstBreaks k.fuel k
      (breaks, max least column, k)
  let (text, lineEnd, tail, k) :=
    if k.column = indent && !k.rest.isEmpty then
      let (text, lineEnd, tail, k) := blockLines folds indent k.fuel k
      (breaks ++ text, lineEnd, tail, k)
    else ([], [], breaks, k)
  return (match chomping with
    | .clip => (text ++ lineEnd, k)
    | .strip => (text, k)
    | .keep => (text ++ lineEnd ++ tail, k))

end ProcessTriggers.Yaml
