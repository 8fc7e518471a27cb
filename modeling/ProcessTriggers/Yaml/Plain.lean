import ProcessTriggers.Yaml.Cursor

/-!
Plain scalars, which stand without quotes and may go on over several lines.
-/

namespace ProcessTriggers.Yaml

/-- Where a scalar or an entry stands: in brackets, or in a block with an indentation. -/
structure Setting where
  inFlow : Bool
  /-- The column of the block around it; none at the top. -/
  indent : Option Nat
  deriving DecidableEq, Repr

/-- The least column of what belongs to the block. -/
def Setting.inner (s : Setting) : Nat := (s.indent.map (· + 1)).getD 0

/-- Characters that structure what stands in brackets. -/
def isFlowMark (c : Char) : Bool := [',', '[', ']', '\x7b', '\x7d'].contains c

/-- Whether a plain scalar goes on with the first of these characters. -/
def continuesPlain (inFlow : Bool) : List Char → Bool
  | [] => false
  | c :: r =>
    if isBreak c || isBlank c then false
    else if c = ':' then !endsWord r.head? && !(inFlow && r.head?.any isFlowMark)
    else !(inFlow && (isFlowMark c || c == '?'))

/-- How many characters of a plain scalar come before a blank or a mark. -/
def plainLength (inFlow : Bool) : List Char → Nat
  | [] => 0
  | c :: r => if continuesPlain inFlow (c :: r) then plainLength inFlow r + 1 else 0

/-- Line ends and spaces after a line end, up to a line that begins or ends a document. The number
bounds the length; true if such a line was met. -/
def plainBreaks : Nat → Cursor → List Char × Bool × Cursor
  | 0, k => ([], false, k)
  | n + 1, k =>
    match k.break? with
    | some (c, k) =>
      if k.atMarker then ([c], true, k)
      else
        let (cs, met, k) := plainBreaks n k
        (c :: cs, met, k)
    | none => if k.next? = some ' ' then plainBreaks n k.step else ([], false, k)

/-- What stands for the space between two words of a plain scalar, whether a line ended in it, and
the place behind it. -/
def plainSpace (k : Cursor) : List Char × Bool × Cursor :=
  let (spaces, k) := k.span (· == ' ')
  match k.break? with
  | none => (spaces, false, k)
  | some (c, k) =>
    if k.atMarker then ([], true, k)
    else
      let (more, met, k) := plainBreaks k.fuel k
      (if met then [] else folded c more, true, k)

/-- A plain scalar from a place inside it, whether it ended with a line, and the place behind it.
The number bounds the words, and `ended` tells of a line end before the first. -/
def readPlain (s : Setting) : Nat → Bool → Cursor → List Char × Bool × Cursor
  | 0, ended, k => ([], ended, k)
  | n + 1, ended, k =>
    let length := plainLength s.inFlow k.rest
    if k.next? = some '#' || length = 0 then ([], ended, k)
    else
      let word := k.rest.take length
      let (space, ended, k) := plainSpace (k.skip length)
      if space.isEmpty || k.next? = some '#' || (!s.inFlow && k.column < s.inner) then
        (word, ended, k)
      else
        match readPlain s n ended k with
        | ([], ended, k) => (word, ended, k)
        | (more, ended, k) => (word ++ space ++ more, ended, k)

end ProcessTriggers.Yaml
