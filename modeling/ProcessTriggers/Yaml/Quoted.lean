import ProcessTriggers.Double.Numeral
import ProcessTriggers.Text.Surrogate
import ProcessTriggers.Yaml.Cursor

/-!
Scalars in quotes. Between single quotes two quotes stand for one; between double quotes a backslash
escapes characters by name or by number, and hides the end of a line.
-/

namespace ProcessTriggers.Yaml

/-- Line ends and blanks inside quotes. No document may begin or end there. The number bounds the
length. -/
def quotedBreaks : Nat → Reader (List Char)
  | 0, _ => .error badWord
  | n + 1, k =>
    if k.atMarker then .error badWord
    else
      let k := k.skipWhile isBlank
      match k.break? with
      | some (c, k) => do
        let (cs, k) ← quotedBreaks n k
        return (c :: cs, k)
      | none => .ok ([], k)

/-- What stands for the space between two words inside quotes. -/
def quotedSpace : Reader (List Char) := fun k =>
  let (blanks, k) := k.span isBlank
  match k.rest, k.break? with
  | [], _ => .error badWord
  | _, some (c, k) => do
    let (more, k) ← quotedBreaks k.fuel k
    return (folded c more, k)
  | _, none => .ok (blanks, k)

/-- The characters that are escaped by name. -/
def escapes : List (Char × Char) :=
  [('0', '\x00'), ('a', '\x07'), ('b', '\x08'), ('t', '\t'), ('\t', '\t'), ('n', '\n'),
    ('v', '\x0b'), ('f', '\x0c'), ('r', '\r'), ('e', '\x1b'), (' ', ' '), ('"', '"'),
    ('\\', '\\'), ('/', '/'), ('N', '\x85'), ('_', '\xa0'), ('L', '\u2028'), ('P', '\u2029')]

/-- How many digits the number of an escaped character has. -/
def escapeLength? : Char → Option Nat
  | 'x' => some 2
  | 'u' => some 4
  | 'U' => some 8
  | _ => none

/-- The character with a number, which must not be too large. -/
def characterOf (n : Nat) : Except Error Char :=
  if n < 0x110000 then .ok (Text.charOf n)
  else if n < 0x80000000 then .error (.foreign .invalidValue "chr() arg not in range(0x110000)")
  else .error (.foreign .outOfRange "the number of a character is too large")

/-- What is escaped by the characters after a backslash. -/
def readEscape : Reader (List Char) := fun k =>
  match k.rest, k.break? with
  | _, some (_, k) => quotedBreaks k.fuel k
  | [], none => .error badWord
  | c :: r, none =>
    match escapes.lookup c, escapeLength? c with
    | some d, _ => .ok ([d], k.step)
    | none, some n =>
      match (Numeral.natOf? 16 (r.take n)).filter fun _ => n ≤ r.length with
      | some code => do return ([← characterOf code], k.skip (n + 1))
      | none => .error badWord
    | none, none => .error badWord

/-- The rest of a scalar in quotes after the opening one. The number bounds the length. -/
def readQuoted (double : Bool) : Nat → Reader (List Char)
  | 0, _ => .error badWord
  | n + 1, k => do
    let goOn (cs : List Char) (k : Cursor) : Except Error (List Char × Cursor) := do
      let (more, k) ← readQuoted double n k
      return (cs ++ more, k)
    match k.rest with
    | [] => throw badWord
    | c :: r =>
      if isBlank c || isBreak c then
        let (space, k) ← quotedSpace k
        goOn space k
      else if double then
        if c = '"' then return ([], k.step)
        else if c = '\\' then
          let (cs, k) ← readEscape k.step
          goOn cs k
        else goOn [c] k.step
      else if c = '\'' then
        if r.head? = some '\'' then goOn [c] (k.skip 2) else return ([], k.step)
      else goOn [c] k.step

end ProcessTriggers.Yaml
