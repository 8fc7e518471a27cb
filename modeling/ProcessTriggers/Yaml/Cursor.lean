import ProcessTriggers.Error

/-!
A place in a document, and the characters that end words and lines. Line ends were brought to one
form before.
-/

namespace ProcessTriggers.Yaml

/-- What is left of a text, and how much of it is passed already. -/
structure Cursor where
  rest : List Char
  index : Nat := 0
  line : Nat := 0
  column : Nat := 0
  deriving DecidableEq, Repr

def isBreak (c : Char) : Bool := ['\n', '\x85', '\u2028', '\u2029'].contains c

/-- Spaces and tabs end a word, but only spaces may stand between words. -/
def isBlank (c : Char) : Bool := c == ' ' || c == '\t'

/-- Whether a character or the end of the text ends a line. -/
def endsLine (c : Option Char) : Bool := c.all isBreak

/-- Whether a character or the end of the text ends a line, or is a space. -/
def endsItem (c : Option Char) : Bool := c.all fun c => isBreak c || c == ' '

/-- Whether a character or the end of the text ends a word. -/
def endsWord (c : Option Char) : Bool := c.all fun c => isBreak c || isBlank c

def badWord : Error := .malformedDocument .badWord

/-- What a reader finds at a place, and the place behind it. -/
abbrev Reader (α : Type) := Cursor → Except Error (α × Cursor)

namespace Cursor

def ofText (cs : List Char) : Cursor := { rest := cs }

/-- The character so many places ahead. -/
def peek (k : Cursor) (n : Nat) : Option Char := k.rest[n]?

def next? (k : Cursor) : Option Char := k.rest.head?

/-- The place after the next character. A byte order mark takes no column. -/
def step (k : Cursor) : Cursor :=
  match k.rest with
  | [] => k
  | c :: r =>
    if isBreak c then ⟨r, k.index + 1, k.line + 1, 0⟩
    else ⟨r, k.index + 1, k.line, if c = '\ufeff' then k.column else k.column + 1⟩

/-- The place after the next `n` characters. -/
def skip : Nat → Cursor → Cursor
  | 0, k => k
  | n + 1, k => skip n k.step

/-- The longest run of characters that `p` accepts, and the place behind it. -/
def span (p : Char → Bool) (k : Cursor) : List Char × Cursor :=
  let run := k.rest.takeWhile p
  (run, k.skip run.length)

def skipWhile (p : Char → Bool) (k : Cursor) : Cursor := (k.span p).2

/-- A bound for the steps that are left. -/
def fuel (k : Cursor) : Nat := k.rest.length + 1

/-- The text of the line end that comes next, and the place behind it. -/
def break? (k : Cursor) : Option (Char × Cursor) :=
  match k.rest with
  | c :: _ => if isBreak c then some (if c = '\x85' then '\n' else c, k.step) else none
  | [] => none

/-- Whether the next characters are three of the given one, and end a word. -/
def isTripled (c : Char) (k : Cursor) : Bool := [c, c, c].isPrefixOf k.rest && endsWord (k.peek 3)

/-- Whether a line that begins here begins or ends a document. -/
def atMarker (k : Cursor) : Bool := k.isTripled '-' || k.isTripled '.'

/-- The place behind the rest of a line on which nothing but a comment may stand. -/
def endLine (k : Cursor) : Except Error Cursor :=
  let k := k.skipWhile (· == ' ')
  let k := if k.next? = some '#' then k.skipWhile (!isBreak ·) else k
  match k.rest, k.break? with
  | [], _ => .ok k
  | _, some (_, k) => .ok k
  | _, none => .error badWord

theorem skip_rest (n : Nat) (k : Cursor) : (k.skip n).rest = k.rest.drop n := by
  induction n generalizing k with
  | zero => rfl
  | succ n ih =>
    rw [skip, ih]
    unfold step
    split
    · simp [*]
    · next h => split <;> simp [h]

theorem span_append (p : Char → Bool) (k : Cursor) :
    (k.span p).1 ++ (k.span p).2.rest = k.rest := by
  rw [span, skip_rest]
  exact List.prefix_iff_eq_append.1 (List.takeWhile_prefix p)

end Cursor

/-- What line ends between words become: the first of several is dropped, a single one is a space,
and one of another kind than the usual stays. -/
def folded (first : Char) (more : List Char) : List Char :=
  if first ≠ '\n' then first :: more else if more.isEmpty then [' '] else more

end ProcessTriggers.Yaml
