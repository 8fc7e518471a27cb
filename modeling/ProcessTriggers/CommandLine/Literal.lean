import ProcessTriggers.Text.Search

/-!
Literals in the parameters of a tag: numbers, texts, bytes, constants, and collections of them. Only
whether a text is such a literal matters here, so that a literal is read for its kind alone.
-/

namespace ProcessTriggers.CommandLine

inductive Literal
  /-- A number, whether it is imaginary, and whether it carries a sign. -/
  | number (imaginary signed : Bool)
  | text
  | bytes
  /-- Any other value that may be a key. -/
  | plain
  /-- A collection that may not be a key. -/
  | collection
  deriving DecidableEq, Repr

namespace Literal

/-- What is read, and the text behind it. -/
abbrev Reader := List Char → Option (Literal × List Char)

def isGap (c : Char) : Bool := c == ' ' || c == '\t' || c == '\x0c'

def skip (cs : List Char) : List Char := cs.dropWhile isGap

/-- Digits, which single underscores may set apart. -/
def digits (isDigit : Char → Bool) : List Char → List Char × List Char
  | [] => ([], [])
  | c :: r =>
    if isDigit c then
      match r with
      | '_' :: d :: s =>
        if isDigit d then (c :: (digits isDigit (d :: s)).1, (digits isDigit (d :: s)).2)
        else ([c], r)
      | r => (c :: (digits isDigit r).1, (digits isDigit r).2)
    else ([], c :: r)

/-- What follows an exponent, if there is one. -/
def exponent? (cs : List Char) : Option (List Char) :=
  match cs with
  | e :: r =>
    if e == 'e' || e == 'E' then
      let unsigned := match r with
        | s :: r => if s == '+' || s == '-' then r else s :: r
        | [] => []
      match digits Char.isDigit unsigned with
      | ([], _) => none
      | (_, rest) => some rest
    else none
  | [] => none

def isHexDigit (c : Char) : Bool := c.isDigit || ('a' ≤ c.toLower && c.toLower ≤ 'f')

/-- The digits of a base by the letter that announces it. -/
def baseDigit? (c : Char) : Option (Char → Bool) :=
  if c.toLower == 'x' then some isHexDigit
  else if c.toLower == 'o' then some fun c => '0' ≤ c && c ≤ '7'
  else if c.toLower == 'b' then some fun c => c == '0' || c == '1'
  else none

/-- A number. A whole one starts with zero only if all its digits are zeros. -/
def readDecimal : Reader := fun cs =>
  let (whole, r) := digits Char.isDigit cs
  let (fraction, r, pointed) := match r with
    | '.' :: r => ((digits Char.isDigit r).1, (digits Char.isDigit r).2, true)
    | r => ([], r, false)
  if whole.isEmpty && fraction.isEmpty then none
  else
    let (r, pointed) := match exponent? r with
      | some r => (r, true)
      | none => (r, pointed)
    match r with
    | j :: r' =>
      if j == 'j' || j == 'J' then some (number true false, r')
      else if pointed || whole.head? ≠ some '0' || whole.all (· == '0') then
        some (number false false, r)
      else none
    | [] =>
      if pointed || whole.head? ≠ some '0' || whole.all (· == '0') then
        some (number false false, [])
      else none

def readNumber : Reader := fun cs =>
  match cs with
  | '0' :: c :: r =>
    match baseDigit? c with
    | some isDigit =>
      match digits isDigit (if r.head? = some '_' then r.drop 1 else r) with
      | ([], _) => none
      | (_, rest) => some (number false false, rest)
    | none => readDecimal cs
  | cs => readDecimal cs

/-- What follows the closing quotes of a text in quotes; a backslash hides the character after
it. -/
def closeQuotes (quotes : List Char) : List Char → Option (List Char × List Char)
  | [] => none
  | '\\' :: c :: r => (closeQuotes quotes r).map fun (body, rest) => ('\\' :: c :: body, rest)
  | c :: r =>
    if quotes.isPrefixOf (c :: r) then some ([], (c :: r).drop quotes.length)
    else if c = '\n' && quotes.length = 1 then none
    else (closeQuotes quotes r).map fun (body, rest) => (c :: body, rest)

/-- The kinds of quoted literals by the letters before the quotes. -/
def quotedKind? (letters : List Char) : Option Literal :=
  let word := String.ofList (letters.map Char.toLower)
  if ["", "r", "u"].contains word then some text
  else if ["b", "br", "rb"].contains word then some bytes
  else none

/-- One text or run of bytes in single, double, or threefold quotes. -/
def readQuoted : Reader := fun cs => do
  let kind ← quotedKind? (cs.takeWhile Char.isAlpha)
  let rest := cs.dropWhile Char.isAlpha
  let q ← rest.head?
  guard (q = '\'' ∨ q = '"')
  let quotes := if [q, q, q].isPrefixOf rest then [q, q, q] else [q]
  let (body, rest) ← closeQuotes quotes (rest.drop quotes.length)
  guard (kind = text ∨ body.all (·.toNat < 128))
  return (kind, rest)

/-- Quoted literals of one kind that follow one another. The number bounds their count. -/
def readAllQuoted : Nat → Reader
  | 0, cs => readQuoted cs
  | n + 1, cs => do
    let (kind, rest) ← readQuoted cs
    match (skip rest).dropWhile Char.isAlpha with
    | q :: _ =>
      if q == '\'' || q == '"' then
        let (next, rest) ← readAllQuoted n (skip rest)
        guard (next = kind)
        return (kind, rest)
      else return (kind, rest)
    | [] => return (kind, rest)

def readConstant : Reader := fun cs =>
  let isInside (c : Char) : Bool := c.isAlphanum || c == '_'
  let word := String.ofList (cs.takeWhile isInside)
  let rest := cs.dropWhile isInside
  if ["True", "False", "None"].contains word then some (plain, rest)
  else if word = "set" then
    match skip rest with
    | '(' :: r =>
      match skip r with
      | ')' :: r => some (collection, r)
      | _ => none
    | _ => none
  else none

def negated : Literal → Option Literal
  | number imaginary false => some (number imaginary true)
  | _ => none

/-- A real number and an imaginary one make a number that takes no further sign or part. -/
def joined : Literal → Literal → Option Literal
  | number false _, number true false => some plain
  | _, _ => none

def isKey (l : Literal) : Bool := l != collection

mutual

/-- A literal with its signs, or a sum. The number bounds the depth and the length. -/
def readSum : Nat → Reader
  | 0, _ => none
  | n + 1, cs => do
    let (left, rest) ← readSigned n (skip cs)
    match skip rest with
    | s :: r =>
      if s == '+' || s == '-' then
        let (right, rest) ← readSigned n (skip r)
        return (← joined left right, skip rest)
      else return (left, s :: r)
    | [] => return (left, [])

def readSigned : Nat → Reader
  | 0, _ => none
  | n + 1, cs =>
    match cs with
    | s :: r =>
      if s == '+' || s == '-' then do
        let (l, rest) ← readSigned n (skip r)
        return (← negated l, rest)
      else readAtom n cs
    | [] => none

def readAtom : Nat → Reader
  | 0, _ => none
  | n + 1, cs =>
    match cs with
    | '(' :: r =>
      match skip r with
      | ')' :: r => some (plain, r)
      | r => do
        let (ls, alone, rest) ← readItems n (some false) r
        guard (rest.head? = some ')')
        match ls, alone with
        | [l], true => return (l, rest.drop 1)
        | ls, _ => return (if ls.all isKey then plain else collection, rest.drop 1)
    | '\x7b' :: r =>
      match skip r with
      | '\x7d' :: r => some (collection, r)
      | r => do
        let (ls, _, rest) ← readItems n none r
        guard (ls.all isKey ∧ rest.head? = some '\x7d')
        return (collection, rest.drop 1)
    | '.' :: '.' :: '.' :: r => some (plain, r)
    | c :: _ =>
      if c.isDigit || c == '.' then readNumber cs
      else (readAllQuoted n cs).or (readConstant cs)
    | [] => none

/-- Literals with commas between them and possibly one after the last, whether a single one stands
without a comma, and what follows. Either all are keys with values after colons or none is; what
they must be is known from the first one on. -/
def readItems : Nat → Option Bool → List Char → Option (List Literal × Bool × List Char)
  | 0, _, _ => none
  | n + 1, keyed, cs => do
    let (l, rest) ← readSum n cs
    let isKeyed := rest.head? == some ':'
    guard (keyed.all (· == isKeyed))
    let rest ← if isKeyed then (readSum n (rest.drop 1)).map (·.2) else some rest
    match rest with
    | ',' :: r =>
      match skip r with
      | c :: r =>
        if [')', '\x7d', '#'].contains c then return ([l], false, c :: r)
        else
          let (ls, _, rest) ← readItems n (some isKeyed) (c :: r)
          return (l :: ls, false, rest)
      | [] => return ([l], false, [])
    | rest => return ([l], true, rest)

end

/-- Whether a text is a literal, or literals with commas between them. -/
def isLiteral (cs : List Char) : Bool :=
  match readItems (4 * cs.length + 8) (some false) cs with
  | some (_, _, rest) =>
    match skip rest with
    | [] => true
    | c :: _ => c == '#'
  | none => false

end Literal
end ProcessTriggers.CommandLine
