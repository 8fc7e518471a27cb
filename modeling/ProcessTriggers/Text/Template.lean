import ProcessTriggers.Double.Fixed
import ProcessTriggers.Value.Conversion

/-!
Message templates. A percent sign starts a place that an argument fills; letters say how it is
written, flags and numbers how wide and how exact.
-/

namespace ProcessTriggers.Template

/-- What fills the places: arguments in order, or a container, whose entries are named. A place
without a name takes what is pending: the container itself, or the entry that was named last. -/
inductive Arguments
  | ordered (vs : List Value)
  | named (container : Value) (pending : Option Value)

structure Place where
  left : Bool := false
  plus : Bool := false
  blank : Bool := false
  alternate : Bool := false
  zeros : Bool := false
  width : Nat := 0
  precision : Option Nat := none

def invalid (message : String) : Error := .foreign .invalidValue message

def incomplete : Error := invalid "incomplete format"

/-- The text up to the bracket that closes the one already open, and what follows it. -/
def readKey (depth : Nat) : List Char → Except Error (List Char × List Char)
  | [] => .error (invalid "incomplete format key")
  | ')' :: r =>
    match depth with
    | 0 => .ok ([], r)
    | n + 1 => do
      let (k, r) ← readKey n r
      return (')' :: k, r)
  | c :: r => do
    let (k, r) ← readKey (if c = '(' then depth + 1 else depth) r
    return (c :: k, r)

/-- The flags at the start of a text. -/
def readFlags (p : Place) : List Char → Place × List Char
  | '-' :: r => readFlags { p with left := true } r
  | '+' :: r => readFlags { p with plus := true } r
  | ' ' :: r => readFlags { p with blank := true } r
  | '#' :: r => readFlags { p with alternate := true } r
  | '0' :: r => readFlags { p with zeros := true } r
  | r => (p, r)

namespace Arguments

/-- The next argument, and those that remain. -/
def take : Arguments → Except Error (Value × Arguments)
  | .ordered (v :: vs) => .ok (v, .ordered vs)
  | .named c (some v) => .ok (v, .named c none)
  | _ => .error (Value.wrongType "not enough arguments for format string")

/-- Makes the entry of a name the next argument. The text is what follows the opening bracket. -/
def select (cs : List Char) : Arguments → Except Error (List Char × Arguments)
  | .named c _ => do
    let (k, r) ← readKey 0 cs
    return (r, .named c (some (← c.require (String.ofList k))))
  | .ordered _ => throw (Value.wrongType "format requires a mapping")

end Arguments

/-- The greatest width. -/
def maxWidth : Nat := 9223372036854775807

/-- The greatest precision. -/
def maxPrecision : Nat := 2147483647

/-- The most characters that one place may take up. -/
def maxRoom : Nat := 1000000000

def noRoom : Error := .foreign .noRoom ""

/-- A number at the start of a text, zero if there is none; a star stands for the next argument. It
must not be greater than `most`. -/
def readCount (what : String) (most : Nat) (cs : List Char) (args : Arguments) :
    Except Error (Int × List Char × Arguments) := do
  match cs with
  | '*' :: r =>
    let (v, args) ← args.take
    match v.integer? with
    | some n =>
      if most < n ∨ n < -most - 1 then
        throw (.foreign .outOfRange "an integer is too large for this place")
      return (n, r, args)
    | none => throw (Value.wrongType "* wants int")
  | _ =>
    let n : Nat := (Numeral.natOf? 10 (cs.takeWhile Char.isDigit)).getD 0
    if most < n then throw (invalid (what ++ " too big"))
    return (n, cs.dropWhile Char.isDigit, args)

/-- A place after its percent sign, the letter of its conversion, what follows, and the arguments
that are left for its value and for the next places. -/
def readPlace (cs : List Char) (args : Arguments) :
    Except Error (Place × Char × List Char × Arguments) := do
  let (cs, args) ← match cs with
    | '(' :: r => args.select r
    | r => pure (r, args)
  let (p, cs) := readFlags {} cs
  let (width, cs, args) ← readCount "width" maxWidth cs args
  let (precision, cs, args) ← match cs with
    | '.' :: r => do
      let (n, r, args) ← readCount "precision" maxPrecision r args
      pure (some n.toNat, r, args)
    | r => pure (none, r, args)
  let cs := match cs with
    | c :: r => if c = 'h' ∨ c = 'l' ∨ c = 'L' then r else c :: r
    | [] => []
  match cs with
  | [] => throw incomplete
  | c :: r =>
    return ({ p with left := p.left || width < 0, width := width.natAbs, precision }, c, r, args)

def pad (p : Place) (s : String) : String :=
  let blanks := String.ofList (List.replicate (p.width - s.length) ' ')
  if p.left then s ++ blanks else blanks ++ s

/-- A sign and digits, filled with zeros between them if asked for. -/
def padNumber (p : Place) (negative : Bool) (mark digits : String) : String :=
  let sign := if negative then "-" else if p.plus then "+" else if p.blank then " " else ""
  let short := p.width - (sign ++ mark ++ digits).length
  if p.zeros && !p.left then sign ++ mark ++ String.ofList (List.replicate short '0') ++ digits
  else pad p (sign ++ mark ++ digits)

/-- The digits of an integer, at least as many as the precision says. -/
def integerText (p : Place) (base : Nat) (capital : Bool) (mark : String) (n : Int) : String :=
  let digits := String.ofList (Nat.toDigits base n.natAbs)
  let digits := if capital then digits.map Char.toUpper else digits
  let zeros := List.replicate (p.precision.getD 0 - digits.length) '0'
  padNumber p (n < 0) (if p.alternate then mark else "") (String.ofList zeros ++ digits)

/-- The integer that a decimal place shows: a number without its fraction. -/
def wholeOf (v : Value) : Except Error Int :=
  match v.integer?, v with
  | some n, _ => .ok n
  | none, .double x => x.whole
  | none, v =>
    .error (Value.wrongType ("%d format: a real number is required, not " ++ v.shortKindName))

def integerOf (letter : Char) (v : Value) : Except Error Int :=
  match v.integer? with
  | some n => .ok n
  | none =>
    .error (Value.wrongType ("%" ++ letter.toString ++ " format: an integer is required, not " ++
      v.shortKindName))

def realOf (v : Value) : Except Error Double :=
  match v.integer?, v with
  | some n, _ => Value.nearestDouble n
  | none, .double x => .ok x
  | none, v => .error (Value.wrongType ("must be real number, not " ++ v.shortKindName))

/-- A double in the manner of a letter: `f` positional, `e` with an exponent, `g` as it fits. -/
def realText (p : Place) (letter : Char) (x : Double) : String :=
  let places := p.precision.getD 6
  let digits := match x with
    | .nan => "nan"
    | .infinite _ => "inf"
    | .finite _ m e =>
      let q : Rat := m * (2 : Rat) ^ e
      let point (s : String) : String := if p.alternate && places = 0 then s ++ "." else s
      if letter.toLower = 'f' then point (Double.fixedText q places)
      else if letter.toLower = 'g' then Double.generalText q places p.alternate
      else
        let (m, k) := Double.leadingDigits q (places + 1)
        point (Double.splitDigits m places) ++ Double.exponentText k
  padNumber p x.isNegative "" (if letter.isUpper then digits.map Char.toUpper else digits)

/-- A quoted value in which other characters than those of ASCII are escaped. -/
def asciiText (v : Value) : String :=
  String.ofList (v.quoted.toList.flatMap fun c =>
    if c.toNat < 0x80 then [c] else Text.escapeNumbered (Text.codePoint c))

def charText (v : Value) : Except Error String :=
  match v.integer?, v with
  | some n, _ =>
    if 0 ≤ n ∧ n < 0x110000 then .ok (Text.charOf n.toNat).toString
    else .error (.foreign .outOfRange "%c arg not in range(0x110000)")
  | none, .text s =>
    if s.length = 1 then .ok s else .error (Value.wrongType "%c requires int or char")
  | none, _ => .error (Value.wrongType "%c requires int or char")

/-- Whether what a place takes up is bounded. Texts are cut to the precision; numbers are filled up
to it. -/
def fits (p : Place) (letter : Char) : Bool :=
  p.width ≤ maxRoom && (['s', 'r', 'a', 'c'].contains letter || p.precision.getD 0 ≤ maxRoom)

/-- Fills one place. The position is that of the letter. -/
def fillPlace (p : Place) (letter : Char) (position : Nat) (v : Value) : Except Error String := do
  if !fits p letter then throw noRoom
  let cut (s : String) : String := pad p (match p.precision with
    | some n => String.ofList (s.toList.take n)
    | none => s)
  match letter with
  | 's' => .ok (cut v.shown)
  | 'r' => .ok (cut v.quoted)
  | 'a' => .ok (cut (asciiText v))
  | 'd' | 'i' | 'u' => (wholeOf v).map (integerText p 10 false "")
  | 'x' => (integerOf letter v).map (integerText p 16 false "0x")
  | 'X' => (integerOf letter v).map (integerText p 16 true "0X")
  | 'o' => (integerOf letter v).map (integerText p 8 false "0o")
  | 'e' | 'E' | 'f' | 'F' | 'g' | 'G' => (realOf v).map (realText p letter)
  | 'c' => (charText v).map (pad p)
  | c =>
    let shown := if 31 ≤ c.toNat ∧ c.toNat ≤ 126 then c else '?'
    .error (invalid ("unsupported format character '" ++ shown.toString ++ "' (0x" ++
      String.ofList (Nat.toDigits 16 c.toNat) ++ s!") at index {position}"))

/-- Fills the places of a text in order. The first number bounds the length of the text, `total` is
that of the whole template. -/
def fill (total : Nat) : Nat → List Char → Arguments → Except Error (List Char × Arguments)
  | 0, cs, args => .ok (cs, args)
  | n + 1, cs, args =>
    match cs with
    | [] => .ok ([], args)
    | '%' :: '%' :: r => do
      let (s, args) ← fill total n r args
      return ('%' :: s, args)
    | '%' :: r => do
      let (p, letter, r, args) ← readPlace r args
      let (v, args) ← args.take
      let s ← fillPlace p letter (total - r.length - 1) v
      let (rest, args) ← fill total n r args
      return (s.toList ++ rest, args)
    | c :: r => do
      let (s, args) ← fill total n r args
      return (c :: s, args)

/-- A template with its places filled. Arguments in order must all be used. -/
def format (template : String) (args : Arguments) : Except Error String := do
  let cs := template.toList
  let (s, left) ← fill cs.length cs.length cs args
  match args, left with
  | .ordered _, .ordered (_ :: _) =>
    throw (Value.wrongType "not all arguments converted during string formatting")
  | _, _ => return String.ofList s

end ProcessTriggers.Template
