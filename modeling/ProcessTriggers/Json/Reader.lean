import ProcessTriggers.Double.Numeral
import ProcessTriggers.Text.Surrogate
import ProcessTriggers.Value.Basic

/-!
Reading JSON text. Besides the grammar of the standard the words for infinities and for what is
not a number are taken. An error tells what was left of the text where it was found.
-/

namespace ProcessTriggers.Json

inductive Fault
  | expectingValue
  | expectingKey
  | expectingColon
  | expectingComma
  | extraData
  | unterminatedString
  | controlCharacter
  | badEscape
  | badHexEscape
  | byteOrderMark
  | tooManyDigits
  deriving DecidableEq

def Fault.message : Fault → String
  | expectingValue => "Expecting value"
  | expectingKey => "Expecting property name enclosed in double quotes"
  | expectingColon => "Expecting ':' delimiter"
  | expectingComma => "Expecting ',' delimiter"
  | extraData => "Extra data"
  | unterminatedString => "Unterminated string starting at"
  | controlCharacter => "Invalid control character at"
  | badEscape => "Invalid \\escape"
  | badHexEscape => "Invalid \\uXXXX escape"
  | byteOrderMark => "Unexpected UTF-8 BOM (decode using utf-8-sig)"
  | tooManyDigits => "too many digits"

structure SyntaxError where
  fault : Fault
  rest : List Char

/-- A syntax error in a text, with the line, the column and the place of the character. -/
def SyntaxError.describe (e : SyntaxError) (text : List Char) : String :=
  let before := text.take (text.length - e.rest.length)
  let line := before.count '\n' + 1
  let column := (before.reverse.takeWhile (· ≠ '\n')).length + 1
  s!"{e.fault.message}: line {line} column {column} (char {before.length})"

def failAt {α : Type} (fault : Fault) (rest : List Char) : Except SyntaxError α :=
  .error ⟨fault, rest⟩

def isSpace (c : Char) : Bool := c == ' ' || c == '\t' || c == '\n' || c == '\r'

def skipSpace (cs : List Char) : List Char := cs.dropWhile isSpace

/-- The character that follows a backslash, for the escapes of one letter. -/
def escaped? (c : Char) : Option Char :=
  match c with
  | '"' | '\\' | '/' => some c
  | 'b' => some '\x08'
  | 'f' => some '\x0c'
  | 'n' => some '\n'
  | 'r' => some '\r'
  | 't' => some '\t'
  | _ => none

/-- Four hexadecimal digits that do not end the text. -/
def hexUnit? : List Char → Option (Nat × List Char)
  | a :: b :: c :: d :: e :: r => do
    let n ← Numeral.natOf? 16 [a, b, c, d]
    return (n, e :: r)
  | _ => none

/-- A character given by its number. Two surrogates that belong together give one character. -/
def hexEscape (cs : List Char) : Except SyntaxError (Char × List Char) :=
  match hexUnit? cs with
  | none => failAt .badHexEscape ('u' :: cs)
  | some (n, r) =>
    match r with
    | '\\' :: 'u' :: r' =>
      if Text.isHighHalf n && 4 < r'.length then
        match hexUnit? r' with
        | none => failAt .badHexEscape ('u' :: r')
        | some (m, r'') =>
          if Text.isLowHalf m then
            .ok (Text.joinHalves n m, r'')
          else .ok (Text.charOf n, r)
      else .ok (Text.charOf n, r)
    | _ => .ok (Text.charOf n, r)

/-- The characters up to the closing quote; `start` is the text from the opening quote on. The
number bounds how many characters are read. -/
def readChars (start : List Char) : Nat → List Char → Except SyntaxError (List Char × List Char)
  | 0, _ | _, [] => failAt .unterminatedString start
  | n + 1, c :: r =>
    if c = '"' then .ok ([], r)
    else if c = '\\' then
      match r with
      | [] => failAt .unterminatedString start
      | 'u' :: r' => do
        let (x, r) ← hexEscape r'
        let (xs, r) ← readChars start n r
        return (x :: xs, r)
      | e :: r' =>
        match escaped? e with
        | none => failAt .badEscape (c :: r)
        | some x => do
          let (xs, r) ← readChars start n r'
          return (x :: xs, r)
    else if c.toNat < 0x20 then failAt .controlCharacter (c :: r)
    else do
      let (xs, r) ← readChars start n r
      return (c :: xs, r)

/-- A string, from its opening quote on. -/
def readString (cs : List Char) : Except SyntaxError (String × List Char) := do
  let (xs, r) ← readChars cs cs.length (cs.drop 1)
  return (String.ofList xs, r)

/-- The digits of a number before the point: a zero alone, or digits that start with no zero. -/
def wholeDigits? : List Char → Option (List Char × List Char)
  | '0' :: r => some (['0'], r)
  | c :: r =>
    if c.isDigit then some (c :: r.takeWhile Char.isDigit, r.dropWhile Char.isDigit) else none
  | [] => none

/-- A point with digits after it. -/
def fractionDigits : List Char → List Char × List Char
  | '.' :: r =>
    let ds := r.takeWhile Char.isDigit
    if ds.isEmpty then ([], '.' :: r) else (ds, r.dropWhile Char.isDigit)
  | cs => ([], cs)

/-- An exponent with its digits. -/
def exponentPart : List Char → Option Int × List Char
  | c :: r =>
    if c == 'e' || c == 'E' then
      let (negative, body) := Numeral.takeSign r
      let ds := body.takeWhile Char.isDigit
      match Numeral.natOf? 10 ds with
      | some n => (some (if negative then -(n : Int) else n), body.dropWhile Char.isDigit)
      | none => (none, c :: r)
    else (none, c :: r)
  | [] => (none, [])

/-- A number: an integer unless it has a fraction or an exponent. -/
def readNumber (cs : List Char) : Except SyntaxError (Value × List Char) := do
  let negative := cs.head? == some '-'
  match wholeDigits? (if negative then cs.drop 1 else cs) with
  | none => failAt .expectingValue cs
  | some (ds, r) =>
    let (fs, r) := fractionDigits r
    let (e, r) := exponentPart r
    if fs.isEmpty && e.isNone then
      if Numeral.maxDigits < ds.length then failAt .tooManyDigits cs
      else
        let n : Nat := (Numeral.natOf? 10 ds).getD 0
        return (.int (if negative then -(n : Int) else n), r)
    else return (.double (Numeral.Literal.double ⟨ds ++ fs, e.getD 0 - fs.length⟩ negative), r)

/-- The values that are written as words. -/
def words : List (List Char × Value) :=
  [("null".toList, .null), ("true".toList, .bool true), ("false".toList, .bool false),
    ("NaN".toList, .double .nan), ("Infinity".toList, .double (.infinite false)),
    ("-Infinity".toList, .double (.infinite true))]

def word? (cs : List Char) : Option (Value × List Char) :=
  (words.find? fun (w, _) => w.isPrefixOf cs).map fun (w, v) => (v, cs.drop w.length)

mutual

/-- One value. The number bounds the nesting and the count of items together. -/
def readValue : Nat → List Char → Except SyntaxError (Value × List Char)
  | 0, cs => failAt .expectingValue cs
  | n + 1, cs =>
    match cs with
    | '"' :: _ => do
      let (s, r) ← readString cs
      return (.text s, r)
    | '[' :: r =>
      match skipSpace r with
      | ']' :: r => .ok (.list [], r)
      | r => do
        let (xs, r) ← readItems n r
        return (.list xs, r)
    | '{' :: r =>
      match skipSpace r with
      | '}' :: r => .ok (.object [], r)
      | r => do
        let (es, r) ← readMembers n r
        return (.object (Entries.ofPairs es), r)
    | _ =>
      match word? cs with
      | some p => .ok p
      | none => readNumber cs

/-- The items of a list up to its closing bracket. -/
def readItems : Nat → List Char → Except SyntaxError (List Value × List Char)
  | 0, cs => failAt .expectingValue cs
  | n + 1, cs => do
    let (x, r) ← readValue n cs
    match skipSpace r with
    | ']' :: r => return ([x], r)
    | ',' :: r =>
      let (xs, r) ← readItems n (skipSpace r)
      return (x :: xs, r)
    | r => failAt .expectingComma r

/-- The members of an object up to its closing brace. -/
def readMembers : Nat → List Char → Except SyntaxError (List (String × Value) × List Char)
  | 0, cs => failAt .expectingKey cs
  | n + 1, cs => do
    if cs.head? != some '"' then failAt .expectingKey cs
    let (k, r) ← readString cs
    match skipSpace r with
    | ':' :: r =>
      let (v, r) ← readValue n (skipSpace r)
      match skipSpace r with
      | '}' :: r => return ([(k, v)], r)
      | ',' :: r =>
        let (es, r) ← readMembers n (skipSpace r)
        return ((k, v) :: es, r)
      | r => failAt .expectingComma r
    | r => failAt .expectingColon r

end

/-- A whole text: one value with space around it. A byte order mark does not belong to a text. -/
def read (cs : List Char) : Except SyntaxError Value := do
  if cs.head? == some '\ufeff' then failAt .byteOrderMark cs
  let (v, r) ← readValue (cs.length + 1) (skipSpace cs)
  match skipSpace r with
  | [] => return v
  | r => failAt .extraData r

def parse? (s : String) : Option Value := (read s.toList).toOption

end ProcessTriggers.Json
