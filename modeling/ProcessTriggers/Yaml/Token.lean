import ProcessTriggers.Yaml.Block
import ProcessTriggers.Yaml.Mark
import ProcessTriggers.Yaml.Plain
import ProcessTriggers.Yaml.Quoted

/-!
The tokens of a document. Blocks begin and end where the indentation changes. What may be a key is
held back until it is known whether a colon follows it on its line.
-/

namespace ProcessTriggers.Yaml

inductive Token
  | directive (d : Directive)
  | documentStart
  | documentEnd
  | blockSequence
  | blockMapping
  | blockEnd
  | flowSequence
  | flowSequenceEnd
  | flowMapping
  | flowMappingEnd
  | blockEntry
  | flowEntry
  | key
  | value
  /-- The name of an anchor that came before. -/
  | reference (name : String)
  | anchor (name : String)
  | tag (t : TagName)
  | scalar (text : String) (isPlain : Bool)
  deriving DecidableEq, Repr

/-- A place where a key may have begun, and the number of its first token. -/
structure PossibleKey where
  number : Nat
  /-- Whether nothing but a key can stand there. -/
  required : Bool
  place : Cursor

/-- How far a text is cut into tokens. -/
structure Lexer where
  place : Cursor
  /-- How deep the brackets are; below zero after too many closing ones. -/
  depth : Int := 0
  /-- The columns of the blocks, the innermost first. -/
  indents : List Nat := []
  keyAllowed : Bool := true
  /-- The keys that are possible, by the depth of the brackets. -/
  keys : List (Int × PossibleKey) := []
  /-- How many tokens were handed on. -/
  taken : Nat := 0
  /-- The tokens that are held back. -/
  held : List Token := []
  ended : Bool := false

namespace Lexer

def inFlow (l : Lexer) : Bool := l.depth != 0

def setting (l : Lexer) : Setting := ⟨l.inFlow, l.indents.head?⟩

def emit (l : Lexer) (t : Token) : Lexer := { l with held := l.held ++ [t] }

/-- Goes on behind some characters that are a token. -/
def emitMark (l : Lexer) (t : Token) (length : Nat) : Lexer :=
  { l.emit t with place := l.place.skip length }

/-- The most characters that a key may have. -/
def keyLimit : Nat := 1024

/-- Keys end on their line and are not too long. One that is required must not be given up. -/
def dropStale (l : Lexer) : Except Error Lexer :=
  let isStale (k : PossibleKey) : Bool :=
    k.place.line != l.place.line || keyLimit < l.place.index - k.place.index
  if l.keys.any fun (_, k) => isStale k && k.required then .error badWord
  else .ok { l with keys := l.keys.filter fun (_, k) => !isStale k }

/-- Gives up the key that is possible at this depth. -/
def dropKey (l : Lexer) : Except Error Lexer :=
  match l.keys.lookup l.depth with
  | some k =>
    if k.required then .error badWord
    else .ok { l with keys := l.keys.filter (·.1 ≠ l.depth) }
  | none => .ok l

/-- Notes that the next token may begin a key. -/
def noteKey (l : Lexer) : Except Error Lexer :=
  if l.keyAllowed then do
    let required := !l.inFlow && l.indents.head? == some l.place.column
    let key : PossibleKey := ⟨l.taken + l.held.length, required, l.place⟩
    let l ← l.dropKey
    return { l with keys := (l.depth, key) :: l.keys }
  else .ok l

/-- Ends the blocks that are indented more than a column; all of them if there is none. -/
def endBlocks (column : Option Nat) (l : Lexer) : Lexer :=
  if l.inFlow then l
  else
    let isInner (i : Nat) : Bool := column.all (· < i)
    { l with
      held := l.held ++ (l.indents.takeWhile isInner).map fun _ => .blockEnd
      indents := l.indents.dropWhile isInner }

/-- Whether a column is further in than the innermost block. -/
def isDeeper (l : Lexer) (column : Nat) : Bool := l.indents.head?.all (· < column)

/-- Begins a block at the present column, if that is further in. -/
def beginBlock (l : Lexer) (t : Token) : Lexer :=
  if l.isDeeper l.place.column then
    { l.emit t with indents := l.place.column :: l.indents }
  else l

/-- Goes to the next token: over spaces, comments and line ends, after which a key may begin. The
number bounds the length. -/
def toNext : Nat → Lexer → Lexer
  | 0, l => l
  | n + 1, l =>
    let k := l.place.skipWhile (· == ' ')
    let k := if k.next? = some '#' then k.skipWhile (!isBreak ·) else k
    match k.break? with
    | some (_, k) => toNext n { l with place := k, keyAllowed := l.keyAllowed || !l.inFlow }
    | none => { l with place := k }

/-- A token for which all blocks end: nothing before it can be a key. -/
def breakOff (l : Lexer) : Except Error Lexer := do
  let l ← (l.endBlocks none).dropKey
  return { l with keyAllowed := false }

def readEnd (l : Lexer) : Except Error Lexer := do
  return { ← l.breakOff with keys := [], ended := true }

def openFlow (l : Lexer) (t : Token) : Except Error Lexer := do
  let l ← l.noteKey
  return { l.emitMark t 1 with depth := l.depth + 1, keyAllowed := true }

def closeFlow (l : Lexer) (t : Token) : Except Error Lexer := do
  let l ← l.dropKey
  return { l.emitMark t 1 with depth := l.depth - 1, keyAllowed := false }

def readFlowEntry (l : Lexer) : Except Error Lexer := do
  let l ← l.dropKey
  return { l.emitMark .flowEntry 1 with keyAllowed := true }

def readBlockEntry (l : Lexer) : Except Error Lexer := do
  if !l.inFlow && !l.keyAllowed then throw badWord
  let l ← (if l.inFlow then l else l.beginBlock .blockSequence).dropKey
  return { l.emitMark .blockEntry 1 with keyAllowed := true }

def readKey (l : Lexer) : Except Error Lexer := do
  if !l.inFlow && !l.keyAllowed then throw badWord
  let l ← (if l.inFlow then l else l.beginBlock .blockMapping).dropKey
  return { l.emitMark .key 1 with keyAllowed := !l.inFlow }

/-- A colon that makes a key of what came before. The key may begin a block. -/
def readValueOf (l : Lexer) (k : PossibleKey) : Lexer :=
  let begins := !l.inFlow && l.isDeeper k.place.column
  let marks : List Token := if begins then [.blockMapping, .key] else [.key]
  let before := k.number - l.taken
  let l := { l with
    keys := l.keys.filter (·.1 ≠ l.depth)
    held := l.held.take before ++ marks ++ l.held.drop before
    indents := if begins then k.place.column :: l.indents else l.indents
    keyAllowed := false }
  l.emitMark .value 1

def readValue (l : Lexer) : Except Error Lexer :=
  match l.keys.lookup l.depth with
  | some k => .ok (l.readValueOf k)
  | none => do
    if !l.inFlow && !l.keyAllowed then throw badWord
    let l := if l.inFlow then l else l.beginBlock .blockMapping
    let l ← { l with keyAllowed := !l.inFlow }.dropKey
    return l.emitMark .value 1

/-- A token that may be a key, or the beginning of one. -/
def readKeyPart {α : Type} (l : Lexer) (read : Reader α) (token : α → Token) :
    Except Error Lexer := do
  let l ← l.noteKey
  let (a, place) ← read l.place
  return { l.emit (token a) with place, keyAllowed := false }

def readQuotedScalar (l : Lexer) (double : Bool) : Except Error Lexer :=
  l.readKeyPart (fun k => readQuoted double k.fuel k.step) fun cs =>
    .scalar (String.ofList cs) false

def readBlockScalar (l : Lexer) (folds : Bool) : Except Error Lexer := do
  let l ← { l with keyAllowed := true }.dropKey
  let (cs, place) ← readBlock folds l.setting.inner l.place.step
  return { l.emit (.scalar (String.ofList cs) false) with place }

def readPlainScalar (l : Lexer) : Except Error Lexer := do
  let l ← l.noteKey
  let (cs, ended, place) := readPlain l.setting l.place.fuel false l.place
  return { l.emit (.scalar (String.ofList cs) true) with place, keyAllowed := ended }

/-- Characters that cannot begin a plain scalar. -/
def indicators : List Char := "-?:,[]\x7b\x7d#&*!|>'\"%@\x60".toList

/-- Whether a plain scalar begins here. A dash may begin one before anything but a blank, and so may
a question mark or a colon outside brackets. -/
def beginsPlain (l : Lexer) (c : Char) : Bool :=
  (!isBreak c && !isBlank c && !indicators.contains c) ||
    (!endsWord (l.place.peek 1) && (c == '-' || (!l.inFlow && (c == '?' || c == ':'))))

/-- Whether a mark stands alone, as it must outside brackets. -/
def standsAlone (l : Lexer) : Bool := l.inFlow || endsWord (l.place.peek 1)

/-- Reads the token that begins with a character. -/
def readToken (l : Lexer) (c : Char) : Except Error Lexer :=
  let atStart := l.place.column = 0
  if c = '%' && atStart then do
    let l ← l.breakOff
    let (d, place) ← readDirective l.place
    return { l.emit (.directive d) with place }
  else if atStart && l.place.isTripled '-' then do return (← l.breakOff).emitMark .documentStart 3
  else if atStart && l.place.isTripled '.' then do return (← l.breakOff).emitMark .documentEnd 3
  else if c = '[' then l.openFlow .flowSequence
  else if c = '\x7b' then l.openFlow .flowMapping
  else if c = ']' then l.closeFlow .flowSequenceEnd
  else if c = '\x7d' then l.closeFlow .flowMappingEnd
  else if c = ',' then l.readFlowEntry
  else if c = '-' && endsWord (l.place.peek 1) then l.readBlockEntry
  else if c = '?' && l.standsAlone then l.readKey
  else if c = ':' && l.standsAlone then l.readValue
  else if c = '*' then l.readKeyPart (readName ·.step) .reference
  else if c = '&' then l.readKeyPart (readName ·.step) .anchor
  else if c = '!' then l.readKeyPart readTag .tag
  else if c = '|' && !l.inFlow then l.readBlockScalar false
  else if c = '>' && !l.inFlow then l.readBlockScalar true
  else if c = '\'' then l.readQuotedScalar false
  else if c = '"' then l.readQuotedScalar true
  else if l.beginsPlain c then l.readPlainScalar
  else .error badWord

/-- Reads one more token, after the ends of the blocks that it leaves. -/
def advance (l : Lexer) : Except Error Lexer := do
  let l ← (l.toNext l.place.fuel).dropStale
  let l := l.endBlocks (some l.place.column)
  match l.place.next? with
  | none => l.readEnd
  | some c => l.readToken c

/-- Whether the first token that is held back may turn out to be a key. -/
def awaitsColon (l : Lexer) : Bool :=
  (l.keys.map fun (_, k) => k.number).min? == some l.taken

/-- The tokens in the order in which they can be handed on, and the fault that comes after them, if
there is one. The number bounds the steps. -/
def run : Nat → Lexer → List Token × Option Error
  | 0, _ => ([], none)
  | n + 1, l =>
    let handOn (l : Lexer) (t : Token) (held : List Token) : List Token × Option Error :=
      let (ts, fault) := run n { l with held, taken := l.taken + 1 }
      (t :: ts, fault)
    let goOn (l : Lexer) : List Token × Option Error :=
      match l.advance with
      | .ok l => run n l
      | .error e => ([], some e)
    match l.held with
    | [] => if l.ended then ([], none) else goOn l
    | t :: held =>
      if l.ended then handOn l t held
      else match l.dropStale with
        | .error e => ([], some e)
        | .ok l => if l.awaitsColon then goOn l else handOn l t held

end Lexer

/-- The tokens of a text. A byte order mark at its beginning is passed over. -/
def Token.ofText (cs : List Char) : List Token × Option Error :=
  let place := Cursor.ofText cs
  let place := if place.next? = some '\ufeff' then place.step else place
  Lexer.run (8 * (cs.length + 2)) { place }

end ProcessTriggers.Yaml
