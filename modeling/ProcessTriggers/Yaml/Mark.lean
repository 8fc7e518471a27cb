import ProcessTriggers.Double.Numeral
import ProcessTriggers.Text.Utf8
import ProcessTriggers.Yaml.Cursor

/-!
Names that stand before a node or at the beginning of a document: anchors and aliases, tags, and
directives.
-/

namespace ProcessTriggers.Yaml

/-- A tag as it is written: an optional handle that stands for a beginning, and what follows it. -/
structure TagName where
  handle : Option String
  suffix : String
  deriving DecidableEq, Repr

inductive Directive
  /-- The first number of the version that a document asks for. -/
  | version (major : Nat)
  /-- A handle and the beginning that it stands for. -/
  | handle (name start : String)
  | other
  deriving DecidableEq, Repr

def isNameChar (c : Char) : Bool := c.isAlphanum || c == '-' || c == '_'

/-- The name of an anchor or an alias after its mark. -/
def readName : Reader String := fun k =>
  let (name, k) := k.span isNameChar
  let ends := k.next?.all fun c => isBreak c || isBlank c || "?:,]\x7d%@\x60".toList.contains c
  if name.isEmpty || !ends then .error badWord else .ok (String.ofList name, k)

/-- Characters that a tag may hold as they are. -/
def isTagChar (c : Char) : Bool := c.isAlphanum || "-;/?:@&=+$,_.!~*'()[]".toList.contains c

/-- Bytes that are written as percent signs with two digits each. The number bounds their count. -/
def readBytes : Nat → Reader (List UInt8)
  | 0, k => .ok ([], k)
  | n + 1, k =>
    match k.rest with
    | '%' :: a :: b :: _ =>
      match Numeral.natOf? 16 [a, b] with
      | some byte => do
        let (more, k) ← readBytes n (k.skip 3)
        return (byte.toUInt8 :: more, k)
      | none => .error badWord
    | '%' :: _ => .error badWord
    | _ => .ok ([], k)

/-- The characters of a tag, some of them written as bytes. The number bounds the length. -/
def readTagChars : Nat → Reader (List Char)
  | 0, k => .ok ([], k)
  | n + 1, k =>
    match k.next? with
    | none => .ok ([], k)
    | some c =>
      if c = '%' then do
        let (bytes, k) ← readBytes n k
        match Text.decodeUtf8? bytes with
        | none => throw badWord
        | some s =>
          let (more, k) ← readTagChars n k
          return (s.toList ++ more, k)
      else if isTagChar c then do
        let (more, k) ← readTagChars n k.step
        return (c :: more, k)
      else .ok ([], k)

/-- What follows the handle of a tag. -/
def readTagText : Reader String := fun k => do
  let (cs, after) ← readTagChars k.fuel k
  if after.index = k.index then throw badWord
  return (String.ofList cs, after)

/-- A handle: an exclamation mark, alone or with a name and another one. A space ends it too. -/
def readHandle : Reader String := fun k =>
  match k.rest with
  | '!' :: ' ' :: _ => .ok ("!", k.step)
  | '!' :: r =>
    let name := r.takeWhile isNameChar
    if r[name.length]? = some '!' then
      .ok (String.ofList ('!' :: name ++ ['!']), k.skip (name.length + 2))
    else .error badWord
  | _ => .error badWord

/-- Whether another exclamation mark stands in the word that comes next. -/
def hasHandle (cs : List Char) : Bool :=
  (cs.takeWhile fun c => !isBreak c && c != ' ').contains '!'

/-- A tag: verbatim in angle brackets, an exclamation mark alone, or with a handle. -/
def readTag : Reader TagName := fun k => do
  let (tag, k) ← match k.peek 1 with
    | some '<' => do
      let (suffix, k) ← readTagText (k.skip 2)
      if k.next? ≠ some '>' then throw badWord
      pure (TagName.mk none suffix, k.step)
    | c =>
      if endsWord c then pure (TagName.mk none "!", k.step)
      else do
        let (handle, k) ← if hasHandle (k.rest.drop 1) then readHandle k else pure ("!", k.step)
        let (suffix, k) ← readTagText k
        pure (TagName.mk (some handle) suffix, k)
  if endsItem k.next? then return (tag, k) else throw badWord

def readNumber : Reader Nat := fun k =>
  let (digits, k) := k.span Char.isDigit
  match Numeral.natOf? 10 digits with
  | some n => .ok (n, k)
  | none => .error badWord

/-- What a directive says after its name. -/
def readDirectiveValue (name : String) : Reader Directive := fun k => do
  let start := k.skipWhile (· == ' ')
  if name = "YAML" then
    let (major, k) ← readNumber start
    if k.next? ≠ some '.' then throw badWord
    let (_, k) ← readNumber k.step
    if endsItem k.next? then return (.version major, k) else throw badWord
  else if name = "TAG" then
    let (handle, k) ← readHandle start
    if k.next? ≠ some ' ' then throw badWord
    let (start, k) ← readTagText (k.skipWhile (· == ' '))
    if endsItem k.next? then return (.handle handle start, k) else throw badWord
  else return (.other, k.skipWhile (!isBreak ·))

/-- A directive, with the line that it fills. -/
def readDirective : Reader Directive := fun k => do
  let (name, k) := k.step.span isNameChar
  if name.isEmpty || !endsItem k.next? then throw badWord
  let (directive, k) ← readDirectiveValue (String.ofList name) k
  return (directive, ← k.endLine)

end ProcessTriggers.Yaml
