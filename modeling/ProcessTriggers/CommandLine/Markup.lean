import ProcessTriggers.CommandLine.Literal
import ProcessTriggers.CommandLine.Picture
import ProcessTriggers.CommandLine.Style

/-!
Messages for the terminal may hold style tags in square brackets, and pictographs by name. A plain
terminal shows no styles; a tag that closes what is not open is an error, and so is one that names
an action whose parameters are no literal.
-/

namespace ProcessTriggers.CommandLine

/-- A part of a message: what is shown, or the inside of a tag. -/
inductive Piece
  | shown (cs : List Char)
  | tag (cs : List Char)
  deriving DecidableEq, Repr

/-- The inside of a tag after its opening bracket, and what follows the tag. -/
def readTag? : List Char → Option (List Char × List Char)
  | [] => none
  | c :: r =>
    if c.isLower || c == '#' || c == '/' || c == '@' then
      let isInside (c : Char) : Bool := c != ']' && c != '['
      match r.dropWhile isInside with
      | ']' :: rest => some (c :: r.takeWhile isInside, rest)
      | _ => none
    else none

/-- Characters up to the next tag, and the pieces from there on, as pieces. -/
def Piece.join (run : List Char × List Piece) : List Piece :=
  if run.1.isEmpty then run.2 else .shown run.1 :: run.2

/-- The characters of a message up to its first tag, and the pieces from there on. Of two
backslashes before a tag one is shown, and one alone shows the tag as it is written; before another
bracket one is dropped. The number bounds the length. -/
def Piece.run : Nat → List Char → List Char × List Piece
  | 0, cs => (cs, [])
  | n + 1, cs =>
    let slashes := (cs.takeWhile (· == '\\')).length
    match cs.dropWhile (· == '\\') with
    | '[' :: r =>
      match readTag? r with
      | some (inside, rest) =>
        let here := if slashes % 2 = 1 then shown ('[' :: inside ++ [']']) else .tag inside
        ([], Piece.join (List.replicate (slashes / 2) '\\', here :: Piece.join (run n rest)))
      | none =>
        let (cs, ps) := run n r
        (List.replicate (slashes - 1) '\\' ++ '[' :: cs, ps)
    | c :: r =>
      let (cs, ps) := run n r
      (List.replicate slashes '\\' ++ c :: cs, ps)
    | [] => (cs, [])

/-- A tag that is open, with what stands behind its equals sign. -/
structure OpenTag where
  name : String
  parameters : Option (List Char) := none
  deriving DecidableEq, Repr

/-- The parameters of an action: its name may stand before them in brackets, or alone. -/
def actionParameters (cs : List Char) : List Char :=
  let isInside (c : Char) : Bool := c.isAlphanum || c == '_' || c == '.' || 0x80 ≤ c.toNat
  match cs.dropWhile isInside with
  | [] => "()".toList
  | '(' :: r => if r.getLast? = some ')' then '(' :: r else cs
  | _ => cs

/-- What is checked of a tag when it is closed: the parameters of an action must be literals. -/
def OpenTag.check (t : OpenTag) : Except Error Unit :=
  match t.name.toList, t.parameters with
  | '@' :: _, some (c :: cs) =>
    if Literal.isLiteral (actionParameters (Text.trim (c :: cs))) then .ok ()
    else .error (.unmatchedTag t.name)
  | _, _ => .ok ()

/-- The open tags after a closing one: without a name it closes the last. -/
def closeTag (name : List Char) (opened : List OpenTag) : Except Error (List OpenTag) := do
  if (Text.trim name).isEmpty then
    match opened with
    | [] => throw (.unmatchedTag "")
    | t :: rest =>
      t.check
      return rest
  else
    let name ← Style.normal (Text.trim name)
    match opened.find? (·.name = name) with
    | none => throw (.unmatchedTag name)
    | some t =>
      t.check
      return opened.eraseP (·.name = name)

/-- The open tags after one more tag. -/
def applyTag (tag : List Char) (opened : List OpenTag) : Except Error (List OpenTag) := do
  let name := tag.takeWhile (· ≠ '=')
  match name with
  | '/' :: r => closeTag r opened
  | _ =>
    let parameters := if name.length < tag.length then some (tag.drop (name.length + 1)) else none
    return ⟨← Style.normal name, parameters⟩ :: opened

/-- What is shown of the pieces of a message after some tags were opened. -/
def shownPieces (opened : List OpenTag) : List Piece → Except Error (List Char)
  | [] => .ok []
  | .shown cs :: ps => do return drawPictures cs.length cs ++ (← shownPieces opened ps)
  | .tag cs :: ps => do shownPieces (← applyTag cs opened) ps

/-- What a plain terminal shows of a message. -/
def shownMarkup (message : String) : Except Error String := do
  return String.ofList (← shownPieces [] (Piece.join (Piece.run message.length message.toList)))

end ProcessTriggers.CommandLine
