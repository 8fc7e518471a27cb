import ProcessTriggers.Text.Quoted
import ProcessTriggers.Text.Search
import ProcessTriggers.Text.Utf8

/-!
Places in the tree of files, and how a path leads to one. A path is followed part by part: an empty
part or a dot stays, two dots go one level up, and any other part is the name of what is entered.
-/

namespace ProcessTriggers.Environment

/-- The parts of a path, and whether it starts at the root. -/
structure Path where
  fromRoot : Bool
  parts : List (List Char)
  deriving DecidableEq, Repr

namespace Path

def ofText (path : String) : Path where
  fromRoot := path.toList.head? = some '/'
  parts := Text.parts '/' path.toList

/-- A part that stays where it is. -/
def stays (part : List Char) : Bool := part.isEmpty || part == ['.']

/-- The bytes of a path, with the slashes between its parts. -/
def byteCount (p : Path) : Nat :=
  let size (part : List Char) : Nat := (Text.encodeUtf8 (String.ofList part)).length + 1
  p.parts.foldl (fun n part => n + size part) 0 - 1

/-- A path without the parts that stay where they are. -/
def tidy (p : Path) : Path := { p with parts := p.parts.filter (!stays ·) }

end Path

/-- The names that lead to a place, the last one first, from the root or from the directory that is
so many levels above the working directory. -/
structure Place where
  fromRoot : Bool
  above : Nat := 0
  names : List (List Char) := []
  deriving DecidableEq, Repr

namespace Place

/-- Where one part of a path leads. Nothing is above the root. -/
def enter (p : Place) (part : List Char) : Place :=
  if Path.stays part then p
  else if part = ['.', '.'] then
    match p.names with
    | _ :: names => { p with names := names }
    | [] => if p.fromRoot then p else { p with above := p.above + 1 }
  else { p with names := part :: p.names }

/-- The place that a path leads to. -/
def ofPath (p : Path) : Place := p.parts.foldl enter { fromRoot := p.fromRoot }

/-- The places that a path leads through before its last part. -/
def onTheWay (p : Path) : List Place :=
  (List.range p.parts.length).map fun n => ofPath { p with parts := p.parts.take n }

end Place

/-- What a path leads to. -/
inductive Node
  | file (content : List UInt8)
  | directory
  | nothing
  /-- A name on the way, or the whole path, is longer than the system looks for. -/
  | tooLong
  deriving DecidableEq, Repr

/-- The bytes that a name may have. -/
def nameLimit : Nat := 255

/-- The bytes that a path must stay below. -/
def pathLimit : Nat := 4096

def isTooLong (part : List Char) : Bool := nameLimit < (Text.encodeUtf8 (String.ofList part)).length

/-- What the system says of a name that is too long. -/
def nameTooLong (path : String) : String := "[Errno 36] File name too long: " ++ Text.quoted path

end ProcessTriggers.Environment
