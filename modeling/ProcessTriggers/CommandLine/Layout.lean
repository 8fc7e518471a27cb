import ProcessTriggers.CommandLine.Columns
import ProcessTriggers.Text.Blank

/-!
Text on a terminal: lines of limited width, and tables.
-/

namespace ProcessTriggers.CommandLine

def trimRight (cs : List Char) : List Char := (cs.reverse.dropWhile Text.isBlank).reverse

/-- The words of a text with the blanks after them; blanks at its start belong to the first word.
The number bounds the length of the text. -/
def spacedWords : Nat → List Char → List (List Char)
  | 0, _ => []
  | n + 1, cs =>
    let start := cs.takeWhile Text.isBlank
    let cs := cs.dropWhile Text.isBlank
    let word := cs.takeWhile (!Text.isBlank ·)
    let cs := cs.dropWhile (!Text.isBlank ·)
    if word.isEmpty then []
    else
      (start ++ word ++ cs.takeWhile Text.isBlank) :: spacedWords n (cs.dropWhile Text.isBlank)

/-- Parts of at most `width` columns; `used` of the first are taken already. -/
def chop (width used : Nat) : List Glyph → List (List Char)
  | [] => [[]]
  | g :: r =>
    let fits := used + g.width ≤ width
    match chop width (if fits then used + g.width else g.width) r with
    | [] => []
    | p :: ps => if fits then (g.chars ++ p) :: ps else [] :: (g.chars ++ p) :: ps

/-- Lines of at most `width` columns, with blanks at their ends. A word that is wider than a line
starts on a new one and is cut. -/
def fillLines (width : Nat) (line : List Char) : List (List Char) → List (List Char)
  | [] => [line]
  | w :: ws =>
    let wordColumns := columns (trimRight w)
    if columns line + wordColumns ≤ width then fillLines width (line ++ w) ws
    else
      let before := if line.isEmpty then [] else [line]
      if width < wordColumns then
        let parts := chop width 0 (Glyph.ofText w)
        before ++ parts.dropLast ++ fillLines width (parts.getLast?.getD []) ws
      else before ++ fillLines width w ws

/-- The characters of the first glyphs that fit into `width` columns. -/
def fitting (width : Nat) : List Glyph → List Char
  | [] => []
  | g :: r => if g.width ≤ width then g.chars ++ fitting (width - g.width) r else []

/-- A line without those blanks at its end that are too many, by their count and by columns. -/
def cropBlanks (width : Nat) (line : List Char) : List Char :=
  fitting width (Glyph.ofText (line.take (max width (trimRight line).length)))

/-- A line of text in lines of at most `width` columns. -/
def wrapLine (width : Nat) (cs : List Char) : List (List Char) :=
  match spacedWords cs.length cs with
  | [] => [cs]
  | ws => (fillLines width [] ws).map (cropBlanks width)

/-- Characters that would move the cursor, and are left out. -/
def movesCursor (c : Char) : Bool := [7, 8, 11, 12, 13].contains c.toNat

/-- A text in lines of at most `width` columns. -/
def wrap (width : Nat) (text : String) : List (List Char) :=
  (Text.parts '\n' (text.toList.filter (!movesCursor ·))).flatMap fun line =>
    wrapLine width (expandTabs line)

def blanks (n : Nat) : List Char := List.replicate n ' '

/-- A line in the middle of `width` columns; an odd blank stands on the right. -/
def centred (width : Nat) (line : List Char) : List Char :=
  let line := trimRight line
  let free := width - columns line
  blanks (free / 2) ++ line ++ blanks (free - free / 2)

def padRight (width : Nat) (cs : List Char) : List Char := cs ++ blanks (width - columns cs)

def padLeft (width : Nat) (cs : List Char) : List Char := blanks (width - columns cs) ++ cs

/-- A line of a table: what stands at its ends and between its cells. -/
def ruled (left between right : Char) (cells : List (List Char)) : List Char :=
  left :: [between].intercalate cells ++ [right]

/-- A table with a title and a heading. The first column is aligned to the right. -/
structure Table where
  title : String
  heading : List String
  rows : List (List String)

namespace Table

/-- The width of each column. -/
def widths (t : Table) : List Nat :=
  t.rows.foldl (fun ws row => List.zipWith max ws (row.map fun s => columns s.toList))
    (t.heading.map fun s => columns s.toList)

def cells (t : Table) (row : List String) : List (List Char) :=
  match t.widths, row with
  | w :: ws, s :: ss =>
    (' ' :: padLeft w s.toList ++ [' ']) ::
      List.zipWith (fun w s => ' ' :: padRight w s.toList ++ [' ']) ws ss
  | _, _ => []

def bars (t : Table) (c : Char) : List (List Char) := t.widths.map fun w => List.replicate (w + 2) c

/-- The columns that the whole table takes. -/
def width (t : Table) : Nat := t.widths.foldl (fun n w => n + w + 3) 1

/-- The lines of a table. -/
def lines (t : Table) : List (List Char) :=
  (wrap t.width t.title).map (centred t.width) ++
    [ruled '┏' '┳' '┓' (t.bars '━'), ruled '┃' '┃' '┃' (t.cells t.heading),
      ruled '┡' '╇' '┩' (t.bars '━')] ++
    t.rows.map (fun row => ruled '│' '│' '│' (t.cells row)) ++ [ruled '└' '┴' '┘' (t.bars '─')]

end Table

def ofLines (lines : List (List Char)) : String :=
  String.ofList (lines.flatMap (· ++ ['\n']))

end ProcessTriggers.CommandLine
