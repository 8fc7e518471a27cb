/-!
Searching a list of characters for a run of others, and cutting it at a separator or into lines.
-/

namespace ProcessTriggers.Text

/-- Whether `part` occurs in `whole` as a run. -/
def isRun {α : Type} [BEq α] (part : List α) : List α → Bool
  | [] => part.isEmpty
  | x :: xs => part.isPrefixOf (x :: xs) || isRun part xs

/-- The text before the first occurrence of `sep` and the text after it. -/
def cutAt? (sep : List Char) : List Char → Option (List Char × List Char)
  | [] => if sep.isEmpty then some ([], []) else none
  | c :: r =>
    if sep.isPrefixOf (c :: r) then some ([], (c :: r).drop sep.length)
    else (cutAt? sep r).map fun (a, b) => (c :: a, b)

/-- The parts of a text between its separators; there is always at least one. -/
def parts (sep : Char) : List Char → List (List Char)
  | [] => [[]]
  | c :: r =>
    match parts sep r with
    | [] => [[c]]
    | p :: ps => if c = sep then [] :: p :: ps else (c :: p) :: ps

/-- The longest runs of characters that `p` does not accept. -/
def words (p : Char → Bool) : List Char → List (List Char)
  | [] => []
  | c :: r =>
    if p c then words p r
    else match r with
      | [] => [[c]]
      | d :: _ =>
        match words p r with
        | w :: ws => if p d then [c] :: w :: ws else (c :: w) :: ws
        | [] => [[c]]

/-- All line ends become those of one character. -/
def unifyLines : List Char → List Char
  | '\r' :: '\n' :: r => '\n' :: unifyLines r
  | '\r' :: r => '\n' :: unifyLines r
  | c :: r => c :: unifyLines r
  | [] => []

end ProcessTriggers.Text
