import ProcessTriggers.Environment.Basic

/-!
References to variables inside a text. A text is made of characters and of references in braces,
which may say what to do about a variable that is not set; filling them in is one pass from left to
right. A second pass fills in the references that are only a dollar sign and a name.
-/

namespace ProcessTriggers

/-- What stands for a reference whose variable is not set. -/
inductive Fallback
  /-- The reference itself. -/
  | keep
  | default (text : List Char)
  /-- Nothing does: it is an error with this message, or with one that names the variable. -/
  | refuse (message : List Char)
  deriving DecidableEq, Repr

structure Reference where
  name : List Char
  fallback : Fallback
  deriving DecidableEq, Repr

namespace Reference

def endsName (c : Char) : Bool := c == '\x7d' || c == ':'

/-- A reference after its dollar sign and opening brace, and what follows it. -/
def read? (cs : List Char) : Option (Reference × List Char) :=
  let name := cs.takeWhile (!endsName ·)
  if name.isEmpty then none
  else match cs.dropWhile (!endsName ·) with
    | ':' :: mark :: r =>
      let operand := r.takeWhile (· ≠ '\x7d')
      match r.dropWhile (· ≠ '\x7d') with
      | _ :: r =>
        if mark = '-' then some (⟨name, .default operand⟩, r)
        else if mark = '?' then some (⟨name, .refuse operand⟩, r)
        else none
      | [] => none
    | '\x7d' :: r => some (⟨name, .keep⟩, r)
    | _ => none

theorem length_dropWhile_le {α : Type} (p : α → Bool) (xs : List α) :
    (xs.dropWhile p).length ≤ xs.length :=
  (List.dropWhile_suffix p).length_le

theorem length_lt_of_read? {cs r : List Char} {x : Reference} (h : read? cs = some (x, r)) :
    r.length < cs.length := by
  have hd := length_dropWhile_le (!endsName ·) cs
  unfold read? at h
  grind [length_dropWhile_le]

/-- A reference as it is written. -/
def written (x : Reference) : List Char :=
  '$' :: '\x7b' :: x.name ++ (match x.fallback with
    | .keep => []
    | .default text => ':' :: '-' :: text
    | .refuse message => ':' :: '?' :: message) ++ ['\x7d']

/-- What stands for a reference in an environment. -/
def resolve (env : Environment) (x : Reference) : Except Error (List Char) :=
  match env.get? (String.ofList x.name), x.fallback with
  | some v, _ => .ok v.toList
  | none, .keep => .ok x.written
  | none, .default text => .ok text
  | none, .refuse message =>
    .error (.foreign .invalidValue
      (if message.isEmpty then "Required variable not set: " ++ String.ofList x.name
        else String.ofList message))

end Reference

/-- A part of a text: a character of its own, or a reference. -/
inductive Piece
  | char (c : Char)
  | reference (x : Reference)
  deriving DecidableEq, Repr

namespace Piece

/-- The pieces of a text, the leftmost reference first. -/
def ofText : List Char → List Piece
  | [] => []
  | c :: r =>
    match _h : (if c = '$' ∧ r.head? = some '\x7b' then Reference.read? (r.drop 1) else none) with
    | some (x, rest) => .reference x :: ofText rest
    | none => .char c :: ofText r
termination_by cs => cs.length
decreasing_by
  · split at _h
    · have := Reference.length_lt_of_read? _h
      simp at this ⊢
      omega
    · simp at _h
  · simp

/-- The text that pieces are written as. -/
def written : Piece → List Char
  | char c => [c]
  | reference x => x.written

def resolve (env : Environment) : Piece → Except Error (List Char)
  | char c => .ok [c]
  | reference x => x.resolve env

end Piece

namespace Environment

/-- Fills in the references in braces. -/
def fillBraced (env : Environment) (cs : List Char) : Except Error (List Char) := do
  return (← (Piece.ofText cs).mapM (Piece.resolve env)).flatten

def startsBareName (c : Char) : Bool := c.isUpper || c == '_'

def isBareName (c : Char) : Bool := startsBareName c || c.isDigit

/-- The name after a dollar sign, in capitals; none if it does not start as one. -/
def bareName (cs : List Char) : List Char :=
  if (cs.head?.map startsBareName).getD false then cs.takeWhile isBareName else []

/-- Fills in the references without braces. A name that is not set stays as it is. -/
def fillBare (env : Environment) : List Char → List Char
  | [] => []
  | c :: r =>
    let name := bareName r
    match if c = '$' ∧ name ≠ [] then env.get? (String.ofList name) else none with
    | some v => v.toList ++ fillBare env (r.drop name.length)
    | none => c :: fillBare env r
termination_by cs => cs.length

/-- A text with all its references filled in. -/
def substitute (env : Environment) (text : Value) : Except Error Value := do
  match text with
  | .text s => return .text (String.ofList (env.fillBare (← env.fillBraced s.toList)))
  | v => throw (Value.wrongType ("references are filled into a text, not " ++ v.kindName))

mutual

/-- The entries of an object with the references in their texts filled in, also in the objects and
the lists that are entries. -/
def substituteEntries (env : Environment) : List (String × Value) →
    Except Error (List (String × Value))
  | [] => .ok []
  | (k, v) :: es => do
    let v ← substituteEntry env v
    return (k, v) :: (← substituteEntries env es)

def substituteEntry (env : Environment) : Value → Except Error Value
  | .text s => env.substitute (.text s)
  | .object es => do return .object (← substituteEntries env es)
  | .list xs => do return .list (← substituteItems env xs)
  | v => .ok v

/-- The items of a list: texts and objects are filled in, lists inside it are not. -/
def substituteItems (env : Environment) : List Value → Except Error (List Value)
  | [] => .ok []
  | .text s :: xs => do
    let v ← env.substitute (.text s)
    return v :: (← substituteItems env xs)
  | .object es :: xs => do
    let es ← substituteEntries env es
    return .object es :: (← substituteItems env xs)
  | v :: xs => do return v :: (← substituteItems env xs)

end

/-- An object with the references in it filled in. -/
def substituteObject (env : Environment) (v : Value) : Except Error Value := do
  return .object (← env.substituteEntries (← v.entries "items"))

end Environment
end ProcessTriggers
