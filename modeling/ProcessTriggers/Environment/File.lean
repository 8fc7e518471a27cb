import ProcessTriggers.Environment.Reference
import ProcessTriggers.Text.Utf8

/-!
Environment files. Each line assigns a value to a variable; a line that does not read as an
assignment is passed over. The values may refer to variables, and loading a file leaves those alone
that are set already, unless it is told to override them.
-/

namespace ProcessTriggers

/-- A name and the value it is given; a name alone on its line has none. -/
structure Assignment where
  name : String
  value : Option (List Char)
  deriving DecidableEq, Repr

namespace Assignment

def isLineBlank (c : Char) : Bool := Text.isBlank c && c != '\n'

def skipBlanks (cs : List Char) : List Char := cs.dropWhile isLineBlank

def skipLine (cs : List Char) : List Char := (cs.dropWhile (· ≠ '\n')).drop 1

/-- Drops the word that may stand before an assignment. -/
def skipExport (cs : List Char) : List Char :=
  let r := cs.drop 6
  if "export".toList.isPrefixOf cs ∧ (r.head?.map isLineBlank).getD false then skipBlanks r else cs

/-- The text up to a closing quote and what follows it. A backslash takes the character after it
along, which must be on the same line. -/
def readQuoted (quote : Char) : List Char → Option (List Char × List Char)
  | [] | ['\\'] => none
  | '\\' :: c :: r =>
    if c = '\n' then none else (readQuoted quote r).map fun (s, rest) => ('\\' :: c :: s, rest)
  | c :: r =>
    if c = quote then some ([], r)
    else (readQuoted quote r).map fun (s, rest) => (c :: s, rest)

/-- What a letter stands for after a backslash between single quotes. -/
def singleEscape? (c : Char) : Option Char := if c = '\\' ∨ c = '\'' then some c else none

/-- What a letter stands for after a backslash between double quotes. -/
def doubleEscape? (c : Char) : Option Char :=
  match c with
  | '\\' | '\'' | '"' => some c
  | 'a' => some '\x07'
  | 'b' => some '\x08'
  | 'f' => some '\x0c'
  | 'n' => some '\n'
  | 'r' => some '\r'
  | 't' => some '\t'
  | 'v' => some '\x0b'
  | _ => none

def unescape (escape? : Char → Option Char) : List Char → List Char
  | '\\' :: c :: r =>
    match escape? c with
    | some x => x :: unescape escape? r
    | none => '\\' :: unescape escape? (c :: r)
  | c :: r => c :: unescape escape? r
  | [] => []

/-- A value without quotes up to its comment, which starts after a blank. -/
def dropComment : List Char → List Char
  | c :: '#' :: r => if Text.isBlank c then [] else c :: dropComment ('#' :: r)
  | c :: r => c :: dropComment r
  | [] => []

/-- Reading fails where the text cannot go on; what is left of it there is passed over. -/
abbrev Reading (α : Type) := Except (List Char) (α × List Char)

/-- The name at the start of a line; none before a comment. -/
def readName (cs : List Char) : Reading (Option String) :=
  match cs with
  | '#' :: _ => .ok (none, cs)
  | '\'' :: r =>
    match r.takeWhile (· ≠ '\''), r.dropWhile (· ≠ '\'') with
    | c :: s, _ :: rest => .ok (some (String.ofList (c :: s)), rest)
    | _, _ => .error cs
  | _ =>
    let endsName (c : Char) : Bool := c == '=' || c == '#' || Text.isBlank c
    match cs.takeWhile (!endsName ·) with
    | [] => .error cs
    | s => .ok (some (String.ofList s), cs.dropWhile (!endsName ·))

/-- The value after an equals sign. Without quotes it may start with a comment, if that is set
off. -/
def readValue (cs : List Char) : Reading (List Char) :=
  let start := skipBlanks cs
  let quoted (quote : Char) (escape? : Char → Option Char) (r : List Char) : Reading (List Char) :=
    match readQuoted quote r with
    | some (s, rest) => .ok (unescape escape? s, rest)
    | none => .error start
  match start with
  | '\'' :: r => quoted '\'' singleEscape? r
  | '"' :: r => quoted '"' doubleEscape? r
  | _ =>
    let s := dropComment (cs.takeWhile (· ≠ '\n'))
    .ok (Text.trim s, cs.dropWhile (· ≠ '\n'))

/-- What follows the end of the line, before which there may be a comment. -/
def readLineEnd (cs : List Char) : Except (List Char) (List Char) :=
  let cs := match skipBlanks cs with
    | '#' :: r => r.dropWhile (· ≠ '\n')
    | _ => cs
  match skipBlanks cs with
  | [] => .ok []
  | '\n' :: r => .ok r
  | _ => .error cs

/-- The assignment of a line, none if the line is a comment. -/
def readLine (cs : List Char) : Except (List Char) (Option Assignment × List Char) := do
  let (name, r) ← readName (skipExport cs)
  let (value, r) ← match skipBlanks r with
    | '=' :: r => do
      let (v, r) ← readValue r
      pure (some v, r)
    | r => pure (none, r)
  let rest ← readLineEnd r
  return (name.map (⟨·, value⟩), rest)

/-- The assignments of a text. The number bounds its length. -/
def readLines : Nat → List Char → List Assignment
  | 0, _ => []
  | n + 1, cs =>
    match cs.dropWhile Text.isBlank with
    | [] => []
    | cs =>
      match readLine cs with
      | .ok (some a, r) => a :: readLines n r
      | .ok (none, r) => readLines n r
      | .error r => readLines n (skipLine r)

/-- The assignments of a text, before which there may be a byte order mark. -/
def ofText (text : String) : List Assignment :=
  let cs := Text.unifyLines text.toList
  let cs := if cs.head? = some '\ufeff' then cs.drop 1 else cs
  readLines cs.length cs

/-- A reference in a value after its dollar sign and brace: the name, what stands for it if it is
not known, and what follows. -/
def reference? (cs : List Char) : Option (List Char × List Char × List Char) :=
  let name := cs.takeWhile (!Reference.endsName ·)
  match cs.dropWhile (!Reference.endsName ·) with
  | ':' :: '-' :: r =>
    match r.dropWhile (· ≠ '\x7d') with
    | _ :: rest => some (name, r.takeWhile (· ≠ '\x7d'), rest)
    | [] => none
  | '\x7d' :: rest => some (name, [], rest)
  | _ => none

theorem length_lt_of_reference? {cs name default rest : List Char}
    (h : reference? cs = some (name, default, rest)) : rest.length < cs.length := by
  have hd := Reference.length_dropWhile_le (!Reference.endsName ·) cs
  unfold reference? at h
  grind [Reference.length_dropWhile_le]

/-- A value with its references filled in. A name that is known without a value stands for
nothing. -/
def fill (known : String → Option (Option (List Char))) : List Char → List Char
  | [] => []
  | c :: r =>
    match _h : (if c = '$' ∧ r.head? = some '\x7b' then reference? (r.drop 1) else none) with
    | some (name, default, rest) =>
      ((known (String.ofList name)).getD (some default)).getD [] ++ fill known rest
    | none => c :: fill known r
termination_by cs => cs.length
decreasing_by
  · split at _h
    · have := length_lt_of_reference? _h
      simp at this ⊢
      omega
    · simp at _h
  · simp

end Assignment

namespace Environment

/-- What a name stands for while a file is read: in the environment, or in the assignments before.
The one that wins is the environment, unless the file overrides it. -/
def known (env : Environment) (override : Bool) (given : List Assignment) (name : String) :
    Option (Option (List Char)) :=
  let outside := (env.get? name).map fun v => some v.toList
  let inside := (given.find? (·.name == name)).map (·.value)
  if override then inside.or outside else outside.or inside

/-- Assignments with the references in their values filled in; the last assignment comes first. -/
def evaluate (env : Environment) (override : Bool) (as : List Assignment) : List Assignment :=
  as.foldl (fun given a =>
    { a with value := a.value.map (Assignment.fill (env.known override given)) } :: given) []

/-- Sets the variables of some assignments; of those to one name the last counts. -/
def assign (env : Environment) (override : Bool) (as : List Assignment) :
    Except Error Environment :=
  (env.evaluate override as).eraseDupsBy (·.name == ·.name) |>.foldlM (fun e a =>
    match a.value with
    | some v => if env.has a.name && !override then .ok e else e.set a.name (String.ofList v)
    | none => .ok e) env

/-- The file that is loaded if no other is named. -/
def defaultFile : String := ".env"

/-- Loads an environment file. False if there is none; a directory counts as an empty file. -/
def load (env : Environment) (path : Value) (override : Bool) :
    Except Error (Bool × Environment) := do
  let path ← match path with
    | .null => pure defaultFile
    | .text s => pure s
    | v => throw (Value.wrongType ("a path is a text, not " ++ v.kindName))
  match env.find (Path.ofText path).tidy with
  | .nothing => return (false, env)
  | .directory => return (true, env)
  | .tooLong => throw (.foreign .system (nameTooLong path))
  | .file content =>
    match Text.decodeUtf8? content with
    | some text => return (true, ← env.assign override (Assignment.ofText text))
    | none => throw (.foreign .undecodable "invalid UTF-8")

/-- The environment after its file was loaded, if there is one. -/
def loaded (env : Environment) : Except Error Environment := do
  return (← env.load .null false).2

end Environment
end ProcessTriggers
