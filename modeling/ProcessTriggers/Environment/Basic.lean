import ProcessTriggers.Double.Numeral
import ProcessTriggers.Environment.Place
import ProcessTriggers.Text.Lowercase
import ProcessTriggers.Value.Arithmetic

/-!
The environment that a program runs in: variables by name, and the files of its directory. A
variable is read as a text, a switch, an integer or a double.
-/

namespace ProcessTriggers

structure Environment where
  /-- The latest setting of a variable comes first. -/
  settings : List (String × String) := []
  files : List (String × List UInt8) := []
  /-- Directories beside those that the files are in. -/
  directories : List String := []

namespace Environment

def get? (env : Environment) (name : String) : Option String := env.settings.lookup name

def has (env : Environment) (name : String) : Bool := (env.get? name).isSome

/-- Sets a variable. Names have no equals sign, and neither names nor values a null character. -/
def set (env : Environment) (name value : String) : Except Error Environment :=
  if name.toList.contains '=' then
    .error (.foreign .invalidValue "illegal environment variable name")
  else if (name ++ value).toList.contains '\x00' then
    .error (.foreign .invalidValue "embedded null byte")
  else .ok { env with settings := (name, value) :: env.settings }

/-- The value of a variable, or a default. -/
def get (env : Environment) (name default : Value) : Except Error Value :=
  match name with
  | .text s => .ok (((env.get? s).map Value.text).getD default)
  | v => .error (Value.wrongType ("a variable is named by a text, not " ++ v.kindName))

/-- The value of a variable that must be set unless there is a default. -/
def require (env : Environment) (name default : Value) : Except Error Value := do
  let v ← env.get name default
  if v.isNull then
    throw (.foreign .invalidValue ("Required environment variable not set: " ++ name.shown))
  return v

/-- The words that switch a setting on. -/
def onWords : List String := ["true", "1", "yes", "on"]

/-- The words that switch a setting off. -/
def offWords : List String := ["false", "0", "no", "off"]

/-- A variable as a switch. Any other word gives the default. -/
def switch (env : Environment) (name default : Value) : Except Error Value := do
  match ← env.get name (.text "") with
  | .text s =>
    let word := Text.lower s
    return if onWords.contains word then .bool true
      else if offWords.contains word then .bool false
      else default
  | _ => return default

/-- A variable read by `read?`, or the default read as if it were the variable. Where neither can be
read the default stands as it is. -/
def number (env : Environment) (read? : List Char → Option Value) (name default : Value) : Value :=
  match env.get name (.text default.shown) with
  | .ok (.text s) => (read? s.toList).getD default
  | _ => default

def integer (env : Environment) (name default : Value) : Value :=
  env.number (fun cs => (Numeral.int? cs).map .int) name default

def real (env : Environment) (name default : Value) : Value :=
  env.number (fun cs => (Numeral.double? cs).map .double) name default

/-- Directories that every system has. -/
def systemDirectories : List String :=
  ["/etc", "/home", "/proc", "/root", "/tmp", "/usr/bin", "/usr/lib", "/usr/local", "/var/log"]

/-- The empty file that every system has. -/
def emptyFile : String := "/dev/null"

/-- Whether a place is known to be a directory: all that are on the way to a file are. -/
def isDirectory (env : Environment) (p : Place) : Bool :=
  let files := emptyFile :: env.files.map (·.1)
  let directories := systemDirectories ++ env.directories
  p.names.isEmpty || directories.any (fun d => Place.ofPath (Path.ofText d) == p) ||
    (files ++ directories).any fun f => (Place.onTheWay (Path.ofText f)).contains p

/-- What stands at a place. -/
def nodeAt (env : Environment) (p : Place) : Node :=
  if env.isDirectory p then .directory
  else match ((emptyFile, []) :: env.files).find? fun f => Place.ofPath (Path.ofText f.1) == p with
    | some (_, content) => .file content
    | none => .nothing

/-- Follows the parts of a path from a place on; all places but the last must be directories. -/
def follow (env : Environment) (p : Place) : List (List Char) → Node
  | [] => env.nodeAt p
  | part :: parts =>
    if !env.isDirectory p then .nothing
    else if isTooLong part then .tooLong
    else env.follow (p.enter part) parts

/-- What a path leads to. -/
def find (env : Environment) (p : Path) : Node :=
  if pathLimit ≤ p.byteCount then .tooLong else env.follow { fromRoot := p.fromRoot } p.parts

end Environment
end ProcessTriggers
