import ProcessTriggers.Yaml.Moment
import ProcessTriggers.Yaml.Number

/-!
The kinds of nodes. A tag names the kind; without one a plain scalar has the kind that it is spelled
as: a null, a switch, an integer, a real number, a timestamp, one of two signs for keys, or a text.
-/

namespace ProcessTriggers.Yaml

inductive Kind
  | null
  | switch
  | integer
  | real
  | bytes
  | stamp
  | text
  | sequence
  /-- A sequence of mappings with one entry each, whose keys are all different. -/
  | ordered
  /-- A sequence of mappings with one entry each. -/
  | pairs
  | mapping
  | set
  /-- The key of a mapping whose entries belong to the mapping around it. -/
  | merge
  /-- The key of the value that a mapping has where a scalar is needed. -/
  | value
  | unknown
  deriving DecidableEq, Repr

/-- What the tags of the kinds begin with. -/
def kindMark : String := "tag:yaml.org,2002:"

def Kind.ofName (name : String) : Kind :=
  let names : List (String × Kind) :=
    [("null", .null), ("bool", .switch), ("int", .integer), ("float", .real), ("binary", .bytes),
      ("timestamp", .stamp), ("str", .text), ("seq", .sequence), ("omap", .ordered),
      ("pairs", .pairs), ("map", .mapping), ("set", .set), ("merge", .merge), ("value", .value)]
  (names.lookup name).getD .unknown

/-- The kind that a tag names. -/
def Kind.ofTag (tag : String) : Kind :=
  let (start, name) := (tag.toList.splitAt kindMark.length)
  if start = kindMark.toList then .ofName (String.ofList name) else .unknown

/-- Whether a kind is filled after it was begun, and not made at once. -/
def Kind.isCollection : Kind → Bool
  | .sequence | .ordered | .pairs | .mapping | .set => true
  | _ => false

def nullWords : List String := ["", "~", "null", "Null", "NULL"]

/-- The words for a switch, on and off. -/
def switchWords : List (String × Bool) :=
  [("yes", true), ("no", false), ("true", true), ("false", false), ("on", true), ("off", false)]

def isSwitchWord (s : String) : Bool := (switchWords.flatMap fun (w, _) => spellings w).contains s

/-- The kind of a plain scalar. -/
def Kind.ofPlain (s : String) : Kind :=
  let cs := dropFinalBreak s.toList
  let t := String.ofList cs
  if s = "\n" then .text
  else if nullWords.contains t then .null
  else if isSwitchWord t then .switch
  else if isInteger cs then .integer
  else if isReal cs then .real
  else if isStamp cs then .stamp
  else if t = "<<" then .merge
  else if t = "=" then .value
  else if ["!", "&", "*"].contains t then .unknown
  else .text

end ProcessTriggers.Yaml
