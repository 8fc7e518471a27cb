import ProcessTriggers.CommandLine.Misuse
import ProcessTriggers.Text.Similarity

/-!
Options among the arguments of a command. A long name starts with two dashes and may carry its value
after an equals sign; short names are single letters after one dash, of which the last may carry its
value right behind it. After two dashes alone everything is an argument.
-/

namespace ProcessTriggers.CommandLine

structure Switch where
  long : String
  short : Option Char := none
  /-- What stands for the value in the help text; an option without it takes no value. -/
  valueName : Option String := none
  note : String := ""
  deriving DecidableEq, Repr

namespace Switch

def takesValue (s : Switch) : Bool := s.valueName.isSome

/-- The names of an option as errors show them. -/
def quotedNames (s : Switch) : String :=
  " / ".intercalate (("'" ++ s.long ++ "'") ::
    (s.short.map fun c => "'-" ++ c.toString ++ "'").toList)

end Switch

/-- Options with their values in the order in which they were given, and the other arguments. -/
structure Given where
  options : List (Switch × String) := []
  arguments : List String := []

/-- Options in one argument, and the one whose value is the next argument. -/
structure Cluster where
  complete : List (Switch × String) := []
  open? : Option (Switch × String) := none

/-- Short options in one argument. -/
def readShort (switches : List Switch) : List Char → Except Misuse Cluster
  | [] => .ok {}
  | c :: r =>
    match switches.find? (·.short = some c) with
    | none => .error (.noSuchOption ("-" ++ c.toString) [])
    | some s =>
      if s.takesValue then
        if r.isEmpty then .ok { open? := some (s, "-" ++ c.toString) }
        else .ok { complete := [(s, String.ofList r)] }
      else do
        let more ← readShort switches r
        return { more with complete := (s, "") :: more.complete }

/-- A long option, with its value if that is attached. -/
def readLong (s : Switch) (value : Option String) : Except Misuse Cluster :=
  match s.takesValue, value with
  | true, some v => .ok { complete := [(s, v)] }
  | true, none => .ok { open? := some (s, s.long) }
  | false, some _ => .error (.optionTakesNoValue s.long)
  | false, none => .ok { complete := [(s, "")] }

/-- The options that an argument starting with a dash gives. -/
def readCluster (switches : List Switch) (argument : String) : Except Misuse Cluster :=
  let cs := argument.toList
  let name := String.ofList (cs.takeWhile (· ≠ '='))
  let value := match cs.dropWhile (· ≠ '=') with
    | _ :: v => some (String.ofList v)
    | [] => none
  match switches.find? (·.long = name) with
  | some s => readLong s value
  | none =>
    if "--".toList.isPrefixOf cs then
      .error (.noSuchOption name ((switches.map (·.long)).filter (Text.isSimilar · name)))
    else readShort switches (cs.drop 1)

/-- Whether an argument gives options. A dash alone does not. -/
def isOption (argument : String) : Bool :=
  argument.toList.head? = some '-' && 1 < argument.length

/-- Options and arguments apart. Unless they may be mixed, the first argument ends the options. -/
def readGiven (switches : List Switch) (mixed : Bool) : List String → Except Misuse Given
  | [] => .ok {}
  | a :: r =>
    if a = "--" then .ok { arguments := r }
    else if isOption a then do
      let cluster ← readCluster switches a
      match cluster.open?, r with
      | none, r =>
        let g ← readGiven switches mixed r
        return { g with options := cluster.complete ++ g.options }
      | some (s, _), v :: r =>
        let g ← readGiven switches mixed r
        return { g with options := cluster.complete ++ (s, v) :: g.options }
      | some (_, name), [] => throw (.optionNeedsValue name)
    else if mixed then do
      let g ← readGiven switches mixed r
      return { g with arguments := a :: g.arguments }
    else .ok { arguments := a :: r }

/-- The value of an option; of several the last counts. -/
def Given.value? (g : Given) (s : Switch) : Option String :=
  (g.options.reverse.find? (·.1 = s)).map (·.2)

end ProcessTriggers.CommandLine
