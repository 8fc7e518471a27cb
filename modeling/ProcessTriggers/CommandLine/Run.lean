import ProcessTriggers.CommandLine.Command
import ProcessTriggers.CommandLine.Markup
import ProcessTriggers.Condition.Basic
import ProcessTriggers.Cron.Next
import ProcessTriggers.Environment.Basic
import ProcessTriggers.Json.Printer
import ProcessTriggers.Json.Reader
import ProcessTriggers.Text.Bytes
import ProcessTriggers.Variables
import ProcessTriggers.Webhook.Signature

/-!
Running the program on its arguments. The result is an exit code with what is printed, or an error
that no command expects.
-/

namespace ProcessTriggers.CommandLine

structure Outcome where
  exitCode : Nat
  output : String
  deriving DecidableEq, Repr

/-- What ends a command early: a call that is not as it should be, a finished outcome, or an error
that is not expected. -/
inductive Stop
  | misuse (m : Misuse)
  | finished (o : Outcome)
  | failed (e : Error)

abbrev Step (α : Type) := Except Stop α

namespace Step

def refuse {α : Type} (m : Misuse) : Step α := .error (.misuse m)

def finish {α : Type} (exitCode : Nat) (output : String) : Step α :=
  .error (.finished ⟨exitCode, output⟩)

def fail {α : Type} (e : Error) : Step α := .error (.failed e)

def ofExcept {α : Type} (r : Except Error α) : Step α := r.mapError .failed

def ofGiven {α : Type} (r : Except Misuse α) : Step α := r.mapError .misuse

end Step

/-- The columns of the terminal. -/
def terminalWidth : Nat := 80

/-- A message as the terminal shows it. -/
def printed (message : String) : Step String := do
  return ofLines (wrap terminalWidth (← Step.ofExcept (shownMarkup message)))

/-! What is checked about each parameter -/

def needArgument (c : Command) (g : Given) (i : Nat) : Step String :=
  match g.arguments[i]? with
  | some v => .ok v
  | none => Step.refuse (.missingArgument (c.arguments[i]?.getD ""))

/-- The count of fire times to list, at least one. -/
def readCount (text : String) : Step Nat :=
  let parameter := Switch.count.quotedNames
  match Numeral.int? text.toList with
  | none =>
    Step.refuse (.badValue parameter (Text.quoted text ++ " is not a valid integer range."))
  | some n =>
    if n < 1 then Step.refuse (.badValue parameter s!"{n} is not in the range x>=1.")
    else .ok n.toNat

def readFile (env : Environment) (path : String) : Step (List UInt8) :=
  let refuse (reason : String) : Step (List UInt8) :=
    Step.refuse (.badValue "'BODY_FILE'" ("File " ++ Text.quoted path ++ reason))
  if path.toList.contains '\x00' then Step.fail (.foreign .invalidValue "embedded null byte")
  else do
    let _ ← Step.ofExcept (Text.bytesOf path)
    match if path.isEmpty then .nothing else env.find (Environment.Path.ofText path) with
    | .nothing | .tooLong => refuse " does not exist."
    | .directory => refuse " is a directory."
    | .file content => return content

def readJson (text name : String) : Step Value :=
  match Json.read text.toList with
  | .ok v => .ok v
  | .error e =>
    if e.fault = .tooManyDigits then
      Step.fail (.foreign .invalidValue e.fault.message)
    else Step.refuse (.unreadable (name ++ " is not valid JSON: " ++ e.describe text.toList))

/-- Nothing may be given beyond the arguments of a command. -/
def checkExtra (c : Command) (g : Given) : Step Unit :=
  match g.arguments.drop c.arguments.length with
  | [] => .ok ()
  | extra => Step.refuse (.extraArguments extra)

/-! The commands -/

/-- Two arguments that are JSON texts. -/
def readJsonPair (c : Command) (g : Given) : Step (Value × Value) := do
  let first ← needArgument c g 0
  let second ← needArgument c g 1
  checkExtra c g
  let name (i : Nat) : String := c.arguments[i]?.getD ""
  let v ← readJson first (name 0)
  let w ← readJson second (name 1)
  return (v, w)

def checkConditions (g : Given) : Step String := do
  let (conditions, context) ← readJsonPair .checkConditions g
  if ← Step.ofExcept (Condition.holds conditions context) then printed "[green]✓ match[/green]"
  else Step.finish 1 (← printed "[red]✗ no match[/red]")

def mapVariables (g : Given) : Step String := do
  let (mappings, context) ← readJsonPair .mapVariables g
  let es ← Step.ofExcept (Variables.ofMappings mappings context)
  return (← Step.ofExcept (Json.print Json.indented (.object es))) ++ "\n"

/-- The next fire times, each found from the one before. -/
def fireTimes (expression : Value) (z : Zone) : Nat → Instant → Except Error (List Instant)
  | 0, _ => .ok []
  | n + 1, t => do
    let t ← Cron.nextFire expression z t
    return t :: (← fireTimes expression z n t)

def fireTable (title : String) (z : Zone) (times : List Instant) : Table where
  title := title
  heading := ["#", "Local time", "UTC"]
  rows := times.zipIdx.map fun (t, i) =>
    [toString (i + 1), (z.stampAt t).isoText, (Stamp.ofInstant t).isoText]

/-- The zone of an expression and its next fire times. -/
def upcoming (expression zone : String) (count : Nat) (now : Instant) :
    Except Error (Zone × List Instant) := do
  let z ← Cron.validate (.text expression) (.text zone)
  return (z, ← fireTimes (.text expression) z count now)

def nextRuns (now : Instant) (g : Given) : Step String := do
  let given := (g.value? .count).map readCount
  let count ← given.getD (.ok 5)
  let expression ← needArgument .nextRuns g 0
  checkExtra .nextRuns g
  let zone := (g.value? .timezone).getD "Europe/Moscow"
  match upcoming expression zone count now with
  | .ok (z, times) =>
    let title ← Step.ofExcept (shownMarkup (expression ++ " (" ++ zone ++ ")"))
    return ofLines (fireTable title z times).lines
  | .error e =>
    if e.isInvalidSchedule then
      Step.finish 1 (← printed ("[red]Error:[/red] " ++ e.message))
    else Step.fail e

def signWebhook (env : Environment) (g : Given) : Step String := do
  let content ← readFile env (← needArgument .signWebhook g 0)
  match g.value? .secret with
  | none => Step.refuse (.missingOption Switch.secret.quotedNames)
  | some secret =>
    checkExtra .signWebhook g
    return (← Step.ofExcept (Webhook.sign secret (.bytes content))) ++ "\n"

/-- Runs a command on its arguments. -/
def runCommand (env : Environment) (now : Instant) (c : Command) (args : List String) :
    Step String := do
  let g ← Step.ofGiven (readGiven c.switches true args)
  if (g.value? .help).isSome then return c.helpText
  match c with
  | .checkConditions => checkConditions g
  | .mapVariables => mapVariables g
  | .nextRuns => nextRuns now g
  | .signWebhook => signWebhook env g

/-- The outcome of a step, in which misuse is shown with the usage of the command. -/
def settle (c : Option Command) (r : Step String) : Except Error Outcome :=
  match r with
  | .ok output => .ok ⟨0, output⟩
  | .error (.finished o) => .ok o
  | .error (.misuse m) => .ok ⟨2, usageError c m⟩
  | .error (.failed e) => .error e

/-- Of the switches of the program the first one given is answered. -/
def answerSwitches (g : Given) : Step Unit :=
  match g.options with
  | (s, _) :: _ => Step.finish 0 (if s = .version then versionText else programHelp)
  | [] => .ok ()

/-- The command that is called, with its arguments. Where no command has the name, what stands after
two dashes is read for switches once more. -/
def chooseCommand (args : List String) : Step (Command × List String) := do
  let g ← Step.ofGiven (readGiven programSwitches false args)
  answerSwitches g
  match g.arguments with
  | [] => Step.refuse .missingCommand
  | name :: rest =>
    match Command.ofName? name with
    | some c => return (c, rest)
    | none =>
      answerSwitches (← Step.ofGiven (readGiven programSwitches false g.arguments))
      Step.refuse (.noSuchCommand name ((Command.all.map (·.name)).filter (Text.isSimilar · name)))

/-- Runs the program. Without arguments it shows its help. -/
def run (env : Environment) (now : Instant) (args : List String) : Except Error Outcome :=
  if args.isEmpty then .ok ⟨2, programHelp⟩
  else match chooseCommand args with
    | .ok (c, rest) => settle (some c) (runCommand env now c rest)
    | .error stop => settle none (.error stop)

end ProcessTriggers.CommandLine
