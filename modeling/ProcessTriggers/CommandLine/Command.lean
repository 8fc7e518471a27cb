import ProcessTriggers.CommandLine.Layout
import ProcessTriggers.CommandLine.Options

/-!
The commands of the program, what each takes, and the help texts.
-/

namespace ProcessTriggers.CommandLine

inductive Command
  | checkConditions
  | mapVariables
  | nextRuns
  | signWebhook
  deriving DecidableEq, Repr

namespace Switch

def help : Switch := { long := "--help", note := "Show this message and exit." }

def version : Switch := { long := "--version", note := "Show the version and exit." }

def timezone : Switch :=
  { long := "--timezone", short := some 't', valueName := some "TEXT",
    note := "[default: Europe/Moscow]" }

def count : Switch :=
  { long := "--count", short := some 'n', valueName := some "INTEGER RANGE",
    note := "[default: 5; x>=1]" }

def secret : Switch :=
  { long := "--secret", short := some 's', valueName := some "TEXT",
    note := "Secret configured on the webhook trigger  [required]" }

end Switch

/-- The name under which usage lines show the program. -/
def programName : String := "cli"

namespace Command

def all : List Command := [.checkConditions, .mapVariables, .nextRuns, .signWebhook]

def name : Command → String
  | checkConditions => "check-conditions"
  | mapVariables => "map-variables"
  | nextRuns => "next-runs"
  | signWebhook => "sign-webhook"

def ofName? (s : String) : Option Command := all.find? (·.name == s)

def description : Command → String
  | checkConditions => "Evaluate CONDITIONS_JSON against the event CONTEXT_JSON."
  | mapVariables => "Print the variables MAPPINGS_JSON produces for CONTEXT_JSON."
  | nextRuns => "List upcoming fire times of a cron EXPRESSION."
  | signWebhook => "Compute the signature header for the raw contents of BODY_FILE."

/-- The arguments of a command, all of which must be given. -/
def arguments : Command → List String
  | checkConditions => ["CONDITIONS_JSON", "CONTEXT_JSON"]
  | mapVariables => ["MAPPINGS_JSON", "CONTEXT_JSON"]
  | nextRuns => ["EXPRESSION"]
  | signWebhook => ["BODY_FILE"]

def switches : Command → List Switch
  | checkConditions | mapVariables => [.help]
  | nextRuns => [.timezone, .count, .help]
  | signWebhook => [.secret, .help]

/-- How a command is called. -/
def usage (c : Command) : String :=
  " ".intercalate (["Usage:", programName, c.name, "[OPTIONS]"] ++ c.arguments)

end Command

/-- The switches of the program itself. -/
def programSwitches : List Switch := [.version, .help]

def programUsage : String := "Usage: " ++ programName ++ " [OPTIONS] COMMAND [ARGS]..."

/-- The columns of a line of help. -/
def helpWidth : Nat := 78

/-- As many words of a text as fit into `limit` columns with dots after them. -/
def shortened (limit : Nat) (text : String) : String :=
  if text.length ≤ limit then text
  else
    let add (s : String) (w : List Char) : String :=
      if s.length + w.length + 4 ≤ limit then s ++ " " ++ String.ofList w else s
    match Text.words Text.isBlank text.toList with
    | [] => ""
    | w :: ws => ws.foldl add (String.ofList w) ++ "..."

/-- Names with their explanations, which all start in one column. -/
def definitions (rows : List (String × String)) : String :=
  let width := (rows.map fun r => r.1.length).foldl max 0
  ofLines (rows.map fun (a, b) => "  ".toList ++ padRight (width + 2) a.toList ++ b.toList)

namespace Switch

/-- An option as the help shows it. -/
def shownName (s : Switch) : String :=
  (s.short.map fun c => "-" ++ c.toString ++ ", ").getD "" ++ s.long ++
    (s.valueName.map (" " ++ ·)).getD ""

def definitions (switches : List Switch) : String :=
  CommandLine.definitions (switches.map fun s => (s.shownName, s.note))

end Switch

def Command.helpText (c : Command) : String :=
  c.usage ++ "\n\n  " ++ c.description ++ "\n\nOptions:\n" ++ Switch.definitions c.switches

def overview : String :=
  "  Trigflow - event-driven process triggers.\n\n  Commands:\n" ++
    "    check-conditions   Evaluate trigger conditions against an event\n" ++
    "    map-variables      Show the process variables an event produces\n" ++
    "    next-runs          Upcoming fire times of a cron expression\n" ++
    "    sign-webhook       Compute the X-Webhook-Signature header for a body\n"

def programHelp : String :=
  let nameWidth := (Command.all.map (·.name.length)).foldl max 0
  programUsage ++ "\n\n" ++ overview ++ "\nOptions:\n" ++ Switch.definitions programSwitches ++
    "\nCommands:\n" ++
    definitions (Command.all.map fun c =>
      (c.name, shortened (helpWidth - 6 - nameWidth) c.description))

def versionText : String := "trigflow, version 0.1.0\n"

/-- What is shown when the program is not called as it should be. -/
def usageError (c : Option Command) (m : Misuse) : String :=
  let name := (c.map fun c => programName ++ " " ++ c.name).getD programName
  (c.map (·.usage)).getD programUsage ++ "\nTry '" ++ name ++ " --help' for help.\n\nError: " ++
    m.message ++ "\n"

end ProcessTriggers.CommandLine
