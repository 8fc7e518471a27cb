import ProcessTriggers.Text.Quoted

/-!
What can be wrong with how the program is called, and how it is worded.
-/

namespace ProcessTriggers.CommandLine

inductive Misuse
  /-- An option that does not exist, and those it may have been meant for. -/
  | noSuchOption (name : String) (similar : List String)
  | optionNeedsValue (name : String)
  | optionTakesNoValue (name : String)
  | missingArgument (name : String)
  | missingOption (names : String)
  | extraArguments (values : List String)
  | missingCommand
  /-- A command that does not exist, and those it may have been meant for. -/
  | noSuchCommand (name : String) (similar : List String)
  /-- A value that a parameter does not take. -/
  | badValue (parameter reason : String)
  /-- An argument that is not what the command reads. -/
  | unreadable (reason : String)
  deriving DecidableEq, Repr

/-- What else may have been meant. -/
def suggestion (kind : String) (similar : List String) : String :=
  match (similar.mergeSort (· ≤ ·)).map Text.quoted with
  | [] => ""
  | [name] => " Did you mean " ++ name ++ "?"
  | names => " (Possible " ++ kind ++ ": " ++ ", ".intercalate names ++ ")"

/-- An argument as it is shown when it is not quoted: halves of surrogate pairs by number. -/
def shownArgument (s : String) : String :=
  String.ofList <| s.toList.flatMap fun c =>
    if Text.isHalf c then Text.escapeNumbered (Text.codePoint c) else [c]

def Misuse.message : Misuse → String
  | noSuchOption name similar =>
    "No such option " ++ Text.quoted name ++ "." ++ suggestion "options" similar
  | optionNeedsValue name => "Option " ++ Text.quoted name ++ " requires an argument."
  | optionTakesNoValue name => "Option " ++ Text.quoted name ++ " does not take a value."
  | missingArgument name => "Missing argument '" ++ name ++ "'."
  | missingOption names => "Missing option " ++ names ++ "."
  | extraArguments values =>
    (if values.length = 1 then "Got unexpected extra argument (" else
      "Got unexpected extra arguments (") ++ " ".intercalate (values.map shownArgument) ++ ")"
  | missingCommand => "Missing command."
  | noSuchCommand name similar =>
    "No such command " ++ Text.quoted name ++ "." ++ suggestion "commands" similar
  | badValue parameter reason => "Invalid value for " ++ parameter ++ ": " ++ reason
  | unreadable reason => "Invalid value: " ++ reason

end ProcessTriggers.CommandLine
