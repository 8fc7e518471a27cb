import ProcessTriggers.Log.Record
import ProcessTriggers.Text.Template

/-!
Loggers by name, and records that a caller makes up: level, message and arguments may be any values,
and attributes replace those that a record has by itself.
-/

namespace ProcessTriggers.Log

/-- The name of the logger that is above all others. -/
def rootName : String := "root"

/-- The name of the logger that a value asks for; nothing at all asks for the root. -/
def loggerName (v : Value) : Except Error String :=
  if !v.truthy then .ok rootName
  else match v with
    | .text s => .ok s
    | _ => .error (Value.wrongType "A logger name must be a string")

/-- The handlers of a logger for which none were set. -/
def defaultHandlers : List String := ["NullHandler"]

/-- Where in the program a record was made. -/
structure Place where
  module : String
  function : String
  line : Nat

/-- A record as its caller asks for it. -/
structure Draft where
  level : Value
  logger : String
  message : Value
  arguments : List Value
  place : Place
  attributes : Entries := []

/-- Names that stand for a level besides the common ones. -/
def levelAliases : List (String × Level) := [("FATAL", critical), ("WARN", warning)]

/-- What an entry shows for a level: its name. The name of a level shows the number, and any other
value is shown as it is. -/
def shownLevel (v : Value) : Except Error Value := do
  let v ← v.asKey
  match levelNames.find? (v.equal <| .int ·.1), v with
  | some (_, name), _ => return .text name
  | none, .text s =>
    match (levelNames.map fun (n, name) => (name, n)).lookup s <|> levelAliases.lookup s with
    | some n => return .int n
    | none => return .text ("Level " ++ s)
  | none, v => return .text ("Level " ++ v.shown)

/-- The arguments of a message as they are given in a list. An object as the only argument names its
entries. -/
def argumentsOf (args : List Value) : Value :=
  match args with
  | [.object (e :: es)] => .object (e :: es)
  | vs => .list vs

/-- A message with its arguments filled in. Without arguments it stands as it is. -/
def messageOf (template : Value) (args : List Value) : Except Error String :=
  match argumentsOf args with
  | .list [] => .ok template.shown
  | .list vs => Template.format template.shown (.ordered vs)
  | v => Template.format template.shown (.named v (some v))

/-- A message with a single value for all arguments. A value with entries or elements is looked up
by name. -/
def messageWith (template args : Value) : Except Error String :=
  if !args.truthy then .ok template.shown
  else match args with
    | .object _ | .list _ | .bytes _ => Template.format template.shown (.named args (some args))
    | v => Template.format template.shown (.ordered [v])

/-- How an error on record is shown: three values of which the second is the error and the third
says where it arose. No value here is an error, so that only nothing at all can be shown. -/
def shownError (v : Value) : Except Error Value :=
  match v with
  | .list (_ :: e :: place :: _) =>
    if !place.isNull then .error (.noMember place.kindName "tb_frame")
    else if e.isNull then .ok (.text "NoneType: None")
    else if e.truthy then .error (.noMember e.kindName "__cause__")
    else .ok (.text (e.kindName ++ (if e.shown = "" then "" else ": ") ++ e.shown))
  | .list _ => .error (.foreign .badIndex "list index out of range")
  | .object _ => .error (.foreign .missingKey "2")
  | .text s =>
    if s.length < 3 then .error (.foreign .badIndex "string index out of range")
    else .error (.noMember "str" "tb_frame")
  | .bytes bs =>
    if bs.length < 3 then .error (.foreign .badIndex "index out of range")
    else .error (.noMember "int" "tb_frame")
  | v => .error (.indexNotText v.kindName)

namespace Draft

/-- An attribute that the caller sets, or the record's own. -/
def given (d : Draft) (name : String) (own : Value) : Value := (d.attributes.get? name).getD own

def text (d : Draft) : Except Error String :=
  let message := d.given "msg" d.message
  match d.attributes.get? "args" with
  | some args => messageWith message args
  | none => messageOf message d.arguments

/-- The whole entry of a record. -/
def entry (bound : Entries) (now : Stamp) (d : Draft) (filled : Bool) : Except Error Entries := do
  let level ← shownLevel d.level
  let message ← d.text
  let own : Record := { level := unset, logger := d.logger, message, attributes := d.attributes }
  let r := if filled then own.fill bound else own
  let error := d.given "exc_info" .null
  let head := [
    ("timestamp", .text now.isoText), ("level", d.given "levelname" level),
    ("logger", d.given "name" (.text d.logger)), ("message", .text message),
    ("module", d.given "module" (.text d.place.module)),
    ("function", d.given "funcName" (.text d.place.function)),
    ("line", d.given "lineno" (.int d.place.line))]
  let es := Entries.merge head (r.fields bound)
  if error.truthy then return es.put "exception" (← shownError error) else return es

end Draft
end ProcessTriggers.Log
