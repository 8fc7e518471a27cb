import ProcessTriggers.Value.Text

/-!
What can go wrong, by cause, and how each cause is worded.
-/

namespace ProcessTriggers

/-- Errors that say no more than their message. -/
inductive PlainError
  | general
  | configuration
  | notFound
  | dispatch
  | webhookAuth
  | jobHandler
  | storage
  deriving DecidableEq

/-- Errors that a collaborator or the system underneath reports in its own words. -/
inductive ForeignError
  | runtime
  | invalidValue
  | missingKey
  | timeout
  | connection
  | integrity
  | outOfRange
  | wrongType
  | undecodable
  | unencodable
  /-- The system refuses a call. -/
  | system
  | badIndex
  /-- A text or a number needs more room than there is. -/
  | noRoom
  /-- Values lie too deep in each other. -/
  | tooDeep
  deriving DecidableEq

/-- What can be wrong with a document: a character, a word, the way things stand together, a name
for something that is not there, or something that has no value. -/
inductive DocumentFault
  | badCharacter
  | badWord
  | misplaced
  | unknownAlias
  | noValue
  deriving DecidableEq, Repr

inductive Error
  | plain (kind : PlainError) (message : String)
  | foreign (kind : ForeignError) (message : String)
  | invalidSchedule (expression : Value) (reason : Value)
  | notDeployed (definitionId : Value)
  | triggerNotFound (id : Value)
  | definitionNotFound (id : Value)
  | immutableField (name : Value)
  | missingDependency (package feature : Value)
  /-- A name that is no member of an enumeration. -/
  | notMember (value : Value) (enumeration : String)
  /-- A record lacks an entry that it must have. -/
  | missingEntry (key : String)
  /-- A constructor was given too few fields or unknown ones. -/
  | wrongFields (message : String)
  /-- A value of this kind has no member of this name. -/
  | noMember (kind name : String)
  /-- A value of this kind stands where an operation is needed. -/
  | notCallable (kind : String)
  /-- A value of this kind has no elements to search. -/
  | notSearchable (kind : String)
  | searchNeedsText (kind : String)
  | searchNeedsBytes (kind : String)
  /-- Bytes are searched for a number that no byte has. -/
  | notByte
  /-- A value of this kind is looked up by position, not by name. -/
  | indexNotText (kind : String)
  /-- A value of this kind cannot be a key. -/
  | unhashable (kind : String)
  /-- Bytes cannot be searched for a text. -/
  | bytesNotText
  /-- A value of this kind cannot be stored in a relation; its position is among those given to
  it. -/
  | notStorable (position : Nat) (kind : String)
  /-- A value of this kind has no JSON form. -/
  | notSerializable (kind : String)
  /-- A time with an offset and one without it have no order. -/
  | mixedOffsets (operation : String)
  | badTimestamp (e : Stamp.ParseError)
  | numberTooLarge
  | fileNotFound (path : String)
  | isDirectory (path : String)
  /-- A style tag that closes what is not open. -/
  | unmatchedTag (name : String)
  | malformedDocument (fault : DocumentFault)

namespace PlainError

def error (kind : PlainError) (message : String) : Error := .plain kind message

end PlainError

/-- How an offset that is too large is shown. -/
def Stamp.ParseError.offsetQuoted (offset : Int) : String :=
  let days := offset.fdiv Stamp.day
  let rest := offset.fmod Stamp.day
  let parts := (if days = 0 then [] else [s!"days={days}"]) ++
    (if rest / Stamp.second = 0 then [] else [s!"seconds={rest / Stamp.second}"]) ++
    if rest % Stamp.second = 0 then [] else [s!"microseconds={rest % Stamp.second}"]
  "datetime.timedelta(" ++ ", ".intercalate parts ++ ")"

def Stamp.ParseError.message : Stamp.ParseError → String
  | .malformed text => "Invalid isoformat string: " ++ Text.quoted text
  | .yearOutOfRange year => s!"year {year} is out of range"
  | .monthOutOfRange => "month must be in 1..12"
  | .dayOutOfRange => "day is out of range for month"
  | .hourOutOfRange => "hour must be in 0..23"
  | .minuteOutOfRange => "minute must be in 0..59"
  | .secondOutOfRange => "second must be in 0..59"
  | .offsetTooLarge offset =>
    "offset must be a timedelta strictly between -timedelta(hours=24) and timedelta(hours=24), not "
      ++ offsetQuoted offset ++ "."

namespace Error

/-- The command that installs a package. -/
def installCommand (package : Value) : String := "pip install " ++ package.shown

def message : Error → String
  | .plain _ m | .foreign _ m | .wrongFields m => m
  | .invalidSchedule expression reason =>
    "Invalid cron schedule " ++ expression.quoted ++ ": " ++ reason.shown
  | .notDeployed id => "Process definition " ++ id.shown ++ " is not deployed"
  | .triggerNotFound id => "Trigger " ++ id.shown ++ " not found"
  | .definitionNotFound id => "Process definition " ++ id.shown ++ " not found"
  | .immutableField name =>
    "Field '" ++ name.shown ++
      "' cannot be changed after creation; delete and recreate instead"
  | .missingDependency package feature =>
    "Missing dependency '" ++ package.shown ++ "'" ++
      (if feature.truthy then " required for " ++ feature.shown else "") ++
      ". Install with: " ++ installCommand package
  | .notMember value enumeration => value.quoted ++ " is not a valid " ++ enumeration
  | .missingEntry key => Text.quoted key
  | .noMember kind name => "'" ++ kind ++ "' object has no attribute '" ++ name ++ "'"
  | .notCallable kind => "'" ++ kind ++ "' object is not callable"
  | .notByte => "byte must be in range(0, 256)"
  | .notSearchable kind => "argument of type '" ++ kind ++ "' is not iterable"
  | .searchNeedsText kind => "'in <string>' requires string as left operand, not " ++ kind
  | .searchNeedsBytes kind => "a bytes-like object is required, not '" ++ kind ++ "'"
  | .indexNotText kind =>
    if kind = "str" then "string indices must be integers, not 'str'"
    else if kind = "list" then "list indices must be integers or slices, not str"
    else "'" ++ kind ++ "' object is not subscriptable"
  | .unhashable kind => "unhashable type: '" ++ kind ++ "'"
  | .bytesNotText => "startswith first arg must be bytes or a tuple of bytes, not str"
  | .notStorable position kind =>
    s!"Error binding parameter {position}: type '" ++ kind ++ "' is not supported"
  | .notSerializable kind => "Object of type " ++ kind ++ " is not JSON serializable"
  | .mixedOffsets operation => "can't " ++ operation ++ " offset-naive and offset-aware datetimes"
  | .badTimestamp e => e.message
  | .numberTooLarge => "int too large to convert to float"
  | .fileNotFound path => "Configuration file not found: " ++ path
  | .unmatchedTag name => "closing tag [/" ++ name ++ "] does not match any open tag"
  | .isDirectory path => "[Errno 21] Is a directory: " ++ Text.quoted path
  | .malformedDocument _ => "malformed document"

/-- The name of a kind of error that has no message of its own. -/
def title : Error → String
  | .plain kind _ =>
    match kind with
    | .general => "Error"
    | .configuration => "ConfigurationError"
    | .notFound => "NotFoundError"
    | .dispatch => "DispatchError"
    | .webhookAuth => "WebhookAuthError"
    | .jobHandler => "JobHandlerError"
    | .storage => "StorageError"
  | .foreign kind _ =>
    match kind with
    | .runtime => "RuntimeError"
    | .invalidValue => "ValueError"
    | .missingKey => "KeyError"
    | .timeout => "TimeoutError"
    | .connection => "ConnectionError"
    | .integrity => "IntegrityError"
    | .outOfRange => "OverflowError"
    | .wrongType => "TypeError"
    | .undecodable => "UnicodeDecodeError"
    | .unencodable => "UnicodeEncodeError"
    | .system => "OSError"
    | .badIndex => "IndexError"
    | .noRoom => "MemoryError"
    | .tooDeep => "RecursionError"
  | _ => "Error"

/-- The message of an error, or its title if there is none. -/
def summary (e : Error) : String := if e.message = "" then e.title else e.message

def isInvalidSchedule : Error → Bool
  | .invalidSchedule .. => true
  | _ => false

def isUnauthorized : Error → Bool
  | .plain .webhookAuth _ => true
  | _ => false

/-- The message of an error made from a list of details: none, one, or all in brackets. -/
def detail : List Value → String
  | [] => ""
  | [v] => v.shown
  | vs => "(" ++ ", ".intercalate (Value.quotedItems vs) ++ ")"

end Error

instance : Inhabited Error := ⟨.numberTooLarge⟩

end ProcessTriggers
