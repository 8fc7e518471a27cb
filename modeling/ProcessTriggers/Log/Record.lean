import ProcessTriggers.Json.Printer

/-!
Log records. While a trigger is fired or a job is handled, correlation fields are bound, and every
entry written inside shows them.
-/

namespace ProcessTriggers.Log

/-- The severity of a record, by number. -/
abbrev Level := Int

def unset : Level := 0
def debug : Level := 10
def info : Level := 20
def warning : Level := 30
def error : Level := 40
def critical : Level := 50

/-- The names of the levels. -/
def levelNames : List (Level × String) :=
  [(unset, "NOTSET"), (debug, "DEBUG"), (info, "INFO"), (warning, "WARNING"), (error, "ERROR"),
    (critical, "CRITICAL")]

def levelName (l : Level) : String := (levelNames.lookup l).getD s!"Level {l}"

/-- The fields that tell which trigger or job an entry belongs to. -/
def contextFields : List String :=
  ["trigger_id", "workspace_id", "trigger_type", "job_key", "job_type", "process_instance_key"]

/-- The attributes of a record that its entry shows. -/
def shownAttributes : List String :=
  contextFields ++ ["duration_ms", "retries", "status", "error_type"]

/-- The fields bound inside a block: the outer ones with the given ones over them. Null binds
nothing. -/
def bind (outer fields : Entries) : Entries := outer.merge (fields.filter fun e => !e.2.isNull)

/-- The fields bound inside nested blocks, the outermost first. -/
def bindAll (blocks : List Entries) : Entries := blocks.foldl bind []

structure Record where
  level : Level
  logger : String
  message : String
  attributes : Entries := []

namespace Record

/-- Copies the bound fields onto a record that lacks them; a field that is not bound is empty. -/
def fill (bound : Entries) (r : Record) : Record :=
  { r with attributes := contextFields.foldl (fun es field =>
      if es.has field then es else es.put field ((bound.get? field).getD (.text ""))) r.attributes }

/-- The bound fields that are not null. -/
def boundFields (bound : Entries) : Entries :=
  contextFields.filterMap fun field =>
    match bound.get? field with
    | some .null | none => none
    | some v => some (field, v)

/-- The attributes of a record that are neither null nor an empty text. -/
def givenAttributes (r : Record) : Entries :=
  shownAttributes.filterMap fun field =>
    match r.attributes.get? field with
    | some v => if v.isNull || v.equal (.text "") then none else some (field, v)
    | none => none

/-- The correlation fields of an entry: what the record itself gives wins over what is bound. -/
def fields (bound : Entries) (r : Record) : Entries := (boundFields bound).merge r.givenAttributes

/-- The entry of a record without time and place. -/
def entry (bound : Entries) (r : Record) : Entries :=
  Entries.merge
    [("level", .text (levelName r.level)), ("logger", .text r.logger), ("message", .text r.message)]
    (r.fields bound)

end Record

/-- An entry as a line of JSON. -/
def line (entry : Entries) : Except Error String := Json.print Json.tolerant (.object entry)

end ProcessTriggers.Log
