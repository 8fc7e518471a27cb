import ProcessTriggers.Trigger.Codec

/-!
Jobs, the units of work that the orchestrator hands out, and how each kind of job is handled.
-/

namespace ProcessTriggers

structure Job where
  key : Value
  type : Value
  vars : Value := .object []
  runKey : Value := .text ""
  elementId : Value := .null
  retries : Value := .int 3

namespace Job

def fieldNames : List String :=
  ["key", "type", "variables", "process_instance_key", "element_id", "retries", "custom_headers",
    "on_complete", "on_fail"]

/-- A job from given fields, of which the key and the type are required. -/
def create (es : Entries) : Except Error Job :=
  match es.keys.find? (!fieldNames.contains ·), es.get? "key", es.get? "type" with
  | some extra, _, _ => .error (.wrongFields s!"unexpected field {extra}")
  | none, some key, some type =>
    .ok {
      key
      type
      vars := Value.entryOr es "variables" (.object [])
      runKey := Value.entryOr es "process_instance_key" (.text "")
      elementId := Value.entry es "element_id"
      retries := Value.entryOr es "retries" (.int 3) }
  | none, _, _ => .error (.wrongFields "a job needs a key and a type")

/-- A variable of the job, null where it is not given. -/
def input (j : Job) (name : String) : Except Error Value := j.vars.get name

end Job

/-- What was reported for a job: that it is complete, with output variables, or that it failed, with
an error and the attempts that remain. -/
structure JobReport where
  jobKey : Value
  completed : Bool
  vars : Entries := []
  errorMessage : Value := .null
  retries : Value := .null

namespace JobReport

def complete (key : Value) (vars : Entries) : JobReport := ⟨key, true, vars, .null, .null⟩

def fail (key : Value) (message : String) (retries : Value) : JobReport :=
  ⟨key, false, [], .text message, retries⟩

def toObject (r : JobReport) : Entries :=
  [("job_key", r.jobKey), ("completed", .bool r.completed), ("variables", .object r.vars),
    ("error_message", r.errorMessage), ("retries", r.retries)]

end JobReport

namespace JobKind

/-- The flag that tells whether a job of a kind had its effect. -/
def flag : JobKind → String
  | .updateEntityStatus => "statusUpdated"
  | .setAssignee => "assigneeSet"
  | .createEntity => "entityCreated"
  | .sendNotification => "notificationSent"
  | .sendEmail => "emailSent"
  | .logActivity => "logged"
  | .classifyEntity => "classified"
  | .processCompleted => "completed"
  | .suggestAssignee => "hasSuggestion"
  | .checkDuplicate => "isDuplicate"

/-- The first three kinds fail when their effect cannot be applied. -/
def mode : JobKind → JobMode
  | .updateEntityStatus | .setAssignee | .createEntity => .failCapable
  | _ => .bestEffort

/-- The output that says that a job found no duplicate. -/
def noDuplicate : Entries :=
  [("isDuplicate", .bool false), ("duplicateRequestId", .int 0), ("duplicateSimilarity", .int 0)]

/-- The output with which a job of a best-effort kind is completed after an error. -/
def errorOutput? (k : JobKind) (message : Value) : Option Entries :=
  match k.mode, k with
  | .failCapable, _ => none
  | .bestEffort, .checkDuplicate => some noDuplicate
  | .bestEffort, k => some [(k.flag, .bool false), ("error", message)]

end JobKind

/-- How the jobs of a kind are handled: by the handler of some kind, in a mode, and with the error
output of some kind. -/
structure Handling where
  handler : JobKind
  mode : JobMode
  onError : Option JobKind
  deriving DecidableEq

namespace Handling

def standard (k : JobKind) : Handling :=
  ⟨k, k.mode, if k.mode = .bestEffort then some k else none⟩

/-- The output for a job that was completed in spite of an error. -/
def errorOutput (h : Handling) (message : Value) : Entries :=
  ((h.onError.bind (·.errorOutput? message))).getD [("error", message)]

abbrev Table := List (JobKind × Handling)

def standardTable : Table := (Enumeration.members (α := JobKind)).map fun k => (k, standard k)

/-- A table in which a later handling of a kind replaces an earlier one. -/
def Table.put : Table → JobKind → Handling → Table
  | [], k, h => [(k, h)]
  | (k', h') :: r, k, h => if k' = k then (k, h) :: r else (k', h') :: Table.put r k h

end Handling
end ProcessTriggers
