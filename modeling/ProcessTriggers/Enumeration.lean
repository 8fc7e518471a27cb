import ProcessTriggers.Error

/-!
Enumerations: closed sets of names for kinds and states, and reading a member from its name.
-/

namespace ProcessTriggers

/-- A type with finitely many members, each with a name. -/
class Enumeration (α : Type) where
  title : String
  members : List α
  name : α → String

namespace Enumeration

/-- The member with the given name. -/
def ofName? (α : Type) [Enumeration α] (s : String) : Option α :=
  (members (α := α)).find? fun m => name m == s

/-- The name of a member in capitals, its words joined by underscores. -/
def label {α : Type} [Enumeration α] (m : α) : String :=
  (name m).map fun c => if c = '-' then '_' else c.toUpper

/-- The member that a value names. -/
def read (α : Type) [Enumeration α] (v : Value) : Except Error α :=
  let found := match v with
    | .text s => ofName? α s
    | _ => none
  match found with
  | some m => .ok m
  | none => .error (.notMember v (title α))

end Enumeration

/-- The kind of event that a trigger listens to. -/
inductive TriggerType
  | entityCreated
  | statusChanged
  | assigneeChanged
  | commentAdded
  | cron
  | webhook
  | message
  deriving DecidableEq, Repr

def TriggerType.name : TriggerType → String
  | .entityCreated => "entity_created"
  | .statusChanged => "status_changed"
  | .assigneeChanged => "assignee_changed"
  | .commentAdded => "comment_added"
  | .cron => "cron"
  | .webhook => "webhook"
  | .message => "message"

instance : Enumeration TriggerType where
  title := "TriggerType"
  members := [.entityCreated, .statusChanged, .assigneeChanged, .commentAdded, .cron, .webhook,
    .message]
  name := TriggerType.name

/-- The outcome of one attempt to fire a trigger. -/
inductive ExecutionStatus
  | pending
  | success
  | failed
  | skipped
  deriving DecidableEq, Repr

def ExecutionStatus.name : ExecutionStatus → String
  | .pending => "pending"
  | .success => "success"
  | .failed => "failed"
  | .skipped => "skipped"

instance : Enumeration ExecutionStatus where
  title := "ExecutionStatus"
  members := [.pending, .success, .failed, .skipped]
  name := ExecutionStatus.name

/-- The state of a process run as it is kept outside the orchestrator. -/
inductive RunStatus
  | active
  | completed
  | cancelled
  | incident
  deriving DecidableEq, Repr

def RunStatus.name : RunStatus → String
  | .active => "active"
  | .completed => "completed"
  | .cancelled => "cancelled"
  | .incident => "incident"

instance : Enumeration RunStatus where
  title := "RunStatus"
  members := [.active, .completed, .cancelled, .incident]
  name := RunStatus.name

/-- The jobs that the orchestrator hands out. -/
inductive JobKind
  | updateEntityStatus
  | setAssignee
  | createEntity
  | sendNotification
  | sendEmail
  | logActivity
  | classifyEntity
  | processCompleted
  | suggestAssignee
  | checkDuplicate
  deriving DecidableEq, Repr

def JobKind.name : JobKind → String
  | .updateEntityStatus => "update-entity-status"
  | .setAssignee => "set-assignee"
  | .createEntity => "create-entity"
  | .sendNotification => "send-notification"
  | .sendEmail => "send-email"
  | .logActivity => "log-activity"
  | .classifyEntity => "classify-entity"
  | .processCompleted => "process-completed"
  | .suggestAssignee => "suggest-assignee"
  | .checkDuplicate => "check-duplicate"

instance : Enumeration JobKind where
  title := "JobKind"
  members := [.updateEntityStatus, .setAssignee, .createEntity, .sendNotification, .sendEmail,
    .logActivity, .classifyEntity, .processCompleted, .suggestAssignee, .checkDuplicate]
  name := JobKind.name

/-- How the errors of a job handler are reported: as failures that may be retried, or as completed
jobs that carry the error. -/
inductive JobMode
  | failCapable
  | bestEffort
  deriving DecidableEq, Repr

def JobMode.name : JobMode → String
  | .failCapable => "fail_capable"
  | .bestEffort => "best_effort"

instance : Enumeration JobMode where
  title := "JobMode"
  members := [.failCapable, .bestEffort]
  name := JobMode.name

end ProcessTriggers
