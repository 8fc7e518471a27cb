import ProcessTriggers.Supply
import ProcessTriggers.Trigger.Basic
import ProcessTriggers.Trigger.Execution

/-!
Triggers and executions as objects: writing every field under its name, and reading a record back.
-/

namespace ProcessTriggers

namespace Value

/-- A point in time that may be written as text. -/
def readTime (v : Value) : Except Error Value :=
  match v with
  | .text s =>
    match Stamp.parse s with
    | .ok t => .ok (.stamp t)
    | .error e => .error (.badTimestamp e)
  | v => .ok v

/-- The text of a point in time, null for a falsy value. -/
def writeTime (v : Value) : Except Error Value :=
  match v with
  | .stamp t => .ok (.text t.isoText)
  | v => if v.truthy then .error (v.lacks "isoformat") else .ok .null

/-- An entry that must be there. -/
def requireEntry (es : Entries) (key : String) : Except Error Value :=
  match es.get? key with
  | some v => .ok v
  | none => .error (.missingEntry key)

/-- An entry, or another value where there is none. -/
def entryOr (es : Entries) (key : String) (default : Value) : Value := (es.get? key).getD default

/-- The point in time under a key, or the current one. -/
def readTimeOr (es : Entries) (key : String) (now : Stamp) : Except Error Value := do
  return (← (entry es key).readTime).orElse (.stamp now)

end Value

/-- The identifier of a record: its own one, or the next of the supply. -/
def Supply.idOf (s : Supply) (es : Entries) : Value × Supply :=
  let given := Value.entry es "id"
  if given.truthy then (given, s)
  else
    let (id, s) := s.drawId
    (.text id, s)

namespace Trigger

open Value (entry entryOr requireEntry readTimeOr)

def toObject (t : Trigger) : Except Error Entries := do
  return [
    ("id", t.id),
    ("workspace_id", t.workspaceId),
    ("process_definition_id", t.definitionId),
    ("trigger_type", ← t.type.name),
    ("conditions", t.conditions),
    ("variable_mappings", t.variableMappings),
    ("is_active", t.isActive),
    ("name", t.name),
    ("description", t.description),
    ("created_by_id", t.createdById),
    ("last_triggered_at", ← t.lastTriggeredAt.writeTime),
    ("trigger_count", t.triggerCount),
    ("created_at", ← t.createdAt.writeTime),
    ("updated_at", ← t.updatedAt.writeTime)]

/-- Reads the fields of a stored trigger, whose identifier is known already. -/
def readFields (id : Value) (now : Stamp) (es : Entries) : Except Error Trigger := do
  return {
    id
    workspaceId := ← requireEntry es "workspace_id"
    definitionId := ← requireEntry es "process_definition_id"
    type := .known (← Enumeration.read TriggerType (← requireEntry es "trigger_type"))
    conditions := (entry es "conditions").orElse (.object [])
    variableMappings := (entry es "variable_mappings").orElse (.object [])
    isActive := .bool (entryOr es "is_active" (.bool true)).truthy
    name := entry es "name"
    description := entry es "description"
    createdById := entry es "created_by_id"
    lastTriggeredAt := ← (entry es "last_triggered_at").readTime
    triggerCount := entryOr es "trigger_count" (.int 0)
    createdAt := ← readTimeOr es "created_at" now
    updatedAt := ← readTimeOr es "updated_at" now }

/-- Reads a trigger from an object. The identifier is settled before any other field is read. -/
def ofObject (s : Supply) (now : Stamp) (es : Entries) : Except Error Trigger × Supply :=
  let (id, s) := s.idOf es
  (readFields id now es, s)

/-- Sets one field by its name, unchecked. Other names are passed over. -/
def assign (t : Trigger) (name : String) (v : Value) : Trigger :=
  match name with
  | "id" => { t with id := v }
  | "workspace_id" => { t with workspaceId := v }
  | "process_definition_id" => { t with definitionId := v }
  | "trigger_type" => { t with type := .other v }
  | "conditions" => { t with conditions := v }
  | "variable_mappings" => { t with variableMappings := v }
  | "is_active" => { t with isActive := v }
  | "name" => { t with name := v }
  | "description" => { t with description := v }
  | "created_by_id" => { t with createdById := v }
  | "last_triggered_at" => { t with lastTriggeredAt := v }
  | "trigger_count" => { t with triggerCount := v }
  | "created_at" => { t with createdAt := v }
  | "updated_at" => { t with updatedAt := v }
  | _ => t

/-- The names of all fields. -/
def fieldNames : List String :=
  ["id", "workspace_id", "process_definition_id", "trigger_type", "conditions",
    "variable_mappings", "is_active", "name", "description", "created_by_id", "last_triggered_at",
    "trigger_count", "created_at", "updated_at"]

/-- The fields without a default. -/
def requiredNames : List String := ["workspace_id", "process_definition_id", "trigger_type"]

/-- The type given for a new trigger. A text must name a known type. -/
def newType (v : Value) : Except Error TypeField :=
  match v with
  | .text _ => (Enumeration.read TriggerType v).map .known
  | v => .ok (.other v)

def nullToEmpty (v : Value) : Value := if v.isNull then .object [] else v

/-- A new trigger from given fields, which are taken as they are. -/
def create (s : Supply) (now : Stamp) (es : Entries) : Except Error Trigger × Supply :=
  match es.keys.find? (!fieldNames.contains ·), requiredNames.find? (!es.keys.contains ·) with
  | some extra, _ => (.error (.wrongFields s!"unexpected field {extra}"), s)
  | none, some lacking => (.error (.wrongFields s!"missing field {lacking}"), s)
  | none, none =>
    let (id, s) := match es.get? "id" with
      | some id => (id, s)
      | none => let (id, s) := s.drawId; (.text id, s)
    let trigger := do
      return {
        id
        workspaceId := entry es "workspace_id"
        definitionId := entry es "process_definition_id"
        type := ← newType (entry es "trigger_type")
        conditions := nullToEmpty (entryOr es "conditions" (.object []))
        variableMappings := nullToEmpty (entryOr es "variable_mappings" (.object []))
        isActive := entryOr es "is_active" (.bool true)
        name := entry es "name"
        description := entry es "description"
        createdById := entry es "created_by_id"
        lastTriggeredAt := entry es "last_triggered_at"
        triggerCount := entryOr es "trigger_count" (.int 0)
        createdAt := entryOr es "created_at" (.stamp now)
        updatedAt := entryOr es "updated_at" (.stamp now) }
    (trigger, s)

end Trigger

namespace Execution

open Value (entry requireEntry readTimeOr)

def toObject (e : Execution) : Except Error Entries := do
  return [
    ("id", e.id),
    ("trigger_id", e.triggerId),
    ("trigger_context", e.context),
    ("status", .text e.status.name),
    ("process_instance_id", e.processInstanceId),
    ("error_message", e.errorMessage),
    ("executed_at", ← e.executedAt.writeTime)]

def readFields (id : Value) (now : Stamp) (es : Entries) : Except Error Execution := do
  return {
    id
    triggerId := ← requireEntry es "trigger_id"
    context := (entry es "trigger_context").orElse (.object [])
    status := ← Enumeration.read ExecutionStatus (← requireEntry es "status")
    processInstanceId := entry es "process_instance_id"
    errorMessage := entry es "error_message"
    executedAt := ← readTimeOr es "executed_at" now }

def ofObject (s : Supply) (now : Stamp) (es : Entries) : Except Error Execution × Supply :=
  let (id, s) := s.idOf es
  (readFields id now es, s)

end Execution

namespace Definition

def fieldNames : List String := ["id", "workspace_id", "name", "deployed_key"]

/-- A definition from given fields, of which only the identifier is required. -/
def create (es : Entries) : Except Error Definition :=
  match es.keys.find? (!fieldNames.contains ·), es.get? "id" with
  | some extra, _ => .error (.wrongFields s!"unexpected field {extra}")
  | none, none => .error (.wrongFields "missing field id")
  | none, some id =>
    .ok ⟨id, Value.entry es "workspace_id", Value.entry es "name", Value.entry es "deployed_key"⟩

def toObject (d : Definition) : Entries :=
  [("id", d.id), ("workspace_id", d.workspaceId), ("name", d.name),
    ("deployed_key", d.deployedKey)]

end Definition
end ProcessTriggers
