import ProcessTriggers.Scheduler.Timers

/-!
The registry of triggers. It checks what is written to the store, and tells the listener about every
change: after a write, and before a removal.
-/

namespace ProcessTriggers

namespace Trigger

/-- The fields that can be given for a new trigger. -/
def createFields : List String :=
  ["workspace_id", "process_definition_id", "trigger_type", "conditions", "variable_mappings",
    "is_active", "name", "description"]

/-- Replaces one field of a trigger, if it may be replaced. -/
def change (t : Trigger) (name : String) (v : Value) : Except Error Trigger :=
  match name with
  | "process_definition_id" => .ok { t with definitionId := v }
  | "conditions" => .ok { t with conditions := nullToEmpty v }
  | "variable_mappings" => .ok { t with variableMappings := nullToEmpty v }
  | "is_active" => .ok { t with isActive := v }
  | "name" => .ok { t with name := v }
  | "description" => .ok { t with description := v }
  | name => .error (.immutableField (.text name))

/-- The type of a trigger may be given again, but not changed. -/
def keepsType (t : Trigger) (changes : Entries) : Except Error Unit :=
  match changes.get? "trigger_type" with
  | none => .ok ()
  | some v => do
    if t.type.is (← Enumeration.read TriggerType v) then return ()
    throw (.immutableField (.text "trigger_type"))

/-- Applies changes in their order. -/
def applyAll (t : Trigger) (changes : Entries) : Except Error Trigger :=
  (changes.filter (·.1 ≠ "trigger_type")).foldlM (fun t (name, v) => t.change name v) t

/-- The trigger with some of its fields changed. -/
def applyChanges (t : Trigger) (changes : Entries) : Except Error Trigger := do
  t.keepsType changes
  t.applyAll changes

def toggled (t : Trigger) : Trigger := { t with isActive := .bool !t.isActive.truthy }

end Trigger

namespace Registry

open Automation (log)

/-- Tells the listener about a change. An error of the listener is logged and otherwise ignored. -/
def notify (t : Trigger) (deleted : Bool) : Action Unit := do
  let told : Action Unit := do
    match (← get).listener with
    | .none => return
    | .scheduler => Scheduler.onTriggerChanged t deleted
    | .recorder failure =>
      let stored := ((← get).triggers.get t.id).toOption.any (·.isSome)
      modify fun s => { s with events := s.events ++ [.noticed t.id t.isActive deleted stored] }
      if let some e := failure then throw e
  match ← Action.attempt told with
  | .ok _ => return
  | .error e =>
    log .registry Log.error
      ("Change listener failed for trigger " ++ t.id.shown ++ ": " ++ e.message)

def findDefinition (id : Value) : Action (Option Definition) := do
  Action.ofExcept ((← get).orchestrator.findDefinition id)

/-- A definition that must be known. -/
def requireDefinition (id : Value) : Action Unit := do
  if (← findDefinition id).isNone then throw (.definitionNotFound id)

/-- Creates a trigger for a known process definition. -/
def create (data : Entries) (userId : Value) : Action Trigger := do
  let unknown := data.keys.filter (!Trigger.createFields.contains ·)
  if !unknown.isEmpty then
    let names := unknown.mergeSort fun a b => !(b < a)
    throw (.foreign .invalidValue ("Unknown trigger fields: " ++ ", ".intercalate names))
  let definitionId ← Action.ofExcept (Value.requireEntry data "process_definition_id")
  requireDefinition definitionId
  let t ← Automation.make fun supply now =>
    Trigger.create supply now (data.put "created_by_id" userId)
  let saved ← Automation.insertTrigger t
  log .registry Log.info
    ("Created trigger " ++ saved.id.shown ++ " for process " ++ definitionId.shown)
  notify saved false
  return saved

def findOne (id : Value) : Action Trigger := do
  match ← Automation.getTrigger id with
  | some t => return t
  | none => throw (.triggerNotFound id)

/-- A condition that null leaves out. -/
def given (v : Value) : Option Value := if v.isNull then none else some v

def findByWorkspace (workspaceId : Value) : Action (List Trigger) :=
  Automation.findTriggers { workspaceId := given workspaceId }

def findByDefinition (definitionId : Value) : Action (List Trigger) :=
  Automation.findTriggers { definitionId := given definitionId }

/-- The active triggers of one type, of all workspaces if none is given. -/
def findActive (type : TriggerType) (workspaceId : Value) : Action (List Trigger) :=
  Automation.findTriggers
    { workspaceId := given workspaceId, type := some type, isActive := some (.bool true) }

/-- Changes some fields of a trigger. -/
def update (id : Value) (changes : Entries) : Action Trigger := do
  let t ← findOne id
  let t ← Action.ofExcept (t.applyChanges changes)
  if changes.has "process_definition_id" then requireDefinition t.definitionId
  let saved ← Automation.saveTrigger { t with updatedAt := .stamp (← Automation.now) }
  notify saved false
  return saved

/-- Switches a trigger on or off. -/
def toggle (id : Value) : Action Trigger := do
  let t ← findOne id
  let saved ← Automation.saveTrigger { t.toggled with updatedAt := .stamp (← Automation.now) }
  let state := if saved.isActive.truthy then "active" else "inactive"
  log .registry Log.info ("Trigger " ++ id.shown ++ " is now " ++ state)
  notify saved false
  return saved

def delete (id : Value) : Action Unit := do
  let t ← findOne id
  notify t true
  let _ ← Automation.deleteTrigger id
  log .registry Log.info ("Deleted trigger " ++ id.shown)

/-- Counts one more start of a trigger. -/
def recordFire (id : Value) (firedAt : Option Stamp) : Action Unit := do
  Automation.recordFire id (firedAt.getD (← Automation.now))

/-- A limit, or the one that is configured where none is given. -/
def limitOr (limit : Value) (configured : Config → Value) : Action Value := do
  let config := (← get).config
  return if limit.isNull then configured config else limit

def executionsOf (id limit : Value) : Action (List Execution) := do
  Automation.executionsOf id (← limitOr limit Config.historyLimit)

/-- The newest executions of the triggers of a workspace. -/
def recentExecutions (workspaceId limit : Value) : Action (List Execution) := do
  let ids := (← findByWorkspace workspaceId).map (·.id)
  Automation.recentExecutions ids (← limitOr limit Config.recentLimit)

end Registry
end ProcessTriggers
