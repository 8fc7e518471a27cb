import ProcessTriggers.Enumeration
import ProcessTriggers.Value.Access

/-!
Triggers, the rules that bind an event type and conditions to a process definition, and the
process definitions themselves. The fields hold whatever they were given.
-/

namespace ProcessTriggers

/-- The type of a trigger: a known one, or a value that names none. -/
inductive TypeField
  | known (type : TriggerType)
  | other (v : Value)

/-- The name of a type. A value that names none may still carry a name in its field `value`. -/
def TypeField.name : TypeField → Except Error Value
  | .known t => .ok (.text t.name)
  | .other v => v.member "value"

def TypeField.is (f : TypeField) (t : TriggerType) : Bool :=
  match f with
  | .known t' => t' == t
  | .other _ => false

structure Trigger where
  id : Value
  workspaceId : Value
  definitionId : Value
  type : TypeField
  conditions : Value
  variableMappings : Value
  isActive : Value
  name : Value
  description : Value
  createdById : Value
  lastTriggeredAt : Value
  triggerCount : Value
  createdAt : Value
  updatedAt : Value

namespace Trigger

def isCron (t : Trigger) : Bool := t.type.is .cron

/-- A text setting of a cron trigger, null where it is not given. -/
def setting (t : Trigger) (key : String) : Except Error Value := do
  return (← t.conditions.get key).orElse .null

def cronExpression (t : Trigger) : Except Error Value := t.setting "expression"

def cronTimezone (t : Trigger) : Except Error Value := t.setting "timezone"

def displayName (t : Trigger) : Except Error Value := do
  if t.name.truthy then return t.name else t.type.name

end Trigger

/-- A process definition as the orchestrator reports it. -/
structure Definition where
  id : Value
  workspaceId : Value
  name : Value
  deployedKey : Value

def Definition.isDeployed (d : Definition) : Bool := d.deployedKey.truthy

end ProcessTriggers
