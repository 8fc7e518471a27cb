import ProcessTriggers.Json.Printer
import ProcessTriggers.Json.Reader
import ProcessTriggers.Store.Keyed
import ProcessTriggers.Store.Relation
import ProcessTriggers.Trigger.Codec
import ProcessTriggers.Value.Sorting

/-!
The store of triggers, held in memory or in a relation. Both offer the same operations.
-/

namespace ProcessTriggers

/-- What to look for; a condition that is absent admits every trigger. -/
structure TriggerFilter where
  workspaceId : Option Value := none
  type : Option TriggerType := none
  isActive : Option Value := none
  definitionId : Option Value := none

inductive TriggerStore
  | memory (triggers : Keyed Trigger)
  | relation (rows : List Entries)

namespace Trigger

/-- Whether a trigger in memory is among those looked for. -/
def isAmong (t : Trigger) (f : TriggerFilter) : Bool :=
  f.workspaceId.all t.workspaceId.equal && f.type.all t.type.is &&
    f.isActive.all t.isActive.equal && f.definitionId.all t.definitionId.equal

def schema : Relation.Schema where
  table := "process_triggers"
  columns := [
    { name := "id", required := false },
    { name := "workspace_id" },
    { name := "process_definition_id" },
    { name := "trigger_type" },
    { name := "conditions" },
    { name := "variable_mappings" },
    { name := "is_active", preference := .integer },
    { name := "name", required := false },
    { name := "description", required := false },
    { name := "created_by_id", required := false },
    { name := "last_triggered_at", required := false },
    { name := "trigger_count", preference := .integer },
    { name := "created_at" },
    { name := "updated_at" }]

/-- A trigger as a row, its conditions and mappings written as JSON. -/
def toRow (t : Trigger) : Except Error Entries := do
  let es ← t.toObject
  let conditions ← Json.print Json.stored t.conditions
  let mappings ← Json.print Json.stored t.variableMappings
  return ((es.put "conditions" (.text conditions)).put "variable_mappings" (.text mappings)).put
    "is_active" (.int (if t.isActive.truthy then 1 else 0))

/-- A JSON text read back. -/
def readJson (v : Value) : Except Error Value :=
  match v with
  | .text s =>
    match Json.parse? s with
    | some w => .ok w
    | none => .error (.foreign .invalidValue "the stored text is no JSON")
  | v => .error (.foreign .wrongType ("the stored JSON is no text but of kind " ++ v.kindName))

/-- The trigger of a row. All of its fields are there, so no time is supplied for any. -/
def ofRow (row : Entries) : Except Error Trigger := do
  let conditions ← readJson (Value.entry row "conditions")
  let mappings ← readJson (Value.entry row "variable_mappings")
  let es := (row.put "conditions" conditions).put "variable_mappings" mappings
  readFields (Value.entry row "id") (Stamp.ofInstant Stamp.epoch) es

end Trigger

namespace TriggerStore

/-- The conditions of a filter as columns with the values that they must have, in order. -/
def conditions (f : TriggerFilter) : List (String × Value) :=
  [("workspace_id", f.workspaceId), ("trigger_type", f.type.map fun t => .text t.name),
    ("is_active", f.isActive.map fun v => .int (if v.truthy then 1 else 0)),
    ("process_definition_id", f.definitionId)].filterMap fun (column, v) => v.map (column, ·)

/-- Whether a row is among those looked for. -/
def rowIsAmong (f : TriggerFilter) : Except Error (Entries → Bool) := do
  let cs := conditions f
  let bound ← Relation.bindAll (cs.map (·.2))
  return fun row =>
    (cs.zip bound).all fun ((column, _), v) =>
      if column = "is_active" then (Value.entry row column).equal v
      else Relation.isAt column v row

def insert (s : TriggerStore) (t : Trigger) : Except Error TriggerStore := do
  match s with
  | .memory ts => return .memory (ts.put (← t.id.asKey) t)
  | .relation rows => return .relation (← Relation.insert Trigger.schema rows (← t.toRow))

def get (s : TriggerStore) (id : Value) : Except Error (Option Trigger) := do
  match s with
  | .memory ts => return ts.get? (← id.asKey)
  | .relation rows =>
    let bound ← Relation.bind id
    (rows.find? (Relation.isAt "id" bound)).mapM Trigger.ofRow

def notFound (id : Value) : Error :=
  PlainError.storage.error ("Trigger " ++ id.shown ++ " not found")

/-- Replaces a stored trigger. -/
def save (s : TriggerStore) (t : Trigger) : Except Error TriggerStore := do
  match s with
  | .memory ts =>
    let key ← t.id.asKey
    if ts.has key then return .memory (ts.put key t) else throw (notFound t.id)
  | .relation rows =>
    match ← Relation.update Trigger.schema rows (← t.toRow) with
    | some rows => return .relation rows
    | none => throw (notFound t.id)

/-- Removes a trigger and says whether there was one. -/
def delete (s : TriggerStore) (id : Value) : Except Error (Bool × TriggerStore) := do
  match s with
  | .memory ts =>
    let key ← id.asKey
    return (ts.has key, .memory (ts.erase key))
  | .relation rows =>
    let isMeant := Relation.isAt "id" (← Relation.bind id)
    return (rows.any isMeant, .relation (rows.filter (!isMeant ·)))

/-- The triggers looked for, the newest first. -/
def find (s : TriggerStore) (f : TriggerFilter) : Except Error (List Trigger) := do
  match s with
  | .memory ts => Value.sortNewestFirst (·.createdAt) (ts.items.filter (·.isAmong f))
  | .relation rows =>
    let isAmong ← rowIsAmong f
    (Relation.newestFirst "created_at" (rows.filter isAmong)).mapM Trigger.ofRow

/-- Counts one more start of a trigger. One that is not stored is passed over. -/
def recordFire (s : TriggerStore) (id : Value) (firedAt : Stamp) : Except Error TriggerStore := do
  match s with
  | .memory ts =>
    let key ← id.asKey
    match ts.get? key with
    | none => return s
    | some t =>
      let count ← t.triggerCount.increment
      let fired := { t with triggerCount := count, lastTriggeredAt := .stamp firedAt }
      return .memory (ts.put key fired)
  | .relation rows =>
    let isMeant := Relation.isAt "id" (← Relation.bindAt 2 id)
    return .relation (rows.map fun row =>
      if isMeant row then
        (row.put "trigger_count" (Relation.addOne (Value.entry row "trigger_count"))).put
          "last_triggered_at" (.text firedAt.isoText)
      else row)

/-- What is left after the store was closed: a relation held in memory is lost. -/
def closed : TriggerStore → TriggerStore
  | .memory ts => .memory ts
  | .relation _ => .relation []

end TriggerStore
end ProcessTriggers
