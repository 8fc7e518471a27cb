import ProcessTriggers.Store.Triggers

/-!
The log of executions, held in memory or in a relation. Rows are only ever added.
-/

namespace ProcessTriggers

inductive ExecutionStore
  | memory (rows : List Execution)
  | relation (rows : List Entries)

namespace Execution

def schema : Relation.Schema where
  table := "trigger_executions"
  columns := [
    { name := "id", required := false },
    { name := "trigger_id" },
    { name := "trigger_context" },
    { name := "status" },
    { name := "process_instance_id", required := false },
    { name := "error_message", required := false },
    { name := "executed_at" }]

def toRow (e : Execution) : Except Error Entries := do
  let es ← e.toObject
  return es.put "trigger_context" (.text (← Json.print Json.tolerant e.context))

def ofRow (row : Entries) : Except Error Execution := do
  let context ← Trigger.readJson (Value.entry row "trigger_context")
  let fields := row.put "trigger_context" context
  readFields (Value.entry row "id") (Stamp.ofInstant Stamp.epoch) fields

end Execution

namespace ExecutionStore

def append (s : ExecutionStore) (e : Execution) : Except Error ExecutionStore := do
  match s with
  | .memory rows => return .memory (rows ++ [e])
  | .relation rows => return .relation (← Relation.insert Execution.schema rows (← e.toRow))

/-- The newest executions of one trigger. -/
def listForTrigger (s : ExecutionStore) (id limit : Value) : Except Error (List Execution) := do
  match s with
  | .memory rows =>
    let found := rows.filter (·.triggerId.equal id)
    Value.takeLimit limit (← Value.sortNewestFirst (·.executedAt) found)
  | .relation rows =>
    let bound ← Relation.bindAll [id, limit]
    let isMeant := Relation.isAt "trigger_id" (bound.headD .null)
    let found := Relation.newestFirst "executed_at" (rows.filter isMeant)
    (← Relation.takeLimit (bound.getLastD .null) found).mapM Execution.ofRow

/-- The newest executions of several triggers. -/
def listRecent (s : ExecutionStore) (ids : List Value) (limit : Value) :
    Except Error (List Execution) := do
  match s with
  | .memory rows =>
    let keys ← ids.mapM Value.asKey
    let found ← rows.filterM fun e => do return keys.any (← e.triggerId.asKey).equal
    Value.takeLimit limit (← Value.sortNewestFirst (·.executedAt) found)
  | .relation rows =>
    if ids.isEmpty then return []
    let bound ← Relation.bindAll (ids ++ [limit])
    let found := rows.filter fun row => bound.dropLast.any (Relation.isAt "trigger_id" · row)
    let found := Relation.newestFirst "executed_at" found
    (← Relation.takeLimit (bound.getLastD .null) found).mapM Execution.ofRow

def count : ExecutionStore → Nat
  | .memory rows => rows.length
  | .relation rows => rows.length

def closed : ExecutionStore → ExecutionStore
  | .memory rows => .memory rows
  | .relation _ => .relation []

end ExecutionStore
end ProcessTriggers
