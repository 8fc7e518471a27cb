import ProcessTriggers.Audit.Recorder

/-!
Calls of the stores of triggers and executions. A relation is opened by the first call that reaches
it. While the program waits for a relation, the audits that are noted get written; a store in memory
answers at once.
-/

namespace ProcessTriggers.Automation

/-- Whether a store is held in a relation. -/
def isRelational (s : Automation) : RelationName → Bool
  | .triggers => (s.triggers matches .relation _)
  | .executions => (s.executions matches .relation _)

/-- Opens a relation that is not open yet, which is waited for. -/
def openRelation (name : RelationName) : Action Unit := do
  let s ← get
  if s.isRelational name && !s.opened.contains name then
    Audit.settle
    modify fun s => { s with opened := name :: s.opened }

/-- Waits for a store if it is held in a relation. -/
def wait (name : RelationName) : Action Unit := do
  if (← get).isRelational name then Audit.settle

/-- Closes a store. A relation held in memory is lost by that. -/
def closeStore (name : RelationName) : Action Unit := do
  if (← get).opened.contains name then
    wait name
    modify fun s => { s with opened := s.opened.erase name }
  match name with
  | .triggers => modify fun s => { s with triggers := s.triggers.closed }
  | .executions => modify fun s => { s with executions := s.executions.closed }

/-- Makes a storage call that reaches a store, unless it is broken. What `prepare` finds wrong is
found before the call is waited for. -/
def reaching {α : Type} (c : StorageCall) (name : RelationName) (prepare : Except Error Unit)
    (a : Action α) : Action α :=
  calling c do
    openRelation name
    if (← get).isRelational name then Action.ofExcept prepare
    wait name
    a

/-! Calls of the trigger store. -/

def insertTrigger (t : Trigger) : Action Trigger :=
  reaching .insert .triggers (t.toRow.map fun _ => ()) do
    let store ← Action.ofExcept ((← get).triggers.insert t)
    modify ({ · with triggers := store })
    return t

def getTrigger (id : Value) : Action (Option Trigger) :=
  reaching .get .triggers (.ok ()) do Action.ofExcept ((← get).triggers.get id)

def saveTrigger (t : Trigger) : Action Trigger :=
  reaching .save .triggers (t.toRow.map fun _ => ()) do
    let store ← Action.ofExcept ((← get).triggers.save t)
    modify ({ · with triggers := store })
    return t

def deleteTrigger (id : Value) : Action Bool :=
  reaching .delete .triggers (.ok ()) do
    let (found, store) ← Action.ofExcept ((← get).triggers.delete id)
    modify ({ · with triggers := store })
    return found

def findTriggers (f : TriggerFilter) : Action (List Trigger) :=
  reaching .find .triggers (.ok ()) do Action.ofExcept ((← get).triggers.find f)

def recordFire (id : Value) (firedAt : Stamp) : Action Unit :=
  reaching .recordFire .triggers (.ok ()) do
    let store ← Action.ofExcept ((← get).triggers.recordFire id firedAt)
    modify ({ · with triggers := store })

/-! Calls of the execution store. -/

def appendExecution (e : Execution) : Action Execution :=
  reaching .append .executions (e.toRow.map fun _ => ()) do
    let store ← Action.ofExcept ((← get).executions.append e)
    modify ({ · with executions := store })
    return e

def executionsOf (id limit : Value) : Action (List Execution) :=
  reaching .listForTrigger .executions (.ok ()) do
    Action.ofExcept ((← get).executions.listForTrigger id limit)

/-- The newest executions of several triggers. Without any, a relation is not reached. -/
def recentExecutions (ids : List Value) (limit : Value) : Action (List Execution) := do
  let found : Action (List Execution) := do
    Action.ofExcept ((← get).executions.listRecent ids limit)
  if ids.isEmpty then calling .listRecent found
  else reaching .listRecent .executions (.ok ()) found

end ProcessTriggers.Automation
