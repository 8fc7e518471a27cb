import ProcessTriggers.Store.Keyed
import ProcessTriggers.Supply
import ProcessTriggers.Trigger.Basic
import ProcessTriggers.Value.Conversion

/-!
The orchestrator, which starts and runs processes. It knows the deployed definitions, keeps every
run that it started, and can be told that the next starts fail or never end.
-/

namespace ProcessTriggers

/-- Hints for the start of a process. -/
structure StartOptions where
  entityId : Value := .null
  businessKey : Value := .null
  startedById : Value := .null

def StartOptions.toObject (o : StartOptions) : Entries :=
  [("entity_id", o.entityId), ("business_key", o.businessKey), ("started_by_id", o.startedById)]

/-- The handle of a started run. -/
structure RunHandle where
  id : String
  key : String
  definitionId : Value

def RunHandle.toObject (h : RunHandle) : Entries :=
  [("id", .text h.id), ("process_instance_key", .text h.key),
    ("process_definition_id", h.definitionId)]

structure StartedRun where
  handle : RunHandle
  vars : Entries
  options : StartOptions
  cancelled : Bool := false

def StartedRun.toObject (r : StartedRun) : Entries :=
  [("handle", .object r.handle.toObject), ("variables", .object r.vars),
    ("options", .object r.options.toObject), ("cancelled", .bool r.cancelled)]

structure Orchestrator where
  definitions : Keyed Definition := []
  /-- The errors that the next starts end with, in order. -/
  startErrors : List Error := []
  /-- How many of the next starts never end. -/
  hangs : Nat := 0
  runs : List StartedRun := []

namespace Orchestrator

def deploy (o : Orchestrator) (d : Definition) : Except Error Orchestrator := do
  return { o with definitions := o.definitions.put (← d.id.asKey) d }

def findDefinition (o : Orchestrator) (id : Value) : Except Error (Option Definition) := do
  return o.definitions.get? (← id.asKey)

def failNextStart (o : Orchestrator) (e : Error) : Orchestrator :=
  { o with startErrors := o.startErrors ++ [e] }

/-- How a start ends: with a new run, with an error, or not at all. -/
inductive StartOutcome
  | started (run : StartedRun)
  | failed (e : Error)
  | hanging

/-- The run that a start makes when nothing is in its way. It draws the identifier of its handle
first and then the key of the run; after that the variables are read. -/
def newRun (s : Supply) (id vars : Value) (options : StartOptions) :
    Except Error StartedRun × Supply :=
  let (handleId, s) := s.drawId
  let (key, s) := s.draw
  (vars.toEntries.map fun es => ⟨⟨handleId, toString key, id⟩, es, options, false⟩, s)

/-- Starts a process. A queued error or hang is used up first. -/
def startProcess (o : Orchestrator) (s : Supply) (id vars : Value) (options : StartOptions) :
    StartOutcome × Orchestrator × Supply :=
  match o.hangs, o.startErrors with
  | n + 1, _ => (.hanging, { o with hangs := n }, s)
  | 0, e :: es => (.failed e, { o with startErrors := es }, s)
  | 0, [] =>
    match o.findDefinition id with
    | .error e => (.failed e, o, s)
    | .ok d =>
      if d.any (·.isDeployed) then
        match newRun s id vars options with
        | (.ok run, s) => (.started run, { o with runs := o.runs ++ [run] }, s)
        | (.error e, s) => (.failed e, o, s)
      else
        (.failed (PlainError.dispatch.error
          ("Process definition " ++ id.shown ++ " is not deployed")), o, s)

/-- Marks the first run with the given identifier as cancelled. -/
def cancelRun (id : Value) : List StartedRun → Option (List StartedRun)
  | [] => none
  | r :: rs =>
    if id.equal (.text r.handle.id) then some ({ r with cancelled := true } :: rs)
    else (cancelRun id rs).map (r :: ·)

def cancel (o : Orchestrator) (id : Value) : Except Error Orchestrator :=
  match cancelRun id o.runs with
  | some runs => .ok { o with runs }
  | none => .error (PlainError.dispatch.error ("Run " ++ id.shown ++ " not found"))

end Orchestrator
end ProcessTriggers
