import ProcessTriggers.Job.Handlers

/-!
The dispatcher of jobs. It runs the handler of a job and reports once how that went: the job is
complete, or it failed and may be tried again, or it is complete in spite of an error.
-/

namespace ProcessTriggers.Dispatcher

open Automation (log)

def change (f : Dispatcher → Dispatcher) : Action Unit :=
  modify fun s => { s with dispatcher := f s.dispatcher }

def changeCounts (f : JobCounts → JobCounts) : Action Unit :=
  change fun d => { d with counts := f d.counts }

/-- The outcome of a job among the metrics. -/
def countOutcome (k : JobKind) (outcome : String) : Action Unit :=
  Automation.count (.jobOutcome k.name outcome)

/-- Sends a report off, if the job has someone to report to. -/
def report (reports : Bool) (r : JobReport) : Action JobReport := do
  if reports then change fun d => { d with reports := d.reports ++ [r] }
  return r

/-- Calls the incident service for a job without attempts left. An error of the service is logged
and otherwise ignored. -/
def markIncident (job : Job) (message : String) : Action Unit := do
  let call := Handlers.call .incidentService "mark_as_incident"
    [.text job.runKey.shown, .text message] []
  match ← Action.attempt call with
  | .ok _ => return
  | .error e => log .dispatcher Log.warning ("Failed to mark incident: " ++ e.message)

/-- Reports that a job failed, with one attempt less. -/
def failWithIncidentCheck (job : Job) (reports : Bool) (message : String) : Action JobReport := do
  let remaining ← Action.ofExcept job.retries.decrement
  let exhausted ← Action.ofExcept (remaining.isAtMost (.int 0))
  if exhausted && (← Handlers.has .incidentService) then markIncident job message
  report reports (.fail job.key message remaining)

/-- Reports the error of a handler in the mode of its kind. -/
def reportError (k : JobKind) (h : Handling) (job : Job) (reports : Bool) (message : String) :
    Action JobReport := do
  match h.mode with
  | .bestEffort =>
    changeCounts fun c => { c with completed := c.completed + 1 }
    countOutcome k "completed_with_error"
    report reports (.complete job.key (h.errorOutput (.text message)))
  | .failCapable =>
    changeCounts fun c => { c with failed := c.failed + 1 }
    countOutcome k "failed"
    failWithIncidentCheck job reports message

/-- The correlation fields of a job. -/
def correlation (k : JobKind) (job : Job) : Entries :=
  [("job_key", job.key), ("job_type", .text k.name), ("process_instance_key", job.runKey)]

/-- Handles a job and reports the outcome. -/
def handle (k : JobKind) (job : Job) (reports : Bool) : Action JobReport := do
  match (← get).dispatcher.handlings.lookup k with
  | none =>
    throw (.foreign .missingKey ("<JobKind." ++ Enumeration.label k ++ ": '" ++ k.name ++ "'>"))
  | some h =>
    let startedAt ← Automation.now
    changeCounts fun c => { c with processed := c.processed + 1 }
    Action.binding (correlation k job) do
      log .dispatcher Log.info ("Handling job " ++ job.key.shown ++ " of type " ++ k.name)
      match ← Action.attempt (Handlers.run h.handler job) with
      | .error e =>
        changeCounts fun c => { c with errors := c.errors + 1 }
        Audit.schedule job "failed" startedAt
        log .dispatcher Log.error
          ("Job " ++ job.key.shown ++ " (" ++ k.name ++ ") failed: " ++ e.message)
        reportError k h job reports e.message
      | .ok output =>
        Audit.schedule job "success" startedAt
        changeCounts fun c => { c with completed := c.completed + 1 }
        countOutcome k "completed"
        report reports (.complete job.key output)

/-- Registers a worker for each kind of job that can be handled. -/
def registerAll : Action Unit := do
  let kinds := (← get).dispatcher.handlings.map (·.1.name)
  change ({ · with workers := kinds })
  log .dispatcher Log.info ("Job workers registered: " ++ ", ".intercalate kinds)

/-- What the orchestrator is given to hand out a job. -/
structure Order where
  type : Value
  vars : Value := .null
  runKey : Value := .text ""
  elementId : Value := .null
  retries : Value := .int 3

/-- The kind of job behind a type that has a worker. -/
def workerKind? (workers : List String) (type : Value) : Option JobKind :=
  match type with
  | .text s => if workers.contains s then Enumeration.ofName? JobKind s else none
  | _ => none

/-- Hands a job to its worker. -/
def emit (o : Order) : Action JobReport := do
  let type ← Action.ofExcept o.type.asKey
  match workerKind? (← get).dispatcher.workers type with
  | none =>
    throw (PlainError.dispatch.error ("No worker registered for job type " ++ type.shown))
  | some k =>
    let key ← Automation.drawId
    let vars ← Action.ofExcept (o.vars.orElse (.object [])).toEntries
    let job : Job := {
      key := .text key
      type
      vars := .object vars
      runKey := .text o.runKey.shown
      elementId := o.elementId
      retries := o.retries }
    handle k job true

end ProcessTriggers.Dispatcher
