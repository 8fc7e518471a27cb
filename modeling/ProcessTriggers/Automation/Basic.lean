import ProcessTriggers.Audit.Cache
import ProcessTriggers.Config
import ProcessTriggers.Job.Basic
import ProcessTriggers.Job.Collaborators
import ProcessTriggers.Log.Record
import ProcessTriggers.Metrics
import ProcessTriggers.Orchestrator
import ProcessTriggers.Store.Executions
import ProcessTriggers.Store.Runs
import ProcessTriggers.Time.Zone

/-!
The state of the whole automation, and actions on it. An action that fails keeps what it changed
before.
-/

namespace ProcessTriggers

/-- The calls of the stores, each of which can be made to fail. -/
inductive StorageCall
  | insert
  | get
  | save
  | delete
  | find
  | recordFire
  | append
  | listForTrigger
  | listRecent
  | findLinkage
  | saveElementRecord
  | updateRunStatus
  deriving DecidableEq, Repr

/-- The relations that can hold the stores. -/
inductive RelationName
  | triggers
  | executions
  deriving DecidableEq, Repr

/-- A registered cron trigger, the next time it fires, and the number of the task that waits for
that. -/
structure Timer where
  task : Nat
  triggerId : Value
  expression : Value
  zone : Zone
  nextRun : Instant

/-- An attempt to start the process of a trigger. -/
structure Attempt where
  trigger : Trigger
  execution : Execution
  vars : Entries
  options : StartOptions
  /-- The correlation fields that are bound during the attempt. -/
  bound : Entries

/-- Where a task of the scheduler stands. -/
inductive Stage
  /-- About to wait for the next time. -/
  | waiting
  | woken
  /-- Between the checks of a fired trigger and the start of its process. -/
  | starting (a : Attempt)
  /-- The start does not end and runs into its time limit. -/
  | stalled (a : Attempt)
  | concluding (a : Attempt) (outcome : Except Error StartedRun)

/-- A step of a task that is due: one of the pass over the stored triggers, or of the timer with
the task's number. -/
structure Due where
  task : Nat
  stage : Stage

/-- A waiting task and when it is due; none if it waits forever. -/
structure Sleeper where
  task : Nat
  wake : Option Stamp

structure Scheduler where
  running : Bool := false
  timers : Keyed Timer := []
  /-- The task of the periodic pass. -/
  pass : Option Nat := none
  /-- The waiting tasks, in the order in which they started to wait. -/
  sleepers : List Sleeper := []
  /-- The steps that are due, in the order in which they are taken. -/
  due : List Due := []
  lastTask : Nat := 0
  /-- The task whose step is being taken. -/
  current : Option Nat := none
  /-- The lengths of the waits that were started, in seconds. -/
  delays : List Value := []

/-- Who is told about changes of triggers. -/
inductive Listener
  | none
  | scheduler
  /-- Writes the changes down, and then fails if told to. -/
  | recorder (failure : Option Error)

/-- An audit that is still to be written, with the correlation fields bound for it. -/
structure PendingAudit where
  job : Job
  status : Value
  startedAt : Stamp
  bound : Entries

structure JobCounts where
  processed : Nat := 0
  completed : Nat := 0
  failed : Nat := 0
  errors : Nat := 0

structure Dispatcher where
  collaborators : Collaborators := []
  /-- Whether the handlers may change the states of runs. -/
  hasRunStore : Bool := false
  handlings : Handling.Table := Handling.standardTable
  /-- The types of jobs that have a worker. -/
  workers : List String := []
  audits : Bool := true
  cache : Audit.Cache Linkage := { maxSize := .int 1000 }
  pending : List PendingAudit := []
  counts : JobCounts := {}
  reports : List JobReport := []

/-- What others can observe from outside. -/
inductive Event
  | called (c : ServiceCall)
  | noticed (id active : Value) (deleted stored : Bool)

structure Automation where
  config : Config := {}
  clock : Stamp
  supply : Supply := {}
  triggers : TriggerStore := .memory []
  executions : ExecutionStore := .memory []
  /-- The relations that are open. -/
  opened : List RelationName := []
  runs : RunStore := {}
  /-- The storage calls that fail, and how. -/
  broken : List (StorageCall × Error) := []
  orchestrator : Orchestrator := {}
  /-- Whether started runs are registered in the store of runs. -/
  linksRuns : Bool := true
  listener : Listener := .none
  scheduler : Scheduler := {}
  dispatcher : Dispatcher := {}
  metrics : Metrics := {}
  /-- The correlation fields that are bound at present. -/
  bound : Entries := []
  logged : List Entries := []
  events : List Event := []

/-- An action on the automation, which may fail. -/
abbrev Action := ExceptT Error (StateM Automation)

namespace Action

/-- The outcome of an action, which itself does not fail. -/
def attempt {α : Type} (a : Action α) : Action (Except Error α) :=
  fun s =>
    let (r, s) := a s
    (.ok r, s)

def ofExcept {α : Type} (r : Except Error α) : Action α := ExceptT.mk (pure r)

/-- Runs an action with correlation fields bound, and restores the former ones even if it fails. -/
def withBound {α : Type} (bound : Entries) (a : Action α) : Action α :=
  fun s =>
    let (r, s') := a { s with bound }
    (r, { s' with bound := s.bound })

/-- Binds correlation fields in addition to the present ones. -/
def binding {α : Type} (fields : Entries) (a : Action α) : Action α := do
  withBound (Log.bind (← get).bound fields) a

end Action

/-- The parts of the program that write to the log. -/
inductive Channel
  | conditions
  | registry
  | engine
  | webhook
  | cron
  | handlers
  | dispatcher
  | audit

def Channel.name : Channel → String
  | .conditions => "triggers.conditions"
  | .registry => "triggers.registry"
  | .engine => "triggers.engine"
  | .webhook => "triggers.webhook"
  | .cron => "triggers.sources.cron"
  | .handlers => "jobs.handlers"
  | .dispatcher => "jobs.dispatcher"
  | .audit => "jobs.audit"

namespace Automation

def log (c : Channel) (level : Log.Level) (message : String) : Action Unit :=
  modify fun s =>
    let record : Log.Record := { level, logger := c.name, message }
    { s with logged := s.logged ++ [record.entry s.bound] }

def now : Action Stamp := do return Stamp.ofInstant (← get).clock.instant

def count (sample : Sample) : Action Unit :=
  modify fun s => { s with metrics := s.metrics.increment sample }

/-- The next identifier of the supply. -/
def drawId : Action String := do
  let (id, supply) := (← get).supply.drawId
  modify fun s => { s with supply }
  return id

/-- Makes a record with the supply and the current time. -/
def make {α : Type} (f : Supply → Stamp → Except Error α × Supply) : Action α := do
  let s ← get
  let (r, supply) := f s.supply (Stamp.ofInstant s.clock.instant)
  set { s with supply }
  Action.ofExcept r

/-- Makes a storage call, unless it is broken. -/
def calling {α : Type} (c : StorageCall) (a : Action α) : Action α := do
  match (← get).broken.lookup c with
  | some e => throw e
  | none => a

/-! Calls of the store of runs. -/

def findLinkage (key : String) : Action (Option Linkage) := calling .findLinkage do
  let (found, runs) := (← get).runs.findLinkage key
  modify ({ · with runs })
  return found

def saveElementRecord (r : ElementRecord) : Action Unit := calling .saveElementRecord do
  modify fun s => { s with runs := s.runs.saveRecord r }

def updateRunStatus (key : String) (status : RunStatus) : Action Unit := calling .updateRunStatus do
  let runs ← Action.ofExcept ((← get).runs.updateStatus key status)
  modify ({ · with runs })

/-! Calls of the orchestrator. -/

/-- Starts a process. The new run is registered if runs are linked. -/
def startProcess (definitionId vars : Value) (options : StartOptions) :
    Action Orchestrator.StartOutcome := do
  let s ← get
  let (outcome, orchestrator, supply) :=
    s.orchestrator.startProcess s.supply definitionId vars options
  set { s with orchestrator, supply }
  if let .started run := outcome then
    if s.linksRuns then
      modify fun s => { s with
        runs := s.runs.register run.handle.key ⟨.text run.handle.id, run.handle.definitionId⟩ }
  return outcome

end Automation
end ProcessTriggers
