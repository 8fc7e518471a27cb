import ProcessTriggers.Automation.Storage
import ProcessTriggers.Condition.Basic
import ProcessTriggers.Registry
import ProcessTriggers.Variables

/-!
The engine. It fires the active triggers whose conditions match an event: their processes are
started with variables taken from the event, and each attempt leaves one execution, which says how
it went.
-/

namespace ProcessTriggers.Engine

open Automation (log)

/-- Whether the conditions of a trigger match. An expression that cannot be evaluated is logged. -/
def isMatch (t : Trigger) (context : Value) : Action Bool := do
  let o ← Action.ofExcept (Condition.outcome t.conditions context)
  if let some e := o.unevaluated then
    log .conditions Log.warning ("Failed to evaluate custom expression: " ++ e.shown)
  return o.holds

/-- A count that is kept only if metrics are. -/
def countIfMetered (sample : Action Sample) : Action Unit := do
  if (← get).config.metrics.truthy then Automation.count (← sample)

/-- An attempt with a new execution. -/
def newAttempt (t : Trigger) (context vars : Entries) (options : StartOptions) :
    Action Attempt := do
  let id ← Automation.drawId
  let execution : Execution :=
    ⟨.text id, t.id, .object context, .pending, .null, .null, .stamp (← Automation.now)⟩
  return ⟨t, execution, vars, options, (← get).bound⟩

def ensureDeployed (t : Trigger) : Action Unit := do
  if !((← Registry.findDefinition t.definitionId).any (·.isDeployed)) then
    throw (.notDeployed t.definitionId)

/-- The error of a start that runs into its time limit. -/
def timeLimitError (a : Attempt) (limit : Value) : Error :=
  PlainError.dispatch.error ("Orchestrator did not start process " ++
    a.trigger.definitionId.shown ++ " within " ++ limit.shown ++ "s")

/-- Asks the orchestrator to start the process of an attempt; none if the start does not end. A
start without time is not made at all. -/
def start (a : Attempt) : Action (Option (Except Error StartedRun)) := do
  let limit := (← get).config.startTimeout
  let late : Except Error StartedRun := .error (timeLimitError a limit)
  let noTime : Except Error Bool := if limit.isNull then .ok false else limit.isAtMost (.int 0)
  match noTime with
  | .error e => return some (.error e)
  | .ok true => return some late
  | .ok false =>
    match ← Automation.startProcess a.trigger.definitionId (.object a.vars) a.options with
    | .hanging => return none
    | .failed (.foreign .timeout _) => return some late
    | .failed e => return some (.error e)
    | .started run => return some (.ok run)

/-- How a start that does not end is given up. -/
def giveUp (a : Attempt) : Action (Except Error StartedRun) := do
  return .error (timeLimitError a (← get).config.startTimeout)

/-- Counts a start of a trigger. These numbers are no more than advice, so an error is logged. -/
def recordFire (t : Trigger) : Action Unit := do
  match ← Action.attempt (Registry.recordFire t.id none) with
  | .ok _ => return
  | .error e =>
    log .engine Log.warning
      ("Could not update fire statistics for trigger " ++ t.id.shown ++ ": " ++ e.message)

/-- Writes an execution to the log of executions. One that cannot be written is still returned. -/
def save (e : Execution) : Action Execution := do
  match ← Action.attempt (Automation.appendExecution e) with
  | .ok e => return e
  | .error cause =>
    log .engine Log.error
      ("Could not save execution for trigger " ++ e.triggerId.shown ++ ": " ++ cause.message)
    return e

/-- The execution of an attempt after its outcome is known. -/
def outcomeOf (a : Attempt) (outcome : Except Error StartedRun) : Execution :=
  match outcome with
  | .ok run => { a.execution with status := .success, processInstanceId := .text run.handle.id }
  | .error e => { a.execution with status := .failed, errorMessage := .text e.summary }

/-- Concludes an attempt: the outcome is counted, logged and written to the log of executions. -/
def conclude (a : Attempt) (outcome : Except Error StartedRun) : Action Execution :=
  Action.withBound a.bound do
    let e := outcomeOf a outcome
    let id := a.trigger.id.shown
    match outcome with
    | .ok run =>
      recordFire a.trigger
      log .engine Log.info
        ("Trigger " ++ id ++ " fired successfully, started process instance " ++ run.handle.id)
    | .error cause =>
      log .engine Log.error ("Failed to fire trigger " ++ id ++ ": " ++ cause.summary)
    countIfMetered do
      return .execution (← Action.ofExcept a.trigger.type.name).shown e.status.name
    if e.succeeded then countIfMetered (return .processStart)
    save e

/-- Carries an attempt through. Audits that are due are written while the start is waited for. -/
def dispatch (a : Attempt) : Action Execution := do
  match ← Action.attempt (ensureDeployed a.trigger) with
  | .error e => conclude a (.error e)
  | .ok _ =>
    Audit.settle
    match ← start a with
    | some outcome => conclude a outcome
    | none => conclude a (← giveUp a)

/-- The correlation fields of a fired trigger. -/
def correlation (t : Trigger) (type : Value) : Entries :=
  [("trigger_id", t.id), ("workspace_id", t.workspaceId), ("trigger_type", type)]

/-- Fires a trigger for an event. -/
def fire (t : Trigger) (context : Value) : Action Execution := do
  let type ← Action.ofExcept t.type.name
  Action.binding (correlation t type) do
    let name ← Action.ofExcept t.displayName
    log .engine Log.info ("Firing trigger " ++ t.id.shown ++ " (" ++ name.shown ++ ")")
    let es ← Action.ofExcept (context.entries "get")
    let options : StartOptions := {
      entityId := Value.entry es "entityId"
      startedById := (Value.entry es "userId").orElse (Value.entry es "createdById") }
    let vars ← Action.ofExcept (Variables.ofMappings t.variableMappings context)
    dispatch (← newAttempt t es vars options)

/-- Who is named as the cause of a scheduled start. -/
def cronTriggeredBy : String := "cron-scheduler"

/-- Milliseconds since 1970, cut after the point. -/
def unixMilliseconds (t : Instant) : Int :=
  let seconds := Double.ofRat ((t - Stamp.epoch : Int) / (Stamp.second : Rat))
  truncate ((Double.ofRat (seconds.value?.getD 0 * 1000)).value?.getD 0)

/-- The context of a scheduled start. -/
def scheduledContext (t : Trigger) (expression : Value) (now : Stamp) : Entries :=
  [("triggerType", .text TriggerType.cron.name), ("expression", expression),
    ("executedAt", .text now.isoText), ("workspaceId", t.workspaceId),
    ("triggeredBy", .text cronTriggeredBy)]

/-- The variables that a scheduled start has whatever the mappings say. -/
def scheduledVariables (t : Trigger) (expression : Value) (now : Stamp) : Entries :=
  [("workspaceId", t.workspaceId), ("triggeredBy", .text cronTriggeredBy),
    ("triggerType", .text TriggerType.cron.name), ("expression", expression),
    ("scheduledTime", .text now.isoText)]

/-- Begins the attempt of a scheduled trigger, which is loaded anew; none if it is gone or not
active. -/
def beginScheduled (id expression : Value) : Action (Option Attempt) := do
  let skip : Action (Option Attempt) := do
    log .engine Log.warning ("Trigger " ++ id.shown ++ " is no longer active, skipping")
    return none
  match ← Automation.getTrigger id with
  | none => skip
  | some t =>
    if !t.isActive.truthy then skip
    else
      let expression ←
        if expression.truthy then pure expression else Action.ofExcept t.cronExpression
      let now ← Automation.now
      let context := scheduledContext t expression now
      let mapped ← Action.ofExcept (Variables.ofMappings t.variableMappings (.object context))
      let vars := mapped.merge (scheduledVariables t expression now)
      let key := "cron-" ++ t.id.shown ++ s!"-{unixMilliseconds now.instant}"
      Action.binding (correlation t (.text TriggerType.cron.name)) do
        let name := if t.name.truthy then t.name.shown else "unnamed"
        log .engine Log.info ("Executing cron trigger " ++ t.id.shown ++ " (" ++ name ++ ")")
        return some (← newAttempt t context vars { businessKey := .text key })

/-- Fires a cron trigger on a tick of its timer; none if it is gone or not active. -/
def fireScheduled (id expression : Value) : Action (Option Execution) := do
  match ← beginScheduled id expression with
  | none => return none
  | some a => return some (← dispatch a)

/-- Evaluates one trigger: it is fired if its conditions match. -/
def evaluateOne (context : Value) (t : Trigger) : Action (Option Execution) := do
  let holds ← isMatch t context
  countIfMetered do return .evaluation (← Action.ofExcept t.type.name).shown holds
  if holds then return some (← fire t context) else return none

/-- Evaluates triggers one after another. An error in one does not stop the others. -/
def evaluateAll (context : Value) : List Trigger → Action (List Execution)
  | [] => return []
  | t :: ts => do
    match ← Action.attempt (evaluateOne context t) with
    | .ok e => return e.toList ++ (← evaluateAll context ts)
    | .error e =>
      log .engine Log.error ("Error evaluating trigger " ++ t.id.shown ++ ": " ++ e.message)
      evaluateAll context ts

/-- Evaluates an event against the active triggers of its type in a workspace. The executions of
those that matched are returned. -/
def evaluate (type : TriggerType) (context workspaceId : Value) : Action (List Execution) := do
  let triggers ← Registry.findActive type workspaceId
  log .engine Log.debug
    (s!"Evaluating {triggers.length} triggers of type " ++ type.name ++ " for workspace " ++
      workspaceId.shown)
  evaluateAll context triggers

end ProcessTriggers.Engine
