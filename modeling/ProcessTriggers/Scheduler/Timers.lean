import ProcessTriggers.Cron.Next
import ProcessTriggers.Automation.Storage

/-!
The timers of cron triggers: at most one for each trigger, registered when the trigger becomes
active and dropped when it is no more.
-/

namespace ProcessTriggers.Scheduler

open Automation (log)

def change (f : Scheduler → Scheduler) : Action Unit :=
  modify fun s => { s with scheduler := f s.scheduler }

/-- Brings the gauge in line with the timers. -/
def countTimers : Action Unit :=
  modify fun s => { s with metrics.timers := s.scheduler.timers.length }

/-- Ends a task that waits. -/
def cancel (task : Nat) (s : Scheduler) : Scheduler :=
  { s with sleepers := s.sleepers.filter (·.task ≠ task) }

/-- A new task, due for its first step. -/
def spawn (stage : Stage) (s : Scheduler) : Nat × Scheduler :=
  let task := s.lastTask + 1
  (task, { s with lastTask := task, due := s.due ++ [⟨task, stage⟩] })

/-- Drops the timer of a trigger. A timer that does so in its own task is not cancelled by it. -/
def unregister (id : Value) : Action Unit := do
  let key ← Action.ofExcept id.asKey
  match (← get).scheduler.timers.get? key with
  | none => return
  | some t =>
    change fun s =>
      let s := { s with timers := s.timers.erase key }
      if s.current = some t.task then s else cancel t.task s
    countTimers
    log .cron Log.debug ("Unregistered cron job for trigger " ++ id.shown)

/-- The zone and the first time of a schedule. -/
def firstRun (expression zone : Value) (now : Instant) : Except Error (Zone × Instant) := do
  let zone ← Cron.validate expression zone
  return (zone, ← Cron.nextFire expression zone now)

/-- Registers a timer in place of an earlier one. A trigger whose schedule cannot be read, or which
never fires, is left without. -/
def register (t : Trigger) : Action Bool := do
  unregister t.id
  let expression ← Action.ofExcept t.cronExpression
  let zone := (← Action.ofExcept t.cronTimezone).orElse (← get).config.defaultTimezone
  match firstRun expression zone (← get).clock.instant with
  | .ok (zone, nextRun) =>
    let key ← Action.ofExcept t.id.asKey
    change fun s =>
      let (task, s) := spawn .waiting s
      { s with timers := s.timers.put key ⟨task, t.id, expression, zone, nextRun⟩ }
    countTimers
    log .cron Log.info
      ("Registered cron job for trigger " ++ t.id.shown ++ ": " ++ expression.shown)
    return true
  | .error e =>
    if !e.isInvalidSchedule then throw e
    log .cron Log.error
      ("Failed to register cron job for trigger " ++ t.id.shown ++ ": " ++ e.message)
    return false

/-- Follows a change of a trigger. Those of other types do not matter. -/
def onTriggerChanged (t : Trigger) (deleted : Bool) : Action Unit := do
  if !t.isCron then return
  if deleted || !t.isActive.truthy then unregister t.id
  else let _ ← register t

end ProcessTriggers.Scheduler
