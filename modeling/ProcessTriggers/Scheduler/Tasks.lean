import ProcessTriggers.Engine

/-!
The tasks of the scheduler: one for each timer, which waits for the next time, fires the trigger and
waits again, and one that brings the timers in line with the stored triggers from time to time.
Tasks take turns. A task that starts a process lets the others go on before the start and before
its outcome is noted.
-/

namespace ProcessTriggers.Scheduler

open Automation (log)

/-- The ids of the registered triggers, in order. -/
def registeredIds (s : Scheduler) : List Value :=
  (Value.sortBy id s.timers.keys).toOption.getD s.timers.keys

def isRegistered (id : Value) : Action Bool := do
  return (← get).scheduler.timers.has (← Action.ofExcept id.asKey)

/-- Logs the error of a tick. -/
def tickFailed (id : Value) (e : Error) : Action Unit :=
  log .cron Log.error ("Cron tick failed for trigger " ++ id.shown ++ ": " ++ e.message)

/-- One tick of a trigger. It is false when the trigger turned out to be gone or not active; then
its timer was dropped. -/
def tick (id expression : Value) : Action Bool := do
  match ← Action.attempt (Engine.fireScheduled id expression) with
  | .error e =>
    tickFailed id e
    return true
  | .ok none =>
    unregister id
    return false
  | .ok (some _) => return true

/-- Brings the timers in line with the active cron triggers. -/
def reconcile : Action Unit := do
  log .cron Log.debug "Refreshing cron triggers..."
  let active ← Registry.findActive .cron .null
  let ids ← Action.ofExcept ((active.map (·.id)).mapM Value.asKey)
  for id in (← get).scheduler.timers.keys do
    if !ids.any id.equal then
      log .cron Log.info ("Removing deactivated cron trigger " ++ id.shown)
      unregister id
  for t in active do
    if !(← isRegistered t.id) then
      log .cron Log.info ("Adding new cron trigger " ++ t.id.shown)
      let _ ← register t

/-- Registers every active cron trigger. -/
def loadTriggers : Action Unit := do
  match ← Action.attempt (Registry.findActive .cron .null) with
  | .error e => log .cron Log.error ("Failed to load cron triggers: " ++ e.message)
  | .ok triggers =>
    log .cron Log.info s!"Loading {triggers.length} cron triggers"
    for t in triggers do
      let _ ← register t

/-- Starts the scheduler, unless it is running. -/
def start : Action Unit := do
  if (← get).scheduler.running then return
  change ({ · with running := true })
  loadTriggers
  change fun s =>
    let (task, s) := spawn .waiting s
    { s with pass := some task }
  log .cron Log.info "Cron scheduler started"

/-- Stops the scheduler with all its tasks. -/
def stop : Action Unit := do
  change ({ · with running := false, timers := [], pass := none, sleepers := [], due := [] })
  countTimers
  log .cron Log.info "Cron scheduler stopped"

/-- The timer of a task, as long as it is registered. -/
def timerOf (s : Scheduler) (task : Nat) : Option Timer := s.timers.items.find? (·.task = task)

/-- The microseconds of a length in seconds; none if it is no finite number. -/
def microseconds? (seconds : Value) : Option Int :=
  let q? : Option Rat := match seconds.integer?, seconds with
    | some n, _ => some n
    | none, .double x => x.value?
    | none, _ => none
  q?.map fun q => roundHalfEven (q * Stamp.second)

/-- Lets a task wait for some seconds. -/
def sleep (task : Nat) (seconds : Value) : Action Unit := do
  let clock := (← get).clock
  let wake := (microseconds? seconds).map clock.shift
  change fun s =>
    { s with sleepers := s.sleepers ++ [⟨task, wake⟩], delays := s.delays ++ [seconds] }

/-- Makes a step of a task due. -/
def makeDue (task : Nat) (stage : Stage) : Action Unit :=
  change fun s => { s with due := s.due ++ [⟨task, stage⟩] }

/-- Lets a timer wait for its next time. -/
def await (t : Timer) : Action Unit := do
  let rest := t.nextRun - (← get).clock.instant
  sleep t.task (.double (Double.ofRat ((max rest 0 : Int) / (Stamp.second : Rat))))

/-- The instant after which the next time of a timer is sought. It is never before the time that
was just served, since the clock may lag behind the waiting. -/
def searchStart (t : Timer) (clock : Instant) : Instant := max clock t.nextRun

/-- Sets the next time of a timer after a tick, and waits for it. A timer that has none is dropped;
any other error ends its task, and the timer stays without one. -/
def advanceTimer (t : Timer) : Action Unit := do
  match Cron.nextFire t.expression t.zone (searchStart t (← get).clock.instant) with
  | .ok nextRun =>
    let t := { t with nextRun }
    change fun s => { s with timers := s.timers.put t.triggerId t }
    await t
  | .error e =>
    if !e.isInvalidSchedule then throw e
    log .cron Log.error
      ("Dropping cron job for trigger " ++ t.triggerId.shown ++ ": " ++ e.message)
    unregister t.triggerId

/-- Concludes the attempt of a tick, and goes on to the next time. -/
def concludeTick (t : Timer) (a : Attempt) (outcome : Except Error StartedRun) : Action Unit := do
  match ← Action.attempt (Engine.conclude a outcome) with
  | .ok _ => advanceTimer t
  | .error e =>
    tickFailed t.triggerId e
    advanceTimer t

/-- The step of a timer that was woken. -/
def wakeTimer (t : Timer) : Action Unit := do
  match ← Action.attempt (Engine.beginScheduled t.triggerId t.expression) with
  | .error e =>
    tickFailed t.triggerId e
    advanceTimer t
  | .ok none => unregister t.triggerId
  | .ok (some a) =>
    match ← Action.attempt (Engine.ensureDeployed a.trigger) with
    | .ok _ => makeDue t.task (.starting a)
    | .error e => concludeTick t a (.error e)

def timerStep (t : Timer) : Stage → Action Unit
  | .waiting => await t
  | .woken => wakeTimer t
  | .starting a => do
    Audit.settle
    match ← Engine.start a with
    | some outcome => makeDue t.task (.concluding a outcome)
    | none => makeDue t.task (.stalled a)
  | .stalled a => do makeDue t.task (.concluding a (← Engine.giveUp a))
  | .concluding a outcome => concludeTick t a outcome

/-- A step of the periodic pass. -/
def passStep (task : Nat) (stage : Stage) : Action Unit := do
  if let .woken := stage then
    match ← Action.attempt reconcile with
    | .ok _ => pure ()
    | .error e => log .cron Log.error ("Error reconciling cron triggers: " ++ e.message)
  sleep task (← get).config.reconcileInterval

/-- Takes a step that is due, unless its task was cancelled. An error ends the task and nothing
else. -/
def step (d : Due) : Action Unit := do
  let s := (← get).scheduler
  let taken : Action Unit :=
    if s.pass = some d.task then passStep d.task d.stage
    else match timerOf s d.task with
      | some t => timerStep t d.stage
      | none => return
  change ({ · with current := some d.task })
  let _ ← Action.attempt taken
  change ({ · with current := none })

/-- Takes all steps that are due, and then those that became due by them, for some rounds. -/
def rounds : Nat → Action Unit
  | 0 => return
  | n + 1 => do
    let due := (← get).scheduler.due
    if due.isEmpty then return
    change ({ · with due := [] })
    for d in due do step d
    rounds n

/-- The rounds that a task takes part in at most before it waits: it is woken, starts a process,
stalls and concludes; the pass adds timers, which then begin to wait. -/
def maxRounds : Nat := 5

/-- Lets all tasks go on until they wait. -/
def runUntilIdle : Action Unit := rounds maxRounds

/-- Wakes all waiting tasks at once. -/
def release : Action Unit := do
  change fun s =>
    { s with due := s.due ++ s.sleepers.map fun z => ⟨z.task, .woken⟩, sleepers := [] }
  runUntilIdle

/-- The waiting task that is due first, not after `target`; of several the one that began to wait
first. -/
def firstDue (target : Instant) (s : Scheduler) : Option (Sleeper × Stamp) :=
  s.sleepers.foldl (fun best z =>
    match z.wake, best with
    | some w, none => if w.instant ≤ target then some (z, w) else none
    | some w, some (_, b) => if w.instant < b.instant then some (z, w) else best
    | none, _ => best) none

/-- Sets the clock, unless it is ahead already. -/
def setClock (t : Stamp) : Action Unit :=
  modify fun s => { s with clock := if s.clock.instant < t.instant then t else s.clock }

/-- Wakes the tasks that are due up to `target` one after another. The clock lags behind the time
for which they waited. -/
def wakeUntil (target : Instant) (lag : Int) : Nat → Action Unit
  | 0 => return
  | n + 1 => do
    match firstDue target (← get).scheduler with
    | none => return
    | some (z, wake) =>
      setClock (wake.shift (-lag))
      change fun s => { cancel z.task s with due := s.due ++ [⟨z.task, .woken⟩] }
      runUntilIdle
      wakeUntil target lag n

/-- Lets some time pass. Each task waits for at least a microsecond, which bounds the count of
those that are woken. -/
def advance (length lag : Int) : Action Unit := do
  let s ← get
  let target := s.clock.shift length
  let triggers := match s.triggers with
    | .memory ts => ts.length
    | .relation rows => rows.length
  let tasks := s.scheduler.sleepers.length + triggers
  wakeUntil target.instant lag ((length.toNat + 2) * (tasks + 1))
  setClock (target.shift (-lag))

end ProcessTriggers.Scheduler
