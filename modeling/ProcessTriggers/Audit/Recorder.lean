import ProcessTriggers.Automation.Basic

/-!
The audit of handled jobs. Each one leaves a record of the element it belongs to, written in the
background.
-/

namespace ProcessTriggers.Audit

open Automation

/-- The linkage behind the key of a run, from the cache or else from the store. -/
def resolve (runKey : String) : Action (Option Linkage) := do
  let (found, cache) ← Action.ofExcept ((← get).dispatcher.cache.get (.text runKey))
  modify fun s => { s with dispatcher.cache := cache }
  count (.cacheLookup found.isSome)
  if found.isSome then return found
  let linkage ← findLinkage runKey
  if let some l := linkage then
    let cache ← Action.ofExcept ((← get).dispatcher.cache.put (.text runKey) l)
    modify fun s => { s with dispatcher.cache := cache }
  return linkage

/-- The milliseconds from one stamp to another, a half to the even neighbour. -/
def durationMs (startedAt completedAt : Stamp) : Except Error Int :=
  if startedAt.isAware ≠ completedAt.isAware then .error (.mixedOffsets "subtract")
  else
    let length : Int := completedAt.instant - startedAt.instant
    let seconds := Double.ofRat (length / (Stamp.second : Rat))
    let ms := Double.ofRat (seconds.value?.getD 0 * 1000)
    .ok (roundHalfEven (ms.value?.getD 0))

/-- Writes the record of one job. There is none for a job without an element or with a run that is
not known. -/
def write (job : Job) (status : Value) (startedAt : Stamp) : Action (Option ElementRecord) := do
  if !job.elementId.truthy then return none
  let runKey := job.runKey.shown
  match ← resolve runKey with
  | none =>
    log .audit Log.debug ("No run found for key " ++ runKey ++ ", skipping element audit")
    return none
  | some l =>
    let completedAt ← now
    let record : ElementRecord := {
      instanceId := l.instanceId
      definitionId := l.definitionId
      elementId := job.elementId
      status
      startedAt
      completedAt
      durationMs := ← Action.ofExcept (durationMs startedAt completedAt)
      workerType := job.type.orElse .null }
    saveElementRecord record
    return some record

/-- Writes the record of one job. An error is logged and otherwise ignored. -/
def record (job : Job) (status : Value) (startedAt : Stamp) : Action (Option ElementRecord) := do
  match ← Action.attempt (write job status startedAt) with
  | .ok r => return r
  | .error e =>
    log .audit Log.warning ("Failed to log element execution: " ++ e.message)
    return none

/-- Notes that the audit of a job is to be written. -/
def schedule (job : Job) (status : String) (startedAt : Stamp) : Action Unit :=
  modify fun s =>
    if s.dispatcher.audits then
      let audit : PendingAudit := ⟨job, .text status, startedAt, s.bound⟩
      { s with dispatcher.pending := s.dispatcher.pending ++ [audit] }
    else s

/-- Writes all audits that are noted, in order. -/
def settle : Action Unit := do
  let pending := (← get).dispatcher.pending
  modify fun s => { s with dispatcher.pending := [] }
  for a in pending do
    let _ ← Action.withBound a.bound (record a.job a.status a.startedAt)

end ProcessTriggers.Audit
