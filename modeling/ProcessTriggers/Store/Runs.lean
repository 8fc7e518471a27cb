import ProcessTriggers.Enumeration

/-!
The store of process runs: what stands behind the key of a run, its state, and the audit of the
elements that were executed in it.
-/

namespace ProcessTriggers

/-- The instance and the definition behind the key of a run. -/
structure Linkage where
  instanceId : Value
  definitionId : Value

/-- The audit of one executed element. -/
structure ElementRecord where
  instanceId : Value
  definitionId : Value
  elementId : Value
  status : Value
  startedAt : Stamp
  completedAt : Stamp
  durationMs : Int
  workerType : Value

namespace ElementRecord

def elementType : String := "serviceTask"

def toObject (r : ElementRecord) : Entries :=
  [("process_instance_id", r.instanceId), ("process_definition_id", r.definitionId),
    ("element_id", r.elementId), ("status", r.status), ("started_at", .text r.startedAt.isoText),
    ("completed_at", .text r.completedAt.isoText), ("duration_ms", .int r.durationMs),
    ("element_type", .text elementType), ("worker_type", r.workerType)]

end ElementRecord

structure RunStore where
  linkages : List (String × Linkage) := []
  statuses : List (String × RunStatus) := []
  records : List ElementRecord := []
  /-- How often a linkage was looked up. -/
  lookups : Nat := 0

namespace RunStore

def replace {α : Type} (es : List (String × α)) (key : String) (a : α) : List (String × α) :=
  es.filter (·.1 ≠ key) ++ [(key, a)]

/-- Makes a run known by its key. -/
def register (s : RunStore) (key : String) (l : Linkage) : RunStore :=
  { s with linkages := replace s.linkages key l }

def findLinkage (s : RunStore) (key : String) : Option Linkage × RunStore :=
  (s.linkages.lookup key, { s with lookups := s.lookups + 1 })

def saveRecord (s : RunStore) (r : ElementRecord) : RunStore :=
  { s with records := s.records ++ [r] }

/-- Sets the state of a run, which must be known. -/
def updateStatus (s : RunStore) (key : String) (status : RunStatus) : Except Error RunStore :=
  if (s.linkages.lookup key).isSome then
    .ok { s with statuses := replace s.statuses key status }
  else .error (PlainError.storage.error ("Process run " ++ key ++ " not found"))

def status? (s : RunStore) (key : String) : Option RunStatus := s.statuses.lookup key

end RunStore
end ProcessTriggers
