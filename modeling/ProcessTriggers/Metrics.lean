/-!
Counts of what happened, and the gauge of registered timers.
-/

namespace ProcessTriggers

/-- What is counted. -/
inductive Sample
  | evaluation (type : String) (matched : Bool)
  | execution (type status : String)
  | processStart
  | jobOutcome (kind outcome : String)
  | cacheLookup (hit : Bool)
  deriving DecidableEq

namespace Sample

def name : Sample → String
  | .evaluation .. => "trigger_evaluations_total"
  | .execution .. => "trigger_executions_total"
  | .processStart => "orchestrator_start_duration_seconds_count"
  | .jobOutcome .. => "job_outcomes_total"
  | .cacheLookup _ => "audit_cache_lookups_total"

/-- The labels of a sample, sorted by name. -/
def labels : Sample → List (String × String)
  | .evaluation type hit => [("matched", if hit then "true" else "false"), ("trigger_type", type)]
  | .execution type status => [("status", status), ("trigger_type", type)]
  | .processStart => []
  | .jobOutcome kind outcome => [("job_type", kind), ("outcome", outcome)]
  | .cacheLookup hit => [("result", if hit then "hit" else "miss")]

def text (s : Sample) : String :=
  " ".intercalate (s.name :: s.labels.map fun (k, v) => k ++ "=" ++ v)

end Sample

structure Metrics where
  counts : List (Sample × Nat) := []
  timers : Nat := 0

namespace Metrics

def timersName : String := "cron_timers_registered"

def count (m : Metrics) (s : Sample) : Nat := (m.counts.lookup s).getD 0

def addTo (s : Sample) : List (Sample × Nat) → List (Sample × Nat)
  | [] => [(s, 1)]
  | (s', n) :: r => if s' = s then (s', n + 1) :: r else (s', n) :: addTo s r

def increment (m : Metrics) (s : Sample) : Metrics := { m with counts := addTo s m.counts }

/-- Everything that was counted, and the gauge unless it is zero. -/
def samples (m : Metrics) : List (String × Nat) :=
  m.counts.map (fun (s, n) => (s.text, n)) ++
    if m.timers = 0 then [] else [(timersName, m.timers)]

end Metrics
end ProcessTriggers
