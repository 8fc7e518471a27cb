import ProcessTriggers.Environment.Basic

/-!
The configuration: where records are kept, and the settings of the scheduler and the engine.
-/

namespace ProcessTriggers

/-- Where records are kept: in memory, or in the relational database at a path. -/
inductive Backend
  | memory
  | database (path : String)
  deriving DecidableEq, Repr

structure Config where
  triggers : Backend := .memory
  executions : Backend := .memory
  defaultTimezone : Value := .text "Europe/Moscow"
  /-- Seconds between two passes of the scheduler over the stored triggers. -/
  reconcileInterval : Value := .double (.ofInt 300)
  /-- The most seconds that a process may take to start. -/
  startTimeout : Value := .double (.ofInt 30)
  /-- How many run linkages the audit keeps at hand. -/
  auditCacheSize : Value := .int 1000
  /-- How many executions of one trigger are listed. -/
  historyLimit : Value := .int 50
  /-- How many executions of a workspace are listed. -/
  recentLimit : Value := .int 100
  metrics : Value := .bool true

namespace Config

def invalid (message : String) : Error := .foreign .invalidValue message

/-- A configuration whose interval and cache size are not zero or less. -/
def check (c : Config) : Except Error Config := do
  if ← c.reconcileInterval.isAtMost (.int 0) then
    throw (invalid "reconcile_interval_seconds must be positive")
  if ← c.auditCacheSize.isAtMost (.int 0) then throw (invalid "audit_cache_size must be positive")
  return c

/-- The settings that can be given by name. -/
def fieldNames : List String :=
  ["trigger_storage", "execution_storage", "run_storage", "default_timezone",
    "reconcile_interval_seconds", "orchestrator_timeout_seconds", "audit_cache_size",
    "execution_history_limit", "recent_executions_limit", "metrics"]

/-- A configuration with some settings given by name. -/
def ofFields (es : Entries) : Except Error Config := do
  match es.keys.find? (!fieldNames.contains ·) with
  | some name => throw (.wrongFields s!"unexpected setting {name}")
  | none =>
    let c : Config := {}
    let given (name : String) (default : Value) : Value := (es.get? name).getD default
    check {
      defaultTimezone := given "default_timezone" c.defaultTimezone
      reconcileInterval := given "reconcile_interval_seconds" c.reconcileInterval
      startTimeout := given "orchestrator_timeout_seconds" c.startTimeout
      auditCacheSize := given "audit_cache_size" c.auditCacheSize
      historyLimit := given "execution_history_limit" c.historyLimit
      recentLimit := given "recent_executions_limit" c.recentLimit
      metrics := given "metrics" c.metrics }

/-- The backend that a storage address names, null for the default one. A database without a path
is held in memory. -/
def backend (url : Value) : Except Error Backend := do
  match url with
  | .text s =>
    let address := s.toList
    if s = "" ∨ s = "memory://" then return .memory
    else if "sqlite:///".toList.isPrefixOf address then
      let path := String.ofList (address.drop 10)
      return .database (if path = "" then ":memory:" else path)
    else if "sqlite://".toList.isPrefixOf address then return .database ":memory:"
    else throw (invalid ("Unknown storage URL scheme: " ++ s))
  | .bytes _ => throw .bytesNotText
  | v => throw (v.lacks "startswith")

/-- Whether a setting is on: a text must be one of the words for it. -/
def isOn : Value → Bool
  | .text s => Environment.onWords.contains (Text.lower (String.ofList (Text.trim s.toList)))
  | v => v.truthy

end Config
end ProcessTriggers
