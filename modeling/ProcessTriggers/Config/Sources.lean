import ProcessTriggers.Config
import ProcessTriggers.Environment.File
import ProcessTriggers.Value.Conversion
import ProcessTriggers.Yaml.Document

/-!
Where a configuration comes from: the variables of the environment, or a file whose texts may refer
to them.
-/

namespace ProcessTriggers.Config

/-- The configuration that the variables of an environment give, after its file was loaded. -/
def ofEnvironment (env : Environment) : Except Error Config := do
  let env ← env.loaded
  let c : Config := {}
  let url ← env.get (.text "TRIGFLOW_STORAGE_URL") .null
  let stores ← backend (url.orElse (.text ""))
  check {
    triggers := stores
    executions := stores
    defaultTimezone := ← env.get (.text "TRIGFLOW_DEFAULT_TIMEZONE") c.defaultTimezone
    reconcileInterval := env.real (.text "TRIGFLOW_RECONCILE_INTERVAL") c.reconcileInterval
    startTimeout := env.real (.text "TRIGFLOW_ORCHESTRATOR_TIMEOUT") c.startTimeout
    auditCacheSize := env.integer (.text "TRIGFLOW_AUDIT_CACHE_SIZE") c.auditCacheSize
    metrics := ← env.switch (.text "TRIGFLOW_METRICS") c.metrics }

/-- A section of a document; one that is absent or empty has no entries. -/
def sectionOf (document : Value) (name : String) : Except Error Value := do
  return (← document.get name).orElse (.object [])

/-- An entry of a section, or its default. -/
def setting (group : Value) (name : String) (default : Value) : Except Error Value := do
  return ((← group.entries "get").get? name).getD default

/-- The configuration that a document describes, section by section. -/
def ofDocument (document : Value) : Except Error Config := do
  let c : Config := {}
  let storage ← sectionOf document "storage"
  let scheduler ← sectionOf document "scheduler"
  let dispatch ← sectionOf document "dispatch"
  let observability ← sectionOf document "observability"
  let stores ← backend (← setting storage "url" (.text ""))
  let real (group : Value) (name : String) (default : Value) : Except Error Value := do
    return .double (← (← setting group name default).toDouble)
  let integer (group : Value) (name : String) (default : Value) : Except Error Value := do
    return .int (← (← setting group name default).toInteger)
  check {
    triggers := stores
    executions := stores
    defaultTimezone := ← setting scheduler "default_timezone" c.defaultTimezone
    reconcileInterval := ← real scheduler "reconcile_interval_seconds" c.reconcileInterval
    startTimeout := ← real dispatch "orchestrator_timeout_seconds" c.startTimeout
    auditCacheSize := ← integer dispatch "audit_cache_size" c.auditCacheSize
    historyLimit := ← integer dispatch "execution_history_limit" c.historyLimit
    recentLimit := ← integer dispatch "recent_executions_limit" c.recentLimit
    metrics := .bool (isOn (← setting observability "metrics" c.metrics)) }

/-- The document in a file. -/
def readDocument (env : Environment) (path : String) : Except Error Yaml.Document := do
  match env.find (Environment.Path.ofText path).tidy with
  | .nothing => throw (.fileNotFound path)
  | .directory => throw (.isDirectory path)
  | .tooLong => throw (.foreign .system (Environment.nameTooLong path))
  | .file content =>
    match Text.decodeUtf8? content with
    | none => throw (.foreign .undecodable "invalid UTF-8")
    | some text => Yaml.read (Text.unifyLines text.toList)

/-- The configuration of a file. An empty document leaves all settings at their defaults; the
references of another are filled in unless that is switched off, which comes to no end in a mapping
that lies in itself. -/
def ofFile (env : Environment) (path : String) (substitutes : Bool) : Except Error Config := do
  let document ← readDocument env path
  if !document.value.truthy then return {}
  if substitutes then
    let env ← env.loaded
    if document.endless then throw Yaml.tooDeep
    ofDocument (← env.substituteObject document.value)
  else ofDocument document.value

end ProcessTriggers.Config
