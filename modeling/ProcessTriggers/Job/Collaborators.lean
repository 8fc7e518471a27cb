import ProcessTriggers.Value.Access

/-!
The services that job handlers act on. Every call is recorded, and every method answers as it was
told to.
-/

namespace ProcessTriggers

inductive Service
  | entityStore
  | emailSender
  | notifier
  | auditLog
  | classifier
  | assistant
  | incidentService
  | runStorage
  deriving DecidableEq, Repr

namespace Service

def all : List Service :=
  [.entityStore, .emailSender, .notifier, .auditLog, .classifier, .assistant, .incidentService,
    .runStorage]

def name : Service → String
  | .entityStore => "entity_store"
  | .emailSender => "email_sender"
  | .notifier => "notifier"
  | .auditLog => "audit_log"
  | .classifier => "classifier"
  | .assistant => "assistant"
  | .incidentService => "incident_service"
  | .runStorage => "run_storage"

end Service

/-- How a method of a service answers a call. -/
inductive Behaviour
  | returns (v : Value)
  | raises (e : Error)

/-- The services that are there, with the methods that answer otherwise than with null. -/
abbrev Collaborators := List (Service × List (String × Behaviour))

namespace Collaborators

def has (c : Collaborators) (s : Service) : Bool := (c.lookup s).isSome

def answer (c : Collaborators) (s : Service) (method : String) : Except Error Value :=
  match (c.lookup s).bind (·.lookup method) with
  | some (.returns v) => .ok v
  | some (.raises e) => .error e
  | none => .ok .null

/-- Tells a method of a service that is there how to answer from now on. -/
def behave (c : Collaborators) (s : Service) (method : String) (b : Option Behaviour) :
    Collaborators :=
  c.map fun (s', methods) =>
    if s' = s then
      let others := methods.filter (·.1 ≠ method)
      (s', match b with
        | some b => (method, b) :: others
        | none => others)
    else (s', methods)

end Collaborators

/-- A call of a method with its arguments by position and by name. -/
structure ServiceCall where
  service : Service
  method : String
  arguments : List Value
  named : Entries := []

end ProcessTriggers
