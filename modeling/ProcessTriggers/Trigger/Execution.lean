import ProcessTriggers.Enumeration

/-!
Executions, the audit rows of the attempts to fire a trigger.
-/

namespace ProcessTriggers

structure Execution where
  id : Value
  triggerId : Value
  context : Value
  status : ExecutionStatus
  processInstanceId : Value
  errorMessage : Value
  executedAt : Value

def Execution.succeeded (e : Execution) : Bool := e.status == .success

end ProcessTriggers
