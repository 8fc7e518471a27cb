import ProcessTriggers.Engine
import ProcessTriggers.Webhook.Credential
import ProcessTriggers.Webhook.Payload

/-!
The receiver of webhook calls. A call is authenticated against the trigger that it is addressed to,
before any trigger is evaluated.
-/

namespace ProcessTriggers.Webhook

/-- The event that a call stands for. -/
def eventContext (t : Trigger) (id body : Value) : Value :=
  .object [("triggerId", id), ("payload", payload body), ("workspaceId", t.workspaceId)]

/-- Handles a call that is addressed to a webhook trigger. -/
def handle (id body signature plainSecret : Value) : Action (List Execution) := do
  let t ← Registry.findOne id
  if !t.type.is .webhook then throw (PlainError.webhookAuth.error "Not a webhook trigger")
  let secret ← Action.ofExcept (t.conditions.get "secret")
  match verify secret body signature plainSecret with
  | .ok _ => Engine.evaluate .webhook (eventContext t id body) t.workspaceId
  | .error e =>
    if e.isUnauthorized then
      Automation.log .webhook Log.warning
        ("Rejected webhook call for trigger " ++ id.shown ++ ": " ++ e.message)
    throw e

end ProcessTriggers.Webhook
