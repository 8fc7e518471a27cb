import ProcessTriggers.Audit.Recorder

/-!
The handlers of jobs, one for each kind. A handler acts on a service and answers with output
variables. If the service is not there, the output says so.
-/

namespace ProcessTriggers.Handlers

open Automation (log)

/-- Calls a method of a service. -/
def call (service : Service) (method : String) (arguments : List Value) (named : Entries) :
    Action Value := do
  modify fun s => { s with
    events := s.events ++ [.called ⟨service, method, arguments, named⟩] }
  Action.ofExcept ((← get).dispatcher.collaborators.answer service method)

def has (service : Service) : Action Bool := do
  return (← get).dispatcher.collaborators.has service

/-- The output that says that something was not done, and why. -/
def notDone (flag reason : String) : Entries :=
  [(flag, .bool false), ("reason", .text reason)]

def notAvailable (flag service : String) : Action Entries := do
  log .handlers Log.warning (service ++ " not available, skipping")
  return notDone flag (service ++ " not available")

def input (j : Job) (name : String) : Action Value := Action.ofExcept (j.input name)

/-- An entry of an object or a field of a record, or another value where there is none. -/
def member (v : Value) (name : String) (default : Value) : Value :=
  match v with
  | .object es | .record es => Value.entryOr es name default
  | _ => default

/-- The text of the current time. -/
def timeText : Action Value := do return .text (← Automation.now).isoText

def updateEntityStatus (j : Job) : Action Entries := do
  let flag := JobKind.updateEntityStatus.flag
  let entity ← input j "entityId"
  let status ← input j "newStatus"
  if !(← has .entityStore) then return ← notAvailable flag "EntityStore"
  if !entity.truthy || !status.truthy then
    return notDone flag "entityId and newStatus are required"
  let _ ← call .entityStore "update_status" [entity, status] []
  log .handlers Log.info ("Entity " ++ entity.shown ++ " status updated to " ++ status.shown)
  return [(flag, .bool true), ("updatedAt", ← timeText)]

/-- An empty assignee clears the one that is set. -/
def setAssignee (j : Job) : Action Entries := do
  let flag := JobKind.setAssignee.flag
  let entity ← input j "entityId"
  let assignee := (← input j "assigneeId").orElse .null
  if !(← has .entityStore) then return ← notAvailable flag "EntityStore"
  if !entity.truthy then return notDone flag "entityId is required"
  let _ ← call .entityStore "update_assignee" [entity, assignee] []
  log .handlers Log.info ("Entity " ++ entity.shown ++ " assignee set to " ++ assignee.shown)
  return [(flag, .bool true), ("updatedAt", ← timeText)]

/-- A variable that a job must have. -/
def required (j : Job) (name : String) : Action Value := do
  let v ← input j name
  if v.truthy then return v
  throw (PlainError.jobHandler.error (name ++ " is required"))

/-- Creates an entity, linked to the one that it comes from if that is given. -/
def createEntity (j : Job) : Action Entries := do
  let flag := JobKind.createEntity.flag
  if !(← has .entityStore) then return ← notAvailable flag "EntityStore"
  let workspace ← required j "targetWorkspaceId"
  let title ← required j "title"
  let data : Entries := [
    ("workspaceId", workspace),
    ("title", title),
    ("status", (← input j "status").orElse (.text "new")),
    ("priority", (← input j "priority").orElse (.text "medium")),
    ("data", (← input j "data").orElse (.object [])),
    ("processInstanceKey", j.runKey)]
  let source ← input j "sourceEntityId"
  let linkType := (← input j "linkType").orElse (.text "spawned")
  let link : Entries :=
    if source.truthy then [("sourceEntityId", source), ("linkType", linkType)] else []
  let created ← call .entityStore "create" [.object (data ++ link), ← input j "createdById"] []
  let id := member created "id" .null
  log .handlers Log.info ("Created entity " ++ id.shown ++ " from job " ++ j.key.shown)
  return [
    (flag, .bool true),
    ("createdEntityId", id),
    ("createdEntityCustomId", member created "customId" (.text "")),
    ("linkId", (member created "linkId" (.text "")).orElse (.text ""))]

def sendNotification (j : Job) : Action Entries := do
  let flag := JobKind.sendNotification.flag
  let user ← input j "userId"
  let message ← input j "message"
  if !(← has .notifier) then return ← notAvailable flag "Notifier"
  if !user.truthy || !message.truthy then return notDone flag "userId and message are required"
  let _ ← call .notifier "notify"
    [user, message, ← input j "entityId", ← input j "workspaceId"] []
  return [(flag, .bool true)]

def sendEmail (j : Job) : Action Entries := do
  let flag := JobKind.sendEmail.flag
  let recipient ← input j "to"
  let subject ← input j "subject"
  let body := (← input j "body").orElse (.text "")
  if !(← has .emailSender) || !recipient.truthy || !subject.truthy then
    return notDone flag "EmailService not available"
  let sent ← call .emailSender "send" []
    [("to", recipient), ("subject", subject), ("text", body), ("html", body)]
  return [(flag, .bool sent.truthy)]

def logActivity (j : Job) : Action Entries := do
  let flag := JobKind.logActivity.flag
  let workspace ← input j "workspaceId"
  let action ← input j "action"
  let details := (← input j "details").orElse (.object [])
  if !(← has .auditLog) then return ← notAvailable flag "AuditLog"
  if !workspace.truthy || !action.truthy then
    return notDone flag "workspaceId and action are required"
  let actor := (← input j "actorId").orElse .null
  let es ← Action.ofExcept (details.entries "get")
  let described : Entries := [
    ("description", (Value.entry es "description").orElse (.text ("BPMN: " ++ action.shown))),
    ("oldValues", Value.entry es "oldValues"),
    ("newValues", Value.entry es "newValues"),
    ("changedFields", Value.entry es "changedFields")]
  let entity := (← input j "entityId").orElse .null
  let _ ← call .auditLog "log" [action, workspace, actor, .object described, entity] []
  return [(flag, .bool true)]

def classifyEntity (j : Job) : Action Entries := do
  let flag := JobKind.classifyEntity.flag
  let entity ← input j "entityId"
  if !(← has .classifier) || !entity.truthy then
    log .handlers Log.warning "Classifier not available, skipping classification"
    return notDone flag "AI service not available"
  let answer := (← call .classifier "classify_and_save" [entity] []).orElse (.object [])
  let es ← Action.ofExcept (answer.entries "get")
  let category := Value.entry es "category"
  let priority := Value.entry es "priority"
  log .handlers Log.info
    ("Entity " ++ entity.shown ++ " classified: category=" ++ category.shown ++ ", priority=" ++
      priority.shown)
  return [
    (flag, .bool true),
    ("category", category.orElse (.text "other")),
    ("aiPriority", priority.orElse (.text "medium")),
    ("confidence", (Value.entry es "confidence").orElse (.int 0))]

/-- Marks the run of the job as completed, in the store of runs or through a service. -/
def processCompleted (j : Job) : Action Entries := do
  let flag := JobKind.processCompleted.flag
  if (← get).dispatcher.hasRunStore then Automation.updateRunStatus j.runKey.shown .completed
  else if ← has .runStorage then
    let _ ← call .runStorage "update_run_status" [j.runKey, .text RunStatus.completed.name] []
  else return ← notAvailable flag "RunStorage"
  return [(flag, .bool true)]

/-- What the assistant says about an entity; none without an assistant or an entity. -/
def assistance (entity : Value) : Action (Option Entries) := do
  if (← has .assistant) && entity.truthy then
    let answer := (← call .assistant "get_assistance" [entity] []).orElse (.object [])
    return some (← Action.ofExcept (answer.entries "get"))
  else return none

/-- The first of several values. -/
def first (v : Value) : Except Error Value :=
  match v with
  | .list (x :: _) => .ok x
  | .text s => .ok (.text (String.ofList (s.toList.take 1)))
  | .bytes (b :: _) => .ok (.int b.toNat)
  | .object _ => .error (.foreign .missingKey "0")
  | v => .error (.indexNotText v.kindName)

/-- Suggests the first expert that the assistant names. -/
def suggestAssignee (j : Job) : Action Entries := do
  let flag := JobKind.suggestAssignee.flag
  let entity ← input j "entityId"
  let es := (← assistance entity).getD []
  let experts := Value.entry es "suggestedExperts"
  if experts.truthy then
    let top ← Action.ofExcept (first experts)
    let name := member top "name" .null
    log .handlers Log.info ("Entity " ++ entity.shown ++ " suggested assignee: " ++ name.shown)
    return [
      (flag, .bool true),
      ("suggestedAssigneeName", name),
      ("suggestedAssigneeManagerId", (member top "managerId" .null).orElse (.int 0)),
      ("suggestedAssigneeDepartment", (member top "department" .null).orElse (.text ""))]
  log .handlers Log.warning "Assistant not available or no suggestions, skipping"
  return [(flag, .bool false)]

/-- A case that is more similar than this is a duplicate. -/
def duplicateThreshold : Value := .double (.ofRat (95 / 100))

/-- The first case above the threshold, with its similarity. -/
def firstDuplicate : List Value → Except Error (Option (Value × Value))
  | [] => .ok none
  | c :: cs => do
    let similarity := (member c "similarity" (.int 0)).orElse (.int 0)
    if ← similarity.isGreater duplicateThreshold then return some (c, similarity)
    else firstDuplicate cs

def checkDuplicate (j : Job) : Action Entries := do
  let flag := JobKind.checkDuplicate.flag
  let entity ← input j "entityId"
  let es := (← assistance entity).getD []
  let cases ← Action.ofExcept ((Value.entry es "similarCases").orElse (.list [])).items
  match ← Action.ofExcept (firstDuplicate cases) with
  | none => return JobKind.noDuplicate
  | some (c, similarity) =>
    let request := member c "requestId" .null
    log .handlers Log.info
      ("Entity " ++ entity.shown ++ " is a potential duplicate of request " ++ request.shown ++
        " (similarity: " ++ similarity.shown ++ ")")
    return [
      (flag, .bool true), ("duplicateRequestId", request), ("duplicateSimilarity", similarity)]

/-- Handles a job in the way of a kind. -/
def run : JobKind → Job → Action Entries
  | .updateEntityStatus => updateEntityStatus
  | .setAssignee => setAssignee
  | .createEntity => createEntity
  | .sendNotification => sendNotification
  | .sendEmail => sendEmail
  | .logActivity => logActivity
  | .classifyEntity => classifyEntity
  | .processCompleted => processCompleted
  | .suggestAssignee => suggestAssignee
  | .checkDuplicate => checkDuplicate

end ProcessTriggers.Handlers
