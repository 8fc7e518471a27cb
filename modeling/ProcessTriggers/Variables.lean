import ProcessTriggers.Path
import ProcessTriggers.Value.Access

/-!
Start variables of a process, projected from an event context.
-/

namespace ProcessTriggers.Variables

/-- The variables of a trigger without mappings; those without a source are left out. -/
def default (context : Value) : Except Error Entries := do
  let es ← context.entries "get"
  let candidates := [
    ("entityId", Value.entry es "entityId"),
    ("workspaceId", Value.entry es "workspaceId"),
    ("triggeredBy", (Value.entry es "userId").orElse (Value.entry es "createdById")),
    ("triggerType", Value.entry es "triggerType")]
  return candidates.filter fun (_, v) => !v.isNull

/-- One variable for each mapping whose source stands for something in the context. -/
def project (mappings : Entries) (context : Value) : Entries :=
  mappings.filterMap fun (name, source) =>
    let v := Value.resolve source context
    if v.isMissing then none else some (name, v)

def ofMappings (mappings context : Value) : Except Error Entries :=
  if !mappings.truthy then default context
  else (mappings.entries "items").map (project · context)

end ProcessTriggers.Variables
