import ProcessTriggers.Condition.Expression

/-!
Conditions of a trigger: named fields that must all agree with the event context. Fields with
other names are left to the parts of the program that know them.
-/

namespace ProcessTriggers.Condition

/-- Condition fields with the context fields that they must equal. -/
def equalityFields : List (String × String) :=
  [("fromStatus", "oldStatus"), ("toStatus", "newStatus"), ("priority", "priority"),
    ("category", "category")]

/-- A condition field that is present must equal its context field. -/
def equalityHolds (conditions context : Value) (field : String × String) : Except Error Bool := do
  if ← conditions.contains (.text field.1) then
    let actual := ((← context.entries "get").get? field.2).getD .missing
    return actual.equal (← conditions.require field.1)
  else return true

/-- Checks fields in order and stops at the first that does not hold. -/
def allHold (check : String × String → Except Error Bool) :
    List (String × String) → Except Error Bool
  | [] => .ok true
  | f :: fs => do if ← check f then allHold check fs else return false

/-- The context's entity type must be among the listed ones, if any are listed. -/
def entityTypeHolds (conditions context : Value) : Except Error Bool := do
  let listed ← conditions.get "entityTypes"
  if listed.truthy then listed.contains (← context.get "entityType") else return true

def assigneeHolds (conditions context : Value) : Except Error Bool := do
  if (← conditions.get "onlyWhenAssigned").truthy then
    return (← context.get "newAssigneeId").truthy
  else return true

/-- The outcome of matching: whether the conditions hold, and the custom expression that could not
be evaluated, if it came to that. -/
structure Outcome where
  holds : Bool
  unevaluated : Option Value

/-- A custom expression decides by itself; one that cannot be evaluated does not hold. -/
def expressionOutcome (conditions context : Value) : Except Error Outcome := do
  let expression ← conditions.get "customExpression"
  if !expression.truthy then return ⟨true, none⟩
  match Expression.evaluate expression context with
  | .ok holds => return ⟨holds, none⟩
  | .error _ => return ⟨false, some expression⟩

def outcome (conditions context : Value) : Except Error Outcome := do
  if !conditions.truthy then return ⟨true, none⟩
  if !(← allHold (equalityHolds conditions context) equalityFields) then return ⟨false, none⟩
  if !(← entityTypeHolds conditions context) then return ⟨false, none⟩
  if !(← assigneeHolds conditions context) then return ⟨false, none⟩
  expressionOutcome conditions context

/-- Whether the conditions match an event context. Empty conditions always do. -/
def holds (conditions context : Value) : Except Error Bool :=
  (outcome conditions context).map (·.holds)

end ProcessTriggers.Condition
