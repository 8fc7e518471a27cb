import ProcessTriggers.Text.Search
import ProcessTriggers.Value.Basic

/-!
Paths into an event context. A text that starts with `$.` names a value by the keys that lead to
it, separated by dots; any other value stands for itself.
-/

namespace ProcessTriggers

namespace Path

/-- The keys of a path; none for a text that is no path. -/
def keys? (s : String) : Option (List String) :=
  match s.toList with
  | '$' :: '.' :: r => some ((Text.parts '.' r).map String.ofList)
  | _ => none

/-- One step into a value. Only objects can be entered. -/
def step (v : Value) (key : String) : Value :=
  match v with
  | .object es => (Entries.get? es key).getD .missing
  | _ => .missing

/-- Follows keys one after another. -/
def follow (v : Value) (keys : List String) : Value := keys.foldl step v

end Path

namespace Value

def isPath : Value → Bool
  | .text s => (Path.keys? s).isSome
  | _ => false

/-- The value that `source` stands for in a context: what its path leads to, or itself. A falsy
source stands for nothing. -/
def resolve (source context : Value) : Value :=
  if !source.truthy then .missing
  else match source with
    | .text s =>
      match Path.keys? s with
      | some ks => Path.follow context ks
      | none => source
    | v => v

end Value
end ProcessTriggers
