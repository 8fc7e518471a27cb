import ProcessTriggers.Value.Access

/-!
Tables keyed by dynamic values, in the order in which the keys were added. Equal values are the same
key.
-/

namespace ProcessTriggers

abbrev Keyed (α : Type) := List (Value × α)

namespace Keyed

variable {α : Type}

def get? (t : Keyed α) (key : Value) : Option α := (t.find? fun e => e.1.equal key).map (·.2)

def has (t : Keyed α) (key : Value) : Bool := t.any fun e => e.1.equal key

/-- Replaces the item of a key in place, or adds it at the end. -/
def put : Keyed α → Value → α → Keyed α
  | [], k, a => [(k, a)]
  | e :: r, k, a => if e.1.equal k then (e.1, a) :: r else e :: put r k a

def erase (t : Keyed α) (key : Value) : Keyed α := t.filter fun e => !e.1.equal key

def keys (t : Keyed α) : List Value := t.map (·.1)

def items (t : Keyed α) : List α := t.map (·.2)

end Keyed
end ProcessTriggers
