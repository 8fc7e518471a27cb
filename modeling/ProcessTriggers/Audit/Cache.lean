import ProcessTriggers.Value.Arithmetic

/-!
The cache of run linkages: which instance and definition stand behind the key of a run. It keeps
the runs that were used last, up to a bound.
-/

namespace ProcessTriggers.Audit

/-- A cache over any kind of linkage. The entries run from the one not used for longest to the one
used last. The bound is a number of any kind. -/
structure Cache (α : Type) where
  maxSize : Value
  entries : List (Value × α) := []
  hits : Nat := 0
  misses : Nat := 0

namespace Cache

variable {α : Type}

/-- An empty cache with a bound, which must be positive. -/
def create (maxSize : Value) : Except Error (Cache α) := do
  if ← maxSize.isAtMost (.int 0) then throw (.foreign .invalidValue "max_size must be positive")
  return { maxSize }

def keys (c : Cache α) : List Value := c.entries.map (·.1)

def size (c : Cache α) : Nat := c.entries.length

/-- The entry of a key, with the key as it was put first. -/
def find? (es : List (Value × α)) (key : Value) : Option (Value × α) := es.find? (·.1.equal key)

/-- Whether some entries are more than a bound allows. -/
def isOver (maxSize : Value) (es : List (Value × α)) : Bool :=
  match (Value.int es.length).isGreater maxSize with
  | .ok isMore => isMore
  | .error _ => false

/-- Drops the oldest entries above the bound. -/
def trim (maxSize : Value) : List (Value × α) → List (Value × α)
  | [] => []
  | e :: es => if isOver maxSize (e :: es) then trim maxSize es else e :: es

/-- Entries with one key made the newest. -/
def refresh (es : List (Value × α)) (key : Value) (a : α) : List (Value × α) :=
  es.filter (!·.1.equal key) ++ [(((find? es key).map (·.1)).getD key, a)]

def has (c : Cache α) (key : Value) : Except Error Bool := do
  return (find? c.entries (← key.asKey)).isSome

/-- Looks a key up. One that is found becomes the newest. -/
def get (c : Cache α) (key : Value) : Except Error (Option α × Cache α) := do
  let key ← key.asKey
  match find? c.entries key with
  | some (_, a) =>
    return (some a, { c with entries := refresh c.entries key a, hits := c.hits + 1 })
  | none => return (none, { c with misses := c.misses + 1 })

def put (c : Cache α) (key : Value) (a : α) : Except Error (Cache α) := do
  return { c with entries := trim c.maxSize (refresh c.entries (← key.asKey) a) }

/-- Empties the cache; the counts of look-ups stay. -/
def clear (c : Cache α) : Cache α := { c with entries := [] }

end Cache
end ProcessTriggers.Audit
