import ProcessTriggers.Double.Basic
import ProcessTriggers.Time.Stamp

/-!
Dynamic values: what event contexts, conditions, job variables and stored records hold. Objects
keep their entries in the order in which they were added.
-/

namespace ProcessTriggers

inductive Value
  | null
  | bool (b : Bool)
  | int (n : Int)
  | double (x : Double)
  | text (s : String)
  | bytes (bs : List UInt8)
  | list (items : List Value)
  | object (entries : List (String × Value))
  /-- The result of a look-up that found nothing; it differs from `null`. -/
  | missing
  /-- A thing with named fields that is no object: it cannot be walked by a path. -/
  | record (fields : List (String × Value))
  | stamp (t : Stamp)
  | date (d : Date)
  deriving Inhabited

/-- The entries of an object, keyed by text. -/
abbrev Entries := List (String × Value)

namespace Entries

def get? (es : Entries) (key : String) : Option Value := es.lookup key

def has (es : Entries) (key : String) : Bool := (es.lookup key).isSome

/-- Replaces the value of a key in place, or adds the key at the end. -/
def put : Entries → String → Value → Entries
  | [], k, v => [(k, v)]
  | (k', v') :: r, k, v => if k' = k then (k, v) :: r else (k', v') :: put r k v

def erase (es : Entries) (key : String) : Entries := es.filter (·.1 ≠ key)

/-- Entries with repeated keys: the last value of a key counts, at the place of its first. -/
def ofPairs (ps : List (String × Value)) : Entries := ps.foldl (fun es (k, v) => put es k v) []

/-- The first entries with those of the second put over them. -/
def merge (a b : Entries) : Entries := b.foldl (fun es (k, v) => put es k v) a

def keys (es : Entries) : List String := es.map (·.1)

end Entries

namespace Value

/-- What a condition counts as absent: null, false, zero, and all that is empty. -/
def truthy : Value → Bool
  | .null | .missing => false
  | .bool b => b
  | .int n => n != 0
  | .double x => !x.isZero
  | .text s => !s.isEmpty
  | .bytes bs => !bs.isEmpty
  | .list xs => !xs.isEmpty
  | .object es => !es.isEmpty
  | .record _ | .stamp _ | .date _ => true

def isMissing : Value → Bool
  | .missing => true
  | _ => false

def isNull : Value → Bool
  | .null => true
  | _ => false

/-- The value, or another where it is falsy. -/
def orElse (v w : Value) : Value := if v.truthy then v else w

def ofOption : Option Value → Value
  | some v => v
  | none => .null

def ofText? : Option String → Value
  | some s => .text s
  | none => .null

/-- An entry of an object; null where there is none. -/
def entry (es : Entries) (key : String) : Value := ofOption (es.get? key)

end Value
end ProcessTriggers
