import ProcessTriggers.Error
import ProcessTriggers.Text.Search
import ProcessTriggers.Value.Equality

/-!
Searching dynamic values and looking things up in them. What a value does not offer is an error
that names the value's kind.
-/

namespace ProcessTriggers.Value

/-- The name of a value's kind in messages. -/
def kindName : Value → String
  | .null => "NoneType"
  | .bool _ => "bool"
  | .int _ => "int"
  | .double _ => "float"
  | .text _ => "str"
  | .bytes _ => "bytes"
  | .list _ => "list"
  | .object _ => "dict"
  | .missing => "_Missing"
  | .record _ => "types.SimpleNamespace"
  | .stamp _ => "datetime.datetime"
  | .date _ => "datetime.date"

/-- The name of a value's kind without the name of the group it belongs to. -/
def shortKindName (v : Value) : String :=
  match v with
  | .record _ => "SimpleNamespace"
  | .stamp _ => "datetime"
  | .date _ => "date"
  | v => v.kindName

/-- Lists, objects and records cannot be keys. -/
def isHashable : Value → Bool
  | .list _ | .object _ | .record _ => false
  | _ => true

/-- The value as a key, or the error that it cannot be one. -/
def asKey (v : Value) : Except Error Value :=
  if v.isHashable then .ok v else .error (.unhashable v.kindName)

/-- Whether a container holds an item: an equal element, a key, a run of a text, or a byte. -/
def contains (container item : Value) : Except Error Bool :=
  match container with
  | .list xs => .ok (xs.any (equal · item))
  | .object es => do
    match ← item.asKey with
    | .text s => return Entries.has es s
    | _ => return false
  | .text s =>
    match item with
    | .text t => .ok (Text.isRun t.toList s.toList)
    | v => .error (.searchNeedsText v.kindName)
  | .bytes bs =>
    match item, item.integer? with
    | .bytes cs, _ => .ok (Text.isRun cs bs)
    | _, some n =>
      if 0 ≤ n ∧ n < 256 then .ok (bs.contains n.toNat.toUInt8) else .error .notByte
    | v, none => .error (.searchNeedsBytes v.kindName)
  | v => .error (.notSearchable v.kindName)

/-- What is wrong with asking a value for an operation that its kind does not have. A field of that
name is there, but it is no operation. -/
def lacks (v : Value) (name : String) : Error :=
  match v with
  | .record fs =>
    match Entries.get? fs name with
    | some w => .notCallable w.kindName
    | none => .noMember v.kindName name
  | v => .noMember v.kindName name

/-- The field of a record; no other value has fields. -/
def member (v : Value) (name : String) : Except Error Value :=
  match v with
  | .record fs =>
    match Entries.get? fs name with
    | some w => .ok w
    | none => .error (.noMember v.kindName name)
  | v => .error (.noMember v.kindName name)

/-- The entries of an object; any other value is said to lack the operation `name`. -/
def entries (v : Value) (name : String) : Except Error Entries :=
  match v with
  | .object es => .ok es
  | v => .error (v.lacks name)

/-- The entry of an object under a key, null where there is none. -/
def get (v : Value) (key : String) : Except Error Value := do
  return entry (← v.entries "get") key

/-- The entry of an object under a key that it must have. -/
def require (v : Value) (key : String) : Except Error Value :=
  match v with
  | .object es =>
    match Entries.get? es key with
    | some w => .ok w
    | none => .error (.missingEntry key)
  | v => .error (.indexNotText v.kindName)

end ProcessTriggers.Value
