import ProcessTriggers.Double.Numeral
import ProcessTriggers.Double.Text
import ProcessTriggers.Text.Bytes
import ProcessTriggers.Value.Arithmetic

/-!
Relations: tables whose columns prefer texts or integers. A value is converted to what its column
prefers where that loses nothing, the first column identifies the row, and a required column
holds no null.
-/

namespace ProcessTriggers

/-- The start of a text that reads as a number, whether it is written as an integer, and its
value. -/
structure LeadingNumber where
  negative : Bool
  isInteger : Bool
  literal : Numeral.Literal
  rest : List Char

namespace LeadingNumber

def isSpace (c : Char) : Bool := (0x9 ≤ c.toNat && c.toNat ≤ 0xd) || c == ' '

def read? (cs : List Char) : Option LeadingNumber := do
  let (negative, body) := Numeral.takeSign (cs.dropWhile isSpace)
  (List.range (body.length + 1)).reverse.findSome? fun k => do
    let part := body.take k
    return ⟨negative, part.all Char.isDigit, ← Numeral.literal? part, body.drop k⟩

/-- Integers from `-2 ^ 63` on and below `2 ^ 63` are kept as such. -/
def fits (n : Int) : Bool := -(Nat.pow 2 63 : Int) ≤ n && n < (Nat.pow 2 63 : Int)

def value (n : LeadingNumber) : Value :=
  let whole : Nat := (Numeral.natOf? 10 n.literal.digits).getD 0
  let signed : Int := if n.negative then -whole else whole
  if n.isInteger ∧ fits signed then .int signed else .double (n.literal.double n.negative)

end LeadingNumber

namespace Relation

/-- A double as a text of at most fifteen digits. -/
def doubleText (x : Double) : String :=
  match x with
  | .nan => ""
  | .infinite negative => Double.signText negative ++ "Inf"
  | .finite negative m e =>
    if m = 0 then "0.0"
    else
      let q : Rat := m * (2 : Rat) ^ e
      let n := Double.decimalLength q
      let rounded := (roundHalfEven (q / 10 ^ (n - 15))).toNat
      let ds := (toString rounded).toList
      let k := n - 15 + ds.length - 1
      let ds := Double.dropTrailingZeros ds
      Double.signText negative ++
        if -4 ≤ k ∧ k < 15 then Double.positionalText ds k
        else
          String.ofList (ds.take 1) ++ "." ++
            (if ds.length < 2 then "0" else String.ofList (ds.drop 1)) ++ Double.exponentText k

/-- What a relation can hold of the value at a position among those given to it. A double that is no
number counts as null, and a stamp as its text. -/
def bindAt (position : Nat) (v : Value) : Except Error Value :=
  match v with
  | .bool b => .ok (.int (if b then 1 else 0))
  | .int n =>
    if LeadingNumber.fits n then .ok v
    else .error (.foreign .outOfRange "Python int too large to convert to SQLite INTEGER")
  | .double .nan => .ok .null
  | .text s => (Text.bytesOf s).map fun _ => v
  | .stamp _ => .ok (.text v.shown)
  | .null | .double _ | .bytes _ => .ok v
  | v => .error (.notStorable position v.kindName)

/-- What a relation can hold of several values, which are looked at in order. -/
def bindAll (vs : List Value) : Except Error (List Value) :=
  vs.zipIdx.mapM fun (v, i) => bindAt (i + 1) v

/-- What a relation can hold of the only value that is given. -/
def bind (v : Value) : Except Error Value := bindAt 1 v

/-- A double without a fraction as an integer, if it fits. -/
def wholeOr (x : Double) : Value :=
  match x.value? with
  | some q =>
    let bound : Nat := Nat.pow 2 63
    if q.den = 1 ∧ -bound < q.num ∧ q.num < bound then .int q.num else .double x
  | none => .double x

inductive Preference
  | text
  | integer
  deriving DecidableEq

/-- Converts a held value to what a column prefers. -/
def Preference.convert : Preference → Value → Value
  | .text, .int n => .text (toString n)
  | .text, .double x => .text (doubleText x)
  | .integer, .double x => wholeOr x
  | .integer, .text s =>
    match LeadingNumber.read? s.toList with
    | some n =>
      if n.rest.all LeadingNumber.isSpace then
        match n.value with
        | .double x => wholeOr x
        | v => v
      else .text s
    | none => .text s
  | _, v => v

structure Column where
  name : String
  preference : Preference := .text
  required : Bool := true

structure Schema where
  table : String
  columns : List Column

namespace Schema

def violated (s : Schema) (constraint column : String) : Error :=
  .foreign .integrity (constraint ++ " constraint failed: " ++ s.table ++ "." ++ column)

/-- The name of the first column, which identifies a row. -/
def key (s : Schema) : String := (s.columns.head?.map (·.name)).getD ""

/-- The row that is held for given entries. -/
def row (s : Schema) (es : Entries) : Except Error Entries := do
  let held ← bindAll (s.columns.map fun c => Value.entry es c.name)
  return List.zipWith (fun c v => (c.name, c.preference.convert v)) s.columns held

/-- The row that is held for given entries when the one that identifies it is given last. -/
def changedRow (s : Schema) (es : Entries) : Except Error Entries := do
  let names := s.columns.map (·.name)
  let _ ← bindAll ((names.drop 1 ++ names.take 1).map (Value.entry es))
  s.row es

def checkRequired (s : Schema) (row : Entries) : Except Error Unit :=
  match s.columns.find? fun c => c.required && (Value.entry row c.name).isNull with
  | some c => .error (s.violated "NOT NULL" c.name)
  | none => .ok ()

end Schema

/-- Whether a row holds a bound value in a column that prefers texts. Null equals nothing. -/
def isAt (column : String) (bound : Value) (row : Entries) : Bool :=
  match Preference.text.convert bound with
  | .null => false
  | v => v.equal (Value.entry row column)

def insert (s : Schema) (rows : List Entries) (es : Entries) : Except Error (List Entries) := do
  let row ← s.row es
  s.checkRequired row
  if rows.any (isAt s.key (Value.entry row s.key)) then throw (s.violated "UNIQUE" s.key)
  return rows ++ [row]

/-- Replaces the row with the entries' key, which stays as it is; none if there is no such row. -/
def update (s : Schema) (rows : List Entries) (es : Entries) :
    Except Error (Option (List Entries)) := do
  let row ← s.changedRow es
  let isMeant := isAt s.key (Value.entry row s.key)
  if !rows.any isMeant then return none
  s.checkRequired row
  return some (rows.map fun r => if isMeant r then row.put s.key (Value.entry r s.key) else r)

/-- The sum of a held number and one. What is no number counts by the number it starts with. -/
def addOne (v : Value) : Value :=
  let leading (s : List Char) : Value := (LeadingNumber.read? s).elim (.int 0) (·.value)
  let n := match v with
    | .text s => leading s.toList
    | .bytes bs => leading (Text.decodeUtf8Replacing bs).toList
    | v => v
  match n with
  | .int i =>
    if LeadingNumber.fits (i + 1) then .int (i + 1) else .double ((Double.ofInt i).addInt 1)
  | .double x => Preference.integer.convert (.double (x.addInt 1))
  | v => v

/-- Rows with the greatest text in a column first. -/
def newestFirst (column : String) (rows : List Entries) : List Entries :=
  let key (row : Entries) : List Nat :=
    match Value.entry row column with
    | .text s => (Text.encodeUtf8 s).map UInt8.toNat
    | .bytes bs => 256 :: bs.map UInt8.toNat
    | _ => []
  rows.mergeSort fun a b => compare (key a) (key b) != .lt

/-- The first rows up to a limit, which is bound already. A negative one is no limit. -/
def takeLimit {α : Type} (limit : Value) (rows : List α) : Except Error (List α) :=
  match Preference.integer.convert limit with
  | .int n => .ok (if n < 0 then rows else rows.take n.toNat)
  | _ => .error (.foreign .integrity "datatype mismatch")

end Relation
end ProcessTriggers
