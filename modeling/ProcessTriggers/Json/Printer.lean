import ProcessTriggers.Double.Text
import ProcessTriggers.Text.Quoted
import ProcessTriggers.Value.Access

/-!
Printing JSON text. A style decides on the space between the parts, on what is escaped, and on
what is done with values that JSON cannot express.
-/

namespace ProcessTriggers.Json

structure Style where
  /-- What separates the items of a list on one line. -/
  itemSeparator : String
  /-- What separates a key from its value. -/
  keySeparator : String
  /-- Whether characters outside ASCII are escaped by number. -/
  ascii : Bool
  /-- The width of one level of indentation, for a text of many lines. -/
  indent : Option Nat
  /-- Whether other values are printed as their text; if not, they are an error. -/
  textForOthers : Bool

/-- No spaces, and no character escaped that need not be. -/
def compact : Style := ⟨",", ":", false, none, false⟩

/-- The form in which records are stored. -/
def stored : Style := ⟨", ", ": ", true, none, false⟩

/-- The form in which execution contexts and log entries are written. -/
def tolerant : Style := { stored with textForOthers := true }

/-- The form for reading by eye. -/
def indented : Style := ⟨",", ": ", true, some 2, true⟩

def unitEscape (n : Nat) : List Char := '\\' :: 'u' :: Text.hexDigits 4 n

/-- A character by number, in two parts beyond the basic plane. -/
def numberEscape (c : Char) : List Char :=
  let n := Text.codePoint c
  if n < 0x10000 then unitEscape n
  else unitEscape (Text.splitHalves n).1 ++ unitEscape (Text.splitHalves n).2

def escapeChar (ascii : Bool) (c : Char) : List Char :=
  if c = '"' ∨ c = '\\' then ['\\', c]
  else if c = '\n' then ['\\', 'n']
  else if c = '\r' then ['\\', 'r']
  else if c = '\t' then ['\\', 't']
  else if c = '\x08' then ['\\', 'b']
  else if c = '\x0c' then ['\\', 'f']
  else if c.toNat < 0x20 ∨ (ascii = true ∧ 0x7f ≤ c.toNat) then numberEscape c
  else [c]

def printString (ascii : Bool) (s : String) : String :=
  String.ofList ('"' :: s.toList.flatMap (escapeChar ascii) ++ ['"'])

def printDouble : Double → String
  | .nan => "NaN"
  | .infinite negative => if negative then "-Infinity" else "Infinity"
  | x => x.text

namespace Style

/-- The start of a line inside `depth` brackets; nothing in a text of one line. -/
def newline (style : Style) (depth : Nat) : String :=
  match style.indent with
  | some width => "\n" ++ String.ofList (List.replicate (width * depth) ' ')
  | none => ""

/-- Items between brackets. -/
def bracketed (style : Style) (depth : Nat) (left right : String) (items : List String) : String :=
  if items.isEmpty then left ++ right
  else
    left ++ style.newline (depth + 1) ++
      (style.itemSeparator ++ style.newline (depth + 1)).intercalate items ++
      style.newline depth ++ right

end Style

mutual

def printAt (style : Style) (depth : Nat) : Value → Except Error String
  | .null => .ok "null"
  | .bool b => .ok (if b then "true" else "false")
  | .int n => .ok (toString n)
  | .double x => .ok (printDouble x)
  | .text s => .ok (printString style.ascii s)
  | .list xs => do return style.bracketed depth "[" "]" (← printItems style (depth + 1) xs)
  | .object es => do
    return style.bracketed depth "\x7b" "\x7d" (← printMembers style (depth + 1) es)
  | v =>
    if style.textForOthers then .ok (printString style.ascii v.shown)
    else .error (.notSerializable v.shortKindName)

def printItems (style : Style) (depth : Nat) : List Value → Except Error (List String)
  | [] => .ok []
  | x :: xs => do
    let s ← printAt style depth x
    return s :: (← printItems style depth xs)

def printMembers (style : Style) (depth : Nat) : List (String × Value) → Except Error (List String)
  | [] => .ok []
  | (k, v) :: es => do
    let s ← printAt style depth v
    return (printString style.ascii k ++ style.keySeparator ++ s) ::
      (← printMembers style depth es)

end

def print (style : Style) (v : Value) : Except Error String := printAt style 0 v

end ProcessTriggers.Json
