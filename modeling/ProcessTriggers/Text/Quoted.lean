import ProcessTriggers.Text.Printable
import ProcessTriggers.Text.Surrogate

/-!
Quoted text: how a text or a run of bytes is shown inside a message. Single quotes enclose it,
unless it holds a single quote and no double one; what is not printable is escaped by number.
-/

namespace ProcessTriggers.Text

def hexDigit (n : Nat) : Char := if n < 10 then Char.ofNat (48 + n) else Char.ofNat (87 + n)

/-- The last `width` hexadecimal digits of `n`. -/
def hexDigits : Nat → Nat → List Char
  | 0, _ => []
  | width + 1, n => hexDigits width (n / 16) ++ [hexDigit (n % 16)]

/-- The quote that encloses `cs`. -/
def enclosingQuote (cs : List Char) : Char :=
  if cs.contains '\'' && !cs.contains '"' then '"' else '\''

def escapeNumbered (n : Nat) : List Char :=
  if n < 0x100 then '\\' :: 'x' :: hexDigits 2 n
  else if n < 0x10000 then '\\' :: 'u' :: hexDigits 4 n
  else '\\' :: 'U' :: hexDigits 8 n

def escapeChar (quote c : Char) : List Char :=
  if c == quote || c == '\\' then ['\\', c]
  else if c == '\n' then ['\\', 'n']
  else if c == '\t' then ['\\', 't']
  else if c == '\r' then ['\\', 'r']
  else if c == ' ' || isPrintable c then [c]
  else escapeNumbered (codePoint c)

def quoted (s : String) : String :=
  let q := enclosingQuote s.toList
  String.ofList (q :: s.toList.flatMap (escapeChar q) ++ [q])

/-- Bytes are shown as their ASCII characters, marked by a leading `b`. -/
def quotedBytes (bs : List UInt8) : String :=
  let cs := bs.map fun b => Char.ofNat b.toNat
  let q := enclosingQuote cs
  let escape (c : Char) : List Char :=
    if c.toNat < 0x7f then escapeChar q c else escapeNumbered c.toNat
  String.ofList ('b' :: q :: cs.flatMap escape ++ [q])

end ProcessTriggers.Text
