import ProcessTriggers.Condition.Operand
import ProcessTriggers.Path
import ProcessTriggers.Text.Search
import ProcessTriggers.Value.Access

/-!
Comparison expressions: a path or literal, an operator and a literal. Of the operators the first
of the list that occurs anywhere splits the text; only the first two parts count.
-/

namespace ProcessTriggers

/-- The comparison operators. Those of two characters come before their own beginnings. -/
inductive Comparison
  | eq
  | ne
  | ge
  | le
  | gt
  | lt
  deriving DecidableEq, Repr

namespace Comparison

def all : List Comparison := [.eq, .ne, .ge, .le, .gt, .lt]

def symbol : Comparison → List Char
  | .eq => ['=', '=']
  | .ne => ['!', '=']
  | .ge => ['>', '=']
  | .le => ['<', '=']
  | .gt => ['>']
  | .lt => ['<']

/-- An ordering of two numbers. Nothing holds of what is not a number. -/
def ofNumbers (op : Comparison) (x y : Double) : Bool :=
  match x.compare? y with
  | none => false
  | some o =>
    match op with
    | .eq => o == .eq
    | .ne => o != .eq
    | .ge => o != .lt
    | .le => o != .gt
    | .gt => o == .gt
    | .lt => o == .lt

/-- Compares a value with a literal: as texts for equality, as numbers for order. -/
def apply (op : Comparison) (left : Value) (right : String) : Except Error Bool :=
  match op with
  | .eq => .ok (Operand.display left == right)
  | .ne => .ok (Operand.display left != right)
  | op => do
    let x ← Operand.number left
    let y ← Operand.ofText right
    return op.ofNumbers x y

end Comparison

namespace Expression

def isQuote (c : Char) : Bool := c == '\'' || c == '"'

/-- The trimmed texts before and after the first occurrence of an operator; the second ends where
the operator occurs again. -/
def operands? (op : Comparison) (cs : List Char) : Option (List Char × List Char) :=
  (Text.cutAt? op.symbol cs).map fun (l, r) =>
    (Text.trim l, Text.trim ((Text.cutAt? op.symbol r).elim r (·.1)))

/-- The operator of an expression with its operands. -/
def split? (cs : List Char) : Option (Comparison × List Char × List Char) :=
  Comparison.all.findSome? fun op => (operands? op cs).map fun (l, r) => (op, l, r)

/-- Evaluates an expression text; one without an operator is false. -/
def evaluateText (s : String) (context : Value) : Except Error Bool :=
  match split? s.toList with
  | none => .ok false
  | some (op, l, r) =>
    op.apply (Value.resolve (.text (String.ofList l)) context)
      (String.ofList (r.filter (!isQuote ·)))

/-- An expression must be text. Any other value is searched for the operators as a container, and
holding one of them does not make it a text. -/
def evaluate (expression context : Value) : Except Error Bool :=
  match expression with
  | .text s => evaluateText s context
  | v => do
    for op in Comparison.all do
      if ← v.contains (.text (String.ofList op.symbol)) then
        throw (v.lacks "split")
    return false

end Expression
end ProcessTriggers
