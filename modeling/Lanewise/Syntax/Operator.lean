/-!
# Operators

The unary and binary operators of lane programs, their symbols and the families that share a typing
rule.
-/

set_option autoImplicit false

namespace Lanewise

/-- A binary operator. -/
inductive BinaryOp where
  | add
  | sub
  | mul
  | div
  | mod
  | eq
  | ne
  | lt
  | gt
  | le
  | ge
  | and
  | or
  | bitAnd
  | bitOr
  | bitXor
  | shl
  | shr
  deriving DecidableEq, Inhabited

namespace BinaryOp

/-- All binary operators. -/
def all : List BinaryOp :=
  [add, sub, mul, div, mod, eq, ne, lt, gt, le, ge, and, or, bitAnd, bitOr, bitXor, shl, shr]

/-- The symbol of an operator. -/
def symbol : BinaryOp → String
  | add => "+"
  | sub => "-"
  | mul => "*"
  | div => "/"
  | mod => "%"
  | eq => "=="
  | ne => "!="
  | lt => "<"
  | gt => ">"
  | le => "<="
  | ge => ">="
  | and => "&&"
  | or => "||"
  | bitAnd => "&"
  | bitOr => "|"
  | bitXor => "^"
  | shl => "<<"
  | shr => ">>"

instance : ToString BinaryOp := ⟨symbol⟩

/-- The operator with a given symbol. -/
def ofSymbol? (text : String) : Option BinaryOp :=
  all.find? fun op => op.symbol == text

/-- Whether the operator compares its operands, so that its result is a boolean. -/
def isComparison : BinaryOp → Bool
  | eq | ne | lt | gt | le | ge => true
  | _ => false

/-- Whether the operator joins booleans. -/
def isLogical : BinaryOp → Bool
  | and | or => true
  | _ => false

/-- Whether the operator works on the bits of integers. -/
def isBitwise : BinaryOp → Bool
  | bitAnd | bitOr | bitXor | shl | shr => true
  | _ => false

/-- Whether the operator tests for equality, which every scalar supports. -/
def isEquality : BinaryOp → Bool
  | eq | ne => true
  | _ => false

/-- Every operator is found under its symbol. -/
@[simp] theorem ofSymbol?_symbol (op : BinaryOp) : ofSymbol? op.symbol = some op := by
  cases op <;> rfl

end BinaryOp

/-- A unary operator. -/
inductive UnaryOp where
  | neg
  | not
  | bitNot
  deriving DecidableEq, Inhabited

/-- The symbol of an operator. -/
def UnaryOp.symbol : UnaryOp → String
  | neg => "-"
  | not => "!"
  | bitNot => "~"

instance : ToString UnaryOp := ⟨UnaryOp.symbol⟩

end Lanewise
