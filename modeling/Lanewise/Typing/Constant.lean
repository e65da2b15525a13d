import Lanewise.Assoc
import Lanewise.Diagnostic.Report
import Lanewise.Syntax.Program

/-!
# Compile-time integers

Constants are signed 64-bit integers. An expression over literals and constants is folded to its value;
it has none if a step leaves the range of the type or divides by zero. A shift to the left is the
exception: its amount has to lie between 0 and 63, and bits that leave the word are lost.
-/

set_option autoImplicit false

namespace Lanewise

/-- The word with a given value, if the value is in range. -/
def word? (value : Int) : Option Int64 :=
  if Int64.minValue.toInt ≤ value ∧ value ≤ Int64.maxValue.toInt then some (Int64.ofInt value) else none

/-- The value of an operator on compile-time integers. Division truncates; a remainder exists where the
quotient does. -/
def BinaryOp.fold? (op : BinaryOp) (l r : Int64) : Option Int64 :=
  match op with
  | add => word? (l.toInt + r.toInt)
  | sub => word? (l.toInt - r.toInt)
  | mul => word? (l.toInt * r.toInt)
  | div => if r.toInt = 0 then none else word? (l.toInt.tdiv r.toInt)
  | mod =>
    if r.toInt = 0 then none
    else (word? (l.toInt.tdiv r.toInt)).map fun _ => Int64.ofInt (l.toInt.tmod r.toInt)
  | shl =>
    if 0 ≤ r.toInt ∧ r.toInt < 64 then some (Int64.ofInt (l.toInt * Int.pow 2 r.toInt.toNat)) else none
  | _ => none

/-- The issue of an expression that has no compile-time value. -/
def notConstant (what : NonConstant) (span : Span) : Issue :=
  .type (.notConstant what) span

/-- The value of an expression over literals and constants. -/
def Expr.constantValue (constants : NameMap Int64) : Expr → Except Issue Int64
  | .int _ v => .ok v
  | .ident span name =>
    match constants.find? name with
    | some v => .ok v
    | none => .error (notConstant (.name name) span)
  | .unary span .neg operand => do
    let v ← operand.constantValue constants
    match word? (-v.toInt) with
    | some r => .ok r
    | none => .error (notConstant .negation span)
  | .binary span op left right => do
    let l ← left.constantValue constants
    let r ← right.constantValue constants
    match op.fold? l r with
    | some v => .ok v
    | none => .error (notConstant (.operation op) span)
  | e => .error (notConstant .expression e.span)

/-- Declares constants in order, so that a constant may use those before it. A constant without a value
is reported and leaves what its name meant before. -/
def declareConstants : List Constant → NameMap Int64 → NameMap Int64 × List Issue
  | [], constants => (constants, [])
  | c :: rest, constants =>
    match c.value.constantValue constants with
    | .ok v => declareConstants rest (constants.insert c.name.text v)
    | .error issue =>
      let (final, issues) := declareConstants rest constants
      (final, issue :: issues)

end Lanewise
