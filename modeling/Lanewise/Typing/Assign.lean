import Lanewise.Diagnostic.Report

/-!
# Flow into slots

When a value of one type may flow into a slot of another: a variable, an argument, a result, a channel.
A uniform value spreads over the lanes of a varying slot. A varying value never flows into a uniform
slot. An integer literal takes on any numeric type.
-/

set_option autoImplicit false

namespace Lanewise

/-- The issue of two widths that do not combine. -/
def Width.Clash.issue (c : Width.Clash) (span : Span) : Issue :=
  match c with
  | .mismatch a b => .type (.laneCountsDiffer a b) span
  | .universal => .type .universalOperand span

/-- The combined width, or the issue that there is none. -/
def Width.join (a b : Width) (span : Span) : Except Issue Width :=
  (a.combine b).mapError fun c => c.issue span

/-- Whether an element of type `found` may stand for one of type `expected`. -/
def Scalar.agrees (found expected : Scalar) (isLiteral : Bool) : Bool :=
  found = expected || (isLiteral && found.isInteger && expected.isNumeric)

/-- Demands that an element of type `found` may stand for one of type `expected`. -/
def Scalar.expect (found expected : Scalar) (isLiteral : Bool) (span : Span) : Except Issue Unit :=
  Issue.require (found.agrees expected isLiteral) (.scalarMismatch expected found) span

/-- Demands that a value of width `found` may flow into a slot of width `expected`. -/
def Width.expect (found expected : Width) (span : Span) : Except Issue Unit :=
  match found, expected with
  | _, .universal => .ok ()
  | .universal, _ => .error (.type .universalOperand span)
  | .native, _ => .ok ()
  | .fixed m, .fixed n =>
    if m = n then .ok () else .error (.type (.laneCountsDiffer m n) span)
  | .fixed n, .native => .error (.type (.fixedIntoNative n) span)

/-- Demands that a value of type `found` may flow into a slot of type `expected`. -/
def LaneType.expect (found expected : LaneType) (isLiteral : Bool) (span : Span) :
    Except Issue Unit :=
  match found, expected with
  | .varying .., .uniform _ => .error (.type (.varyingWhereUniform found expected) span)
  | .uniform a, .uniform e => a.expect e isLiteral span
  | .uniform a, .varying e _ => a.expect e isLiteral span
  | .varying a aw, .varying e ew => do
    a.expect e false span
    aw.expect ew span
  | _, _ => Issue.require (found = expected) (.typeMismatch expected found) span

end Lanewise
