import Lanewise.Typing.Assign

/-!
# Conversions

When a value may be converted from one type to another. Lanes may keep their width or become narrower,
never wider: wider lanes would need a wider register than the program declared, and whether one exists
would depend on the target. The result has to stay within the register limit.
-/

set_option autoImplicit false

namespace Lanewise

/-- Demands that the result of a conversion stays within the register limit. -/
def castFits (source target : LaneType) (width : Width) (elem : Scalar) (span : Span) :
    Except Issue Unit :=
  Issue.require (width.fits elem) (.castTooWide source target) span

/-- Demands that a value of type `source` may be converted to type `target`. -/
def LaneType.expectCast (source target : LaneType) (span : Span) : Except Issue Unit :=
  match source, target with
  | .uniform _, .uniform _ => .ok ()
  | .uniform _, .varying _ .universal => .error (.type .universalOperand span)
  | .uniform _, .varying d w => castFits source target w d span
  | .varying .., .uniform _ => .error (.type (.castToUniform source target) span)
  | .varying _ .universal, .varying .. => .error (.type .universalOperand span)
  | .varying .., .varying _ .universal => .error (.type .universalOperand span)
  | .varying s sw, .varying d dw => do
    let w ← sw.join dw span
    Issue.require (d.bits ≤ s.bits) (.castWidens source target s.bits d.bits) span
    castFits source target w d span
  | _, _ => .error (.type (.castMismatch source target) span)

end Lanewise
