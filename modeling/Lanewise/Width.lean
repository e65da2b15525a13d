import Lanewise.Scalar

/-!
# Lane widths

How many lanes a varying value has: the target's native count, a fixed count, or a count that is not
known until the value is narrowed. Operators combine the widths of their operands; a fixed count wins
over the native one, and nothing combines with an unknown count.
-/

set_option autoImplicit false

namespace Lanewise

/-- The widest logical register that a varying value may occupy, in bits. It does not depend on the
target, so that a program is well formed on every target or on none. -/
def registerLimit : Nat := 512

/-- The lane count of a varying type. -/
inductive Width where
  /-- The lane count that the target has for the element type. -/
  | native
  /-- Exactly `lanes` lanes. -/
  | fixed (lanes : Nat)
  /-- Any lane count; such a value must be narrowed before it is operated on. -/
  | universal
  deriving DecidableEq, Inhabited

namespace Width

/-- Why two widths do not combine. -/
inductive Clash where
  /-- Two different fixed counts. -/
  | mismatch (left right : Nat)
  /-- One of the widths is universal. -/
  | universal
  deriving DecidableEq

/-- The width of the result of an operation on values of widths `a` and `b`. -/
def combine (a b : Width) : Except Clash Width :=
  match a, b with
  | universal, _ => .error .universal
  | _, universal => .error .universal
  | native, native => .ok native
  | fixed n, native => .ok (fixed n)
  | native, fixed n => .ok (fixed n)
  | fixed m, fixed n => if m = n then .ok (fixed m) else .error (.mismatch m n)

/-- Whether `lanes` lanes of `s` stay within the register limit. -/
def holds (lanes : Nat) (s : Scalar) : Bool :=
  lanes * s.bits ≤ registerLimit

/-- Whether a value of this width and of element type `s` stays within the register limit. Native and
universal widths always do. -/
def fits (w : Width) (s : Scalar) : Bool :=
  match w with
  | fixed n => holds n s
  | native => true
  | universal => true

end Width

end Lanewise
