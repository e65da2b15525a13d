import Lanewise.Lanes.Word

/-!
# Reductions

A reduction folds the active lanes of a value into one result, from lane 0 up, starting with the unit of
its operation. Over no active lanes it gives the unit.
-/

set_option autoImplicit false

namespace Lanewise

/-- An operation that lanes are folded with, and the value that the fold starts with. -/
structure Reduction (α : Type) where
  unit : α
  op : α → α → α

/-- Folds the active lanes of a value. -/
def Reduction.run {α : Type} (r : Reduction α) (v : Varying α) (mask : Mask) :
    Except LaneError α := do
  sameWidth v.width mask.width
  return (v.lanes.zip mask.lanes).foldl
    (fun acc lane => if lane.2 then r.op acc lane.1 else acc) r.unit

/-! ### Integers -/

/-- The reductions of integer lanes. -/
inductive IntReduction where
  | add
  | mul
  | max
  | min
  | or
  | and
  | xor
  deriving DecidableEq

/-- All reductions of integer lanes. -/
def IntReduction.all : List IntReduction :=
  [add, mul, max, min, or, and, xor]

/-- The operation and unit of a reduction. Sums and products wrap. -/
def IntReduction.reduction (k : IntKind) : IntReduction → Reduction (Word k)
  | add => ⟨0, fun a b => a + b⟩
  | mul => ⟨1, fun a b => a * b⟩
  | max => ⟨Word.lowest k, Word.max⟩
  | min => ⟨Word.highest k, Word.min⟩
  | or => ⟨0, fun a b => a ||| b⟩
  | and => ⟨BitVec.allOnes k.bits, fun a b => a &&& b⟩
  | xor => ⟨0, fun a b => a ^^^ b⟩

/-! ### Floating-point numbers -/

/-- The reductions of floating-point lanes. -/
inductive FloatReduction where
  | add
  | mul
  | max
  | min
  deriving DecidableEq

/-- All reductions of floating-point lanes. -/
def FloatReduction.all : List FloatReduction :=
  [add, mul, max, min]

/-- The operation and unit of a reduction of double precision. A lane that compares with nothing never
becomes the maximum or the minimum. -/
def FloatReduction.reduction64 : FloatReduction → Reduction Float
  | add => ⟨0, fun a b => a + b⟩
  | mul => ⟨1, fun a b => a * b⟩
  | max => ⟨-1 / 0, fun a b => if a < b then b else a⟩
  | min => ⟨1 / 0, fun a b => if b < a then b else a⟩

/-- The operation and unit of a reduction of single precision. -/
def FloatReduction.reduction32 : FloatReduction → Reduction Float32
  | add => ⟨0, fun a b => a + b⟩
  | mul => ⟨1, fun a b => a * b⟩
  | max => ⟨-1 / 0, fun a b => if a < b then b else a⟩
  | min => ⟨1 / 0, fun a b => if b < a then b else a⟩

/-! ### Booleans -/

/-- The reductions of boolean lanes to a boolean. -/
inductive BoolReduction where
  | or
  | and
  | xor
  deriving DecidableEq

/-- The operation and unit of a reduction. -/
def BoolReduction.reduction : BoolReduction → Reduction Bool
  | or => ⟨false, fun a b => a || b⟩
  | and => ⟨true, fun a b => a && b⟩
  | xor => ⟨false, fun a b => a ^^ b⟩

namespace Varying

/-- Whether some active lane holds `true`. -/
def anyTrue (v : Varying Bool) (mask : Mask) : Except LaneError Bool :=
  BoolReduction.or.reduction.run v mask

/-- Whether all active lanes hold `true`. -/
def allTrue (v : Varying Bool) (mask : Mask) : Except LaneError Bool :=
  BoolReduction.and.reduction.run v mask

/-- The lowest active lane that holds `true`, or -1. -/
def findFirstSet (v : Varying Bool) (mask : Mask) : Except LaneError Int := do
  sameWidth v.width mask.width
  return match mask.activeLanes.find? fun i => v.lanes.getD i false with
    | some i => i
    | none => -1

/-- The word whose bit `i` is set exactly if lane `i` is active and holds `true`. -/
def bitmask (v : Varying Bool) (mask : Mask) : Except LaneError Nat := do
  let active ← v.toMask.and mask
  active.toBits

end Varying

end Lanewise
