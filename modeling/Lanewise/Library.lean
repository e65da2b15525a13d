/-!
# The lane library

The cross-lane operations and reductions that programs call by reserved dotted names. The same rules
hold for them inside and outside regions.
-/

set_option autoImplicit false

namespace Lanewise

/-- An operation of the lane library. -/
inductive LibraryOp where
  | broadcast
  | rotate
  | swizzle
  | shiftLeft
  | shiftRight
  | fromConstrained
  | add
  | mul
  | max
  | min
  | or
  | and
  | xor
  | any
  | all
  | findFirstSet
  | mask
  | from
  deriving DecidableEq

namespace LibraryOp

/-- The operations in the order in which they are listed. -/
def list : List LibraryOp :=
  [broadcast, rotate, swizzle, shiftLeft, shiftRight, fromConstrained, add, mul, max, min, or, and,
    xor, any, all, findFirstSet, mask, .from]

/-- The reserved name of an operation. -/
def name : LibraryOp → String
  | broadcast => "lanes.Broadcast"
  | rotate => "lanes.Rotate"
  | swizzle => "lanes.Swizzle"
  | shiftLeft => "lanes.ShiftLeft"
  | shiftRight => "lanes.ShiftRight"
  | fromConstrained => "lanes.FromConstrained"
  | add => "reduce.Add"
  | mul => "reduce.Mul"
  | max => "reduce.Max"
  | min => "reduce.Min"
  | or => "reduce.Or"
  | and => "reduce.And"
  | xor => "reduce.Xor"
  | any => "reduce.Any"
  | all => "reduce.All"
  | findFirstSet => "reduce.FindFirstSet"
  | mask => "reduce.Mask"
  | .from => "reduce.From"

instance : ToString LibraryOp := ⟨name⟩

/-- The operation with a given name. -/
def ofName? (text : String) : Option LibraryOp :=
  list.find? fun op => op.name == text

/-- The position of an operation in the list of all operations. -/
def position? (text : String) : Option Nat :=
  list.findIdx? fun op => op.name == text

/-- The number of arguments of an operation. -/
def arity : LibraryOp → Nat
  | broadcast | rotate | swizzle | shiftLeft | shiftRight => 2
  | _ => 1

/-- Every operation is found under its name. -/
@[simp] theorem ofName?_name (op : LibraryOp) : ofName? op.name = some op := by
  cases op <;> rfl

end LibraryOp

end Lanewise
