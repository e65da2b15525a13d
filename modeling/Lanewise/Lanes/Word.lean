import Lanewise.Lanes.Varying
import Lanewise.Scalar

/-!
# Lane elements

The values that lanes hold. An integer of a lane is a bit vector, whose arithmetic wraps; whether it is
signed matters only for its value, and so for the order.
-/

set_option autoImplicit false

namespace Lanewise

/-- An integer type: whether it is signed, and its number of bits. -/
structure IntKind where
  isSigned : Bool
  bits : Nat
  deriving DecidableEq

/-- The integer type of a scalar. -/
def Scalar.intKind? : Scalar → Option IntKind
  | int8 => some ⟨true, 8⟩
  | int16 => some ⟨true, 16⟩
  | int32 => some ⟨true, 32⟩
  | int64 => some ⟨true, 64⟩
  | uint8 => some ⟨false, 8⟩
  | uint16 => some ⟨false, 16⟩
  | uint32 => some ⟨false, 32⟩
  | uint64 => some ⟨false, 64⟩
  | bool => none
  | float32 => none
  | float64 => none

/-- An integer of a lane. -/
abbrev Word (k : IntKind) := BitVec k.bits

namespace Word

variable {k : IntKind}

/-- The number that a word stands for. -/
def value (w : Word k) : Int :=
  if k.isSigned then w.toInt else w.toNat

/-- The word that stands for a number, or for what is left of it within the bits of the type. -/
def ofInt (k : IntKind) (n : Int) : Word k :=
  BitVec.ofInt k.bits n

/-- The least word. -/
def lowest (k : IntKind) : Word k :=
  if k.isSigned then BitVec.intMin k.bits else 0

/-- The greatest word. -/
def highest (k : IntKind) : Word k :=
  if k.isSigned then BitVec.intMax k.bits else BitVec.allOnes k.bits

/-- The greater of two words. -/
def max (a b : Word k) : Word k :=
  if value a < value b then b else a

/-- The lesser of two words. -/
def min (a b : Word k) : Word k :=
  if value b < value a then b else a

end Word

instance {k : IntKind} : Blank (Word k) := ⟨0⟩

instance : Blank Bool := ⟨false⟩

instance : Blank Float := ⟨0⟩

instance : Blank Float32 := ⟨0⟩

instance : Blank String := ⟨""⟩

end Lanewise
