/-!
# Scalars

The element types of lane values. Every scalar has one canonical name, a few have a second spelling,
and each occupies a fixed number of bits per lane.
-/

set_option autoImplicit false

namespace Lanewise

/-- The element type of a uniform value or of one lane of a varying value. -/
inductive Scalar where
  | bool
  | int8
  | int16
  | int32
  | int64
  | uint8
  | uint16
  | uint32
  | uint64
  | float32
  | float64
  deriving DecidableEq, Inhabited

namespace Scalar

/-- All scalars, in the order in which they are listed. -/
def all : List Scalar :=
  [bool, int8, int16, int32, int64, uint8, uint16, uint32, uint64, float32, float64]

/-- The canonical name of a scalar. -/
def name : Scalar → String
  | bool => "bool"
  | int8 => "int8"
  | int16 => "int16"
  | int32 => "int32"
  | int64 => "int64"
  | uint8 => "uint8"
  | uint16 => "uint16"
  | uint32 => "uint32"
  | uint64 => "uint64"
  | float32 => "float32"
  | float64 => "float64"

instance : ToString Scalar := ⟨name⟩

/-- The scalar that a type name denotes. Besides the canonical names, `int`, `uint` and `float` stand
for the 64-bit scalars and `byte` for `uint8`. -/
def ofName? (text : String) : Option Scalar :=
  match text with
  | "bool" => some bool
  | "int8" => some int8
  | "int16" => some int16
  | "int32" => some int32
  | "int64" => some int64
  | "int" => some int64
  | "uint8" => some uint8
  | "byte" => some uint8
  | "uint16" => some uint16
  | "uint32" => some uint32
  | "uint64" => some uint64
  | "uint" => some uint64
  | "float32" => some float32
  | "float64" => some float64
  | "float" => some float64
  | _ => none

/-- The logical width of one lane, in bits. Booleans are packed one bit per lane. -/
def bits : Scalar → Nat
  | bool => 1
  | int8 | uint8 => 8
  | int16 | uint16 => 16
  | int32 | uint32 | float32 => 32
  | int64 | uint64 | float64 => 64

/-- Whether the scalar is one of the eight integer types. -/
def isInteger : Scalar → Bool
  | bool | float32 | float64 => false
  | _ => true

/-- Whether the scalar is a floating-point type. -/
def isFloat : Scalar → Bool
  | float32 | float64 => true
  | _ => false

/-- Whether arithmetic applies to the scalar: everything but `bool`. -/
def isNumeric : Scalar → Bool
  | bool => false
  | _ => true

/-- Every lane occupies at least one bit. -/
theorem bits_pos (s : Scalar) : 0 < s.bits := by
  cases s <;> decide

/-- The canonical name of a scalar denotes that scalar. -/
@[simp] theorem ofName?_name (s : Scalar) : ofName? s.name = some s := by
  cases s <;> rfl

end Scalar

end Lanewise
