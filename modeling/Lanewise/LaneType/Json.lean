import Lanewise.Json
import Lanewise.LaneType

/-!
# Lane types as JSON

Scalars, widths and lane types are exchanged as variants: those that carry nothing as a name, the others
as an object with one field.
-/

set_option autoImplicit false

namespace Lanewise

namespace Scalar

/-- The name of a scalar as a variant. -/
def tag : Scalar → String
  | bool => "Bool"
  | int8 => "Int8"
  | int16 => "Int16"
  | int32 => "Int32"
  | int64 => "Int64"
  | uint8 => "Uint8"
  | uint16 => "Uint16"
  | uint32 => "Uint32"
  | uint64 => "Uint64"
  | float32 => "Float32"
  | float64 => "Float64"

/-- A scalar as a JSON variant. -/
def toJson (s : Scalar) : Json :=
  .str s.tag

/-- Reads a scalar. -/
def ofJson? (v : Json) : Option Scalar := do
  let tag ← v.unitVariant?
  all.find? fun s => s.tag == tag

/-- A scalar is read back from its JSON form. -/
@[simp] theorem ofJson?_toJson (s : Scalar) : ofJson? s.toJson = some s := by
  cases s <;> rfl

end Scalar

namespace Width

/-- A width as a JSON variant. -/
def toJson : Width → Json
  | native => .str "Native"
  | fixed n => .obj [("Fixed", .int n)]
  | universal => .str "Universal"

/-- Reads a width. A fixed lane count is a 32-bit word. -/
def ofJson? (v : Json) : Option Width :=
  match v.variant? with
  | some ("Fixed", some n) => (n.natBelow? UInt32.size).map fixed
  | some ("Native", none) => some native
  | some ("Native", some .null) => some native
  | some ("Universal", none) => some universal
  | some ("Universal", some .null) => some universal
  | _ => none

end Width

namespace LaneType

/-- A lane type as a JSON variant. -/
def toJson : LaneType → Json
  | void => .str "Void"
  | uniform s => .obj [("Uniform", s.toJson)]
  | varying s w => .obj [("Varying", .arr [s.toJson, w.toJson])]
  | seq s => .obj [("Seq", s.toJson)]
  | groups s => .obj [("Groups", s.toJson)]
  | chan t => .obj [("Chan", t.toJson)]

/-- Reads a lane type. -/
def ofJson? : Json → Option LaneType
  | .str "Void" => some void
  | .obj [("Void", .null)] => some void
  | .obj [("Uniform", s)] => (Scalar.ofJson? s).map uniform
  | .obj [("Varying", .arr [s, w])] => do
    return varying (← Scalar.ofJson? s) (← Width.ofJson? w)
  | .obj [("Seq", s)] => (Scalar.ofJson? s).map seq
  | .obj [("Groups", s)] => (Scalar.ofJson? s).map groups
  | .obj [("Chan", t)] => (ofJson? t).map chan
  | _ => none

end LaneType

end Lanewise
