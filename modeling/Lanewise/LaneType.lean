import Lanewise.Width

/-!
# Lane types

The types that the checker gives to expressions, and the text in which messages show them.
-/

set_option autoImplicit false

namespace Lanewise

/-- The type of an expression. -/
inductive LaneType where
  /-- The type of a call that yields nothing. -/
  | void
  /-- One value shared by all lanes. -/
  | uniform (elem : Scalar)
  /-- One value for each lane. -/
  | varying (elem : Scalar) (width : Width)
  /-- An ordered sequence shared by all lanes, such as a range. -/
  | seq (elem : Scalar)
  /-- The native-width groups of a value with a fixed lane count. -/
  | groups (elem : Scalar)
  /-- A channel of values of type `elem`. -/
  | chan (elem : LaneType)
  deriving DecidableEq, Inhabited

namespace LaneType

/-- The text of a type in messages and listings. -/
def text : LaneType → String
  | void => "void"
  | uniform s => s.name
  | varying s .native => "varying " ++ s.name
  | varying s (.fixed n) => "varying[" ++ toString n ++ "] " ++ s.name
  | varying s .universal => "varying[] " ++ s.name
  | seq s => "[]" ++ s.name
  | groups s => "groups " ++ s.name
  | chan t => "chan " ++ t.text

instance : ToString LaneType := ⟨text⟩

/-- Whether lanes may hold different values of this type. A channel of varying values is not varying
itself. -/
def isVarying : LaneType → Bool
  | varying .. => true
  | _ => false

/-- Whether the type is varying with an unknown lane count. -/
def isUniversal : LaneType → Bool
  | varying _ .universal => true
  | _ => false

/-- The element type of a uniform or varying type. -/
def scalar? : LaneType → Option Scalar
  | uniform s => some s
  | varying s _ => some s
  | _ => none

/-- The lane width of a varying type. -/
def width? : LaneType → Option Width
  | varying _ w => some w
  | _ => none

/-- Whether the type is a uniform or varying boolean. -/
def isBool (t : LaneType) : Bool :=
  t.scalar? = some .bool

end LaneType

end Lanewise
