import Lanewise.Lanes.Mask

/-!
# Varying values

One value for each lane. An execution mask and a varying boolean are different things: a mask says which
lanes run, a varying boolean is data. They are converted into one another explicitly.
-/

set_option autoImplicit false

namespace Lanewise

/-- Element types that have a value for a lane that nothing was written to. -/
class Blank (α : Type) where
  blank : α

/-- One value for each lane, lane 0 first. -/
structure Varying (α : Type) where
  lanes : List α
  deriving DecidableEq

namespace Varying

variable {α β γ : Type}

/-- The same value in `width` lanes. -/
def splat (value : α) (width : Nat) : Varying α :=
  ⟨List.replicate width value⟩

/-- The number of lanes. -/
def width (v : Varying α) : Nat :=
  v.lanes.length

/-- The value in a lane. -/
def get (v : Varying α) (lane : Nat) : Except LaneError α :=
  match v.lanes[lane]? with
  | some value => .ok value
  | none => .error (.laneOutOfRange lane v.width)

/-- Applies a function in every lane. -/
def map (f : α → β) (v : Varying α) : Varying β :=
  ⟨v.lanes.map f⟩

/-- Combines two values lane by lane. -/
def zipWith (f : α → β → γ) (v : Varying α) (w : Varying β) : Except LaneError (Varying γ) := do
  sameWidth v.width w.width
  return ⟨List.zipWith f v.lanes w.lanes⟩

/-- The lanes that a masked write leaves: active lanes take the incoming value, the others keep the old
one. -/
def blendLanes : List α → List α → List Bool → List α
  | old :: olds, new :: news, active :: mask =>
    (if active then new else old) :: blendLanes olds news mask
  | _, _, _ => []

/-- Writes `incoming` to the active lanes of `v`. -/
def blend (v incoming : Varying α) (mask : Mask) : Except LaneError (Varying α) := do
  sameWidth v.width incoming.width
  sameWidth v.width mask.width
  return ⟨blendLanes v.lanes incoming.lanes mask.lanes⟩

/-- The values in the given lanes, in the given order. -/
def gather (v : Varying α) (indices : List Nat) : Varying α :=
  ⟨indices.filterMap fun i => v.lanes[i]?⟩

/-- The mask of the lanes that hold `true`. -/
def toMask (v : Varying Bool) : Mask :=
  ⟨v.lanes⟩

end Varying

/-- The varying boolean that is `true` in the active lanes. -/
def Mask.toVarying (m : Mask) : Varying Bool :=
  ⟨m.lanes⟩

end Lanewise
