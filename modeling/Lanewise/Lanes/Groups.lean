import Lanewise.Lanes.Varying
import Lanewise.Target

/-!
# Groups

A value with a fixed lane count is worked on in groups of the native lane count. The last group may be
short of lanes; its missing lanes are blank and inactive. Putting the active lanes of the groups side by
side gives the value back.
-/

set_option autoImplicit false

namespace Lanewise

/-- A native-width part of a value, and the lanes of it that are in use. -/
structure Group (α : Type) where
  values : Varying α
  mask : Mask
  deriving DecidableEq

/-- The shape of a division into groups. -/
structure GroupPlan where
  /-- The number of lanes of each group. -/
  nativeWidth : Nat
  /-- The number of groups. -/
  groups : Nat
  /-- The number of active lanes of the last group. -/
  tailActive : Nat
  deriving DecidableEq

namespace GroupPlan

/-- The division of `lanes` lanes into groups of `nativeWidth` lanes. -/
def make (lanes nativeWidth : Nat) : Except LaneError GroupPlan :=
  if nativeWidth = 0 then .error .zeroNativeWidth
  else
    let rest := lanes % nativeWidth
    .ok {
      nativeWidth
      groups := lanes / nativeWidth + if rest = 0 then 0 else 1
      tailActive := if rest = 0 ∧ 0 < lanes then nativeWidth else rest }

/-- The division of `lanes` lanes of type `s` into native groups of a target. -/
def forTarget (lanes : Nat) (s : Scalar) (target : Target) : Except LaneError GroupPlan :=
  make lanes (target.laneWidth s)

/-- Whether there is more than one group. -/
def needsSplit (p : GroupPlan) : Bool :=
  1 < p.groups

end GroupPlan

namespace Group

variable {α : Type}

/-- Cuts a list into pieces of `n` elements, the last of which may be shorter. The number of pieces is at
most `fuel`. -/
def pieces (n : Nat) : Nat → List α → List (List α)
  | 0, _ => []
  | _, [] => []
  | fuel + 1, xs => xs.take n :: pieces n fuel (xs.drop n)

/-- The group of at most `nativeWidth` lanes, filled up with blank lanes. -/
def ofLanes [Blank α] (nativeWidth : Nat) (lanes : List α) : Group α :=
  { values := ⟨lanes ++ List.replicate (nativeWidth - lanes.length) Blank.blank⟩
    mask := .firstActive nativeWidth lanes.length }

/-- The lanes of a group that are in use. -/
def activeValues (g : Group α) : Except LaneError (List α) := do
  sameWidth g.values.width g.mask.width
  return g.mask.activeLanes.filterMap fun i => g.values.lanes[i]?

end Group

namespace Varying

variable {α : Type}

/-- Divides a value into groups of `nativeWidth` lanes. -/
def toGroups [Blank α] (v : Varying α) (nativeWidth : Nat) : Except LaneError (List (Group α)) :=
  if nativeWidth = 0 then .error .zeroNativeWidth
  else .ok ((Group.pieces nativeWidth v.width v.lanes).map (Group.ofLanes nativeWidth))

/-- Puts the active lanes of groups side by side. -/
def ofGroups (groups : List (Group α)) : Except LaneError (Varying α) := do
  let parts ← groups.mapM Group.activeValues
  return ⟨parts.flatten⟩

end Varying

end Lanewise
