import Lanewise.Lanes.Varying

/-!
# Cross-lane permutations

Operations that move values between lanes. Lane 0 is the lowest, so a shift to the left moves values
towards higher lanes. Each has a masked form, in which inactive lanes keep their value; values are read
from inactive lanes too, except by a broadcast.
-/

set_option autoImplicit false

namespace Lanewise

/-- An index brought into the range of `n` lanes. -/
def wrap (i : Int) (n : Nat) : Nat :=
  (i % n).toNat

namespace Varying

variable {α : Type}

/-- The value of one lane in every lane. -/
def broadcast (v : Varying α) (lane : Nat) : Except LaneError (Varying α) := do
  let value ← v.get lane
  return splat value v.width

/-- Moves every value `offset` lanes up, around the end. -/
def rotate (v : Varying α) (offset : Int) : Varying α :=
  let n := v.width
  let up := wrap offset n
  v.gather ((List.range n).map fun i => (i + n - up) % n)

/-- Fetches the value of another lane into every lane. Indices are taken around the end. -/
def swizzle (v : Varying α) (indices : Varying Int) : Except LaneError (Varying α) := do
  sameWidth v.width indices.width
  return v.gather (indices.lanes.map fun i => wrap i v.width)

section

variable [Blank α]

/-- Fetches into each lane the value of its source lane, and blanks lanes without one. -/
def fetch (v : Varying α) (source : Nat → Option Nat) : Varying α :=
  ⟨(List.range v.width).map fun i =>
    ((source i).bind fun s => v.lanes[s]?).getD Blank.blank⟩

/-- The lane `amount` below a lane. -/
def laneBelow (amount lane : Nat) : Option Nat :=
  if amount ≤ lane then some (lane - amount) else none

/-- The lane `amount` above a lane. -/
def laneAbove (amount lane : Nat) : Option Nat :=
  some (lane + amount)

/-- Moves every value `amount` lanes up. -/
def shiftLeft (v : Varying α) (amount : Nat) : Varying α :=
  v.fetch (laneBelow amount)

/-- Moves every value `amount` lanes down. -/
def shiftRight (v : Varying α) (amount : Nat) : Varying α :=
  v.fetch (laneAbove amount)

/-- Fetches into each lane the value of the lane below it by an amount of its own. -/
def shiftLeftBy (v : Varying α) (amounts : Varying Nat) : Except LaneError (Varying α) := do
  sameWidth v.width amounts.width
  return v.fetch fun i => (amounts.lanes[i]?).bind fun a => laneBelow a i

/-- Fetches into each lane the value of the lane above it by an amount of its own. -/
def shiftRightBy (v : Varying α) (amounts : Varying Nat) : Except LaneError (Varying α) := do
  sameWidth v.width amounts.width
  return v.fetch fun i => (amounts.lanes[i]?).bind fun a => laneAbove a i

end

/-! ### Masked forms -/

/-- The value of one active lane in every active lane. -/
def broadcastMasked (v : Varying α) (lane : Nat) (mask : Mask) : Except LaneError (Varying α) := do
  sameWidth v.width mask.width
  let spread ← v.broadcast lane
  if mask.isActive lane then v.blend spread mask else .error (.inactiveLane lane)

/-- A rotation that writes the active lanes only. -/
def rotateMasked (v : Varying α) (offset : Int) (mask : Mask) : Except LaneError (Varying α) :=
  v.blend (v.rotate offset) mask

/-- A swizzle that writes the active lanes only. -/
def swizzleMasked (v : Varying α) (indices : Varying Int) (mask : Mask) :
    Except LaneError (Varying α) := do
  let moved ← v.swizzle indices
  v.blend moved mask

/-- A shift to the left that writes the active lanes only. -/
def shiftLeftMasked [Blank α] (v : Varying α) (amount : Nat) (mask : Mask) :
    Except LaneError (Varying α) :=
  v.blend (v.shiftLeft amount) mask

/-- A shift to the right that writes the active lanes only. -/
def shiftRightMasked [Blank α] (v : Varying α) (amount : Nat) (mask : Mask) :
    Except LaneError (Varying α) :=
  v.blend (v.shiftRight amount) mask

end Varying

end Lanewise
