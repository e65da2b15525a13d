/-!
# Execution masks

A mask says which lanes are active. Masks are values: narrowing one gives another. Operations on two
masks demand that they have the same number of lanes.
-/

set_option autoImplicit false

namespace Lanewise

/-- Why an operation on lanes fails. -/
inductive LaneError where
  /-- Two operands have different numbers of lanes. -/
  | widthMismatch (left right : Nat)
  /-- A lane is named that does not exist. -/
  | laneOutOfRange (lane width : Nat)
  /-- A mask has more lanes than a word has bits. -/
  | maskTooWide (width : Nat)
  /-- A value is split into groups of no lanes. -/
  | zeroNativeWidth
  /-- A lane is read that is not active. -/
  | inactiveLane (lane : Nat)
  deriving DecidableEq

/-- The text of an error. -/
def LaneError.message : LaneError → String
  | widthMismatch left right => s!"lane count mismatch: {left} vs {right}"
  | laneOutOfRange lane width => s!"lane {lane} is out of range for {width} lanes"
  | maskTooWide width => s!"a {width}-lane mask does not fit in a 64-bit bitmask"
  | zeroNativeWidth => "native width must be at least one lane"
  | inactiveLane lane => s!"lane {lane} is not active"

/-- Demands that two operands have the same number of lanes. -/
def sameWidth (left right : Nat) : Except LaneError Unit :=
  if left = right then .ok () else .error (.widthMismatch left right)

/-- Which lanes are active, lane 0 first. -/
structure Mask where
  lanes : List Bool
  deriving DecidableEq

namespace Mask

/-- The mask of `width` active lanes. -/
def all (width : Nat) : Mask :=
  ⟨List.replicate width true⟩

/-- The mask of `width` inactive lanes. -/
def none (width : Nat) : Mask :=
  ⟨List.replicate width false⟩

/-- The mask of `width` lanes of which the first `active` are active. -/
def firstActive (width active : Nat) : Mask :=
  ⟨(List.range width).map fun i => decide (i < active)⟩

/-- The number of lanes. -/
def width (m : Mask) : Nat :=
  m.lanes.length

/-- Whether a lane is active. Lanes that do not exist are not. -/
def isActive (m : Mask) (lane : Nat) : Bool :=
  m.lanes.getD lane false

/-- The number of active lanes. -/
def count (m : Mask) : Nat :=
  m.lanes.countP id

/-- Whether some lane is active. -/
def anyActive (m : Mask) : Bool :=
  m.lanes.any id

/-- Whether all lanes are active. -/
def allActive (m : Mask) : Bool :=
  m.lanes.all id

/-- The active lanes, in order. -/
def activeLanes (m : Mask) : List Nat :=
  (List.range m.width).filter m.isActive

/-- Combines two masks lane by lane. -/
def zip (f : Bool → Bool → Bool) (a b : Mask) : Except LaneError Mask := do
  sameWidth a.width b.width
  return ⟨List.zipWith f a.lanes b.lanes⟩

/-- The lanes of `a` that are also active in `b`. -/
def and (a b : Mask) : Except LaneError Mask :=
  zip (fun x y => x && y) a b

/-- The lanes of `a` that are not active in `b`. -/
def andNot (a b : Mask) : Except LaneError Mask :=
  zip (fun x y => x && !y) a b

/-- The lanes that are active in `a` or in `b`. -/
def or (a b : Mask) : Except LaneError Mask :=
  zip (fun x y => x || y) a b

/-- The lanes that are not active. -/
def not (m : Mask) : Mask :=
  ⟨m.lanes.map fun x => !x⟩

/-- The word whose bit `i` is set exactly if lane `i` is active. -/
def toBits (m : Mask) : Except LaneError Nat :=
  if m.width ≤ 64 then .ok (m.activeLanes.foldl (fun bits i => bits ||| 1 <<< i) 0)
  else .error (.maskTooWide m.width)

end Mask

end Lanewise
