import Lanewise.Diagnostic.Report
import Lanewise.Mask.Table

/-!
# Traces

What the walk over a region writes down: the masks that it defines, the mask in force at every
statement, and the calls that need to know their mask. A trace only ever grows, and it can be wound back
to an earlier length.
-/

set_option autoImplicit false

namespace Lanewise

/-- The mask in force at a statement. -/
structure MaskPoint where
  span : Span
  mask : Nat
  deriving DecidableEq

/-- A deferred or spawned call, with the mask in force where it is registered. The call runs later, under
that mask. -/
structure CapturedCall where
  callee : String
  span : Span
  mask : Nat
  deriving DecidableEq

/-- The mask with which a called function starts. -/
inductive CalleeMask where
  /-- The call comes from uniform code: all lanes are active. -/
  | fresh
  /-- The call comes from inside a region, and takes over the mask in force there. -/
  | caller (mask : Nat)
  deriving DecidableEq

/-- A call of a function whose body is a region. -/
structure RegionCall where
  caller : String
  callee : String
  span : Span
  mask : CalleeMask
  deriving DecidableEq

/-- What the walk over a region has written down so far. -/
structure Trace where
  masks : MaskTable
  points : List MaskPoint
  defers : List CapturedCall
  spawns : List CapturedCall
  calls : List RegionCall

namespace Trace

/-- The trace of nothing. -/
def empty : Trace :=
  { masks := .empty, points := [], defers := [], spawns := [], calls := [] }

/-- The lengths of the parts of a trace. -/
structure Mark where
  masks : Nat
  points : Nat
  defers : Nat
  spawns : Nat
  calls : Nat

/-- The present lengths of the parts of a trace. -/
def mark (t : Trace) : Mark :=
  { masks := t.masks.size, points := t.points.length, defers := t.defers.length,
    spawns := t.spawns.length, calls := t.calls.length }

/-- Drops all that was written down after a mark. -/
def rewind (t : Trace) (m : Mark) : Trace :=
  { masks := t.masks.truncate m.masks, points := t.points.take m.points,
    defers := t.defers.take m.defers, spawns := t.spawns.take m.spawns,
    calls := t.calls.take m.calls }

end Trace

/-- A walk: it writes to the trace, and may raise an issue. -/
abbrev Walk := StateT Trace (Except Issue)

namespace Walk

/-- Writes down the mask in force at a statement. -/
def point (span : Span) (mask : Nat) : Walk Unit :=
  modify fun t => { t with points := t.points ++ [{ span, mask }] }

/-- Writes down a deferred call. -/
def defer (callee : String) (span : Span) (mask : Nat) : Walk Unit :=
  modify fun t => { t with defers := t.defers ++ [{ callee, span, mask }] }

/-- Writes down a spawned call. -/
def spawn (callee : String) (span : Span) (mask : Nat) : Walk Unit :=
  modify fun t => { t with spawns := t.spawns ++ [{ callee, span, mask }] }

/-- Writes down a call of a function whose body is a region. -/
def call (c : RegionCall) : Walk Unit :=
  modify fun t => { t with calls := t.calls ++ [c] }

/-- Defines a mask, and names it. -/
def mask (d : MaskDef) : Walk Nat :=
  modifyGet fun t =>
    let (id, masks) := t.masks.push d
    (id, { t with masks })

/-- A step that writes nothing down. -/
def ofExcept {α : Type} (outcome : Except Issue α) : Walk α :=
  StateT.lift outcome

/-- Does what another walk does, but keeps nothing that it writes down. -/
def unrecorded {α : Type} (w : Walk α) : Walk α := do
  let t ← get
  let a ← w
  modify fun after => after.rewind t.mark
  return a

end Walk

end Lanewise
