import Lanewise.Mask.Walk
import Lanewise.Proofs.Sites

/-!
# What the walk over a region writes down

The walk checks and writes at once, and it walks some loop bodies twice. What it writes does not depend on
what it checks: it is the record of a single pass over the block, said here without the checks. A record is
the list of the masks that are defined and the list of the sites that are visited, each with the mask in
force there; points, captured calls and region calls are read off the visits.

A trace that was extended by a record is wound back to what it was before (`Trace.rewind_extend`), so the
second walk over a loop body leaves no mark.
-/

set_option autoImplicit false

namespace Lanewise

/-! ### Expressions -/

mutual

/-- The calls of region functions in an expression that is evaluated under a mask, innermost first. -/
def Expr.regionCalls (cx : WalkContext) (mask : Nat) : Expr → List RegionCall
  | .int .. => []
  | .float .. => []
  | .bool .. => []
  | .ident .. => []
  | .unary _ _ operand => operand.regionCalls cx mask
  | .binary _ _ left right => left.regionCalls cx mask ++ right.regionCalls cx mask
  | .cast _ operand _ => operand.regionCalls cx mask
  | .call span callee args =>
    Expr.regionCallsOf cx mask args ++
      if cx.env.isRegionFunction callee.text then
        [{ caller := cx.function, callee := callee.text, span, mask := .caller mask }]
      else []
  | .range _ first last => first.regionCalls cx mask ++ last.regionCalls cx mask
  | .recv _ chan => chan.regionCalls cx mask

/-- The calls of region functions in several expressions. -/
def Expr.regionCallsOf (cx : WalkContext) (mask : Nat) : List Expr → List RegionCall
  | [] => []
  | e :: rest => e.regionCalls cx mask ++ Expr.regionCallsOf cx mask rest

end

/-! ### Records -/

/-- A site that the walk has come to, with the mask in force there. -/
structure Visit where
  site : Site
  mask : Nat

namespace Visit

/-- A visit of a block that is entered by a step, seen from outside that block. -/
def under (step : Step) (v : Visit) : Visit :=
  { v with site := v.site.under step }

/-- The mask in force at the statement. -/
def point (v : Visit) : MaskPoint :=
  { span := v.site.stmt.span, mask := v.mask }

/-- The call that the statement defers, if it does. -/
def deferred? (v : Visit) : Option CapturedCall :=
  match v.site.stmt with
  | .defer span call => some { callee := call.callee?.getD "", span, mask := v.mask }
  | _ => none

/-- The call that the statement spawns, if it does. -/
def spawned? (v : Visit) : Option CapturedCall :=
  match v.site.stmt with
  | .spawn span call => some { callee := call.callee?.getD "", span, mask := v.mask }
  | _ => none

/-- The calls of region functions that the statement makes. -/
def calls (cx : WalkContext) (v : Visit) : List RegionCall :=
  Expr.regionCallsOf cx v.mask v.site.stmt.scanned

end Visit

/-- What one pass over a part of a region writes down: the masks that it defines, and what it visits. -/
structure WalkRecord where
  masks : List MaskDef
  visits : List Visit

namespace WalkRecord

/-- The record of one part followed by that of another. -/
def append (a b : WalkRecord) : WalkRecord :=
  { masks := a.masks ++ b.masks, visits := a.visits ++ b.visits }

instance : Append WalkRecord := ⟨append⟩

/-- The masks of two parts come one after the other. -/
@[simp] theorem masks_append (a b : WalkRecord) : (a ++ b).masks = a.masks ++ b.masks := rfl

/-- The visits of two parts come one after the other. -/
@[simp] theorem visits_append (a b : WalkRecord) : (a ++ b).visits = a.visits ++ b.visits := rfl

/-- The record of nothing. -/
def empty : WalkRecord :=
  { masks := [], visits := [] }

/-- The record of arriving at a statement. -/
def here (index mask : Nat) (s : Stmt) : WalkRecord :=
  { masks := [], visits := [{ site := ⟨[], index, s⟩, mask }] }

/-- The record of defining masks. -/
def define (ds : List MaskDef) : WalkRecord :=
  { masks := ds, visits := [] }

/-- The record of a block that is entered by a step, seen from outside that block. -/
def under (step : Step) (r : WalkRecord) : WalkRecord :=
  { r with visits := r.visits.map (.under step) }

/-- A step in front does not change the masks. -/
@[simp] theorem masks_under (step : Step) (r : WalkRecord) : (r.under step).masks = r.masks := rfl

/-- A step in front comes in front of every visit. -/
@[simp] theorem visits_under (step : Step) (r : WalkRecord) :
    (r.under step).visits = r.visits.map (.under step) := rfl

/-- The record of the block behind a step that is entered under a mask, if all lanes agree, and otherwise
under a new mask with the given definition. -/
def narrowed (isVarying : Bool) (mask next : Nat) (d : MaskDef) (body : Nat → Nat → WalkRecord) :
    WalkRecord :=
  if isVarying then define [d] ++ body next (next + 1) else body mask next

end WalkRecord

/-! ### The record of a block -/

mutual

/-- The record of a statement that is number `index` in its block, under a mask, in a table of `next`
masks. -/
def Stmt.record (cx : WalkContext) (index mask next : Nat) (s : Stmt) : WalkRecord :=
  WalkRecord.here index mask s ++
  match s with
  | .ifThen _ cond thenArm =>
    if cx.isVarying cond then
      .define [.and mask cond.span, .andNot mask cond.span] ++
        (thenArm.record cx 0 next (next + 2)).under ⟨index, s, .thenArm⟩
    else (thenArm.record cx 0 mask next).under ⟨index, s, .thenArm⟩
  | .ifElse _ cond thenArm elseArm =>
    if cx.isVarying cond then
      let first := thenArm.record cx 0 next (next + 2)
      .define [.and mask cond.span, .andNot mask cond.span] ++
        first.under ⟨index, s, .thenArm⟩ ++
        (elseArm.record cx 0 (next + 1) (next + 2 + first.masks.length)).under ⟨index, s, .elseArm⟩
    else
      let first := thenArm.record cx 0 mask next
      first.under ⟨index, s, .thenArm⟩ ++
        (elseArm.record cx 0 mask (next + first.masks.length)).under ⟨index, s, .elseArm⟩
  | .switch _ scrutinee arms =>
    arms.record cx index s scrutinee.span (cx.isVarying scrutinee) 0 mask next
  | .typeSwitch _ _ _ arms => arms.record cx index s 0 mask next
  | .forIn _ _ _ body => (body.record cx 0 mask next).under ⟨index, s, .body⟩
  | .whileLoop _ cond body =>
    .narrowed (cx.isVarying cond) mask next (.and mask cond.span) fun mask next =>
      (body.record cx 0 mask next).under ⟨index, s, .body⟩
  | .goFor _ _ _ _ body => (body.record cx 0 mask next).under ⟨index, s, .body⟩
  | _ => .empty

/-- The record of a block, or of the rest of one, whose first statement is number `index`. -/
def Block.record (cx : WalkContext) (index mask next : Nat) : Block → WalkRecord
  | .nil _ => .empty
  | .cons first rest =>
    let here := first.record cx index mask next
    here ++ rest.record cx (index + 1) mask (next + here.masks.length)

/-- The record of the arms of a switch `s`, the first of which is number `k`. -/
def Arms.record (cx : WalkContext) (index : Nat) (s : Stmt) (scrutinee : Span) (isVarying : Bool)
    (k mask next : Nat) : Arms → WalkRecord
  | .nil => .empty
  | .default body =>
    .narrowed isVarying mask next (.default mask scrutinee k) fun mask next =>
      (body.record cx 0 mask next).under ⟨index, s, .default k⟩
  | .case _ body rest =>
    let here := .narrowed isVarying mask next (.case mask scrutinee k) fun mask next =>
      (body.record cx 0 mask next).under ⟨index, s, .case k⟩
    here ++ rest.record cx index s scrutinee isVarying (k + 1) mask (next + here.masks.length)

/-- The record of the arms of a type switch `s`, the first of which is number `k`. -/
def LaneArms.record (cx : WalkContext) (index : Nat) (s : Stmt) (k mask next : Nat) :
    LaneArms → WalkRecord
  | .nil => .empty
  | .default body => (body.record cx 0 mask next).under ⟨index, s, .lanes k⟩
  | .case _ body rest =>
    let here := (body.record cx 0 mask next).under ⟨index, s, .lanes k⟩
    here ++ rest.record cx index s (k + 1) mask (next + here.masks.length)

end

/-! ### Extended traces -/

/-- A trace followed by a record. -/
def Trace.extend (cx : WalkContext) (t : Trace) (r : WalkRecord) : Trace :=
  { masks := ⟨t.masks.defs ++ r.masks⟩
    points := t.points ++ r.visits.map Visit.point
    defers := t.defers ++ r.visits.filterMap Visit.deferred?
    spawns := t.spawns ++ r.visits.filterMap Visit.spawned?
    calls := t.calls ++ r.visits.flatMap (Visit.calls cx) }

/-- The record of nothing changes nothing. -/
theorem Trace.extend_empty (cx : WalkContext) (t : Trace) : t.extend cx .empty = t := by
  simp [Trace.extend, WalkRecord.empty]

/-- Two records one after the other extend a trace as both together. -/
theorem Trace.extend_extend (cx : WalkContext) (t : Trace) (a b : WalkRecord) :
    (t.extend cx a).extend cx b = t.extend cx (a ++ b) := by
  simp [Trace.extend]

/-- A step in front of the visits does not show in the trace. -/
theorem Trace.extend_under (cx : WalkContext) (t : Trace) (step : Step) (r : WalkRecord) :
    t.extend cx (r.under step) = t.extend cx r := by
  have hpoint : (r.visits.map (.under step)).map Visit.point = r.visits.map Visit.point := by
    rw [List.map_map]
    rfl
  have hdefer : (r.visits.map (.under step)).filterMap Visit.deferred? =
      r.visits.filterMap Visit.deferred? := by
    rw [List.filterMap_map]
    rfl
  have hspawn : (r.visits.map (.under step)).filterMap Visit.spawned? =
      r.visits.filterMap Visit.spawned? := by
    rw [List.filterMap_map]
    rfl
  have hcalls : (r.visits.map (.under step)).flatMap (Visit.calls cx) =
      r.visits.flatMap (Visit.calls cx) := by
    rw [List.flatMap_map]
    rfl
  simp only [Trace.extend, WalkRecord.masks_under, WalkRecord.visits_under, hpoint, hdefer, hspawn, hcalls]

/-- An extended trace has as many more masks as the record. -/
@[simp] theorem Trace.size_extend (cx : WalkContext) (t : Trace) (r : WalkRecord) :
    (t.extend cx r).masks.size = t.masks.size + r.masks.length := by
  simp [Trace.extend, MaskTable.size]

/-- Winding an extended trace back gives the trace that was extended. -/
theorem Trace.rewind_extend (cx : WalkContext) (t : Trace) (r : WalkRecord) :
    (t.extend cx r).rewind t.mark = t := by
  simp [Trace.extend, Trace.rewind, Trace.mark, MaskTable.truncate, MaskTable.size]

end Lanewise
