import Lanewise.Mask.Walk
import Lanewise.Region.Basic
import Lanewise.Syntax.Traversal

/-!
# Region reports

What code generation needs to know about a region: its masks, the mask at every statement, and the calls
that capture or take over a mask. Calls from outside every region start with a fresh mask; they are
listed apart.
-/

set_option autoImplicit false

namespace Lanewise

/-- The result of walking over a region. -/
structure RegionReport where
  kind : RegionKind
  function : String
  span : Span
  entry : Nat
  masks : MaskTable
  points : List MaskPoint
  defers : List CapturedCall
  spawns : List CapturedCall
  calls : List RegionCall
  finalState : Alteration

namespace RegionReport

/-- The deferred calls in the order in which they run: the last registered first. -/
def unwindOrder (r : RegionReport) : List CapturedCall :=
  r.defers.reverse

/-- The mask in force at a statement. -/
def maskAt? (r : RegionReport) (span : Span) : Option Nat :=
  (r.points.find? fun p => p.span = span).map MaskPoint.mask

end RegionReport

/-- The mask with which a region of some kind is entered. -/
def RegionKind.entryMask : RegionKind → EntryMask
  | goFor => .allTrue
  | function => .inherited

/-- The walk over a region, from the definition of its entry mask on. -/
def Region.walk (r : Region) (cx : WalkContext) : Walk (Nat × Alteration) := do
  let entry ← Walk.mask (.entry r.kind.entryMask)
  let out ← r.body.walk cx { mask := entry, depth := 0, loopBase := 0 } .clean
  return (entry, out)

/-- Walks over a region and reports on it. -/
def Region.analyze (r : Region) (env : Env) (types : TypeRecord) : Except Issue RegionReport := do
  let ((entry, finalState), t) ← (r.walk { function := r.function, env, types }).run .empty
  return {
    kind := r.kind, function := r.function, span := r.span, entry, masks := t.masks,
    points := t.points, defers := t.defers, spawns := t.spawns, calls := t.calls, finalState }

/-- The region call of a node outside every region, if it is one. -/
def Node.freshCall? (env : Env) (caller : String) (node : Node) : Option RegionCall :=
  match node.callee? with
  | some callee =>
    if env.isRegionFunction callee then some { caller, callee, span := node.span, mask := .fresh }
    else none
  | none => none

/-- The region calls of a function from outside every region. -/
def Function.freshCalls (f : Function) (env : Env) : List RegionCall :=
  if env.isRegionFunction f.name.text then []
  else
    (f.body.nodes fun node => !node.isGoFor).filterMap (Node.freshCall? env f.name.text)

end Lanewise
