import Lanewise.Diagnostic.Report
import Lanewise.Mask.Report

/-!
# Region reports as JSON

Code generation reads the reports of regions as JSON. Masks are numbers: their positions in the table of
the region.
-/

set_option autoImplicit false

namespace Lanewise

/-- The kind of a region as a JSON variant. -/
def RegionKind.toJson : RegionKind → Json
  | goFor => .str "GoFor"
  | function => .str "SpmdFunction"

/-- An entry mask as a JSON variant. -/
def EntryMask.toJson : EntryMask → Json
  | allTrue => .str "AllTrue"
  | inherited => .str "Inherited"

/-- The definition of a mask as a JSON variant. -/
def MaskDef.toJson : MaskDef → Json
  | entry kind => .obj [("Entry", kind.toJson)]
  | and parent cond => .obj [("And", .obj [("parent", .int parent), ("cond", cond.toJson)])]
  | andNot parent cond => .obj [("AndNot", .obj [("parent", .int parent), ("cond", cond.toJson)])]
  | case parent scrutinee index =>
    .obj [("Case", .obj [("parent", .int parent), ("scrutinee", scrutinee.toJson),
      ("index", .int index)])]
  | default parent scrutinee cases =>
    .obj [("Default", .obj [("parent", .int parent), ("scrutinee", scrutinee.toJson),
      ("cases", .int cases)])]

/-- A table of masks as a JSON record. -/
def MaskTable.toJson (t : MaskTable) : Json :=
  .obj [("defs", .arr (t.defs.map MaskDef.toJson))]

/-- The mask at a statement as a JSON record. -/
def MaskPoint.toJson (p : MaskPoint) : Json :=
  .obj [("span", p.span.toJson), ("mask", .int p.mask)]

/-- A deferred or spawned call as a JSON record. -/
def CapturedCall.toJson (c : CapturedCall) : Json :=
  .obj [("callee", .str c.callee), ("span", c.span.toJson), ("mask", .int c.mask)]

/-- The mask that a callee starts with as a JSON variant. -/
def CalleeMask.toJson : CalleeMask → Json
  | fresh => .str "Fresh"
  | caller mask => .obj [("Caller", .int mask)]

/-- A call of a region function as a JSON record. -/
def RegionCall.toJson (c : RegionCall) : Json :=
  .obj [("caller", .str c.caller), ("callee", .str c.callee), ("span", c.span.toJson),
    ("mask", c.mask.toJson)]

/-- The state of a mask as a JSON variant. -/
def Alteration.toJson : Alteration → Json
  | clean => .str "Clean"
  | tainted => .str "Tainted"

/-- The fields of a report. -/
def RegionReport.jsonFields (r : RegionReport) : List (String × Json) :=
  [("kind", r.kind.toJson), ("function", .str r.function), ("span", r.span.toJson),
    ("entry", .int r.entry), ("masks", r.masks.toJson),
    ("points", .arr (r.points.map MaskPoint.toJson)),
    ("defers", .arr (r.defers.map CapturedCall.toJson)),
    ("spawns", .arr (r.spawns.map CapturedCall.toJson)),
    ("calls", .arr (r.calls.map RegionCall.toJson)), ("final_state", r.finalState.toJson)]

/-- A report as a JSON record. -/
def RegionReport.toJson (r : RegionReport) : Json :=
  .obj r.jsonFields

end Lanewise
