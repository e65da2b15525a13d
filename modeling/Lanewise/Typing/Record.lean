import Lanewise.Assoc
import Lanewise.LaneType
import Lanewise.Span

/-!
# Recorded types

The types that the body checker found, under the spans of the expressions and names that have them.
Later passes read from this record whether a condition is varying instead of typing it again.
-/

set_option autoImplicit false

namespace Lanewise

/-- The types found in a function body. -/
abbrev TypeRecord := Assoc Span LaneType

namespace TypeRecord

/-- Whether the type recorded at a span is varying. A span without a record counts as uniform. -/
def isVaryingAt (types : TypeRecord) (span : Span) : Bool :=
  (types.find? span).any LaneType.isVarying

/-- The record in the order in which spans are listed. -/
def listed (types : TypeRecord) : List (Span × LaneType) :=
  types.entries.mergeSort fun a b => a.1.listedBefore b.1

end TypeRecord

end Lanewise
