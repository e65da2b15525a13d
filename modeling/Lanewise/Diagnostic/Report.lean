import Lanewise.Diagnostic.Fault
import Lanewise.Json

/-!
# Issues and diagnostics

An issue is a fault at a place in the program: this is what the passes raise. A diagnostic is the
record that is handed on: the kind of the fault, the place, and the message as text. Diagnostics are
exchanged as JSON.
-/

set_option autoImplicit false

namespace Lanewise

/-- A fault at a place in the program. -/
structure Issue where
  fault : Fault
  span : Span
  deriving DecidableEq

namespace Issue

/-- A fault about types at a place. -/
def type (fault : TypeFault) (span : Span) : Issue :=
  { fault := .type fault, span }

/-- A fault about regions at a place. -/
def context (fault : ContextFault) (span : Span) : Issue :=
  { fault := .context fault, span }

/-- A fault about control flow at a place. -/
def flow (fault : FlowFault) (span : Span) : Issue :=
  { fault := .flow fault, span }

/-- Raises a fault about types unless a condition holds. -/
def require (condition : Bool) (fault : TypeFault) (span : Span) : Except Issue Unit :=
  if condition then .ok () else .error (type fault span)

/-- A demand is met exactly if its condition holds. -/
@[simp] theorem require_eq_ok {condition : Bool} {fault : TypeFault} {span : Span} {u : Unit} :
    require condition fault span = .ok u ↔ condition = true := by
  cases condition <;> simp [require]

/-- The full text of an issue, with the words that introduce its category. -/
def text (i : Issue) : String :=
  i.fault.kind.heading ++ i.fault.message

end Issue

/-- What is handed on about an issue. -/
structure Diagnostic where
  kind : Kind
  span : Span
  message : String
  deriving DecidableEq

/-- The diagnostic of an issue. -/
def Issue.diagnostic (i : Issue) : Diagnostic :=
  { kind := i.fault.kind, span := i.span, message := i.fault.message }

/-! ### JSON -/

/-- A span as a JSON record. -/
def Span.toJson (s : Span) : Json :=
  .obj [("start", .int s.start), ("end", .int s.stop), ("file_id", .int s.file)]

/-- Reads a span. Offsets are 64-bit and file numbers 32-bit words. -/
def Span.ofJson? (v : Json) : Option Span := do
  let [start, stop, file] ← v.record? ["start", "end", "file_id"] | none
  return {
    start := ← start.natBelow? UInt64.size
    stop := ← stop.natBelow? UInt64.size
    file := ← file.natBelow? UInt32.size }

/-- A kind as a JSON record of its category and its name. -/
def Kind.toJson (k : Kind) : Json :=
  .obj [("category", .str k.category), ("kind", .str k.name)]

/-- Reads a kind. -/
def Kind.ofJson? (v : Json) : Option Kind := do
  let [category, name] ← v.record? ["category", "kind"] | none
  ofNames? (← category.unitVariant?) (← name.unitVariant?)

/-- A diagnostic as a JSON record. -/
def Diagnostic.toJson (d : Diagnostic) : Json :=
  .obj [("kind", d.kind.toJson), ("span", d.span.toJson), ("message", .str d.message)]

/-- Reads a diagnostic. -/
def Diagnostic.ofJson? (v : Json) : Option Diagnostic := do
  let [kind, span, message] ← v.record? ["kind", "span", "message"] | none
  return {
    kind := ← Kind.ofJson? kind
    span := ← Span.ofJson? span
    message := ← message.str? }

/-- The text of a list of diagnostics. -/
def Diagnostic.listJson (ds : List Diagnostic) : String :=
  (Json.arr (ds.map toJson)).compact

end Lanewise
