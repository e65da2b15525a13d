/-!
# Spans

A span is a stretch of source text: the offsets where it starts and stops, and the file it lies in.
Spans also key the facts that the passes hand to one another (the type of an expression, the mask of
a statement), so equality of spans is decidable.
-/

set_option autoImplicit false

namespace Lanewise

/-- A stretch of source text, from `start` up to but not including `stop`, in file number `file`. -/
structure Span where
  start : Nat
  stop : Nat
  file : Nat
  deriving DecidableEq, Inhabited

/-- A span in the first file. -/
def Span.between (start stop : Nat) : Span :=
  { start, stop, file := 0 }

/-- The order in which spans are listed: by file, then by start, then by stop. -/
def Span.listedBefore (a b : Span) : Bool :=
  if a.file ≠ b.file then a.file < b.file
  else if a.start ≠ b.start then a.start < b.start
  else a.stop ≤ b.stop

/-- A name together with the place where it is written. -/
structure Name where
  text : String
  span : Span
  deriving DecidableEq, Inhabited

end Lanewise
