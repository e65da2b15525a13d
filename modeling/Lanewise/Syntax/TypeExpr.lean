import Lanewise.Span

/-!
# Type expressions

Types as a program writes them. A type expression may be ill formed: its names need not exist, its
element need not be a scalar and its lane constraint need not be a constant.
-/

set_option autoImplicit false

namespace Lanewise

/-- What a lane constraint says. -/
inductive Constraint.Form where
  /-- A literal lane count. -/
  | literal (lanes : Int64)
  /-- The empty constraint, which stands for any lane count, as a literal zero does. -/
  | universal
  /-- A named constant. -/
  | named (constant : String)
  deriving DecidableEq

/-- A lane constraint and the place where it is written. -/
structure Constraint where
  form : Constraint.Form
  span : Span
  deriving DecidableEq

/-- A type as it is written. -/
inductive TypeExpr where
  /-- A scalar type, or the type of nothing. -/
  | named (span : Span) (name : String)
  /-- A varying type, with a lane constraint if one is written. -/
  | varying (span : Span) (elem : TypeExpr) (lanes : Option Constraint)
  /-- A channel type. -/
  | chan (span : Span) (elem : TypeExpr)
  deriving DecidableEq

namespace TypeExpr

/-- The place where a type is written. -/
def span : TypeExpr → Span
  | named span _ => span
  | varying span _ _ => span
  | chan span _ => span

/-- The same type, said to be written somewhere else. -/
def withSpan (span : Span) : TypeExpr → TypeExpr
  | named _ name => named span name
  | varying _ elem lanes => varying span elem lanes
  | chan _ elem => chan span elem

end TypeExpr

end Lanewise
