import Lanewise.Diagnostic.Report
import Lanewise.Syntax.Program
import Lanewise.Typing.Env

/-!
# The meaning of type expressions

A type expression is resolved to a lane type in an environment. Lane constraints are literals or
constants; a constraint of zero leaves the lane count open, and a positive one has to stay within the
register limit.
-/

set_option autoImplicit false

namespace Lanewise

/-- The scalar that a name denotes. -/
def resolveScalar (name : String) (span : Span) : Except Issue Scalar :=
  match Scalar.ofName? name with
  | some s => .ok s
  | none => .error (.type (.unknownType name) span)

/-- The number that a lane constraint stands for. -/
def Constraint.value (env : Env) (c : Constraint) : Except Issue Int64 :=
  match c.form with
  | .literal n => .ok n
  | .universal => .ok 0
  | .named name =>
    match env.constants.find? name with
    | some n => .ok n
    | none =>
      let fault : TypeFault :=
        if (env.lookup? name).isSome then .runtimeConstraint name else .undeclaredConstraint name
      .error (.type fault c.span)

/-- The width that a lane constraint of value `n` gives to lanes of type `elem`. -/
def widthOf (n : Int64) (elem : Scalar) (span : Span) : Except Issue Width :=
  if n.toInt < 0 then .error (.type (.negativeConstraint n.toInt) span)
  else if n.toInt = 0 then .ok .universal
  else if Width.holds n.toInt.toNat elem then .ok (.fixed n.toInt.toNat)
  else .error (.type (.constraintTooWide n.toInt elem) span)

/-- The width that a lane constraint gives to lanes of type `elem`. -/
def Constraint.width (env : Env) (c : Constraint) (elem : Scalar) : Except Issue Width := do
  let n ← c.value env
  widthOf n elem c.span

/-- The width of a varying type, whose constraint may be missing. -/
def laneWidth (env : Env) (lanes : Option Constraint) (elem : Scalar) : Except Issue Width :=
  match lanes with
  | none => .ok .native
  | some c => c.width env elem

/-- The lane type that a type expression denotes. -/
def TypeExpr.resolve (env : Env) : TypeExpr → Except Issue LaneType
  | .named span name =>
    if name = "void" then .ok .void
    else do
      let s ← resolveScalar name span
      return .uniform s
  | .varying _ (.named span name) lanes => do
    let s ← resolveScalar name span
    let w ← laneWidth env lanes s
    return .varying s w
  | .varying _ elem _ => .error (.type (.elementNotScalar elem) elem.span)
  | .chan _ elem => do
    let t ← elem.resolve env
    return .chan t

/-- The signature that a function declaration denotes. -/
def Function.signature (env : Env) (f : Function) : Except Issue Signature := do
  let params ← f.params.mapM fun p => p.type.resolve env
  let result ←
    match f.result with
    | none => pure .void
    | some t => t.resolve env
  return { params, result, isPublic := f.isPublic, span := f.span }

/-- Declares functions in order. A function whose signature does not resolve is reported and leaves
what its name meant before. -/
def declareFunctions : List Function → Env → Env × List Issue
  | [], env => (env, [])
  | f :: rest, env =>
    match f.signature env with
    | .ok s => declareFunctions rest { env with functions := env.functions.insert f.name.text s }
    | .error issue =>
      let (final, issues) := declareFunctions rest env
      (final, issue :: issues)

end Lanewise
