import Lanewise.Diagnostic.Report
import Lanewise.Syntax.Traversal
import Lanewise.Typing.Record

/-!
# Contexts

Which statements may stand inside a region, and which only there. Regions do not nest: no go-for and no
call of a launcher stands inside one. Outside every region, no varying value decides control flow or
stops the program.
-/

set_option autoImplicit false

namespace Lanewise

/-- What the context rules depend on. -/
structure ContextRules where
  /-- The types of the body, as they were recorded. -/
  types : TypeRecord
  /-- The functions that open a region when they are called. -/
  launchers : List String
  /-- Whether the whole body is a region. -/
  wholeBody : Bool

namespace ContextRules

/-- Whether a node is a call of a launcher. -/
def isLaunch (rules : ContextRules) (node : Node) : Bool :=
  node.callee?.any rules.launchers.contains

/-- Demands that an expression inside a region calls no launcher. -/
def checkExpr (rules : ContextRules) (inRegion : Bool) (e : Expr) : Except Issue Unit :=
  if inRegion then
    match (e.nodes fun _ => true).find? rules.isLaunch with
    | some node => .error (.context (.callOpensRegion (node.callee?.getD "")) node.span)
    | none => .ok ()
  else .ok ()

/-- Demands that several expressions inside a region call no launcher. -/
def checkExprs (rules : ContextRules) (inRegion : Bool) : List Expr → Except Issue Unit
  | [] => .ok ()
  | e :: rest => do
    rules.checkExpr inRegion e
    rules.checkExprs inRegion rest

/-- Demands that a value that decides control flow outside every region is uniform. -/
def checkDecision (rules : ContextRules) (inRegion : Bool) (what : Decision) (e : Expr) :
    Except Issue Unit :=
  if !inRegion && rules.types.isVaryingAt e.span then
    .error (.context (.varyingDecision what) e.span)
  else .ok ()

/-- Demands that a value that stops the program outside every region is uniform. -/
def checkPanic (rules : ContextRules) (inRegion : Bool) (e : Expr) : Except Issue Unit :=
  if !inRegion && rules.types.isVaryingAt e.span then
    .error (.context .varyingPanic e.span)
  else .ok ()

/-- Demands that a go-for may open a region here. -/
def checkGoFor (rules : ContextRules) (inRegion : Bool) (span : Span) : Except Issue Unit :=
  if rules.wholeBody then .error (.context .goForInRegionFunction span)
  else if inRegion then .error (.context .nestedGoFor span)
  else .ok ()

end ContextRules

mutual

/-- Checks the context rules for a statement. -/
def Stmt.checkContext (rules : ContextRules) (inRegion : Bool) : Stmt → Except Issue Unit
  | .declare _ _ _ value => rules.checkExpr inRegion value
  | .assign _ _ value => rules.checkExpr inRegion value
  | .ifThen _ cond thenArm => do
    rules.checkDecision inRegion .branching cond
    rules.checkExpr inRegion cond
    thenArm.checkContext rules inRegion
  | .ifElse _ cond thenArm elseArm => do
    rules.checkDecision inRegion .branching cond
    rules.checkExpr inRegion cond
    thenArm.checkContext rules inRegion
    elseArm.checkContext rules inRegion
  | .switch _ scrutinee arms => do
    rules.checkDecision inRegion .switching scrutinee
    rules.checkExpr inRegion scrutinee
    arms.checkContext rules inRegion
  | .typeSwitch _ _ scrutinee arms => do
    rules.checkExpr inRegion scrutinee
    arms.checkContext rules inRegion
  | .forIn _ _ iterable body => do
    rules.checkExpr inRegion iterable
    body.checkContext rules inRegion
  | .whileLoop _ cond body => do
    rules.checkDecision inRegion .looping cond
    rules.checkExpr inRegion cond
    body.checkContext rules inRegion
  | .goFor span _ range _ body => do
    rules.checkGoFor inRegion span
    rules.checkExpr inRegion range
    body.checkContext rules true
  | .ret _ none => .ok ()
  | .ret _ (some value) => rules.checkExpr inRegion value
  | .brk _ => .ok ()
  | .cont _ => .ok ()
  | .panic _ value => do
    rules.checkPanic inRegion value
    rules.checkExpr inRegion value
  | .defer _ call => rules.checkExpr inRegion call
  | .spawn _ call => rules.checkExpr inRegion call
  | .send _ chan value => do
    rules.checkExpr inRegion chan
    rules.checkExpr inRegion value
  | .eval _ value => rules.checkExpr inRegion value

/-- Checks the context rules for the statements of a block. -/
def Block.checkContext (rules : ContextRules) (inRegion : Bool) : Block → Except Issue Unit
  | .nil _ => .ok ()
  | .cons first rest => do
    first.checkContext rules inRegion
    rest.checkContext rules inRegion

/-- Checks the context rules for the arms of a switch. -/
def Arms.checkContext (rules : ContextRules) (inRegion : Bool) : Arms → Except Issue Unit
  | .nil => .ok ()
  | .default body => body.checkContext rules inRegion
  | .case values body rest => do
    rules.checkExprs inRegion values
    body.checkContext rules inRegion
    rest.checkContext rules inRegion

/-- Checks the context rules for the arms of a type switch. -/
def LaneArms.checkContext (rules : ContextRules) (inRegion : Bool) : LaneArms → Except Issue Unit
  | .nil => .ok ()
  | .default body => body.checkContext rules inRegion
  | .case _ body rest => do
    body.checkContext rules inRegion
    rest.checkContext rules inRegion

end

/-- Checks the context rules for the body of a function. -/
def Function.checkContext (rules : ContextRules) (f : Function) : Except Issue Unit :=
  f.body.checkContext rules rules.wholeBody

end Lanewise
