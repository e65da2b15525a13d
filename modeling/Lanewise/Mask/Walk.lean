import Lanewise.Mask.Trace
import Lanewise.Syntax.Program
import Lanewise.Typing.Env
import Lanewise.Typing.Record

/-!
# The walk over a region

The walk decides, statement by statement, whether lanes that went different ways can still share one
stream of instructions. Two facts go along with it.

* The *flow* is the mask in force together with the number of varying conditions around the statement.
  Each arm of a varying branch gets a narrowed copy.
* The *alteration* is clean until some lanes continue with the next round of a loop while others do
  not; from then on the region is tainted.

All lanes of a region have to return, send and receive together, and all lanes of a loop have to break
together: under no varying condition and in a clean state. The body of a loop runs again after it has
tainted itself, so such a body is walked a second time, tainted from its start; the second walk checks
and writes nothing down.
-/

set_option autoImplicit false

namespace Lanewise

/-- Whether some lanes may have moved on to another round of a loop. -/
inductive Alteration where
  | clean
  | tainted
  deriving DecidableEq

/-- The state after two paths meet. -/
def Alteration.join : Alteration → Alteration → Alteration
  | clean, clean => clean
  | _, _ => tainted

/-- Where the walk is, as far as lanes are concerned. -/
structure Flow where
  /-- The mask in force. -/
  mask : Nat
  /-- The number of varying conditions of the region around the statement. -/
  depth : Nat
  /-- The number of those around the innermost loop. Only varying conditions inside the loop keep lanes
  from leaving it together. -/
  loopBase : Nat

namespace Flow

/-- The flow under one more varying condition. -/
def narrow (flow : Flow) (mask : Nat) : Flow :=
  { flow with mask, depth := flow.depth + 1 }

/-- The flow inside a loop. -/
def enterLoop (flow : Flow) : Flow :=
  { flow with loopBase := flow.depth }

/-- Whether a varying condition of the region is around the statement. -/
def isVarying (flow : Flow) : Bool :=
  0 < flow.depth

/-- Whether a varying condition is around the statement, inside the innermost loop. -/
def isVaryingInLoop (flow : Flow) : Bool :=
  flow.loopBase < flow.depth

end Flow

/-- What the walk depends on. -/
structure WalkContext where
  /-- The function that the region belongs to. -/
  function : String
  /-- The environment, which knows the functions whose bodies are regions. -/
  env : Env
  /-- The types of the body, as they were recorded. -/
  types : TypeRecord

/-- Whether an expression was recorded as varying. -/
def WalkContext.isVarying (cx : WalkContext) (e : Expr) : Bool :=
  cx.types.isVaryingAt e.span

/-- Demands that all lanes concerned take part in an action. -/
def expectJoint (action : Joint) (isVarying : Bool) (state : Alteration) (span : Span) :
    Except Issue Unit :=
  if isVarying then .error (.flow (.underVarying action) span)
  else if state = .tainted then .error (.flow (.afterVaryingContinue action) span)
  else .ok ()

/-! ### Expressions -/

mutual

/-- Writes down the region calls of an expression, and checks its receives. -/
def Expr.scan (cx : WalkContext) (flow : Flow) (state : Alteration) : Expr → Walk Unit
  | .int .. => pure ()
  | .float .. => pure ()
  | .bool .. => pure ()
  | .ident .. => pure ()
  | .unary _ _ operand => operand.scan cx flow state
  | .binary _ _ left right => do
    left.scan cx flow state
    right.scan cx flow state
  | .cast _ operand _ => operand.scan cx flow state
  | .call span callee args => do
    Expr.scanEach cx flow state args
    if cx.env.isRegionFunction callee.text then
      Walk.call
        { caller := cx.function, callee := callee.text, span, mask := .caller flow.mask }
  | .range _ first last => do
    first.scan cx flow state
    last.scan cx flow state
  | .recv span chan => do
    chan.scan cx flow state
    Walk.ofExcept (expectJoint .receive flow.isVarying state span)

/-- Scans several expressions. -/
def Expr.scanEach (cx : WalkContext) (flow : Flow) (state : Alteration) : List Expr → Walk Unit
  | [] => pure ()
  | e :: rest => do
    e.scan cx flow state
    Expr.scanEach cx flow state rest

end

/-- Scans the arguments of a call that runs later. The call itself is not scanned: its function runs
under the captured mask. -/
def Expr.scanArgs (cx : WalkContext) (flow : Flow) (state : Alteration) : Expr → Walk Unit
  | .call _ _ args => Expr.scanEach cx flow state args
  | _ => pure ()

/-! ### Statements -/

/-- The flows of the two arms of a conditional. -/
def splitFlow (cx : WalkContext) (flow : Flow) (cond : Expr) : Walk (Flow × Flow) :=
  if cx.isVarying cond then do
    let holds ← Walk.mask (.and flow.mask cond.span)
    let fails ← Walk.mask (.andNot flow.mask cond.span)
    return (flow.narrow holds, flow.narrow fails)
  else return (flow, flow)

/-- The flow of the body of a loop under a condition. -/
def whileFlow (cx : WalkContext) (flow : Flow) (cond : Expr) : Walk Flow :=
  if cx.isVarying cond then do
    let holds ← Walk.mask (.and flow.mask cond.span)
    return flow.enterLoop.narrow holds
  else return flow.enterLoop

/-- The flow of an arm of a switch, whose mask is defined if the scrutinee is varying. -/
def armFlow (isVarying : Bool) (flow : Flow) (d : MaskDef) : Walk Flow :=
  if isVarying then do
    let m ← Walk.mask d
    return flow.narrow m
  else return flow

/-- Walks the body of a loop, and once more, tainted from its start, if the body taints itself. -/
def walkLoop (body : Alteration → Walk Alteration) (state : Alteration) : Walk Alteration := do
  let out ← body state
  if out = .tainted ∧ state = .clean then
    let _ ← Walk.unrecorded (body .tainted)
  return out

mutual

/-- Walks over a statement. -/
def Stmt.walk (cx : WalkContext) (s : Stmt) (flow : Flow) (state : Alteration) :
    Walk Alteration := do
  Walk.point s.span flow.mask
  match s with
  | .declare _ _ _ value => do
    value.scan cx flow state
    return state
  | .assign _ _ value => do
    value.scan cx flow state
    return state
  | .ifThen _ cond thenArm => do
    cond.scan cx flow state
    let (thenFlow, _) ← splitFlow cx flow cond
    let out ← thenArm.walk cx thenFlow state
    return out.join state
  | .ifElse _ cond thenArm elseArm => do
    cond.scan cx flow state
    let (thenFlow, elseFlow) ← splitFlow cx flow cond
    let afterThen ← thenArm.walk cx thenFlow state
    let afterElse ← elseArm.walk cx elseFlow state
    return afterThen.join afterElse
  | .switch _ scrutinee arms => do
    scrutinee.scan cx flow state
    Expr.scanEach cx flow state arms.values
    arms.walk cx scrutinee.span (cx.isVarying scrutinee) 0 flow state
  | .typeSwitch _ _ scrutinee arms => do
    scrutinee.scan cx flow state
    arms.walk cx flow state
  | .forIn _ _ iterable body => do
    iterable.scan cx flow state
    walkLoop (fun state => body.walk cx flow.enterLoop state) state
  | .whileLoop _ cond body => do
    cond.scan cx flow state
    let bodyFlow ← whileFlow cx flow cond
    walkLoop (fun state => body.walk cx bodyFlow state) state
  | .goFor _ _ range _ body => do
    range.scan cx flow state
    walkLoop (fun state => body.walk cx flow.enterLoop state) state
  | .ret span none => do
    Walk.ofExcept (expectJoint .ret flow.isVarying state span)
    return state
  | .ret span (some value) => do
    value.scan cx flow state
    Walk.ofExcept (expectJoint .ret flow.isVarying state span)
    return state
  | .brk span => do
    Walk.ofExcept (expectJoint .brk flow.isVaryingInLoop state span)
    return state
  | .cont _ => return if flow.isVaryingInLoop then .tainted else state
  | .panic _ value => do
    value.scan cx flow state
    return state
  | .defer span call => do
    call.scanArgs cx flow state
    Walk.defer (call.callee?.getD "") span flow.mask
    return state
  | .spawn span call => do
    call.scanArgs cx flow state
    Walk.spawn (call.callee?.getD "") span flow.mask
    return state
  | .send span chan value => do
    chan.scan cx flow state
    value.scan cx flow state
    Walk.ofExcept (expectJoint .send flow.isVarying state span)
    return state
  | .eval _ value => do
    value.scan cx flow state
    return state

/-- Walks over the statements of a block. -/
def Block.walk (cx : WalkContext) (b : Block) (flow : Flow) (state : Alteration) :
    Walk Alteration :=
  match b with
  | .nil _ => return state
  | .cons first rest => do
    let after ← first.walk cx flow state
    rest.walk cx flow after

/-- Walks over the arms of a switch, the first of which is case number `index`. -/
def Arms.walk (cx : WalkContext) (arms : Arms) (scrutinee : Span) (isVarying : Bool) (index : Nat)
    (flow : Flow) (state : Alteration) : Walk Alteration :=
  match arms with
  | .nil => return state
  | .default body => do
    let arm ← armFlow isVarying flow (.default flow.mask scrutinee index)
    let out ← body.walk cx arm state
    return out.join state
  | .case _ body rest => do
    let arm ← armFlow isVarying flow (.case flow.mask scrutinee index)
    let out ← body.walk cx arm state
    let others ← rest.walk cx scrutinee isVarying (index + 1) flow state
    return out.join others

/-- Walks over the arms of a type switch. All lanes have the same lane count, so no arm is narrower than
the others. -/
def LaneArms.walk (cx : WalkContext) (arms : LaneArms) (flow : Flow) (state : Alteration) :
    Walk Alteration :=
  match arms with
  | .nil => return state
  | .default body => do
    let out ← body.walk cx flow state
    return out.join state
  | .case _ body rest => do
    let out ← body.walk cx flow state
    let others ← rest.walk cx flow state
    return out.join others

end

end Lanewise
