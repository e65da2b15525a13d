import Lanewise.Typing.Infer
import Lanewise.Typing.Record

/-!
# Checking function bodies

A body is checked statement by statement. The checker carries the environment and the record of types
along; both keep their last state when a check fails in the middle of a nested scope. A function check
closes the scopes that are still open in the end, so the environment that it hands back is the one that
it was given.

Conditions that differ from lane to lane deepen the place of the code that they guard. A uniform
variable may only be assigned at a place no deeper than its declaration.
-/

set_option autoImplicit false

namespace Lanewise

/-- What the checker carries along. -/
structure CheckState where
  env : Env
  types : TypeRecord

/-- A check: it changes the state, and may raise an issue. -/
abbrev Check := EStateM Issue CheckState

/-- Where in a function a statement stands. -/
structure Place where
  /-- The type of the function's result. -/
  result : LaneType
  /-- Whether a loop encloses the statement. -/
  inLoop : Bool
  /-- The number of varying conditions that enclose the statement. -/
  depth : Nat

namespace Place

/-- The place inside a loop. -/
def enterLoop (place : Place) : Place :=
  { place with inLoop := true }

/-- The place under a condition of the given type. -/
def guardedBy (place : Place) (t : LaneType) : Place :=
  { place with depth := if t.isVarying then place.depth + 1 else place.depth }

end Place

namespace Check

/-- A check that does not look at the state. -/
def ofExcept {α : Type} (outcome : Except Issue α) : Check α :=
  fun state =>
    match outcome with
    | .ok a => .ok a state
    | .error issue => .error issue state

/-- A check that asks the environment. -/
def ask {α : Type} (question : Env → Except Issue α) : Check α :=
  fun state => ofExcept (question state.env) state

/-- Records a type. -/
def record (span : Span) (t : LaneType) : Check Unit :=
  fun state => .ok () { state with types := state.types.insert span t }

/-- Declares a variable in the innermost scope. -/
def define (name : String) (t : LaneType) (depth : Nat) : Check Unit :=
  fun state => .ok () { state with env := state.env.define name { type := t, depth } }

/-- Opens a scope. -/
def openScope : Check Unit :=
  fun state => .ok () { state with env := state.env.push }

/-- Closes the innermost scope. -/
def closeScope : Check Unit :=
  fun state => .ok () { state with env := state.env.pop }

/-- Checks something in a scope of its own. -/
def inScope (body : Check Unit) : Check Unit := do
  openScope
  body
  closeScope

/-- Checks something in a scope of its own that starts with one variable. -/
def inScopeWith (name : String) (t : LaneType) (depth : Nat) (body : Check Unit) : Check Unit :=
  inScope do
    define name t depth
    body

/-- Types an expression and records its type. -/
def infer (e : Expr) : Check LaneType := do
  let t ← ask e.infer
  record e.span t
  return t

/-- Types an expression and demands that its value may flow into a slot. -/
def inferInto (e : Expr) (slot : LaneType) : Check Unit := do
  let t ← infer e
  ofExcept (t.expect slot e.isIntLiteral e.span)

end Check

/-! ### The rules of the statements -/

/-- Checks a condition: a boolean, uniform or varying, of known lane count. -/
def checkCondition (stmt : Guarded) (cond : Expr) : Check LaneType := do
  let t ← Check.infer cond
  Check.ofExcept (t.expectConcrete cond.span)
  Check.ofExcept (Issue.require t.isBool (.conditionNotBool stmt t) cond.span)
  return t

/-- Checks a declaration. A declared type wins over the type of the value. -/
def checkDeclare (name : Name) (type : Option TypeExpr) (value : Expr) (depth : Nat) :
    Check Unit := do
  let t ← Check.infer value
  Check.ofExcept (Issue.require (t ≠ .void) (.voidBinding name.text) value.span)
  let bound ←
    match type with
    | none => pure t
    | some declared => do
      let slot ← Check.ask declared.resolve
      Check.ofExcept (t.expect slot value.isIntLiteral value.span)
      pure slot
  Check.record name.span bound
  Check.define name.text bound depth

/-- The variable that an assignment writes. -/
def assignedBinding (target : Name) (env : Env) : Except Issue Binding :=
  match env.lookup? target.text with
  | some binding => .ok binding
  | none => .error (.type (.undefinedVariable target.text) target.span)

/-- Demands that a write does not reach a uniform variable that lanes outside the write share. -/
def expectSharedWrite (binding : Binding) (target : Name) (depth : Nat) (span : Span) :
    Except Issue Unit :=
  if !binding.type.isVarying && binding.depth < depth then
    .error (.flow (.uniformAssign target.text) span)
  else .ok ()

/-- Checks an assignment. -/
def checkAssign (target : Name) (value : Expr) (depth : Nat) (span : Span) : Check Unit := do
  let binding ← Check.ask (assignedBinding target)
  Check.inferInto value binding.type
  Check.ofExcept (expectSharedWrite binding target depth span)
  Check.record target.span binding.type

/-- Checks the scrutinee of a switch, and gives its type and its element type. -/
def checkScrutinee (scrutinee : Expr) : Check (LaneType × Scalar) := do
  let t ← Check.infer scrutinee
  Check.ofExcept (t.expectConcrete scrutinee.span)
  match t.scalar? with
  | some s => return (t, s)
  | none => Check.ofExcept (.error (.type (.switchOn t) scrutinee.span))

/-- Checks the values of a case. -/
def checkCaseValues (elem : Scalar) : List Expr → Check Unit
  | [] => pure ()
  | value :: rest => do
    Check.inferInto value (.uniform elem)
    checkCaseValues elem rest

/-- Checks the scrutinee of a type switch, and gives its element type. -/
def checkTypeScrutinee (scrutinee : Expr) : Check Scalar := do
  let t ← Check.infer scrutinee
  match t with
  | .varying s .universal => return s
  | _ => Check.ofExcept (.error (.type (.typeSwitchOn t) scrutinee.span))

/-- The width that a lane constraint gives where the lane count may not stay open. -/
def concreteWidth (lanes : Constraint) (elem : Scalar) (ifOpen : TypeFault) (env : Env) :
    Except Issue Width := do
  match ← lanes.width env elem with
  | .universal => .error (.type ifOpen lanes.span)
  | w => .ok w

/-- Checks what a loop runs over, and gives the type of its variable. -/
def checkIterable (iterable : Expr) : Check LaneType := do
  let t ← Check.infer iterable
  match t with
  | .seq s => return .uniform s
  | .groups s => return .varying s .native
  | _ => Check.ofExcept (.error (.type (.notIterable t) iterable.span))

/-- Checks the range of a region, and gives its element type. -/
def checkGoForRange (range : Expr) : Check Scalar := do
  let t ← Check.infer range
  match t with
  | .seq s =>
    if s.isInteger then return s
    else Check.ofExcept (.error (.type (.goForRange t) range.span))
  | _ => Check.ofExcept (.error (.type (.goForRange t) range.span))

/-- The width of the variable of a region. -/
def goForWidth (lanes : Option Constraint) (elem : Scalar) (env : Env) : Except Issue Width :=
  match lanes with
  | none => .ok .native
  | some c => concreteWidth c elem .openGoFor env

/-- Checks a return. -/
def checkReturn (value : Option Expr) (result : LaneType) (span : Span) : Check Unit :=
  match value with
  | some e => Check.inferInto e result
  | none => Check.ofExcept (Issue.require (result = .void) (.returnsNothing result) span)

/-- Checks a jump. -/
def checkJump (jump : Jump) (inLoop : Bool) (span : Span) : Check Unit :=
  Check.ofExcept (Issue.require inLoop (.outsideLoop jump) span)

/-- Checks a deferred or spawned call. -/
def checkTaken (stmt : CallTaker) (call : Expr) : Check Unit := do
  Check.ofExcept (Issue.require call.callee?.isSome (.callRequired stmt) call.span)
  let _ ← Check.infer call

/-- Checks a send. -/
def checkSend (chan value : Expr) : Check Unit := do
  let t ← Check.infer chan
  match t with
  | .chan elem => Check.inferInto value elem
  | _ => Check.ofExcept (.error (.type .sendOnNonChannel chan.span))

mutual

/-- Checks a statement. -/
def Stmt.check (s : Stmt) (place : Place) : Check Unit :=
  match s with
  | .declare _ name type value => checkDeclare name type value place.depth
  | .assign span target value => checkAssign target value place.depth span
  | .ifThen _ cond thenArm => do
    let t ← checkCondition .ifStmt cond
    Check.inScope (thenArm.check (place.guardedBy t))
  | .ifElse _ cond thenArm elseArm => do
    let t ← checkCondition .ifStmt cond
    Check.inScope (thenArm.check (place.guardedBy t))
    Check.inScope (elseArm.check (place.guardedBy t))
  | .switch _ scrutinee arms => do
    let (t, elem) ← checkScrutinee scrutinee
    arms.check elem (place.guardedBy t)
  | .typeSwitch _ binding scrutinee arms => do
    let elem ← checkTypeScrutinee scrutinee
    arms.check binding.text elem place
  | .forIn _ var iterable body => do
    let t ← checkIterable iterable
    Check.inScopeWith var.text t place.depth (body.check place.enterLoop)
  | .whileLoop _ cond body => do
    let t ← checkCondition .whileStmt cond
    Check.inScope (body.check (place.guardedBy t).enterLoop)
  | .goFor _ var range lanes body => do
    let elem ← checkGoForRange range
    let w ← Check.ask (goForWidth lanes elem)
    Check.inScopeWith var.text (.varying elem w) place.depth (body.check place.enterLoop)
  | .ret span value => checkReturn value place.result span
  | .brk span => checkJump .brk place.inLoop span
  | .cont span => checkJump .cont place.inLoop span
  | .panic _ value => do
    let _ ← Check.infer value
  | .defer _ call => checkTaken .defer call
  | .spawn _ call => checkTaken .spawn call
  | .send _ chan value => checkSend chan value
  | .eval _ value => do
    let _ ← Check.infer value

/-- Checks the statements of a block, in the scope that is open. -/
def Block.check (b : Block) (place : Place) : Check Unit :=
  match b with
  | .nil _ => pure ()
  | .cons first rest => do
    first.check place
    rest.check place

/-- Checks the arms of a switch on values of type `elem`. -/
def Arms.check (arms : Arms) (elem : Scalar) (place : Place) : Check Unit :=
  match arms with
  | .nil => pure ()
  | .default body => Check.inScope (body.check place)
  | .case values body rest => do
    checkCaseValues elem values
    Check.inScope (body.check place)
    rest.check elem place

/-- Checks the arms of a type switch that binds lanes of type `elem` to a name. -/
def LaneArms.check (arms : LaneArms) (name : String) (elem : Scalar) (place : Place) :
    Check Unit :=
  match arms with
  | .nil => pure ()
  | .default body =>
    Check.inScopeWith name (.varying elem .universal) place.depth (body.check place)
  | .case lanes body rest => do
    let w ← Check.ask (concreteWidth lanes elem .openTypeCase)
    Check.inScopeWith name (.varying elem w) place.depth (body.check place)
    rest.check name elem place

end

/-- Declares the parameters of a function in the innermost scope. -/
def declareParams : List Param → Check Unit
  | [] => pure ()
  | p :: rest => do
    let t ← Check.ask p.type.resolve
    Check.define p.name.text t 0
    declareParams rest

/-- Checks the parameters and the body of a function with the given result. -/
def Function.checkBody (f : Function) (result : LaneType) : Check Unit := do
  declareParams f.params
  f.body.check { result, inLoop := false, depth := 0 }

/-- Checks a function in an environment that knows its signature. Gives the types of its body or an
issue, and the environment afterwards. -/
def Function.check (env : Env) (f : Function) : Except Issue TypeRecord × Env :=
  match env.functions.find? f.name.text with
  | none => (.error (.type (.unknownFunction f.name.text) f.name.span), env)
  | some s =>
    match f.checkBody s.result { env := env.push, types := .empty } with
    | .ok _ final => (.ok final.types, final.env.truncate env.depth)
    | .error issue final => (.error issue, final.env.truncate env.depth)

end Lanewise
