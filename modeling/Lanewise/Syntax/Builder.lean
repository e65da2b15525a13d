import Lanewise.Syntax.Program

/-!
# Building programs without source text

A builder makes syntax nodes and gives each a span of its own. Spans come from a cursor: each takes
one position and leaves one free after it, so that no two spans touch. A node takes its own span last,
after those of the names and blocks that are made together with it.
-/

set_option autoImplicit false

namespace Lanewise

/-- A computation that takes spans from a cursor. -/
abbrev Builder := StateM Nat

namespace Builder

/-- The next span. -/
def fresh : Builder Span :=
  fun cursor => (Span.between cursor (cursor + 1), cursor + 2)

/-- A name at the next span. -/
def name (text : String) : Builder Name := do
  let span ← fresh
  return { text, span }

/-- A lane constraint at the next span. -/
def constraint (form : Constraint.Form) : Builder Constraint := do
  let span ← fresh
  return { form, span }

/-! ### Types -/

/-- A type given by its name. -/
def named (text : String) : Builder TypeExpr := do
  return .named (← fresh) text

/-- A varying type over a named element. -/
def varying (elem : String) : Builder TypeExpr := do
  let elem ← named elem
  return .varying (← fresh) elem none

/-- A varying type over a named element, with a lane constraint. -/
def varyingWith (elem : String) (lanes : Constraint.Form) : Builder TypeExpr := do
  let elem ← named elem
  let lanes ← constraint lanes
  return .varying (← fresh) elem (some lanes)

/-- A channel type. -/
def chan (elem : TypeExpr) : Builder TypeExpr := do
  return .chan (← fresh) elem

/-! ### Expressions -/

/-- An integer literal. -/
def int (value : Int64) : Builder Expr := do
  return .int (← fresh) value

/-- A floating-point literal. -/
def float (value : Float) : Builder Expr := do
  return .float (← fresh) value

/-- A boolean literal. -/
def bool (value : Bool) : Builder Expr := do
  return .bool (← fresh) value

/-- A variable or constant. -/
def ident (text : String) : Builder Expr := do
  return .ident (← fresh) text

/-- A unary operation. -/
def unary (op : UnaryOp) (operand : Expr) : Builder Expr := do
  return .unary (← fresh) op operand

/-- A binary operation. -/
def binary (op : BinaryOp) (left right : Expr) : Builder Expr := do
  return .binary (← fresh) op left right

/-- A conversion to another type. -/
def cast (operand : Expr) (target : TypeExpr) : Builder Expr := do
  return .cast (← fresh) operand target

/-- A call. -/
def call (callee : String) (args : List Expr) : Builder Expr := do
  let callee ← name callee
  return .call (← fresh) callee args

/-- A range. -/
def range (first last : Expr) : Builder Expr := do
  return .range (← fresh) first last

/-- A receive from a channel. -/
def recv (chan : Expr) : Builder Expr := do
  return .recv (← fresh) chan

/-! ### Statements -/

/-- A block of statements. -/
def block (stmts : List Stmt) : Builder Block := do
  return .ofList (← fresh) stmts

/-- The declaration of a variable. -/
def declare (text : String) (type : Option TypeExpr) (value : Expr) : Builder Stmt := do
  let target ← name text
  return .declare (← fresh) target type value

/-- An assignment. -/
def assign (text : String) (value : Expr) : Builder Stmt := do
  let target ← name text
  return .assign (← fresh) target value

/-- A conditional with one arm. -/
def ifThen (cond : Expr) (thenArm : List Stmt) : Builder Stmt := do
  let thenArm ← block thenArm
  return .ifThen (← fresh) cond thenArm

/-- A conditional with two arms. -/
def ifElse (cond : Expr) (thenArm elseArm : List Stmt) : Builder Stmt := do
  let thenArm ← block thenArm
  let elseArm ← block elseArm
  return .ifElse (← fresh) cond thenArm elseArm

/-- The arms of a switch. -/
def arms : List (List Expr × List Stmt) → Option (List Stmt) → Builder Arms
  | [], none => return .nil
  | [], some body => return .default (← block body)
  | (values, body) :: rest, default => do
    let body ← block body
    return .case values body (← arms rest default)

/-- A switch. -/
def switch (scrutinee : Expr) (cases : List (List Expr × List Stmt))
    (default : Option (List Stmt)) : Builder Stmt := do
  let arms ← arms cases default
  return .switch (← fresh) scrutinee arms

/-- The arms of a type switch. -/
def laneArms : List (Constraint.Form × List Stmt) → Option (List Stmt) → Builder LaneArms
  | [], none => return .nil
  | [], some body => return .default (← block body)
  | (lanes, body) :: rest, default => do
    let lanes ← constraint lanes
    let body ← block body
    return .case lanes body (← laneArms rest default)

/-- A type switch. -/
def typeSwitch (binding : String) (scrutinee : Expr) (cases : List (Constraint.Form × List Stmt))
    (default : Option (List Stmt)) : Builder Stmt := do
  let binding ← name binding
  let arms ← laneArms cases default
  return .typeSwitch (← fresh) binding scrutinee arms

/-- A loop over a sequence. -/
def forIn (var : String) (iterable : Expr) (body : List Stmt) : Builder Stmt := do
  let var ← name var
  let body ← block body
  return .forIn (← fresh) var iterable body

/-- A loop under a condition. -/
def whileLoop (cond : Expr) (body : List Stmt) : Builder Stmt := do
  let body ← block body
  return .whileLoop (← fresh) cond body

/-- A region over a range, at the native lane count. -/
def goFor (var : String) (range : Expr) (body : List Stmt) : Builder Stmt := do
  let var ← name var
  let body ← block body
  return .goFor (← fresh) var range none body

/-- A region over a range, with a lane constraint. -/
def goForWith (var : String) (range : Expr) (lanes : Constraint.Form) (body : List Stmt) :
    Builder Stmt := do
  let var ← name var
  let lanes ← constraint lanes
  let body ← block body
  return .goFor (← fresh) var range (some lanes) body

/-- A return. -/
def ret (value : Option Expr) : Builder Stmt := do
  return .ret (← fresh) value

/-- A break. -/
def brk : Builder Stmt := do
  return .brk (← fresh)

/-- A continue. -/
def cont : Builder Stmt := do
  return .cont (← fresh)

/-- A stop of the program. -/
def panic (value : Expr) : Builder Stmt := do
  return .panic (← fresh) value

/-- A deferred call. -/
def defer (call : Expr) : Builder Stmt := do
  return .defer (← fresh) call

/-- A spawned call. -/
def spawn (call : Expr) : Builder Stmt := do
  return .spawn (← fresh) call

/-- A send on a channel. -/
def send (chan value : Expr) : Builder Stmt := do
  return .send (← fresh) chan value

/-- An expression evaluated for its effect. -/
def eval (value : Expr) : Builder Stmt := do
  return .eval (← fresh) value

/-! ### Declarations -/

/-- A parameter. -/
def param (text : String) (type : TypeExpr) : Builder Param := do
  let name ← name text
  return { name, type }

/-- A function. -/
def function (text : String) (params : List Param) (result : Option TypeExpr)
    (body : List Stmt) (isPublic : Bool) : Builder Function := do
  let name ← name text
  let body ← block body
  let span ← fresh
  return { span, name, params, result, body, isPublic }

/-- A constant. -/
def constant (text : String) (value : Expr) : Builder Constant := do
  let name ← name text
  let span ← fresh
  return { span, name, value }

end Builder

end Lanewise
