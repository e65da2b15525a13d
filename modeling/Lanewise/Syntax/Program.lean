import Lanewise.Syntax.Operator
import Lanewise.Syntax.TypeExpr

/-!
# Programs

The abstract syntax of lane programs: expressions, statements, functions and constants. Every node
carries the span of the text that it stands for.

A block is its statements in order and, at its end, the span of the whole block. The arms of a switch
are its cases in order and, at the end, a default arm if there is one. So statements, blocks and arms
are one family of types without any other container between them, and a pass over programs is one
function for each of them.
-/

set_option autoImplicit false

namespace Lanewise

/-- An expression. -/
inductive Expr where
  | int (span : Span) (value : Int64)
  | float (span : Span) (value : Float)
  | bool (span : Span) (value : Bool)
  | ident (span : Span) (name : String)
  | unary (span : Span) (op : UnaryOp) (operand : Expr)
  | binary (span : Span) (op : BinaryOp) (left right : Expr)
  | cast (span : Span) (operand : Expr) (target : TypeExpr)
  | call (span : Span) (callee : Name) (args : List Expr)
  | range (span : Span) (first last : Expr)
  | recv (span : Span) (chan : Expr)

namespace Expr

/-- The place where an expression is written. -/
def span : Expr → Span
  | int span _ => span
  | float span _ => span
  | bool span _ => span
  | ident span _ => span
  | unary span _ _ => span
  | binary span _ _ _ => span
  | cast span _ _ => span
  | call span _ _ => span
  | range span _ _ => span
  | recv span _ => span

/-- The same expression, said to be written somewhere else. -/
def withSpan (span : Span) : Expr → Expr
  | int _ v => int span v
  | float _ v => float span v
  | bool _ v => bool span v
  | ident _ x => ident span x
  | unary _ op e => unary span op e
  | binary _ op l r => binary span op l r
  | cast _ e t => cast span e t
  | call _ f args => call span f args
  | range _ a b => range span a b
  | recv _ c => recv span c

/-- The name of the function that an expression calls, if it is a call. -/
def callee? : Expr → Option String
  | call _ callee _ => some callee.text
  | _ => none

/-- Whether the expression is an integer literal, with any number of minus signs before it. Such an
operand takes on the numeric type that its context asks for. -/
def isIntLiteral : Expr → Bool
  | int .. => true
  | unary _ .neg operand => operand.isIntLiteral
  | _ => false

end Expr

mutual

/-- A statement. -/
inductive Stmt where
  /-- Declares a variable, with a type if one is written. -/
  | declare (span : Span) (name : Name) (type : Option TypeExpr) (value : Expr)
  /-- Assigns to a variable. -/
  | assign (span : Span) (target : Name) (value : Expr)
  /-- Runs a block under a condition. -/
  | ifThen (span : Span) (cond : Expr) (thenArm : Block)
  /-- Runs one of two blocks. -/
  | ifElse (span : Span) (cond : Expr) (thenArm elseArm : Block)
  /-- Runs the first arm one of whose values equals the scrutinee. -/
  | switch (span : Span) (scrutinee : Expr) (arms : Arms)
  /-- Binds a value of unknown lane count to a name of known lane count, arm by arm. -/
  | typeSwitch (span : Span) (binding : Name) (scrutinee : Expr) (arms : LaneArms)
  /-- Runs a block for each element of a sequence or each native group. -/
  | forIn (span : Span) (var : Name) (iterable : Expr) (body : Block)
  /-- Runs a block as long as a condition holds. -/
  | whileLoop (span : Span) (cond : Expr) (body : Block)
  /-- Opens a region: runs a block with the elements of a range spread over the lanes. -/
  | goFor (span : Span) (var : Name) (range : Expr) (lanes : Option Constraint) (body : Block)
  /-- Leaves the function. -/
  | ret (span : Span) (value : Option Expr)
  /-- Leaves the innermost loop. -/
  | brk (span : Span)
  /-- Goes on with the next round of the innermost loop. -/
  | cont (span : Span)
  /-- Stops the program. -/
  | panic (span : Span) (value : Expr)
  /-- Registers a call to be run when the function is left. -/
  | defer (span : Span) (call : Expr)
  /-- Starts a call as a task of its own. -/
  | spawn (span : Span) (call : Expr)
  /-- Sends a value on a channel. -/
  | send (span : Span) (chan value : Expr)
  /-- Evaluates an expression for its effect. -/
  | eval (span : Span) (value : Expr)

/-- A sequence of statements, closed by the span of the whole block. -/
inductive Block where
  | nil (span : Span)
  | cons (first : Stmt) (rest : Block)

/-- The arms of a switch: cases in order, and at most one default arm, at the end. -/
inductive Arms where
  | nil
  | default (body : Block)
  | case (values : List Expr) (body : Block) (rest : Arms)

/-- The arms of a type switch: cases in order, and at most one default arm, at the end. -/
inductive LaneArms where
  | nil
  | default (body : Block)
  | case (lanes : Constraint) (body : Block) (rest : LaneArms)

end

namespace Stmt

/-- The place where a statement is written. -/
def span : Stmt → Span
  | declare span _ _ _ => span
  | assign span _ _ => span
  | ifThen span _ _ => span
  | ifElse span _ _ _ => span
  | switch span _ _ => span
  | typeSwitch span _ _ _ => span
  | forIn span _ _ _ => span
  | whileLoop span _ _ => span
  | goFor span _ _ _ _ => span
  | ret span _ => span
  | brk span => span
  | cont span => span
  | panic span _ => span
  | defer span _ => span
  | spawn span _ => span
  | send span _ _ => span
  | eval span _ => span

/-- The same statement, said to be written somewhere else. -/
def withSpan (span : Span) : Stmt → Stmt
  | declare _ x t v => declare span x t v
  | assign _ x v => assign span x v
  | ifThen _ c a => ifThen span c a
  | ifElse _ c a b => ifElse span c a b
  | switch _ e arms => switch span e arms
  | typeSwitch _ x e arms => typeSwitch span x e arms
  | forIn _ x e b => forIn span x e b
  | whileLoop _ c b => whileLoop span c b
  | goFor _ x e l b => goFor span x e l b
  | ret _ v => ret span v
  | brk _ => brk span
  | cont _ => cont span
  | panic _ v => panic span v
  | defer _ c => defer span c
  | spawn _ c => spawn span c
  | send _ c v => send span c v
  | eval _ v => eval span v

end Stmt

namespace Block

/-- The span of the whole block. -/
def span : Block → Span
  | nil span => span
  | cons _ rest => rest.span

/-- The statements of a block. -/
def toList : Block → List Stmt
  | nil _ => []
  | cons first rest => first :: rest.toList

/-- The block of the given statements. -/
def ofList (span : Span) : List Stmt → Block
  | [] => nil span
  | s :: rest => cons s (ofList span rest)

/-- The statements of a block that is made from a list are those of the list. -/
@[simp] theorem toList_ofList (span : Span) (stmts : List Stmt) :
    (ofList span stmts).toList = stmts := by
  induction stmts with
  | nil => rfl
  | cons s rest ih => simp [ofList, toList, ih]

/-- A block that is made from a list has the span that it is made with. -/
@[simp] theorem span_ofList (span : Span) (stmts : List Stmt) :
    (ofList span stmts).span = span := by
  induction stmts with
  | nil => rfl
  | cons s rest ih => simpa [ofList, Block.span] using ih

end Block

namespace Arms

/-- The values of all cases, in order. -/
def values : Arms → List Expr
  | nil => []
  | default _ => []
  | case vs _ rest => vs ++ rest.values

end Arms

/-- A parameter of a function. -/
structure Param where
  name : Name
  type : TypeExpr

/-- A function declaration. -/
structure Function where
  span : Span
  name : Name
  params : List Param
  result : Option TypeExpr
  body : Block
  isPublic : Bool

/-- The declaration of a compile-time constant. -/
structure Constant where
  span : Span
  name : Name
  value : Expr

/-- A program: its constants and its functions, each in the order of declaration. -/
structure Program where
  constants : List Constant
  functions : List Function

end Lanewise
