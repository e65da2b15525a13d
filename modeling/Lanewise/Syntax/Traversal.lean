import Lanewise.Syntax.Program

/-!
# Traversal

The nodes of a program in the order in which they are met: a node before what lies inside it, and what
lies inside it from left to right. A traversal may be told to stay out of some nodes; they are listed,
but nothing inside them is.
-/

set_option autoImplicit false

namespace Lanewise

/-- A syntax node that a traversal meets. -/
inductive Node where
  | function (f : Function)
  | block (b : Block)
  | stmt (s : Stmt)
  | expr (e : Expr)
  | type (t : TypeExpr)

namespace Node

/-- The place where a node is written. -/
def span : Node → Span
  | function f => f.span
  | block b => b.span
  | stmt s => s.span
  | expr e => e.span
  | type t => t.span

/-- The name of the function that a node calls, if it is a call. -/
def callee? : Node → Option String
  | expr e => e.callee?
  | _ => none

/-- Whether the node is a statement that opens a region. -/
def isGoFor : Node → Bool
  | stmt (.goFor ..) => true
  | _ => false

/-- A node followed by what lies inside it, unless the traversal stays out of it. -/
def enter (into : Node → Bool) (node : Node) (inside : List Node) : List Node :=
  node :: if into node then inside else []

end Node

/-- The nodes of a type. -/
def TypeExpr.nodes (into : Node → Bool) : TypeExpr → List Node
  | t@(.named ..) => Node.enter into (.type t) []
  | t@(.varying _ elem _) => Node.enter into (.type t) (elem.nodes into)
  | t@(.chan _ elem) => Node.enter into (.type t) (elem.nodes into)

/-- The nodes of a type, if there is one. -/
def TypeExpr.nodesOf (into : Node → Bool) : Option TypeExpr → List Node
  | none => []
  | some t => t.nodes into

mutual

/-- The nodes of an expression. -/
def Expr.nodes (into : Node → Bool) : Expr → List Node
  | e@(.int ..) => Node.enter into (.expr e) []
  | e@(.float ..) => Node.enter into (.expr e) []
  | e@(.bool ..) => Node.enter into (.expr e) []
  | e@(.ident ..) => Node.enter into (.expr e) []
  | e@(.unary _ _ operand) => Node.enter into (.expr e) (operand.nodes into)
  | e@(.binary _ _ left right) =>
    Node.enter into (.expr e) (left.nodes into ++ right.nodes into)
  | e@(.cast _ operand target) =>
    Node.enter into (.expr e) (operand.nodes into ++ target.nodes into)
  | e@(.call _ _ args) => Node.enter into (.expr e) (Expr.nodesOf into args)
  | e@(.range _ first last) =>
    Node.enter into (.expr e) (first.nodes into ++ last.nodes into)
  | e@(.recv _ chan) => Node.enter into (.expr e) (chan.nodes into)

/-- The nodes of several expressions. -/
def Expr.nodesOf (into : Node → Bool) : List Expr → List Node
  | [] => []
  | e :: rest => e.nodes into ++ Expr.nodesOf into rest

end

mutual

/-- The nodes of a statement. -/
def Stmt.nodes (into : Node → Bool) : Stmt → List Node
  | s@(.declare _ _ type value) =>
    Node.enter into (.stmt s) (TypeExpr.nodesOf into type ++ value.nodes into)
  | s@(.assign _ _ value) => Node.enter into (.stmt s) (value.nodes into)
  | s@(.ifThen _ cond thenArm) =>
    Node.enter into (.stmt s)
      (cond.nodes into ++ Node.enter into (.block thenArm) (thenArm.inside into))
  | s@(.ifElse _ cond thenArm elseArm) =>
    Node.enter into (.stmt s)
      (cond.nodes into ++ Node.enter into (.block thenArm) (thenArm.inside into) ++
        Node.enter into (.block elseArm) (elseArm.inside into))
  | s@(.switch _ scrutinee arms) =>
    Node.enter into (.stmt s) (scrutinee.nodes into ++ arms.nodes into)
  | s@(.typeSwitch _ _ scrutinee arms) =>
    Node.enter into (.stmt s) (scrutinee.nodes into ++ arms.nodes into)
  | s@(.forIn _ _ iterable body) =>
    Node.enter into (.stmt s)
      (iterable.nodes into ++ Node.enter into (.block body) (body.inside into))
  | s@(.whileLoop _ cond body) =>
    Node.enter into (.stmt s)
      (cond.nodes into ++ Node.enter into (.block body) (body.inside into))
  | s@(.goFor _ _ range _ body) =>
    Node.enter into (.stmt s)
      (range.nodes into ++ Node.enter into (.block body) (body.inside into))
  | s@(.ret _ none) => Node.enter into (.stmt s) []
  | s@(.ret _ (some value)) => Node.enter into (.stmt s) (value.nodes into)
  | s@(.brk _) => Node.enter into (.stmt s) []
  | s@(.cont _) => Node.enter into (.stmt s) []
  | s@(.panic _ value) => Node.enter into (.stmt s) (value.nodes into)
  | s@(.defer _ call) => Node.enter into (.stmt s) (call.nodes into)
  | s@(.spawn _ call) => Node.enter into (.stmt s) (call.nodes into)
  | s@(.send _ chan value) => Node.enter into (.stmt s) (chan.nodes into ++ value.nodes into)
  | s@(.eval _ value) => Node.enter into (.stmt s) (value.nodes into)

/-- The nodes inside a block. -/
def Block.inside (into : Node → Bool) : Block → List Node
  | .nil _ => []
  | .cons first rest => first.nodes into ++ rest.inside into

/-- The nodes of the arms of a switch. -/
def Arms.nodes (into : Node → Bool) : Arms → List Node
  | .nil => []
  | .default body => Node.enter into (.block body) (body.inside into)
  | .case values body rest =>
    Expr.nodesOf into values ++ Node.enter into (.block body) (body.inside into) ++
      rest.nodes into

/-- The nodes of the arms of a type switch. -/
def LaneArms.nodes (into : Node → Bool) : LaneArms → List Node
  | .nil => []
  | .default body => Node.enter into (.block body) (body.inside into)
  | .case _ body rest =>
    Node.enter into (.block body) (body.inside into) ++ rest.nodes into

end

/-- The nodes of a block, itself included. -/
def Block.nodes (into : Node → Bool) (b : Block) : List Node :=
  Node.enter into (.block b) (b.inside into)

/-- The nodes of a function: its types, in the order in which they are written, and its body. -/
def Function.nodes (into : Node → Bool) (f : Function) : List Node :=
  Node.enter into (.function f)
    (f.params.flatMap (fun p => p.type.nodes into) ++ TypeExpr.nodesOf into f.result ++
      f.body.nodes into)

/-- The nodes of a program: the values of its constants, then its functions. -/
def Program.nodes (into : Node → Bool) (p : Program) : List Node :=
  p.constants.flatMap (fun c => c.value.nodes into) ++ p.functions.flatMap (Function.nodes into)

end Lanewise
