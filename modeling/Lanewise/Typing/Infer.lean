import Lanewise.Typing.Cast
import Lanewise.Typing.Constant
import Lanewise.Typing.Resolve

/-!
# Types of expressions

The type of an expression in an environment. An operation on uniform values is uniform; any varying
operand makes the result varying; two operands of fixed lane counts have to agree on the count. Values
of unknown lane count are not operated on at all.

Each form of expression has its own rule, which is given the types of the parts; `Expr.infer` applies
the rules from the leaves up. Library operations and declared functions are given every argument
together with the outcome of typing it, because one operation does not look at the type of its second
argument but at its compile-time value.
-/

set_option autoImplicit false

namespace Lanewise

/-- An argument of a call and the outcome of typing it. -/
structure Argument where
  expr : Expr
  type : Except Issue LaneType

/-! ### Identifiers, operators and ranges -/

/-- The type of an identifier: that of the variable in scope, or else of the constant of that name. -/
def identType (env : Env) (name : String) (span : Span) : Except Issue LaneType :=
  match env.lookup? name with
  | some binding => .ok binding.type
  | none =>
    if env.constants.contains name then .ok (.uniform .int64)
    else .error (.type (.undefinedVariable name) span)

/-- Demands that a type does not leave the lane count open. -/
def LaneType.expectConcrete (t : LaneType) (span : Span) : Except Issue Unit :=
  Issue.require (!t.isUniversal) .universalOperand span

/-- Whether a unary operator applies to an element type. -/
def UnaryOp.supports (op : UnaryOp) (s : Scalar) : Bool :=
  match op with
  | neg => s.isNumeric
  | not => s = .bool
  | bitNot => s.isInteger

/-- The type of a unary operation. -/
def unaryType (op : UnaryOp) (operand : Expr) (t : LaneType) (span : Span) :
    Except Issue LaneType := do
  t.expectConcrete operand.span
  Issue.require (t.scalar?.any op.supports) (.unaryOperand op t) span
  return t

/-- The common element type of two operands, where an integer literal adapts to the other operand. -/
def commonScalar? (left right : Expr) (l r : Scalar) : Option Scalar :=
  if l = r then some l
  else if left.isIntLiteral && r.isNumeric then some r
  else if right.isIntLiteral && l.isNumeric then some l
  else none

/-- Whether a binary operator applies to an element type. -/
def BinaryOp.supports (op : BinaryOp) (s : Scalar) : Bool :=
  if op.isLogical then s = .bool
  else if op.isBitwise then s.isInteger
  else if op.isEquality then true
  else s.isNumeric

/-- The element type of the result of a binary operator. -/
def BinaryOp.resultScalar (op : BinaryOp) (s : Scalar) : Scalar :=
  if op.isComparison then .bool else s

/-- A value of element type `s` whose lanes come from operands of the given widths. -/
def lanewise (s : Scalar) (l r : Option Width) (span : Span) : Except Issue LaneType :=
  match l, r with
  | none, none => .ok (.uniform s)
  | some w, none => .ok (.varying s w)
  | none, some w => .ok (.varying s w)
  | some a, some b => do
    let w ← a.join b span
    return .varying s w

/-- The type of a binary operation. -/
def binaryType (op : BinaryOp) (left right : Expr) (lt rt : LaneType) (span : Span) :
    Except Issue LaneType := do
  lt.expectConcrete left.span
  rt.expectConcrete right.span
  match lt.scalar?, rt.scalar? with
  | some l, some r =>
    match commonScalar? left right l r with
    | none => .error (.type (.operandMismatch lt rt) span)
    | some s =>
      Issue.require (op.supports s) (.binaryUnsupported op s) span
      lanewise (op.resultScalar s) lt.width? rt.width? span
  | _, _ => .error (.type (.binaryOperands op lt rt) span)

/-- The integer type of an operand that has to be a uniform integer. -/
def uniformInt (slot : IntSlot) (t : LaneType) (span : Span) : Except Issue Scalar :=
  match t with
  | .uniform s =>
    if s.isInteger then .ok s else .error (.type (.slotNotInteger slot t) span)
  | .varying .. => .error (.type (.slotVarying slot t) span)
  | _ => .error (.type (.slotNotInteger slot t) span)

/-- The type of a range between bounds of integer types `a` and `b`. -/
def rangeType (first last : Expr) (a b : Scalar) (span : Span) : Except Issue LaneType := do
  Issue.require (a = b || first.isIntLiteral || last.isIntLiteral) (.rangeBoundsDiffer a b) span
  return .seq (if first.isIntLiteral then b else a)

/-- The type of what is received from a channel of type `t`. -/
def receivedType (chan : Expr) (t : LaneType) : Except Issue LaneType :=
  match t with
  | .chan elem => .ok elem
  | _ => .error (.type (.receiveFrom t) chan.span)

/-! ### Calls -/

/-- Demands that arguments may flow into parameters, one by one. -/
def expectArguments : List Argument → List LaneType → Except Issue Unit
  | arg :: args, param :: params => do
    let t ← arg.type
    t.expect param arg.expr.isIntLiteral arg.expr.span
    expectArguments args params
  | _, _ => .ok ()

/-- The type of a call of a declared function. -/
def functionCallType (env : Env) (callee : Name) (args : List Argument) (span : Span) :
    Except Issue LaneType :=
  match env.functions.find? callee.text with
  | none => .error (.type (.unknownFunction callee.text) callee.span)
  | some s => do
    Issue.require (args.length = s.params.length)
      (.argumentCount callee.text s.params.length args.length) span
    expectArguments args s.params
    return s.result

/-- The element type and width of an operand that has to be varying with a known lane count. -/
def varyingOperand (op : LibraryOp) (arg : Argument) : Except Issue (Scalar × Width) := do
  match ← arg.type with
  | .varying _ .universal => .error (.type .universalOperand arg.expr.span)
  | .varying s w => .ok (s, w)
  | t => .error (.type (.libraryOperand op t) arg.expr.span)

/-- The number of lanes of a width on a target. -/
def Width.lanes (w : Width) (target : Target) (s : Scalar) : Nat :=
  match w with
  | .fixed n => n
  | _ => target.laneWidth s

/-- The type of a broadcast, whose lane index has to be known and in range. -/
def broadcastType (env : Env) (s : Scalar) (w : Width) (index : Argument) :
    Except Issue LaneType :=
  match index.expr.constantValue env.constants with
  | .error _ => .error (.type .laneIndexNotStatic index.expr.span)
  | .ok lane => do
    let count := w.lanes env.target s
    Issue.require (0 ≤ lane.toInt && lane.toInt < count)
      (.laneIndexOutOfRange lane.toInt count) index.expr.span
    return .varying s w

/-- The type of a rotation by a uniform offset. -/
def rotateType (s : Scalar) (w : Width) (offset : Argument) : Except Issue LaneType := do
  let t ← offset.type
  let _ ← uniformInt .rotateOffset t offset.expr.span
  return .varying s w

/-- The type of a swizzle by varying indices. -/
def swizzleType (s : Scalar) (w : Width) (indices : Argument) (span : Span) :
    Except Issue LaneType := do
  let (elem, iw) ← varyingOperand .swizzle indices
  Issue.require elem.isInteger (.swizzleIndices elem) indices.expr.span
  let joined ← w.join iw span
  return .varying s joined

/-- The type of a shift by a uniform or a varying amount. -/
def shiftType (s : Scalar) (w : Width) (amount : Argument) (span : Span) :
    Except Issue LaneType := do
  let t ← amount.type
  match t with
  | .uniform a =>
    Issue.require a.isInteger (.shiftAmount t) amount.expr.span
    return .varying s w
  | .varying a aw =>
    Issue.require a.isInteger (.shiftAmount t) amount.expr.span
    let joined ← w.join aw span
    return .varying s joined
  | _ => .error (.type (.shiftAmount t) amount.expr.span)

/-- The type of a reduction of lanes of element type `s`. -/
def reductionType (env : Env) (op : LibraryOp) (s : Scalar) (w : Width) (span : Span) :
    Except Issue LaneType :=
  let among (c : ElementClass) : Except Issue Unit :=
    Issue.require (c.admits s) (.libraryElement op c s) span
  match op with
  | .add | .mul | .max | .min => do
    among .numeric
    return .uniform s
  | .or | .and | .xor => do
    among .integerOrBool
    return .uniform s
  | .any | .all => do
    among .bool
    return .uniform .bool
  | .findFirstSet => do
    among .bool
    return .uniform .int64
  | .mask => do
    among .bool
    let lanes := w.lanes env.target s
    Issue.require (lanes ≤ 64) (.bitMaskTooWide lanes) span
    return .uniform .uint64
  | _ => .ok (.seq s)

/-- The type of the groups of a varying value of any lane count. -/
def groupsType (op : LibraryOp) (arg : Argument) : Except Issue LaneType := do
  match ← arg.type with
  | .varying s _ => .ok (.groups s)
  | t => .error (.type (.libraryOperand op t) arg.expr.span)

/-- The type of a library operation with two arguments. -/
def binaryLibraryType (env : Env) (op : LibraryOp) (value other : Argument) (span : Span) :
    Except Issue LaneType := do
  let (s, w) ← varyingOperand op value
  match op with
  | .broadcast => broadcastType env s w other
  | .rotate => rotateType s w other
  | .swizzle => swizzleType s w other span
  | _ => shiftType s w other span

/-- The type of a library operation with one argument. -/
def unaryLibraryType (env : Env) (op : LibraryOp) (value : Argument) : Except Issue LaneType :=
  if op = .fromConstrained then groupsType op value
  else do
    let (s, w) ← varyingOperand op value
    reductionType env op s w value.expr.span

/-- The type of a library call. -/
def libraryCallType (env : Env) (op : LibraryOp) (args : List Argument) (span : Span) :
    Except Issue LaneType :=
  match op.arity, args with
  | 2, [value, other] => binaryLibraryType env op value other span
  | 1, [value] => unaryLibraryType env op value
  | arity, _ => .error (.type (.libraryArgumentCount op arity args.length) span)

/-- The type of a call. The names of library operations are reserved. -/
def callType (env : Env) (callee : Name) (args : List Argument) (span : Span) :
    Except Issue LaneType :=
  match LibraryOp.ofName? callee.text with
  | some op => libraryCallType env op args span
  | none => functionCallType env callee args span

/-! ### Expressions -/

mutual

/-- The type of an expression. -/
def Expr.infer (env : Env) : Expr → Except Issue LaneType
  | .int .. => .ok (.uniform .int64)
  | .float .. => .ok (.uniform .float64)
  | .bool .. => .ok (.uniform .bool)
  | .ident span name => identType env name span
  | .unary span op operand => do
    let t ← operand.infer env
    unaryType op operand t span
  | .binary span op left right => do
    let l ← left.infer env
    let r ← right.infer env
    binaryType op left right l r span
  | .cast span operand target => do
    let source ← operand.infer env
    let dest ← target.resolve env
    source.expectCast dest span
    return dest
  | .call span callee args => callType env callee (Expr.inferEach env args) span
  | .range span first last => do
    let f ← first.infer env
    let a ← uniformInt .rangeBound f first.span
    let l ← last.infer env
    let b ← uniformInt .rangeBound l last.span
    rangeType first last a b span
  | .recv _ chan => do
    let t ← chan.infer env
    receivedType chan t

/-- The arguments of a call, each with the outcome of typing it. -/
def Expr.inferEach (env : Env) : List Expr → List Argument
  | [] => []
  | e :: rest => { expr := e, type := e.infer env } :: Expr.inferEach env rest

end

end Lanewise
