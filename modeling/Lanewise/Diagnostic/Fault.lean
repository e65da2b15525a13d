import Lanewise.Diagnostic.Kind
import Lanewise.LaneType
import Lanewise.Library
import Lanewise.Syntax.Operator
import Lanewise.Syntax.TreeText

/-!
# Faults

Why a program is rejected. A fault is the cause itself; its kind and the text of its message are
functions of the cause, so that no pass ever handles text.
-/

set_option autoImplicit false

namespace Lanewise

/-- A place that takes a uniform integer. -/
inductive IntSlot where
  | rangeBound
  | rotateOffset
  deriving DecidableEq

/-- The name of the place in messages. -/
def IntSlot.text : IntSlot → String
  | rangeBound => "range bound"
  | rotateOffset => "rotate offset"

/-- Elements that a reduction asks for. -/
inductive ElementClass where
  | numeric
  | integerOrBool
  | bool
  deriving DecidableEq

/-- The name of the class in messages. -/
def ElementClass.text : ElementClass → String
  | numeric => "numeric"
  | integerOrBool => "integer or bool"
  | bool => "bool"

/-- Whether a scalar belongs to the class. -/
def ElementClass.admits (c : ElementClass) (s : Scalar) : Bool :=
  match c with
  | numeric => s.isNumeric
  | integerOrBool => s.isInteger || s = .bool
  | bool => s = .bool

/-- A statement that runs a block under a condition. -/
inductive Guarded where
  | ifStmt
  | whileStmt
  deriving DecidableEq

/-- The keyword of the statement. -/
def Guarded.text : Guarded → String
  | ifStmt => "if"
  | whileStmt => "while"

/-- A statement that jumps within a loop. -/
inductive Jump where
  | brk
  | cont
  deriving DecidableEq

/-- The keyword of the statement. -/
def Jump.text : Jump → String
  | brk => "break"
  | cont => "continue"

/-- A statement that takes a call. -/
inductive CallTaker where
  | defer
  | spawn
  deriving DecidableEq

/-- The keyword of the statement. -/
def CallTaker.text : CallTaker → String
  | defer => "defer"
  | spawn => "spawn"

/-- An expression that cannot be folded to a compile-time integer. -/
inductive NonConstant where
  | name (name : String)
  | negation
  | operation (op : BinaryOp)
  | expression
  deriving DecidableEq

/-- The name of the expression in messages. -/
def NonConstant.text : NonConstant → String
  | name n => "'" ++ n ++ "'"
  | negation => "negation"
  | operation op => "'" ++ op.symbol ++ "' expression"
  | expression => "expression"

/-- Why a program is not well typed. -/
inductive TypeFault where
  /-- Two different fixed lane counts meet. -/
  | laneCountsDiffer (left right : Nat)
  /-- A value of fixed lane count flows where the native count is expected. -/
  | fixedIntoNative (lanes : Nat)
  /-- A value of unknown lane count is operated on. -/
  | universalOperand
  /-- A value has another element type than expected. -/
  | scalarMismatch (expected found : Scalar)
  /-- A value has another type than expected. -/
  | typeMismatch (expected found : LaneType)
  /-- A varying value flows where a uniform value is expected. -/
  | varyingWhereUniform (found expected : LaneType)
  /-- A varying type over something that is not a scalar. -/
  | elementNotScalar (found : TypeExpr)
  /-- A type name that denotes nothing. -/
  | unknownType (name : String)
  /-- A variable that is not declared. -/
  | undefinedVariable (name : String)
  /-- A function that is not declared. -/
  | unknownFunction (name : String)
  /-- A lane constraint that names a variable. -/
  | runtimeConstraint (name : String)
  /-- A lane constraint that names nothing. -/
  | undeclaredConstraint (name : String)
  /-- A lane constraint below zero. -/
  | negativeConstraint (lanes : Int)
  /-- A lane constraint beyond the register limit. -/
  | constraintTooWide (lanes : Int) (elem : Scalar)
  /-- An expression that has no compile-time value. -/
  | notConstant (what : NonConstant)
  /-- A case of a type switch that leaves the lane count open. -/
  | openTypeCase
  /-- A region that leaves the lane count open. -/
  | openGoFor
  /-- A conversion of a varying value to a uniform type. -/
  | castToUniform (source target : LaneType)
  /-- A conversion of a varying value to wider lanes. -/
  | castWidens (source target : LaneType) (sourceBits targetBits : Nat)
  /-- A conversion whose result is beyond the register limit. -/
  | castTooWide (source target : LaneType)
  /-- A conversion between types that do not convert. -/
  | castMismatch (source target : LaneType)
  /-- A unary operator on a type that it does not support. -/
  | unaryOperand (op : UnaryOp) (found : LaneType)
  /-- A binary operator on types that have no element type. -/
  | binaryOperands (op : BinaryOp) (left right : LaneType)
  /-- Operands of different element types. -/
  | operandMismatch (left right : LaneType)
  /-- A binary operator on an element type that it does not support. -/
  | binaryUnsupported (op : BinaryOp) (elem : Scalar)
  /-- A range between bounds of different types. -/
  | rangeBoundsDiffer (first last : Scalar)
  /-- A varying value where a uniform integer is expected. -/
  | slotVarying (slot : IntSlot) (found : LaneType)
  /-- Something else where a uniform integer is expected. -/
  | slotNotInteger (slot : IntSlot) (found : LaneType)
  /-- A receive from something that is not a channel. -/
  | receiveFrom (found : LaneType)
  /-- A send on something that is not a channel. -/
  | sendOnNonChannel
  /-- A call with the wrong number of arguments. -/
  | argumentCount (callee : String) (expected found : Nat)
  /-- A library call with the wrong number of arguments. -/
  | libraryArgumentCount (op : LibraryOp) (expected found : Nat)
  /-- A library call on a value that is not varying. -/
  | libraryOperand (op : LibraryOp) (found : LaneType)
  /-- A reduction over lanes of an element type that it does not support. -/
  | libraryElement (op : LibraryOp) (expected : ElementClass) (found : Scalar)
  /-- Indices of a swizzle that are not integers. -/
  | swizzleIndices (found : Scalar)
  /-- An amount of a shift that is not an integer. -/
  | shiftAmount (found : LaneType)
  /-- A lane index that is not known at compile time. -/
  | laneIndexNotStatic
  /-- A lane index that is not below the lane count. -/
  | laneIndexOutOfRange (lane : Int) (count : Nat)
  /-- A bit mask of more lanes than a word has bits. -/
  | bitMaskTooWide (lanes : Nat)
  /-- The declaration of a variable without a value. -/
  | voidBinding (name : String)
  /-- A condition that is not a boolean. -/
  | conditionNotBool (stmt : Guarded) (found : LaneType)
  /-- A switch on a value without an element type. -/
  | switchOn (found : LaneType)
  /-- A type switch on a value of known lane count. -/
  | typeSwitchOn (found : LaneType)
  /-- A loop over something that is not a sequence. -/
  | notIterable (found : LaneType)
  /-- A region over something that is not a range of integers. -/
  | goForRange (found : LaneType)
  /-- A return without a value from a function that has a result. -/
  | returnsNothing (expected : LaneType)
  /-- A jump outside any loop. -/
  | outsideLoop (jump : Jump)
  /-- A deferred or spawned expression that is not a call. -/
  | callRequired (stmt : CallTaker)
  deriving DecidableEq

/-- The kind of a fault. -/
def TypeFault.kind : TypeFault → TypeKind
  | laneCountsDiffer .. => .mismatchedConstraint
  | fixedIntoNative .. => .mismatchedConstraint
  | universalOperand => .operationOnUniversalConstrained
  | scalarMismatch .. => .typeMismatch
  | typeMismatch .. => .typeMismatch
  | varyingWhereUniform .. => .varyingToUniform
  | elementNotScalar .. => .typeMismatch
  | unknownType .. => .unresolved
  | undefinedVariable .. => .unresolved
  | unknownFunction .. => .unresolved
  | runtimeConstraint .. => .nonConstantConstraint
  | undeclaredConstraint .. => .nonConstantConstraint
  | negativeConstraint .. => .nonConstantConstraint
  | constraintTooWide .. => .constraintTooWide
  | notConstant .. => .nonConstantConstraint
  | openTypeCase => .nonConstantConstraint
  | openGoFor => .nonConstantConstraint
  | castToUniform .. => .varyingToUniform
  | castWidens .. => .illegalUpcast
  | castTooWide .. => .illegalUpcast
  | castMismatch .. => .typeMismatch
  | unaryOperand .. => .typeMismatch
  | binaryOperands .. => .typeMismatch
  | operandMismatch .. => .typeMismatch
  | binaryUnsupported .. => .typeMismatch
  | rangeBoundsDiffer .. => .typeMismatch
  | slotVarying .. => .varyingToUniform
  | slotNotInteger .. => .typeMismatch
  | receiveFrom .. => .typeMismatch
  | sendOnNonChannel => .typeMismatch
  | argumentCount .. => .typeMismatch
  | libraryArgumentCount .. => .typeMismatch
  | libraryOperand .. => .typeMismatch
  | libraryElement .. => .typeMismatch
  | swizzleIndices .. => .typeMismatch
  | shiftAmount .. => .typeMismatch
  | laneIndexNotStatic => .nonConstantLaneIndex
  | laneIndexOutOfRange .. => .nonConstantLaneIndex
  | bitMaskTooWide .. => .constraintTooWide
  | voidBinding .. => .typeMismatch
  | conditionNotBool .. => .typeMismatch
  | switchOn .. => .typeMismatch
  | typeSwitchOn .. => .typeMismatch
  | notIterable .. => .typeMismatch
  | goForRange .. => .typeMismatch
  | returnsNothing .. => .typeMismatch
  | outsideLoop .. => .typeMismatch
  | callRequired .. => .typeMismatch

/-- The text of a fault. -/
def TypeFault.message : TypeFault → String
  | laneCountsDiffer a b => s!"lane constraints differ: varying[{a}] vs varying[{b}]"
  | fixedIntoNative n => s!"varying[{n}] cannot be used where a native-width varying is expected"
  | universalOperand =>
    "a varying[] value must be narrowed with a type switch or passed to lanes.FromConstrained before use"
  | scalarMismatch expected found => s!"expected {expected}, found {found}"
  | typeMismatch expected found => s!"expected {expected}, found {found}"
  | varyingWhereUniform found expected =>
    s!"cannot use {found} where uniform {expected} is expected"
  | elementNotScalar found => "varying element must be a scalar, found " ++ found.treeText
  | unknownType name => s!"unknown type '{name}'"
  | undefinedVariable name => s!"undefined variable '{name}'"
  | unknownFunction name => s!"unknown function '{name}'"
  | runtimeConstraint name => s!"lane constraint '{name}' is a runtime value"
  | undeclaredConstraint name => s!"lane constraint '{name}' is not a declared constant"
  | negativeConstraint n =>
    s!"lane constraint must be a nonnegative compile-time integer, got {n}"
  | constraintTooWide n elem =>
    let needed := n * elem.bits
    s!"varying[{n}] {elem} needs {needed} bits, more than the {registerLimit}-bit register limit"
  | notConstant what => what.text ++ " is not a compile-time integer"
  | openTypeCase => "type switch case needs a concrete lane count"
  | openGoFor => "go for needs a concrete lane count"
  | castToUniform source target =>
    s!"cannot cast {source} to uniform {target}; use a reduce.* operation"
  | castWidens source target sourceBits targetBits =>
    s!"cannot widen {source} to {target}: {targetBits}-bit lanes need a wider register than the declared {sourceBits}-bit lanes"
  | castTooWide source target =>
    s!"cast from {source} to {target} exceeds the {registerLimit}-bit register limit"
  | castMismatch source target => s!"cannot cast {source} to {target}"
  | unaryOperand op found => s!"cannot apply '{op}' to type {found}"
  | binaryOperands op left right => s!"operator '{op}' cannot be applied to {left} and {right}"
  | operandMismatch left right => s!"operand type mismatch: {left} vs {right}"
  | binaryUnsupported op elem => s!"operator '{op}' not supported for type {elem}"
  | rangeBoundsDiffer first last => s!"range bounds differ: {first} and {last}"
  | slotVarying slot found => slot.text ++ s!" must be uniform, found {found}"
  | slotNotInteger slot found => slot.text ++ s!" must be a uniform integer, found {found}"
  | receiveFrom found => s!"cannot receive from non-channel type {found}"
  | sendOnNonChannel => "cannot send on a non-channel value"
  | argumentCount callee expected found =>
    s!"function '{callee}' expects {expected} arguments, got {found}"
  | libraryArgumentCount op expected found =>
    s!"'{op}' expects {expected} argument(s), got {found}"
  | libraryOperand op found => s!"'{op}' expects a varying operand, found {found}"
  | libraryElement op expected found =>
    s!"'{op}' requires " ++ expected.text ++ s!" lanes, found {found}"
  | swizzleIndices found => s!"swizzle indices must be varying integers, found {found}"
  | shiftAmount found => s!"shift amount must be an integer, found {found}"
  | laneIndexNotStatic => "lane index of lanes.Broadcast must be statically known"
  | laneIndexOutOfRange lane count => s!"lane {lane} is out of range for {count} lanes"
  | bitMaskTooWide lanes =>
    s!"reduce.Mask packs one bit per lane into uint64; {lanes} lanes do not fit"
  | voidBinding name => s!"cannot bind '{name}' to a void value"
  | conditionNotBool stmt found => stmt.text ++ s!" condition must be bool, found {found}"
  | switchOn found => s!"cannot switch on {found}"
  | typeSwitchOn found => s!"type switch requires a varying[] value, found {found}"
  | notIterable found => s!"for loop requires a range or sequence, found {found}"
  | goForRange found => s!"go for requires a uniform integer range, found {found}"
  | returnsNothing expected => s!"return type mismatch: expected {expected}, found void"
  | outsideLoop jump => "'" ++ jump.text ++ "' can only be used inside a loop"
  | callRequired stmt => stmt.text ++ " requires a function call"

/-- What a varying value decides outside a region. -/
inductive Decision where
  | branching
  | looping
  | switching
  deriving DecidableEq

/-- The name of the decision in messages. -/
def Decision.text : Decision → String
  | branching => "branching"
  | looping => "looping"
  | switching => "switching"

/-- Why a program breaks the rules about regions. -/
inductive ContextFault where
  /-- A public function shows a varying type. -/
  | publicVarying (function : String)
  /-- A region opens inside a function that is a region itself. -/
  | goForInRegionFunction
  /-- A region opens inside another. -/
  | nestedGoFor
  /-- A call inside a region opens another. -/
  | callOpensRegion (callee : String)
  /-- A varying value decides control flow outside every region. -/
  | varyingDecision (what : Decision)
  /-- The program is stopped with a varying value outside every region. -/
  | varyingPanic
  deriving DecidableEq

/-- The kind of a fault. -/
def ContextFault.kind : ContextFault → ContextKind
  | publicVarying .. => .publicVaryingSignature
  | goForInRegionFunction => .goForInRegionFunction
  | nestedGoFor => .invalidNestedRegion
  | callOpensRegion .. => .invalidNestedRegion
  | varyingDecision .. => .varyingControlFlowOutsideRegion
  | varyingPanic => .varyingPanicOutsideRegion

/-- The text of a fault. -/
def ContextFault.message : ContextFault → String
  | publicVarying function =>
    s!"public function '{function}' has a varying parameter or return type; keep lane widths internal to the module"
  | goForInRegionFunction =>
    "go for is not allowed in the body of a function with varying parameters"
  | nestedGoFor => "go for cannot be nested inside another SPMD region"
  | callOpensRegion callee => s!"call to '{callee}' opens a go for region inside this SPMD region"
  | varyingDecision what =>
    what.text ++ " on a varying condition is only allowed inside an SPMD region"
  | varyingPanic => "panic with a varying value is only allowed inside an SPMD region"

/-- What all lanes of a region have to do together. -/
inductive Joint where
  | ret
  | brk
  | send
  | receive
  deriving DecidableEq

/-- The name of the action in messages. -/
def Joint.text : Joint → String
  | ret => "return"
  | brk => "break"
  | send => "channel send"
  | receive => "channel receive"

/-- Why lanes of a region would act alone. -/
inductive FlowFault where
  /-- A joint action under a condition that differs from lane to lane. -/
  | underVarying (action : Joint)
  /-- A joint action after some lanes went on to another round of a loop. -/
  | afterVaryingContinue (action : Joint)
  /-- A uniform variable is written by some of the lanes that share it. -/
  | uniformAssign (target : String)
  deriving DecidableEq

/-- The kind of a fault. -/
def FlowFault.kind : FlowFault → FlowKind
  | underVarying .ret => .varyingConditionReturn
  | underVarying .brk => .varyingConditionBreak
  | underVarying .send => .varyingConditionChannelOp
  | underVarying .receive => .varyingConditionChannelOp
  | afterVaryingContinue .ret => .maskAlteredReturn
  | afterVaryingContinue .brk => .maskAlteredBreak
  | afterVaryingContinue .send => .maskAlteredChannelOp
  | afterVaryingContinue .receive => .maskAlteredChannelOp
  | uniformAssign .. => .uniformAssignInVaryingBranch

/-- The text of a fault. -/
def FlowFault.message : FlowFault → String
  | underVarying action =>
    action.text ++ " under a varying condition would let only some lanes leave"
  | afterVaryingContinue action =>
    action.text ++ " after a varying continue: lanes no longer agree on loop position"
  | uniformAssign target =>
    s!"uniform '{target}' is declared outside this varying branch; lanes would disagree on its value"

/-- Why a program is rejected. -/
inductive Fault where
  | type (fault : TypeFault)
  | context (fault : ContextFault)
  | flow (fault : FlowFault)
  deriving DecidableEq

/-- The kind of a fault. -/
def Fault.kind : Fault → Kind
  | type f => .type f.kind
  | context f => .context f.kind
  | flow f => .flow f.kind

/-- The text of a fault. -/
def Fault.message : Fault → String
  | type f => f.message
  | context f => f.message
  | flow f => f.message

end Lanewise
