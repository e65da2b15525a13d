/-!
# Kinds of diagnostics

Every diagnostic has a kind, and every kind belongs to the pass that raises it: typing, contexts or
control flow.
-/

set_option autoImplicit false

namespace Lanewise

/-- The kinds of diagnostics about types. -/
inductive TypeKind where
  | mismatchedConstraint
  | illegalUpcast
  | nonConstantConstraint
  | operationOnUniversalConstrained
  | typeMismatch
  | unresolved
  | constraintTooWide
  | varyingToUniform
  | nonConstantLaneIndex
  deriving DecidableEq

/-- The kinds of diagnostics about regions. -/
inductive ContextKind where
  | invalidNestedRegion
  | goForInRegionFunction
  | publicVaryingSignature
  | varyingControlFlowOutsideRegion
  | varyingPanicOutsideRegion
  deriving DecidableEq

/-- The kinds of diagnostics about lanes that leave, communicate or write alone. -/
inductive FlowKind where
  | varyingConditionReturn
  | varyingConditionBreak
  | maskAlteredReturn
  | maskAlteredBreak
  | varyingConditionChannelOp
  | maskAlteredChannelOp
  | uniformAssignInVaryingBranch
  deriving DecidableEq

/-- The kind of a diagnostic. -/
inductive Kind where
  | type (kind : TypeKind)
  | context (kind : ContextKind)
  | flow (kind : FlowKind)
  deriving DecidableEq

/-- All kinds of diagnostics about types. -/
def TypeKind.all : List TypeKind :=
  [mismatchedConstraint, illegalUpcast, nonConstantConstraint, operationOnUniversalConstrained,
    typeMismatch, unresolved, constraintTooWide, varyingToUniform, nonConstantLaneIndex]

/-- All kinds of diagnostics about regions. -/
def ContextKind.all : List ContextKind :=
  [invalidNestedRegion, goForInRegionFunction, publicVaryingSignature,
    varyingControlFlowOutsideRegion, varyingPanicOutsideRegion]

/-- All kinds of diagnostics about control flow. -/
def FlowKind.all : List FlowKind :=
  [varyingConditionReturn, varyingConditionBreak, maskAlteredReturn, maskAlteredBreak,
    varyingConditionChannelOp, maskAlteredChannelOp, uniformAssignInVaryingBranch]

/-- The published name of a kind. -/
def TypeKind.name : TypeKind → String
  | mismatchedConstraint => "MismatchedConstraint"
  | illegalUpcast => "IllegalUpcast"
  | nonConstantConstraint => "NonConstantConstraint"
  | operationOnUniversalConstrained => "OperationOnUniversalConstrained"
  | typeMismatch => "TypeMismatch"
  | unresolved => "Unresolved"
  | constraintTooWide => "ConstraintTooWide"
  | varyingToUniform => "VaryingToUniform"
  | nonConstantLaneIndex => "NonConstantLaneIndex"

/-- The published name of a kind. -/
def ContextKind.name : ContextKind → String
  | invalidNestedRegion => "InvalidNestedSPMDRegion"
  | goForInRegionFunction => "GoForInSPMDFunctionBody"
  | publicVaryingSignature => "PublicSPMDSignature"
  | varyingControlFlowOutsideRegion => "VaryingControlFlowOutsideRegion"
  | varyingPanicOutsideRegion => "VaryingPanicOutsideRegion"

/-- The published name of a kind. -/
def FlowKind.name : FlowKind → String
  | varyingConditionReturn => "VaryingConditionReturn"
  | varyingConditionBreak => "VaryingConditionBreak"
  | maskAlteredReturn => "MaskAlteredReturn"
  | maskAlteredBreak => "MaskAlteredBreak"
  | varyingConditionChannelOp => "VaryingConditionChannelOp"
  | maskAlteredChannelOp => "MaskAlteredChannelOp"
  | uniformAssignInVaryingBranch => "UniformAssignInVaryingBranch"

namespace Kind

/-- The published name of a kind. -/
def name : Kind → String
  | type k => k.name
  | context k => k.name
  | flow k => k.name

/-- The category that a kind belongs to. -/
def category : Kind → String
  | type _ => "Type"
  | context _ => "Context"
  | flow _ => "ControlFlow"

/-- The words that introduce a message of this category. -/
def heading : Kind → String
  | type _ => "type error: "
  | context _ => "context error: "
  | flow _ => "control flow error: "

/-- All kinds. -/
def all : List Kind :=
  TypeKind.all.map type ++ ContextKind.all.map context ++ FlowKind.all.map flow

/-- The kind with a given category and name. -/
def ofNames? (category name : String) : Option Kind :=
  all.find? fun k => k.category == category && k.name == name

/-- Category and name determine a kind. -/
theorem ofNames?_names (k : Kind) : ofNames? k.category k.name = some k := by
  cases k with
  | type k => cases k <;> rfl
  | context k => cases k <;> rfl
  | flow k => cases k <;> rfl

end Kind

end Lanewise
