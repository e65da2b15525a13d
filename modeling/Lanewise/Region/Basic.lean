import Lanewise.Diagnostic.Report
import Lanewise.Syntax.Program
import Lanewise.Typing.Env

/-!
# Regions

A region is a block whose code runs on all lanes at once: the body of a function with a varying
parameter, or the body of a go-for. A public function may not show varying types, so that lane widths
stay inside the module.
-/

set_option autoImplicit false

namespace Lanewise

/-- What opens a region. -/
inductive RegionKind where
  | goFor
  | function
  deriving DecidableEq

/-- A region: what opens it, in which function, where, and the block that it consists of. -/
structure Region where
  kind : RegionKind
  function : String
  span : Span
  body : Block

mutual

/-- The outermost go-fors of a statement, each with its body. -/
def Stmt.goFors : Stmt → List (Span × Block)
  | .goFor span _ _ _ body => [(span, body)]
  | .ifThen _ _ thenArm => thenArm.goFors
  | .ifElse _ _ thenArm elseArm => thenArm.goFors ++ elseArm.goFors
  | .switch _ _ arms => arms.goFors
  | .typeSwitch _ _ _ arms => arms.goFors
  | .forIn _ _ _ body => body.goFors
  | .whileLoop _ _ body => body.goFors
  | _ => []

/-- The outermost go-fors of a block. -/
def Block.goFors : Block → List (Span × Block)
  | .nil _ => []
  | .cons first rest => first.goFors ++ rest.goFors

/-- The outermost go-fors of the arms of a switch. -/
def Arms.goFors : Arms → List (Span × Block)
  | .nil => []
  | .default body => body.goFors
  | .case _ body rest => body.goFors ++ rest.goFors

/-- The outermost go-fors of the arms of a type switch. -/
def LaneArms.goFors : LaneArms → List (Span × Block)
  | .nil => []
  | .default body => body.goFors
  | .case _ body rest => body.goFors ++ rest.goFors

end

/-- The regions of a function: its whole body if it has a varying parameter, otherwise the bodies of its
outermost go-fors. -/
def Function.regions (f : Function) (s : Signature) : List Region :=
  if s.isRegion then
    [{ kind := .function, function := f.name.text, span := f.span, body := f.body }]
  else
    f.body.goFors.map fun found =>
      { kind := .goFor, function := f.name.text, span := found.1, body := found.2 }

/-- Demands that a public function shows no varying type. -/
def Signature.expectPrivateLanes (name : String) (s : Signature) : Except Issue Unit :=
  if s.isPublic && s.exposesVarying then .error (.context (.publicVarying name) s.span) else .ok ()

end Lanewise
