import Lanewise.Syntax.TypeExpr
import Lanewise.Text.Quoted

/-!
# The tree of a type expression, as text

Messages show an ill-formed type expression by its syntax tree, with the span of every part.
-/

set_option autoImplicit false

namespace Lanewise

/-- The text of a span in a syntax tree. -/
def Span.treeText (s : Span) : String :=
  "Span \x7b start: " ++ toString s.start ++ ", end: " ++ toString s.stop ++ ", file_id: " ++
    toString s.file ++ " \x7d"

/-- The text of a part of a syntax tree, given the text of its content and its span. -/
def Span.spannedText (s : Span) (content : String) : String :=
  "Spanned \x7b node: " ++ content ++ ", span: " ++ s.treeText ++ " \x7d"

/-- The text of a lane constraint in a syntax tree. -/
def Constraint.treeText (c : Constraint) : String :=
  c.span.spannedText <|
    match c.form with
    | .literal n => "Lit(" ++ toString n ++ ")"
    | .universal => "Universal"
    | .named name => "Name(" ++ Text.quoted name ++ ")"

/-- The text of the syntax tree of a type, without its own span. -/
def TypeExpr.treeText : TypeExpr → String
  | .named _ name => "Named(" ++ Text.quoted name ++ ")"
  | .varying _ elem lanes =>
    let lanesText :=
      match lanes with
      | none => "None"
      | some c => "Some(" ++ c.treeText ++ ")"
    "Varying \x7b elem: " ++ elem.span.spannedText elem.treeText ++ ", lanes: " ++ lanesText ++
      " \x7d"
  | .chan _ elem => "Chan(" ++ elem.span.spannedText elem.treeText ++ ")"

end Lanewise
