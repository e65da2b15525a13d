import Lanewise.Assoc
import Lanewise.LaneType
import Lanewise.Span
import Lanewise.Target

/-!
# Environments

What names mean while a program is checked: the signatures of its functions, the values of its
constants, and the variables of the scopes that are open. A variable remembers how many varying
conditions enclosed its declaration, so that a write from inside more of them can be told.
-/

set_option autoImplicit false

namespace Lanewise

/-- The signature of a function. -/
structure Signature where
  params : List LaneType
  result : LaneType
  isPublic : Bool
  span : Span
  deriving DecidableEq

namespace Signature

/-- Whether the body of the function is a region: it is exactly if some parameter is varying. -/
def isRegion (s : Signature) : Bool :=
  s.params.any LaneType.isVarying

/-- Whether a caller sees a varying type. -/
def exposesVarying (s : Signature) : Bool :=
  s.isRegion || s.result.isVarying

end Signature

/-- A variable: its type, and the number of varying conditions around its declaration. -/
structure Binding where
  type : LaneType
  depth : Nat
  deriving DecidableEq

/-- The variables of one scope. -/
abbrev Scope := NameMap Binding

/-- What names mean at a place in the program. The innermost scope comes first. -/
structure Env where
  scopes : List Scope
  functions : NameMap Signature
  constants : NameMap Int64
  target : Target

namespace Env

/-- The environment with one scope and nothing in it. -/
def initial (target : Target) : Env :=
  { scopes := [.empty], functions := .empty, constants := .empty, target }

/-- Opens a scope. -/
def push (env : Env) : Env :=
  { env with scopes := .empty :: env.scopes }

/-- Closes the innermost scope, if one is open. -/
def pop (env : Env) : Env :=
  { env with scopes := env.scopes.tail }

/-- The number of open scopes. -/
def depth (env : Env) : Nat :=
  env.scopes.length

/-- Closes scopes until at most `depth` are open; the outermost scope stays. -/
def truncate (env : Env) (depth : Nat) : Env :=
  { env with scopes := env.scopes.drop (env.scopes.length - max depth 1) }

/-- Declares a variable in the innermost scope, if one is open. -/
def define (env : Env) (name : String) (binding : Binding) : Env :=
  match env.scopes with
  | [] => env
  | scope :: outer => { env with scopes := scope.insert name binding :: outer }

/-- The variable that a name denotes: that of the innermost scope that has one. -/
def lookup? (env : Env) (name : String) : Option Binding :=
  env.scopes.findSome? fun scope => scope.find? name

/-- Whether a name denotes a function whose body is a region. -/
def isRegionFunction (env : Env) (name : String) : Bool :=
  match env.functions.find? name with
  | some s => s.isRegion
  | none => false

end Env

end Lanewise
