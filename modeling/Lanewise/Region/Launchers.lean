import Lanewise.Assoc
import Lanewise.Syntax.Traversal

/-!
# Launchers

A launcher is a function that opens a region when it is called: its body has a go-for, or calls a
launcher. The launchers are found in rounds over the call graph; every round that finds something finds
a declared function, so there are at most as many rounds as declared names.
-/

set_option autoImplicit false

namespace Lanewise

/-- All nodes of the body of a function. -/
def Function.bodyNodes (f : Function) : List Node :=
  f.body.nodes fun _ => true

/-- Whether a go-for occurs in a function. -/
def Function.hasGoFor (f : Function) : Bool :=
  f.bodyNodes.any Node.isGoFor

/-- The names that a function calls. -/
def Function.callees (f : Function) : List String :=
  f.bodyNodes.filterMap Node.callee?

/-- The functions that each name calls. A later declaration replaces an earlier one of the same
name. -/
def Program.callGraph (p : Program) : NameMap (List String) :=
  .ofList (p.functions.map fun f => (f.name.text, f.callees))

/-- The names under which a go-for occurs. -/
def Program.goForNames (p : Program) : List String :=
  (p.functions.filter Function.hasGoFor).foldl (fun names f => names.insert f.name.text) []

namespace Launchers

/-- Adds a caller to what was found, if it calls something that was found. -/
def visit (found : List String) (entry : String × List String) : List String :=
  if entry.2.any found.contains then found.insert entry.1 else found

/-- One round over the call graph. -/
def round (graph : List (String × List String)) (found : List String) : List String :=
  graph.foldl visit found

/-- Rounds until one finds nothing new, but no more than `fuel`. -/
def saturate (graph : List (String × List String)) : Nat → List String → List String
  | 0, found => found
  | fuel + 1, found =>
    let next := round graph found
    if next.length = found.length then found else saturate graph fuel next

end Launchers

/-- The launchers of a program. -/
def Program.launchers (p : Program) : List String :=
  let graph := p.callGraph.entries
  Launchers.saturate graph graph.length p.goForNames

end Lanewise
