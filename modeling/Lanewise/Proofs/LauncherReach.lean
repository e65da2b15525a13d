import Lanewise.Proofs.Launching
import Lanewise.Proofs.Occurrences
import Lanewise.Syntax.Builder

/-!
# Launchers are the names that reach a go-for

Names call names: there is an edge from a name to all that the last function declared under it calls, anywhere in its
body. A name starts out as a launcher if a go-for occurs in some function declared under it, the last one or not. The
launchers are the declared names from which edges lead to such a start, in no matter how many steps. Names call
themselves and each other in circles, and some of the names that are called are not declared at all.

`Program.launchers_reach` says so of what the loop over the call graph ends with, and that it ends, for every order in
which its rounds visit the callers and look at their callees.
-/

set_option autoImplicit false

namespace Lanewise

/-- Whether a function calls a name: a part of some expression of a statement in its body, at any depth, is a call of
that name. -/
def Function.CallsName (f : Function) (callee : String) : Prop :=
  ∃ q ∈ f.body.sites, ∃ e ∈ q.stmt.exprs, ∃ part ∈ e.parts, part.callee? = some callee

/-- Whether a statement in the body of a function, at any depth, is a go-for. -/
def Function.OpensRegion (f : Function) : Prop :=
  ∃ q ∈ f.body.sites, (Node.stmt q.stmt).isGoFor = true

/-- The callees of a function are the names that it calls. -/
theorem Function.mem_callees {f : Function} {callee : String} : callee ∈ f.callees ↔ f.CallsName callee := by
  have hbody : callee ∈ f.callees ↔
      ∃ node ∈ f.body.inside fun _ => true, node.callee? = some callee := by
    simp [Function.callees, Function.bodyNodes, Block.nodes, Node.enter, Node.callee?]
  rw [hbody]
  constructor
  · rintro ⟨node, hnode, hcallee⟩
    obtain ⟨q, hq, howns⟩ := Block.mem_inside_iff.1 hnode
    obtain ⟨e, he, hin⟩ := howns.mem_exprs hcallee
    exact ⟨q, hq, e, he, Expr.exists_call_iff.1 ⟨node, hin, hcallee⟩⟩
  · rintro ⟨q, hq, e, he, hcall⟩
    obtain ⟨node, hin, hcallee⟩ := Expr.exists_call_iff.2 hcall
    have howns : q.stmt.Owns node := Or.inr (Or.inr (Or.inl ⟨e, he, hin⟩))
    exact ⟨node, Block.mem_inside_iff.2 ⟨q, hq, howns⟩, hcallee⟩

/-- The traversal finds a go-for exactly if a statement of the body is one. -/
theorem Function.hasGoFor_iff {f : Function} : f.hasGoFor = true ↔ f.OpensRegion := by
  have hbody : f.hasGoFor = true ↔ ∃ node ∈ f.body.inside fun _ => true, node.isGoFor = true := by
    simp [Function.hasGoFor, Function.bodyNodes, Block.nodes, Node.enter, Node.isGoFor]
  rw [hbody]
  constructor
  · rintro ⟨node, hnode, hgoFor⟩
    obtain ⟨q, hq, howns⟩ := Block.mem_inside_iff.1 hnode
    have hstmt : node = .stmt q.stmt := howns.eq_stmt hgoFor
    rw [hstmt] at hgoFor
    exact ⟨q, hq, hgoFor⟩
  · rintro ⟨q, hq, hgoFor⟩
    exact ⟨_, Block.mem_inside_iff.2 ⟨q, hq, Or.inl rfl⟩, hgoFor⟩

namespace Program

/-- Whether a name leads to another one: the last function declared under the first calls the second. -/
def Edge (p : Program) (caller callee : String) : Prop :=
  ∃ f, p.lastDeclared? caller = some f ∧ f.CallsName callee

/-- Whether a go-for occurs in some function declared under a name. -/
def IsStart (p : Program) (name : String) : Prop :=
  ∃ f ∈ p.functions, f.name.text = name ∧ f.OpensRegion

/-- Whether a name is declared and some number of edges, possibly none, lead from it to a name under which a go-for
occurs. -/
def ReachesGoFor (p : Program) (name : String) : Prop :=
  (∃ f ∈ p.functions, f.name.text = name) ∧ ∃ start, p.IsStart start ∧ Relation.ReflTransGen p.Edge name start

variable {p : Program}

/-- The search starts from the names under which a go-for occurs. -/
theorem mem_goForNames_iff {name : String} : name ∈ p.goForNames ↔ p.IsStart name := by
  rw [mem_goForNames]
  refine exists_congr fun f => and_congr_right fun _ => ?_
  rw [Function.hasGoFor_iff, and_comm]

/-- The calls of the call graph are the edges. -/
theorem edge_iff {caller callee : String} :
    p.Edge caller callee ↔ ∃ callees, (caller, callees) ∈ p.callGraph.entries ∧ callee ∈ callees := by
  constructor
  · rintro ⟨f, hlast, hcalls⟩
    exact ⟨f.callees, mem_callGraph_iff.2 ⟨f, hlast, rfl⟩, Function.mem_callees.2 hcalls⟩
  · rintro ⟨callees, hentry, hcallee⟩
    obtain ⟨f, hlast, rfl⟩ := mem_callGraph_iff.1 hentry
    exact ⟨f, hlast, Function.mem_callees.1 hcallee⟩

/-- A name reaches a go-for as soon as a name that it leads to does. -/
theorem ReachesGoFor.of_edge {caller callee : String} (hedge : p.Edge caller callee)
    (hcallee : p.ReachesGoFor callee) : p.ReachesGoFor caller := by
  have hdeclared : ∃ f ∈ p.functions, f.name.text = caller := by
    obtain ⟨f, hlast, -⟩ := hedge
    exact ⟨f, of_lastDeclared? hlast⟩
  obtain ⟨-, start, hstart, hchain⟩ := hcallee
  exact ⟨hdeclared, start, hstart, .head hedge hchain⟩

section Loop

variable {schedule : Launchers.Schedule p.callGraph.entries} {rounds : Nat} {result : List String}

/-- What the loop finds reaches a go-for: the names at the start do, and a caller does if what it calls does. -/
theorem reachesGoFor_of_ends (h : Launchers.Ends schedule 0 p.goForNames rounds result) :
    ∀ name ∈ result, p.ReachesGoFor name := by
  refine h.forall_result ?_ ?_
  · intro name hname
    have hstart : p.IsStart name := mem_goForNames_iff.1 hname
    have hdeclared : ∃ f ∈ p.functions, f.name.text = name := by
      obtain ⟨f, hf, hdeclared, -⟩ := hstart
      exact ⟨f, hf, hdeclared⟩
    exact ⟨hdeclared, name, hstart, .refl⟩
  · intro entry hentry callee hcallee hreaches
    have hedge : p.Edge entry.1 callee := edge_iff.2 ⟨entry.2, hentry, hcallee⟩
    exact hreaches.of_edge hedge

/-- What reaches a go-for is found: the loop ends with a set that is closed under calls. -/
theorem mem_of_ends (h : Launchers.Ends schedule 0 p.goForNames rounds result) {name start : String}
    (hstart : p.IsStart start) (hchain : Relation.ReflTransGen p.Edge name start) : name ∈ result := by
  induction hchain using Relation.ReflTransGen.head_induction_on with
  | refl => exact h.subset (mem_goForNames_iff.2 hstart)
  | head hedge _ ih =>
    obtain ⟨callees, hentry, hcallee⟩ := edge_iff.1 hedge
    exact h.closed _ hentry _ hcallee ih

/-- The loop ends with the names that reach a go-for, whatever the orders of its rounds. -/
theorem mem_ends_iff (h : Launchers.Ends schedule 0 p.goForNames rounds result) (name : String) :
    name ∈ result ↔ p.ReachesGoFor name := by
  constructor
  · exact reachesGoFor_of_ends h name
  · rintro ⟨-, start, hstart, hchain⟩
    exact mem_of_ends h hstart hchain

end Loop

/-- The launchers are the declared names that reach a go-for. In whatever orders its rounds take the call graph, the
loop that looks for them ends, with no more rounds before the last one than the graph has callers, and the names that it
ends with are just these. -/
theorem launchers_reach (p : Program) :
    (∀ name, name ∈ p.launchers ↔ p.ReachesGoFor name) ∧
      ∀ schedule : Launchers.Schedule p.callGraph.entries,
        (∃ rounds result, rounds ≤ p.callGraph.entries.length ∧
          Launchers.Ends schedule 0 p.goForNames rounds result) ∧
        ∀ rounds result, Launchers.Ends schedule 0 p.goForNames rounds result →
          ∀ name, name ∈ result ↔ p.ReachesGoFor name := by
  constructor
  · obtain ⟨n, hends⟩ := p.launchers_ends
    exact mem_ends_iff hends
  · intro schedule
    constructor
    · obtain ⟨n, result, hn, hends⟩ :=
        Launchers.exists_ends schedule 0 p.nodup_goForNames p.goForNames_subset
      exact ⟨n, result, by omega, hends⟩
    · intro rounds result hends
      exact mem_ends_iff hends

end Program

section Relays

open Builder

/-- Names that call each other in a circle, that call themselves or a name that is not declared, and that are declared
twice. -/
def relays : Program :=
  let build : Builder (List Function) := do
    let region ← goFor "i" (← range (← int 0) (← int 8)) []
    let spin ← function "spin" [] none [← ifThen (← bool true) [region]] false
    let spinAgain ← function "spin" [] none [← defer (← call "relay" [])] false
    let relay ← function "relay" [] none [← eval (← call "max" [← call "spin" []])] false
    let once ← function "once" [] none [← eval (← call "spin" [])] false
    let onceAgain ← function "once" [] none [] false
    let idle ← function "idle" [] none [← eval (← call "idle" []), ← spawn (← call "print" [])] false
    return [spin, spinAgain, relay, once, onceAgain, idle]
  { constants := [], functions := (build.run 0).1 }

example : relays.launchers = ["relay", "spin"] := by decide +kernel

end Relays

end Lanewise
