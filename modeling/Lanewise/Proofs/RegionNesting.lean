import Lanewise.Proofs.Declarations
import Lanewise.Proofs.Launching
import Lanewise.Syntax.Builder

/-!
# Regions do not nest

Code inside a region runs on all lanes at once, so no other region may open there. The context rules look at
one function at a time and know of the others only which of them are launchers. `Program.regions_never_nest`
says that this is enough: from a region of a function that passes, no chain of calls leads to a go-for.
-/

set_option autoImplicit false

namespace Lanewise

/-- Whether a block of a function is a region: the body of a go-for, or the whole body of a function with a
varying parameter. -/
def Function.IsRegionBody (f : Function) (b : Block) : Prop :=
  (f.hasVaryingParam = true ∧ b = f.body) ∨
    ∃ span var range lanes, Node.stmt (.goFor span var range lanes b) ∈ f.bodyNodes

/-- The names that are called inside a block. -/
def Block.callees (b : Block) : List String :=
  (b.nodes fun _ => true).filterMap Node.callee?

/-- Every node of a block but the block itself belongs to a statement of the block. -/
theorem Block.exists_owner {b : Block} {node : Node} (hnode : node ∈ b.nodes fun _ => true)
    (hne : node ≠ .block b) : ∃ p ∈ b.sites, p.stmt.Owns node := by
  rcases List.mem_cons.1 hnode with rfl | hnode
  · exact absurd rfl hne
  · exact Block.mem_inside_iff.1 hnode

section Context

variable {f : Function} {rules : ContextRules}

/-- The statements of a region are held to the rules for regions. -/
theorem Function.allows_of_region (hcontext : f.checkContext rules = .ok ())
    (hwhole : rules.wholeBody = f.hasVaryingParam) {b : Block} (hb : f.IsRegionBody b) {q : Site}
    (hq : q ∈ b.sites) : rules.Allows true q.stmt := by
  have hallows := (Block.checkContext_eq_ok f.body).1 hcontext
  rcases hb with ⟨hvarying, rfl⟩ | ⟨span, var, range, lanes, hgoFor⟩
  · have hq := hallows q hq
    rwa [hwhole, hvarying, Bool.true_or] at hq
  · obtain ⟨p, hp, howns⟩ := Block.exists_owner hgoFor nofun
    have hstmt : p.stmt = .goFor span var range lanes b := by
      simpa using (howns.eq_stmt rfl).symm
    have hbody : (Arm.body, b) ∈ p.stmt.blocks := by
      rw [hstmt]
      exact List.mem_singleton.2 rfl
    -- The way to the site enters the go-for, so the site counts as inside a region.
    have hinside := hallows _ (Block.mem_sites_of_blocks hp hbody hq)
    have hentered : Site.inGoFor ⟨p.path ++ ⟨p.index, p.stmt, .body⟩ :: q.path, q.index, q.stmt⟩ = true := by
      simp [Site.inGoFor, hstmt, Node.isGoFor]
    rwa [hentered, Bool.or_true] at hinside

/-- No go-for stands inside a region. -/
theorem Function.no_goFor_of_region (hcontext : f.checkContext rules = .ok ())
    (hwhole : rules.wholeBody = f.hasVaryingParam) {b : Block} (hb : f.IsRegionBody b) {node : Node}
    (hnode : node ∈ b.nodes fun _ => true) : node.isGoFor = false := by
  by_contra hgoFor
  rw [Bool.not_eq_false] at hgoFor
  have hne : node ≠ .block b := by
    rintro rfl
    cases hgoFor
  obtain ⟨q, hq, howns⟩ := Block.exists_owner hnode hne
  rw [howns.eq_stmt hgoFor] at hgoFor
  have houtside := ((Function.allows_of_region hcontext hwhole hb hq).goFor hgoFor).2
  cases houtside

/-- No launcher is called inside a region. -/
theorem Function.no_launch_of_region (hcontext : f.checkContext rules = .ok ())
    (hwhole : rules.wholeBody = f.hasVaryingParam) {b : Block} (hb : f.IsRegionBody b) {name : String}
    (hname : name ∈ b.callees) : name ∉ rules.launchers := by
  obtain ⟨node, hnode, hcallee⟩ := List.mem_filterMap.1 hname
  have hne : node ≠ .block b := by
    rintro rfl
    cases hcallee
  obtain ⟨q, hq, howns⟩ := Block.exists_owner hnode hne
  obtain ⟨e, he, hin⟩ := howns.mem_exprs hcallee
  have hlaunch := (Function.allows_of_region hcontext hwhole hb hq).launch rfl e he node hin
  intro hmem
  rw [ContextRules.isLaunch, hcallee, Option.any_some, List.contains_iff_mem.2 hmem] at hlaunch
  cases hlaunch

end Context

/-- Regions never nest. If no name is declared twice and a function passes, its reports are part of the
analysis, no go-for stands inside one of its regions, and from no call inside a region does a chain of calls,
however long and through whatever functions, lead to a function with a go-for. -/
theorem Program.regions_never_nest {p : Program} {target : Target} {f : Function}
    {report : FunctionReport} (hnames : (p.functions.map fun f => f.name.text).Nodup)
    (hf : f ∈ p.functions) (haccepted : p.outcome target f = some (.ok report)) :
    report.regions <:+: (p.analyze target).regions ∧
      ∀ b, f.IsRegionBody b →
        (∀ node ∈ b.nodes fun _ => true, node.isGoFor = false) ∧
        ∀ first ∈ p.functions, first.name.text ∈ b.callees →
          ∀ last, Relation.ReflTransGen p.Calls first last → last.hasGoFor = false := by
  obtain ⟨types, hcontext⟩ := Program.context_of_outcome hnames hf haccepted
  refine ⟨Program.regions_of_outcome hf haccepted, fun b hb => ⟨?_, ?_⟩⟩
  · intro node hnode
    exact Function.no_goFor_of_region hcontext rfl hb hnode
  · intro first hfirst hcalled last hchain
    by_contra hgoFor
    rw [Bool.not_eq_false] at hgoFor
    have hlauncher := Program.mem_launchers_of_reaches hnames hfirst hchain hgoFor
    exact Function.no_launch_of_region hcontext rfl hb hcalled hlauncher

section Renderer

open Builder

/-- A function that takes ten off what is not below ten and hands the rest to `limit`. -/
def clamp : Function :=
  let build : Builder Function := do
    let small ← ifThen (← binary .lt (← ident "n") (← int 10)) [← ret (some (← ident "n"))]
    let again ← ret (some (← call "limit" [← binary .sub (← ident "n") (← int 10)]))
    function "clamp" [← param "n" (← named "int64")] (some (← named "int64")) [small, again] false
  (build.run 0).1

/-- A function that hands its argument back to `clamp`, so that the two call each other. -/
def limit : Function :=
  let build : Builder Function := do
    let again ← ret (some (← call "clamp" [← ident "n"]))
    function "limit" [← param "n" (← named "int64")] (some (← named "int64")) [again] false
  (build.run 100).1

/-- A function whose body is a region, with calls one inside the other. -/
def shade : Function :=
  let build : Builder Function := do
    let step ← declare "step" none (← call "clamp" [← call "clamp" [← int 30]])
    let moved ← declare "moved" none (← binary .add (← ident "x") (← ident "step"))
    function "shade" [← param "x" (← varying "int64")] none [step, moved] false
  (build.run 200).1

/-- A function that opens a region and calls another region function from there. -/
def render : Function :=
  let build : Builder Function := do
    let region ← goFor "i" (← range (← int 0) (← int 8)) [← eval (← call "shade" [← ident "i"])]
    function "render" [] none [region] false
  (build.run 300).1

/-- The four functions in one program. -/
def renderer : Program :=
  { constants := [], functions := [clamp, limit, shade, render] }

/-- A region passes that calls one of two functions which call each other: the chain of calls to the other one
leads to no go-for. -/
theorem Program.regions_never_nest_renderer :
    (renderer.functions.map fun f => f.name.text).Nodup ∧ shade ∈ renderer.functions ∧
      ∃ report, renderer.outcome .standard shade = some (.ok report) ∧
        report.regions <:+: (renderer.analyze .standard).regions ∧
        shade.IsRegionBody shade.body ∧ clamp.name.text ∈ shade.body.callees ∧
        Relation.ReflTransGen renderer.Calls clamp limit ∧ limit.hasGoFor = false := by
  have hnames : (renderer.functions.map fun f => f.name.text).Nodup := by decide +kernel
  have hclamp : clamp ∈ renderer.functions := .head _
  have hlimit : limit ∈ renderer.functions := .tail _ (.head _)
  have hshade : shade ∈ renderer.functions := .tail _ (.tail _ (.head _))
  have haccepted : (renderer.outcome .standard shade).any Except.isOk = true := by decide +kernel
  obtain ⟨outcome, houtcome, hok⟩ := (Option.any_eq_true _ _).1 haccepted
  obtain ⟨report, rfl⟩ := Except.exists_of_isOk hok
  have hregion : shade.IsRegionBody shade.body := Or.inl ⟨by decide +kernel, rfl⟩
  have hcalled : clamp.name.text ∈ shade.body.callees := by decide +kernel
  have hcalls : renderer.Calls clamp limit := ⟨hclamp, hlimit, by decide +kernel⟩
  have hchain := Relation.ReflTransGen.single hcalls
  obtain ⟨hreports, hregions⟩ := Program.regions_never_nest hnames hshade houtcome
  exact ⟨hnames, hshade, report, houtcome, hreports, hregion, hcalled, hchain,
    (hregions _ hregion).2 clamp hclamp hcalled limit hchain⟩

end Renderer

end Lanewise
