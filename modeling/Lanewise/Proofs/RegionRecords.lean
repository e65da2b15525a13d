import Lanewise.Proofs.Declarations
import Lanewise.Proofs.MaskPoints
import Lanewise.Proofs.SinglePass
import Mathlib.Data.List.Perm.Basic

/-!
# What the reports of a function list

A function that passes has one report for every region that is written in it: for its body if that is a region,
and otherwise for every go-for, in the order of the traversal. Each report lists the statements of its region,
its deferred and spawned calls and its region calls, every one of them once and under the mask of its statement
(`RegionReport.Describes`). A loop that is walked twice does not show: the reports are those of a single pass.
-/

set_option autoImplicit false

namespace Lanewise

/-! ### The statements of a block -/

/-- The statement that a node is, if it is one. -/
def Node.stmt? : Node → Option Stmt
  | stmt s => some s
  | _ => none

/-- The statements of a block, at any depth, in the order of the traversal. -/
def Block.stmts (b : Block) : List Stmt :=
  (b.inside fun _ => true).filterMap Node.stmt?

/-- No statement is met in an expression. -/
theorem Expr.filterMap_stmt?_nodes (e : Expr) :
    (e.nodes fun _ => true).filterMap Node.stmt? = [] := by
  rw [List.filterMap_eq_nil_iff]
  intro node hnode
  rcases e.kind_of_mem_nodes hnode with ⟨_, rfl⟩ | ⟨_, rfl⟩
  · rfl
  · rfl

/-- No statement is met in several expressions. -/
theorem Expr.filterMap_stmt?_nodesOf (es : List Expr) :
    (Expr.nodesOf (fun _ => true) es).filterMap Node.stmt? = [] := by
  rw [List.filterMap_eq_nil_iff]
  intro node hnode
  rcases Expr.kind_of_mem_nodesOf es hnode with ⟨_, rfl⟩ | ⟨_, rfl⟩
  · rfl
  · rfl

/-- No statement is met in a type. -/
theorem TypeExpr.filterMap_stmt?_nodesOf (t : Option TypeExpr) :
    (TypeExpr.nodesOf (fun _ => true) t).filterMap Node.stmt? = [] := by
  rw [List.filterMap_eq_nil_iff]
  intro node hnode
  cases t with
  | none => cases hnode
  | some t =>
    obtain ⟨_, rfl⟩ := TypeExpr.isType_of_mem_nodes hnode
    rfl

/-- The statements that are met in the arms of a switch are those of their bodies, in order. -/
theorem Arms.filterMap_stmt?_nodes : ∀ (arms : Arms) (k : Nat),
    (arms.nodes fun _ => true).filterMap Node.stmt? =
      (arms.blocks k).flatMap fun entry => entry.2.stmts
  | .nil, _ => rfl
  | .default body, _ => by
    simp [Arms.nodes, Arms.blocks, Node.enter, Node.stmt?, Block.stmts, List.filterMap_cons]
  | .case values body rest, k => by
    have hrest := Arms.filterMap_stmt?_nodes rest (k + 1)
    rw [Arms.nodes, Arms.blocks, List.filterMap_append, List.filterMap_append, hrest,
      Expr.filterMap_stmt?_nodesOf]
    rfl

/-- The statements that are met in the arms of a type switch are those of their bodies, in order. -/
theorem LaneArms.filterMap_stmt?_nodes : ∀ (arms : LaneArms) (k : Nat),
    (arms.nodes fun _ => true).filterMap Node.stmt? =
      (arms.blocks k).flatMap fun entry => entry.2.stmts
  | .nil, _ => rfl
  | .default body, _ => by
    simp [LaneArms.nodes, LaneArms.blocks, Node.enter, Node.stmt?, Block.stmts, List.filterMap_cons]
  | .case _ body rest, k => by
    have hrest := LaneArms.filterMap_stmt?_nodes rest (k + 1)
    rw [LaneArms.nodes, LaneArms.blocks, List.filterMap_append, hrest]
    rfl

/-- The traversal meets a statement, and then the statements of its blocks. -/
theorem Stmt.filterMap_stmt?_nodes (s : Stmt) :
    (s.nodes fun _ => true).filterMap Node.stmt? = s :: s.blocks.flatMap fun entry => entry.2.stmts := by
  cases s with
  | switch _ scrutinee arms =>
    have harms := Arms.filterMap_stmt?_nodes arms 0
    simp [Stmt.nodes, Stmt.blocks, Node.enter, Node.stmt?, Expr.filterMap_stmt?_nodes, harms]
  | typeSwitch _ _ scrutinee arms =>
    have harms := LaneArms.filterMap_stmt?_nodes arms 0
    simp [Stmt.nodes, Stmt.blocks, Node.enter, Node.stmt?, Expr.filterMap_stmt?_nodes, harms]
  | ret _ value =>
    cases value <;> simp [Stmt.nodes, Stmt.blocks, Node.enter, Node.stmt?, Expr.filterMap_stmt?_nodes]
  | _ =>
    simp [Stmt.nodes, Stmt.blocks, Node.enter, Node.stmt?, Block.stmts, List.filterMap_cons,
      Expr.filterMap_stmt?_nodes, TypeExpr.filterMap_stmt?_nodesOf]

/-- The statements of a block are its first one, those inside it, and the rest. -/
theorem Block.stmts_cons (s : Stmt) (rest : Block) :
    (Block.cons s rest).stmts = (s :: s.blocks.flatMap fun entry => entry.2.stmts) ++ rest.stmts := by
  rw [Block.stmts, Block.inside, List.filterMap_append, Stmt.filterMap_stmt?_nodes, ← Block.stmts]

/-- The sites of a block are its statements in the order of the traversal. -/
theorem Block.map_stmt_sites (b : Block) : b.sites.map Site.stmt = b.stmts := by
  refine Block.of_blocks
    (P := fun b => ∀ k, (b.sitesFrom k).map Site.stmt = b.stmts)
    (Q := fun s => ∀ k, (s.sites k).map Site.stmt = s :: s.blocks.flatMap fun entry => entry.2.stmts)
    ?_ ?_ ?_ b 0
  · intro span k
    rfl
  · intro s rest hs hrest k
    rw [Block.sitesFrom, List.map_append, hs k, hrest (k + 1), Block.stmts_cons]
  · intro s hblocks k
    rw [Stmt.sites_eq, List.map_cons, List.map_flatMap]
    refine congrArg _ (List.flatMap_congr fun entry hentry => ?_)
    rw [Block.sitesBehind, List.map_map]
    exact hblocks entry.1 entry.2 hentry 0

/-! ### The regions that are written in a function -/

/-- The span and the body of a go-for. -/
def Stmt.goFor? : Stmt → Option (Span × Block)
  | .goFor span _ _ _ body => some (span, body)
  | _ => none

/-- A statement has the span and the body of a go-for exactly if it is one. -/
theorem Stmt.isSome_goFor? (s : Stmt) : s.goFor?.isSome = (Node.stmt s).isGoFor := by
  cases s <;> rfl

/-- The regions that are written in a function: its body, or the bodies of all its go-fors. -/
def Function.writtenRegions (f : Function) (isRegion : Bool) : List Region :=
  if isRegion then
    [{ kind := .function, function := f.name.text, span := f.span, body := f.body }]
  else
    (f.body.stmts.filterMap Stmt.goFor?).map fun found =>
      { kind := .goFor, function := f.name.text, span := found.1, body := found.2 }

/-- The outermost go-fors in the arms of a switch are those of their bodies. -/
theorem Arms.goFors_eq : ∀ (arms : Arms) (k : Nat),
    arms.goFors = (arms.blocks k).flatMap fun entry => entry.2.goFors
  | .nil, _ => rfl
  | .default body, _ => by simp [Arms.goFors, Arms.blocks]
  | .case _ body rest, k => by
    rw [Arms.goFors, Arms.blocks, List.flatMap_cons, Arms.goFors_eq rest (k + 1)]

/-- The outermost go-fors in the arms of a type switch are those of their bodies. -/
theorem LaneArms.goFors_eq : ∀ (arms : LaneArms) (k : Nat),
    arms.goFors = (arms.blocks k).flatMap fun entry => entry.2.goFors
  | .nil, _ => rfl
  | .default body, _ => by simp [LaneArms.goFors, LaneArms.blocks]
  | .case _ body rest, k => by
    rw [LaneArms.goFors, LaneArms.blocks, List.flatMap_cons, LaneArms.goFors_eq rest (k + 1)]

/-- The outermost go-fors of a statement are itself, if it is one, or those of its blocks. -/
theorem Stmt.goFors_eq (s : Stmt) :
    s.goFors = s.goFor?.toList ++
      if (Node.stmt s).isGoFor then [] else s.blocks.flatMap fun entry => entry.2.goFors := by
  cases s with
  | switch _ _ arms => exact Arms.goFors_eq arms 0
  | typeSwitch _ _ _ arms => exact LaneArms.goFors_eq arms 0
  | _ => simp [Stmt.goFors, Stmt.goFor?, Stmt.blocks, Node.isGoFor]

/-- Behind a step a site lies in a go-for if the step enters one or the rest of the way does. -/
@[simp] theorem Site.inGoFor_under (step : Step) (p : Site) :
    (p.under step).inGoFor = ((Node.stmt step.stmt).isGoFor || p.inGoFor) := rfl

/-- The sites of a statement that lie in none of its go-fors. -/
theorem Stmt.filter_inGoFor_sites (s : Stmt) (k : Nat) :
    (s.sites k).filter (!·.inGoFor) =
      ⟨[], k, s⟩ :: if (Node.stmt s).isGoFor then []
        else s.blocks.flatMap fun entry =>
          ((entry.2.sitesFrom 0).filter (!·.inGoFor)).map (.under ⟨k, s, entry.1⟩) := by
  rw [Stmt.sites_eq, List.filter_cons_of_pos (by rfl), List.filter_flatMap]
  refine congrArg _ ?_
  cases hgoFor : (Node.stmt s).isGoFor with
  | true => simp [Block.sitesBehind, hgoFor]
  | false =>
    rw [if_neg (by decide)]
    refine List.flatMap_congr fun entry _ => ?_
    rw [Block.sitesBehind, List.filter_map]
    simp [Function.comp_def, hgoFor]

/-- The outermost go-fors of a block are those that lie in no other one. -/
theorem Block.goFors_eq (b : Block) :
    b.goFors = (b.sites.filter (!·.inGoFor)).filterMap fun p => p.stmt.goFor? := by
  refine Block.of_blocks
    (P := fun b => ∀ k, b.goFors =
      ((b.sitesFrom k).filter (!·.inGoFor)).filterMap fun p => p.stmt.goFor?)
    (Q := fun s => ∀ k, s.goFors = ((s.sites k).filter (!·.inGoFor)).filterMap fun p => p.stmt.goFor?)
    ?_ ?_ ?_ b 0
  · intro span k
    rfl
  · intro s rest hs hrest k
    rw [Block.goFors, Block.sitesFrom, List.filter_append, List.filterMap_append, ← hs k,
      ← hrest (k + 1)]
  · intro s hblocks k
    rw [Stmt.goFors_eq, Stmt.filter_inGoFor_sites]
    cases hgoFor : (Node.stmt s).isGoFor with
    | true => cases hfound : s.goFor? <;> simp [hfound]
    | false =>
      have hinner : (s.blocks.flatMap fun entry => entry.2.goFors) =
          (s.blocks.flatMap fun entry => ((entry.2.sitesFrom 0).filter (!·.inGoFor)).map
            (Site.under ⟨k, s, entry.1⟩)).filterMap fun p => p.stmt.goFor? := by
        rw [List.filterMap_flatMap]
        refine List.flatMap_congr fun entry hentry => ?_
        rw [List.filterMap_map, hblocks entry.1 entry.2 hentry 0]
        rfl
      rw [if_neg (by decide), if_neg (by decide), hinner]
      cases hfound : s.goFor? <;> simp [hfound]

/-- In a function that keeps to the context rules no go-for lies inside another one, so the regions that are
reported are those that are written. -/
theorem Function.regions_eq_written {f : Function} {s : Signature} {types : TypeRecord}
    {launchers : List String}
    (hcontext : f.checkContext { types, launchers, wholeBody := s.isRegion } = .ok ()) :
    f.regions s = f.writtenRegions s.isRegion := by
  have hallows := (Block.checkContext_eq_ok f.body).1 hcontext
  have houter : f.body.goFors = f.body.stmts.filterMap Stmt.goFor? := by
    rw [Block.goFors_eq, ← Block.map_stmt_sites, List.filterMap_map, List.filterMap_filter]
    refine List.filterMap_congr fun p hp => ?_
    cases hfound : p.stmt.goFor? with
    | none => simp [hfound]
    | some found =>
      have hgoFor : (Node.stmt p.stmt).isGoFor = true := by
        rw [← Stmt.isSome_goFor?, hfound]
        rfl
      have hout := ((hallows p hp).goFor hgoFor).2
      rw [Bool.or_eq_false_iff] at hout
      simp [hfound, hout.2]
  rw [Function.regions, Function.writtenRegions, houter]

/-! ### Region calls -/

/-- The region call of a node that is evaluated under a mask, if it is one. -/
def Node.regionCall? (env : Env) (caller : String) (mask : CalleeMask) (node : Node) :
    Option RegionCall :=
  match node.callee? with
  | some callee =>
    if env.isRegionFunction callee then some { caller, callee, span := node.span, mask } else none
  | none => none

/-- The region calls in expressions that are evaluated under a mask, in the order of the traversal. -/
def Expr.callsUnder (env : Env) (caller : String) (mask : CalleeMask) (es : List Expr) :
    List RegionCall :=
  (Expr.nodesOf (fun _ => true) es).filterMap (Node.regionCall? env caller mask)

/-- No region call is met in a type. -/
theorem TypeExpr.filterMap_regionCall?_nodes (env : Env) (caller : String) (mask : CalleeMask)
    (t : TypeExpr) : (t.nodes fun _ => true).filterMap (Node.regionCall? env caller mask) = [] := by
  rw [List.filterMap_eq_nil_iff]
  intro node hnode
  obtain ⟨_, rfl⟩ := TypeExpr.isType_of_mem_nodes hnode
  rfl

mutual

/-- The walk writes down the region calls of an expression, in another order than the traversal meets them. -/
theorem Expr.regionCalls_perm (cx : WalkContext) (mask : Nat) (e : Expr) :
    (e.regionCalls cx mask).Perm
      ((e.nodes fun _ => true).filterMap (Node.regionCall? cx.env cx.function (.caller mask))) := by
  match e with
  | .int .. | .float .. | .bool .. | .ident .. => exact List.Perm.nil
  | .unary _ _ operand => exact Expr.regionCalls_perm cx mask operand
  | .recv _ chan => exact Expr.regionCalls_perm cx mask chan
  | .cast _ operand target =>
    have htarget := TypeExpr.filterMap_regionCall?_nodes cx.env cx.function (.caller mask) target
    have hoperand := Expr.regionCalls_perm cx mask operand
    rw [Expr.nodes, Node.enter, if_pos rfl, List.filterMap_cons_none rfl, List.filterMap_append,
      htarget, List.append_nil]
    exact hoperand
  | .binary _ _ left right | .range _ left right =>
    have hleft := Expr.regionCalls_perm cx mask left
    have hright := Expr.regionCalls_perm cx mask right
    rw [Expr.nodes, Node.enter, if_pos rfl, List.filterMap_cons_none rfl, List.filterMap_append]
    exact hleft.append hright
  | .call span callee args =>
    have hargs := Expr.regionCallsOf_perm cx mask args
    rw [Expr.callsUnder] at hargs
    rw [Expr.regionCalls, Expr.nodes, Node.enter, if_pos rfl, List.filterMap_cons]
    -- the walk writes down the arguments first, and the traversal meets the call first
    cases hregion : cx.env.isRegionFunction callee.text with
    | false => simpa [Node.regionCall?, Node.callee?, Expr.callee?, hregion] using hargs
    | true =>
      simp only [Node.regionCall?, Node.callee?, Expr.callee?, hregion, if_true]
      exact (List.perm_append_singleton _ _).trans (hargs.cons _)

/-- The walk writes down the region calls of several expressions, in another order than the traversal meets
them. -/
theorem Expr.regionCallsOf_perm (cx : WalkContext) (mask : Nat) (es : List Expr) :
    (Expr.regionCallsOf cx mask es).Perm (Expr.callsUnder cx.env cx.function (.caller mask) es) := by
  match es with
  | [] => exact List.Perm.nil
  | e :: rest =>
    have he := Expr.regionCalls_perm cx mask e
    have hrest := Expr.regionCallsOf_perm cx mask rest
    rw [Expr.callsUnder, Expr.nodesOf, List.filterMap_append]
    exact he.append hrest

end

/-! ### Reports -/

/-- The sites of a block, each with the mask of the point that a report has for it. -/
def RegionReport.visits (report : RegionReport) (b : Block) : List Visit :=
  List.zipWith (fun site point => ⟨site, point.mask⟩) b.sites report.points

/-- What a report says about its region: every statement once, in the order of the traversal, and with each
statement, under its mask, what it defers or spawns and the region calls that it makes at once. -/
structure RegionReport.Describes (report : RegionReport) (env : Env) (region : Region) : Prop where
  kind : report.kind = region.kind
  function : report.function = region.function
  span : report.span = region.span
  points : report.points.map MaskPoint.span = region.body.stmts.map Stmt.span
  defers : report.defers = (report.visits region.body).filterMap Visit.deferred?
  spawns : report.spawns = (report.visits region.body).filterMap Visit.spawned?
  calls : report.calls.Perm ((report.visits region.body).flatMap fun v =>
    Expr.callsUnder env region.function (.caller v.mask) v.site.stmt.scanned)

/-- The walk visits the sites of a region, in order. -/
theorem Region.map_site_record (r : Region) (cx : WalkContext) :
    (r.record cx).visits.map Visit.site = r.body.sites :=
  Block.map_site_record cx 0 0 1 r.body

/-- The points of a report belong to the visits that it was made of. -/
theorem Region.visits_report (r : Region) (cx : WalkContext) :
    (r.report cx).visits r.body = (r.record cx).visits := by
  have hpoints : (r.report cx).points = (r.record cx).visits.map Visit.point := rfl
  rw [RegionReport.visits, ← r.map_site_record cx, hpoints, List.zipWith_map, List.zipWith_self]
  exact List.map_id _

/-- The report of an accepted region describes it. -/
theorem Region.describes_of_analyze {r : Region} {env : Env} {types : TypeRecord}
    {report : RegionReport} (h : r.analyze env types = .ok report) : report.Describes env r := by
  obtain ⟨-, rfl⟩ := Region.analyze_eq_ok.1 h
  have hvisits := r.visits_report (r.walkContext env types)
  refine ⟨rfl, rfl, rfl, ?_, ?_, ?_, ?_⟩
  · rw [← Block.map_stmt_sites, ← r.map_site_record (r.walkContext env types), List.map_map,
      List.map_map]
    exact List.map_map
  · rw [hvisits]
    rfl
  · rw [hvisits]
    rfl
  · rw [hvisits]
    refine List.Perm.flatMap_left _ fun v _ => ?_
    exact Expr.regionCallsOf_perm (r.walkContext env types) v.mask v.site.stmt.scanned

/-! ### The reports of a function -/

/-- A function that passes, as far as evaluation shows, has a report. -/
theorem Function.exists_report_of_isOk {f : Function} {s : Signature} {env : Env}
    {launchers : List String} (h : (f.analyze s env launchers).1.isOk = true) :
    ∃ report env', f.analyze s env launchers = (.ok report, env') := by
  obtain ⟨report, hreport⟩ := Except.exists_of_isOk h
  exact ⟨report, (f.analyze s env launchers).2, by rw [← hreport]⟩

/-- A function that passes has one report for each region that is written in it, in order. Each report lists
the statements, captured calls and region calls of its region once, and all of them are what a single pass over
the regions gives. -/
theorem Function.reports_list_once {f : Function} {s : Signature} {env env' : Env}
    {launchers : List String} {report : FunctionReport}
    (h : f.analyze s env launchers = (.ok report, env')) :
    List.Forall₂ (fun region r => r.Describes env' region) (f.writtenRegions s.isRegion)
        report.regions ∧
      ∃ types, f.check env = (.ok types, env') ∧
        (f.writtenRegions s.isRegion).mapM (fun region => region.analyzeOnce env' types) =
          .ok report.regions := by
  obtain ⟨types, hcheck, hcontext, hregions, -⟩ := Function.analyze_ok h
  rw [Function.regions_eq_written hcontext] at hregions
  refine ⟨hregions.imp fun _ _ => Region.describes_of_analyze, types, hcheck, ?_⟩
  exact Except.mapM_eq_ok.2 (hregions.imp fun _ _ => Region.analyzeOnce_of_analyze)

section Gather

open Builder

/-- A function whose body is a region. -/
def note : Function :=
  let build : Builder Function := do
    function "note" [← param "x" (← varying "int64")] none [] false
  (build.run 0).1

/-- A function with two regions. The loop of the first taints itself, and is walked twice. -/
def gather : Function :=
  let build : Builder Function := do
    let skip ← ifThen (← binary .lt (← ident "i") (← ident "k")) [← cont]
    let now ← eval (← call "note" [← ident "i"])
    let later ← defer (← call "note" [← ident "i"])
    let rounds ← forIn "k" (← range (← int 0) (← int 4)) [skip, now, later]
    let first ← goFor "i" (← range (← int 0) (← int 8)) [rounds]
    let task ← spawn (← call "note" [← ident "j"])
    let low ← ifThen (← binary .lt (← ident "j") (← int 4)) [task]
    let second ← goFor "j" (← range (← int 0) (← int 8)) [low]
    function "gather" [] none [first, second] false
  (build.run 100).1

/-- The environment in which both functions are declared. -/
def gatherEnv : Env :=
  (Program.declare { constants := [], functions := [note, gather] } .standard).1

/-- The signature of the function: no parameter and no result. -/
def gatherSignature : Signature :=
  { params := [], result := .void, isPublic := false, span := gather.span }

/-- Two reports describe the two regions, and they are those of a single pass, although a loop of the first
region is walked twice. -/
theorem Function.reports_list_once_gather :
    ∃ report env', gather.analyze gatherSignature gatherEnv ["gather"] = (.ok report, env') ∧
      report.regions.length = 2 ∧
      List.Forall₂ (fun region r => r.Describes env' region)
        (gather.writtenRegions gatherSignature.isRegion) report.regions ∧
      ∃ types, gather.check gatherEnv = (.ok types, env') ∧
        (gather.writtenRegions gatherSignature.isRegion).mapM
          (fun region => region.analyzeOnce env' types) = .ok report.regions := by
  have hpasses : (gather.analyze gatherSignature gatherEnv ["gather"]).1.isOk = true := by
    decide +kernel
  obtain ⟨report, env', hanalyze⟩ := Function.exists_report_of_isOk hpasses
  obtain ⟨hdescribes, hpass⟩ := Function.reports_list_once hanalyze
  have htwo : (gather.writtenRegions gatherSignature.isRegion).length = 2 := by decide +kernel
  exact ⟨report, env', hanalyze, hdescribes.length_eq.symm.trans htwo, hdescribes, hpass⟩

end Gather

end Lanewise
