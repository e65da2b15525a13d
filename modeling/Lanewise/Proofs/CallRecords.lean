import Lanewise.Proofs.JointActions
import Lanewise.Proofs.RegionRecords

/-!
# Where region calls are recorded

Code generation has to find every region call of a function that passes, with the mask that the callee starts
with. The statements of a function lie in one of its regions or outside all of them. A region call inside a
region is in the report of that region: among its calls, or among its captured calls if it is deferred or
spawned as a whole (`RegionReport.Accounts`). The list of fresh calls has the region calls of the statements
outside, but for one kind of them: the traversal that makes the list stays out of go-fors altogether, and so it
does not see the range of a go-for, which is evaluated before the region is entered. A call there is in no list
(`Program.region_calls_recorded_iff`).
-/

set_option autoImplicit false

namespace Lanewise

/-! ### Lists of a program and lists of its functions -/

/-- If the entries for each function carry its name, and no name is used twice, the entries under the name of a
function are those for it. -/
theorem filter_flatMap_of_name {α : Type} {fs : List Function} {items : Function → List α}
    {name : α → String} (hnames : (fs.map fun f => f.name.text).Nodup)
    (hitems : ∀ g ∈ fs, ∀ x ∈ items g, name x = g.name.text) {f : Function} (hf : f ∈ fs) :
    (fs.flatMap items).filter (fun x => name x == f.name.text) = items f := by
  induction fs with
  | nil => cases hf
  | cons g rest ih =>
    rw [List.map_cons, List.nodup_cons] at hnames
    rw [List.flatMap_cons, List.filter_append]
    have hrest : ∀ g ∈ rest, ∀ x ∈ items g, name x = g.name.text :=
      fun g hg => hitems g (List.mem_cons_of_mem _ hg)
    rcases List.mem_cons.1 hf with rfl | hf
    · have hhere : (items f).filter (fun x => name x == f.name.text) = items f := by
        rw [List.filter_eq_self]
        intro x hx
        rw [hitems f List.mem_cons_self x hx, beq_self_eq_true]
      have hothers : (rest.flatMap items).filter (fun x => name x == f.name.text) = [] := by
        rw [List.filter_eq_nil_iff]
        intro x hx hname
        obtain ⟨g, hg, hxg⟩ := List.mem_flatMap.1 hx
        rw [hrest g hg x hxg, beq_iff_eq] at hname
        exact hnames.1 (hname ▸ List.mem_map_of_mem hg)
      rw [hhere, hothers, List.append_nil]
    · have hother : (items g).filter (fun x => name x == f.name.text) = [] := by
        rw [List.filter_eq_nil_iff]
        intro x hx hname
        rw [hitems g List.mem_cons_self x hx, beq_iff_eq] at hname
        exact hnames.1 (hname ▸ List.mem_map_of_mem hf)
      rw [hother, List.nil_append]
      exact ih hnames.2 hrest hf

section Outcome

variable {p : Program} {target : Target} {f : Function} {report : FunctionReport}

/-- A region of a function carries the function's name. -/
theorem Function.function_of_regions {s : Signature} {r : Region} (h : r ∈ f.regions s) :
    r.function = f.name.text := by
  unfold Function.regions at h
  split at h
  · rw [List.mem_singleton.1 h]
  · obtain ⟨found, -, rfl⟩ := List.mem_map.1 h
    rfl

/-- A report about a region of a function carries the function's name. -/
theorem Function.function_of_reports {s : Signature} {env : Env} {types : TypeRecord}
    {reports : List RegionReport}
    (h : List.Forall₂ (fun region r => region.analyze env types = .ok r) (f.regions s) reports) :
    ∀ r ∈ reports, r.function = f.name.text := by
  intro r hr
  obtain ⟨i, hi, rfl⟩ := List.getElem_of_mem hr
  have hregion := h.get (h.length_eq ▸ hi) hi
  have hmem := List.get_mem (f.regions s) ⟨i, h.length_eq ▸ hi⟩
  exact (Region.describes_of_analyze hregion).function.trans (Function.function_of_regions hmem)

/-- A fresh call names the function that makes it. -/
theorem Function.caller_of_freshCalls {env : Env} {c : RegionCall} (h : c ∈ f.freshCalls env) :
    c.caller = f.name.text := by
  unfold Function.freshCalls at h
  split at h
  · cases h
  · obtain ⟨node, -, hcall⟩ := List.mem_filterMap.1 h
    unfold Node.freshCall? at hcall
    split at hcall
    · split at hcall
      · cases hcall
        rfl
      · cases hcall
    · cases hcall

/-- The lists of a program under the name of a function are the lists of that function. -/
theorem Program.lists_of_function (target : Target)
    (hnames : (p.functions.map fun f => f.name.text).Nodup) (hf : f ∈ p.functions) :
    (p.analyze target).regionsOf f.name.text =
        FunctionReport.listed FunctionReport.regions (p.outcome target f) ∧
      (p.analyze target).freshCalls.filter (fun c => c.caller == f.name.text) =
        FunctionReport.listed FunctionReport.freshCalls (p.outcome target f) := by
  obtain ⟨hall, hallCalls⟩ := p.lists_analyze target
  have hregions : ∀ g ∈ p.functions,
      ∀ r ∈ FunctionReport.listed FunctionReport.regions (p.outcome target g),
        r.function = g.name.text := by
    intro g _ r hr
    obtain ⟨found, hfound, hr⟩ := FunctionReport.mem_listed hr
    obtain ⟨s, -, hanalyze⟩ := Program.analyze_of_outcome hfound
    obtain ⟨types, -, -, hreports, -⟩ := Function.analyze_ok hanalyze
    exact Function.function_of_reports hreports r hr
  have hcalls : ∀ g ∈ p.functions,
      ∀ c ∈ FunctionReport.listed FunctionReport.freshCalls (p.outcome target g),
        c.caller = g.name.text := by
    intro g _ c hc
    obtain ⟨found, hfound, hc⟩ := FunctionReport.mem_listed hc
    obtain ⟨s, -, hanalyze⟩ := Program.analyze_of_outcome hfound
    obtain ⟨types, -, -, -, hfresh⟩ := Function.analyze_ok hanalyze
    rw [hfresh] at hc
    exact Function.caller_of_freshCalls hc
  constructor
  · rw [Analysis.regionsOf, hall, filter_flatMap_of_name hnames hregions hf]
  · rw [hallCalls, filter_flatMap_of_name hnames hcalls hf]

/-- The lists under the name of a function that passes are those of its own report. -/
theorem Program.lists_of_outcome (hnames : (p.functions.map fun f => f.name.text).Nodup)
    (hf : f ∈ p.functions) (h : p.outcome target f = some (.ok report)) :
    (p.analyze target).regionsOf f.name.text = report.regions ∧
      (p.analyze target).freshCalls.filter (fun c => c.caller == f.name.text) =
        report.freshCalls := by
  have hlists := p.lists_of_function target hnames hf
  rw [h] at hlists
  exact hlists

/-- The body of a declared function is a region by its signature if a parameter is written as varying. -/
theorem Program.isRegionFunction_declare (hnames : (p.functions.map fun f => f.name.text).Nodup)
    (hf : f ∈ p.functions) {s : Signature}
    (hs : (p.declare target).1.functions.find? f.name.text = some s) :
    s.isRegion = f.hasVaryingParam ∧
      (p.declare target).1.isRegionFunction f.name.text = f.hasVaryingParam := by
  obtain ⟨before, hsignature⟩ := exists_signature_of_find? hnames hf rfl hs
  have hregion := Function.isRegion_of_signature hsignature
  refine ⟨hregion, ?_⟩
  rw [Env.isRegionFunction, hs]
  exact hregion

end Outcome

/-! ### Statements inside and outside of regions -/

/-- The sites of a function that lie in none of its regions. -/
def Function.outside (f : Function) : List Site :=
  if f.hasVaryingParam then [] else f.body.sites.filter (!·.inGoFor)

/-- The statements of a block lie in no go-for, or in the body of one of its outermost ones. -/
theorem Block.stmts_perm_outside (b : Block) :
    b.stmts.Perm ((b.sites.filter (!·.inGoFor)).map Site.stmt ++
      b.goFors.flatMap fun found => found.2.stmts) := by
  refine Block.of_blocks
    (P := fun b => ∀ k, b.stmts.Perm (((b.sitesFrom k).filter (!·.inGoFor)).map Site.stmt ++
      b.goFors.flatMap fun found => found.2.stmts))
    (Q := fun s => ∀ k, (s :: s.blocks.flatMap fun entry => entry.2.stmts).Perm
      (((s.sites k).filter (!·.inGoFor)).map Site.stmt ++
        s.goFors.flatMap fun found => found.2.stmts)) ?_ ?_ ?_ b 0
  · intro span k
    exact .nil
  · intro s rest hs hrest k
    rw [Block.stmts_cons, Block.sitesFrom, Block.goFors, List.filter_append, List.map_append,
      List.flatMap_append]
    refine ((hs k).append (hrest (k + 1))).trans ?_
    rw [List.append_assoc, List.append_assoc]
    exact .append_left _ (List.perm_append_comm_assoc ..)
  · intro s hblocks k
    rw [Stmt.filter_inGoFor_sites, Stmt.goFors_eq]
    cases hgoFor : (Node.stmt s).isGoFor with
    | true =>
      cases s with
      | goFor span var range lanes body => simp [Stmt.blocks, Stmt.goFor?]
      | _ => cases hgoFor
    | false =>
      have hnone : s.goFor? = none := by
        rw [← Option.isNone_iff_eq_none, ← Option.not_isSome, Stmt.isSome_goFor?, hgoFor]
        rfl
      rw [hnone, if_neg (by decide), if_neg (by decide), List.map_cons, List.map_flatMap,
        List.cons_append, Option.toList_none, List.nil_append, List.flatMap_assoc]
      refine .cons s (.trans ?_ (List.flatMap_append_perm ..).symm)
      refine .flatMap_left _ fun entry hentry => ?_
      rw [List.map_map]
      exact hblocks entry.1 entry.2 hentry 0

/-! ### Region calls outside of go-fors -/

/-- A traversal that stays out of go-fors meets all of a type. -/
theorem TypeExpr.nodes_outside (t : TypeExpr) :
    (t.nodes fun node => !node.isGoFor) = t.nodes fun _ => true := by
  induction t with
  | named => rfl
  | varying _ elem _ ih => exact congrArg _ ih
  | chan _ elem ih => exact congrArg _ ih

mutual

/-- A traversal that stays out of go-fors meets all of an expression. -/
theorem Expr.nodes_outside (e : Expr) :
    (e.nodes fun node => !node.isGoFor) = e.nodes fun _ => true := by
  match e with
  | .int .. | .float .. | .bool .. | .ident .. => rfl
  | .unary _ _ operand | .recv _ operand => exact congrArg _ (Expr.nodes_outside operand)
  | .cast _ operand target =>
    have hoperand := Expr.nodes_outside operand
    have htarget := TypeExpr.nodes_outside target
    exact congrArg _ (congrArg₂ _ hoperand htarget)
  | .binary _ _ left right | .range _ left right =>
    have hleft := Expr.nodes_outside left
    have hright := Expr.nodes_outside right
    exact congrArg _ (congrArg₂ _ hleft hright)
  | .call _ _ args => exact congrArg _ (Expr.nodesOf_outside args)

/-- A traversal that stays out of go-fors meets all of several expressions. -/
theorem Expr.nodesOf_outside (es : List Expr) :
    Expr.nodesOf (fun node => !node.isGoFor) es = Expr.nodesOf (fun _ => true) es := by
  match es with
  | [] => rfl
  | e :: rest => rw [Expr.nodesOf, Expr.nodesOf, Expr.nodes_outside e, Expr.nodesOf_outside rest]

end

/-- The nodes of two lists of expressions come one list after the other. -/
theorem Expr.nodesOf_append (into : Node → Bool) (es es' : List Expr) :
    Expr.nodesOf into (es ++ es') = Expr.nodesOf into es ++ Expr.nodesOf into es' := by
  induction es with
  | nil => rfl
  | cons e rest ih => rw [List.cons_append, Expr.nodesOf, Expr.nodesOf, ih, List.append_assoc]

section Calls

variable (env : Env) (caller : String) (mask : CalleeMask)

/-- The region calls that a traversal of a block meets if it stays out of go-fors. -/
def Block.callsMet (b : Block) : List RegionCall :=
  (b.inside fun node => !node.isGoFor).filterMap (Node.regionCall? env caller mask)

/-- The region calls of two lists of expressions come one list after the other. -/
theorem Expr.callsUnder_append (es es' : List Expr) :
    Expr.callsUnder env caller mask (es ++ es') =
      Expr.callsUnder env caller mask es ++ Expr.callsUnder env caller mask es' := by
  rw [Expr.callsUnder, Expr.nodesOf_append, List.filterMap_append]
  rfl

/-- The calls that are met in an expression are the region calls of that expression. -/
theorem Expr.filterMap_nodes_outside (e : Expr) :
    (e.nodes fun node => !node.isGoFor).filterMap (Node.regionCall? env caller mask) =
      Expr.callsUnder env caller mask [e] := by
  rw [Expr.nodes_outside, Expr.callsUnder, Expr.nodesOf, Expr.nodesOf, List.append_nil]

/-- A block is entered, and no call is the block itself. -/
theorem Block.filterMap_enter (b : Block) :
    (Node.enter (fun node => !node.isGoFor) (.block b)
        (b.inside fun node => !node.isGoFor)).filterMap (Node.regionCall? env caller mask) =
      b.callsMet env caller mask := rfl

/-- A statement is entered unless it is a go-for. -/
theorem Stmt.filterMap_enter (s : Stmt) (inside : List Node) :
    (Node.enter (fun node => !node.isGoFor) (.stmt s) inside).filterMap
        (Node.regionCall? env caller mask) =
      if (Node.stmt s).isGoFor then [] else inside.filterMap (Node.regionCall? env caller mask) := by
  rw [Node.enter, List.filterMap_cons_none rfl]
  cases (Node.stmt s).isGoFor <;> rfl

/-- The values of a switch are met between its arms, so the calls in them come in another order. -/
theorem Arms.callsMet_perm : ∀ (arms : Arms) (k : Nat),
    ((arms.nodes fun node => !node.isGoFor).filterMap (Node.regionCall? env caller mask)).Perm
      (Expr.callsUnder env caller mask arms.values ++
        (arms.blocks k).flatMap fun entry => entry.2.callsMet env caller mask)
  | .nil, _ => .nil
  | .default body, k => by
    rw [Arms.nodes, Block.filterMap_enter, Arms.values, Arms.blocks, List.flatMap_singleton]
    exact .refl _
  | .case values body rest, k => by
    have hrest := Arms.callsMet_perm rest (k + 1)
    rw [Arms.nodes, List.filterMap_append, List.filterMap_append, Block.filterMap_enter,
      Expr.nodesOf_outside, Arms.values, Arms.blocks, List.flatMap_cons, Expr.callsUnder_append,
      List.append_assoc, List.append_assoc]
    exact .append_left _ ((hrest.append_left _).trans (List.perm_append_comm_assoc ..))

/-- The calls that are met in the arms of a type switch are those of their bodies, in order. -/
theorem LaneArms.callsMet_eq : ∀ (arms : LaneArms) (k : Nat),
    (arms.nodes fun node => !node.isGoFor).filterMap (Node.regionCall? env caller mask) =
      (arms.blocks k).flatMap fun entry => entry.2.callsMet env caller mask
  | .nil, _ => rfl
  | .default body, k => by
    rw [LaneArms.nodes, Block.filterMap_enter, LaneArms.blocks, List.flatMap_singleton]
  | .case _ body rest, k => by
    have hrest := LaneArms.callsMet_eq rest (k + 1)
    rw [LaneArms.nodes, List.filterMap_append, Block.filterMap_enter, LaneArms.blocks,
      List.flatMap_cons, hrest]

/-- No call is met in a type. -/
theorem TypeExpr.filterMap_nodesOf_outside (t : Option TypeExpr) :
    (TypeExpr.nodesOf (fun node => !node.isGoFor) t).filterMap (Node.regionCall? env caller mask) =
      [] := by
  cases t with
  | none => rfl
  | some t =>
    rw [TypeExpr.nodesOf, TypeExpr.nodes_outside]
    exact TypeExpr.filterMap_regionCall?_nodes env caller mask t

/-- The calls that are met in a statement are those of its expressions and those that are met in its blocks,
and none if it is a go-for. -/
theorem Stmt.callsMet_perm (s : Stmt) :
    ((s.nodes fun node => !node.isGoFor).filterMap (Node.regionCall? env caller mask)).Perm
      (if (Node.stmt s).isGoFor then []
      else Expr.callsUnder env caller mask s.exprs ++
        s.blocks.flatMap fun entry => entry.2.callsMet env caller mask) := by
  cases s with
  | goFor => exact .nil
  | switch _ scrutinee arms =>
    have harms := Arms.callsMet_perm env caller mask arms 0
    rw [Stmt.nodes, Stmt.filterMap_enter, List.filterMap_append, Expr.filterMap_nodes_outside]
    show (Expr.callsUnder env caller mask [scrutinee] ++ _).Perm
      (Expr.callsUnder env caller mask ([scrutinee] ++ arms.values) ++ _)
    rw [Expr.callsUnder_append, List.append_assoc]
    exact .append_left _ harms
  | typeSwitch _ _ scrutinee arms =>
    rw [Stmt.nodes, Stmt.filterMap_enter, List.filterMap_append, Expr.filterMap_nodes_outside,
      LaneArms.callsMet_eq env caller mask arms 0]
    exact .refl _
  | send _ chan value =>
    rw [Stmt.nodes, Stmt.filterMap_enter, List.filterMap_append, Expr.filterMap_nodes_outside,
      Expr.filterMap_nodes_outside, ← Expr.callsUnder_append]
    exact .of_eq (List.append_nil _).symm
  | ret _ value =>
    cases value with
    | none => exact .nil
    | some value =>
      rw [Stmt.nodes, Stmt.filterMap_enter, Expr.filterMap_nodes_outside]
      exact .of_eq (List.append_nil _).symm
  | _ =>
    simp only [Stmt.nodes, Stmt.filterMap_enter, List.filterMap_append, Expr.filterMap_nodes_outside,
      Block.filterMap_enter, TypeExpr.filterMap_nodesOf_outside, Stmt.exprs, Stmt.blocks,
      List.flatMap_cons, List.flatMap_nil, List.append_nil, List.nil_append, List.append_assoc]
    exact .refl _

/-- The calls that are met in a block are those of its statements outside of go-fors that are no go-fors
themselves. -/
theorem Block.callsMet_perm (b : Block) :
    (b.callsMet env caller mask).Perm
      (((b.sites.filter (!·.inGoFor)).filter fun p => !(Node.stmt p.stmt).isGoFor).flatMap fun p =>
        Expr.callsUnder env caller mask p.stmt.exprs) := by
  refine Block.of_blocks
    (P := fun b => ∀ k, (b.callsMet env caller mask).Perm
      ((((b.sitesFrom k).filter (!·.inGoFor)).filter fun p => !(Node.stmt p.stmt).isGoFor).flatMap
        fun p => Expr.callsUnder env caller mask p.stmt.exprs))
    (Q := fun s => ∀ k,
      ((s.nodes fun node => !node.isGoFor).filterMap (Node.regionCall? env caller mask)).Perm
        ((((s.sites k).filter (!·.inGoFor)).filter fun p => !(Node.stmt p.stmt).isGoFor).flatMap
          fun p => Expr.callsUnder env caller mask p.stmt.exprs)) ?_ ?_ ?_ b 0
  · intro span k
    exact .nil
  · intro s rest hs hrest k
    rw [Block.callsMet, Block.inside, List.filterMap_append, Block.sitesFrom, List.filter_append,
      List.filter_append, List.flatMap_append]
    exact (hs k).append (hrest (k + 1))
  · intro s hblocks k
    refine (Stmt.callsMet_perm env caller mask s).trans ?_
    rw [Stmt.filter_inGoFor_sites]
    cases hgoFor : (Node.stmt s).isGoFor with
    | true => simp [hgoFor]
    | false =>
      rw [if_neg (by decide), if_neg (by decide), List.filter_cons_of_pos (by simp [hgoFor]),
        List.flatMap_cons, List.filter_flatMap, List.flatMap_assoc]
      refine .append_left _ (.flatMap_left _ fun entry hentry => ?_)
      rw [List.filter_map, List.flatMap_map]
      exact hblocks entry.1 entry.2 hentry 0

end Calls

/-- The region calls of a statement outside every region. -/
def Site.freshCalls (env : Env) (caller : String) (p : Site) : List RegionCall :=
  Expr.callsUnder env caller .fresh p.stmt.exprs

section Fresh

variable {f : Function} {env : Env}

/-- The fresh calls of a function are those of its statements outside every region, go-fors left out. -/
theorem Function.freshCalls_perm (hregion : env.isRegionFunction f.name.text = f.hasVaryingParam) :
    (f.freshCalls env).Perm ((f.outside.filter fun p => !(Node.stmt p.stmt).isGoFor).flatMap
      (Site.freshCalls env f.name.text)) := by
  rw [Function.freshCalls, Function.outside, hregion]
  cases f.hasVaryingParam with
  | true => exact .nil
  | false => exact Block.callsMet_perm env f.name.text .fresh f.body

/-- The fresh calls of a function are all region calls outside of regions exactly if no range of a go-for has
one. -/
theorem Function.freshCalls_perm_outside_iff
    (hregion : env.isRegionFunction f.name.text = f.hasVaryingParam) :
    (f.freshCalls env).Perm (f.outside.flatMap (Site.freshCalls env f.name.text)) ↔
      ∀ p ∈ f.outside, (Node.stmt p.stmt).isGoFor = true → p.freshCalls env f.name.text = [] := by
  have hsplit : (f.outside.flatMap (Site.freshCalls env f.name.text)).Perm
      (f.freshCalls env ++ (f.outside.filter fun p => (Node.stmt p.stmt).isGoFor).flatMap
        (Site.freshCalls env f.name.text)) := by
    have hparts := (List.filter_append_perm (fun p : Site => (Node.stmt p.stmt).isGoFor) f.outside).symm
    refine (hparts.flatMap_right _).trans ?_
    rw [List.flatMap_append]
    exact List.perm_append_comm.trans ((Function.freshCalls_perm hregion).symm.append_right _)
  have hnil : (f.outside.filter fun p => (Node.stmt p.stmt).isGoFor).flatMap
        (Site.freshCalls env f.name.text) = [] ↔
      ∀ p ∈ f.outside, (Node.stmt p.stmt).isGoFor = true → p.freshCalls env f.name.text = [] := by
    simp only [List.flatMap_eq_nil_iff, List.mem_filter, and_imp]
  rw [← hnil]
  constructor
  · intro hall
    have hlength := (hall.trans hsplit).length_eq
    rw [List.length_append] at hlength
    exact List.eq_nil_of_length_eq_zero (by omega)
  · intro hnone
    rw [hnone, List.append_nil] at hsplit
    exact hsplit.symm

end Fresh

/-! ### Region calls inside of regions -/

/-- The region call that a statement defers or spawns, if it does. -/
def Visit.taken? (env : Env) (caller : String) (v : Visit) : Option RegionCall :=
  match v.site.stmt with
  | .defer _ call => (Node.expr call).regionCall? env caller (.caller v.mask)
  | .spawn _ call => (Node.expr call).regionCall? env caller (.caller v.mask)
  | _ => none

/-- How a report accounts for the region calls of its region, all of them under the masks of their statements:
a call is listed as such, unless it is deferred or spawned, and then it is a captured call. -/
structure RegionReport.Accounts (report : RegionReport) (env : Env) (region : Region) : Prop where
  describes : report.Describes env region
  split : ((report.visits region.body).flatMap fun v =>
      Expr.callsUnder env region.function (.caller v.mask) v.site.stmt.exprs).Perm
    (report.calls ++ (report.visits region.body).filterMap (Visit.taken? env region.function))
  captured : (((report.visits region.body).filterMap (Visit.taken? env region.function)).map fun c =>
      (c.callee, c.mask)).Perm
    (((report.defers ++ report.spawns).filter fun c => env.isRegionFunction c.callee).map fun c =>
      (c.callee, CalleeMask.caller c.mask))

section Visits

variable {env : Env} {caller : String} {v : Visit}

/-- The region calls of a statement that takes a call are those that its scan lists and the one that it
takes. -/
theorem Visit.calls_perm_scanned (h : v.site.stmt.takesCall = true) :
    (Expr.callsUnder env caller (.caller v.mask) v.site.stmt.exprs).Perm
      (Expr.callsUnder env caller (.caller v.mask) v.site.stmt.scanned ++
        (v.taken? env caller).toList) := by
  obtain ⟨⟨path, index, s⟩, mask⟩ := v
  cases s with
  | defer _ call | spawn _ call =>
    cases call with
    | call span callee args =>
      show (Expr.callsUnder env caller (.caller mask) [.call span callee args]).Perm
        (Expr.callsUnder env caller (.caller mask) args ++
          ((Node.expr (.call span callee args)).regionCall? env caller (.caller mask)).toList)
      rw [Expr.callsUnder, Expr.nodesOf, Expr.nodesOf, List.append_nil, Expr.nodes, Node.enter,
        if_pos rfl, List.filterMap_cons, ← Expr.callsUnder]
      cases (Node.expr (.call span callee args)).regionCall? env caller (.caller mask) with
      | none => exact .of_eq (List.append_nil _).symm
      | some c => exact (List.perm_append_singleton c _).symm
    | _ => cases h
  | _ => exact .of_eq (List.append_nil _).symm

/-- The call that a statement takes is the one that the visit captures, with the mask of the visit. -/
theorem Visit.taken?_eq_captured (h : v.site.stmt.takesCall = true) :
    (v.taken? env caller).toList.map (fun c => (c.callee, c.mask)) =
      ((v.deferred?.toList ++ v.spawned?.toList).filter fun c => env.isRegionFunction c.callee).map
        fun c => (c.callee, CalleeMask.caller c.mask) := by
  obtain ⟨⟨path, index, s⟩, mask⟩ := v
  cases s with
  | defer _ call | spawn _ call =>
    cases call with
    | call span callee args =>
      cases hregion : env.isRegionFunction callee.text <;>
        simp [Visit.taken?, Visit.deferred?, Visit.spawned?, Node.regionCall?, Node.callee?,
          Expr.callee?, hregion]
    | _ => cases h
  | _ => rfl

end Visits

/-- The report of an accepted region accounts for its region calls, if what it defers and spawns are calls. -/
theorem Region.accounts_of_analyze {r : Region} {env : Env} {types : TypeRecord}
    {report : RegionReport} (h : r.analyze env types = .ok report)
    (htakes : ∀ p ∈ r.body.sites, p.stmt.takesCall = true) : report.Accounts env r := by
  have hdescribes := Region.describes_of_analyze h
  have hvisit : ∀ v ∈ report.visits r.body, v.site.stmt.takesCall = true := by
    intro v hv
    obtain ⟨-, rfl⟩ := Region.analyze_eq_ok.1 h
    rw [r.visits_report] at hv
    apply htakes
    rw [← r.map_site_record (r.walkContext env types)]
    exact List.mem_map_of_mem hv
  refine ⟨hdescribes, ?_, ?_⟩
  · have hscanned := List.Perm.flatMap_left (report.visits r.body) fun v hv =>
      @Visit.calls_perm_scanned env r.function v (hvisit v hv)
    refine hscanned.trans ((List.flatMap_append_perm ..).symm.trans ?_)
    rw [List.filterMap_eq_flatMap_toList]
    exact hdescribes.calls.symm.append_right _
  · have hlists : (report.defers ++ report.spawns).Perm
        ((report.visits r.body).flatMap fun v => v.deferred?.toList ++ v.spawned?.toList) := by
      rw [hdescribes.defers, hdescribes.spawns, List.filterMap_eq_flatMap_toList,
        List.filterMap_eq_flatMap_toList]
      exact List.flatMap_append_perm ..
    have hcaptured := ((hlists.filter fun c => env.isRegionFunction c.callee).map fun c =>
      (c.callee, CalleeMask.caller c.mask)).symm
    rw [List.filter_flatMap, List.map_flatMap] at hcaptured
    rw [List.filterMap_eq_flatMap_toList, List.map_flatMap]
    refine .trans (.of_eq (List.flatMap_congr fun v hv => ?_)) hcaptured
    exact Visit.taken?_eq_captured (hvisit v hv)

/-! ### All region calls of a function -/

/-- Whether the lists of a function have each of its region calls once: inside a region in the report of that
region, and outside every region among the fresh calls. -/
structure FunctionReport.RecordsCalls (report : FunctionReport) (env : Env) (f : Function) : Prop where
  inside : List.Forall₂ (fun region r => r.Accounts env region)
    (f.writtenRegions f.hasVaryingParam) report.regions
  outside : report.freshCalls.Perm (f.outside.flatMap (Site.freshCalls env f.name.text))

/-- Every statement of a function lies outside its regions or in exactly one of them. -/
theorem Function.stmts_perm_regions {f : Function} {s : Signature}
    (hregion : s.isRegion = f.hasVaryingParam) :
    f.body.stmts.Perm (f.outside.map Site.stmt ++ (f.regions s).flatMap fun r => r.body.stmts) := by
  rw [Function.outside, Function.regions, hregion]
  cases f.hasVaryingParam with
  | true => simp
  | false =>
    rw [if_neg (by decide), if_neg (by decide), List.flatMap_map]
    exact f.body.stmts_perm_outside

/-- In a function of a program that passes, every statement lies in one region or outside all of them, and
every region call inside a region is in its report. Outside, the fresh calls are the region calls of all
statements but the go-fors. So nothing is missing exactly if no range of a go-for has a region call. -/
theorem Program.region_calls_recorded_iff {p : Program} {target : Target} {f : Function}
    {report : FunctionReport} (hnames : (p.functions.map fun f => f.name.text).Nodup)
    (hf : f ∈ p.functions) (h : p.outcome target f = some (.ok report)) :
    (∀ g ∈ p.functions, ((p.declare target).1.functions.find? g.name.text).isSome = true →
        (p.declare target).1.isRegionFunction g.name.text = g.hasVaryingParam) ∧
      (p.analyze target).regionsOf f.name.text = report.regions ∧
      (p.analyze target).freshCalls.filter (fun c => c.caller == f.name.text) = report.freshCalls ∧
      f.body.stmts.Perm (f.outside.map Site.stmt ++
        (f.writtenRegions f.hasVaryingParam).flatMap fun region => region.body.stmts) ∧
      List.Forall₂ (fun region r => r.Accounts (p.declare target).1 region)
        (f.writtenRegions f.hasVaryingParam) report.regions ∧
      report.freshCalls.Perm ((f.outside.filter fun q => !(Node.stmt q.stmt).isGoFor).flatMap
        (Site.freshCalls (p.declare target).1 f.name.text)) ∧
      (report.RecordsCalls (p.declare target).1 f ↔
        ∀ q ∈ f.outside, (Node.stmt q.stmt).isGoFor = true →
          q.freshCalls (p.declare target).1 f.name.text = []) := by
  obtain ⟨s, hs, hanalyze⟩ := Program.analyze_of_outcome h
  obtain ⟨types, hcheck, hcontext, hreports, hfresh⟩ := Function.analyze_ok hanalyze
  obtain ⟨hsignature, hregion⟩ := Program.isRegionFunction_declare hnames hf hs
  obtain ⟨hregions, hcalls⟩ := Program.lists_of_outcome hnames hf h
  have hwritten : f.regions s = f.writtenRegions f.hasVaryingParam := by
    rw [Function.regions_eq_written hcontext, hsignature]
  have haccounts : List.Forall₂ (fun region r => r.Accounts (p.declare target).1 region)
      (f.writtenRegions f.hasVaryingParam) report.regions := by
    rw [← hwritten]
    have hmembers := (List.forall₂_and_left _ _).2 ⟨fun _ hr => hr, hreports⟩
    refine hmembers.imp fun region r ⟨hr, hanalyzed⟩ => ?_
    exact Region.accounts_of_analyze hanalyzed fun _ hp => f.takesCall_of_check hcheck hr hp
  refine ⟨?_, hregions, hcalls, ?_, haccounts, ?_, ?_⟩
  · intro g hg hdeclared
    obtain ⟨s', hs'⟩ := Option.isSome_iff_exists.1 hdeclared
    exact (Program.isRegionFunction_declare hnames hg hs').2
  · rw [← hwritten]
    exact Function.stmts_perm_regions hsignature
  · rw [hfresh]
    exact Function.freshCalls_perm hregion
  · rw [← Function.freshCalls_perm_outside_iff hregion, ← hfresh]
    exact ⟨fun hrecords => hrecords.outside, fun houtside => ⟨haccounts, houtside⟩⟩

section Survey

open Builder

/-- A function that calls one whose body is a region, outside and inside of a region, and defers such a
call. -/
def survey : Function :=
  let build : Builder Function := do
    let first ← eval (← call "note" [← int 3])
    let now ← eval (← call "note" [← ident "i"])
    let later ← defer (← call "note" [← ident "i"])
    let region ← goFor "i" (← range (← int 0) (← int 8)) [now, later]
    function "survey" [] none [first, region] false
  (build.run 100).1

/-- The program of the two functions. -/
def surveyor : Program :=
  { constants := [], functions := [note, survey] }

/-- No range of the function has a region call, so all of its calls are recorded: the one before the region as
a fresh call, those inside in the report of the region. -/
theorem Program.region_calls_recorded_iff_survey :
    (surveyor.functions.map fun f => f.name.text).Nodup ∧ survey ∈ surveyor.functions ∧
      ∃ report, surveyor.outcome .standard survey = some (.ok report) ∧
        survey.outside.length = 2 ∧
        report.RecordsCalls (surveyor.declare .standard).1 survey := by
  have hnames : (surveyor.functions.map fun f => f.name.text).Nodup := by decide +kernel
  have hsurvey : survey ∈ surveyor.functions := .tail _ (.head _)
  have haccepted : (surveyor.outcome .standard survey).any Except.isOk = true := by decide +kernel
  obtain ⟨outcome, houtcome, hok⟩ := (Option.any_eq_true _ _).1 haccepted
  obtain ⟨report, rfl⟩ := Except.exists_of_isOk hok
  have hranges : ∀ q ∈ survey.outside, (Node.stmt q.stmt).isGoFor = true →
      q.freshCalls (surveyor.declare .standard).1 survey.name.text = [] := by decide +kernel
  have htwo : survey.outside.length = 2 := by decide +kernel
  obtain ⟨-, -, -, -, -, -, hrecords⟩ := Program.region_calls_recorded_iff hnames hsurvey houtcome
  exact ⟨hnames, hsurvey, report, houtcome, htwo, hrecords.2 hranges⟩

/-- A function whose body is a region, and that returns a number. -/
def pick : Function :=
  let build : Builder Function := do
    let result ← named "int64"
    function "pick" [← param "x" (← varying "int64")] (some result) [← ret (some (← int 4))] false
  (build.run 0).1

/-- A function that calls it in the range of a go-for. -/
def fill : Function :=
  let build : Builder Function := do
    let region ← goFor "i" (← range (← int 0) (← call "pick" [← int 3])) []
    function "fill" [] none [region] false
  (build.run 100).1

/-- The program of the two functions. -/
def filler : Program :=
  { constants := [], functions := [pick, fill] }

/-- The call in the range lies outside every region, and no list has it. -/
theorem Program.region_calls_recorded_fill :
    (filler.functions.map fun f => f.name.text).Nodup ∧ fill ∈ filler.functions ∧
      ∃ report, filler.outcome .standard fill = some (.ok report) ∧
        (fill.outside.flatMap
          (Site.freshCalls (filler.declare .standard).1 fill.name.text)).length = 1 ∧
        report.freshCalls = [] ∧
        (∀ r ∈ report.regions, r.calls = [] ∧ r.defers = [] ∧ r.spawns = []) ∧
        ¬ report.RecordsCalls (filler.declare .standard).1 fill := by
  have haccepted : (filler.outcome .standard fill).any (fun outcome => outcome.toOption.any
      fun report => report.freshCalls = [] ∧
        ∀ r ∈ report.regions, r.calls = [] ∧ r.defers = [] ∧ r.spawns = []) = true := by
    decide +kernel
  have hone : (fill.outside.flatMap
      (Site.freshCalls (filler.declare .standard).1 fill.name.text)).length = 1 := by decide +kernel
  obtain ⟨outcome, houtcome, hreport⟩ := (Option.any_eq_true _ _).1 haccepted
  cases outcome with
  | error issue => cases hreport
  | ok report =>
    obtain ⟨hfresh, hregions⟩ := of_decide_eq_true hreport
    refine ⟨by decide +kernel, .tail _ (.head _), report, houtcome, hone, hfresh, hregions, ?_⟩
    intro hrecords
    have hlength := hrecords.outside.length_eq
    rw [hfresh, hone] at hlength
    cases hlength

end Survey

end Lanewise
