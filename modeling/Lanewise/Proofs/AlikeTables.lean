import Lanewise.Proofs.Contexts
import Lanewise.Proofs.Declarations
import Lanewise.Proofs.PairedRuns
import Mathlib.Data.List.Find

/-!
# What the passes see of a table

The passes over a function look names up in the tables of the environment, and never ask in which order a table
was filled. After the types of the body are known, all that they ask of the environment is which functions are
regions, and of the launchers, they only ask about the names that the function calls. So the outcome of all passes
is the same in two environments as soon as that of the first one is (`Function.outcome_paired`); in particular it is
the same if the tables answer every look-up alike (`Function.outcome_alike`).
-/

set_option autoImplicit false

namespace Lanewise

/-! ### The walk over a region -/

/-- The scans of several expressions agree if those of each of them do, whatever was altered before. -/
theorem Expr.scanEach_congr {cx cx' : WalkContext} {flow : Flow} {state : Alteration} {es : List Expr}
    (h : ∀ e ∈ es, e.scan cx flow state = e.scan cx' flow state) :
    Expr.scanEach cx flow state es = Expr.scanEach cx' flow state es := by
  induction es with
  | nil => rfl
  | cons e rest ih =>
    rw [List.forall_mem_cons] at h
    rw [Expr.scanEach, Expr.scanEach, h.1, ih h.2]

section Walk

variable {cx : WalkContext} {env' : Env}
  (h : ∀ name, env'.isRegionFunction name = cx.env.isRegionFunction name)

include h

/-- The scan of an expression asks the environment only which functions are region functions. -/
theorem Expr.scan_alike (flow : Flow) (state : Alteration) (e : Expr) :
    Expr.scan { cx with env := env' } flow state e = Expr.scan cx flow state e := by
  refine Expr.of_children
    (P := fun e => Expr.scan { cx with env := env' } flow state e = Expr.scan cx flow state e) ?_ e
  intro e hchildren
  cases e with
  | int | float | bool | ident => rfl
  | unary _ _ operand => exact hchildren operand List.mem_cons_self
  | cast _ operand _ => exact hchildren operand List.mem_cons_self
  | binary _ _ left right | range _ left right =>
    rw [Expr.scan, Expr.scan, hchildren left List.mem_cons_self,
      hchildren right (List.mem_cons_of_mem _ List.mem_cons_self)]
  | recv _ chan => rw [Expr.scan, Expr.scan, hchildren chan List.mem_cons_self]
  | call span callee args =>
    have hargs : Expr.scanEach { cx with env := env' } flow state args = Expr.scanEach cx flow state args :=
      Expr.scanEach_congr hchildren
    rw [Expr.scan, Expr.scan, hargs, h]

/-- The scan of several expressions asks the environment only which functions are region functions. -/
theorem Expr.scanEach_alike (flow : Flow) (state : Alteration) (es : List Expr) :
    Expr.scanEach { cx with env := env' } flow state es = Expr.scanEach cx flow state es :=
  Expr.scanEach_congr fun e _ => Expr.scan_alike h flow state e

/-- The scan of a call's arguments asks the environment only which functions are region functions. -/
theorem Expr.scanArgs_alike (flow : Flow) (state : Alteration) (e : Expr) :
    Expr.scanArgs { cx with env := env' } flow state e = Expr.scanArgs cx flow state e := by
  cases e with
  | call span callee args => exact Expr.scanEach_alike h flow state args
  | _ => rfl

omit h

mutual

/-- The walk over a statement asks the environment only which functions are region functions. -/
theorem Stmt.walk_alike (h : ∀ name, env'.isRegionFunction name = cx.env.isRegionFunction name)
    (s : Stmt) : Stmt.walk { cx with env := env' } s = Stmt.walk cx s := by
  funext flow state
  match s with
  | .declare _ _ _ value | .assign _ _ value | .panic _ value | .eval _ value =>
    simp only [Stmt.walk, Expr.scan_alike h]
  | .ifThen _ cond thenArm =>
    simp only [Stmt.walk, Expr.scan_alike h, Block.walk_alike h thenArm]
    rfl
  | .ifElse _ cond thenArm elseArm =>
    simp only [Stmt.walk, Expr.scan_alike h, Block.walk_alike h thenArm, Block.walk_alike h elseArm]
    rfl
  | .switch _ scrutinee arms =>
    simp only [Stmt.walk, Expr.scan_alike h, Expr.scanEach_alike h, Arms.walk_alike h arms]
    rfl
  | .typeSwitch _ _ scrutinee arms =>
    simp only [Stmt.walk, Expr.scan_alike h, LaneArms.walk_alike h arms]
  | .forIn _ _ iterable body => simp only [Stmt.walk, Expr.scan_alike h, Block.walk_alike h body]
  | .whileLoop _ cond body =>
    simp only [Stmt.walk, Expr.scan_alike h, Block.walk_alike h body]
    rfl
  | .goFor _ _ range _ body => simp only [Stmt.walk, Expr.scan_alike h, Block.walk_alike h body]
  | .ret _ none | .brk _ | .cont _ => rfl
  | .ret _ (some value) => simp only [Stmt.walk, Expr.scan_alike h]
  | .defer _ call | .spawn _ call => simp only [Stmt.walk, Expr.scanArgs_alike h]
  | .send _ chan value => simp only [Stmt.walk, Expr.scan_alike h]

/-- The walk over a block asks the environment only which functions are region functions. -/
theorem Block.walk_alike (h : ∀ name, env'.isRegionFunction name = cx.env.isRegionFunction name)
    (b : Block) : Block.walk { cx with env := env' } b = Block.walk cx b := by
  funext flow state
  match b with
  | .nil _ => rfl
  | .cons first rest => simp only [Block.walk, Stmt.walk_alike h first, Block.walk_alike h rest]

/-- The walk over a switch's arms asks the environment only which functions are region functions. -/
theorem Arms.walk_alike (h : ∀ name, env'.isRegionFunction name = cx.env.isRegionFunction name)
    (arms : Arms) : Arms.walk { cx with env := env' } arms = Arms.walk cx arms := by
  funext scrutinee isVarying index flow state
  match arms with
  | .nil => rfl
  | .default body => simp only [Arms.walk, Block.walk_alike h body]
  | .case _ body rest => simp only [Arms.walk, Block.walk_alike h body, Arms.walk_alike h rest]

/-- The walk over a type switch's arms asks the environment only which functions are region functions. -/
theorem LaneArms.walk_alike (h : ∀ name, env'.isRegionFunction name = cx.env.isRegionFunction name)
    (arms : LaneArms) :
    LaneArms.walk { cx with env := env' } arms = LaneArms.walk cx arms := by
  funext flow state
  match arms with
  | .nil => rfl
  | .default body => simp only [LaneArms.walk, Block.walk_alike h body]
  | .case _ body rest => simp only [LaneArms.walk, Block.walk_alike h body, LaneArms.walk_alike h rest]

end

end Walk

/-! ### The context rules -/

section Context

variable {rules : ContextRules} {launchers : List String}

/-- Whether two lists of launchers agree on the calls among some nodes. -/
def SameLaunches (rules : ContextRules) (launchers : List String) (nodes : List Node) : Prop :=
  ∀ node ∈ nodes, ContextRules.isLaunch { rules with launchers } node = rules.isLaunch node

/-- Two stretches of nodes launch the same under both tables if each of them does. -/
theorem SameLaunches.append {a b : List Node} :
    SameLaunches rules launchers (a ++ b) ↔ SameLaunches rules launchers a ∧ SameLaunches rules launchers b :=
  List.forall_mem_append

/-- What is entered below a node launches the same if the node with it does. -/
theorem SameLaunches.enter {node : Node} {inside : List Node}
    (h : SameLaunches rules launchers (Node.enter (fun _ => true) node inside)) :
    SameLaunches rules launchers inside :=
  fun other hother => h other (List.mem_cons_of_mem _ hother)

/-- The context rules for an expression only ask which of its own calls are launches. -/
theorem ContextRules.checkExpr_alike (inRegion : Bool) {e : Expr}
    (h : SameLaunches rules launchers (e.nodes fun _ => true)) :
    ContextRules.checkExpr { rules with launchers } inRegion e = rules.checkExpr inRegion e := by
  have hfind : (e.nodes fun _ => true).find? (ContextRules.isLaunch { rules with launchers }) =
      (e.nodes fun _ => true).find? rules.isLaunch := List.find?_congr h
  rw [ContextRules.checkExpr, ContextRules.checkExpr, hfind]

/-- The context rules for several expressions only ask which of their own calls are launches. -/
theorem ContextRules.checkExprs_alike (inRegion : Bool) {es : List Expr}
    (h : SameLaunches rules launchers (Expr.nodesOf (fun _ => true) es)) :
    ContextRules.checkExprs { rules with launchers } inRegion es = rules.checkExprs inRegion es := by
  induction es with
  | nil => rfl
  | cons e rest ih =>
    obtain ⟨hfirst, hrest⟩ := SameLaunches.append.1 h
    rw [ContextRules.checkExprs, ContextRules.checkExprs, ContextRules.checkExpr_alike inRegion hfirst,
      ih hrest]

mutual

/-- The context rules for a statement only ask which of its own calls are launches. -/
theorem Stmt.checkContext_alike (s : Stmt) (inRegion : Bool)
    (h : SameLaunches rules launchers (s.nodes fun _ => true)) :
    Stmt.checkContext { rules with launchers } inRegion s = Stmt.checkContext rules inRegion s := by
  match s with
  | .declare _ _ type value =>
    exact ContextRules.checkExpr_alike inRegion (SameLaunches.append.1 h.enter).2
  | .assign _ _ value | .defer _ value | .spawn _ value | .eval _ value | .ret _ (some value) =>
    exact ContextRules.checkExpr_alike inRegion h.enter
  | .ret _ none | .brk _ | .cont _ => rfl
  | .panic _ value =>
    rw [Stmt.checkContext, Stmt.checkContext, ContextRules.checkExpr_alike inRegion h.enter]
    rfl
  | .send _ chan value =>
    obtain ⟨hchan, hvalue⟩ := SameLaunches.append.1 h.enter
    rw [Stmt.checkContext, Stmt.checkContext, ContextRules.checkExpr_alike inRegion hchan,
      ContextRules.checkExpr_alike inRegion hvalue]
  | .ifThen _ cond thenArm =>
    obtain ⟨hcond, hthen⟩ := SameLaunches.append.1 h.enter
    rw [Stmt.checkContext, Stmt.checkContext, ContextRules.checkExpr_alike inRegion hcond,
      Block.checkContext_alike thenArm inRegion hthen.enter]
    rfl
  | .ifElse _ cond thenArm elseArm =>
    obtain ⟨hfirst, helse⟩ := SameLaunches.append.1 h.enter
    obtain ⟨hcond, hthen⟩ := SameLaunches.append.1 hfirst
    rw [Stmt.checkContext, Stmt.checkContext, ContextRules.checkExpr_alike inRegion hcond,
      Block.checkContext_alike thenArm inRegion hthen.enter,
      Block.checkContext_alike elseArm inRegion helse.enter]
    rfl
  | .switch _ scrutinee arms =>
    obtain ⟨hscrutinee, harms⟩ := SameLaunches.append.1 h.enter
    rw [Stmt.checkContext, Stmt.checkContext, ContextRules.checkExpr_alike inRegion hscrutinee,
      Arms.checkContext_alike arms inRegion harms]
    rfl
  | .typeSwitch _ _ scrutinee arms =>
    obtain ⟨hscrutinee, harms⟩ := SameLaunches.append.1 h.enter
    rw [Stmt.checkContext, Stmt.checkContext, ContextRules.checkExpr_alike inRegion hscrutinee,
      LaneArms.checkContext_alike arms inRegion harms]
  | .forIn _ _ iterable body =>
    obtain ⟨hiterable, hbody⟩ := SameLaunches.append.1 h.enter
    rw [Stmt.checkContext, Stmt.checkContext, ContextRules.checkExpr_alike inRegion hiterable,
      Block.checkContext_alike body inRegion hbody.enter]
  | .whileLoop _ cond body =>
    obtain ⟨hcond, hbody⟩ := SameLaunches.append.1 h.enter
    rw [Stmt.checkContext, Stmt.checkContext, ContextRules.checkExpr_alike inRegion hcond,
      Block.checkContext_alike body inRegion hbody.enter]
    rfl
  | .goFor _ _ range _ body =>
    obtain ⟨hrange, hbody⟩ := SameLaunches.append.1 h.enter
    rw [Stmt.checkContext, Stmt.checkContext, ContextRules.checkExpr_alike inRegion hrange,
      Block.checkContext_alike body true hbody.enter]
    rfl

/-- The context rules for a block only ask which of its own calls are launches. -/
theorem Block.checkContext_alike (b : Block) (inRegion : Bool)
    (h : SameLaunches rules launchers (b.inside fun _ => true)) :
    Block.checkContext { rules with launchers } inRegion b = Block.checkContext rules inRegion b := by
  match b with
  | .nil _ => rfl
  | .cons first rest =>
    obtain ⟨hfirst, hrest⟩ := SameLaunches.append.1 h
    rw [Block.checkContext, Block.checkContext, Stmt.checkContext_alike first inRegion hfirst,
      Block.checkContext_alike rest inRegion hrest]

/-- The context rules for a switch's arms only ask which of their own calls are launches. -/
theorem Arms.checkContext_alike (arms : Arms) (inRegion : Bool)
    (h : SameLaunches rules launchers (arms.nodes fun _ => true)) :
    Arms.checkContext { rules with launchers } inRegion arms = Arms.checkContext rules inRegion arms := by
  match arms with
  | .nil => rfl
  | .default body => exact Block.checkContext_alike body inRegion h.enter
  | .case values body rest =>
    obtain ⟨hfirst, hrest⟩ := SameLaunches.append.1 h
    obtain ⟨hvalues, hbody⟩ := SameLaunches.append.1 hfirst
    rw [Arms.checkContext, Arms.checkContext, ContextRules.checkExprs_alike inRegion hvalues,
      Block.checkContext_alike body inRegion hbody.enter, Arms.checkContext_alike rest inRegion hrest]

/-- The context rules for a type switch's arms only ask which of their own calls are launches. -/
theorem LaneArms.checkContext_alike (arms : LaneArms) (inRegion : Bool)
    (h : SameLaunches rules launchers (arms.nodes fun _ => true)) :
    LaneArms.checkContext { rules with launchers } inRegion arms =
      LaneArms.checkContext rules inRegion arms := by
  match arms with
  | .nil => rfl
  | .default body => exact Block.checkContext_alike body inRegion h.enter
  | .case _ body rest =>
    obtain ⟨hbody, hrest⟩ := SameLaunches.append.1 h
    rw [LaneArms.checkContext, LaneArms.checkContext, Block.checkContext_alike body inRegion hbody.enter,
      LaneArms.checkContext_alike rest inRegion hrest]

end

/-- The context rules for a function only ask whether the names that it calls are launchers. -/
theorem Function.checkContext_alike (f : Function) (types : TypeRecord) (wholeBody : Bool)
    {launchers launchers' : List String} (h : ∀ name ∈ f.callees, name ∈ launchers ↔ name ∈ launchers') :
    f.checkContext { types, launchers, wholeBody } =
      f.checkContext { types, launchers := launchers', wholeBody } := by
  refine @Block.checkContext_alike { types, launchers := launchers', wholeBody } launchers f.body wholeBody ?_
  intro node hnode
  unfold ContextRules.isLaunch
  cases hcallee : node.callee? with
  | none => rfl
  | some callee =>
    have hcalled : callee ∈ f.callees :=
      List.mem_filterMap.2 ⟨node, List.mem_cons_of_mem _ hnode, hcallee⟩
    rw [Option.any_some, Option.any_some, Bool.eq_iff_iff, List.contains_iff_mem, List.contains_iff_mem]
    exact h callee hcalled

end Context

/-! ### Functions -/

section Later

variable {env env' : Env} (h : ∀ name, env.isRegionFunction name = env'.isRegionFunction name)

include h

/-- The analysis of a region is the same under tables that name the same region functions. -/
theorem Region.analyze_alike (r : Region) (types : TypeRecord) : r.analyze env types = r.analyze env' types := by
  have hwalk : Block.walk ⟨r.function, env, types⟩ r.body = Block.walk ⟨r.function, env', types⟩ r.body :=
    @Block.walk_alike ⟨r.function, env', types⟩ env h r.body
  rw [Region.analyze, Region.analyze, Region.walk, Region.walk, hwalk]

/-- A function's calls of region functions are the same under tables that name the same region functions. -/
theorem Function.freshCalls_alike (f : Function) : f.freshCalls env = f.freshCalls env' := by
  have hcall : Node.freshCall? env f.name.text = Node.freshCall? env' f.name.text := by
    funext node
    unfold Node.freshCall?
    cases node.callee? with
    | none => rfl
    | some callee => simp only [h]
  rw [Function.freshCalls, Function.freshCalls, h, hcall]

end Later

section Functions

variable {R : Env → Env → Prop} {excused : Issue → Prop} (hR : Env.Pairing R) {env env' : Env} (h : R env env')
  (f : Function) {launchers launchers' : List String}
  (hcallees : ∀ name ∈ f.callees, name ∈ launchers ↔ name ∈ launchers')
  (hexprs : ∀ p ∈ f.body.sites, ∀ e ∈ p.stmt.exprs, ∀ env env' : Env, R env env' →
    Agree excused (e.infer env) (e.infer env'))

include hR h hcallees hexprs

/-- In paired environments, and with launchers that agree on the names it calls, a function is analysed
alike. -/
theorem Function.analyze_paired (hopen : env.scopes ≠ []) (s : Signature) :
    Agree excused (f.analyze s env launchers).1 (f.analyze s env' launchers').1 := by
  have hopen' : env'.scopes ≠ [] := hR.scopes h ▸ hopen
  have hcheck := Function.check_paired hR h f hexprs
  have henv := Function.check_env hopen f
  have henv' := Function.check_env hopen' f
  unfold Function.analyze
  cases s.expectPrivateLanes f.name.text with
  | error issue => exact .same _
  | ok _ =>
    -- the check gives either environment back, so the later passes start in related ones again
    cases hrun : f.check env with
    | mk outcome after =>
      cases hrun' : f.check env' with
      | mk outcome' after' =>
        rw [hrun] at hcheck henv
        rw [hrun'] at hcheck henv'
        obtain rfl : after = env := henv
        obtain rfl : after' = env' := henv'
        rcases hcheck.eq_or_excused with rfl | ⟨issue, hissue, rfl⟩
        · cases outcome with
          | error issue => exact .same _
          | ok types =>
            have hregions := hR.isRegionFunction h
            refine .of_eq ?_
            simp only [Function.analyzeTyped, Function.checkContext_alike f types s.isRegion hcallees,
              Region.analyze_alike hregions, Function.freshCalls_alike hregions]
        · exact .differ hissue _

/-- What is found in a function is the same in related environments, unless it fails in the first one and is
excused. -/
theorem Function.outcome_paired (hopen : env.scopes ≠ []) :
    f.outcome env launchers = f.outcome env' launchers' ∨
      ∃ issue, excused issue ∧ f.outcome env launchers = some (.error issue) := by
  rw [Function.outcome, Function.outcome, hR.functions h]
  cases env'.functions.find? f.name.text with
  | none => exact Or.inl rfl
  | some s =>
    rcases (Function.analyze_paired hR h f hcallees hexprs hopen s).eq_or_excused with heq | ⟨issue, hissue, herror⟩
    · exact Or.inl (congrArg some heq)
    · exact Or.inr ⟨issue, hissue, congrArg some herror⟩

end Functions

/-- What is found in a function depends on the environment up to the order of the functions, and on which of the
names that it calls are launchers. -/
theorem Function.outcome_alike {env env' : Env} (h : env.Alike env') (hopen : env.scopes ≠ []) (f : Function)
    {launchers launchers' : List String} (hcallees : ∀ name ∈ f.callees, name ∈ launchers ↔ name ∈ launchers') :
    f.outcome env launchers = f.outcome env' launchers' := by
  have hexprs : ∀ p ∈ f.body.sites, ∀ e ∈ p.stmt.exprs, ∀ env env' : Env, env.Alike env' →
      Agree (fun _ => False) (e.infer env) (e.infer env') :=
    fun _ _ e _ _ _ henv => .of_eq (Expr.infer_alike henv e)
  rcases Function.outcome_paired Env.Alike.pairing h f hcallees hexprs hopen with hsame | ⟨_, hfalse, -⟩
  · exact hsame
  · exact hfalse.elim

end Lanewise
