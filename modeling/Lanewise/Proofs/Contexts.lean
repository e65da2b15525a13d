import Lanewise.Proofs.CheckRules
import Lanewise.Proofs.Occurrences
import Lanewise.Region.Context

/-!
# What the context rules accept

The context rules look at every statement of a body together with one fact about where it stands: whether it
lies in a region. `Block.checkContext_eq_ok` says that a block passes exactly if each of its statements is
allowed where it stands. A statement stands in a region if the block does, or if the way to it enters a
go-for. `Function.context_accepted_iff` spells out what is allowed, for any function, signature, record of types and
set of launchers.
-/

set_option autoImplicit false

namespace Lanewise

/-- Whether the way to a site enters a go-for. -/
def Site.inGoFor (p : Site) : Bool :=
  p.path.any fun step => (Node.stmt step.stmt).isGoFor

/-- What a statement has to keep to where it stands: no region opens inside a region, neither here nor through
a call, and outside every region nothing varying decides or stops the program. -/
structure ContextRules.Allows (rules : ContextRules) (inRegion : Bool) (s : Stmt) : Prop where
  goFor : (Node.stmt s).isGoFor = true → rules.wholeBody = false ∧ inRegion = false
  launch : inRegion = true → ∀ e ∈ s.exprs, ∀ node ∈ e.nodes fun _ => true, rules.isLaunch node = false
  decision : inRegion = false → ∀ e, s.decision? = some e → rules.types.isVaryingAt e.span = false
  panic : inRegion = false → ∀ span e, s = .panic span e → rules.types.isVaryingAt e.span = false

namespace ContextRules

variable {rules : ContextRules} {inRegion : Bool}

/-- An expression passes exactly if it is outside every region or none of its calls launches one. -/
theorem checkExpr_eq_ok {e : Expr} :
    rules.checkExpr inRegion e = .ok () ↔
      (inRegion = true → ∀ node ∈ e.nodes fun _ => true, rules.isLaunch node = false) := by
  unfold checkExpr
  cases inRegion with
  | false => simp
  | true =>
    cases hfind : (e.nodes fun _ => true).find? rules.isLaunch with
    | none => simpa using hfind
    | some node =>
      have hlaunch := List.find?_some hfind
      have hnode := List.mem_of_find?_eq_some hfind
      simp only [if_true, reduceCtorEq, false_iff, forall_const]
      intro h
      rw [h node hnode] at hlaunch
      cases hlaunch

/-- Several expressions pass exactly if each of them does. -/
theorem checkExprs_eq_ok {es : List Expr} :
    rules.checkExprs inRegion es = .ok () ↔ ∀ e ∈ es, rules.checkExpr inRegion e = .ok () := by
  induction es with
  | nil => simp [checkExprs]
  | cons e rest ih => rw [checkExprs, Except.seq_eq_ok, ih, List.forall_mem_cons]

/-- A decision passes exactly if it is inside a region or not varying. -/
theorem checkDecision_eq_ok {what : Decision} {e : Expr} :
    rules.checkDecision inRegion what e = .ok () ↔
      (inRegion = false → rules.types.isVaryingAt e.span = false) := by
  unfold checkDecision
  cases inRegion <;> simp

/-- The value of a panic passes exactly if it is inside a region or not varying. -/
theorem checkPanic_eq_ok {e : Expr} :
    rules.checkPanic inRegion e = .ok () ↔
      (inRegion = false → rules.types.isVaryingAt e.span = false) := by
  unfold checkPanic
  cases inRegion <;> simp

/-- A go-for passes exactly if it is outside every region. -/
theorem checkGoFor_eq_ok {span : Span} :
    rules.checkGoFor inRegion span = .ok () ↔ rules.wholeBody = false ∧ inRegion = false := by
  unfold checkGoFor
  cases rules.wholeBody <;> cases inRegion <;> simp

end ContextRules

section Context

variable {rules : ContextRules}

/-- The blocks in the arms of a switch are checked as the switch is. -/
theorem Arms.checkContext_eq_ok {inRegion : Bool} : ∀ (arms : Arms) (k : Nat),
    arms.checkContext rules inRegion = .ok () ↔
      (∀ e ∈ arms.values, rules.checkExpr inRegion e = .ok ()) ∧
        ∀ entry ∈ arms.blocks k, entry.2.checkContext rules inRegion = .ok ()
  | .nil, _ => by simp [Arms.checkContext, Arms.values, Arms.blocks]
  | .default body, _ => by simp [Arms.checkContext, Arms.values, Arms.blocks]
  | .case values body rest, k => by
    rw [Arms.checkContext, Except.seq_eq_ok, Except.seq_eq_ok, ContextRules.checkExprs_eq_ok,
      Arms.checkContext_eq_ok rest (k + 1), Arms.values, Arms.blocks, List.forall_mem_append,
      List.forall_mem_cons]
    grind

/-- The blocks in the arms of a type switch are checked as the type switch is. -/
theorem LaneArms.checkContext_eq_ok {inRegion : Bool} : ∀ (arms : LaneArms) (k : Nat),
    arms.checkContext rules inRegion = .ok () ↔
      ∀ entry ∈ arms.blocks k, entry.2.checkContext rules inRegion = .ok ()
  | .nil, _ => by simp [LaneArms.checkContext, LaneArms.blocks]
  | .default body, _ => by simp [LaneArms.checkContext, LaneArms.blocks]
  | .case _ body rest, k => by
    rw [LaneArms.checkContext, Except.seq_eq_ok, LaneArms.checkContext_eq_ok rest (k + 1),
      LaneArms.blocks, List.forall_mem_cons]

/-- What is demanded of a statement, rule by rule, in the words of the checks. -/
theorem ContextRules.allows_iff {inRegion : Bool} {s : Stmt} :
    rules.Allows inRegion s ↔
      ((Node.stmt s).isGoFor = true → rules.wholeBody = false ∧ inRegion = false) ∧
      (∀ e ∈ s.exprs, rules.checkExpr inRegion e = .ok ()) ∧
      (∀ e, s.decision? = some e → inRegion = false → rules.types.isVaryingAt e.span = false) ∧
      (∀ span e, s = .panic span e → inRegion = false → rules.types.isVaryingAt e.span = false) := by
  simp only [ContextRules.checkExpr_eq_ok]
  constructor
  · rintro ⟨hgoFor, hlaunch, hdecision, hpanic⟩
    exact ⟨hgoFor, fun e he h => hlaunch h e he, fun e he h => hdecision h e he,
      fun span e he h => hpanic h span e he⟩
  · rintro ⟨hgoFor, hlaunch, hdecision, hpanic⟩
    exact ⟨hgoFor, fun h e he => hlaunch e he h, fun h e he => hdecision e he h,
      fun h span e he => hpanic span e he h⟩

/-- A statement passes exactly if it is allowed where it stands and its blocks pass; those of a go-for stand
in a region. -/
theorem Stmt.checkContext_eq_ok {inRegion : Bool} (s : Stmt) :
    s.checkContext rules inRegion = .ok () ↔
      rules.Allows inRegion s ∧
        ∀ entry ∈ s.blocks,
          entry.2.checkContext rules (inRegion || (Node.stmt s).isGoFor) = .ok () := by
  rw [ContextRules.allows_iff]
  cases s with
  | switch _ scrutinee arms =>
    simp only [Stmt.checkContext, Except.seq_eq_ok, Arms.checkContext_eq_ok arms 0,
      ContextRules.checkDecision_eq_ok, Stmt.exprs, Stmt.decision?, Stmt.blocks, Node.isGoFor]
    grind
  | typeSwitch _ _ scrutinee arms =>
    simp only [Stmt.checkContext, Except.seq_eq_ok, LaneArms.checkContext_eq_ok arms 0, Stmt.exprs,
      Stmt.decision?, Stmt.blocks, Node.isGoFor]
    grind
  | ifThen | ifElse | whileLoop =>
    simp only [Stmt.checkContext, Except.seq_eq_ok, ContextRules.checkDecision_eq_ok, Stmt.exprs,
      Stmt.decision?, Stmt.blocks, Node.isGoFor, List.forall_mem_cons]
    grind
  | goFor =>
    simp only [Stmt.checkContext, Except.seq_eq_ok, ContextRules.checkGoFor_eq_ok, Stmt.exprs,
      Stmt.decision?, Stmt.blocks, Node.isGoFor, List.forall_mem_cons, Bool.or_true]
    grind
  | panic =>
    simp only [Stmt.checkContext, Except.seq_eq_ok, ContextRules.checkPanic_eq_ok, Stmt.exprs,
      Stmt.decision?, Stmt.blocks, Node.isGoFor, List.forall_mem_cons]
    grind
  | ret _ value =>
    cases value <;> simp [Stmt.checkContext, Stmt.exprs, Stmt.decision?, Stmt.blocks, Node.isGoFor]
  | _ =>
    simp [Stmt.checkContext, Except.seq_eq_ok, Stmt.exprs, Stmt.decision?, Stmt.blocks, Node.isGoFor]

/-- A block passes exactly if each of its statements, at any depth, is allowed where it stands. -/
theorem Block.checkContext_eq_ok {inRegion : Bool} (b : Block) :
    b.checkContext rules inRegion = .ok () ↔
      ∀ p ∈ b.sites, rules.Allows (inRegion || p.inGoFor) p.stmt := by
  refine Block.of_blocks
    (P := fun b => ∀ (k : Nat) (inRegion : Bool), b.checkContext rules inRegion = .ok () ↔
      ∀ p ∈ b.sitesFrom k, rules.Allows (inRegion || p.inGoFor) p.stmt)
    (Q := fun s => ∀ (k : Nat) (inRegion : Bool), s.checkContext rules inRegion = .ok () ↔
      ∀ p ∈ s.sites k, rules.Allows (inRegion || p.inGoFor) p.stmt) ?_ ?_ ?_ b 0 inRegion
  · intro span k inRegion
    simp [Block.checkContext, Block.sitesFrom]
  · intro s rest hs hrest k inRegion
    rw [Block.checkContext, Except.seq_eq_ok, hs k, hrest (k + 1), Block.sitesFrom,
      List.forall_mem_append]
  · intro s hblocks k inRegion
    rw [Stmt.checkContext_eq_ok, Stmt.sites_eq, List.forall_mem_cons, List.forall_mem_flatMap]
    refine and_congr (by simp [Site.inGoFor]) (forall₂_congr fun entry hentry => ?_)
    rw [hblocks entry.1 entry.2 hentry 0, Block.sitesBehind, List.forall_mem_map]
    simp [Site.inGoFor, Bool.or_assoc]

end Context

/-! ### The rules of a function -/

/-- Whether a site of a function lies in a region: every site does if the signature has a varying parameter, and
otherwise those in the body of a go-for. The range of a go-for belongs to the site of the go-for. -/
def Site.inRegion (s : Signature) (p : Site) : Bool :=
  s.isRegion || p.inGoFor

/-- An expression launches nothing exactly if no part of it calls a launcher. -/
theorem ContextRules.launches_nothing_iff {rules : ContextRules} {e : Expr} :
    (∀ node ∈ e.nodes fun _ => true, rules.isLaunch node = false) ↔
      ∀ part ∈ e.parts, ∀ name ∈ rules.launchers, part.callee? ≠ some name := by
  constructor
  · intro h part hpart name hname hcallee
    obtain ⟨node, hnode, hcalls⟩ := Expr.exists_call_iff.2 ⟨part, hpart, hcallee⟩
    have hlaunch := h node hnode
    simp [ContextRules.isLaunch, hcalls, hname] at hlaunch
  · intro h node hnode
    cases hcalls : node.callee? with
    | none => simp [ContextRules.isLaunch, hcalls]
    | some name =>
      obtain ⟨part, hpart, hcallee⟩ := Expr.exists_call_iff.1 ⟨node, hnode, hcalls⟩
      have hfree : name ∉ rules.launchers := fun hname => h part hpart name hname hcallee
      simpa [ContextRules.isLaunch, hcalls] using hfree

/-- The context rules of a function accept it exactly if no go-for stands in a region; no launcher is called in a
region, at any depth of any expression of a statement there, deferred and spawned calls included; no condition of
an if or a while and no scrutinee of a switch that is recorded as varying stands outside of every region; and
neither does the value of a panic that is recorded as varying. -/
theorem Function.context_accepted_iff (f : Function) (s : Signature) (types : TypeRecord)
    (launchers : List String) :
    f.checkContext { types, launchers, wholeBody := s.isRegion } = .ok () ↔
      (∀ p ∈ f.body.sites, (Node.stmt p.stmt).isGoFor = true → p.inRegion s = false) ∧
      (∀ p ∈ f.body.sites, ∀ e ∈ p.stmt.exprs, ∀ part ∈ e.parts, ∀ name ∈ launchers,
        part.callee? = some name → p.inRegion s = false) ∧
      (∀ p ∈ f.body.sites, ∀ e, p.stmt.decision? = some e → types.isVaryingAt e.span = true →
        p.inRegion s = true) ∧
      (∀ p ∈ f.body.sites, ∀ span e, p.stmt = .panic span e → types.isVaryingAt e.span = true →
        p.inRegion s = true) := by
  rw [Function.checkContext, Block.checkContext_eq_ok]
  change (∀ p ∈ f.body.sites, ContextRules.Allows _ (p.inRegion s) p.stmt) ↔ _
  constructor
  · intro hallows
    refine ⟨?_, ?_, ?_, ?_⟩
    · intro p hp hgoFor
      exact ((hallows p hp).goFor hgoFor).2
    · intro p hp e he part hpart name hname hcallee
      cases hregion : p.inRegion s with
      | false => rfl
      | true =>
        have hnothing := (hallows p hp).launch hregion e he
        exact absurd hcallee (ContextRules.launches_nothing_iff.1 hnothing part hpart name hname)
    · intro p hp e he hvarying
      cases hregion : p.inRegion s with
      | true => rfl
      | false =>
        have huniform := (hallows p hp).decision hregion e he
        simp [hvarying] at huniform
    · intro p hp span e he hvarying
      cases hregion : p.inRegion s with
      | true => rfl
      | false =>
        have huniform := (hallows p hp).panic hregion span e he
        simp [hvarying] at huniform
  · rintro ⟨hgoFor, hlaunch, hdecision, hpanic⟩ p hp
    refine ⟨?_, ?_, ?_, ?_⟩
    · intro hopens
      have houtside := hgoFor p hp hopens
      exact ⟨(Bool.or_eq_false_iff.1 houtside).1, houtside⟩
    · intro hregion e he
      apply ContextRules.launches_nothing_iff.2
      intro part hpart name hname hcallee
      have houtside := hlaunch p hp e he part hpart name hname hcallee
      simp [hregion] at houtside
    · intro houtside e he
      cases hvarying : types.isVaryingAt e.span with
      | false => rfl
      | true =>
        have hregion := hdecision p hp e he hvarying
        simp [houtside] at hregion
    · intro houtside span e he
      cases hvarying : types.isVaryingAt e.span with
      | false => rfl
      | true =>
        have hregion := hpanic p hp span e he hvarying
        simp [houtside] at hregion

end Lanewise
