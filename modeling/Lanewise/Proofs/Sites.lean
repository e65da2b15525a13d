import Lanewise.Syntax.Traversal

/-!
# Sites

A site is a statement together with the way that leads to it from a block: the blocks that are entered on
the way, from the outermost on, each by the number of the statement that it belongs to. Two sites of one
block differ even if they hold the same statement.

What the rules of regions speak of is read off the way alone: how many varying conditions enclose a site,
how many of them lie inside its innermost loop, and which site comes before which. A site comes before
another one if some block has both in different statements, the first one earlier; inside a loop it also
does if it comes later, in the next round.

`Site.precedes_iff` takes the last relation apart step by step; the proofs about the walk use it only in
that form.
-/

set_option autoImplicit false

namespace Lanewise

/-! ### What a statement does by itself -/

/-- Whether a node takes a value from a channel. -/
def Node.isRecv : Node → Bool
  | expr (.recv ..) => true
  | _ => false

/-- Whether a value is taken from a channel somewhere in an expression. -/
def Expr.hasRecv (e : Expr) : Bool :=
  (e.nodes fun _ => true).any Node.isRecv

/-- An operator on one operand receives if its operand does. -/
@[simp] theorem Expr.hasRecv_unary (span : Span) (op : UnaryOp) (e : Expr) :
    (Expr.unary span op e).hasRecv = e.hasRecv := rfl

/-- An operator on two operands receives if one of them does. -/
@[simp] theorem Expr.hasRecv_binary (span : Span) (op : BinaryOp) (l r : Expr) :
    (Expr.binary span op l r).hasRecv = (l.hasRecv || r.hasRecv) := by
  simp [Expr.hasRecv, Expr.nodes, Node.enter, Node.isRecv]

/-- A range receives if one of its bounds does. -/
@[simp] theorem Expr.hasRecv_range (span : Span) (l r : Expr) :
    (Expr.range span l r).hasRecv = (l.hasRecv || r.hasRecv) := by
  simp [Expr.hasRecv, Expr.nodes, Node.enter, Node.isRecv]

/-- A receive receives. -/
@[simp] theorem Expr.hasRecv_recv (span : Span) (chan : Expr) :
    (Expr.recv span chan).hasRecv = true := rfl

/-- No receive is met in a type. -/
theorem TypeExpr.any_isRecv_nodes (t : TypeExpr) :
    (t.nodes fun _ => true).any Node.isRecv = false := by
  induction t with
  | named _ _ => rfl
  | varying _ elem _ ih => simpa [TypeExpr.nodes, Node.enter, Node.isRecv] using ih
  | chan _ elem ih => simpa [TypeExpr.nodes, Node.enter, Node.isRecv] using ih

/-- A conversion receives if its operand does. -/
@[simp] theorem Expr.hasRecv_cast (span : Span) (e : Expr) (target : TypeExpr) :
    (Expr.cast span e target).hasRecv = e.hasRecv := by
  simp only [Expr.hasRecv, Expr.nodes, Node.enter, if_true, List.any_cons, List.any_append,
    TypeExpr.any_isRecv_nodes, Bool.or_false]
  rfl

/-- A receive is met in several expressions if one of them receives. -/
theorem Expr.any_isRecv_nodesOf (es : List Expr) :
    (Expr.nodesOf (fun _ => true) es).any Node.isRecv = es.any Expr.hasRecv := by
  induction es with
  | nil => rfl
  | cons e rest ih => simp [Expr.nodesOf, ih, Expr.hasRecv]

/-- A call receives if one of its arguments does. -/
@[simp] theorem Expr.hasRecv_call (span : Span) (callee : Name) (args : List Expr) :
    (Expr.call span callee args).hasRecv = args.any Expr.hasRecv := by
  rw [← Expr.any_isRecv_nodesOf]
  rfl

/-- The arguments of a call. -/
def Expr.args : Expr → List Expr
  | call _ _ args => args
  | _ => []

namespace Stmt

/-- The expressions of a statement that do not belong to a statement inside it. -/
def exprs : Stmt → List Expr
  | declare _ _ _ value => [value]
  | assign _ _ value => [value]
  | ifThen _ cond _ => [cond]
  | ifElse _ cond _ _ => [cond]
  | switch _ scrutinee arms => scrutinee :: arms.values
  | typeSwitch _ _ scrutinee _ => [scrutinee]
  | forIn _ _ iterable _ => [iterable]
  | whileLoop _ cond _ => [cond]
  | goFor _ _ range _ _ => [range]
  | ret _ value => value.toList
  | brk _ => []
  | cont _ => []
  | panic _ value => [value]
  | defer _ call => [call]
  | spawn _ call => [call]
  | send _ chan value => [chan, value]
  | eval _ value => [value]

/-- The expressions of a statement that are evaluated where it stands. A deferred or spawned call runs
later, but its arguments are evaluated at once. -/
def scanned : Stmt → List Expr
  | defer _ call => call.args
  | spawn _ call => call.args
  | s => s.exprs

/-- The expression that decides which block of a statement runs, if one does: the condition of a branch or
of a loop, or the scrutinee of a switch over values. -/
def decision? : Stmt → Option Expr
  | ifThen _ cond _ => some cond
  | ifElse _ cond _ _ => some cond
  | switch _ scrutinee _ => some scrutinee
  | whileLoop _ cond _ => some cond
  | _ => none

/-- Whether a statement is a loop. -/
def isLoop : Stmt → Bool
  | forIn .. => true
  | whileLoop .. => true
  | goFor .. => true
  | _ => false

/-- Whether a statement leaves the innermost loop. -/
def isBreak : Stmt → Bool
  | brk _ => true
  | _ => false

/-- Whether a statement goes on with the next round of the innermost loop. -/
def isContinue : Stmt → Bool
  | cont _ => true
  | _ => false

/-- Whether a statement leaves the function. -/
def isReturn : Stmt → Bool
  | ret .. => true
  | _ => false

/-- Whether a statement sends on a channel. -/
def isSend : Stmt → Bool
  | send .. => true
  | _ => false

/-- Whether a statement receives from a channel, in one of its own expressions. -/
def receives (s : Stmt) : Bool :=
  s.exprs.any Expr.hasRecv

end Stmt

/-! ### Ways into a block -/

/-- The block of a statement that is entered. Cases are numbered from zero, and a default arm knows how many
cases stand before it. -/
inductive Arm where
  | thenArm
  | elseArm
  | case (index : Nat)
  | default (cases : Nat)
  | lanes (index : Nat)
  | body
  deriving DecidableEq

/-- A step from a block into a block of one of its statements. -/
structure Step where
  /-- The number of the statement in its block. -/
  index : Nat
  /-- The statement. -/
  stmt : Stmt
  /-- The block of the statement that is entered. -/
  arm : Arm

/-- Whether lanes may disagree about taking a step, if `varying` says so of the expression that decides. -/
def Step.isVarying (varying : Expr → Bool) (step : Step) : Bool :=
  step.stmt.decision?.any varying

/-- A statement and the way to it. -/
structure Site where
  /-- The steps that lead to the block of the statement, the outermost first. -/
  path : List Step
  /-- The number of the statement in its block. -/
  index : Nat
  /-- The statement. -/
  stmt : Stmt

namespace Site

/-- A site of a block that is entered by a step, seen from outside that block. -/
def under (step : Step) (p : Site) : Site :=
  { p with path := step :: p.path }

/-- A step comes first on the way to what it enters. -/
@[simp] theorem under_path (step : Step) (p : Site) : (p.under step).path = step :: p.path := rfl

/-- A step does not change the statement. -/
@[simp] theorem under_stmt (step : Step) (p : Site) : (p.under step).stmt = p.stmt := rfl

/-- Different sites are different behind a step. -/
theorem under_inj {step : Step} {p q : Site} : p.under step = q.under step ↔ p = q := by
  obtain ⟨path, index, stmt⟩ := p
  obtain ⟨path', index', stmt'⟩ := q
  simp [under]

/-- The number of varying conditions that enclose a site. -/
def varyingDepth (varying : Expr → Bool) (p : Site) : Nat :=
  p.path.countP (Step.isVarying varying)

/-- The steps from the innermost loop of a way on, or the whole way if it enters no loop. -/
def sinceLoop : List Step → List Step
  | [] => []
  | step :: inner => if inner.any (·.stmt.isLoop) then sinceLoop inner else step :: inner

/-- A way that enters no loop is kept whole. -/
theorem sinceLoop_of_no_loop {path : List Step} (h : ¬ path.any (·.stmt.isLoop) = true) :
    sinceLoop path = path := by
  cases path with
  | nil => rfl
  | cons step inner =>
    rw [List.any_cons, Bool.or_eq_true, not_or] at h
    rw [sinceLoop, if_neg h.2]

/-- A way is kept from its innermost loop on. -/
theorem sinceLoop_of_loop {outer inner : List Step} {loop : Step} (hloop : loop.stmt.isLoop = true)
    (hinner : ¬ inner.any (·.stmt.isLoop) = true) :
    sinceLoop (outer ++ loop :: inner) = loop :: inner := by
  induction outer with
  | nil => rw [List.nil_append, sinceLoop, if_neg hinner]
  | cons step outer ih =>
    have hany : (outer ++ loop :: inner).any (·.stmt.isLoop) = true := by simp [hloop]
    rw [List.cons_append, sinceLoop, if_pos hany, ih]

/-- The innermost loop around a site. -/
def innerLoop? (p : Site) : Option Stmt :=
  (p.path.reverse.find? (·.stmt.isLoop)).map Step.stmt

/-- Without an innermost loop the way enters none. -/
theorem innerLoop?_eq_none {p : Site} (h : p.innerLoop? = none) :
    ¬ p.path.any (·.stmt.isLoop) = true := by
  simpa [innerLoop?] using h

/-- The innermost loop is the last one on the way. -/
theorem innerLoop?_eq_some {p : Site} {s : Stmt} (h : p.innerLoop? = some s) :
    ∃ outer loop inner, p.path = outer ++ loop :: inner ∧ loop.stmt = s ∧ loop.stmt.isLoop = true ∧
      ¬ inner.any (·.stmt.isLoop) = true := by
  obtain ⟨loop, hfind, hstmt⟩ := Option.map_eq_some_iff.1 h
  obtain ⟨hloop, inner, outer, hpath, hinner⟩ := List.find?_eq_some_iff_append.1 hfind
  refine ⟨outer.reverse, loop, inner.reverse, ?_, hstmt, hloop, ?_⟩
  · rw [← List.reverse_reverse p.path, hpath]
    simp
  · simpa using hinner

/-- The number of varying conditions that enclose a site and lie inside its innermost loop; that of the
loop itself counts. -/
def loopDepth (varying : Expr → Bool) (p : Site) : Nat :=
  (sinceLoop p.path).countP (Step.isVarying varying)

/-- Whether some lanes, but not all of the loop, may leave the round at this site. -/
def taints (varying : Expr → Bool) (p : Site) : Bool :=
  p.stmt.isContinue && decide (0 < p.loopDepth varying)

/-- Whether a site lies in statement number `i` of the block at the end of a way. -/
def InStmt (p : Site) (block : List Step) (i : Nat) : Prop :=
  (p.path = block ∧ p.index = i) ∨ ∃ step inner, p.path = block ++ step :: inner ∧ step.index = i

/-- Whether a site lies in the block at the end of a way. -/
def InBlock (p : Site) (block : List Step) : Prop :=
  block <+: p.path

/-- Whether a site may run before another one: in an earlier statement of the same block, or in an earlier
round of the same loop. -/
def Precedes (c p : Site) : Prop :=
  (∃ block i j, i < j ∧ c.InStmt block i ∧ p.InStmt block j) ∨
    ∃ outer loop, loop.stmt.isLoop = true ∧ c.InBlock (outer ++ [loop]) ∧ p.InBlock (outer ++ [loop])

/-! ### Precedence, step by step -/

/-- The number of the statement of the outermost block that a site lies in. -/
def top (p : Site) : Nat :=
  match p.path with
  | [] => p.index
  | step :: _ => step.index

/-- Behind a step a site lies in the statement of that step. -/
@[simp] theorem top_under (step : Step) (p : Site) : (p.under step).top = step.index := rfl

/-- A statement of the outermost block lies in itself. -/
@[simp] theorem top_mk_nil (index : Nat) (s : Stmt) : (Site.mk [] index s).top = index := rfl

/-- A site lies in the statement of the outermost block that its way starts with, and in no other one. -/
theorem inStmt_nil_iff {p : Site} {i : Nat} : p.InStmt [] i ↔ p.top = i := by
  obtain ⟨path, index, stmt⟩ := p
  cases path with
  | nil => simp [InStmt, top]
  | cons step inner => simp [InStmt, top]

/-- A site lies in a statement further inside exactly if its way starts with the step there. -/
theorem inStmt_cons_iff {p : Site} {step : Step} {block : List Step} {i : Nat} :
    p.InStmt (step :: block) i ↔ ∃ q : Site, p = q.under step ∧ q.InStmt block i := by
  obtain ⟨path, index, stmt⟩ := p
  constructor
  · intro h
    simp only [InStmt, List.cons_append] at h
    rcases h with ⟨rfl, rfl⟩ | ⟨s, inner, rfl, rfl⟩
    · exact ⟨⟨block, index, stmt⟩, rfl, Or.inl ⟨rfl, rfl⟩⟩
    · exact ⟨⟨block ++ s :: inner, index, stmt⟩, rfl, Or.inr ⟨s, inner, rfl, rfl⟩⟩
  · rintro ⟨q, hq, h⟩
    rw [hq]
    rcases h with ⟨hpath, hindex⟩ | ⟨s, inner, hpath, hindex⟩
    · exact Or.inl ⟨by rw [under_path, hpath], hindex⟩
    · exact Or.inr ⟨s, inner, by rw [under_path, hpath, List.cons_append], hindex⟩

/-- A site lies in a block further inside exactly if its way starts with the step there. -/
theorem inBlock_cons_iff {p : Site} {step : Step} {block : List Step} :
    p.InBlock (step :: block) ↔ ∃ q : Site, p = q.under step ∧ q.InBlock block := by
  obtain ⟨path, index, stmt⟩ := p
  constructor
  · rintro ⟨inner, hpath⟩
    simp only [List.cons_append] at hpath
    subst hpath
    exact ⟨⟨block ++ inner, index, stmt⟩, rfl, inner, rfl⟩
  · rintro ⟨q, hq, inner, hinner⟩
    refine ⟨inner, ?_⟩
    rw [hq, under_path, ← hinner, List.cons_append]

/-- One site precedes another exactly if its statement of the outermost block is earlier, or both lie behind
the same step, and that step enters a loop or the rest of the ways decides. -/
theorem precedes_iff {c p : Site} :
    c.Precedes p ↔ c.top < p.top ∨
      ∃ (step : Step) (c' p' : Site), c = c'.under step ∧ p = p'.under step ∧
        (step.stmt.isLoop = true ∨ c'.Precedes p') := by
  constructor
  · rintro (⟨block, i, j, hij, hc, hp⟩ | ⟨outer, loop, hloop, hc, hp⟩)
    · cases block with
      | nil =>
        rw [inStmt_nil_iff] at hc hp
        exact Or.inl (by omega)
      | cons step block =>
        obtain ⟨c', rfl, hc'⟩ := inStmt_cons_iff.1 hc
        obtain ⟨p', rfl, hp'⟩ := inStmt_cons_iff.1 hp
        exact Or.inr ⟨step, c', p', rfl, rfl, Or.inr (Or.inl ⟨block, i, j, hij, hc', hp'⟩)⟩
    · cases outer with
      | nil =>
        obtain ⟨c', rfl, -⟩ := inBlock_cons_iff.1 hc
        obtain ⟨p', rfl, -⟩ := inBlock_cons_iff.1 hp
        exact Or.inr ⟨loop, c', p', rfl, rfl, Or.inl hloop⟩
      | cons step outer =>
        obtain ⟨c', rfl, hc'⟩ := inBlock_cons_iff.1 hc
        obtain ⟨p', rfl, hp'⟩ := inBlock_cons_iff.1 hp
        exact Or.inr ⟨step, c', p', rfl, rfl, Or.inr (Or.inr ⟨outer, loop, hloop, hc', hp'⟩)⟩
  · rintro (h | ⟨step, c', p', rfl, rfl, hloop | ⟨block, i, j, hij, hc, hp⟩ |
      ⟨outer, loop, hloop, hc, hp⟩⟩)
    · exact Or.inl ⟨[], c.top, p.top, h, inStmt_nil_iff.2 rfl, inStmt_nil_iff.2 rfl⟩
    · refine Or.inr ⟨[], step, hloop, ?_, ?_⟩
      · exact inBlock_cons_iff.2 ⟨c', rfl, List.nil_prefix⟩
      · exact inBlock_cons_iff.2 ⟨p', rfl, List.nil_prefix⟩
    · refine Or.inl ⟨step :: block, i, j, hij, ?_, ?_⟩
      · exact inStmt_cons_iff.2 ⟨c', rfl, hc⟩
      · exact inStmt_cons_iff.2 ⟨p', rfl, hp⟩
    · refine Or.inr ⟨step :: outer, loop, hloop, ?_, ?_⟩
      · exact inBlock_cons_iff.2 ⟨c', rfl, hc⟩
      · exact inBlock_cons_iff.2 ⟨p', rfl, hp⟩

end Site

/-! ### The sites of a block -/

mutual

/-- The sites of a statement that is number `index` in its block: itself, then those inside it, in order. -/
def Stmt.sites (index : Nat) (s : Stmt) : List Site :=
  { path := [], index, stmt := s } ::
  match s with
  | .ifThen _ _ thenArm => (thenArm.sitesFrom 0).map (.under ⟨index, s, .thenArm⟩)
  | .ifElse _ _ thenArm elseArm =>
    (thenArm.sitesFrom 0).map (.under ⟨index, s, .thenArm⟩) ++
      (elseArm.sitesFrom 0).map (.under ⟨index, s, .elseArm⟩)
  | .switch _ _ arms => arms.sites index s 0
  | .typeSwitch _ _ _ arms => arms.sites index s 0
  | .forIn _ _ _ body => (body.sitesFrom 0).map (.under ⟨index, s, .body⟩)
  | .whileLoop _ _ body => (body.sitesFrom 0).map (.under ⟨index, s, .body⟩)
  | .goFor _ _ _ _ body => (body.sitesFrom 0).map (.under ⟨index, s, .body⟩)
  | _ => []

/-- The sites of a block, or of the rest of one, whose first statement is number `index`. -/
def Block.sitesFrom (index : Nat) : Block → List Site
  | .nil _ => []
  | .cons first rest => first.sites index ++ rest.sitesFrom (index + 1)

/-- The sites of the arms of a switch `s`, the first of which is number `k`. -/
def Arms.sites (index : Nat) (s : Stmt) (k : Nat) : Arms → List Site
  | .nil => []
  | .default body => (body.sitesFrom 0).map (.under ⟨index, s, .default k⟩)
  | .case _ body rest =>
    (body.sitesFrom 0).map (.under ⟨index, s, .case k⟩) ++ rest.sites index s (k + 1)

/-- The sites of the arms of a type switch `s`, the first of which is number `k`. -/
def LaneArms.sites (index : Nat) (s : Stmt) (k : Nat) : LaneArms → List Site
  | .nil => []
  | .default body => (body.sitesFrom 0).map (.under ⟨index, s, .lanes k⟩)
  | .case _ body rest =>
    (body.sitesFrom 0).map (.under ⟨index, s, .lanes k⟩) ++ rest.sites index s (k + 1)

end

/-- The sites of a block, in the order in which they are written. -/
def Block.sites (b : Block) : List Site :=
  b.sitesFrom 0

/-! ### The blocks of a statement -/

/-- The blocks of the arms of a switch, the first of which is number `k`. -/
def Arms.blocks (k : Nat) : Arms → List (Arm × Block)
  | .nil => []
  | .default body => [(.default k, body)]
  | .case _ body rest => (.case k, body) :: rest.blocks (k + 1)

/-- The blocks of the arms of a type switch, the first of which is number `k`. -/
def LaneArms.blocks (k : Nat) : LaneArms → List (Arm × Block)
  | .nil => []
  | .default body => [(.lanes k, body)]
  | .case _ body rest => (.lanes k, body) :: rest.blocks (k + 1)

/-- The blocks directly inside a statement, in order. -/
def Stmt.blocks : Stmt → List (Arm × Block)
  | .ifThen _ _ thenArm => [(.thenArm, thenArm)]
  | .ifElse _ _ thenArm elseArm => [(.thenArm, thenArm), (.elseArm, elseArm)]
  | .switch _ _ arms => arms.blocks 0
  | .typeSwitch _ _ _ arms => arms.blocks 0
  | .forIn _ _ _ body => [(.body, body)]
  | .whileLoop _ _ body => [(.body, body)]
  | .goFor _ _ _ _ body => [(.body, body)]
  | _ => []

/-- The sites of a block that belongs to a statement. -/
def Block.sitesBehind (index : Nat) (s : Stmt) (entry : Arm × Block) : List Site :=
  (entry.2.sitesFrom 0).map (.under ⟨index, s, entry.1⟩)

/-- The sites in the arms of a switch are those of their bodies, in order. -/
theorem Arms.sites_eq (index : Nat) (s : Stmt) : ∀ (k : Nat) (arms : Arms),
    arms.sites index s k = (arms.blocks k).flatMap (Block.sitesBehind index s)
  | _, .nil => rfl
  | _, .default _ => by simp [Arms.sites, Arms.blocks, Block.sitesBehind]
  | k, .case _ _ rest => by
    simp [Arms.sites, Arms.blocks, Block.sitesBehind, Arms.sites_eq index s (k + 1) rest]

/-- The sites in the arms of a type switch are those of their bodies, in order. -/
theorem LaneArms.sites_eq (index : Nat) (s : Stmt) : ∀ (k : Nat) (arms : LaneArms),
    arms.sites index s k = (arms.blocks k).flatMap (Block.sitesBehind index s)
  | _, .nil => rfl
  | _, .default _ => by simp [LaneArms.sites, LaneArms.blocks, Block.sitesBehind]
  | k, .case _ _ rest => by
    simp [LaneArms.sites, LaneArms.blocks, Block.sitesBehind, LaneArms.sites_eq index s (k + 1) rest]

/-- The sites of a statement are itself and the sites of its blocks. -/
theorem Stmt.sites_eq (index : Nat) (s : Stmt) :
    s.sites index = ⟨[], index, s⟩ :: s.blocks.flatMap (Block.sitesBehind index s) := by
  cases s <;>
    simp [Stmt.sites, Stmt.blocks, Block.sitesBehind, Arms.sites_eq, LaneArms.sites_eq]

/-- A site of a statement is the statement itself, or it lies in one of its blocks. -/
theorem Stmt.mem_sites {index : Nat} {s : Stmt} {p : Site} :
    p ∈ s.sites index ↔ p = ⟨[], index, s⟩ ∨
      ∃ (arm : Arm) (b : Block), (arm, b) ∈ s.blocks ∧
        ∃ q ∈ b.sites, p = q.under ⟨index, s, arm⟩ := by
  rw [Stmt.sites_eq]
  simp only [List.mem_cons, List.mem_flatMap, Block.sitesBehind, List.mem_map, Prod.exists,
    Block.sites]
  constructor
  · rintro (h | ⟨arm, b, hb, q, hq, rfl⟩)
    · exact Or.inl h
    · exact Or.inr ⟨arm, b, hb, q, hq, rfl⟩
  · rintro (h | ⟨arm, b, hb, q, hq, rfl⟩)
    · exact Or.inl h
    · exact Or.inr ⟨arm, b, hb, q, hq, rfl⟩

section Induction

variable {P : Block → Prop} {Q : Stmt → Prop}

mutual

/-- What holds of a statement as soon as it holds of the blocks inside it holds of every statement. -/
theorem Stmt.of_blocks (nil : ∀ span, P (.nil span))
    (cons : ∀ s b, Q s → P b → P (.cons s b))
    (stmt : ∀ s, (∀ arm b, (arm, b) ∈ Stmt.blocks s → P b) → Q s) (s : Stmt) : Q s := by
  apply stmt
  intro arm b hb
  match s with
  | .ifThen _ _ thenArm =>
    simp only [Stmt.blocks, List.mem_singleton, Prod.mk.injEq] at hb
    rw [hb.2]
    exact Block.of_blocks nil cons stmt thenArm
  | .ifElse _ _ thenArm elseArm =>
    simp only [Stmt.blocks, List.mem_cons, List.not_mem_nil, or_false, Prod.mk.injEq] at hb
    rcases hb with ⟨-, rfl⟩ | ⟨-, rfl⟩
    · exact Block.of_blocks nil cons stmt b
    · exact Block.of_blocks nil cons stmt b
  | .switch _ _ arms => exact Arms.of_blocks nil cons stmt arms 0 arm b hb
  | .typeSwitch _ _ _ arms => exact LaneArms.of_blocks nil cons stmt arms 0 arm b hb
  | .forIn _ _ _ body =>
    simp only [Stmt.blocks, List.mem_singleton, Prod.mk.injEq] at hb
    rw [hb.2]
    exact Block.of_blocks nil cons stmt body
  | .whileLoop _ _ body =>
    simp only [Stmt.blocks, List.mem_singleton, Prod.mk.injEq] at hb
    rw [hb.2]
    exact Block.of_blocks nil cons stmt body
  | .goFor _ _ _ _ body =>
    simp only [Stmt.blocks, List.mem_singleton, Prod.mk.injEq] at hb
    rw [hb.2]
    exact Block.of_blocks nil cons stmt body
  | .declare .. | .assign .. | .ret .. | .brk .. | .cont .. | .panic .. | .defer .. | .spawn ..
  | .send .. | .eval .. => simp [Stmt.blocks] at hb

/-- What holds of a statement as soon as it holds of the blocks inside it holds of every block. -/
theorem Block.of_blocks (nil : ∀ span, P (.nil span))
    (cons : ∀ s b, Q s → P b → P (.cons s b))
    (stmt : ∀ s, (∀ arm b, (arm, b) ∈ Stmt.blocks s → P b) → Q s) (b : Block) : P b :=
  match b with
  | .nil span => nil span
  | .cons first rest =>
    cons first rest (Stmt.of_blocks nil cons stmt first) (Block.of_blocks nil cons stmt rest)

/-- What holds of a statement as soon as it holds of the blocks inside it holds of the body of every arm of a
switch. -/
theorem Arms.of_blocks (nil : ∀ span, P (.nil span))
    (cons : ∀ s b, Q s → P b → P (.cons s b))
    (stmt : ∀ s, (∀ arm b, (arm, b) ∈ Stmt.blocks s → P b) → Q s) (arms : Arms) (k : Nat) (arm : Arm)
    (b : Block) (hb : (arm, b) ∈ arms.blocks k) : P b := by
  match arms with
  | .nil => simp [Arms.blocks] at hb
  | .default body =>
    simp only [Arms.blocks, List.mem_singleton, Prod.mk.injEq] at hb
    rw [hb.2]
    exact Block.of_blocks nil cons stmt body
  | .case _ body rest =>
    simp only [Arms.blocks, List.mem_cons, Prod.mk.injEq] at hb
    rcases hb with ⟨-, rfl⟩ | hb
    · exact Block.of_blocks nil cons stmt b
    · exact Arms.of_blocks nil cons stmt rest (k + 1) arm b hb

/-- What holds of a statement as soon as it holds of the blocks inside it holds of the body of every arm of a
type switch. -/
theorem LaneArms.of_blocks (nil : ∀ span, P (.nil span))
    (cons : ∀ s b, Q s → P b → P (.cons s b))
    (stmt : ∀ s, (∀ arm b, (arm, b) ∈ Stmt.blocks s → P b) → Q s) (arms : LaneArms) (k : Nat)
    (arm : Arm) (b : Block) (hb : (arm, b) ∈ arms.blocks k) : P b := by
  match arms with
  | .nil => simp [LaneArms.blocks] at hb
  | .default body =>
    simp only [LaneArms.blocks, List.mem_singleton, Prod.mk.injEq] at hb
    rw [hb.2]
    exact Block.of_blocks nil cons stmt body
  | .case _ body rest =>
    simp only [LaneArms.blocks, List.mem_cons, Prod.mk.injEq] at hb
    rcases hb with ⟨-, rfl⟩ | hb
    · exact Block.of_blocks nil cons stmt b
    · exact LaneArms.of_blocks nil cons stmt rest (k + 1) arm b hb

end

end Induction

/-- Every step of the way to a site starts at a statement of the block, whose site is the way up to there. -/
theorem Block.mem_sites_of_step {b : Block} {p : Site} (hp : p ∈ b.sites) {outer inner : List Step}
    {step : Step} (hpath : p.path = outer ++ step :: inner) :
    ⟨outer, step.index, step.stmt⟩ ∈ b.sites := by
  refine Block.of_blocks
    (P := fun b => ∀ (k : Nat) (p : Site), p ∈ b.sitesFrom k → ∀ outer, p.path = outer ++ step :: inner →
      ⟨outer, step.index, step.stmt⟩ ∈ b.sitesFrom k)
    (Q := fun s => ∀ (k : Nat) (p : Site), p ∈ s.sites k → ∀ outer, p.path = outer ++ step :: inner →
      ⟨outer, step.index, step.stmt⟩ ∈ s.sites k) ?_ ?_ ?_ b 0 p hp outer hpath
  · intro span k p hp
    cases hp
  · intro s rest hs hrest k p hp outer hpath
    rw [Block.sitesFrom, List.mem_append] at hp ⊢
    rcases hp with hp | hp
    · exact Or.inl (hs k p hp outer hpath)
    · exact Or.inr (hrest (k + 1) p hp outer hpath)
  · intro s hblocks k p hp outer hpath
    rw [Stmt.mem_sites] at hp ⊢
    rcases hp with rfl | ⟨arm, body, hbody, q, hq, rfl⟩
    · simp at hpath
    · cases outer with
      | nil =>
        rw [Site.under_path, List.nil_append, List.cons.injEq] at hpath
        exact Or.inl (by rw [← hpath.1])
      | cons first outer =>
        rw [Site.under_path, List.cons_append, List.cons.injEq] at hpath
        refine Or.inr ⟨arm, body, hbody, _, hblocks arm body hbody 0 q hq outer hpath.2, ?_⟩
        rw [Site.under, ← hpath.1]

/-- Every step of the way to a site enters a block of its statement. -/
theorem Block.mem_blocks_of_step {b : Block} {p : Site} (hp : p ∈ b.sites) {step : Step}
    (hstep : step ∈ p.path) : ∃ body, (step.arm, body) ∈ step.stmt.blocks := by
  refine Block.of_blocks
    (P := fun b => ∀ (k : Nat) (p : Site), p ∈ b.sitesFrom k → step ∈ p.path →
      ∃ body, (step.arm, body) ∈ step.stmt.blocks)
    (Q := fun s => ∀ (k : Nat) (p : Site), p ∈ s.sites k → step ∈ p.path →
      ∃ body, (step.arm, body) ∈ step.stmt.blocks) ?_ ?_ ?_ b 0 p hp hstep
  · intro span k p hp
    cases hp
  · intro s rest hs hrest k p hp hstep
    rcases List.mem_append.1 hp with hp | hp
    · exact hs k p hp hstep
    · exact hrest (k + 1) p hp hstep
  · intro s hblocks k p hp hstep
    rcases Stmt.mem_sites.1 hp with rfl | ⟨arm, body, hbody, q, hq, rfl⟩
    · cases hstep
    · rcases List.mem_cons.1 hstep with rfl | hstep
      · exact ⟨body, hbody⟩
      · exact hblocks arm body hbody 0 q hq hstep

/-- What lies inside a block of a statement lies behind the way to that statement. -/
theorem Block.mem_sites_of_blocks {b body : Block} {p q : Site} {arm : Arm} (hp : p ∈ b.sites)
    (hbody : (arm, body) ∈ p.stmt.blocks) (hq : q ∈ body.sites) :
    ⟨p.path ++ ⟨p.index, p.stmt, arm⟩ :: q.path, q.index, q.stmt⟩ ∈ b.sites := by
  refine Block.of_blocks
    (P := fun b => ∀ (k : Nat) (p : Site), p ∈ b.sitesFrom k → (arm, body) ∈ p.stmt.blocks →
      ⟨p.path ++ ⟨p.index, p.stmt, arm⟩ :: q.path, q.index, q.stmt⟩ ∈ b.sitesFrom k)
    (Q := fun s => ∀ (k : Nat) (p : Site), p ∈ s.sites k → (arm, body) ∈ p.stmt.blocks →
      ⟨p.path ++ ⟨p.index, p.stmt, arm⟩ :: q.path, q.index, q.stmt⟩ ∈ s.sites k) ?_ ?_ ?_ b 0 p hp hbody
  · intro span k p hp
    cases hp
  · intro s rest hs hrest k p hp hbody
    rw [Block.sitesFrom, List.mem_append] at hp ⊢
    rcases hp with hp | hp
    · exact Or.inl (hs k p hp hbody)
    · exact Or.inr (hrest (k + 1) p hp hbody)
  · intro s hblocks k p hp hbody
    rw [Stmt.mem_sites] at hp ⊢
    rcases hp with rfl | ⟨arm', outer, houter, p', hp', rfl⟩
    · exact Or.inr ⟨arm, body, hbody, q, hq, rfl⟩
    · exact Or.inr ⟨arm', outer, houter, _, hblocks arm' outer houter 0 p' hp' hbody, rfl⟩

end Lanewise
