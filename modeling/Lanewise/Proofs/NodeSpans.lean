import Lanewise.Proofs.JointActions
import Lanewise.Proofs.RegionRecords
import Mathlib.Data.List.Nodup
import Mathlib.Data.List.Pairwise
import Mathlib.Data.List.Perm.Subperm

/-!
# The spans of all nodes

A node of a program is a constant, a function, a name, a block, a statement, an expression, a type or a
lane constraint. `Program.spans` lists the spans of all nodes, one for each; the nodes that a traversal
meets are among them (`Program.nodes_subperm_spans`).

What the passes hand to one another is keyed by spans: the record of types by those of expressions and
names, the mask points of a report by those of statements, and the inputs of a mask by those of conditions
and scrutinees. All these belong to different nodes (`Block.keySpans_subperm`). So if no two nodes share a
span, every look-up finds what was put down for the node that it asks about, and nothing else.
-/

set_option autoImplicit false

namespace Lanewise

/-! ### Types and expressions -/

/-- The spans of a type and of all that it is written with, its own first. -/
def TypeExpr.spans : TypeExpr → List Span
  | .named span _ => [span]
  | .varying span elem lanes => span :: (elem.spans ++ lanes.toList.map Constraint.span)
  | .chan span elem => span :: elem.spans

/-- The spans of a type, if there is one. -/
def TypeExpr.spansOf (type : Option TypeExpr) : List Span :=
  type.toList.flatMap TypeExpr.spans

mutual

/-- The spans of an expression and of all that it is written with, its own first. -/
def Expr.spans : Expr → List Span
  | .int span _ => [span]
  | .float span _ => [span]
  | .bool span _ => [span]
  | .ident span _ => [span]
  | .unary span _ operand => span :: operand.spans
  | .binary span _ left right => span :: (left.spans ++ right.spans)
  | .cast span operand target => span :: (operand.spans ++ target.spans)
  | .call span callee args => span :: callee.span :: Expr.spansOf args
  | .range span first last => span :: (first.spans ++ last.spans)
  | .recv span chan => span :: chan.spans

/-- The spans of several expressions. -/
def Expr.spansOf : List Expr → List Span
  | [] => []
  | e :: rest => e.spans ++ Expr.spansOf rest

end

/-- The spans of several expressions are those of each, one after the other. -/
theorem Expr.spansOf_eq_flatMap (es : List Expr) : Expr.spansOf es = es.flatMap Expr.spans := by
  induction es with
  | nil => rfl
  | cons e rest ih => rw [Expr.spansOf, ih, List.flatMap_cons]

/-- The span of an expression is among its spans. -/
theorem Expr.span_mem_spans (e : Expr) : e.span ∈ e.spans := by
  cases e <;> exact List.mem_cons_self

/-! ### Statements -/

mutual

/-- The spans of a statement and of all that it is written with, its own first. -/
def Stmt.spans : Stmt → List Span
  | .declare span name type value => span :: name.span :: (TypeExpr.spansOf type ++ value.spans)
  | .assign span target value => span :: target.span :: value.spans
  | .ifThen span cond thenArm => span :: (cond.spans ++ thenArm.spans)
  | .ifElse span cond thenArm elseArm => span :: (cond.spans ++ thenArm.spans ++ elseArm.spans)
  | .switch span scrutinee arms => span :: (scrutinee.spans ++ arms.spans)
  | .typeSwitch span binding scrutinee arms => span :: binding.span :: (scrutinee.spans ++ arms.spans)
  | .forIn span var iterable body => span :: var.span :: (iterable.spans ++ body.spans)
  | .whileLoop span cond body => span :: (cond.spans ++ body.spans)
  | .goFor span var range lanes body =>
    span :: var.span :: (range.spans ++ lanes.toList.map Constraint.span ++ body.spans)
  | .ret span value => span :: Expr.spansOf value.toList
  | .brk span => [span]
  | .cont span => [span]
  | .panic span value => span :: value.spans
  | .defer span call => span :: call.spans
  | .spawn span call => span :: call.spans
  | .send span chan value => span :: (chan.spans ++ value.spans)
  | .eval span value => span :: value.spans

/-- The spans of a block and of all that it is written with, its own last. -/
def Block.spans : Block → List Span
  | .nil span => [span]
  | .cons first rest => first.spans ++ rest.spans

/-- The spans of all that the arms of a switch are written with. -/
def Arms.spans : Arms → List Span
  | .nil => []
  | .default body => body.spans
  | .case values body rest => Expr.spansOf values ++ body.spans ++ rest.spans

/-- The spans of all that the arms of a type switch are written with. -/
def LaneArms.spans : LaneArms → List Span
  | .nil => []
  | .default body => body.spans
  | .case lanes body rest => lanes.span :: (body.spans ++ rest.spans)

end

/-! ### Declarations -/

/-- The spans of a parameter: those of its name and of its type. -/
def Param.spans (p : Param) : List Span :=
  p.name.span :: p.type.spans

/-- The spans of a function and of all that it is written with, its own first. -/
def Function.spans (f : Function) : List Span :=
  f.span :: f.name.span :: (f.params.flatMap Param.spans ++ TypeExpr.spansOf f.result ++ f.body.spans)

/-- The spans of a constant and of all that it is written with, its own first. -/
def Constant.spans (c : Constant) : List Span :=
  c.span :: c.name.span :: c.value.spans

/-- The spans of all nodes of a program. -/
def Program.spans (p : Program) : List Span :=
  p.constants.flatMap Constant.spans ++ p.functions.flatMap Function.spans

/-! ### Parts of lists -/

section Lists

variable {α β : Type}

/-- Lists that are parts of others, one by one, are so when joined. -/
theorem flatMap_subperm_flatMap {f g : α → List β} {l : List α} (h : ∀ x ∈ l, (f x).Subperm (g x)) :
    (l.flatMap f).Subperm (l.flatMap g) := by
  induction l with
  | nil => exact List.Subperm.refl _
  | cons x rest ih =>
    obtain ⟨hx, hrest⟩ := List.forall_mem_cons.1 h
    rw [List.flatMap_cons, List.flatMap_cons]
    exact hx.append (ih hrest)

/-- One element from each list is a part of the joined lists. -/
theorem map_subperm_flatMap {f : α → β} {g : α → List β} (h : ∀ x, f x ∈ g x) (l : List α) :
    (l.map f).Subperm (l.flatMap g) := by
  rw [List.map_eq_flatMap]
  exact flatMap_subperm_flatMap fun x _ => List.singleton_subperm_iff.2 (h x)

/-- Each list is a part of the joined lists. -/
theorem subperm_flatMap_of_mem {f : α → List β} {l : List α} {x : α} (h : x ∈ l) :
    (f x).Subperm (l.flatMap f) := by
  obtain ⟨before, after, rfl⟩ := List.append_of_mem h
  rw [List.flatMap_append, List.flatMap_cons]
  exact ((List.sublist_append_left _ _).trans (List.sublist_append_right _ _)).subperm

/-- A part of a list without repetition has none. -/
theorem nodup_of_subperm {l l' : List α} (h : l.Subperm l') (hnodup : l'.Nodup) : l.Nodup := by
  obtain ⟨middle, hperm, hsub⟩ := h
  exact hperm.nodup_iff.1 (hnodup.sublist hsub)

/-- A search finds the only element that it can find. -/
theorem find?_eq_some_of_unique {p : α → Bool} {l : List α} {x : α} (hx : x ∈ l) (hp : p x = true)
    (hunique : ∀ y ∈ l, p y = true → y = x) : l.find? p = some x := by
  obtain ⟨y, hy⟩ := Option.isSome_iff_exists.1 (List.find?_isSome.2 ⟨x, hx, hp⟩)
  rw [hy, hunique y (List.mem_of_find?_eq_some hy) (List.find?_some hy)]

/-- Lists without a common element are told apart by any of their elements. -/
theorem eq_of_nodup_flatMap {f : α → List β} {l : List α} (h : (l.flatMap f).Nodup) {x y : α}
    (hx : x ∈ l) (hy : y ∈ l) {b : β} (hbx : b ∈ f x) (hby : b ∈ f y) : x = y := by
  by_contra hne
  have hdisjoint := (List.nodup_flatMap.1 h).2
  have hsymm : Std.Symm (Function.onFun List.Disjoint f) := ⟨fun _ _ hd _ hy hx => hd hx hy⟩
  exact hdisjoint.forall hx hy hne hbx hby

end Lists

/-! ### The traversal -/

section Traversal

variable (into : Node → Bool)

/-- Entering a node adds its own span to those of what is inside. -/
theorem Node.enter_subperm {node : Node} {inside : List Node} {spans : List Span}
    (h : (inside.map Node.span).Subperm spans) :
    ((Node.enter into node inside).map Node.span).Subperm (node.span :: spans) := by
  rw [Node.enter, List.map_cons, List.subperm_cons]
  split
  · exact h
  · exact List.nil_subperm

/-- The traversal of a type meets different nodes of it. -/
theorem TypeExpr.nodes_subperm_spans (t : TypeExpr) : ((t.nodes into).map Node.span).Subperm t.spans := by
  induction t with
  | named span text => exact Node.enter_subperm into List.nil_subperm
  | varying span elem lanes ih =>
    exact Node.enter_subperm into (ih.trans (List.sublist_append_left ..).subperm)
  | chan span elem ih => exact Node.enter_subperm into ih

/-- The traversal of a type that may be left out meets different nodes of it. -/
theorem TypeExpr.nodesOf_subperm_spans (type : Option TypeExpr) :
    ((TypeExpr.nodesOf into type).map Node.span).Subperm (TypeExpr.spansOf type) := by
  cases type with
  | none => exact List.nil_subperm
  | some t =>
    rw [TypeExpr.nodesOf, TypeExpr.spansOf, Option.toList_some, List.flatMap_singleton]
    exact t.nodes_subperm_spans into

mutual

/-- The traversal of an expression meets different nodes of it. The proof goes over the expression and the
arguments of calls together. -/
theorem Expr.nodes_subperm_spans (e : Expr) : ((e.nodes into).map Node.span).Subperm e.spans := by
  match e with
  | .int .. | .float .. | .bool .. | .ident .. => exact Node.enter_subperm into List.nil_subperm
  | .unary _ _ operand => exact Node.enter_subperm into (Expr.nodes_subperm_spans operand)
  | .recv _ chan => exact Node.enter_subperm into (Expr.nodes_subperm_spans chan)
  | .binary _ _ left right | .range _ left right =>
    refine Node.enter_subperm into ?_
    rw [List.map_append]
    exact (Expr.nodes_subperm_spans left).append (Expr.nodes_subperm_spans right)
  | .cast _ operand target =>
    refine Node.enter_subperm into ?_
    rw [List.map_append]
    exact (Expr.nodes_subperm_spans operand).append (target.nodes_subperm_spans into)
  | .call _ callee args =>
    exact Node.enter_subperm into ((Expr.nodesOf_subperm_spans args).cons_right callee.span)

/-- The traversal of several expressions meets different nodes of them. -/
theorem Expr.nodesOf_subperm_spans (es : List Expr) :
    ((Expr.nodesOf into es).map Node.span).Subperm (Expr.spansOf es) := by
  match es with
  | [] => exact List.nil_subperm
  | e :: rest =>
    rw [Expr.nodesOf, List.map_append]
    exact (Expr.nodes_subperm_spans e).append (Expr.nodesOf_subperm_spans rest)

end

/-- The traversal of a block meets its own node and what is inside. -/
theorem Block.nodes_subperm {b : Block} {spans : List Span}
    (h : (b.span :: (b.inside into).map Node.span).Subperm spans) :
    ((b.nodes into).map Node.span).Subperm spans :=
  (Node.enter_subperm into (List.Subperm.refl _)).trans h

mutual

/-- The traversal of a statement meets different nodes of it. The proof goes over the statement, its blocks
and its arms together. -/
theorem Stmt.nodes_subperm_spans (s : Stmt) : ((s.nodes into).map Node.span).Subperm s.spans := by
  match s with
  | .brk _ | .cont _ | .ret _ none => exact Node.enter_subperm into List.nil_subperm
  | .panic _ value | .defer _ value | .spawn _ value | .eval _ value =>
    exact Node.enter_subperm into (value.nodes_subperm_spans into)
  | .ret _ (some value) =>
    rw [Stmt.spans, Expr.spansOf_eq_flatMap, Option.toList_some, List.flatMap_singleton]
    exact Node.enter_subperm into (value.nodes_subperm_spans into)
  | .assign _ target value =>
    exact Node.enter_subperm into ((value.nodes_subperm_spans into).cons_right target.span)
  | .send _ chan value =>
    refine Node.enter_subperm into ?_
    rw [List.map_append]
    exact (chan.nodes_subperm_spans into).append (value.nodes_subperm_spans into)
  | .declare _ name type value =>
    refine Node.enter_subperm into (List.Subperm.cons_right name.span ?_)
    rw [List.map_append]
    exact (TypeExpr.nodesOf_subperm_spans into type).append (value.nodes_subperm_spans into)
  | .ifThen _ cond body | .whileLoop _ cond body =>
    refine Node.enter_subperm into ?_
    have hbody := Block.nodes_subperm into (Block.inside_subperm_spans body)
    rw [List.map_append]
    exact (cond.nodes_subperm_spans into).append hbody
  | .ifElse _ cond thenArm elseArm =>
    refine Node.enter_subperm into ?_
    have hthen := Block.nodes_subperm into (Block.inside_subperm_spans thenArm)
    have helse := Block.nodes_subperm into (Block.inside_subperm_spans elseArm)
    rw [List.map_append, List.map_append]
    exact ((cond.nodes_subperm_spans into).append hthen).append helse
  | .switch _ scrutinee arms =>
    refine Node.enter_subperm into ?_
    rw [List.map_append]
    exact (scrutinee.nodes_subperm_spans into).append (Arms.nodes_subperm_spans arms)
  | .typeSwitch _ binding scrutinee arms =>
    refine Node.enter_subperm into (List.Subperm.cons_right binding.span ?_)
    rw [List.map_append]
    exact (scrutinee.nodes_subperm_spans into).append (LaneArms.nodes_subperm_spans arms)
  | .forIn _ var iterable body =>
    refine Node.enter_subperm into (List.Subperm.cons_right var.span ?_)
    have hbody := Block.nodes_subperm into (Block.inside_subperm_spans body)
    rw [List.map_append]
    exact (iterable.nodes_subperm_spans into).append hbody
  | .goFor _ var range lanes body =>
    refine Node.enter_subperm into (List.Subperm.cons_right var.span ?_)
    have hrange := (range.nodes_subperm_spans into).trans
      (List.sublist_append_left _ (lanes.toList.map Constraint.span)).subperm
    have hbody := Block.nodes_subperm into (Block.inside_subperm_spans body)
    rw [List.map_append]
    exact hrange.append hbody

/-- The span of a block is listed behind those of its statements. -/
theorem Block.inside_subperm_spans (b : Block) :
    (b.span :: (b.inside into).map Node.span).Subperm b.spans := by
  match b with
  | .nil _ => exact List.Subperm.refl _
  | .cons first rest =>
    rw [Block.inside, List.map_append]
    refine List.Subperm.trans List.perm_middle.symm.subperm ?_
    exact (Stmt.nodes_subperm_spans first).append (Block.inside_subperm_spans rest)

/-- The traversal of a switch's arms meets different nodes of them. -/
theorem Arms.nodes_subperm_spans (arms : Arms) : ((arms.nodes into).map Node.span).Subperm arms.spans := by
  match arms with
  | .nil => exact List.nil_subperm
  | .default body => exact Block.nodes_subperm into (Block.inside_subperm_spans body)
  | .case values body rest =>
    have hbody := Block.nodes_subperm into (Block.inside_subperm_spans body)
    rw [Arms.nodes, List.map_append, List.map_append]
    exact ((Expr.nodesOf_subperm_spans into values).append hbody).append (Arms.nodes_subperm_spans rest)

/-- The traversal of a type switch's arms meets different nodes of them. -/
theorem LaneArms.nodes_subperm_spans (arms : LaneArms) :
    ((arms.nodes into).map Node.span).Subperm arms.spans := by
  match arms with
  | .nil => exact List.nil_subperm
  | .default body => exact Block.nodes_subperm into (Block.inside_subperm_spans body)
  | .case lanes body rest =>
    have hbody := Block.nodes_subperm into (Block.inside_subperm_spans body)
    rw [LaneArms.nodes, List.map_append]
    exact (hbody.append (LaneArms.nodes_subperm_spans rest)).cons_right lanes.span

end

/-- The traversal of a function meets different nodes of it. -/
theorem Function.nodes_subperm_spans (f : Function) : ((f.nodes into).map Node.span).Subperm f.spans := by
  refine Node.enter_subperm into (List.Subperm.cons_right f.name.span ?_)
  rw [List.map_append, List.map_append, List.map_flatMap]
  have hparams := flatMap_subperm_flatMap (l := f.params) fun p _ =>
    (p.type.nodes_subperm_spans into).cons_right p.name.span
  exact (hparams.append (TypeExpr.nodesOf_subperm_spans into f.result)).append
    (Block.nodes_subperm into (f.body.inside_subperm_spans into))

/-- The nodes that a traversal of a program meets are different nodes of it. -/
theorem Program.nodes_subperm_spans (p : Program) : ((p.nodes into).map Node.span).Subperm p.spans := by
  rw [Program.nodes, List.map_append, List.map_flatMap, List.map_flatMap]
  have hconstants := flatMap_subperm_flatMap (l := p.constants) fun c _ =>
    ((c.value.nodes_subperm_spans into).cons_right c.name.span).cons_right c.span
  have hfunctions := flatMap_subperm_flatMap (l := p.functions) fun f _ => f.nodes_subperm_spans into
  exact hconstants.append hfunctions

end Traversal

/-! ### Spans under which something is recorded -/

/-- The spans under which something is recorded about a statement by itself: its own, which has a mask, and
those of its expressions and of the names that it writes, which have types. -/
def Stmt.keySpans (s : Stmt) : List Span :=
  s.span :: s.recordedSpans

/-- The spans of a switch's arms are those of their values and those of their bodies. -/
theorem Arms.spans_perm : ∀ (arms : Arms) (k : Nat),
    (arms.values.flatMap Expr.spans ++ (arms.blocks k).flatMap fun entry => entry.2.spans).Perm arms.spans
  | .nil, _ => .refl _
  | .default body, k => by simp [Arms.values, Arms.blocks, Arms.spans]
  | .case values body rest, k => by
    rw [Arms.values, Arms.blocks, Arms.spans, Expr.spansOf_eq_flatMap, List.flatMap_append, List.flatMap_cons]
    refine List.Perm.trans ?_ ((Arms.spans_perm rest (k + 1)).append_left _)
    rw [List.append_assoc, List.append_assoc]
    refine .append_left _ ?_
    exact List.perm_append_comm_assoc ..

/-- The bodies of a type switch's arms are different parts of them. -/
theorem LaneArms.blocks_subperm_spans : ∀ (arms : LaneArms) (k : Nat),
    ((arms.blocks k).flatMap fun entry => entry.2.spans).Subperm arms.spans
  | .nil, _ => .refl _
  | .default body, k => by
    rw [LaneArms.blocks, LaneArms.spans, List.flatMap_singleton]
  | .case lanes body rest, k => by
    rw [LaneArms.blocks, LaneArms.spans, List.flatMap_cons]
    have hrest := (List.Subperm.refl body.spans).append (LaneArms.blocks_subperm_spans rest (k + 1))
    exact hrest.trans (List.sublist_cons_self _ _).subperm

/-- The expressions, the written names and the blocks of a statement are different parts of it. -/
theorem Stmt.parts_subperm_spans (s : Stmt) :
    (s.span :: (s.exprs.flatMap Expr.spans ++ s.names.map Name.span ++
      s.blocks.flatMap fun entry => entry.2.spans)).Subperm s.spans := by
  cases s with
  | switch span scrutinee arms =>
    rw [Stmt.spans, Stmt.exprs, List.flatMap_cons, List.append_assoc, List.append_assoc]
    exact (((arms.spans_perm 0).append_left scrutinee.spans).cons span).subperm
  | typeSwitch span binding scrutinee arms =>
    have hnames : (Stmt.typeSwitch span binding scrutinee arms).names = [] := rfl
    rw [Stmt.spans, Stmt.exprs, List.flatMap_singleton, hnames, List.map_nil, List.append_nil]
    have hparts := (List.Subperm.refl scrutinee.spans).append (arms.blocks_subperm_spans 0)
    exact (List.subperm_cons span).2 (hparts.cons_right binding.span)
  | _ =>
    -- the parts are listed in another order, so each span is counted
    refine List.subperm_ext_iff.2 fun x _ => ?_
    simp only [Stmt.spans, Stmt.exprs, Stmt.names, Stmt.blocks, Stmt.span, Expr.spansOf_eq_flatMap,
      List.flatMap_cons, List.flatMap_nil, List.map_cons, List.map_nil, List.count_cons, List.count_append,
      List.count_nil]
    omega

/-- What is recorded about a statement and what is written in its blocks are different parts of it. -/
theorem Stmt.keySpans_subperm_spans (s : Stmt) :
    (s.keySpans ++ s.blocks.flatMap fun entry => entry.2.spans).Subperm s.spans := by
  refine List.Subperm.trans ?_ s.parts_subperm_spans
  have hexprs := map_subperm_flatMap Expr.span_mem_spans s.exprs
  have hnames := hexprs.append (List.Subperm.refl (s.names.map Name.span))
  exact (List.subperm_cons _).2 (hnames.append (List.Subperm.refl _))

/-- Whatever is recorded about the statements of a block is recorded under the spans of different nodes. -/
theorem Block.keySpans_subperm (b : Block) : (b.sites.flatMap fun p => p.stmt.keySpans).Subperm b.spans := by
  refine Block.of_blocks
    (P := fun b => ∀ k, ((b.sitesFrom k).flatMap fun p => p.stmt.keySpans).Subperm b.spans)
    (Q := fun s => ∀ k, ((s.sites k).flatMap fun p => p.stmt.keySpans).Subperm s.spans)
    ?_ ?_ ?_ b 0
  · intro span k
    exact List.nil_subperm
  · intro s rest hs hrest k
    rw [Block.sitesFrom, List.flatMap_append]
    exact (hs k).append (hrest (k + 1))
  · intro s hblocks k
    rw [Stmt.sites_eq, List.flatMap_cons, List.flatMap_assoc]
    refine List.Subperm.trans (List.Subperm.append (.refl _) ?_) s.keySpans_subperm_spans
    refine flatMap_subperm_flatMap fun entry hentry => ?_
    rw [Block.sitesBehind, List.flatMap_map]
    exact hblocks entry.1 entry.2 hentry 0

/-- A block of a statement is a part of it. -/
theorem Stmt.block_subperm_spans {s : Stmt} {entry : Arm × Block} (h : entry ∈ s.blocks) :
    entry.2.spans.Subperm s.spans := by
  have hblocks : entry.2.spans.Subperm (s.blocks.flatMap fun entry => entry.2.spans) :=
    @subperm_flatMap_of_mem _ _ (fun entry => entry.2.spans) _ _ h
  exact (hblocks.trans (List.sublist_append_right ..).subperm).trans s.keySpans_subperm_spans

/-- The body of a go-for is a part of the block that the go-for lies in. -/
theorem Block.goFor_subperm_spans {b : Block} {found : Span × Block} (h : found ∈ b.goFors) :
    found.2.spans.Subperm b.spans := by
  refine Block.of_blocks
    (P := fun b => found ∈ b.goFors → found.2.spans.Subperm b.spans)
    (Q := fun s => found ∈ s.goFors → found.2.spans.Subperm s.spans) ?_ ?_ ?_ b h
  · intro span h
    cases h
  · intro s rest hs hrest h
    rcases List.mem_append.1 h with h | h
    · exact (hs h).trans (List.sublist_append_left ..).subperm
    · exact (hrest h).trans (List.sublist_append_right ..).subperm
  · intro s hblocks h
    rcases Stmt.mem_goFors h with hbody | ⟨arm, b, hb, hfound⟩
    · exact Stmt.block_subperm_spans hbody
    · exact (hblocks arm b hb hfound).trans (Stmt.block_subperm_spans hb)

/-- The body of a function is a part of it. -/
theorem Function.body_subperm_spans (f : Function) : f.body.spans.Subperm f.spans :=
  ((List.sublist_append_right ..).cons _ |>.cons _).subperm

/-- The body of a region is a part of its function. -/
theorem Function.region_subperm_spans {f : Function} {sig : Signature} {r : Region}
    (hr : r ∈ f.regions sig) : r.body.spans.Subperm f.spans := by
  unfold Function.regions at hr
  split at hr
  · rw [List.mem_singleton.1 hr]
    exact f.body_subperm_spans
  · obtain ⟨found, hfound, rfl⟩ := List.mem_map.1 hr
    exact (Block.goFor_subperm_spans hfound).trans f.body_subperm_spans

/-- A function of a program is a part of it. -/
theorem Program.function_subperm_spans {p : Program} {f : Function} (hf : f ∈ p.functions) :
    f.spans.Subperm p.spans :=
  (subperm_flatMap_of_mem hf).trans (List.sublist_append_right ..).subperm

/-! ### The type record -/

/-- If no two nodes of a function share a span, the record of its check holds what was noted at its
statements, and nothing else. -/
theorem Function.find?_iff_of_check {f : Function} {env env' : Env} {types : TypeRecord}
    (hspans : f.spans.Nodup) (h : f.check env = (.ok types, env')) (span : Span) (t : LaneType) :
    types.find? span = some t ↔ ∃ x ∈ f.standings env, (span, t) ∈ x.notes := by
  obtain ⟨-, written, hperm, rfl⟩ := Function.check_ok h
  have hkeys : (f.body.sites.flatMap fun p => p.stmt.keySpans).Nodup :=
    nodup_of_subperm (f.body.keySpans_subperm.trans f.body_subperm_spans) hspans
  have hrecorded : (written.map Prod.fst).Nodup := by
    rw [(hperm.map Prod.fst).nodup_iff, Function.map_fst_notes]
    exact nodup_of_subperm
      (flatMap_subperm_flatMap fun p _ => (List.sublist_cons_self ..).subperm) hkeys
  have hmem : (span, t) ∈ written ↔ ∃ x ∈ f.standings env, (span, t) ∈ x.notes := by
    rw [hperm.mem_iff, List.mem_flatMap]
  rw [← hmem]
  constructor
  · intro hfind
    by_cases hspan : span ∈ written.map Prod.fst
    · obtain ⟨entry, hentry, rfl⟩ := List.mem_map.1 hspan
      have hfound := CheckState.find?_note_of_mem ⟨env, .empty⟩ written hrecorded hentry
      rw [hfound, Option.some.injEq] at hfind
      rw [← hfind]
      exact hentry
    · rw [CheckState.find?_note_of_notMem _ _ hspan] at hfind
      cases hfind
  · exact CheckState.find?_note_of_mem ⟨env, .empty⟩ written hrecorded

/-! ### Mask points -/

/-- The report of a region has one mask point for each of its statements, in order. -/
theorem Region.points_of_analyze {r : Region} {env : Env} {types : TypeRecord} {report : RegionReport}
    (h : r.analyze env types = .ok report) :
    (report.visits r.body).map Visit.site = r.body.sites ∧
      report.points = (report.visits r.body).map Visit.point := by
  obtain ⟨-, rfl⟩ := Region.analyze_eq_ok.1 h
  rw [r.visits_report]
  exact ⟨r.map_site_record _, rfl⟩

/-- If no two nodes in the body of a region share a span, a look-up by span gives the mask of the statement
at that span, and there is none at any other span. -/
theorem Region.maskAt?_iff_of_analyze {r : Region} {env : Env} {types : TypeRecord} {report : RegionReport}
    (hspans : r.body.spans.Nodup) (h : r.analyze env types = .ok report) (span : Span) (mask : Nat) :
    report.maskAt? span = some mask ↔
      ∃ v ∈ report.visits r.body, v.site.stmt.span = span ∧ v.mask = mask := by
  obtain ⟨-, rfl⟩ := Region.analyze_eq_ok.1 h
  rw [r.visits_report]
  have hkeys := nodup_of_subperm r.body.keySpans_subperm hspans
  have hstmts : (r.body.sites.map fun p => p.stmt.span).Nodup :=
    nodup_of_subperm (map_subperm_flatMap (fun _ => List.mem_cons_self) _) hkeys
  constructor
  · intro hmask
    obtain ⟨point, hfind, rfl⟩ := Option.map_eq_some_iff.1 hmask
    obtain ⟨v, hv, rfl⟩ := List.mem_map.1 (List.mem_of_find?_eq_some hfind)
    have hspan := List.find?_some hfind
    exact ⟨v, hv, of_decide_eq_true hspan, rfl⟩
  · rintro ⟨v, hv, rfl, rfl⟩
    exact RegionReport.maskAt?_of_mem hstmts hv

/-! ### Mask inputs -/

/-- The sites of all functions of a program, each with its function. -/
def Program.sites (p : Program) : List (Function × Site) :=
  p.functions.flatMap fun f => f.body.sites.map fun site => (f, site)

/-- The sites of a program are those in the bodies of its functions. -/
theorem Program.mem_sites {p : Program} {f : Function} {site : Site} :
    (f, site) ∈ p.sites ↔ f ∈ p.functions ∧ site ∈ f.body.sites := by
  simp [Program.sites]

/-- Whether a statement is decided by the expression at a span. -/
def Stmt.decidedAt (span : Span) (s : Stmt) : Bool :=
  s.decision?.any fun e => e.span = span

/-- A statement is decided at the span of its decision and at no other. -/
theorem Stmt.decidedAt_eq_true {s : Stmt} {span : Span} :
    s.decidedAt span = true ↔ ∃ e, s.decision? = some e ∧ e.span = span := by
  rw [Stmt.decidedAt, Option.any_eq_true]
  simp only [decide_eq_true_eq]

/-- The span at which a statement is decided is one under which something is recorded. -/
theorem Stmt.mem_keySpans_of_decidedAt {s : Stmt} {span : Span} (h : s.decidedAt span = true) :
    span ∈ s.keySpans := by
  obtain ⟨e, he, rfl⟩ := Stmt.decidedAt_eq_true.1 h
  have hexpr : e.span ∈ s.exprs.map Expr.span := List.mem_map_of_mem (Stmt.decision?_mem_exprs he)
  exact List.mem_cons_of_mem _ (List.mem_append_left _ hexpr)

/-- The site of a program that the expression at a span decides. -/
def Program.siteDecidedAt? (p : Program) (span : Span) : Option (Function × Site) :=
  p.sites.find? fun x => x.2.stmt.decidedAt span

/-- The inputs that give every decision of a program the lanes chosen for its statement. -/
def Program.inputs (p : Program) (entry : EntryMask → Mask) (holds : Function → Site → Mask)
    (meets : Function → Site → Nat → Mask) : MaskInputs where
  entry := entry
  condition span := (p.siteDecidedAt? span).map fun x => holds x.1 x.2
  caseMatch span k := (p.siteDecidedAt? span).map fun x => meets x.1 x.2 k

/-- Whatever is recorded about the statements of a program is recorded under the spans of different nodes. -/
theorem Program.keySpans_subperm (p : Program) :
    (p.sites.flatMap fun x => x.2.stmt.keySpans).Subperm p.spans := by
  rw [Program.sites, List.flatMap_assoc]
  refine List.Subperm.trans (flatMap_subperm_flatMap fun f _ => ?_) (List.sublist_append_right ..).subperm
  rw [List.flatMap_map]
  exact f.body.keySpans_subperm.trans f.body_subperm_spans

/-- If no two nodes of a program share a span, the span of a decision leads to its statement. -/
theorem Program.siteDecidedAt?_of_mem {p : Program} (hspans : p.spans.Nodup) {f : Function}
    (hf : f ∈ p.functions) {site : Site} (hsite : site ∈ f.body.sites) {e : Expr}
    (he : site.stmt.decision? = some e) : p.siteDecidedAt? e.span = some (f, site) := by
  have hkeys := nodup_of_subperm p.keySpans_subperm hspans
  have hmem : (f, site) ∈ p.sites := Program.mem_sites.2 ⟨hf, hsite⟩
  have hdecides : site.stmt.decidedAt e.span = true := Stmt.decidedAt_eq_true.2 ⟨e, he, rfl⟩
  refine find?_eq_some_of_unique hmem hdecides fun y hy hdecidedAt => ?_
  exact eq_of_nodup_flatMap hkeys hy hmem (Stmt.mem_keySpans_of_decidedAt hdecidedAt)
    (Stmt.mem_keySpans_of_decidedAt hdecides)

/-- If no two nodes of a program share a span, lanes can be given to every decision by itself. -/
theorem Program.inputs_of_mem {p : Program} (hspans : p.spans.Nodup) (entry : EntryMask → Mask)
    (holds : Function → Site → Mask) (meets : Function → Site → Nat → Mask) {f : Function}
    (hf : f ∈ p.functions) {site : Site} (hsite : site ∈ f.body.sites) {e : Expr}
    (he : site.stmt.decision? = some e) :
    (p.inputs entry holds meets).condition e.span = some (holds f site) ∧
      ∀ k, (p.inputs entry holds meets).caseMatch e.span k = some (meets f site k) := by
  have hfound := Program.siteDecidedAt?_of_mem hspans hf hsite he
  constructor
  · show (p.siteDecidedAt? e.span).map (fun x => holds x.1 x.2) = some (holds f site)
    rw [hfound, Option.map_some]
  · intro k
    show (p.siteDecidedAt? e.span).map (fun x => meets x.1 x.2 k) = some (meets f site k)
    rw [hfound, Option.map_some]

end Lanewise
