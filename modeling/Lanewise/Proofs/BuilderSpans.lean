import Lanewise.Proofs.NodeSpans
import Lanewise.Syntax.Builder
import Mathlib.Logic.Relation

/-!
# Builders give every node a span of its own

A builder call makes one node out of nodes that exist already, and takes the spans of what it adds from the
cursor. `Builder.Spends` says this of a call: the result has the spans of the nodes that went into it and
the spans that were taken, each once.

A program is built on a bench, which holds the cursor and the nodes that were made and not yet used. A step
is one builder call; it may take any nodes of the bench, in any order, and they leave the bench. So no node
is used twice, and none is moved to another span. Whatever the order of the calls, the spans on the bench are
those that were taken from the cursor so far (`Bench.Reached.accounted`).
-/

set_option autoImplicit false

namespace Lanewise

/-! ### Spans that are apart -/

/-- Whether two spans lie in different files, or one of them ends before the other one starts: they neither
overlap nor touch. -/
def Span.Apart (a b : Span) : Prop :=
  a.file ≠ b.file ∨ a.stop < b.start ∨ b.stop < a.start

instance : DecidableRel Span.Apart :=
  fun a b => inferInstanceAs (Decidable (a.file ≠ b.file ∨ a.stop < b.start ∨ b.stop < a.start))

/-- Spans that touch are not apart. -/
example : ¬ (Span.between 0 2).Apart (Span.between 2 3) := by decide

/-- The first `count` spans that are taken from a cursor. -/
def Builder.taken (cursor count : Nat) : List Span :=
  (List.range count).map fun i => Span.between (cursor + 2 * i) (cursor + 2 * i + 1)

/-- A block's spans are those of its statements and its own. -/
theorem Block.spans_ofList (span : Span) (stmts : List Stmt) :
    (Block.ofList span stmts).spans = stmts.flatMap Stmt.spans ++ [span] := by
  induction stmts with
  | nil => rfl
  | cons s rest ih => rw [Block.ofList, Block.spans, ih, List.flatMap_cons, List.append_assoc]

namespace Builder

/-- Taking some spans and then some more is taking them all at once, from where the first ones end. -/
theorem taken_add (cursor m n : Nat) :
    taken cursor (m + n) = taken cursor m ++ taken (cursor + 2 * m) n := by
  have hlater (i : Nat) : cursor + 2 * (m + i) = cursor + 2 * m + 2 * i := by omega
  rw [taken, List.range_add, List.map_append, List.map_map]
  refine congrArg (taken cursor m ++ ·) (List.map_congr_left fun i _ => ?_)
  rw [Function.comp_apply, hlater]

/-- The spans that are taken from a cursor are distinct, and no two of them overlap. -/
theorem taken_pairwise (cursor count : Nat) :
    (taken cursor count).Pairwise fun a b => a ≠ b ∧ a.Apart b := by
  rw [taken, List.pairwise_map]
  refine List.Pairwise.imp ?_ List.pairwise_lt_range
  intro i j hlt
  constructor
  · intro heq
    have hstart : cursor + 2 * i = cursor + 2 * j := congrArg Span.start heq
    omega
  · have hfree : cursor + 2 * i + 1 < cursor + 2 * j := by omega
    exact Or.inr (Or.inl hfree)

/-! ### What a builder takes from the cursor -/

variable {α β : Type} {spansA : α → List Span} {spansB : β → List Span} {used usedA : List Span}

/-- Whether the spans of what is built are those in `used` and those that are taken from the cursor. -/
def Spends (spansA : α → List Span) (used : List Span) (build : Builder α) : Prop :=
  ∀ cursor, ∃ count, (build.run cursor).2 = cursor + 2 * count ∧
    (spansA (build.run cursor).1).Perm (used ++ taken cursor count)

/-- What is taken for a part moves behind all that is used for the whole. -/
theorem append_perm_of_perm {l rest extra : List Span} (h : l.Perm (usedA ++ extra))
    (hused : used.Perm (usedA ++ rest)) : (l ++ rest).Perm (used ++ extra) := by
  refine (h.append_right rest).trans ?_
  rw [List.append_assoc]
  refine (List.perm_append_comm.append_left usedA).trans ?_
  rw [← List.append_assoc]
  exact hused.symm.append_right extra

/-- The second builder goes on from the cursor where the first one stopped. -/
theorem run_bind (build : Builder α) (next : α → Builder β) (cursor : Nat) :
    (build >>= next).run cursor = (next (build.run cursor).1).run (build.run cursor).2 := rfl

namespace Spends

/-- Handing a piece out takes nothing from the cursor. -/
theorem pure {a : α} (h : (spansA a).Perm used) : Spends spansA used (Pure.pure a) := by
  intro cursor
  refine ⟨0, rfl, ?_⟩
  show (spansA a).Perm (used ++ [])
  rw [List.append_nil]
  exact h

/-- What is built first is used by what is built next. -/
theorem bind {build : Builder α} {next : α → Builder β} (hbuild : Spends spansA usedA build)
    (rest : List Span) (hused : used.Perm (usedA ++ rest))
    (hnext : ∀ a, Spends spansB (spansA a ++ rest) (next a)) :
    Spends spansB used (build >>= next) := by
  intro cursor
  obtain ⟨m, hm, hfirst⟩ := hbuild cursor
  obtain ⟨n, hn, hsecond⟩ := hnext (build.run cursor).1 (build.run cursor).2
  rw [hm] at hn hsecond
  refine ⟨m + n, ?_, ?_⟩
  · rw [run_bind, hm, hn]
    omega
  · have hmoved := append_perm_of_perm hfirst hused
    rw [run_bind, hm, taken_add, ← List.append_assoc]
    exact hsecond.trans (hmoved.append_right _)

/-- A node takes its own span last. -/
theorem node {make : Span → α} (h : ∀ span, (spansA (make span)).Perm (span :: used)) :
    Spends spansA used (fresh >>= fun span => Pure.pure (make span)) := by
  have hfresh : Spends (fun span => [span]) [] fresh := fun cursor => ⟨1, rfl, .refl _⟩
  exact hfresh.bind used (.refl _) fun span => .pure (h span)

/-- A change of the built piece that keeps its spans keeps what the builder spends. -/
theorem map (spansA : α → List Span) {build : Builder α} {f : α → β} (h : Spends spansA used build)
    (hspans : ∀ a, spansB (f a) = spansA a) : Spends spansB used (f <$> build) := by
  intro cursor
  obtain ⟨count, hcursor, hperm⟩ := h cursor
  refine ⟨count, hcursor, ?_⟩
  show (spansB (f (build.run cursor).1)).Perm _
  rw [hspans]
  exact hperm

/-- A name is made before what it belongs to. -/
theorem name {next : Name → Builder β} (text : String)
    (hnext : ∀ n : Name, Spends spansB (n.span :: used) (next n)) :
    Spends spansB used (Builder.name text >>= next) := by
  have hname : Spends (fun n : Name => [n.span]) [] (Builder.name text) := .node fun _ => .refl _
  exact hname.bind used (.refl _) hnext

/-- A constraint takes one span, its own. -/
theorem constraint (form : Constraint.Form) :
    Spends (fun c : Constraint => [c.span]) [] (Builder.constraint form) :=
  .node fun _ => .refl _

/-- A block takes one span, its own, and keeps those of its statements. -/
theorem ofBlock (stmts : List Stmt) :
    Spends Block.spans (stmts.flatMap Stmt.spans) (Builder.block stmts) := by
  refine .node fun span => ?_
  rw [Block.spans_ofList]
  exact List.perm_append_singleton ..

/-- A block is made of its statements before what it belongs to. -/
theorem block {next : Block → Builder β} {stmts : List Stmt} (rest : List Span)
    (hused : used.Perm (stmts.flatMap Stmt.spans ++ rest))
    (hnext : ∀ b : Block, Spends spansB (b.spans ++ rest) (next b)) :
    Spends spansB used (Builder.block stmts >>= next) :=
  (ofBlock stmts).bind rest hused hnext

end Spends

/-! ### Builder calls -/

/-- Any node, or a parameter. -/
inductive Piece where
  | constraint (c : Constraint)
  | type (t : TypeExpr)
  | expr (e : Expr)
  | block (b : Block)
  | stmt (s : Stmt)
  | param (p : Param)
  | function (f : Function)
  | constant (c : Constant)

/-- The spans of a piece and of all that it is written with. -/
def Piece.spans : Piece → List Span
  | constraint c => [c.span]
  | type t => t.spans
  | expr e => e.spans
  | block b => b.spans
  | stmt s => s.spans
  | param p => p.spans
  | function f => f.spans
  | constant c => c.spans

/-- A call of a builder, with what is handed to it. -/
inductive Call where
  | constraint (form : Constraint.Form)
  | named (text : String)
  | varying (elem : String)
  | varyingWith (elem : String) (lanes : Constraint.Form)
  | chan (elem : TypeExpr)
  | int (value : Int64)
  | float (value : Float)
  | bool (value : Bool)
  | ident (text : String)
  | unary (op : UnaryOp) (operand : Expr)
  | binary (op : BinaryOp) (left right : Expr)
  | cast (operand : Expr) (target : TypeExpr)
  | call (callee : String) (args : List Expr)
  | range (first last : Expr)
  | recv (chan : Expr)
  | block (stmts : List Stmt)
  | declare (text : String) (type : Option TypeExpr) (value : Expr)
  | assign (text : String) (value : Expr)
  | ifThen (cond : Expr) (thenArm : List Stmt)
  | ifElse (cond : Expr) (thenArm elseArm : List Stmt)
  | switch (scrutinee : Expr) (cases : List (List Expr × List Stmt)) (default : Option (List Stmt))
  | typeSwitch (binding : String) (scrutinee : Expr) (cases : List (Constraint.Form × List Stmt))
    (default : Option (List Stmt))
  | forIn (var : String) (iterable : Expr) (body : List Stmt)
  | whileLoop (cond : Expr) (body : List Stmt)
  | goFor (var : String) (range : Expr) (body : List Stmt)
  | goForWith (var : String) (range : Expr) (lanes : Constraint.Form) (body : List Stmt)
  | ret (value : Option Expr)
  | brk
  | cont
  | panic (value : Expr)
  | defer (call : Expr)
  | spawn (call : Expr)
  | send (chan value : Expr)
  | eval (value : Expr)
  | param (text : String) (type : TypeExpr)
  | function (text : String) (params : List Param) (result : Option TypeExpr) (body : List Stmt)
    (isPublic : Bool)
  | constant (text : String) (value : Expr)

namespace Call

/-- The pieces that a call uses up. -/
def uses : Call → List Piece
  | constraint _ | named _ | varying _ | varyingWith .. => []
  | int _ | float _ | bool _ | ident _ | brk | cont => []
  | chan elem => [.type elem]
  | unary _ e | recv e | panic e | defer e | spawn e | eval e => [.expr e]
  | assign _ value | constant _ value => [.expr value]
  | binary _ left right | range left right | send left right => [.expr left, .expr right]
  | cast operand target => [.expr operand, .type target]
  | call _ args => args.map .expr
  | block stmts => stmts.map .stmt
  | declare _ type value => type.toList.map .type ++ [.expr value]
  | ifThen e body | whileLoop e body => .expr e :: body.map .stmt
  | forIn _ e body | goFor _ e body | goForWith _ e _ body => .expr e :: body.map .stmt
  | ifElse cond thenArm elseArm => .expr cond :: (thenArm.map .stmt ++ elseArm.map .stmt)
  | switch scrutinee cases default =>
    .expr scrutinee :: (cases.flatMap (fun c => c.1.map .expr ++ c.2.map .stmt) ++
      (default.getD []).map .stmt)
  | typeSwitch _ scrutinee cases default =>
    .expr scrutinee :: (cases.flatMap (fun c => c.2.map .stmt) ++ (default.getD []).map .stmt)
  | ret value => value.toList.map .expr
  | param _ type => [.type type]
  | function _ params result body _ =>
    params.map .param ++ result.toList.map .type ++ body.map .stmt

/-- What a call builds. -/
def build : Call → Builder Piece
  | constraint form => .constraint <$> Builder.constraint form
  | named text => .type <$> Builder.named text
  | varying elem => .type <$> Builder.varying elem
  | varyingWith elem lanes => .type <$> Builder.varyingWith elem lanes
  | chan elem => .type <$> Builder.chan elem
  | int value => .expr <$> Builder.int value
  | float value => .expr <$> Builder.float value
  | bool value => .expr <$> Builder.bool value
  | ident text => .expr <$> Builder.ident text
  | unary op operand => .expr <$> Builder.unary op operand
  | binary op left right => .expr <$> Builder.binary op left right
  | cast operand target => .expr <$> Builder.cast operand target
  | call callee args => .expr <$> Builder.call callee args
  | range first last => .expr <$> Builder.range first last
  | recv e => .expr <$> Builder.recv e
  | block stmts => .block <$> Builder.block stmts
  | declare text type value => .stmt <$> Builder.declare text type value
  | assign text value => .stmt <$> Builder.assign text value
  | ifThen cond thenArm => .stmt <$> Builder.ifThen cond thenArm
  | ifElse cond thenArm elseArm => .stmt <$> Builder.ifElse cond thenArm elseArm
  | switch scrutinee cases default => .stmt <$> Builder.switch scrutinee cases default
  | typeSwitch binding scrutinee cases default =>
    .stmt <$> Builder.typeSwitch binding scrutinee cases default
  | forIn var iterable body => .stmt <$> Builder.forIn var iterable body
  | whileLoop cond body => .stmt <$> Builder.whileLoop cond body
  | goFor var e body => .stmt <$> Builder.goFor var e body
  | goForWith var e lanes body => .stmt <$> Builder.goForWith var e lanes body
  | ret value => .stmt <$> Builder.ret value
  | brk => .stmt <$> Builder.brk
  | cont => .stmt <$> Builder.cont
  | panic value => .stmt <$> Builder.panic value
  | defer e => .stmt <$> Builder.defer e
  | spawn e => .stmt <$> Builder.spawn e
  | send left right => .stmt <$> Builder.send left right
  | eval value => .stmt <$> Builder.eval value
  | param text type => .param <$> Builder.param text type
  | function text params result body isPublic =>
    .function <$> Builder.function text params result body isPublic
  | constant text value => .constant <$> Builder.constant text value

end Call

/-! ### What a call takes from the cursor -/

/-- The cases of a switch are made in order, and the default arm last. -/
theorem spends_arms (default : Option (List Stmt)) : ∀ cases : List (List Expr × List Stmt),
    Spends Arms.spans
      (cases.flatMap (fun c => c.1.flatMap Expr.spans ++ c.2.flatMap Stmt.spans) ++
        (default.getD []).flatMap Stmt.spans)
      (arms cases default)
  | [] => by
    cases default with
    | none => exact .pure (.refl _)
    | some body =>
      refine .block [] (.of_eq (List.append_nil _).symm) fun b => .pure ?_
      exact .of_eq (List.append_nil _).symm
  | (values, body) :: more => by
    have hmore := spends_arms default more
    rw [arms, List.flatMap_cons, List.append_assoc, List.append_assoc]
    refine .block _ (List.perm_append_comm_assoc ..) fun b => ?_
    refine hmore.bind (b.spans ++ values.flatMap Expr.spans) ?_ fun arms => .pure ?_
    · rw [← List.append_assoc]
      exact List.perm_append_comm
    · rw [Arms.spans, Expr.spansOf_eq_flatMap]
      exact List.perm_append_comm.trans (List.perm_append_comm.append_left _)

/-- The cases of a type switch are made in order, each after its lane constraint, and the default arm last. -/
theorem spends_laneArms (default : Option (List Stmt)) : ∀ cases : List (Constraint.Form × List Stmt),
    Spends LaneArms.spans
      (cases.flatMap (fun c => c.2.flatMap Stmt.spans) ++ (default.getD []).flatMap Stmt.spans)
      (laneArms cases default)
  | [] => by
    cases default with
    | none => exact .pure (.refl _)
    | some body =>
      refine .block [] (.of_eq (List.append_nil _).symm) fun b => .pure ?_
      exact .of_eq (List.append_nil _).symm
  | (form, body) :: more => by
    have hmore := spends_laneArms default more
    rw [laneArms, List.flatMap_cons, List.append_assoc]
    refine (Spends.constraint form).bind _ (.refl _) fun lanes => ?_
    refine .block _ (List.perm_append_comm_assoc ..) fun b => ?_
    refine hmore.bind (b.spans ++ [lanes.span]) ?_ fun arms => .pure ?_
    · rw [← List.append_assoc]
      exact List.perm_append_comm
    · rw [LaneArms.spans, ← List.append_assoc]
      refine List.Perm.trans ?_ (List.perm_append_singleton ..).symm
      exact List.perm_append_comm.cons lanes.span

/-- The spans of expressions as pieces are those of the expressions. -/
theorem Piece.flatMap_spans_exprs (es : List Expr) :
    (es.map Piece.expr).flatMap Piece.spans = es.flatMap Expr.spans :=
  List.flatMap_map ..

/-- The spans of statements as pieces are those of the statements. -/
theorem Piece.flatMap_spans_stmts (stmts : List Stmt) :
    (stmts.map Piece.stmt).flatMap Piece.spans = stmts.flatMap Stmt.spans :=
  List.flatMap_map ..

/-- The spans of a type annotation as a piece are those of the annotation, if there is one. -/
theorem Piece.flatMap_spans_type (type : Option TypeExpr) :
    (type.toList.map Piece.type).flatMap Piece.spans = TypeExpr.spansOf type :=
  List.flatMap_map ..

/-- The spans of what a call builds are those of the pieces that it uses up and those that it takes from the
cursor. -/
theorem Call.spends (c : Call) : Spends Piece.spans (c.uses.flatMap Piece.spans) c.build := by
  cases c with
  | constraint form => exact .map _ (Spends.constraint form) fun _ => rfl
  | named text => exact .map TypeExpr.spans (.node fun _ => .refl _) fun _ => rfl
  | varying elem =>
    have helem : Spends TypeExpr.spans [] (Builder.named elem) := .node fun _ => .refl _
    refine .map TypeExpr.spans (helem.bind [] (.refl _) fun t => .node fun span => ?_) fun _ => rfl
    exact .refl _
  | varyingWith elem form =>
    have helem : Spends TypeExpr.spans [] (Builder.named elem) := .node fun _ => .refl _
    refine .map TypeExpr.spans (helem.bind [] (.refl _) fun t => ?_) fun _ => rfl
    refine (Spends.constraint form).bind t.spans (.of_eq (List.append_nil _)) fun lanes => ?_
    exact .node fun span => (List.perm_append_singleton ..).cons span
  | chan elem =>
    rw [Call.uses, List.flatMap_singleton]
    exact .map TypeExpr.spans (.node fun _ => .refl _) fun _ => rfl
  | int | float | bool | ident => exact .map Expr.spans (.node fun _ => .refl _) fun _ => rfl
  | unary _ e | recv e =>
    rw [Call.uses, List.flatMap_singleton]
    exact .map Expr.spans (.node fun _ => .refl _) fun _ => rfl
  | binary _ left right | range left right =>
    rw [Call.uses, List.flatMap_cons, List.flatMap_singleton]
    exact .map Expr.spans (.node fun _ => .refl _) fun _ => rfl
  | cast operand target =>
    rw [Call.uses, List.flatMap_cons, List.flatMap_singleton]
    exact .map Expr.spans (.node fun _ => .refl _) fun _ => rfl
  | call callee args =>
    rw [Call.uses, Piece.flatMap_spans_exprs, ← Expr.spansOf_eq_flatMap]
    exact .map Expr.spans (.name callee fun _ => .node fun _ => .refl _) fun _ => rfl
  | block stmts =>
    rw [Call.uses, Piece.flatMap_spans_stmts]
    exact .map Block.spans (.ofBlock stmts) fun _ => rfl
  | declare text type value =>
    rw [Call.uses, List.flatMap_append, Piece.flatMap_spans_type, List.flatMap_singleton]
    exact .map Stmt.spans (.name text fun _ => .node fun _ => .refl _) fun _ => rfl
  | assign text value =>
    rw [Call.uses, List.flatMap_singleton]
    exact .map Stmt.spans (.name text fun _ => .node fun _ => .refl _) fun _ => rfl
  | ifThen cond body | whileLoop cond body =>
    rw [Call.uses, List.flatMap_cons, Piece.flatMap_spans_stmts]
    refine .map Stmt.spans (.block cond.spans List.perm_append_comm fun b => ?_) fun _ => rfl
    exact .node fun span => List.perm_append_comm.cons span
  | ifElse cond thenArm elseArm =>
    rw [Call.uses, List.flatMap_cons, List.flatMap_append, Piece.flatMap_spans_stmts,
      Piece.flatMap_spans_stmts]
    refine .map Stmt.spans (.block _ (List.perm_append_comm_assoc ..) fun a => ?_) fun _ => rfl
    refine .block (a.spans ++ cond.spans) ?_ fun b => .node fun span => ?_
    · rw [← List.append_assoc]
      exact List.perm_append_comm
    · refine List.Perm.cons span (List.perm_append_comm.trans ?_)
      exact List.perm_append_comm.append_left b.spans
  | switch scrutinee cases default =>
    simp only [Call.uses, List.flatMap_cons, List.flatMap_append, List.flatMap_assoc,
      Piece.flatMap_spans_exprs, Piece.flatMap_spans_stmts]
    refine .map Stmt.spans ?_ fun _ => rfl
    refine (spends_arms default cases).bind scrutinee.spans List.perm_append_comm fun arms => ?_
    exact .node fun span => List.perm_append_comm.cons span
  | typeSwitch binding scrutinee cases default =>
    simp only [Call.uses, List.flatMap_cons, List.flatMap_append, List.flatMap_assoc,
      Piece.flatMap_spans_stmts]
    refine .map Stmt.spans (.name binding fun n => ?_) fun _ => rfl
    refine (spends_laneArms default cases).bind (n.span :: scrutinee.spans) ?_ fun arms => ?_
    · exact @List.perm_append_comm _ (n.span :: scrutinee.spans) _
    · exact .node fun span => (@List.perm_append_comm _ (n.span :: scrutinee.spans) _).cons span
  | forIn var e body =>
    rw [Call.uses, List.flatMap_cons, Piece.flatMap_spans_stmts]
    refine .map Stmt.spans (.name var fun n => ?_) fun _ => rfl
    refine .block (n.span :: e.spans) (@List.perm_append_comm _ (n.span :: e.spans) _) fun b => ?_
    exact .node fun span => (@List.perm_append_comm _ (n.span :: e.spans) _).cons span
  | goFor var e body =>
    rw [Call.uses, List.flatMap_cons, Piece.flatMap_spans_stmts]
    refine .map Stmt.spans (.name var fun n => ?_) fun _ => rfl
    refine .block (n.span :: e.spans) (@List.perm_append_comm _ (n.span :: e.spans) _) fun b => ?_
    refine .node fun span => ?_
    rw [Stmt.spans, Option.toList_none, List.map_nil, List.append_nil]
    exact (@List.perm_append_comm _ (n.span :: e.spans) _).cons span
  | goForWith var e form body =>
    rw [Call.uses, List.flatMap_cons, Piece.flatMap_spans_stmts]
    refine .map Stmt.spans (.name var fun n => ?_) fun _ => rfl
    refine (Spends.constraint form).bind _ (.refl _) fun lanes => ?_
    refine .block (lanes.span :: n.span :: e.spans) ?_ fun b => .node fun span => ?_
    · exact @List.perm_append_comm _ (lanes.span :: n.span :: e.spans) _
    · have hlanes := List.perm_append_singleton lanes.span (n.span :: e.spans)
      exact ((hlanes.append_right b.spans).trans List.perm_append_comm).cons span
  | ret value =>
    rw [Call.uses, Piece.flatMap_spans_exprs, ← Expr.spansOf_eq_flatMap]
    exact .map Stmt.spans (.node fun _ => .refl _) fun _ => rfl
  | brk | cont => exact .map Stmt.spans (.node fun _ => .refl _) fun _ => rfl
  | panic e | defer e | spawn e | eval e =>
    rw [Call.uses, List.flatMap_singleton]
    exact .map Stmt.spans (.node fun _ => .refl _) fun _ => rfl
  | send chan value =>
    rw [Call.uses, List.flatMap_cons, List.flatMap_singleton]
    exact .map Stmt.spans (.node fun _ => .refl _) fun _ => rfl
  | param text type =>
    rw [Call.uses, List.flatMap_singleton]
    exact .map Param.spans (.name text fun _ => .pure (.refl _)) fun _ => rfl
  | function text params result body isPublic =>
    rw [Call.uses, List.flatMap_append, List.flatMap_append, Piece.flatMap_spans_stmts,
      Piece.flatMap_spans_type, List.flatMap_map]
    refine .map Function.spans (.name text fun n => ?_) fun _ => rfl
    refine .block (n.span :: (params.flatMap Param.spans ++ TypeExpr.spansOf result)) ?_ fun b => ?_
    · exact @List.perm_append_comm _ (n.span :: (params.flatMap Param.spans ++ _)) _
    · refine .node fun span => List.Perm.cons span ?_
      exact @List.perm_append_comm _ (n.span :: (params.flatMap Param.spans ++ _)) _
  | constant text value =>
    rw [Call.uses, List.flatMap_singleton]
    exact .map Constant.spans (.name text fun _ => .node fun _ => .refl _) fun _ => rfl

/-! ### Building a program -/

/-- A state of building: the cursor, and the pieces that were made and not yet used. -/
structure Bench where
  cursor : Nat
  pieces : List Piece

namespace Bench

/-- The spans of all pieces on a bench. -/
def spans (bench : Bench) : List Span :=
  bench.pieces.flatMap Piece.spans

/-- The bench after a call, if `rest` is what the call leaves on it. -/
def after (bench : Bench) (c : Call) (rest : List Piece) : Bench where
  cursor := (c.build.run bench.cursor).2
  pieces := (c.build.run bench.cursor).1 :: rest

/-- A step of building: a call takes the pieces that it uses from the bench, wherever they lie, and puts what
it builds there. -/
inductive Step : Bench → Bench → Prop where
  | call {bench : Bench} (c : Call) (rest : List Piece) (h : bench.pieces.Perm (c.uses ++ rest)) :
    Step bench (bench.after c rest)

/-- Whether the spans on a bench are exactly those that were taken since the cursor stood at `start`. -/
def Accounted (start : Nat) (bench : Bench) : Prop :=
  ∃ count, bench.cursor = start + 2 * count ∧ bench.spans.Perm (taken start count)

/-- No step loses a span, and none gives one out twice. -/
theorem Step.accounted {start : Nat} {bench next : Bench} (h : Step bench next)
    (hbench : bench.Accounted start) : next.Accounted start := by
  obtain ⟨c, rest, hpieces⟩ := h
  obtain ⟨m, hcursor, hspans⟩ := hbench
  obtain ⟨n, hnext, hbuilt⟩ := c.spends bench.cursor
  refine ⟨m + n, ?_, ?_⟩
  · show (c.build.run bench.cursor).2 = start + 2 * (m + n)
    omega
  · have hused : bench.spans.Perm (c.uses.flatMap Piece.spans ++ rest.flatMap Piece.spans) := by
      rw [← List.flatMap_append]
      exact hpieces.flatMap_right _
    have hmoved := append_perm_of_perm hbuilt hused
    rw [taken_add, ← hcursor]
    exact hmoved.trans (hspans.append_right _)

/-- Whether a bench can be reached from an empty one with the cursor at `start`. -/
def Reached (start : Nat) (bench : Bench) : Prop :=
  Relation.ReflTransGen Step ⟨start, []⟩ bench

/-- The empty bench is reached without a call. -/
theorem Reached.refl (start : Nat) : Reached start ⟨start, []⟩ :=
  Relation.ReflTransGen.refl

/-- A call on pieces of a reached bench reaches the bench that holds its result in their place. -/
theorem Reached.call {start : Nat} {bench : Bench} (h : bench.Reached start) (c : Call)
    (rest : List Piece) (hpieces : bench.pieces.Perm (c.uses ++ rest)) :
    (bench.after c rest).Reached start :=
  Relation.ReflTransGen.tail h (.call c rest hpieces)

/-- However the calls are ordered, the spans on the bench are those that were taken from the cursor. -/
theorem Reached.accounted {start : Nat} {bench : Bench} (h : bench.Reached start) :
    bench.Accounted start := by
  induction h with
  | refl => exact ⟨0, rfl, .refl _⟩
  | tail _ hstep ih => exact hstep.accounted ih

end Bench

end Builder

/-- Whether a program can be made by builder calls from one cursor: its constants and functions lie on a bench
that is reached, each of them once. -/
def Program.Built (start : Nat) (p : Program) : Prop :=
  ∃ (bench : Builder.Bench) (rest : List Builder.Piece), bench.Reached start ∧
    bench.pieces.Perm (p.constants.map .constant ++ p.functions.map .function ++ rest)

/-- In a built program any two spans are different and apart. -/
theorem Program.spans_pairwise_of_built {start : Nat} {p : Program} (h : p.Built start) :
    p.spans.Pairwise fun a b => a ≠ b ∧ a.Apart b := by
  obtain ⟨bench, rest, hreached, hpieces⟩ := h
  obtain ⟨count, -, hspans⟩ := hreached.accounted
  have hsymm {a b : Span} (h : a ≠ b ∧ a.Apart b) : b ≠ a ∧ b.Apart a :=
    ⟨h.1.symm, h.2.imp Ne.symm Or.symm⟩
  have hbench : bench.spans.Perm (p.spans ++ rest.flatMap Builder.Piece.spans) := by
    refine (hpieces.flatMap_right _).trans (.of_eq ?_)
    rw [List.flatMap_append, List.flatMap_append, List.flatMap_map, List.flatMap_map]
    rfl
  have hall := ((hbench.symm.trans hspans).pairwise_iff hsymm).2 (Builder.taken_pairwise start count)
  exact hall.sublist (List.sublist_append_left ..)

/-- In a program that is built by builder calls from one cursor, no two nodes share a span, and no two spans
overlap. So the record of the types of a function holds what was noted at its statements and nothing else, a
report finds for a statement the mask of its own visit, and the lanes in which conditions hold and cases match
can be given for every statement apart from all others. -/
theorem Program.built_spans_apart {start : Nat} {p : Program} (h : p.Built start) :
    (p.spans.Pairwise fun a b => a ≠ b ∧ a.Apart b) ∧
    (∀ into, ((p.nodes into).map Node.span).Nodup) ∧
    (∀ f ∈ p.functions, ∀ (env env' : Env) (types : TypeRecord), f.check env = (.ok types, env') →
      ∀ (span : Span) (t : LaneType),
        types.find? span = some t ↔ ∃ x ∈ f.standings env, (span, t) ∈ x.notes) ∧
    (∀ f ∈ p.functions, ∀ (sig : Signature), ∀ r ∈ f.regions sig,
      ∀ (env : Env) (types : TypeRecord) (report : RegionReport), r.analyze env types = .ok report →
        (report.visits r.body).map Visit.site = r.body.sites ∧
        report.points = (report.visits r.body).map Visit.point ∧
        ∀ (span : Span) (mask : Nat), report.maskAt? span = some mask ↔
          ∃ v ∈ report.visits r.body, v.site.stmt.span = span ∧ v.mask = mask) ∧
    ∀ (entry : EntryMask → Mask) (holds : Function → Site → Mask)
        (meets : Function → Site → Nat → Mask),
      ∃ inputs : MaskInputs, inputs.entry = entry ∧
        ∀ f ∈ p.functions, ∀ site ∈ f.body.sites, ∀ e, site.stmt.decision? = some e →
          inputs.condition e.span = some (holds f site) ∧
          ∀ k, inputs.caseMatch e.span k = some (meets f site k) := by
  have hapart := Program.spans_pairwise_of_built h
  have hnodup : p.spans.Nodup := hapart.imp And.left
  refine ⟨hapart, ?_, ?_, ?_, ?_⟩
  · intro into
    exact nodup_of_subperm (p.nodes_subperm_spans into) hnodup
  · intro f hf env env' types hcheck
    exact Function.find?_iff_of_check (nodup_of_subperm (Program.function_subperm_spans hf) hnodup) hcheck
  · intro f hf sig r hr env types report hreport
    have hregion := (Function.region_subperm_spans hr).trans (Program.function_subperm_spans hf)
    obtain ⟨hsites, hpoints⟩ := Region.points_of_analyze hreport
    exact ⟨hsites, hpoints, Region.maskAt?_iff_of_analyze (nodup_of_subperm hregion hnodup) hreport⟩
  · intro entry holds meets
    refine ⟨p.inputs entry holds meets, rfl, fun f hf site hsite e he => ?_⟩
    exact Program.inputs_of_mem hnodup entry holds meets hf hsite he

section Strewn

/-- The lanes below a bound. The bound is built first. -/
def strewnCond : Expr :=
  .binary (.between 14 15) .lt (.ident (.between 12 13) "i") (.int (.between 10 11) 4)

/-- The declaration under the condition. -/
def strewnStore : Stmt :=
  .declare (.between 20 21) ⟨"y", .between 18 19⟩ none (.int (.between 16 17) 1)

/-- The branch, whose condition is built before its body. -/
def strewnBranch : Stmt :=
  .ifThen (.between 24 25) strewnCond (.cons strewnStore (.nil (.between 22 23)))

/-- The region, whose range is built after its body. -/
def strewnLoop : Stmt :=
  .goFor (.between 36 37) ⟨"i", .between 32 33⟩
    (.range (.between 30 31) (.int (.between 28 29) 0) (.int (.between 26 27) 8)) none
    (.cons strewnBranch (.nil (.between 34 35)))

/-- The function around the region. -/
def strewnFunction : Function where
  span := .between 44 45
  name := ⟨"mark", .between 40 41⟩
  params := []
  result := none
  body := .cons strewnLoop (.nil (.between 42 43))
  isPublic := false

/-- A constant is declared first and built last. -/
def strewn : Program where
  constants := [⟨.between 48 49, ⟨"N", .between 46 47⟩, .int (.between 38 39) 16⟩]
  functions := [strewnFunction]

/-- The sample program is built by a run of calls from position ten. -/
theorem strewn_built : strewn.Built 10 := by
  -- the newest piece lies first on the bench, so pieces that are used in the other order are swapped
  have hcond := (Builder.Bench.Reached.refl 10).call (.int 4) [] (.refl _)
    |>.call (.ident "i") _ (.refl _)
    |>.call (.binary .lt (.ident (.between 12 13) "i") (.int (.between 10 11) 4)) [] (.refl _)
  have hbranch := hcond.call (.int 1) _ (.refl _)
    |>.call (.declare "y" none (.int (.between 16 17) 1)) [.expr strewnCond] (.refl _)
    |>.call (.ifThen strewnCond [strewnStore]) [] (.swap ..)
  have hloop := hbranch.call (.int 8) _ (.refl _)
    |>.call (.int 0) _ (.refl _)
    |>.call (.range (.int (.between 28 29) 0) (.int (.between 26 27) 8)) [.stmt strewnBranch] (.refl _)
    |>.call (.goFor "i" (.range (.between 30 31) (.int (.between 28 29) 0) (.int (.between 26 27) 8))
        [strewnBranch]) [] (.refl _)
  have hprogram := hloop.call (.int 16) _ (.refl _)
    |>.call (.function "mark" [] none [strewnLoop] false) [.expr (.int (.between 38 39) 16)] (.swap ..)
    |>.call (.constant "N" (.int (.between 38 39) 16)) [.function strewnFunction] (.swap ..)
  exact ⟨_, [], hprogram, .refl _⟩

/-- The environment after the program's declarations. -/
def strewnEnv : Env :=
  (strewn.declare .standard).1

/-- The function's signature: no parameter and no result. -/
def strewnSignature : Signature :=
  { params := [], result := .void, isPublic := false, span := strewnFunction.span }

/-- A program of twenty spans is built, its spans are apart, and its type record and its one region's mask
record can be read by span. -/
theorem Program.built_spans_apart_strewn :
    strewn.Built 10 ∧ strewn.spans.length = 20 ∧
      (strewn.spans.Pairwise fun a b => a ≠ b ∧ a.Apart b) ∧
      ∃ report env' types,
        strewnFunction.analyze strewnSignature strewnEnv ["mark"] = (.ok report, env') ∧
        strewnFunction.check strewnEnv = (.ok types, env') ∧
        (∀ span t, types.find? span = some t ↔
          ∃ x ∈ strewnFunction.standings strewnEnv, (span, t) ∈ x.notes) ∧
        report.regions.length = 1 ∧
        List.Forall₂ (fun region r => region.analyze env' types = .ok r)
          (strewnFunction.regions strewnSignature) report.regions ∧
        ∀ region ∈ strewnFunction.regions strewnSignature, ∀ r, region.analyze env' types = .ok r →
          ∀ span mask, r.maskAt? span = some mask ↔
            ∃ v ∈ r.visits region.body, v.site.stmt.span = span ∧ v.mask = mask := by
  obtain ⟨hapart, -, htypes, hmasks, -⟩ := Program.built_spans_apart strewn_built
  have hpasses : (strewnFunction.analyze strewnSignature strewnEnv ["mark"]).1.isOk = true := by
    decide +kernel
  obtain ⟨report, env', hanalyze⟩ := Function.exists_report_of_isOk hpasses
  obtain ⟨types, hcheck, -, hregions, -⟩ := Function.analyze_ok hanalyze
  have hmember : strewnFunction ∈ strewn.functions := List.mem_singleton.2 rfl
  refine ⟨strewn_built, rfl, hapart, report, env', types, hanalyze, hcheck, ?_, ?_, hregions, ?_⟩
  · exact htypes _ hmember _ _ _ hcheck
  · exact hregions.length_eq.symm
  · intro region hregion r hr
    exact (hmasks _ hmember _ region hregion _ _ _ hr).2.2

end Strewn

end Lanewise
