import Lanewise.Proofs.Sites

/-!
# Where nodes occur

A traversal that stays out of nothing lists every node of a block. Each of them belongs to one statement: it
is the statement itself, one of its types, part of one of its expressions, or one of its blocks
(`Block.mem_inside_iff`). So what a rule says about all calls or all go-fors of a block can be read statement
by statement.
-/

set_option autoImplicit false

namespace Lanewise

/-- The nodes of the types that a statement writes. -/
def Stmt.typeNodes : Stmt → List Node
  | .declare _ _ type _ => TypeExpr.nodesOf (fun _ => true) type
  | _ => []

/-- Whether a node belongs to a statement and to no statement inside it. -/
def Stmt.Owns (s : Stmt) (node : Node) : Prop :=
  node = .stmt s ∨ node ∈ s.typeNodes ∨ (∃ e ∈ s.exprs, node ∈ e.nodes fun _ => true) ∨
    ∃ entry ∈ s.blocks, node = .block entry.2

/-- A node is met in several expressions if it is met in one of them. -/
theorem Expr.mem_nodesOf {es : List Expr} {node : Node} :
    node ∈ Expr.nodesOf (fun _ => true) es ↔ ∃ e ∈ es, node ∈ e.nodes fun _ => true := by
  induction es with
  | nil => simp [Expr.nodesOf]
  | cons e rest ih => simp [Expr.nodesOf, ih]

/-- A node is met in the arms of a switch if it is met in a value, or is a body or met inside one. -/
theorem Arms.mem_nodes (node : Node) : ∀ (arms : Arms) (k : Nat),
    node ∈ arms.nodes (fun _ => true) ↔
      (∃ e ∈ arms.values, node ∈ e.nodes fun _ => true) ∨
        ∃ entry ∈ arms.blocks k, node = .block entry.2 ∨ node ∈ entry.2.inside fun _ => true
  | .nil, _ => by simp [Arms.nodes, Arms.values, Arms.blocks]
  | .default body, _ => by simp [Arms.nodes, Arms.values, Arms.blocks, Node.enter]
  | .case values body rest, k => by
    have hrest := Arms.mem_nodes node rest (k + 1)
    simp only [Arms.nodes, Arms.values, Arms.blocks, Node.enter, if_true, List.mem_append,
      Expr.mem_nodesOf, List.mem_cons, hrest, exists_eq_or_imp]
    grind

/-- A node is met in the arms of a type switch if it is a body or met inside one. -/
theorem LaneArms.mem_nodes (node : Node) : ∀ (arms : LaneArms) (k : Nat),
    node ∈ arms.nodes (fun _ => true) ↔
      ∃ entry ∈ arms.blocks k, node = .block entry.2 ∨ node ∈ entry.2.inside fun _ => true
  | .nil, _ => by simp [LaneArms.nodes, LaneArms.blocks]
  | .default body, _ => by simp [LaneArms.nodes, LaneArms.blocks, Node.enter]
  | .case _ body rest, k => by
    have hrest := LaneArms.mem_nodes node rest (k + 1)
    simp only [LaneArms.nodes, LaneArms.blocks, Node.enter, if_true, List.mem_append, List.mem_cons,
      hrest, exists_eq_or_imp]

/-- A node of a statement belongs to it or lies inside one of its blocks. -/
theorem Stmt.mem_nodes_iff {s : Stmt} {node : Node} :
    node ∈ s.nodes (fun _ => true) ↔
      s.Owns node ∨ ∃ entry ∈ s.blocks, node ∈ entry.2.inside fun _ => true := by
  unfold Stmt.Owns
  cases s with
  | switch _ scrutinee arms =>
    simp only [Stmt.nodes, Node.enter, if_true, List.mem_cons, List.mem_append, Arms.mem_nodes node arms 0,
      Stmt.typeNodes, Stmt.exprs, Stmt.blocks, List.not_mem_nil, exists_eq_or_imp]
    grind
  | typeSwitch _ _ scrutinee arms =>
    simp only [Stmt.nodes, Node.enter, if_true, List.mem_cons, List.mem_append,
      LaneArms.mem_nodes node arms 0, Stmt.typeNodes, Stmt.exprs, Stmt.blocks, List.not_mem_nil,
      exists_eq_or_imp]
    grind
  | ret _ value =>
    cases value <;> simp [Stmt.nodes, Node.enter, Stmt.typeNodes, Stmt.exprs, Stmt.blocks]
  | ifElse =>
    simp only [Stmt.nodes, Node.enter, if_true, List.mem_cons, List.mem_append, Stmt.typeNodes,
      Stmt.exprs, Stmt.blocks, List.not_mem_nil, exists_eq_or_imp]
    grind
  | _ => simp [Stmt.nodes, Node.enter, Stmt.typeNodes, Stmt.exprs, Stmt.blocks, or_assoc]

/-- A node inside a block belongs to one of its statements, at any depth. -/
theorem Block.mem_inside_iff {b : Block} {node : Node} :
    node ∈ b.inside (fun _ => true) ↔ ∃ p ∈ b.sites, p.stmt.Owns node := by
  refine Block.of_blocks
    (P := fun b => ∀ k, node ∈ b.inside (fun _ => true) ↔ ∃ p ∈ b.sitesFrom k, p.stmt.Owns node)
    (Q := fun s => ∀ k, node ∈ s.nodes (fun _ => true) ↔ ∃ p ∈ s.sites k, p.stmt.Owns node)
    ?_ ?_ ?_ b 0
  · intro span k
    simp [Block.inside, Block.sitesFrom]
  · intro s rest hs hrest k
    simp only [Block.inside, Block.sitesFrom, List.mem_append, hs k, hrest (k + 1), or_and_right,
      exists_or]
  · intro s hblocks k
    rw [Stmt.mem_nodes_iff]
    constructor
    · rintro (howns | ⟨⟨arm, body⟩, hbody, hnode⟩)
      · exact ⟨_, Stmt.mem_sites.2 (Or.inl rfl), howns⟩
      · obtain ⟨q, hq, howns⟩ := (hblocks arm body hbody 0).1 hnode
        exact ⟨_, Stmt.mem_sites.2 (Or.inr ⟨arm, body, hbody, q, hq, rfl⟩), howns⟩
    · rintro ⟨p, hp, howns⟩
      rcases Stmt.mem_sites.1 hp with rfl | ⟨arm, body, hbody, q, hq, rfl⟩
      · exact Or.inl howns
      · exact Or.inr ⟨(arm, body), hbody, (hblocks arm body hbody 0).2 ⟨q, hq, howns⟩⟩

/-! ### Go-fors and calls -/

/-- The nodes of a type are types. -/
theorem TypeExpr.isType_of_mem_nodes {t : TypeExpr} {node : Node} (h : node ∈ t.nodes fun _ => true) :
    ∃ u, node = .type u := by
  induction t with
  | named => exact ⟨_, List.mem_singleton.1 h⟩
  | varying _ elem _ ih =>
    rcases List.mem_cons.1 h with rfl | h
    · exact ⟨_, rfl⟩
    · exact ih h
  | chan _ elem ih =>
    rcases List.mem_cons.1 h with rfl | h
    · exact ⟨_, rfl⟩
    · exact ih h

mutual

/-- An expression consists of expressions and types. -/
theorem Expr.kind_of_mem_nodes (e : Expr) {node : Node} (h : node ∈ e.nodes fun _ => true) :
    (∃ e', node = .expr e') ∨ ∃ t, node = .type t := by
  match e with
  | .int .. | .float .. | .bool .. | .ident .. => exact Or.inl ⟨_, List.mem_singleton.1 h⟩
  | .unary _ _ operand =>
    rcases List.mem_cons.1 h with rfl | h
    · exact Or.inl ⟨_, rfl⟩
    · exact Expr.kind_of_mem_nodes operand h
  | .binary _ _ left right =>
    rcases List.mem_cons.1 h with rfl | h
    · exact Or.inl ⟨_, rfl⟩
    · rcases List.mem_append.1 h with h | h
      · exact Expr.kind_of_mem_nodes left h
      · exact Expr.kind_of_mem_nodes right h
  | .cast _ operand target =>
    rcases List.mem_cons.1 h with rfl | h
    · exact Or.inl ⟨_, rfl⟩
    · rcases List.mem_append.1 h with h | h
      · exact Expr.kind_of_mem_nodes operand h
      · exact Or.inr (TypeExpr.isType_of_mem_nodes h)
  | .call _ _ args =>
    rcases List.mem_cons.1 h with rfl | h
    · exact Or.inl ⟨_, rfl⟩
    · exact Expr.kind_of_mem_nodesOf args h
  | .range _ first last =>
    rcases List.mem_cons.1 h with rfl | h
    · exact Or.inl ⟨_, rfl⟩
    · rcases List.mem_append.1 h with h | h
      · exact Expr.kind_of_mem_nodes first h
      · exact Expr.kind_of_mem_nodes last h
  | .recv _ chan =>
    rcases List.mem_cons.1 h with rfl | h
    · exact Or.inl ⟨_, rfl⟩
    · exact Expr.kind_of_mem_nodes chan h

/-- The nodes of several expressions are expressions and types. -/
theorem Expr.kind_of_mem_nodesOf (es : List Expr) {node : Node}
    (h : node ∈ Expr.nodesOf (fun _ => true) es) : (∃ e', node = .expr e') ∨ ∃ t, node = .type t := by
  match es with
  | [] => cases h
  | e :: rest =>
    rcases List.mem_append.1 h with h | h
    · exact Expr.kind_of_mem_nodes e h
    · exact Expr.kind_of_mem_nodesOf rest h

end

/-- The nodes of the type that a statement writes are types. -/
theorem Stmt.isType_of_mem_typeNodes {s : Stmt} {node : Node} (h : node ∈ s.typeNodes) :
    ∃ t, node = .type t := by
  cases s with
  | declare _ _ type _ =>
    cases type with
    | none => cases h
    | some t => exact TypeExpr.isType_of_mem_nodes h
  | _ => cases h

/-- Of all nodes that belong to a statement, only the statement itself may be a go-for. -/
theorem Stmt.Owns.eq_stmt {s : Stmt} {node : Node} (h : s.Owns node) (hgoFor : node.isGoFor = true) :
    node = .stmt s := by
  rcases h with rfl | htype | ⟨e, -, hnode⟩ | ⟨entry, -, rfl⟩
  · rfl
  · obtain ⟨t, rfl⟩ := Stmt.isType_of_mem_typeNodes htype
    cases hgoFor
  · rcases e.kind_of_mem_nodes hnode with ⟨e', rfl⟩ | ⟨t, rfl⟩
    · cases hgoFor
    · cases hgoFor
  · cases hgoFor

/-- Of all nodes that belong to a statement, only those of its expressions may be calls. -/
theorem Stmt.Owns.mem_exprs {s : Stmt} {node : Node} (h : s.Owns node) {callee : String}
    (hcall : node.callee? = some callee) : ∃ e ∈ s.exprs, node ∈ e.nodes fun _ => true := by
  rcases h with rfl | htype | hexpr | ⟨entry, -, rfl⟩
  · cases hcall
  · obtain ⟨t, rfl⟩ := Stmt.isType_of_mem_typeNodes htype
    cases hcall
  · exact hexpr
  · cases hcall

/-! ### The parts of an expression -/

/-- The expressions that an expression is directly made of. -/
def Expr.children : Expr → List Expr
  | .unary _ _ operand => [operand]
  | .binary _ _ left right => [left, right]
  | .cast _ operand _ => [operand]
  | .call _ _ args => args
  | .range _ first last => [first, last]
  | .recv _ chan => [chan]
  | _ => []

section Induction

variable {P : Expr → Prop}

mutual

/-- What holds of an expression as soon as it holds of its children holds of every expression. -/
theorem Expr.of_children (step : ∀ e : Expr, (∀ c ∈ e.children, P c) → P e) (e : Expr) : P e := by
  apply step
  match e with
  | .unary _ _ operand => simpa [Expr.children] using Expr.of_children step operand
  | .binary _ _ left right =>
    simpa [Expr.children] using ⟨Expr.of_children step left, Expr.of_children step right⟩
  | .cast _ operand _ => simpa [Expr.children] using Expr.of_children step operand
  | .call _ _ args => exact Expr.all_of_children step args
  | .range _ first last =>
    simpa [Expr.children] using ⟨Expr.of_children step first, Expr.of_children step last⟩
  | .recv _ chan => simpa [Expr.children] using Expr.of_children step chan
  | .int .. | .float .. | .bool .. | .ident .. => simp [Expr.children]

/-- What holds of an expression as soon as it holds of its children holds of all of several ones. -/
theorem Expr.all_of_children (step : ∀ e : Expr, (∀ c ∈ e.children, P c) → P e) (es : List Expr) :
    ∀ c ∈ es, P c := by
  match es with
  | [] => simp
  | e :: rest =>
    rw [List.forall_mem_cons]
    exact ⟨Expr.of_children step e, Expr.all_of_children step rest⟩

end

end Induction

/-- The expression of a node, if it is one. -/
def Node.expr? : Node → Option Expr
  | .expr e => some e
  | _ => none

/-- An expression and all expressions inside it. -/
def Expr.parts (e : Expr) : List Expr :=
  (e.nodes fun _ => true).filterMap Node.expr?

/-- The parts of an expression are the expressions among its nodes. -/
theorem Expr.mem_parts {e part : Expr} : part ∈ e.parts ↔ Node.expr part ∈ e.nodes fun _ => true := by
  rw [Expr.parts, List.mem_filterMap]
  constructor
  · rintro ⟨node, hnode, hexpr⟩
    cases node with
    | expr e' =>
      cases hexpr
      exact hnode
    | _ => cases hexpr
  · intro hnode
    exact ⟨_, hnode, rfl⟩

/-- The calls among the nodes of an expression are those among its parts. -/
theorem Expr.exists_call_iff {e : Expr} {callee : String} :
    (∃ node ∈ e.nodes fun _ => true, node.callee? = some callee) ↔ ∃ part ∈ e.parts, part.callee? = some callee := by
  constructor
  · rintro ⟨node, hnode, hcallee⟩
    cases node with
    | expr part => exact ⟨part, Expr.mem_parts.2 hnode, hcallee⟩
    | _ => cases hcallee
  · rintro ⟨part, hpart, hcallee⟩
    exact ⟨_, Expr.mem_parts.1 hpart, hcallee⟩

/-- No expression is among the nodes of a type. -/
theorem TypeExpr.filterMap_expr?_nodes (t : TypeExpr) :
    (t.nodes fun _ => true).filterMap Node.expr? = [] := by
  induction t with
  | named => rfl
  | varying _ elem _ ih => exact ih
  | chan _ elem ih => exact ih

/-- The expressions among the nodes of several expressions are the parts of each. -/
theorem Expr.filterMap_expr?_nodesOf (es : List Expr) :
    (Expr.nodesOf (fun _ => true) es).filterMap Node.expr? = es.flatMap Expr.parts := by
  induction es with
  | nil => rfl
  | cons e rest ih => rw [Expr.nodesOf, List.filterMap_append, ih, List.flatMap_cons, Expr.parts]

/-- The parts of an expression are itself and the parts of its children. -/
theorem Expr.parts_eq (e : Expr) : e.parts = e :: e.children.flatMap Expr.parts := by
  cases e with
  | call span callee args =>
    rw [Expr.children, ← Expr.filterMap_expr?_nodesOf]
    rfl
  | cast span operand target =>
    simp [Expr.parts, Expr.nodes, Node.enter, Node.expr?, Expr.children,
      TypeExpr.filterMap_expr?_nodes]
  | _ => simp [Expr.parts, Expr.nodes, Node.enter, Node.expr?, Expr.children]

/-- An expression is a part of itself. -/
theorem Expr.mem_parts_self (e : Expr) : e ∈ e.parts := by
  rw [Expr.parts_eq]
  exact List.mem_cons_self

end Lanewise
