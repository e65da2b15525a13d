import Lanewise.Proofs.CheckRules
import Lanewise.Proofs.Sites

/-!
# Scopes in force

Which environment a statement of a body is checked in follows from the scoping rules alone: a block opens a
scope, a loop and an arm of a type switch put their variable into it, and a declaration adds to the innermost
scope for the statements that follow. `Function.standings` lists the statements of a body with the environment
in force at each.

A body that passes its check has every expression typed in the environment in force where it stands, and what
the check records is exactly that: `Function.find?_of_check` says that the record holds the inferred type of
every expression, if no two expressions or names of the body share a span.
-/

set_option autoImplicit false

namespace Lanewise

/-! ### Types of variables -/

/-- The type that a declaration gives to its name. -/
def declaredType (env : Env) (type : Option TypeExpr) (value : Expr) : LaneType :=
  match type with
  | none => value.typeIn env
  | some declared => (declared.resolve env).toOption.getD .void

/-- The type of lanes whose open count a constraint settles. -/
def LaneType.settled (env : Env) (lanes : Constraint) : LaneType → LaneType
  | .varying elem _ =>
    match concreteWidth lanes elem .openTypeCase env with
    | .ok w => .varying elem w
    | .error _ => .void
  | _ => .void

/-- The type of the variable of a region over a range of the given type. -/
def LaneType.spread (env : Env) (lanes : Option Constraint) : LaneType → LaneType
  | .seq elem =>
    match goForWidth lanes elem env with
    | .ok w => .varying elem w
    | .error _ => .void
  | _ => .void

/-- A constraint with a concrete width settles the count. -/
theorem LaneType.settled_of_concreteWidth {env : Env} {lanes : Constraint} {elem : Scalar} {w found : Width}
    (h : concreteWidth lanes elem .openTypeCase env = .ok w) :
    (LaneType.varying elem found).settled env lanes = .varying elem w := by
  rw [LaneType.settled, h]

/-- The variable of a go-for has the elements of the range and the width of the constraint. -/
theorem Expr.spread_of_infer {env : Env} {range : Expr} {lanes : Option Constraint} {elem : Scalar} {w : Width}
    (hrange : range.infer env = .ok (.seq elem)) (h : goForWidth lanes elem env = .ok w) :
    (range.typeIn env).spread env lanes = .varying elem w := by
  rw [Expr.typeIn_of_infer hrange, LaneType.spread, h]

/-- The number of varying conditions around the code that an expression guards. -/
def Expr.guardedDepth (env : Env) (depth : Nat) (e : Expr) : Nat :=
  if (e.typeIn env).isVarying then depth + 1 else depth

/-- A new scope that starts with a variable. -/
def Env.pushWith (env : Env) (name : Name) (t : LaneType) (depth : Nat) : Env :=
  env.push.define name.text { type := t, depth }

/-! ### Statements and the environments in force -/

/-- A statement of a body, with the environment in force and the number of varying conditions around it. -/
structure Standing where
  site : Site
  env : Env
  depth : Nat

/-- A statement of a block that is entered by a step, seen from outside that block. -/
def Standing.under (step : Step) (x : Standing) : Standing :=
  { x with site := x.site.under step }

/-- The environment in force after a statement. -/
def Stmt.envAfter (env : Env) (depth : Nat) : Stmt → Env
  | .declare _ name type value =>
    env.define name.text { type := declaredType env type value, depth }
  | _ => env

/-- The environment in force at the end of a block. -/
def Block.envAfter (env : Env) (depth : Nat) : Block → Env
  | .nil _ => env
  | .cons first rest => rest.envAfter (first.envAfter env depth) depth

mutual

/-- A statement that is number `index` in its block and the statements inside it, in order. -/
def Stmt.standings (env : Env) (depth index : Nat) (s : Stmt) : List Standing :=
  { site := ⟨[], index, s⟩, env, depth } ::
  match s with
  | .ifThen _ cond thenArm =>
    (thenArm.standingsFrom env.push (cond.guardedDepth env depth) 0).map
      (.under ⟨index, s, .thenArm⟩)
  | .ifElse _ cond thenArm elseArm =>
    (thenArm.standingsFrom env.push (cond.guardedDepth env depth) 0).map
        (.under ⟨index, s, .thenArm⟩) ++
      (elseArm.standingsFrom env.push (cond.guardedDepth env depth) 0).map
        (.under ⟨index, s, .elseArm⟩)
  | .switch _ scrutinee arms => arms.standings env (scrutinee.guardedDepth env depth) index s 0
  | .typeSwitch _ binding scrutinee arms =>
    arms.standings env depth index s binding (scrutinee.typeIn env) 0
  | .forIn _ var iterable body =>
    (body.standingsFrom (env.pushWith var (iterable.typeIn env).item depth) depth 0).map
      (.under ⟨index, s, .body⟩)
  | .whileLoop _ cond body =>
    (body.standingsFrom env.push (cond.guardedDepth env depth) 0).map (.under ⟨index, s, .body⟩)
  | .goFor _ var range lanes body =>
    (body.standingsFrom (env.pushWith var ((range.typeIn env).spread env lanes) depth) depth 0).map
      (.under ⟨index, s, .body⟩)
  | _ => []

/-- The statements of a block, or of the rest of one, whose first statement is number `index`. -/
def Block.standingsFrom (env : Env) (depth index : Nat) : Block → List Standing
  | .nil _ => []
  | .cons first rest =>
    first.standings env depth index ++
      rest.standingsFrom (first.envAfter env depth) depth (index + 1)

/-- The statements in the arms of a switch `s`, the first of which is number `k`. -/
def Arms.standings (env : Env) (depth index : Nat) (s : Stmt) (k : Nat) : Arms → List Standing
  | .nil => []
  | .default body => (body.standingsFrom env.push depth 0).map (.under ⟨index, s, .default k⟩)
  | .case _ body rest =>
    (body.standingsFrom env.push depth 0).map (.under ⟨index, s, .case k⟩) ++
      rest.standings env depth index s (k + 1)

/-- The statements in the arms of a type switch `s` that binds lanes of type `t`, the first of which is
number `k`. -/
def LaneArms.standings (env : Env) (depth index : Nat) (s : Stmt) (binding : Name) (t : LaneType)
    (k : Nat) : LaneArms → List Standing
  | .nil => []
  | .default body =>
    (body.standingsFrom (env.pushWith binding t depth) depth 0).map (.under ⟨index, s, .lanes k⟩)
  | .case lanes body rest =>
    (body.standingsFrom (env.pushWith binding (t.settled env lanes) depth) depth 0).map
        (.under ⟨index, s, .lanes k⟩) ++
      rest.standings env depth index s binding t (k + 1)

end

/-- The environment with the parameters of a function in the innermost scope. -/
def declareParamsIn (env : Env) : List Param → Env
  | [] => env
  | p :: rest =>
    declareParamsIn
      (env.define p.name.text { type := (p.type.resolve env).toOption.getD .void, depth := 0 }) rest

/-- The statements of the body of a function. -/
def Function.standings (env : Env) (f : Function) : List Standing :=
  f.body.standingsFrom (declareParamsIn env.push f.params) 0 0

/-- Behind a step statements stand at sites behind that step. -/
@[simp] theorem Standing.map_site_map_under (step : Step) (xs : List Standing) :
    (xs.map (.under step)).map Standing.site = (xs.map Standing.site).map (.under step) := by
  simp [Standing.under]

mutual

/-- The statements of a statement are listed at their sites. -/
theorem Stmt.map_site_standings (env : Env) (depth index : Nat) (s : Stmt) :
    (s.standings env depth index).map Standing.site = s.sites index := by
  match s with
  | .ifThen _ _ thenArm =>
    rw [Stmt.standings, Stmt.sites, List.map_cons, Standing.map_site_map_under,
      Block.map_site_standingsFrom]
  | .ifElse _ _ thenArm elseArm =>
    rw [Stmt.standings, Stmt.sites, List.map_cons, List.map_append, Standing.map_site_map_under,
      Standing.map_site_map_under, Block.map_site_standingsFrom, Block.map_site_standingsFrom]
  | .switch _ _ arms =>
    rw [Stmt.standings, Stmt.sites, List.map_cons, Arms.map_site_standings]
  | .typeSwitch _ _ _ arms =>
    rw [Stmt.standings, Stmt.sites, List.map_cons, LaneArms.map_site_standings]
  | .forIn _ _ _ body =>
    rw [Stmt.standings, Stmt.sites, List.map_cons, Standing.map_site_map_under,
      Block.map_site_standingsFrom]
  | .whileLoop _ _ body =>
    rw [Stmt.standings, Stmt.sites, List.map_cons, Standing.map_site_map_under,
      Block.map_site_standingsFrom]
  | .goFor _ _ _ _ body =>
    rw [Stmt.standings, Stmt.sites, List.map_cons, Standing.map_site_map_under,
      Block.map_site_standingsFrom]
  | .declare .. | .assign .. | .ret .. | .brk .. | .cont .. | .panic .. | .defer .. | .spawn ..
  | .send .. | .eval .. => rfl

/-- The statements of a block are listed at their sites. -/
theorem Block.map_site_standingsFrom (env : Env) (depth index : Nat) (b : Block) :
    (b.standingsFrom env depth index).map Standing.site = b.sitesFrom index := by
  match b with
  | .nil _ => rfl
  | .cons first rest =>
    rw [Block.standingsFrom, Block.sitesFrom, List.map_append, Stmt.map_site_standings,
      Block.map_site_standingsFrom]

/-- The statements in the arms of a switch are listed at their sites. -/
theorem Arms.map_site_standings (env : Env) (depth index : Nat) (s : Stmt) (k : Nat) (arms : Arms) :
    (arms.standings env depth index s k).map Standing.site = arms.sites index s k := by
  match arms with
  | .nil => rfl
  | .default body =>
    rw [Arms.standings, Arms.sites, Standing.map_site_map_under, Block.map_site_standingsFrom]
  | .case _ body rest =>
    rw [Arms.standings, Arms.sites, List.map_append, Standing.map_site_map_under,
      Block.map_site_standingsFrom, Arms.map_site_standings]

/-- The statements in the arms of a type switch are listed at their sites. -/
theorem LaneArms.map_site_standings (env : Env) (depth index : Nat) (s : Stmt) (binding : Name)
    (t : LaneType) (k : Nat) (arms : LaneArms) :
    (arms.standings env depth index s binding t k).map Standing.site = arms.sites index s k := by
  match arms with
  | .nil => rfl
  | .default body =>
    rw [LaneArms.standings, LaneArms.sites, Standing.map_site_map_under,
      Block.map_site_standingsFrom]
  | .case _ body rest =>
    rw [LaneArms.standings, LaneArms.sites, List.map_append, Standing.map_site_map_under,
      Block.map_site_standingsFrom, LaneArms.map_site_standings]

end

/-! ### What the check of a statement finds -/

/-- Whether a statement that takes a call holds one. -/
def Stmt.takesCall : Stmt → Bool
  | .defer _ call => call.callee?.isSome
  | .spawn _ call => call.callee?.isSome
  | _ => true

/-- A deferred or spawned call evaluates its arguments and nothing else where it stands. -/
theorem Stmt.any_scanned_of_takesCall {s : Stmt} (h : s.takesCall = true) :
    s.scanned.any Expr.hasRecv = s.receives := by
  cases s with
  | defer _ call | spawn _ call =>
    cases call with
    | call _ callee args => simp [Stmt.scanned, Stmt.receives, Stmt.exprs, Expr.args]
    | _ => cases h
  | _ => rfl

/-- What is recorded about the name that a statement writes. -/
def Stmt.nameNotes (env : Env) : Stmt → List (Span × LaneType)
  | .declare _ name type value => [(name.span, declaredType env type value)]
  | .assign _ target _ =>
    [(target.span, ((env.lookup? target.text).map Binding.type).getD .void)]
  | _ => []

namespace Standing

/-- What is recorded about a statement. -/
def notes (x : Standing) : List (Span × LaneType) :=
  x.site.stmt.exprs.map (Expr.note x.env) ++ x.site.stmt.nameNotes x.env

/-- Every expression of the statement has a type where it stands, and a call that it takes is one. -/
structure Typed (x : Standing) : Prop where
  infers : ∀ e ∈ x.site.stmt.exprs, ∃ t, e.infer x.env = .ok t
  takes : x.site.stmt.takesCall = true

/-- A step in front does not change the types. -/
theorem typed_under {step : Step} {x : Standing} (h : x.Typed) : (x.under step).Typed :=
  ⟨h.infers, h.takes⟩

end Standing

/-- Whether a check leaves the state with the given notes, in some order, and with environment `after`. -/
def Leaves (notes : List (Span × LaneType)) (after : Env) (state final : CheckState) : Prop :=
  ∃ written, written.Perm notes ∧ final = { state.note written with env := after }

namespace Leaves

variable {a b : List (Span × LaneType)} {mid after : Env} {state middle final : CheckState}

/-- Recording notes leaves these notes, and the environment as it was. -/
theorem of_note : Leaves a state.env state (state.note a) :=
  ⟨a, .refl a, rfl⟩

/-- What a check leaves has the environment that it is said to have. -/
theorem env_eq (h : Leaves a after state final) : final.env = after := by
  obtain ⟨written, -, rfl⟩ := h
  rfl

/-- One check after another leaves the notes of both. -/
theorem trans (h : Leaves a mid state middle) (h' : Leaves b after middle final) :
    Leaves (a ++ b) after state final := by
  obtain ⟨written, hperm, rfl⟩ := h
  obtain ⟨written', hperm', rfl⟩ := h'
  refine ⟨written ++ written', hperm.append hperm', ?_⟩
  simp [CheckState.note]

/-- The order of the notes does not matter. -/
theorem perm (h : Leaves a after state final) (hperm : a.Perm b) : Leaves b after state final := by
  obtain ⟨written, hwritten, rfl⟩ := h
  exact ⟨written, hwritten.trans hperm, rfl⟩

/-- What a check writes in a scope of its own stays, and the scope goes. -/
theorem inScope {inner : CheckState} {env : Env} (hpop : after.pop = state.env)
    (h : Leaves a after { state with env } inner) :
    Leaves a state.env state { inner with env := inner.env.pop } := by
  obtain ⟨written, hperm, rfl⟩ := h
  refine ⟨written, hperm, ?_⟩
  simp only [hpop]
  rfl

end Leaves

/-- Whether a check has typed some statements, recorded that, and left environment `after`. -/
def Checked (xs : List Standing) (after : Env) (state final : CheckState) : Prop :=
  (∀ x ∈ xs, x.Typed) ∧ Leaves (xs.flatMap Standing.notes) after state final

namespace Checked

variable {xs ys : List Standing} {mid after : Env} {state middle final : CheckState}

/-- Where no statement stands, nothing is checked and nothing changes. -/
theorem nil : Checked [] state.env state state :=
  ⟨by simp, Leaves.of_note⟩

/-- Statements that are checked one list after the other are checked together. -/
theorem append (h : Checked xs mid state middle) (h' : Checked ys after middle final) :
    Checked (xs ++ ys) after state final := by
  refine ⟨?_, ?_⟩
  · intro x hx
    rcases List.mem_append.1 hx with hx | hx
    · exact h.1 x hx
    · exact h'.1 x hx
  · rw [List.flatMap_append]
    exact h.2.trans h'.2

/-- A step in front does not change what has been checked. -/
theorem map_under (step : Step) (h : Checked xs after state final) :
    Checked (xs.map (.under step)) after state final := by
  refine ⟨?_, ?_⟩
  · intro x hx
    obtain ⟨y, hy, rfl⟩ := List.mem_map.1 hx
    exact Standing.typed_under (h.1 y hy)
  · rw [List.flatMap_map]
    exact h.2

/-- A statement that has been typed and recorded by itself. -/
theorem here {x : Standing} (htyped : x.Typed) (h : Leaves x.notes after state final) :
    Checked [x] after state final := by
  refine ⟨?_, by simpa using h⟩
  intro y hy
  rw [List.mem_singleton.1 hy]
  exact htyped

end Checked

/-! ### Blocks in scopes of their own -/

namespace Env

/-- Closing the scope that was just opened gives the environment back. -/
@[simp] theorem pop_push (env : Env) : env.push.pop = env := rfl

/-- A definition in a scope is gone when the scope is closed. -/
@[simp] theorem pop_define (env : Env) (name : String) (binding : Binding) :
    (env.define name binding).pop = env.pop := by
  unfold define
  split
  · rfl
  · rename_i hscopes
    simp [pop, hscopes]

/-- Closing a scope that was opened with a variable gives the environment back. -/
@[simp] theorem pop_pushWith (env : Env) (name : Name) (t : LaneType) (depth : Nat) :
    (env.pushWith name t depth).pop = env := by
  rw [pushWith, pop_define, pop_push]

end Env

/-- A block changes no scope but the innermost one. -/
theorem Block.pop_envAfter (env : Env) (depth : Nat) : ∀ b : Block, (b.envAfter env depth).pop = env.pop
  | .nil _ => rfl
  | .cons first rest => by
    rw [Block.envAfter, Block.pop_envAfter _ depth rest]
    cases first <;> simp [Stmt.envAfter]

/-- Whether every successful check of a block types all its statements and records that. -/
def Block.Checks (b : Block) : Prop :=
  ∀ (place : Place) (index : Nat) (state final : CheckState) (u : Unit),
    b.check place state = .ok u final →
      Checked (b.standingsFrom state.env place.depth index) (b.envAfter state.env place.depth) state final

section InScope

variable {b : Block} {place : Place} {state final : CheckState} {u : Unit}

/-- A block in a scope of its own is typed and recorded, and leaves the environment as it was. -/
theorem Block.Checks.inScope (hb : b.Checks) (step : Step)
    (h : Check.inScope (b.check place) state = .ok u final) :
    Checked ((b.standingsFrom state.env.push place.depth 0).map (.under step)) state.env state
      final := by
  obtain ⟨inner, hinner, rfl⟩ := Check.inScope_eq_ok.1 h
  have hchecked := (hb place 0 _ inner () hinner).map_under step
  exact ⟨hchecked.1, hchecked.2.inScope (by rw [Block.pop_envAfter, Env.pop_push])⟩

/-- A block in a scope with one variable is typed and recorded, and leaves the environment as it was. -/
theorem Block.Checks.inScopeWith (hb : b.Checks) (step : Step) {name : Name} {t : LaneType}
    {depth : Nat} (h : Check.inScopeWith name.text t depth (b.check place) state = .ok u final) :
    Checked ((b.standingsFrom (state.env.pushWith name t depth) place.depth 0).map (.under step))
      state.env state final := by
  obtain ⟨inner, hinner, rfl⟩ := Check.inScopeWith_eq_ok.1 h
  have hchecked := (hb place 0 _ inner () hinner).map_under step
  exact ⟨hchecked.1, hchecked.2.inScope (by rw [Block.pop_envAfter]; exact Env.pop_pushWith ..)⟩

end InScope

/-! ### Statements -/

/-- The check counts one more varying condition where the type of the guard says so. -/
theorem Place.depth_guardedBy (place : Place) {env : Env} {e : Expr} {t : LaneType}
    (h : e.infer env = .ok t) : (place.guardedBy t).depth = e.guardedDepth env place.depth := by
  rw [Expr.guardedDepth, Expr.typeIn_of_infer h]
  rfl

section Statements

variable {place : Place} {state final : CheckState} {u : Unit}

/-- A statement with one expression of its own that writes no name, before the statements inside it. -/
theorem Checked.cons {s : Stmt} {e : Expr} {t : LaneType} {index depth : Nat} {xs : List Standing}
    {after : Env} (hexprs : s.exprs = [e]) (hnames : s.nameNotes state.env = [])
    (htakes : s.takesCall = true) (hinfer : e.infer state.env = .ok t)
    (h : Checked xs after (state.note [(e.span, t)]) final) :
    Checked (⟨⟨[], index, s⟩, state.env, depth⟩ :: xs) after state final := by
  have hnotes : Standing.notes ⟨⟨[], index, s⟩, state.env, depth⟩ = [(e.span, t)] := by
    rw [Standing.notes, hexprs, hnames, ← Expr.note_of_infer hinfer]
    rfl
  have hhere : Checked [⟨⟨[], index, s⟩, state.env, depth⟩] state.env state
      (state.note [(e.span, t)]) := by
    refine Checked.here ⟨?_, htakes⟩ (hnotes ▸ Leaves.of_note)
    intro e' he'
    rw [hexprs, List.mem_singleton] at he'
    exact ⟨t, he' ▸ hinfer⟩
  exact hhere.append h

/-- A declaration that passes is typed, recorded, and in scope from there on. -/
theorem checkDeclare_checked {span : Span} {name : Name} {type : Option TypeExpr} {value : Expr}
    (h : checkDeclare name type value place.depth state = .ok u final) (index : Nat) :
    Checked [⟨⟨[], index, .declare span name type value⟩, state.env, place.depth⟩]
      (Stmt.envAfter state.env place.depth (.declare span name type value)) state final := by
  obtain ⟨t, bound, hinfer, -, hbound, rfl⟩ := checkDeclare_ok h
  have hdeclared : declaredType state.env type value = bound := by
    cases type with
    | none => rw [declaredType, Expr.typeIn_of_infer hinfer, hbound]
    | some declared =>
      simp only at hbound
      simp [declaredType, hbound.1, Except.toOption]
  apply Checked.here
  · refine ⟨?_, rfl⟩
    intro e he
    rw [Stmt.exprs, List.mem_singleton] at he
    exact ⟨t, he ▸ hinfer⟩
  · refine ⟨_, .refl _, ?_⟩
    simp [Standing.notes, Stmt.exprs, Stmt.nameNotes, Stmt.envAfter, hdeclared,
      Expr.note_of_infer hinfer]

/-- An assignment that passes is typed and recorded. -/
theorem checkAssign_checked {span : Span} {target : Name} {value : Expr}
    (h : checkAssign target value place.depth span state = .ok u final) (index : Nat) :
    Checked [⟨⟨[], index, .assign span target value⟩, state.env, place.depth⟩] state.env state
      final := by
  obtain ⟨t, binding, hlookup, hinfer, -, -, rfl⟩ := checkAssign_ok h
  apply Checked.here
  · refine ⟨?_, rfl⟩
    intro e he
    rw [Stmt.exprs, List.mem_singleton] at he
    exact ⟨t, he ▸ hinfer⟩
  · refine ⟨_, .refl _, ?_⟩
    simp only [Standing.notes, Stmt.exprs, Stmt.nameNotes, List.map_cons, List.map_nil, hlookup,
      Option.map_some, Option.getD_some, Expr.note_of_infer hinfer]
    rfl

/-- A send that passes is typed and recorded. -/
theorem checkSend_checked {span : Span} {chan value : Expr}
    (h : checkSend chan value state = .ok u final) (index : Nat) :
    Checked [⟨⟨[], index, .send span chan value⟩, state.env, place.depth⟩] state.env state final := by
  obtain ⟨elem, t, hchan, hvalue, -, rfl⟩ := checkSend_ok h
  apply Checked.here
  · refine ⟨?_, rfl⟩
    intro e he
    simp only [Stmt.exprs, List.mem_cons, List.not_mem_nil, or_false] at he
    rcases he with rfl | rfl
    · exact ⟨_, hchan⟩
    · exact ⟨_, hvalue⟩
  · refine ⟨_, .refl _, ?_⟩
    simp only [Standing.notes, Stmt.exprs, Stmt.nameNotes, List.map_cons, List.map_nil,
      List.append_nil, Expr.note_of_infer hchan, Expr.note_of_infer hvalue]
    rfl

/-- A return that passes is typed and recorded. -/
theorem checkReturn_checked {span : Span} {value : Option Expr}
    (h : checkReturn value place.result span state = .ok u final) (index : Nat) :
    Checked [⟨⟨[], index, .ret span value⟩, state.env, place.depth⟩] state.env state final := by
  cases value with
  | none =>
    obtain ⟨-, rfl⟩ := Check.ofExcept_eq_ok.1 h
    exact Checked.here ⟨by simp [Stmt.exprs], rfl⟩ Leaves.of_note
  | some e =>
    obtain ⟨t, hinfer, -, rfl⟩ := Check.inferInto_eq_ok.1 h
    exact Checked.cons rfl rfl rfl hinfer Checked.nil

/-- A break or continue that passes has nothing to record. -/
theorem checkJump_checked {s : Stmt} {jump : Jump} {span : Span} (hexprs : s.exprs = [])
    (hnames : s.nameNotes state.env = []) (htakes : s.takesCall = true)
    (h : checkJump jump place.inLoop span state = .ok u final) (index : Nat) :
    Checked [⟨⟨[], index, s⟩, state.env, place.depth⟩] state.env state final := by
  obtain ⟨-, rfl⟩ := Check.ofExcept_eq_ok.1 h
  refine Checked.here ⟨by simp [hexprs], htakes⟩ ?_
  rw [Standing.notes, hexprs, hnames]
  exact Leaves.of_note

/-- A statement that only evaluates an expression is typed and recorded if it passes. -/
theorem checkEvaluated_checked {s : Stmt} {value : Expr} (hexprs : s.exprs = [value])
    (hnames : s.nameNotes state.env = []) (htakes : s.takesCall = true)
    (h : (do let _ ← Check.infer value : Check Unit) state = .ok u final) (index : Nat) :
    Checked [⟨⟨[], index, s⟩, state.env, place.depth⟩] state.env state final := by
  obtain ⟨t, middle, hvalue, hpure⟩ := Check.bind_eq_ok.1 h
  obtain ⟨hinfer, rfl⟩ := Check.infer_eq_ok.1 hvalue
  obtain ⟨-, rfl⟩ := Check.pure_eq_ok.1 hpure
  exact Checked.cons hexprs hnames htakes hinfer Checked.nil

end Statements

mutual

/-- A successful check of a statement types everything in it where it stands, and records exactly that. -/
theorem Stmt.check_ok (s : Stmt) {place : Place} (index : Nat) {state final : CheckState} {u : Unit}
    (h : s.check place state = .ok u final) :
    Checked (s.standings state.env place.depth index) (s.envAfter state.env place.depth) state
      final := by
  match s with
  | .declare .. => exact checkDeclare_checked h index
  | .assign .. => exact checkAssign_checked h index
  | .ifThen _ cond thenArm =>
    obtain ⟨t, middle, hcond, hthen⟩ := Check.bind_eq_ok.1 h
    obtain ⟨hinfer, -, -, rfl⟩ := checkCondition_ok hcond
    rw [Stmt.standings]
    refine Checked.cons rfl rfl rfl hinfer ?_
    -- the check deepens the place by the type that it found, the standings by the type of the condition
    rw [← Place.depth_guardedBy place hinfer]
    exact (Block.check_ok thenArm).inScope _ hthen
  | .ifElse span cond thenArm elseArm =>
    obtain ⟨t, middle, hcond, harms⟩ := Check.bind_eq_ok.1 h
    obtain ⟨hinfer, -, -, rfl⟩ := checkCondition_ok hcond
    obtain ⟨_, middle, hthen, helse⟩ := Check.bind_eq_ok.1 harms
    rw [Stmt.standings]
    refine Checked.cons rfl rfl rfl hinfer ?_
    rw [← Place.depth_guardedBy place hinfer]
    have hfirst := (Block.check_ok thenArm).inScope
      ⟨index, .ifElse span cond thenArm elseArm, .thenArm⟩ hthen
    have hsecond := (Block.check_ok elseArm).inScope
      ⟨index, .ifElse span cond thenArm elseArm, .elseArm⟩ helse
    rw [hfirst.2.env_eq] at hsecond
    exact hfirst.append hsecond
  | .switch span scrutinee arms =>
    obtain ⟨⟨t, elem⟩, middle, hscrutinee, harms⟩ := Check.bind_eq_ok.1 h
    obtain ⟨hinfer, -, -, rfl⟩ := checkScrutinee_ok hscrutinee
    have hdepth := Place.depth_guardedBy place hinfer
    obtain ⟨hvalues, hinner, hleaves⟩ :=
      Arms.check_ok arms index (.switch span scrutinee arms) 0 harms
    rw [hdepth] at hinner hleaves
    rw [Stmt.standings]
    refine ⟨?_, ?_⟩
    · intro x hx
      rcases List.mem_cons.1 hx with rfl | hx
      · refine ⟨?_, rfl⟩
        intro e he
        rcases List.mem_cons.1 he with rfl | he
        · exact ⟨t, hinfer⟩
        · exact hvalues e he
      · exact hinner x hx
    · have hnotes : Standing.notes ⟨⟨[], index, .switch span scrutinee arms⟩, state.env, place.depth⟩ =
          [(scrutinee.span, t)] ++ arms.values.map (Expr.note state.env) := by
        simp [Standing.notes, Stmt.exprs, Stmt.nameNotes, Expr.note_of_infer hinfer]
      rw [List.flatMap_cons, hnotes, List.append_assoc]
      exact Leaves.trans Leaves.of_note hleaves
  | .typeSwitch _ binding scrutinee arms =>
    obtain ⟨elem, middle, hscrutinee, harms⟩ := Check.bind_eq_ok.1 h
    obtain ⟨hinfer, rfl⟩ := checkTypeScrutinee_ok hscrutinee
    rw [Stmt.standings]
    refine Checked.cons rfl rfl rfl hinfer ?_
    rw [Expr.typeIn_of_infer hinfer]
    exact LaneArms.check_ok arms index _ 0 harms
  | .forIn _ var iterable body =>
    obtain ⟨t, middle, hiterable, hbody⟩ := Check.bind_eq_ok.1 h
    obtain ⟨all, hinfer, rfl, rfl⟩ := checkIterable_ok hiterable
    rw [Stmt.standings]
    refine Checked.cons rfl rfl rfl hinfer ?_
    rw [Expr.typeIn_of_infer hinfer]
    exact (Block.check_ok body).inScopeWith _ hbody
  | .whileLoop _ cond body =>
    obtain ⟨t, middle, hcond, hbody⟩ := Check.bind_eq_ok.1 h
    obtain ⟨hinfer, -, -, rfl⟩ := checkCondition_ok hcond
    rw [Stmt.standings]
    refine Checked.cons rfl rfl rfl hinfer ?_
    rw [← Place.depth_guardedBy place hinfer]
    exact (Block.check_ok body).inScope _ hbody
  | .goFor _ var range lanes body =>
    obtain ⟨elem, middle, hrange, hrest⟩ := Check.bind_eq_ok.1 h
    obtain ⟨hinfer, -, rfl⟩ := checkGoForRange_ok hrange
    obtain ⟨w, middle, hwidth, hbody⟩ := Check.bind_eq_ok.1 hrest
    obtain ⟨hw, rfl⟩ := Check.ask_eq_ok.1 hwidth
    rw [Stmt.standings]
    refine Checked.cons rfl rfl rfl hinfer ?_
    rw [Expr.spread_of_infer hinfer hw]
    exact (Block.check_ok body).inScopeWith _ hbody
  | .ret .. => exact checkReturn_checked h index
  | .brk _ => exact checkJump_checked rfl rfl rfl h index
  | .cont _ => exact checkJump_checked rfl rfl rfl h index
  | .panic _ value => exact checkEvaluated_checked rfl rfl rfl h index
  | .defer _ call =>
    obtain ⟨hcall, t, hinfer, rfl⟩ := checkTaken_ok h
    exact Checked.cons rfl rfl hcall hinfer Checked.nil
  | .spawn _ call =>
    obtain ⟨hcall, t, hinfer, rfl⟩ := checkTaken_ok h
    exact Checked.cons rfl rfl hcall hinfer Checked.nil
  | .send .. => exact checkSend_checked h index
  | .eval _ value => exact checkEvaluated_checked rfl rfl rfl h index

/-- A successful check of a block types and records all its statements. -/
theorem Block.check_ok (b : Block) : b.Checks := by
  intro place index state final u h
  match b with
  | .nil _ =>
    obtain ⟨-, rfl⟩ := Check.pure_eq_ok.1 h
    exact Checked.nil
  | .cons first rest =>
    obtain ⟨_, middle, hfirst, hrest⟩ := Check.bind_eq_ok.1 h
    have hhere := Stmt.check_ok first index hfirst
    have hlater := Block.check_ok rest place (index + 1) middle final u hrest
    -- the rest stands in the environment that the first statement leaves
    rw [hhere.2.env_eq] at hlater
    exact hhere.append hlater

/-- A successful check of the arms of a type switch types and records the statements of all arms. -/
theorem LaneArms.check_ok (arms : LaneArms) {place : Place} (index : Nat) (s : Stmt) (k : Nat)
    {binding : Name} {elem : Scalar} {state final : CheckState} {u : Unit}
    (h : arms.check binding.text elem place state = .ok u final) :
    Checked (arms.standings state.env place.depth index s binding (.varying elem .universal) k)
      state.env state final := by
  match arms with
  | .nil =>
    obtain ⟨-, rfl⟩ := Check.pure_eq_ok.1 h
    exact Checked.nil
  | .default body => exact (Block.check_ok body).inScopeWith _ h
  | .case lanes body rest =>
    obtain ⟨w, middle, hwidth, hbodies⟩ := Check.bind_eq_ok.1 h
    obtain ⟨hw, rfl⟩ := Check.ask_eq_ok.1 hwidth
    obtain ⟨_, middle, hbody, hrest⟩ := Check.bind_eq_ok.1 hbodies
    have hfirst := (Block.check_ok body).inScopeWith ⟨index, s, .lanes k⟩ hbody
    have hlater := LaneArms.check_ok rest index s (k + 1) hrest
    rw [hfirst.2.env_eq] at hlater
    rw [LaneArms.standings, LaneType.settled_of_concreteWidth hw]
    exact hfirst.append hlater

/-- A successful check of the arms of a switch types and records the values of all cases and the statements
of all arms. -/
theorem Arms.check_ok (arms : Arms) {place : Place} (index : Nat) (s : Stmt) (k : Nat)
    {elem : Scalar} {state final : CheckState} {u : Unit}
    (h : arms.check elem place state = .ok u final) :
    (∀ e ∈ arms.values, ∃ t, e.infer state.env = .ok t) ∧
      (∀ x ∈ arms.standings state.env place.depth index s k, x.Typed) ∧
      Leaves (arms.values.map (Expr.note state.env) ++
          (arms.standings state.env place.depth index s k).flatMap Standing.notes)
        state.env state final := by
  match arms with
  | .nil =>
    obtain ⟨-, rfl⟩ := Check.pure_eq_ok.1 h
    exact ⟨by simp [Arms.values], Checked.nil⟩
  | .default body =>
    exact ⟨by simp [Arms.values], (Block.check_ok body).inScope ⟨index, s, .default k⟩ h⟩
  | .case values body rest =>
    obtain ⟨_, middle, hcase, hbodies⟩ := Check.bind_eq_ok.1 h
    obtain ⟨htyped, rfl⟩ := checkCaseValues_ok hcase
    obtain ⟨_, middle, hbody, hrest⟩ := Check.bind_eq_ok.1 hbodies
    have hfirst := (Block.check_ok body).inScope ⟨index, s, .case k⟩ hbody
    obtain ⟨hvalues, hinner, hleaves⟩ := Arms.check_ok rest index s (k + 1) hrest
    rw [hfirst.2.env_eq] at hvalues hinner hleaves
    refine ⟨?_, ?_, ?_⟩
    · intro e he
      rcases List.mem_append.1 he with he | he
      · obtain ⟨t, ht, -⟩ := htyped e he
        exact ⟨t, ht⟩
      · exact hvalues e he
    · intro x hx
      rcases List.mem_append.1 hx with hx | hx
      · exact hfirst.1 x hx
      · exact hinner x hx
    · -- the values of later cases are recorded after the statements of this one
      rw [Arms.standings, Arms.values, List.map_append, List.flatMap_append]
      refine (Leaves.of_note.trans (hfirst.2.trans hleaves)).perm ?_
      rw [List.append_assoc]
      refine .append_left _ ?_
      exact List.perm_append_comm_assoc ..

end

section InScope

variable {b : Block} {place : Place} {state : CheckState}

/-- After a block in a scope of its own, the environment is the one before it. -/
theorem Block.env_of_inScope {final : CheckState} {u : Unit}
    (h : Check.inScope (b.check place) state = .ok u final) : final.env = state.env := by
  obtain ⟨inner, hinner, rfl⟩ := Check.inScope_eq_ok.1 h
  have henv := (Block.check_ok b place 0 _ inner () hinner).2.env_eq
  show inner.env.pop = state.env
  rw [henv, Block.pop_envAfter, Env.pop_push]

/-- After a block in a scope with one variable, the environment is the one before it. -/
theorem Block.env_of_inScopeWith {name : Name} {t : LaneType} {depth : Nat} {final : CheckState} {u : Unit}
    (h : Check.inScopeWith name.text t depth (b.check place) state = .ok u final) :
    final.env = state.env := by
  obtain ⟨inner, hinner, rfl⟩ := Check.inScopeWith_eq_ok.1 h
  have henv := (Block.check_ok b place 0 _ inner () hinner).2.env_eq
  show inner.env.pop = state.env
  rw [henv, Block.pop_envAfter]
  exact Env.pop_pushWith ..

end InScope

/-! ### Functions -/

/-- The names that a statement writes. -/
def Stmt.names : Stmt → List Name
  | .declare _ name _ _ => [name]
  | .assign _ target _ => [target]
  | _ => []

/-- The spans under which the check of a statement records a type. -/
def Stmt.recordedSpans (s : Stmt) : List Span :=
  s.exprs.map Expr.span ++ s.names.map Name.span

/-- The spans under which the check of a function records a type. -/
def Function.recordedSpans (f : Function) : List Span :=
  f.body.sites.flatMap fun p => p.stmt.recordedSpans

/-- What is recorded about a statement is recorded under its spans. -/
theorem Standing.map_fst_notes (x : Standing) : x.notes.map Prod.fst = x.site.stmt.recordedSpans := by
  have hnames : (x.site.stmt.nameNotes x.env).map Prod.fst = x.site.stmt.names.map Name.span := by
    cases x.site.stmt <;> rfl
  rw [Standing.notes, List.map_append, hnames, List.map_map]
  rfl

/-- The statements of a function are listed at its sites. -/
theorem Function.map_site_standings (f : Function) (env : Env) :
    (f.standings env).map Standing.site = f.body.sites :=
  Block.map_site_standingsFrom ..

/-- A statement of a function stands at one of its sites. -/
theorem Function.site_of_standing {f : Function} {env : Env} {x : Standing} (hx : x ∈ f.standings env) :
    x.site ∈ f.body.sites := by
  rw [← f.map_site_standings env]
  exact List.mem_map.2 ⟨x, hx, rfl⟩

/-- What is recorded about the statements of a function is recorded under its spans. -/
theorem Function.map_fst_notes (f : Function) (env : Env) :
    ((f.standings env).flatMap Standing.notes).map Prod.fst = f.recordedSpans := by
  rw [Function.recordedSpans, ← f.map_site_standings env, List.flatMap_map, List.map_flatMap]
  simp only [Standing.map_fst_notes]

/-- Parameters that pass are in scope, and nothing else has changed. -/
theorem declareParams_ok {params : List Param} {state final : CheckState} {u : Unit}
    (h : declareParams params state = .ok u final) :
    final = { state with env := declareParamsIn state.env params } := by
  induction params generalizing state with
  | nil =>
    obtain ⟨-, rfl⟩ := Check.pure_eq_ok.1 h
    rfl
  | cons p rest ih =>
    simp only [declareParams, Check.bind_eq_ok, Check.ask_eq_ok, Check.define_eq_ok] at h
    obtain ⟨t, _, ⟨hresolve, rfl⟩, _, _, rfl, hrest⟩ := h
    rw [ih hrest, declareParamsIn]
    simp [hresolve, Except.toOption]

section Accepted

variable {f : Function} {env env' : Env} {types : TypeRecord}

/-- A function that passes its check has every statement typed where it stands, and exactly that recorded. -/
theorem Function.check_ok (h : f.check env = (.ok types, env')) :
    (∀ x ∈ f.standings env, x.Typed) ∧
      ∃ written, written.Perm ((f.standings env).flatMap Standing.notes) ∧
        types = (CheckState.note ⟨env, .empty⟩ written).types := by
  unfold Function.check at h
  split at h
  · cases h
  · split at h
    · rename_i final hbody
      cases h
      obtain ⟨_, middle, hparams, hrest⟩ := Check.bind_eq_ok.1 hbody
      have hmiddle := declareParams_ok hparams
      subst hmiddle
      obtain ⟨htyped, written, hperm, hfinal⟩ := Block.check_ok f.body _ 0 _ _ _ hrest
      exact ⟨htyped, written, hperm, by rw [hfinal]; rfl⟩
    · cases h

/-- The record of a function that passes its check holds the type of every expression where it stands. -/
theorem Function.find?_of_check (h : f.check env = (.ok types, env')) (hspans : f.recordedSpans.Nodup)
    {x : Standing} (hx : x ∈ f.standings env) {e : Expr} (he : e ∈ x.site.stmt.exprs) :
    types.find? e.span = some (e.typeIn x.env) := by
  obtain ⟨-, written, hperm, rfl⟩ := Function.check_ok h
  apply CheckState.find?_note_of_mem
  · rw [(hperm.map Prod.fst).nodup_iff, Function.map_fst_notes]
    exact hspans
  · rw [hperm.mem_iff, List.mem_flatMap]
    refine ⟨x, hx, List.mem_append_left _ ?_⟩
    exact List.mem_map.2 ⟨e, he, rfl⟩

end Accepted

/-- A function that passes, as far as evaluation shows, has a record of types. -/
theorem Function.exists_of_isOk {f : Function} {env : Env} (h : (f.check env).1.isOk = true) :
    ∃ types env', f.check env = (.ok types, env') := by
  obtain ⟨types, htypes⟩ := Except.exists_of_isOk h
  exact ⟨types, (f.check env).2, by rw [← htypes]⟩

/-! ### Varying conditions -/

/-- What decides about the blocks of a statement is one of its expressions. -/
theorem Stmt.decision?_mem_exprs {s : Stmt} {e : Expr} (h : s.decision? = some e) : e ∈ s.exprs := by
  cases s <;> simp [Stmt.decision?] at h <;> simp [Stmt.exprs, h]

/-- Whether a condition or scrutinee of a function is varying, by its type where it stands. -/
def Function.decidesByLane (f : Function) (env : Env) (e : Expr) : Bool :=
  (f.standings env).any fun x =>
    x.site.stmt.decision?.any fun d => d.span = e.span && (d.typeIn x.env).isVarying

/-- What the record says about the conditions of a function that passes its check is what their types say. -/
theorem Function.isVaryingAt_decision {f : Function} {env env' : Env} {types : TypeRecord}
    (h : f.check env = (.ok types, env')) (hspans : f.recordedSpans.Nodup) {p : Site}
    (hp : p ∈ f.body.sites) {e : Expr} (he : p.stmt.decision? = some e) :
    types.isVaryingAt e.span = f.decidesByLane env e := by
  rw [← f.map_site_standings env, List.mem_map] at hp
  obtain ⟨x, hx, rfl⟩ := hp
  have hfind := Function.find?_of_check h hspans hx (Stmt.decision?_mem_exprs he)
  rw [Bool.eq_iff_iff, TypeRecord.isVaryingAt, hfind, Option.any_some, Function.decidesByLane,
    List.any_eq_true]
  constructor
  · intro hvarying
    exact ⟨x, hx, by simp [he, hvarying]⟩
  · rintro ⟨y, hy, hdecides⟩
    rw [Option.any_eq_true] at hdecides
    obtain ⟨d, hd, hvarying⟩ := hdecides
    simp only [Bool.and_eq_true, decide_eq_true_eq] at hvarying
    -- both conditions are recorded under one span, so they have one type
    have hsame := Function.find?_of_check h hspans hy (Stmt.decision?_mem_exprs hd)
    rw [hvarying.1, hfind, Option.some.injEq] at hsame
    rw [hsame]
    exact hvarying.2

end Lanewise
