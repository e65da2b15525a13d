import Lanewise.Proofs.Occurrences
import Lanewise.Proofs.TypingRules

/-!
# How the checks are put together

The check of a body is put together from few primitive checks: it asks the environment, records types, declares
variables, does one thing after another and gives a block a scope of its own. What is true of the primitive
checks, of typing every expression of the body, and of these ways to put checks together is true of the check of
the whole function (`Check.Composable.checkBody`).

All that is ever asked about the functions of the environment is what is found under a name. So the answers are
the same in environments that are alike up to the order in which their functions were declared (`Env.Alike`), and
a property that all such questions have is true of the check of every function (`Check.Compositional.checkBody`).
-/

set_option autoImplicit false

namespace Lanewise

/-! ### Environments -/

/-- Whether two environments are the same up to the order of the functions. -/
structure Env.Alike (env env' : Env) : Prop where
  scopes : env.scopes = env'.scopes
  constants : env.constants = env'.constants
  target : env.target = env'.target
  functions : ∀ name, env.functions.find? name = env'.functions.find? name

namespace Env.Alike

variable {env env' : Env} (h : env.Alike env')

include h

/-- Environments that are alike bind the same names. -/
theorem lookup? (name : String) : env.lookup? name = env'.lookup? name := by
  rw [Env.lookup?, Env.lookup?, h.scopes]

/-- Alike environments stay alike when a scope is opened. -/
theorem push : env.push.Alike env'.push :=
  ⟨congrArg (Assoc.empty :: ·) h.scopes, h.constants, h.target, h.functions⟩

/-- Alike environments stay alike when a scope is closed. -/
theorem pop : env.pop.Alike env'.pop :=
  ⟨congrArg List.tail h.scopes, h.constants, h.target, h.functions⟩

/-- Alike environments stay alike when a name is defined in both. -/
theorem define (name : String) (binding : Binding) :
    (env.define name binding).Alike (env'.define name binding) := by
  unfold Env.define
  rw [← h.scopes]
  split
  · exact h
  · exact ⟨rfl, h.constants, h.target, h.functions⟩

end Env.Alike

/-! ### Types -/

section Types

variable {env env' : Env} (hscopes : env.scopes = env'.scopes) (hconstants : env.constants = env'.constants)

include hscopes hconstants

/-- A lane count means something by the scopes and the constants alone. -/
theorem Constraint.width_congr (c : Constraint) (elem : Scalar) : c.width env elem = c.width env' elem := by
  have hlookup : env.lookup? = env'.lookup? := by
    funext name
    rw [Env.lookup?, Env.lookup?, hscopes]
  rw [Constraint.width, Constraint.width, Constraint.value, Constraint.value, hconstants, hlookup]

/-- A written type means something by the scopes and the constants alone. -/
theorem TypeExpr.resolve_congr (t : TypeExpr) : t.resolve env = t.resolve env' := by
  induction t with
  | named span name => rfl
  | varying span elem lanes ih =>
    cases elem with
    | named elemSpan name =>
      cases lanes with
      | none => rfl
      | some c => simp only [TypeExpr.resolve, laneWidth, Constraint.width_congr hscopes hconstants]
    | varying | chan => rfl
  | chan span elem ih => simp only [TypeExpr.resolve, ih]

/-- A signature depends on the constants of the environment, and on none of its functions. -/
theorem Function.signature_congr (f : Function) : f.signature env = f.signature env' := by
  simp only [Function.signature, TypeExpr.resolve_congr hscopes hconstants]

end Types

section Inference

variable {env env' : Env} (h : env.Alike env')

include h

/-- A call has the same type in environments that are alike. -/
theorem callType_alike (callee : Name) (args : List Argument) (span : Span) :
    callType env callee args span = callType env' callee args span := by
  simp only [callType, libraryCallType, binaryLibraryType, broadcastType, unaryLibraryType, reductionType,
    functionCallType, h.constants, h.target, h.functions]

/-- An expression has the same type in environments that are alike. -/
theorem Expr.infer_alike (e : Expr) : e.infer env = e.infer env' := by
  refine Expr.of_children (P := fun e => e.infer env = e.infer env') ?_ e
  intro e hchildren
  cases e with
  | int | float | bool => rfl
  | ident span name => simp only [Expr.infer, identType, h.lookup?, h.constants]
  | unary span op operand =>
    rw [Expr.infer, Expr.infer, hchildren operand List.mem_cons_self]
  | binary span op left right =>
    rw [Expr.infer, Expr.infer, hchildren left List.mem_cons_self,
      hchildren right (List.mem_cons_of_mem _ List.mem_cons_self)]
  | cast span operand target =>
    rw [Expr.infer, Expr.infer, hchildren operand List.mem_cons_self,
      TypeExpr.resolve_congr h.scopes h.constants]
  | call span callee args =>
    have hargs : Expr.inferEach env args = Expr.inferEach env' args := by
      rw [Expr.inferEach_eq_map, Expr.inferEach_eq_map]
      refine List.map_congr_left fun e he => ?_
      rw [hchildren e he]
    rw [Expr.infer, Expr.infer, hargs, callType_alike h]
  | range span first last =>
    rw [Expr.infer, Expr.infer, hchildren first List.mem_cons_self,
      hchildren last (List.mem_cons_of_mem _ List.mem_cons_self)]
  | recv span chan =>
    rw [Expr.infer, Expr.infer, hchildren chan List.mem_cons_self]

end Inference

/-! ### Checks -/

/-- Whether a property of checks holds of the primitive ones, those that type an expression apart, and is kept by
putting checks together. Names and types of the program mean something by the scopes and the constants alone. -/
structure Check.Composable (P : {α : Type} → Check α → Prop) : Prop where
  of_pure : ∀ {α : Type} (a : α), P (pure a : Check α)
  of_except : ∀ {α : Type} (outcome : Except Issue α), P (Check.ofExcept outcome)
  of_ask : ∀ {α : Type} {question : Env → Except Issue α},
    (∀ env env' : Env, env.scopes = env'.scopes → env.constants = env'.constants →
      question env = question env') → P (Check.ask question)
  of_record : ∀ (span : Span) (t : LaneType), P (Check.record span t)
  of_define : ∀ (name : String) (t : LaneType) (depth : Nat), P (Check.define name t depth)
  bind : ∀ {α β : Type} {c : Check α} {k : α → Check β}, P c → (∀ a, P (k a)) → P (c >>= k)
  inScope : ∀ {body : Check Unit}, P body → P (Check.inScope body)

/-- Whether a property of checks holds of typing each expression of some sites. -/
def Check.OfExprs (P : {α : Type} → Check α → Prop) (sites : List Site) : Prop :=
  ∀ p ∈ sites, ∀ e ∈ p.stmt.exprs, P (Check.ask e.infer)

namespace Check.OfExprs

variable {P : {α : Type} → Check α → Prop}

/-- What holds of every expression below a statement holds of the statement's own. -/
theorem here {s : Stmt} {index : Nat} (h : Check.OfExprs P (s.sites index)) :
    ∀ e ∈ s.exprs, P (Check.ask e.infer) :=
  h ⟨[], index, s⟩ (Stmt.mem_sites.2 (Or.inl rfl))

/-- What holds of every expression below a statement holds of those in its blocks. -/
theorem inside {s : Stmt} {index : Nat} (h : Check.OfExprs P (s.sites index)) {arm : Arm} {b : Block}
    (hb : (arm, b) ∈ s.blocks) : Check.OfExprs P b.sites := by
  intro q hq
  have hsite : q.under ⟨index, s, arm⟩ ∈ s.sites index := Stmt.mem_sites.2 (Or.inr ⟨arm, b, hb, q, hq, rfl⟩)
  exact h (q.under ⟨index, s, arm⟩) hsite

end Check.OfExprs

namespace Check.Composable

variable {P : {α : Type} → Check α → Prop} (hP : Check.Composable P)

include hP

/-- A composable property passes to a check in a scope with one name defined. -/
theorem inScopeWith {body : Check Unit} (name : String) (t : LaneType) (depth : Nat) (h : P body) :
    P (Check.inScopeWith name t depth body) :=
  hP.inScope (hP.bind (hP.of_define name t depth) fun _ => h)

/-- A composable property holds of resolving a written type. -/
theorem resolve (t : TypeExpr) : P (Check.ask t.resolve) :=
  hP.of_ask fun _ _ hscopes hconstants => TypeExpr.resolve_congr hscopes hconstants t

/-- A composable property holds of asking for a concrete lane count. -/
theorem askWidth (lanes : Constraint) (elem : Scalar) (ifOpen : TypeFault) :
    P (Check.ask (concreteWidth lanes elem ifOpen)) := by
  refine hP.of_ask fun _ _ hscopes hconstants => ?_
  rw [concreteWidth, concreteWidth, Constraint.width_congr hscopes hconstants]

/-- A composable property holds of asking for the lane count of a go-for, written or not. -/
theorem askGoForWidth (lanes : Option Constraint) (elem : Scalar) :
    P (Check.ask (goForWidth lanes elem)) := by
  cases lanes with
  | none => exact hP.of_ask fun _ _ _ _ => rfl
  | some c => exact hP.askWidth c elem .openGoFor

/-- A composable property holds of looking up the target of an assignment. -/
theorem askBinding (target : Name) : P (Check.ask (assignedBinding target)) := by
  refine hP.of_ask fun env env' hscopes _ => ?_
  rw [assignedBinding, assignedBinding, Env.lookup?, Env.lookup?, hscopes]

/-! ### The rules of the statements -/

section Rules

variable {e : Expr} (he : P (Check.ask e.infer))

include he

/-- A composable property passes from typing an expression to recording the type as well. -/
theorem infer : P (Check.infer e) :=
  hP.bind he fun t => hP.bind (hP.of_record e.span t) fun _ => hP.of_pure t

/-- A composable property passes to typing an expression for a slot. -/
theorem inferInto (slot : LaneType) : P (Check.inferInto e slot) :=
  hP.bind (hP.infer he) fun _ => hP.of_except _

/-- A composable property passes to checking an expression as a condition. -/
theorem condition (stmt : Guarded) : P (checkCondition stmt e) :=
  hP.bind (hP.infer he) fun t => hP.bind (hP.of_except _) fun _ => hP.bind (hP.of_except _) fun _ =>
    hP.of_pure t

/-- A composable property passes to a declaration with the expression as its value, annotated or not. -/
theorem declare (name : Name) (type : Option TypeExpr) (depth : Nat) :
    P (checkDeclare name type e depth) := by
  refine hP.bind (hP.infer he) fun t => hP.bind (hP.of_except _) fun _ => ?_
  have hbound : ∀ bound : LaneType,
      P (do Check.record name.span bound; Check.define name.text bound depth : Check Unit) :=
    fun bound => hP.bind (hP.of_record _ bound) fun _ => hP.of_define _ bound depth
  cases type with
  | none => exact hP.bind (hP.of_pure t) hbound
  | some declared =>
    refine hP.bind (hP.resolve declared) fun slot => hP.bind (hP.of_except _) fun _ => ?_
    exact hP.bind (hP.of_pure slot) hbound

/-- A composable property passes to an assignment of the expression. -/
theorem assign (target : Name) (depth : Nat) (span : Span) : P (checkAssign target e depth span) :=
  hP.bind (hP.askBinding target) fun _ => hP.bind (hP.inferInto he _) fun _ =>
    hP.bind (hP.of_except _) fun _ => hP.of_record _ _

/-- A composable property passes to checking the expression as the scrutinee of a switch. -/
theorem scrutinee : P (checkScrutinee e) := by
  refine hP.bind (hP.infer he) fun t => hP.bind (hP.of_except _) fun _ => ?_
  split
  · exact hP.of_pure _
  · exact hP.of_except _

/-- A composable property passes to checking the expression as the scrutinee of a type switch. -/
theorem typeScrutinee : P (checkTypeScrutinee e) := by
  refine hP.bind (hP.infer he) fun t => ?_
  split
  · exact hP.of_pure _
  · exact hP.of_except _

/-- A composable property passes to checking the expression as what a loop runs over. -/
theorem iterable : P (checkIterable e) := by
  refine hP.bind (hP.infer he) fun t => ?_
  split
  · exact hP.of_pure _
  · exact hP.of_pure _
  · exact hP.of_except _

/-- A composable property passes to checking the expression as the range of a go-for. -/
theorem goForRange : P (checkGoForRange e) := by
  refine hP.bind (hP.infer he) fun t => ?_
  split
  · split
    · exact hP.of_pure _
    · exact hP.of_except _
  · exact hP.of_except _

/-- A composable property passes to checking the expression as a call that is deferred or spawned. -/
theorem taken (stmt : CallTaker) : P (checkTaken stmt e) :=
  hP.bind (hP.of_except _) fun _ => hP.bind (hP.infer he) fun _ => hP.of_pure ()

/-- A composable property passes to a send over the expression, if it holds of typing the value too. -/
theorem send {value : Expr} (hvalue : P (Check.ask value.infer)) : P (checkSend e value) := by
  refine hP.bind (hP.infer he) fun t => ?_
  split
  · exact hP.inferInto hvalue _
  · exact hP.of_except _

end Rules

/-- A composable property passes to the values of a case if it holds of typing each. -/
theorem caseValues (elem : Scalar) {values : List Expr} (h : ∀ e ∈ values, P (Check.ask e.infer)) :
    P (checkCaseValues elem values) := by
  induction values with
  | nil => exact hP.of_pure ()
  | cons value rest ih =>
    rw [List.forall_mem_cons] at h
    exact hP.bind (hP.inferInto h.1 _) fun _ => ih h.2

/-- A composable property passes to a return if it holds of typing the value, where there is one. -/
theorem ret {value : Option Expr} (h : ∀ e ∈ value.toList, P (Check.ask e.infer)) (result : LaneType)
    (span : Span) : P (checkReturn value result span) := by
  cases value with
  | none => exact hP.of_except _
  | some e => exact hP.inferInto (h e (List.mem_singleton_self e)) result

/-! ### Bodies -/

mutual

/-- A composable property passes to the check of a statement if it holds of typing every expression below it.
The proof goes over the statement, its blocks and its arms together. -/
theorem stmt (s : Stmt) (place : Place) {index : Nat} (h : Check.OfExprs P (s.sites index)) :
    P (s.check place) := by
  match s with
  | .declare _ name type value => exact hP.declare (h.here _ List.mem_cons_self) name type place.depth
  | .assign span target value => exact hP.assign (h.here _ List.mem_cons_self) target place.depth span
  | .ifThen _ cond thenArm =>
    exact hP.bind (hP.condition (h.here _ List.mem_cons_self) _) fun t =>
      hP.inScope (block thenArm _ (h.inside List.mem_cons_self))
  | .ifElse _ cond thenArm elseArm =>
    exact hP.bind (hP.condition (h.here _ List.mem_cons_self) _) fun t =>
      hP.bind (hP.inScope (block thenArm _ (h.inside List.mem_cons_self))) fun _ =>
        hP.inScope (block elseArm _ (h.inside (List.mem_cons_of_mem _ List.mem_cons_self)))
  | .switch _ e as =>
    exact hP.bind (hP.scrutinee (h.here _ List.mem_cons_self)) fun found =>
      arms as found.2 _ (fun v hv => h.here v (List.mem_cons_of_mem _ hv)) fun arm b hb => h.inside hb
  | .typeSwitch _ binding e as =>
    exact hP.bind (hP.typeScrutinee (h.here _ List.mem_cons_self)) fun elem =>
      laneArms as _ elem _ fun arm b hb => h.inside hb
  | .forIn _ var e body =>
    exact hP.bind (hP.iterable (h.here _ List.mem_cons_self)) fun t =>
      hP.inScopeWith _ t _ (block body _ (h.inside List.mem_cons_self))
  | .whileLoop _ cond body =>
    exact hP.bind (hP.condition (h.here _ List.mem_cons_self) _) fun t =>
      hP.inScope (block body _ (h.inside List.mem_cons_self))
  | .goFor _ var range lanes body =>
    exact hP.bind (hP.goForRange (h.here _ List.mem_cons_self)) fun elem =>
      hP.bind (hP.askGoForWidth lanes elem) fun w =>
        hP.inScopeWith _ _ _ (block body _ (h.inside List.mem_cons_self))
  | .ret span value => exact hP.ret h.here place.result span
  | .brk _ => exact hP.of_except _
  | .cont _ => exact hP.of_except _
  | .panic _ value =>
    exact hP.bind (hP.infer (h.here _ List.mem_cons_self)) fun _ => hP.of_pure ()
  | .defer _ call => exact hP.taken (h.here _ List.mem_cons_self) .defer
  | .spawn _ call => exact hP.taken (h.here _ List.mem_cons_self) .spawn
  | .send _ chan value =>
    exact hP.send (h.here _ List.mem_cons_self) (h.here _ (List.mem_cons_of_mem _ List.mem_cons_self))
  | .eval _ value =>
    exact hP.bind (hP.infer (h.here _ List.mem_cons_self)) fun _ => hP.of_pure ()

/-- A composable property passes to the check of a block if it holds of typing every expression in it. -/
theorem block (b : Block) (place : Place) {index : Nat} (h : Check.OfExprs P (b.sitesFrom index)) :
    P (b.check place) := by
  match b with
  | .nil _ => exact hP.of_pure ()
  | .cons first rest =>
    obtain ⟨hfirst, hrest⟩ := List.forall_mem_append.1 h
    exact hP.bind (stmt first place hfirst) fun _ => block rest place hrest

/-- A composable property passes to the arms of a switch if it holds of typing their values and every
expression in their bodies. -/
theorem arms (as : Arms) (elem : Scalar) (place : Place) {k : Nat}
    (hvalues : ∀ e ∈ as.values, P (Check.ask e.infer))
    (h : ∀ arm b, (arm, b) ∈ as.blocks k → Check.OfExprs P b.sites) : P (as.check elem place) := by
  match as with
  | .nil => exact hP.of_pure ()
  | .default body => exact hP.inScope (block body place (h _ _ List.mem_cons_self))
  | .case values body rest =>
    obtain ⟨hhere, hlater⟩ := List.forall_mem_append.1 hvalues
    exact hP.bind (hP.caseValues elem hhere) fun _ =>
      hP.bind (hP.inScope (block body place (h _ _ List.mem_cons_self))) fun _ =>
        arms rest elem place hlater fun arm b hb => h arm b (List.mem_cons_of_mem _ hb)

/-- A composable property passes to the arms of a type switch if it holds of typing every expression in their
bodies. -/
theorem laneArms (as : LaneArms) (name : String) (elem : Scalar) (place : Place) {k : Nat}
    (h : ∀ arm b, (arm, b) ∈ as.blocks k → Check.OfExprs P b.sites) : P (as.check name elem place) := by
  match as with
  | .nil => exact hP.of_pure ()
  | .default body => exact hP.inScopeWith _ _ _ (block body place (h _ _ List.mem_cons_self))
  | .case lanes body rest =>
    exact hP.bind (hP.askWidth lanes elem .openTypeCase) fun w =>
      hP.bind (hP.inScopeWith _ _ _ (block body place (h _ _ List.mem_cons_self))) fun _ =>
        laneArms rest name elem place fun arm b hb => h arm b (List.mem_cons_of_mem _ hb)

end

/-- A composable property holds of declaring the parameters of a function. -/
theorem params (ps : List Param) : P (declareParams ps) := by
  induction ps with
  | nil => exact hP.of_pure ()
  | cons p rest ih => exact hP.bind (hP.resolve p.type) fun _ => hP.bind (hP.of_define _ _ _) fun _ => ih

/-- What holds of the primitive checks and of typing every expression of a function, and is kept by putting checks
together, holds of the check of the function. -/
theorem checkBody (f : Function) (result : LaneType) (h : Check.OfExprs P f.body.sites) :
    P (f.checkBody result) :=
  hP.bind (hP.params f.params) fun _ => hP.block f.body _ h

end Check.Composable

/-- Whether a property of checks holds of the primitive ones and is kept by putting checks together. -/
structure Check.Compositional (P : {α : Type} → Check α → Prop) : Prop where
  of_pure : ∀ {α : Type} (a : α), P (pure a : Check α)
  of_except : ∀ {α : Type} (outcome : Except Issue α), P (Check.ofExcept outcome)
  of_ask : ∀ {α : Type} {question : Env → Except Issue α},
    (∀ env env' : Env, env.Alike env' → question env = question env') → P (Check.ask question)
  of_record : ∀ (span : Span) (t : LaneType), P (Check.record span t)
  of_define : ∀ (name : String) (t : LaneType) (depth : Nat), P (Check.define name t depth)
  bind : ∀ {α β : Type} {c : Check α} {k : α → Check β}, P c → (∀ a, P (k a)) → P (c >>= k)
  inScope : ∀ {body : Check Unit}, P body → P (Check.inScope body)

namespace Check.Compositional

variable {P : {α : Type} → Check α → Prop} (hP : Check.Compositional P)

include hP

/-- A property that allows more questions to the environment allows those about scopes and constants. -/
theorem composable : Check.Composable P where
  of_pure := hP.of_pure
  of_except := hP.of_except
  of_ask := fun hquestion => hP.of_ask fun env env' h => hquestion env env' h.scopes h.constants
  of_record := hP.of_record
  of_define := hP.of_define
  bind := hP.bind
  inScope := hP.inScope

/-- What holds of the primitive checks and is kept by putting checks together holds of the check of every
function. -/
theorem checkBody (f : Function) (result : LaneType) : P (f.checkBody result) :=
  hP.composable.checkBody f result fun _ _ e _ => hP.of_ask fun _ _ h => Expr.infer_alike h e

end Check.Compositional

end Lanewise
