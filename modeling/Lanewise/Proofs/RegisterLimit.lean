import Lanewise.Proofs.Declarations
import Lanewise.Proofs.ScopeInvariants
import Lanewise.Proofs.WellFormedTypes
import Lanewise.Syntax.Builder

/-!
# The register limit

Every environment of a program starts with well-formed types, and checking a function adds no others: neither
to the scopes nor to the record of types, and neither if it succeeds nor if it fails in the middle of a nested
scope. That holds as far as the expressions of the function stay within the limit, and
`Env.types_within_limit_iff` says exactly when they do: a swizzle or a shift of native lanes by a fixed number of
indices or amounts gets that number of lanes, and whether so many lanes of its elements fit into a register is
not asked.
-/

set_option autoImplicit false

namespace Lanewise

/-! ### Statements -/

/-- Whether every expression of a statement that regroups native lanes stays within the register limit. -/
def Stmt.Fits (env : Env) (s : Stmt) : Prop :=
  ∀ e ∈ s.exprs, ∀ p ∈ e.parts, p.fits env = true

/-- Whether every expression of a function that regroups native lanes stays within the register limit where it
stands. -/
def Function.Fits (env : Env) (f : Function) : Prop :=
  ∀ x ∈ f.standings env, x.site.stmt.Fits x.env

/-- The types of the variables that the arms of a type switch on lanes of type `t` bind. -/
def LaneArms.boundTypes (env : Env) (t : LaneType) : LaneArms → List LaneType
  | .nil => []
  | .default _ => [t]
  | .case lanes _ rest => t.settled env lanes :: rest.boundTypes env t

/-- The types of the variables that a statement binds. -/
def Stmt.boundTypes (env : Env) : Stmt → List LaneType
  | .declare _ _ type value => [declaredType env type value]
  | .typeSwitch _ _ scrutinee arms => arms.boundTypes env (scrutinee.typeIn env)
  | .forIn _ _ iterable _ => [(iterable.typeIn env).item]
  | .goFor _ _ range lanes _ => [(range.typeIn env).spread env lanes]
  | _ => []

section Statements

variable {env : Env}

/-- What a written type means is well formed, and so is `void`, which stands for a type that means nothing. -/
theorem TypeExpr.wellFormed_getD (t : TypeExpr) :
    ((t.resolve env).toOption.getD .void).WellFormed := by
  cases h : t.resolve env with
  | error issue => trivial
  | ok l => exact TypeExpr.wellFormed_of_resolve h

/-- The type of a lane variable in a case of a type switch is well formed. -/
theorem LaneType.wellFormed_settled (lanes : Constraint) (t : LaneType) :
    (t.settled env lanes).WellFormed := by
  unfold LaneType.settled
  split
  · split
    · rename_i hw
      exact concreteWidth_wellFormed hw
    · trivial
  · trivial

/-- The type of the variable of a go-for is well formed. -/
theorem LaneType.wellFormed_spread (lanes : Option Constraint) (t : LaneType) :
    (t.spread env lanes).WellFormed := by
  unfold LaneType.spread
  split
  · split
    · rename_i hw
      exact goForWidth_wellFormed hw
    · trivial
  · trivial

/-- The items of a well-formed type are well formed. -/
theorem LaneType.wellFormed_item {t : LaneType} (h : t.WellFormed) : t.item.WellFormed := by
  cases t with
  | seq | groups => trivial
  | void | uniform | varying | chan => exact h

/-- The arms of a type switch on well-formed lanes bind variables of well-formed types. -/
theorem LaneArms.wellFormed_boundTypes {t : LaneType} (ht : t.WellFormed) : ∀ (arms : LaneArms),
    ∀ bound ∈ arms.boundTypes env t, bound.WellFormed
  | .nil, _, h => by cases h
  | .default _, bound, h => List.mem_singleton.1 h ▸ ht
  | .case lanes _ rest, bound, h => by
    rcases List.mem_cons.1 h with rfl | h
    · exact LaneType.wellFormed_settled lanes t
    · exact LaneArms.wellFormed_boundTypes ht rest bound h

/-- A statement binds variables of well-formed types. -/
theorem Stmt.wellFormed_boundTypes (henv : env.WellFormed) {s : Stmt} (hfits : s.Fits env) :
    ∀ t ∈ s.boundTypes env, t.WellFormed := by
  intro t ht
  cases s with
  | declare span name type value =>
    obtain rfl := List.mem_singleton.1 ht
    cases type with
    | none => exact Expr.wellFormed_typeIn henv (hfits value List.mem_cons_self)
    | some declared => exact TypeExpr.wellFormed_getD declared
  | typeSwitch span binding scrutinee arms =>
    have hscrutinee := Expr.wellFormed_typeIn henv (hfits scrutinee List.mem_cons_self)
    exact LaneArms.wellFormed_boundTypes hscrutinee arms t ht
  | forIn span var iterable body =>
    obtain rfl := List.mem_singleton.1 ht
    exact LaneType.wellFormed_item (Expr.wellFormed_typeIn henv (hfits iterable List.mem_cons_self))
  | goFor span var range lanes body =>
    obtain rfl := List.mem_singleton.1 ht
    exact LaneType.wellFormed_spread lanes _
  | _ => cases ht

/-- After a statement that fits, the environment is well formed if it was before. -/
theorem Stmt.wellFormed_envAfter (henv : env.WellFormed) {s : Stmt} (hfits : s.Fits env) (depth : Nat) :
    (s.envAfter env depth).WellFormed := by
  have hbound := Stmt.wellFormed_boundTypes henv hfits
  cases s with
  | declare span name type value => exact henv.define (hbound _ List.mem_cons_self) name.text depth
  | _ => exact henv

/-- The bodies of a switch start in well-formed environments. -/
theorem Arms.wellFormed_scopedBlocks (henv : env.WellFormed) {depth : Nat} : ∀ (arms : Arms) (k : Nat),
    ∀ b ∈ arms.scopedBlocks env depth k, b.env.WellFormed
  | .nil, _, _, h => by cases h
  | .default _, _, b, h => by
    obtain rfl := List.mem_singleton.1 h
    exact henv.push
  | .case _ _ rest, k, b, h => by
    rcases List.mem_cons.1 h with rfl | h
    · exact henv.push
    · exact Arms.wellFormed_scopedBlocks henv rest (k + 1) b h

/-- The bodies of a type switch that binds well-formed types start in well-formed environments. -/
theorem LaneArms.wellFormed_scopedBlocks (henv : env.WellFormed) {depth : Nat} {binding : Name} {t : LaneType} :
    ∀ (arms : LaneArms) (k : Nat), (∀ bound ∈ arms.boundTypes env t, bound.WellFormed) →
      ∀ b ∈ arms.scopedBlocks env depth binding t k, b.env.WellFormed
  | .nil, _, _, _, h => by cases h
  | .default _, _, hbound, b, h => by
    obtain rfl := List.mem_singleton.1 h
    exact henv.pushWith (hbound t List.mem_cons_self) binding depth
  | .case lanes _ rest, k, hbound, b, h => by
    rcases List.mem_cons.1 h with rfl | h
    · exact henv.pushWith (hbound _ List.mem_cons_self) binding depth
    · exact LaneArms.wellFormed_scopedBlocks henv rest (k + 1)
        (fun bound hmem => hbound bound (List.mem_cons_of_mem _ hmem)) b h

/-- A statement enters its blocks with well-formed types. -/
theorem Stmt.wellFormed_scopedBlocks (henv : env.WellFormed) {s : Stmt} (hfits : s.Fits env) (depth : Nat) :
    ∀ b ∈ s.scopedBlocks env depth, b.env.WellFormed := by
  have hbound := Stmt.wellFormed_boundTypes henv hfits
  intro b hb
  cases s with
  | ifThen | whileLoop =>
    obtain rfl := List.mem_singleton.1 hb
    exact henv.push
  | ifElse =>
    rcases List.mem_cons.1 hb with rfl | hb
    · exact henv.push
    · obtain rfl := List.mem_singleton.1 hb
      exact henv.push
  | switch span scrutinee arms => exact Arms.wellFormed_scopedBlocks henv arms 0 b hb
  | typeSwitch span binding scrutinee arms =>
    exact LaneArms.wellFormed_scopedBlocks henv arms 0 hbound b hb
  | forIn span var iterable body =>
    obtain rfl := List.mem_singleton.1 hb
    exact henv.pushWith (hbound _ List.mem_cons_self) var depth
  | goFor span var range lanes body =>
    obtain rfl := List.mem_singleton.1 hb
    exact henv.pushWith (hbound _ List.mem_cons_self) var depth
  | _ => cases hb

/-- Declaring parameters keeps an environment well formed. -/
theorem wellFormed_declareParamsIn {env : Env} (henv : env.WellFormed) (params : List Param) :
    (declareParamsIn env params).WellFormed := by
  induction params generalizing env with
  | nil => exact henv
  | cons p rest ih => exact ih (henv.define (TypeExpr.wellFormed_getD p.type) p.name.text 0)

/-- The environment in force at every statement of a function that fits is well formed. -/
theorem Function.wellFormed_standings (henv : env.WellFormed) {f : Function} (hfits : f.Fits env) :
    ∀ x ∈ f.standings env, x.env.WellFormed :=
  Block.standings_induction
    (fun _ _ depth hwell hfit => Stmt.wellFormed_envAfter hwell hfit depth)
    (fun _ _ depth hwell hfit => Stmt.wellFormed_scopedBlocks hwell hfit depth)
    f.body _ 0 0 (wellFormed_declareParamsIn henv.push f.params) hfits

end Statements

/-! ### Runs of the checker -/

/-- Whether everything that the checker carries along is well formed. -/
structure CheckState.Sound (state : CheckState) : Prop where
  env : state.env.WellFormed
  types : ∀ entry ∈ state.types.entries, entry.2.WellFormed

/-- The state that a check ends in, whether it succeeds or fails. -/
def Check.final {α : Type} (c : Check α) (state : CheckState) : CheckState :=
  match c state with
  | .ok _ final => final
  | .error _ final => final

/-- Whether a check that starts in a state ends with well-formed types. -/
def Check.EndsSound {α : Type} (c : Check α) (state : CheckState) : Prop :=
  (c.final state).Sound

namespace Check.EndsSound

variable {α β : Type} {state : CheckState}

/-- A check that only answers ends where it starts. -/
theorem of_pure (h : state.Sound) {a : α} : Check.EndsSound (pure a) state := h

/-- An outcome as a check ends where it starts. -/
theorem of_except (h : state.Sound) {outcome : Except Issue α} :
    (Check.ofExcept outcome).EndsSound state := by
  cases outcome with
  | ok a => exact h
  | error issue => exact h

/-- A question to the environment ends where it starts. -/
theorem of_ask (h : state.Sound) {question : Env → Except Issue α} :
    (Check.ask question).EndsSound state :=
  of_except h

/-- Recording a well-formed type ends with well-formed types. -/
theorem of_record (h : state.Sound) {t : LaneType} (ht : t.WellFormed) (span : Span) :
    (Check.record span t).EndsSound state := by
  refine ⟨h.env, ?_⟩
  intro entry hentry
  rcases List.mem_cons.1 hentry with rfl | hentry
  · exact ht
  · exact h.types entry (List.mem_filter.1 hentry).1

/-- Defining a name with a well-formed type ends with well-formed types. -/
theorem of_define (h : state.Sound) {t : LaneType} (ht : t.WellFormed) (name : String) (depth : Nat) :
    (Check.define name t depth).EndsSound state :=
  ⟨h.env.define ht name depth, h.types⟩

/-- One check after another: the second one starts where a success of the first one ends. -/
theorem bind {c : Check α} {k : α → Check β} (hc : c.EndsSound state)
    (hk : ∀ a middle, c state = .ok a middle → middle.Sound → (k a).EndsSound middle) :
    Check.EndsSound (c >>= k) state := by
  unfold Check.EndsSound Check.final at hc
  show CheckState.Sound (match EStateM.bind c k state with | .ok _ final => final | .error _ final => final)
  unfold EStateM.bind
  cases hrun : c state with
  | error issue final =>
    rw [hrun] at hc
    exact hc
  | ok a middle =>
    rw [hrun] at hc
    exact hk a middle hrun hc

/-- A check in a scope of its own ends with well-formed types if it does so from the opened scope. -/
theorem inScope {body : Check Unit} (h : body.EndsSound { state with env := state.env.push }) :
    (Check.inScope body).EndsSound state := by
  have hclose : Check.EndsSound (do body; Check.closeScope) { state with env := state.env.push } :=
    bind h fun _ _ _ hinner => ⟨hinner.env.pop, hinner.types⟩
  exact hclose

/-- A check in a scope with one variable ends with well-formed types if it does so from that scope. -/
theorem inScopeWith {body : Check Unit} {name : Name} {t : LaneType} {depth : Nat}
    (h : body.EndsSound { state with env := state.env.pushWith name t depth }) :
    (Check.inScopeWith name.text t depth body).EndsSound state :=
  inScope h

variable (hstate : state.Sound)

include hstate

/-- Typing an expression that fits ends with well-formed types. -/
theorem infer {e : Expr} (hfits : ∀ p ∈ e.parts, p.fits state.env = true) :
    (Check.infer e).EndsSound state := by
  refine bind (of_ask hstate) ?_
  intro t middle hask hmiddle
  obtain ⟨hinfer, rfl⟩ := Check.ask_eq_ok.1 hask
  have ht := Expr.wellFormed_of_infer hstate.env hfits hinfer
  exact bind (of_record hmiddle ht e.span) fun _ _ _ hlater => of_pure hlater

/-- Typing an expression that fits for a slot ends with well-formed types. -/
theorem inferInto {e : Expr} (hfits : ∀ p ∈ e.parts, p.fits state.env = true) (slot : LaneType) :
    (Check.inferInto e slot).EndsSound state :=
  bind (infer hstate hfits) fun _ _ _ hmiddle => of_except hmiddle

end Check.EndsSound

section Rules

open Check.EndsSound

variable {state : CheckState} (hstate : state.Sound)

include hstate

/-- A condition that fits leaves well-formed types behind, whether it passes or not. -/
theorem checkCondition_endsSound {cond : Expr} (hfits : ∀ p ∈ cond.parts, p.fits state.env = true)
    (stmt : Guarded) : (checkCondition stmt cond).EndsSound state :=
  bind (infer hstate hfits) fun _ _ _ h => bind (of_except h) fun _ _ _ h =>
    bind (of_except h) fun _ _ _ h => of_pure h

/-- A declaration whose value fits leaves well-formed types behind. -/
theorem checkDeclare_endsSound {value : Expr} (hfits : ∀ p ∈ value.parts, p.fits state.env = true)
    (name : Name) (type : Option TypeExpr) (depth : Nat) :
    (checkDeclare name type value depth).EndsSound state := by
  refine bind (infer hstate hfits) fun t middle ht hmiddle => bind (of_except hmiddle) ?_
  intro _ later _ hlater
  have hwell := Expr.wellFormed_of_infer hstate.env hfits (Check.infer_eq_ok.1 ht).1
  have hbound : ∀ {bound : LaneType} {after : CheckState}, bound.WellFormed → after.Sound →
      Check.EndsSound (do Check.record name.span bound; Check.define name.text bound depth) after :=
    fun hb hafter => bind (of_record hafter hb name.span) fun _ _ _ h => of_define h hb name.text depth
  cases type with
  | none =>
    refine bind (of_pure hlater) fun bound after heq hafter => ?_
    obtain ⟨rfl, -⟩ := Check.pure_eq_ok.1 heq
    exact hbound hwell hafter
  | some declared =>
    refine bind (of_ask hlater) fun slot _ hslot h => bind (of_except h) fun _ _ _ h => ?_
    have hslotWell := TypeExpr.wellFormed_of_resolve (Check.ask_eq_ok.1 hslot).1
    refine bind (of_pure h) fun bound after heq hafter => ?_
    obtain ⟨rfl, -⟩ := Check.pure_eq_ok.1 heq
    exact hbound hslotWell hafter

/-- An assignment whose value fits leaves well-formed types behind. -/
theorem checkAssign_endsSound {value : Expr} (hfits : ∀ p ∈ value.parts, p.fits state.env = true)
    (target : Name) (depth : Nat) (span : Span) :
    (checkAssign target value depth span).EndsSound state := by
  refine bind (of_ask hstate) fun binding middle hask hmiddle => ?_
  obtain ⟨hbinding, rfl⟩ := Check.ask_eq_ok.1 hask
  have hwell : binding.type.WellFormed := by
    unfold assignedBinding at hbinding
    split at hbinding
    · rename_i hlookup
      cases hbinding
      exact hstate.env.lookup hlookup
    · cases hbinding
  exact bind (inferInto hmiddle hfits _) fun _ _ _ h => bind (of_except h) fun _ _ _ h =>
    of_record h hwell target.span

/-- The scrutinee of a switch leaves well-formed types behind if it fits. -/
theorem checkScrutinee_endsSound {scrutinee : Expr}
    (hfits : ∀ p ∈ scrutinee.parts, p.fits state.env = true) :
    (checkScrutinee scrutinee).EndsSound state := by
  refine bind (infer hstate hfits) fun t _ _ h => bind (of_except h) fun _ _ _ h => ?_
  split
  · exact of_pure h
  · exact of_except h

/-- The values of a case leave well-formed types behind if they fit. -/
theorem checkCaseValues_endsSound {elem : Scalar} {values : List Expr}
    (hfits : ∀ e ∈ values, ∀ p ∈ e.parts, p.fits state.env = true) :
    (checkCaseValues elem values).EndsSound state := by
  induction values generalizing state with
  | nil => exact of_pure hstate
  | cons value rest ih =>
    refine bind (inferInto hstate (hfits value List.mem_cons_self) _) fun _ middle hinfer hmiddle => ?_
    obtain ⟨t, -, -, rfl⟩ := Check.inferInto_eq_ok.1 hinfer
    exact ih hmiddle fun e he => hfits e (List.mem_cons_of_mem _ he)

/-- The scrutinee of a type switch leaves well-formed types behind if it fits. -/
theorem checkTypeScrutinee_endsSound {scrutinee : Expr}
    (hfits : ∀ p ∈ scrutinee.parts, p.fits state.env = true) :
    (checkTypeScrutinee scrutinee).EndsSound state := by
  refine bind (infer hstate hfits) fun t _ _ h => ?_
  split
  · exact of_pure h
  · exact of_except h

/-- What a loop runs over leaves well-formed types behind if it fits. -/
theorem checkIterable_endsSound {iterable : Expr}
    (hfits : ∀ p ∈ iterable.parts, p.fits state.env = true) :
    (checkIterable iterable).EndsSound state := by
  refine bind (infer hstate hfits) fun t _ _ h => ?_
  split
  · exact of_pure h
  · exact of_pure h
  · exact of_except h

/-- The range of a go-for leaves well-formed types behind if it fits. -/
theorem checkGoForRange_endsSound {range : Expr}
    (hfits : ∀ p ∈ range.parts, p.fits state.env = true) :
    (checkGoForRange range).EndsSound state := by
  refine bind (infer hstate hfits) fun t _ _ h => ?_
  split
  · split
    · exact of_pure h
    · exact of_except h
  · exact of_except h

/-- A return whose value fits leaves well-formed types behind. -/
theorem checkReturn_endsSound {value : Option Expr}
    (hfits : ∀ e ∈ value.toList, ∀ p ∈ e.parts, p.fits state.env = true) (result : LaneType) (span : Span) :
    (checkReturn value result span).EndsSound state := by
  cases value with
  | none => exact of_except hstate
  | some e => exact inferInto hstate (hfits e List.mem_cons_self) result

/-- A deferred or spawned call that fits leaves well-formed types behind. -/
theorem checkTaken_endsSound {call : Expr} (hfits : ∀ p ∈ call.parts, p.fits state.env = true)
    (stmt : CallTaker) : (checkTaken stmt call).EndsSound state := by
  refine bind (of_except hstate) fun _ middle hcall hmiddle => ?_
  obtain ⟨-, rfl⟩ := Check.ofExcept_eq_ok.1 hcall
  exact bind (infer hmiddle hfits) fun _ _ _ h => of_pure h

/-- A send whose channel and value fit leaves well-formed types behind. -/
theorem checkSend_endsSound {chan value : Expr}
    (hfits : ∀ e ∈ [chan, value], ∀ p ∈ e.parts, p.fits state.env = true) :
    (checkSend chan value).EndsSound state := by
  refine bind (infer hstate (hfits chan List.mem_cons_self)) fun t middle ht hmiddle => ?_
  obtain ⟨-, rfl⟩ := Check.infer_eq_ok.1 ht
  split
  · exact inferInto hmiddle (hfits value (List.mem_cons_of_mem _ List.mem_cons_self)) _
  · exact of_except hmiddle

end Rules

/-- Whether every statement of the blocks that are entered fits where it stands. -/
def ScopedBlock.AllFit (blocks : List ScopedBlock) : Prop :=
  ∀ b ∈ blocks, ∀ x ∈ b.block.standingsFrom b.env b.depth 0, x.site.stmt.Fits x.env

/-- If all statements below a statement fit where they stand, it fits and so does all in its blocks. -/
theorem Stmt.fits_standings {s : Stmt} {env : Env} {depth index : Nat}
    (h : ∀ x ∈ s.standings env depth index, x.site.stmt.Fits x.env) :
    s.Fits env ∧ ScopedBlock.AllFit (s.scopedBlocks env depth) := by
  rw [Stmt.standings_eq] at h
  refine ⟨h ⟨⟨[], index, s⟩, env, depth⟩ List.mem_cons_self, ?_⟩
  intro b hb x hx
  have hlisted : x.under ⟨index, s, b.arm⟩ ∈ b.standings index s := List.mem_map_of_mem hx
  exact h (x.under ⟨index, s, b.arm⟩) (List.mem_cons_of_mem _ (List.mem_flatMap.2 ⟨b, hb, hlisted⟩))

/-- Whether every check of a block whose statements fit ends with well-formed types. -/
def Block.ChecksSound (b : Block) : Prop :=
  ∀ (place : Place) (index : Nat) (state : CheckState), state.Sound →
    (∀ x ∈ b.standingsFrom state.env place.depth index, x.site.stmt.Fits x.env) →
      (b.check place).EndsSound state

section InScope

variable {b : Block} {place : Place} {state : CheckState}

/-- A block that is checked soundly is so in a scope of its own. -/
theorem Block.ChecksSound.inScope (hb : b.ChecksSound) (hstate : state.Sound)
    (hfits : ∀ x ∈ b.standingsFrom state.env.push place.depth 0, x.site.stmt.Fits x.env) :
    (Check.inScope (b.check place)).EndsSound state :=
  Check.EndsSound.inScope (hb place 0 _ ⟨hstate.env.push, hstate.types⟩ hfits)

/-- A block that is checked soundly is so in a scope with a variable of a well-formed type. -/
theorem Block.ChecksSound.inScopeWith (hb : b.ChecksSound) (hstate : state.Sound) {name : Name}
    {t : LaneType} (ht : t.WellFormed) {depth : Nat}
    (hfits : ∀ x ∈ b.standingsFrom (state.env.pushWith name t depth) place.depth 0, x.site.stmt.Fits x.env) :
    (Check.inScopeWith name.text t depth (b.check place)).EndsSound state :=
  Check.EndsSound.inScopeWith
    (hb place 0 _ ⟨hstate.env.pushWith ht name depth, hstate.types⟩ hfits)

end InScope

section Statements

open Check.EndsSound

mutual

/-- The check of a statement ends with well-formed types, if all its statements fit. -/
theorem Stmt.check_endsSound (s : Stmt) {place : Place} (index : Nat) {state : CheckState}
    (hstate : state.Sound)
    (hall : ∀ x ∈ s.standings state.env place.depth index, x.site.stmt.Fits x.env) :
    (s.check place).EndsSound state := by
  obtain ⟨hfits, hinner⟩ := Stmt.fits_standings hall
  match s with
  | .declare _ name type value =>
    exact checkDeclare_endsSound hstate (hfits value List.mem_cons_self) name type place.depth
  | .assign span target value =>
    exact checkAssign_endsSound hstate (hfits value List.mem_cons_self) target place.depth span
  | .ifThen _ cond thenArm =>
    refine bind (checkCondition_endsSound hstate (hfits cond List.mem_cons_self) _) ?_
    intro t middle hcond hmiddle
    obtain ⟨hinfer, -, -, rfl⟩ := checkCondition_ok hcond
    refine (Block.check_endsSound thenArm).inScope hmiddle ?_
    rw [Place.depth_guardedBy place hinfer]
    exact hinner _ List.mem_cons_self
  | .ifElse _ cond thenArm elseArm =>
    refine bind (checkCondition_endsSound hstate (hfits cond List.mem_cons_self) _) ?_
    intro t middle hcond hmiddle
    obtain ⟨hinfer, -, -, rfl⟩ := checkCondition_ok hcond
    have hdepth := Place.depth_guardedBy place hinfer
    refine bind ((Block.check_endsSound thenArm).inScope hmiddle ?_) ?_
    · rw [hdepth]
      exact hinner _ List.mem_cons_self
    · intro _ later hthen hlater
      -- the scope of the first arm is gone when the second one is checked
      refine (Block.check_endsSound elseArm).inScope hlater ?_
      rw [Block.env_of_inScope hthen, hdepth]
      exact hinner _ (List.mem_cons_of_mem _ List.mem_cons_self)
  | .switch _ scrutinee arms =>
    refine bind (checkScrutinee_endsSound hstate (hfits scrutinee List.mem_cons_self)) ?_
    rintro ⟨t, elem⟩ middle hscrutinee hmiddle
    obtain ⟨hinfer, -, -, rfl⟩ := checkScrutinee_ok hscrutinee
    refine Arms.check_endsSound arms hmiddle (fun e he => hfits e (List.mem_cons_of_mem _ he)) (k := 0) ?_
    rw [Place.depth_guardedBy place hinfer]
    exact hinner
  | .typeSwitch _ binding scrutinee arms =>
    refine bind (checkTypeScrutinee_endsSound hstate (hfits scrutinee List.mem_cons_self)) ?_
    intro elem middle hscrutinee hmiddle
    obtain ⟨hinfer, rfl⟩ := checkTypeScrutinee_ok hscrutinee
    rw [Stmt.scopedBlocks, Expr.typeIn_of_infer hinfer] at hinner
    exact LaneArms.check_endsSound arms hmiddle hinner
  | .forIn _ var iterable body =>
    have hiterable := hfits iterable List.mem_cons_self
    refine bind (checkIterable_endsSound hstate hiterable) ?_
    intro t middle hmet hmiddle
    obtain ⟨all, hinfer, rfl, rfl⟩ := checkIterable_ok hmet
    rw [Stmt.scopedBlocks, Expr.typeIn_of_infer hinfer] at hinner
    have hitem := LaneType.wellFormed_item (Expr.wellFormed_of_infer hstate.env hiterable hinfer)
    exact (Block.check_endsSound body).inScopeWith hmiddle hitem (hinner _ List.mem_cons_self)
  | .whileLoop _ cond body =>
    refine bind (checkCondition_endsSound hstate (hfits cond List.mem_cons_self) _) ?_
    intro t middle hcond hmiddle
    obtain ⟨hinfer, -, -, rfl⟩ := checkCondition_ok hcond
    refine (Block.check_endsSound body).inScope hmiddle ?_
    show ∀ x ∈ body.standingsFrom state.env.push (place.guardedBy t).depth 0, x.site.stmt.Fits x.env
    rw [Place.depth_guardedBy place hinfer]
    exact hinner _ List.mem_cons_self
  | .goFor _ var range lanes body =>
    refine bind (checkGoForRange_endsSound hstate (hfits range List.mem_cons_self)) ?_
    intro elem middle hrange hmiddle
    obtain ⟨hinfer, -, rfl⟩ := checkGoForRange_ok hrange
    refine bind (of_ask hmiddle) ?_
    intro w later hask hlater
    obtain ⟨hw, rfl⟩ := Check.ask_eq_ok.1 hask
    rw [Stmt.scopedBlocks, Expr.spread_of_infer hinfer hw] at hinner
    exact (Block.check_endsSound body).inScopeWith hlater (goForWidth_wellFormed hw)
      (hinner _ List.mem_cons_self)
  | .ret span value => exact checkReturn_endsSound hstate hfits place.result span
  | .brk _ => exact of_except hstate
  | .cont _ => exact of_except hstate
  | .panic _ value =>
    exact bind (infer hstate (hfits value List.mem_cons_self)) fun _ _ _ h => of_pure h
  | .defer _ call => exact checkTaken_endsSound hstate (hfits call List.mem_cons_self) .defer
  | .spawn _ call => exact checkTaken_endsSound hstate (hfits call List.mem_cons_self) .spawn
  | .send _ chan value => exact checkSend_endsSound hstate hfits
  | .eval _ value =>
    exact bind (infer hstate (hfits value List.mem_cons_self)) fun _ _ _ h => of_pure h

/-- Every block is checked soundly. -/
theorem Block.check_endsSound (b : Block) : b.ChecksSound := by
  intro place index state hstate hall
  match b with
  | .nil _ => exact of_pure hstate
  | .cons first rest =>
    rw [Block.standingsFrom] at hall
    refine bind (Stmt.check_endsSound first index hstate
      fun x hx => hall x (List.mem_append_left _ hx)) ?_
    intro _ middle hfirst hmiddle
    have henv := (Stmt.check_ok first index hfirst).2.env_eq
    refine Block.check_endsSound rest place (index + 1) middle hmiddle ?_
    rw [henv]
    exact fun x hx => hall x (List.mem_append_right _ hx)

/-- The arms of a switch leave well-formed types behind if their values and their bodies fit. -/
theorem Arms.check_endsSound (arms : Arms) {place : Place} {k : Nat} {elem : Scalar} {state : CheckState}
    (hstate : state.Sound) (hvalues : ∀ e ∈ arms.values, ∀ p ∈ e.parts, p.fits state.env = true)
    (hinner : ScopedBlock.AllFit (arms.scopedBlocks state.env place.depth k)) :
    (arms.check elem place).EndsSound state := by
  match arms with
  | .nil => exact of_pure hstate
  | .default body => exact (Block.check_endsSound body).inScope hstate (hinner _ List.mem_cons_self)
  | .case values body rest =>
    refine bind (checkCaseValues_endsSound hstate
      fun e he => hvalues e (List.mem_append_left _ he)) ?_
    intro _ middle hcase hmiddle
    obtain ⟨-, rfl⟩ := checkCaseValues_ok hcase
    refine bind ((Block.check_endsSound body).inScope hmiddle (hinner _ List.mem_cons_self)) ?_
    intro _ later hbody hlater
    have henv := Block.env_of_inScope hbody
    refine Arms.check_endsSound rest (k := k + 1) hlater ?_ ?_
    · rw [henv]
      exact fun e he => hvalues e (List.mem_append_right _ he)
    · rw [henv]
      exact fun b hb => hinner b (List.mem_cons_of_mem _ hb)

/-- The arms of a type switch leave well-formed types behind if their bodies fit. -/
theorem LaneArms.check_endsSound (arms : LaneArms) {place : Place} {k : Nat} {binding : Name}
    {elem : Scalar} {state : CheckState} (hstate : state.Sound)
    (hinner : ScopedBlock.AllFit
      (arms.scopedBlocks state.env place.depth binding (.varying elem .universal) k)) :
    (arms.check binding.text elem place).EndsSound state := by
  match arms with
  | .nil => exact of_pure hstate
  | .default body =>
    have hopen : (LaneType.varying elem .universal).WellFormed := trivial
    exact (Block.check_endsSound body).inScopeWith hstate hopen (hinner _ List.mem_cons_self)
  | .case lanes body rest =>
    refine bind (of_ask hstate) ?_
    intro w middle hask hmiddle
    obtain ⟨hw, rfl⟩ := Check.ask_eq_ok.1 hask
    rw [LaneArms.scopedBlocks, LaneType.settled_of_concreteWidth hw] at hinner
    refine bind ((Block.check_endsSound body).inScopeWith hmiddle (concreteWidth_wellFormed hw)
      (hinner _ List.mem_cons_self)) ?_
    intro _ later hbody hlater
    refine LaneArms.check_endsSound rest (k := k + 1) hlater ?_
    rw [Block.env_of_inScopeWith hbody]
    exact fun b hb => hinner b (List.mem_cons_of_mem _ hb)

end

end Statements

/-! ### Functions and programs -/

/-- Declaring the parameters of a function leaves well-formed types behind. -/
theorem declareParams_endsSound {state : CheckState} (hstate : state.Sound) (params : List Param) :
    (declareParams params).EndsSound state := by
  induction params generalizing state with
  | nil => exact Check.EndsSound.of_pure hstate
  | cons p rest ih =>
    refine Check.EndsSound.bind (Check.EndsSound.of_ask hstate) fun t middle hask hmiddle => ?_
    have ht := TypeExpr.wellFormed_of_resolve (Check.ask_eq_ok.1 hask).1
    exact Check.EndsSound.bind (Check.EndsSound.of_define hmiddle ht p.name.text 0) fun _ _ _ h => ih h

/-- The state that the check of a function ends in, whether it passes or not, if it has a signature. -/
def Function.checkedState? (f : Function) (env : Env) : Option CheckState :=
  (env.functions.find? f.name.text).map fun s =>
    (f.checkBody s.result).final { env := env.push, types := .empty }

/-- The check of a function that fits leaves well-formed types behind, whether it passes or not. -/
theorem Function.sound_checkedState? {env : Env} {f : Function} (henv : env.WellFormed)
    (hfits : f.Fits env) {final : CheckState} (h : f.checkedState? env = some final) : final.Sound := by
  obtain ⟨s, -, rfl⟩ := Option.map_eq_some_iff.1 h
  have hstart : CheckState.Sound { env := env.push, types := .empty } := ⟨henv.push, nofun⟩
  refine Check.EndsSound.bind (declareParams_endsSound hstart f.params) ?_
  intro _ middle hparams hmiddle
  obtain rfl := declareParams_ok hparams
  exact Block.check_endsSound f.body _ 0 _ hmiddle hfits

/-- The record of a function that passes is that of the state that its check ends in. -/
theorem Function.checkedState?_of_check {env : Env} {f : Function} {types : TypeRecord}
    (h : (f.check env).1 = .ok types) : ∃ final, f.checkedState? env = some final ∧ final.types = types := by
  unfold Function.check at h
  unfold Function.checkedState? Check.final
  split at h
  · cases h
  · rename_i s hs
    rw [hs]
    refine ⟨_, rfl, ?_⟩
    split at h
    · rename_i hrun
      cases h
      simp only [hrun]
    · cases h

/-- Parameters resolve to well-formed types. -/
theorem Param.wellFormed_of_resolve {env : Env} {params : List Param} {types : List LaneType}
    (h : params.mapM (fun p => p.type.resolve env) = .ok types) : ∀ t ∈ types, t.WellFormed := by
  have hall := Except.mapM_eq_ok.1 h
  clear h
  induction hall with
  | nil => simp
  | cons hfirst _ ih =>
    rw [List.forall_mem_cons]
    exact ⟨TypeExpr.wellFormed_of_resolve hfirst, ih⟩

/-- A signature that resolves has well-formed types. -/
theorem Function.wellFormed_signature {env : Env} {f : Function} {s : Signature}
    (h : f.signature env = .ok s) : (∀ t ∈ s.params, t.WellFormed) ∧ s.result.WellFormed := by
  obtain ⟨hparams, hresult, -⟩ := Function.signature_ok h
  refine ⟨Param.wellFormed_of_resolve hparams, ?_⟩
  rcases hresult with ⟨-, hvoid⟩ | ⟨t, -, hresolve⟩
  · rw [hvoid]
    trivial
  · exact TypeExpr.wellFormed_of_resolve hresolve

/-- Declaring functions keeps an environment well formed. -/
theorem wellFormed_declareFunctions {env : Env} (henv : env.WellFormed) (fs : List Function) :
    (declareFunctions fs env).1.WellFormed := by
  induction fs generalizing env with
  | nil => exact henv
  | cons f rest ih =>
    rw [declareFunctions]
    split
    · rename_i s hs
      obtain ⟨hparams, hresult⟩ := Function.wellFormed_signature hs
      apply ih
      refine ⟨henv.bindings, ?_, ?_⟩
      · intro name found hfound
        rw [Assoc.find?_insert] at hfound
        split at hfound
        · cases hfound
          exact hparams
        · exact henv.params name found hfound
      · intro name found hfound
        rw [Assoc.find?_insert] at hfound
        split at hfound
        · cases hfound
          exact hresult
        · exact henv.results name found hfound
    · exact ih henv

/-- The declarations of a program have well-formed types only. -/
theorem Program.wellFormed_declare (p : Program) (target : Target) : (p.declare target).1.WellFormed := by
  apply wellFormed_declareFunctions
  refine ⟨?_, nofun, nofun⟩
  intro scope hscope name binding h
  obtain rfl := List.mem_singleton.1 hscope
  cases h

/-- In an environment with well-formed types, every expression and every part of it has a well-formed type
exactly if the swizzles and shifts in it that regroup native lanes stay within the register limit. The same holds
of all expressions of a function where they stand, and then the function binds variables of well-formed types
only, and its check ends with well-formed types in every scope and in the record, whether it passes or not. The
declarations of a program have well-formed types whatever the program is. -/
theorem Env.types_within_limit_iff {env : Env} (henv : env.WellFormed) :
    (∀ e : Expr, (∀ p ∈ e.parts, ∀ t, p.infer env = .ok t → t.WellFormed) ↔
        ∀ p ∈ e.parts, p.fits env = true) ∧
      (∀ f : Function,
        ((∀ x ∈ f.standings env, ∀ e ∈ x.site.stmt.exprs, ∀ p ∈ e.parts,
            ∀ t, p.infer x.env = .ok t → t.WellFormed) ↔ f.Fits env) ∧
        (f.Fits env →
          (declareParamsIn env.push f.params).WellFormed ∧
          (∀ x ∈ f.standings env, x.env.WellFormed ∧ ∀ t ∈ x.site.stmt.boundTypes x.env, t.WellFormed) ∧
          (∀ final, f.checkedState? env = some final → final.Sound) ∧
          ∀ types, (f.check env).1 = .ok types → ∀ entry ∈ types.entries, entry.2.WellFormed)) ∧
      ∀ (p : Program) (target : Target), (p.declare target).1.WellFormed := by
  refine ⟨Expr.wellFormed_parts_iff henv, ?_, Program.wellFormed_declare⟩
  intro f
  refine ⟨⟨?_, ?_⟩, ?_⟩
  · intro h x hx e he p hp
    exact Expr.fits_of_wellFormed (h x hx e he p hp)
  · intro hfits x hx e he
    have hwell := Function.wellFormed_standings henv hfits x hx
    exact (Expr.wellFormed_parts_iff hwell e).2 (hfits x hx e he)
  · intro hfits
    refine ⟨wellFormed_declareParamsIn henv.push f.params, ?_, ?_, ?_⟩
    · intro x hx
      have hwell := Function.wellFormed_standings henv hfits x hx
      exact ⟨hwell, Stmt.wellFormed_boundTypes hwell (hfits x hx)⟩
    · intro final hfinal
      exact Function.sound_checkedState? henv hfits hfinal
    · intro types hcheck
      obtain ⟨final, hfinal, rfl⟩ := Function.checkedState?_of_check hcheck
      exact (Function.sound_checkedState? henv hfits hfinal).types

section Shuffling

open Builder

/-- Native lanes taken from where eight indices point to, and the indices shifted if they are small. -/
def shuffle : Function :=
  let build : Builder Function := do
    let v ← param "v" (← varying "float64")
    let i ← param "i" (← varyingWith "int64" (.literal 8))
    let picked ← declare "w" none (← call "lanes.Swizzle" [← ident "v", ← ident "i"])
    let doubled ← declare "j" none (← call "lanes.ShiftLeft" [← ident "i", ← int 1])
    let branch ← ifThen (← binary .lt (← ident "i") (← int 3)) [doubled]
    function "shuffle" [v, i] none [picked, branch] false
  (build.run 0).1

/-- The program of this function alone. -/
def shuffler : Program :=
  { constants := [], functions := [shuffle] }

/-- Eight lanes of 64 bits fill a register. -/
theorem Env.types_within_limit_iff_shuffle :
    (shuffler.declare .standard).1.WellFormed ∧ shuffle.Fits (shuffler.declare .standard).1 ∧
      (∃ x ∈ shuffle.standings (shuffler.declare .standard).1,
        LaneType.varying .float64 (.fixed 8) ∈ x.site.stmt.boundTypes x.env) ∧
      ∃ types, (shuffle.check (shuffler.declare .standard).1).1 = .ok types ∧
        ∀ entry ∈ types.entries, entry.2.WellFormed := by
  have henv := shuffler.wellFormed_declare .standard
  have hfits : shuffle.Fits (shuffler.declare .standard).1 := by
    unfold Function.Fits Stmt.Fits
    decide +kernel
  have hbinds : ∃ x ∈ shuffle.standings (shuffler.declare .standard).1,
      LaneType.varying .float64 (.fixed 8) ∈ x.site.stmt.boundTypes x.env := by decide +kernel
  have hpasses : (shuffle.check (shuffler.declare .standard).1).1.isOk = true := by decide +kernel
  obtain ⟨types, htypes⟩ := Except.exists_of_isOk hpasses
  obtain ⟨-, hfunctions, -⟩ := Env.types_within_limit_iff henv
  obtain ⟨-, -, -, hrecord⟩ := (hfunctions shuffle).2 hfits
  exact ⟨henv, hfits, hbinds, types, htypes, hrecord types htypes⟩

/-- Native lanes taken from where sixty-four indices point to. -/
def overfill : Function :=
  let build : Builder Function := do
    let v ← param "v" (← varying "float64")
    let i ← param "i" (← varyingWith "int8" (.literal 64))
    let picked ← declare "w" none (← call "lanes.Swizzle" [← ident "v", ← ident "i"])
    function "overfill" [v, i] none [picked] false
  (build.run 0).1

/-- The program of this function alone. -/
def overfiller : Program :=
  { constants := [], functions := [overfill] }

/-- The function passes all checks, and a variable with sixty-four lanes of 64 bits is bound and recorded. -/
theorem Env.types_within_limit_overfill :
    (overfiller.declare .standard).1.WellFormed ∧ (overfiller.analyze .standard).isOk = true ∧
      (∃ x ∈ overfill.standings (overfiller.declare .standard).1, x.env.WellFormed ∧
        ∃ e ∈ x.site.stmt.exprs, e.infer x.env = .ok (.varying .float64 (.fixed 64))) ∧
      ¬ (LaneType.varying .float64 (.fixed 64)).WellFormed ∧
      ∃ types, (overfill.check (overfiller.declare .standard).1).1 = .ok types ∧
        ∃ entry ∈ types.entries, ¬ entry.2.WellFormed := by
  have henv := overfiller.wellFormed_declare .standard
  have hstart := wellFormed_declareParamsIn henv.push overfill.params
  have hrecorded : (overfill.check (overfiller.declare .standard).1).1.toOption.any
      (fun types => decide (∃ entry ∈ types.entries, ¬ entry.2.WellFormed)) = true := by decide +kernel
  refine ⟨henv, by decide +kernel, ⟨_, .head _, hstart, _, .head _, rfl⟩, by decide, ?_⟩
  cases hcheck : (overfill.check (overfiller.declare .standard).1).1 with
  | error issue =>
    rw [hcheck] at hrecorded
    cases hrecorded
  | ok types =>
    rw [hcheck] at hrecorded
    exact ⟨types, rfl, of_decide_eq_true hrecorded⟩

end Shuffling

end Lanewise
