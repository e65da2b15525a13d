import Lanewise.Proofs.Occurrences
import Lanewise.Proofs.StatementChecks
import Lanewise.Proofs.TypingRules

/-!
# What the check of a body raises

Inference and the rules of the statements raise faults about types, with one exception: a write to a uniform
variable from under more varying conditions than its declaration is a fault about control flow. So a body that
is refused for control flow has such a write, and the issue is raised at it (`Function.issue_of_check`).
-/

set_option autoImplicit false

namespace Lanewise

/-- Whether an outcome, if it is an issue, is one about types. -/
inductive RaisesTypes {α : Type} : Except Issue α → Prop
  | ok (a : α) : RaisesTypes (.ok a)
  | error (fault : TypeFault) (span : Span) : RaisesTypes (.error (.type fault span))

namespace RaisesTypes

variable {α β : Type}

/-- A demand raises the fault about types that it is made with. -/
theorem require {condition : Bool} {fault : TypeFault} {span : Span} :
    RaisesTypes (Issue.require condition fault span) := by
  unfold Issue.require
  split
  · exact .ok ()
  · exact .error fault span

/-- One step after another raises nothing but what its parts raise. -/
theorem bind {outcome : Except Issue α} {k : α → Except Issue β} (h : RaisesTypes outcome)
    (hk : ∀ a, RaisesTypes (k a)) : RaisesTypes (outcome >>= k) := by
  cases h with
  | ok a => exact hk a
  | error fault span => exact .error fault span

end RaisesTypes

open RaisesTypes

/-! ### Widths, slots and conversions -/

/-- Widths that do not join are a fault about types. -/
theorem Width.join_raisesTypes (a b : Width) (span : Span) : RaisesTypes (a.join b span) := by
  unfold Width.join
  cases a.combine b with
  | ok w => exact .ok w
  | error clash =>
    cases clash with
    | mismatch m n => exact .error _ span
    | universal => exact .error _ span

/-- A width that does not fit is a fault about types. -/
theorem Width.expect_raisesTypes (found expected : Width) (span : Span) :
    RaisesTypes (found.expect expected span) := by
  unfold Width.expect
  split
  · exact .ok ()
  · exact .error _ span
  · exact .ok ()
  · split
    · exact .ok ()
    · exact .error _ span
  · exact .error _ span

/-- A value that does not fit its slot is a fault about types. -/
theorem LaneType.expect_raisesTypes (found expected : LaneType) (isLiteral : Bool) (span : Span) :
    RaisesTypes (found.expect expected isLiteral span) := by
  unfold LaneType.expect
  split
  · exact .error _ span
  · exact .require
  · exact .require
  · exact .bind .require fun _ => Width.expect_raisesTypes ..
  · exact .require

/-- A conversion that does not exist is a fault about types. -/
theorem LaneType.expectCast_raisesTypes (source target : LaneType) (span : Span) :
    RaisesTypes (source.expectCast target span) := by
  unfold LaneType.expectCast
  split
  · exact .ok ()
  · exact .error _ span
  · exact .require
  · exact .error _ span
  · exact .error _ span
  · exact .error _ span
  · exact .bind (Width.join_raisesTypes ..) fun _ => .bind .require fun _ => .require
  · exact .error _ span

/-! ### Type expressions -/

section Resolving

variable (env : Env)

/-- A name that is no scalar is a fault about types. -/
theorem resolveScalar_raisesTypes (name : String) (span : Span) : RaisesTypes (resolveScalar name span) := by
  unfold resolveScalar
  split
  · exact .ok _
  · exact .error _ span

/-- A number that is no lane count is a fault about types. -/
theorem widthOf_raisesTypes (n : Int64) (elem : Scalar) (span : Span) : RaisesTypes (widthOf n elem span) := by
  unfold widthOf
  split
  · exact .error _ span
  · split
    · exact .ok _
    · split
      · exact .ok _
      · exact .error _ span

/-- A lane constraint without a width is a fault about types. -/
theorem Constraint.width_raisesTypes (c : Constraint) (elem : Scalar) : RaisesTypes (c.width env elem) := by
  have hvalue : RaisesTypes (c.value env) := by
    unfold Constraint.value
    split
    · exact .ok _
    · exact .ok 0
    · split
      · exact .ok _
      · exact .error _ c.span
  exact hvalue.bind fun n => widthOf_raisesTypes n elem c.span

/-- A lane constraint that may be left out, and has no width if it is written, is a fault about types. -/
theorem laneWidth_raisesTypes (lanes : Option Constraint) (elem : Scalar) :
    RaisesTypes (laneWidth env lanes elem) := by
  cases lanes with
  | none => exact .ok _
  | some c => exact c.width_raisesTypes env elem

/-- A lane constraint without a concrete width is a fault about types. -/
theorem concreteWidth_raisesTypes (lanes : Constraint) (elem : Scalar) (ifOpen : TypeFault) :
    RaisesTypes (concreteWidth lanes elem ifOpen env) := by
  refine (lanes.width_raisesTypes env elem).bind fun w => ?_
  cases w with
  | universal => exact .error ifOpen lanes.span
  | native | fixed => exact .ok _

/-- A go-for without a width is a fault about types. -/
theorem goForWidth_raisesTypes (lanes : Option Constraint) (elem : Scalar) :
    RaisesTypes (goForWidth lanes elem env) := by
  cases lanes with
  | none => exact .ok _
  | some c => exact concreteWidth_raisesTypes env c elem .openGoFor

/-- A written type that means nothing is a fault about types. -/
theorem TypeExpr.resolve_raisesTypes (t : TypeExpr) : RaisesTypes (t.resolve env) := by
  induction t with
  | named span name =>
    rw [TypeExpr.resolve]
    split
    · exact .ok _
    · exact (resolveScalar_raisesTypes name span).bind fun _ => .ok _
  | varying span elem lanes ih =>
    cases elem with
    | named elemSpan name =>
      exact (resolveScalar_raisesTypes name elemSpan).bind fun s =>
        (laneWidth_raisesTypes env lanes s).bind fun _ => .ok _
    | varying | chan => exact .error _ _
  | chan span elem ih => exact ih.bind fun _ => .ok _

end Resolving

/-! ### Expressions -/

section Inference

variable (env : Env)

/-- A name that means nothing is a fault about types. -/
theorem identType_raisesTypes (name : String) (span : Span) : RaisesTypes (identType env name span) := by
  unfold identType
  split
  · exact .ok _
  · split
    · exact .ok _
    · exact .error _ span

/-- Operands whose widths do not join are a fault about types. -/
theorem lanewise_raisesTypes (s : Scalar) (l r : Option Width) (span : Span) :
    RaisesTypes (lanewise s l r span) := by
  unfold lanewise
  split
  · exact .ok _
  · exact .ok _
  · exact .ok _
  · exact (Width.join_raisesTypes ..).bind fun _ => .ok _

/-- Operands that do not go together are a fault about types. -/
theorem binaryType_raisesTypes (op : BinaryOp) (left right : Expr) (l r : LaneType) (span : Span) :
    RaisesTypes (binaryType op left right l r span) := by
  refine .bind .require fun _ => .bind .require fun _ => ?_
  split
  · split
    · exact .error _ span
    · exact .bind .require fun _ => lanewise_raisesTypes ..
  · exact .error _ span

/-- A value that is no uniform integer where one is needed is a fault about types. -/
theorem uniformInt_raisesTypes (slot : IntSlot) (t : LaneType) (span : Span) :
    RaisesTypes (uniformInt slot t span) := by
  unfold uniformInt
  split
  · split
    · exact .ok _
    · exact .error _ span
  · exact .error _ span
  · exact .error _ span

/-- A receive from what is no channel is a fault about types. -/
theorem receivedType_raisesTypes (chan : Expr) (t : LaneType) : RaisesTypes (receivedType chan t) := by
  unfold receivedType
  split
  · exact .ok _
  · exact .error _ chan.span

/-- Arguments that do not fit their parameters are a fault about types. -/
theorem expectArguments_raisesTypes {args : List Argument} (hargs : ∀ arg ∈ args, RaisesTypes arg.type)
    (params : List LaneType) : RaisesTypes (expectArguments args params) := by
  induction args generalizing params with
  | nil => exact .ok ()
  | cons arg rest ih =>
    rw [List.forall_mem_cons] at hargs
    cases params with
    | nil => exact .ok ()
    | cons param params =>
      exact hargs.1.bind fun _ => (LaneType.expect_raisesTypes ..).bind fun _ => ih hargs.2 params

/-- An operand that is not varying where lanes are needed is a fault about types. -/
theorem varyingOperand_raisesTypes (op : LibraryOp) {arg : Argument} (harg : RaisesTypes arg.type) :
    RaisesTypes (varyingOperand op arg) := by
  refine harg.bind fun t => ?_
  split
  · exact .error _ _
  · exact .ok _
  · exact .error _ _

/-- A lane index that does not exist is a fault about types. -/
theorem broadcastType_raisesTypes (s : Scalar) (w : Width) (index : Argument) :
    RaisesTypes (broadcastType env s w index) := by
  unfold broadcastType
  split
  · exact .error _ _
  · exact .bind .require fun _ => .ok _

/-- An amount by which lanes cannot be shifted is a fault about types. -/
theorem shiftType_raisesTypes (s : Scalar) (w : Width) {amount : Argument} (hamount : RaisesTypes amount.type)
    (span : Span) : RaisesTypes (shiftType s w amount span) := by
  refine hamount.bind fun t => ?_
  cases t with
  | uniform a => exact .bind .require fun _ => .ok _
  | varying a aw => exact .bind .require fun _ => (Width.join_raisesTypes ..).bind fun _ => .ok _
  | void | seq | groups | chan => exact .error _ _

/-- A library operation with two arguments raises faults about types only, if its arguments do. -/
theorem binaryLibraryType_raisesTypes (op : LibraryOp) {value other : Argument}
    (hvalue : RaisesTypes value.type) (hother : RaisesTypes other.type) (span : Span) :
    RaisesTypes (binaryLibraryType env op value other span) := by
  refine (varyingOperand_raisesTypes op hvalue).bind fun found => ?_
  obtain ⟨s, w⟩ := found
  cases op with
  | broadcast => exact broadcastType_raisesTypes env s w other
  | rotate => exact hother.bind fun t => (uniformInt_raisesTypes ..).bind fun _ => .ok _
  | swizzle =>
    exact (varyingOperand_raisesTypes .swizzle hother).bind fun _ => .bind .require fun _ =>
      (Width.join_raisesTypes ..).bind fun _ => .ok _
  | _ => exact shiftType_raisesTypes s w hother span

/-- A library operation with one argument raises faults about types only, if its argument does. -/
theorem unaryLibraryType_raisesTypes (op : LibraryOp) {value : Argument} (hvalue : RaisesTypes value.type) :
    RaisesTypes (unaryLibraryType env op value) := by
  unfold unaryLibraryType
  split
  · refine hvalue.bind fun t => ?_
    split
    · exact .ok _
    · exact .error _ _
  · refine (varyingOperand_raisesTypes op hvalue).bind fun found => ?_
    obtain ⟨s, w⟩ := found
    show RaisesTypes (reductionType env op s w value.expr.span)
    unfold reductionType
    cases op with
    | add | mul | max | min | or | and | xor | any | all | findFirstSet => exact .bind .require fun _ => .ok _
    | mask => exact .bind .require fun _ => .bind .require fun _ => .ok _
    | broadcast | rotate | swizzle | shiftLeft | shiftRight | fromConstrained | «from» => exact .ok _

/-- A call raises faults about types only, if its arguments do. -/
theorem callType_raisesTypes (callee : Name) {args : List Argument} (hargs : ∀ arg ∈ args, RaisesTypes arg.type)
    (span : Span) : RaisesTypes (callType env callee args span) := by
  unfold callType
  split
  · unfold libraryCallType
    split
    · rename_i value other _
      exact binaryLibraryType_raisesTypes env _ (hargs value List.mem_cons_self)
        (hargs other (List.mem_cons_of_mem _ List.mem_cons_self)) span
    · exact unaryLibraryType_raisesTypes env _ (hargs _ List.mem_cons_self)
    · exact .error _ span
  · unfold functionCallType
    split
    · exact .error _ callee.span
    · exact .bind .require fun _ => (expectArguments_raisesTypes hargs _).bind fun _ => .ok _

/-- Inference raises faults about types only. -/
theorem Expr.infer_raisesTypes (e : Expr) : RaisesTypes (e.infer env) := by
  refine Expr.of_children (P := fun e => RaisesTypes (e.infer env)) ?_ e
  intro e hchildren
  cases e with
  | int | float | bool => exact .ok _
  | ident span name => exact identType_raisesTypes env name span
  | unary span op operand =>
    exact (hchildren operand List.mem_cons_self).bind fun _ => .bind .require fun _ => .bind .require fun _ => .ok _
  | binary span op left right =>
    have hright := hchildren right (List.mem_cons_of_mem _ List.mem_cons_self)
    exact (hchildren left List.mem_cons_self).bind fun _ => hright.bind fun _ => binaryType_raisesTypes ..
  | cast span operand target =>
    exact (hchildren operand List.mem_cons_self).bind fun _ => (target.resolve_raisesTypes env).bind fun _ =>
      (LaneType.expectCast_raisesTypes ..).bind fun _ => .ok _
  | call span callee args =>
    refine callType_raisesTypes env callee ?_ span
    rw [Expr.inferEach_eq_map]
    intro arg harg
    obtain ⟨e, he, rfl⟩ := List.mem_map.1 harg
    exact hchildren e he
  | range span first last =>
    have hlast := hchildren last (List.mem_cons_of_mem _ List.mem_cons_self)
    exact (hchildren first List.mem_cons_self).bind fun _ => (uniformInt_raisesTypes ..).bind fun _ =>
      hlast.bind fun _ => (uniformInt_raisesTypes ..).bind fun _ => .bind .require fun _ => .ok _
  | recv span chan => exact (hchildren chan List.mem_cons_self).bind fun _ => receivedType_raisesTypes ..

end Inference

/-! ### Checks -/

/-- Whether an issue is about types. -/
def Issue.AboutTypes (issue : Issue) : Prop :=
  ∃ fault span, issue = .type fault span

/-- Whether a check raises no issues but those about types. -/
def Check.OnlyTypes {α : Type} (c : Check α) : Prop :=
  ∀ state issue final, c state = .error issue final → issue.AboutTypes

/-- A sequence of checks fails where its first part does, or where the second does after it. -/
theorem Check.bind_eq_error {α β : Type} {c : Check α} {k : α → Check β} {state final : CheckState} {issue : Issue} :
    (c >>= k) state = .error issue final ↔ c state = .error issue final ∨
      ∃ a middle, c state = .ok a middle ∧ k a middle = .error issue final := by
  show EStateM.bind c k state = _ ↔ _
  unfold EStateM.bind
  cases c state with
  | ok a middle => simp [and_assoc]
  | error raised middle => simp

/-- A check in a scope of its own fails as it does in the opened scope. -/
theorem Check.inScope_eq_error {body : Check Unit} {state final : CheckState} {issue : Issue}
    (h : inScope body state = .error issue final) :
    ∃ inner, body { state with env := state.env.push } = .error issue inner := by
  rcases bind_eq_error.1 h with hopen | ⟨_, middle, hopen, hrest⟩
  · cases hopen
  · cases hopen
    rcases bind_eq_error.1 hrest with hbody | ⟨_, inner, -, hclose⟩
    · exact ⟨final, hbody⟩
    · cases hclose

/-- A check in a scope with one variable fails as it does in that scope. -/
theorem Check.inScopeWith_eq_error {name : String} {t : LaneType} {depth : Nat} {body : Check Unit}
    {state final : CheckState} {issue : Issue} (h : inScopeWith name t depth body state = .error issue final) :
    ∃ inner, body { state with env := state.env.push.define name { type := t, depth } } = .error issue inner := by
  obtain ⟨inner, hinner⟩ := inScope_eq_error h
  rcases bind_eq_error.1 hinner with hdefine | ⟨_, middle, hdefine, hbody⟩
  · cases hdefine
  · cases hdefine
    exact ⟨inner, hbody⟩

namespace Check.OnlyTypes

variable {α β : Type}

/-- A check that only answers raises nothing. -/
theorem of_pure {a : α} : Check.OnlyTypes (pure a) := by
  intro state issue final h
  cases h

/-- An outcome that raises faults about types only does so as a check. -/
theorem of_except {outcome : Except Issue α} (h : RaisesTypes outcome) : (Check.ofExcept outcome).OnlyTypes := by
  intro state issue final hrun
  cases h with
  | ok a => cases hrun
  | error fault span =>
    cases hrun
    exact ⟨fault, span, rfl⟩

/-- A question that raises faults about types only does so as a check. -/
theorem of_ask {question : Env → Except Issue α} (h : ∀ env, RaisesTypes (question env)) :
    (Check.ask question).OnlyTypes :=
  fun state => of_except (h state.env) state

/-- Recording a type raises nothing. -/
theorem of_record {span : Span} {t : LaneType} : (Check.record span t).OnlyTypes := by
  intro state issue final h
  cases h

/-- A definition raises nothing. -/
theorem of_define {name : String} {t : LaneType} {depth : Nat} : (Check.define name t depth).OnlyTypes := by
  intro state issue final h
  cases h

/-- A sequence of checks raises nothing but what its parts raise. -/
theorem bind {c : Check α} {k : α → Check β} (hc : c.OnlyTypes) (hk : ∀ a, (k a).OnlyTypes) :
    Check.OnlyTypes (c >>= k) := by
  intro state issue final h
  rcases Check.bind_eq_error.1 h with h | ⟨a, middle, -, h⟩
  · exact hc state issue final h
  · exact hk a middle issue final h

/-- Typing an expression raises faults about types only. -/
theorem infer (e : Expr) : (Check.infer e).OnlyTypes :=
  (of_ask fun env => e.infer_raisesTypes env).bind fun _ => of_record.bind fun _ => of_pure

/-- Typing an expression for a slot raises faults about types only. -/
theorem inferInto (e : Expr) (slot : LaneType) : (Check.inferInto e slot).OnlyTypes :=
  (infer e).bind fun _ => of_except (LaneType.expect_raisesTypes ..)

/-- A statement that only evaluates an expression raises faults about types only. -/
theorem evaluated (e : Expr) : Check.OnlyTypes (do let _ ← Check.infer e) :=
  (infer e).bind fun _ => of_pure

/-- A condition raises faults about types only. -/
theorem condition (stmt : Guarded) (cond : Expr) : (checkCondition stmt cond).OnlyTypes :=
  (infer cond).bind fun _ => (of_except .require).bind fun _ => (of_except .require).bind fun _ => of_pure

/-- A declaration raises faults about types only. -/
theorem declare (name : Name) (type : Option TypeExpr) (value : Expr) (depth : Nat) :
    (checkDeclare name type value depth).OnlyTypes := by
  refine (infer value).bind fun t => (of_except .require).bind fun _ => ?_
  cases type with
  | none => exact of_pure.bind fun _ => of_record.bind fun _ => of_define
  | some declared =>
    refine (of_ask fun env => declared.resolve_raisesTypes env).bind fun slot => ?_
    refine (of_except (LaneType.expect_raisesTypes ..)).bind fun _ => of_pure.bind fun _ => ?_
    exact of_record.bind fun _ => of_define

/-- The scrutinee of a switch raises faults about types only. -/
theorem scrutinee (e : Expr) : (checkScrutinee e).OnlyTypes := by
  refine (infer e).bind fun t => (of_except .require).bind fun _ => ?_
  split
  · exact of_pure
  · exact of_except (.error _ e.span)

/-- The values of a case raise faults about types only. -/
theorem caseValues (elem : Scalar) (values : List Expr) : (checkCaseValues elem values).OnlyTypes := by
  induction values with
  | nil => exact of_pure
  | cons value rest ih => exact (inferInto value _).bind fun _ => ih

/-- The scrutinee of a type switch raises faults about types only. -/
theorem typeScrutinee (e : Expr) : (checkTypeScrutinee e).OnlyTypes := by
  refine (infer e).bind fun t => ?_
  split
  · exact of_pure
  · exact of_except (.error _ e.span)

/-- What a loop runs over raises faults about types only. -/
theorem iterable (e : Expr) : (checkIterable e).OnlyTypes := by
  refine (infer e).bind fun t => ?_
  split
  · exact of_pure
  · exact of_pure
  · exact of_except (.error _ e.span)

/-- The range of a go-for raises faults about types only. -/
theorem goForRange (e : Expr) : (checkGoForRange e).OnlyTypes := by
  refine (infer e).bind fun t => ?_
  split
  · split
    · exact of_pure
    · exact of_except (.error _ e.span)
  · exact of_except (.error _ e.span)

/-- A return raises faults about types only. -/
theorem ret (value : Option Expr) (result : LaneType) (span : Span) :
    (checkReturn value result span).OnlyTypes := by
  cases value with
  | none => exact of_except .require
  | some e => exact inferInto e result

/-- A deferred or spawned call raises faults about types only. -/
theorem taken (stmt : CallTaker) (call : Expr) : (checkTaken stmt call).OnlyTypes :=
  (of_except .require).bind fun _ => evaluated call

/-- A send raises faults about types only. -/
theorem send (chan value : Expr) : (checkSend chan value).OnlyTypes := by
  refine (infer chan).bind fun t => ?_
  split
  · exact inferInto value _
  · exact of_except (.error _ chan.span)

/-- Declaring parameters raises faults about types only. -/
theorem params (params : List Param) : (declareParams params).OnlyTypes := by
  induction params with
  | nil => exact of_pure
  | cons p rest ih =>
    exact (of_ask fun env => p.type.resolve_raisesTypes env).bind fun _ => of_define.bind fun _ => ih

end Check.OnlyTypes

/-! ### Statements -/

/-- Whether an issue is that a statement writes a uniform variable from under more varying conditions than those
around its declaration. -/
def Standing.WritesShared (x : Standing) (issue : Issue) : Prop :=
  ∃ target value binding, x.site.stmt = .assign issue.span target value ∧
    x.env.lookup? target.text = some binding ∧ binding.type.isVarying = false ∧ binding.depth < x.depth

/-- Whether the check of a block of a statement raises an issue, as the block is entered. -/
def ScopedBlock.Raises (b : ScopedBlock) (issue : Issue) : Prop :=
  ∃ (place : Place) (state final : CheckState), place.depth = b.depth ∧ state.env = b.env ∧
    b.block.check place state = .error issue final

/-- An assignment raises a fault about types, or one about control flow, and then it writes a uniform variable
from under more varying conditions than those around its declaration. -/
theorem checkAssign_error {target : Name} {value : Expr} {depth : Nat} {span : Span} {state final : CheckState}
    {issue : Issue} (h : checkAssign target value depth span state = .error issue final) :
    issue.AboutTypes ∨ issue.span = span ∧ ∃ binding, state.env.lookup? target.text = some binding ∧
      binding.type.isVarying = false ∧ binding.depth < depth := by
  rcases Check.bind_eq_error.1 h with hask | ⟨binding, middle, hask, h⟩
  · left
    refine Check.OnlyTypes.of_ask (fun env => ?_) state issue final hask
    unfold assignedBinding
    split
    · exact .ok _
    · exact .error _ target.span
  · obtain ⟨hbinding, rfl⟩ := Check.ask_eq_ok.1 hask
    have hlookup : state.env.lookup? target.text = some binding := by
      unfold assignedBinding at hbinding
      split at hbinding
      · rename_i found hfound
        cases hbinding
        exact hfound
      · cases hbinding
    rcases Check.bind_eq_error.1 h with hinto | ⟨_, middle, -, h⟩
    · exact Or.inl (Check.OnlyTypes.inferInto value _ state issue final hinto)
    · right
      rcases Check.bind_eq_error.1 h with hwrite | ⟨_, later, -, hrecord⟩
      · unfold expectSharedWrite at hwrite
        split at hwrite
        · rename_i hshared
          cases hwrite
          simp only [Bool.and_eq_true, Bool.not_eq_true', decide_eq_true_eq] at hshared
          exact ⟨rfl, binding, hlookup, hshared⟩
        · cases hwrite
      · cases hrecord

section Blocks

variable {b : Block} {place : Place} {state final : CheckState} {issue : Issue} {env : Env} {depth : Nat}

/-- What a block raises in a scope of its own it raises as it is entered. -/
theorem Block.raises_of_inScope {arm : Arm} (h : Check.inScope (b.check place) state = .error issue final)
    (hdepth : place.depth = depth) (henv : state.env = env) :
    ScopedBlock.Raises ⟨arm, b, env.push, depth⟩ issue := by
  obtain ⟨inner, hinner⟩ := Check.inScope_eq_error h
  exact ⟨place, _, inner, hdepth, by rw [henv], hinner⟩

/-- What a block raises in a scope with one variable it raises as it is entered. -/
theorem Block.raises_of_inScopeWith {arm : Arm} {name : Name} {t : LaneType}
    (h : Check.inScopeWith name.text t depth (b.check place) state = .error issue final)
    (hdepth : place.depth = depth) (henv : state.env = env) :
    ScopedBlock.Raises ⟨arm, b, env.pushWith name t depth, depth⟩ issue := by
  obtain ⟨inner, hinner⟩ := Check.inScopeWith_eq_error h
  exact ⟨place, _, inner, hdepth, by rw [henv, Env.pushWith], hinner⟩

end Blocks

/-- What the arms of a switch raise is about types, or it is raised by the body of one of them. -/
theorem Arms.raises_scopedBlocks (arms : Arms) {place : Place} {elem : Scalar} (k : Nat)
    {state final : CheckState} {issue : Issue} (h : arms.check elem place state = .error issue final) :
    issue.AboutTypes ∨ ∃ b ∈ arms.scopedBlocks state.env place.depth k, b.Raises issue := by
  match arms with
  | .nil => cases h
  | .default body => exact Or.inr ⟨_, List.mem_cons_self, Block.raises_of_inScope h rfl rfl⟩
  | .case values body rest =>
    rcases Check.bind_eq_error.1 h with hvalues | ⟨_, middle, hvalues, h⟩
    · exact Or.inl (Check.OnlyTypes.caseValues elem values state issue final hvalues)
    · obtain ⟨-, rfl⟩ := checkCaseValues_ok hvalues
      rcases Check.bind_eq_error.1 h with hbody | ⟨_, middle, hbody, hrest⟩
      · exact Or.inr ⟨_, List.mem_cons_self, Block.raises_of_inScope hbody rfl rfl⟩
      · have henv := Block.env_of_inScope hbody
        rw [CheckState.note_env] at henv
        have hlater := Arms.raises_scopedBlocks rest (k + 1) hrest
        rw [henv] at hlater
        rcases hlater with htypes | ⟨b, hb, hraises⟩
        · exact Or.inl htypes
        · exact Or.inr ⟨b, List.mem_cons_of_mem _ hb, hraises⟩

/-- What the arms of a type switch raise is about types, or it is raised by the body of one of them. -/
theorem LaneArms.raises_scopedBlocks (arms : LaneArms) {place : Place} {binding : Name} {elem : Scalar} (k : Nat)
    {state final : CheckState} {issue : Issue} (h : arms.check binding.text elem place state = .error issue final) :
    issue.AboutTypes ∨
      ∃ b ∈ arms.scopedBlocks state.env place.depth binding (.varying elem .universal) k, b.Raises issue := by
  match arms with
  | .nil => cases h
  | .default body => exact Or.inr ⟨_, List.mem_cons_self, Block.raises_of_inScopeWith h rfl rfl⟩
  | .case lanes body rest =>
    rcases Check.bind_eq_error.1 h with hwidth | ⟨w, middle, hwidth, h⟩
    · exact Or.inl (Check.OnlyTypes.of_ask (fun env => concreteWidth_raisesTypes env lanes elem _) state issue final
        hwidth)
    · obtain ⟨hw, rfl⟩ := Check.ask_eq_ok.1 hwidth
      rw [LaneArms.scopedBlocks, LaneType.settled_of_concreteWidth hw]
      rcases Check.bind_eq_error.1 h with hbody | ⟨_, middle, hbody, hrest⟩
      · exact Or.inr ⟨_, List.mem_cons_self, Block.raises_of_inScopeWith hbody rfl rfl⟩
      · have hlater := LaneArms.raises_scopedBlocks rest (k + 1) hrest
        rw [Block.env_of_inScopeWith hbody] at hlater
        rcases hlater with htypes | ⟨b, hb, hraises⟩
        · exact Or.inl htypes
        · exact Or.inr ⟨b, List.mem_cons_of_mem _ hb, hraises⟩

/-- The check of a statement raises an issue about types, or for a write of its own, or in one of its blocks. -/
theorem Stmt.raises_scopedBlocks {s : Stmt} {place : Place} (index : Nat) {state final : CheckState} {issue : Issue}
    (h : s.check place state = .error issue final) :
    issue.AboutTypes ∨ Standing.WritesShared ⟨⟨[], index, s⟩, state.env, place.depth⟩ issue ∨
      ∃ b ∈ s.scopedBlocks state.env place.depth, b.Raises issue := by
  cases s with
  | declare span name type value =>
    exact Or.inl (Check.OnlyTypes.declare name type value place.depth state issue final h)
  | assign span target value =>
    rcases checkAssign_error h with htypes | ⟨rfl, binding, hlookup, huniform, hdepth⟩
    · exact Or.inl htypes
    · exact Or.inr (Or.inl ⟨target, value, binding, rfl, hlookup, huniform, hdepth⟩)
  | ifThen span cond thenArm =>
    rcases Check.bind_eq_error.1 h with hcond | ⟨t, middle, hcond, hthen⟩
    · exact Or.inl (Check.OnlyTypes.condition _ cond state issue final hcond)
    · obtain ⟨hinfer, -, -, rfl⟩ := checkCondition_ok hcond
      have hdepth := Place.depth_guardedBy place hinfer
      exact Or.inr (Or.inr ⟨_, List.mem_cons_self, Block.raises_of_inScope hthen hdepth rfl⟩)
  | ifElse span cond thenArm elseArm =>
    rcases Check.bind_eq_error.1 h with hcond | ⟨t, middle, hcond, h⟩
    · exact Or.inl (Check.OnlyTypes.condition _ cond state issue final hcond)
    · obtain ⟨hinfer, -, -, rfl⟩ := checkCondition_ok hcond
      have hdepth := Place.depth_guardedBy place hinfer
      rcases Check.bind_eq_error.1 h with hthen | ⟨_, middle, hthen, helse⟩
      · exact Or.inr (Or.inr ⟨_, List.mem_cons_self, Block.raises_of_inScope hthen hdepth rfl⟩)
      · have henv := Block.env_of_inScope hthen
        exact Or.inr (Or.inr ⟨_, List.mem_cons_of_mem _ List.mem_cons_self,
          Block.raises_of_inScope helse hdepth henv⟩)
  | switch span scrutinee arms =>
    rcases Check.bind_eq_error.1 h with hscrutinee | ⟨⟨t, elem⟩, middle, hscrutinee, harms⟩
    · exact Or.inl (Check.OnlyTypes.scrutinee scrutinee state issue final hscrutinee)
    · obtain ⟨hinfer, -, -, rfl⟩ := checkScrutinee_ok hscrutinee
      rw [Stmt.scopedBlocks, ← Place.depth_guardedBy place hinfer]
      exact (Arms.raises_scopedBlocks arms 0 harms).imp_right Or.inr
  | typeSwitch span binding scrutinee arms =>
    rcases Check.bind_eq_error.1 h with hscrutinee | ⟨elem, middle, hscrutinee, harms⟩
    · exact Or.inl (Check.OnlyTypes.typeScrutinee scrutinee state issue final hscrutinee)
    · obtain ⟨hinfer, rfl⟩ := checkTypeScrutinee_ok hscrutinee
      rw [Stmt.scopedBlocks, Expr.typeIn_of_infer hinfer]
      exact (LaneArms.raises_scopedBlocks arms 0 harms).imp_right Or.inr
  | forIn span var iterable body =>
    rcases Check.bind_eq_error.1 h with hiterable | ⟨t, middle, hiterable, hbody⟩
    · exact Or.inl (Check.OnlyTypes.iterable iterable state issue final hiterable)
    · obtain ⟨all, hinfer, rfl, rfl⟩ := checkIterable_ok hiterable
      rw [Stmt.scopedBlocks, Expr.typeIn_of_infer hinfer]
      exact Or.inr (Or.inr ⟨_, List.mem_cons_self, Block.raises_of_inScopeWith hbody rfl rfl⟩)
  | whileLoop span cond body =>
    rcases Check.bind_eq_error.1 h with hcond | ⟨t, middle, hcond, hbody⟩
    · exact Or.inl (Check.OnlyTypes.condition _ cond state issue final hcond)
    · obtain ⟨hinfer, -, -, rfl⟩ := checkCondition_ok hcond
      have hdepth := Place.depth_guardedBy place hinfer
      exact Or.inr (Or.inr ⟨_, List.mem_cons_self, Block.raises_of_inScope hbody hdepth rfl⟩)
  | goFor span var range lanes body =>
    rcases Check.bind_eq_error.1 h with hrange | ⟨elem, middle, hrange, h⟩
    · exact Or.inl (Check.OnlyTypes.goForRange range state issue final hrange)
    · obtain ⟨hinfer, -, rfl⟩ := checkGoForRange_ok hrange
      rcases Check.bind_eq_error.1 h with hwidth | ⟨w, middle, hwidth, hbody⟩
      · exact Or.inl (Check.OnlyTypes.of_ask (fun env => goForWidth_raisesTypes env lanes elem) _ issue final hwidth)
      · obtain ⟨hw, rfl⟩ := Check.ask_eq_ok.1 hwidth
        rw [Stmt.scopedBlocks, Expr.spread_of_infer hinfer hw]
        exact Or.inr (Or.inr ⟨_, List.mem_cons_self, Block.raises_of_inScopeWith hbody rfl rfl⟩)
  | ret span value => exact Or.inl (Check.OnlyTypes.ret value place.result span state issue final h)
  | brk span | cont span => exact Or.inl (Check.OnlyTypes.of_except .require state issue final h)
  | panic span value | eval span value => exact Or.inl (Check.OnlyTypes.evaluated value state issue final h)
  | defer span call | spawn span call => exact Or.inl (Check.OnlyTypes.taken _ call state issue final h)
  | send span chan value => exact Or.inl (Check.OnlyTypes.send chan value state issue final h)

/-- The check of a block raises an issue about types, or for a write by one of its statements. -/
theorem Block.issue_of_check (b : Block) {place : Place} (index : Nat) {state final : CheckState} {issue : Issue}
    (h : b.check place state = .error issue final) :
    issue.AboutTypes ∨ ∃ x ∈ b.standingsFrom state.env place.depth index, x.WritesShared issue := by
  refine Block.of_blocks
    (P := fun b => ∀ (place : Place) (index : Nat) (state final : CheckState),
      b.check place state = .error issue final →
        issue.AboutTypes ∨ ∃ x ∈ b.standingsFrom state.env place.depth index, x.WritesShared issue)
    (Q := fun s => ∀ (place : Place) (index : Nat) (state final : CheckState),
      s.check place state = .error issue final →
        issue.AboutTypes ∨ ∃ x ∈ s.standings state.env place.depth index, x.WritesShared issue)
    ?_ ?_ ?_ b place index state final h
  · intro span place index state final h
    cases h
  · intro s rest hs hrest place index state final h
    rw [Block.standingsFrom]
    rcases Check.bind_eq_error.1 h with hfirst | ⟨_, middle, hfirst, hlater⟩
    · refine (hs place index state final hfirst).imp_right ?_
      rintro ⟨x, hx, hwrites⟩
      exact ⟨x, List.mem_append_left _ hx, hwrites⟩
    · have henv := (Stmt.check_ok s index hfirst).2.env_eq
      refine (hrest place (index + 1) middle final hlater).imp_right ?_
      rintro ⟨x, hx, hwrites⟩
      rw [henv] at hx
      exact ⟨x, List.mem_append_right _ hx, hwrites⟩
  · intro s hblocks place index state final h
    rw [Stmt.standings_eq]
    rcases Stmt.raises_scopedBlocks index h with
      htypes | hwrites | ⟨b, hb, place', state', final', hdepth, henv, hraises⟩
    · exact Or.inl htypes
    · exact Or.inr ⟨_, List.mem_cons_self, hwrites⟩
    · have hinner := hblocks b.arm b.block (Stmt.mem_blocks_of_scopedBlocks hb) place' 0 state' final' hraises
      rw [hdepth, henv] at hinner
      refine hinner.imp_right ?_
      rintro ⟨x, hx, hwrites⟩
      have hlisted : x.under ⟨index, s, b.arm⟩ ∈ b.standings index s := List.mem_map_of_mem hx
      exact ⟨x.under ⟨index, s, b.arm⟩, List.mem_cons_of_mem _ (List.mem_flatMap.2 ⟨b, hb, hlisted⟩), hwrites⟩

/-- A function is refused for its types, or for a write by one of its statements. -/
theorem Function.issue_of_check {f : Function} {env env' : Env} {issue : Issue}
    (h : f.check env = (.error issue, env')) :
    issue.AboutTypes ∨ ∃ x ∈ f.standings env, x.WritesShared issue := by
  unfold Function.check at h
  split at h
  · cases h
    exact Or.inl ⟨_, _, rfl⟩
  · split at h
    · cases h
    · rename_i final hbody
      cases h
      rcases Check.bind_eq_error.1 hbody with hparams | ⟨_, middle, hparams, hrest⟩
      · exact Or.inl (Check.OnlyTypes.params f.params _ issue _ hparams)
      · have hmiddle := declareParams_ok hparams
        subst hmiddle
        exact Block.issue_of_check f.body 0 hrest

end Lanewise
