import Lanewise.Mask.Report
import Lanewise.Proofs.Clearing
import Lanewise.Proofs.WalkRecord

/-!
# The outcome of the walk over a region

The walk succeeds exactly if its sites clear: no return, send, receive or break stands where lanes may
disagree about taking it, neither because of a varying condition around it nor because of a varying continue
before it. If it succeeds, it ends tainted exactly if it met a varying continue, and it leaves the record of
one pass. `Block.walk_yields` says all of this at once; it follows the walk case by case.

The two halves of the argument are apart. `Walk.Yields` composes the outcomes of the steps of a walk;
the lemmas on `Clears` say how the condition on the sites of a block splits into conditions on its parts.
-/

set_option autoImplicit false

namespace Lanewise

/-! ### Outcomes of walks -/

/-- A walk from a trace succeeds exactly if `legal` holds, and then with the given outcome. -/
def Walk.Yields {α : Type} (w : Walk α) (t : Trace) (legal : Prop) (outcome : α × Trace) : Prop :=
  (legal → w t = .ok outcome) ∧ ∀ other, w t = .ok other → legal

namespace Walk.Yields

variable {α β : Type} {t t' : Trace} {P Q : Prop}

/-- A walk that never fails. -/
theorem of_ok {w : Walk α} {outcome : α × Trace} (h : w t = .ok outcome) : w.Yields t True outcome :=
  ⟨fun _ => h, fun _ _ => trivial⟩

/-- A walk that only answers never fails and leaves the trace alone. -/
theorem of_pure (a : α) (t : Trace) : Yields (pure a : Walk α) t True (a, t) :=
  of_ok rfl

/-- A change of the trace never fails. -/
theorem of_modify (f : Trace → Trace) (t : Trace) :
    Yields (modify f : Walk Unit) t True ((), f t) :=
  of_ok rfl

/-- One walk after another succeeds exactly if both do. -/
theorem bind {w : Walk α} {k : α → Walk β} {a : α} {outcome : β × Trace}
    (hw : w.Yields t P (a, t')) (hk : (k a).Yields t' Q outcome) :
    (w >>= k).Yields t (P ∧ Q) outcome := by
  constructor
  · rintro ⟨hP, hQ⟩
    show (w t >>= fun r => k r.1 r.2) = .ok outcome
    rw [hw.1 hP]
    exact hk.1 hQ
  · intro other hother
    change (w t >>= fun r => k r.1 r.2) = .ok other at hother
    cases hwt : w t with
    | error issue =>
      rw [hwt] at hother
      cases hother
    | ok r =>
      have hP : P := hw.2 r hwt
      have hr : r = (a, t') := by
        rw [hw.1 hP] at hwt
        exact (Except.ok.inj hwt).symm
      rw [hwt, hr] at hother
      exact ⟨hP, hk.2 other hother⟩

/-- What a walk returns may be changed afterwards. -/
theorem map {w : Walk α} {a : α} (hw : w.Yields t P (a, t')) (f : α → β) :
    (w >>= fun a => pure (f a)).Yields t P (f a, t') := by
  have h := bind (k := fun a => pure (f a)) hw (of_pure (f a) t')
  rwa [and_true] at h

/-- The condition and the outcome may be said in other words. -/
theorem congr {w : Walk α} {outcome outcome' : α × Trace} (hw : w.Yields t P outcome) (hPQ : P ↔ Q)
    (ho : outcome = outcome') : w.Yields t Q outcome' :=
  ⟨fun hQ => by rw [hw.1 (hPQ.2 hQ), ho], fun other hother => hPQ.1 (hw.2 other hother)⟩

/-- A walk of which nothing is kept leaves the trace as it was, if all that it does is to extend it. -/
theorem unrecorded {cx : WalkContext} {w : Walk α} {a : α} {r : WalkRecord}
    (hw : w.Yields t P (a, t.extend cx r)) : (Walk.unrecorded w).Yields t P (a, t) := by
  constructor
  · intro hP
    show (w t >>= fun r => (Except.ok (r.1, r.2.rewind t.mark) : Except Issue (α × Trace))) = _
    rw [hw.1 hP]
    show Except.ok (a, (t.extend cx r).rewind t.mark) = Except.ok (a, t)
    rw [Trace.rewind_extend]
  · intro other hother
    change (w t >>= fun r => (Except.ok (r.1, r.2.rewind t.mark) : Except Issue (α × Trace))) = _
      at hother
    cases hwt : w t with
    | error issue =>
      rw [hwt] at hother
      cases hother
    | ok r => exact hw.2 r hwt

end Walk.Yields

/-! ### Expressions -/

/-- What an action that all lanes take together demands: no varying condition, and a clean state. -/
theorem expectJoint_eq_ok {action : Joint} {isVarying : Bool} {state : Alteration} {span : Span}
    {u : Unit} :
    expectJoint action isVarying state span = .ok u ↔ isVarying = false ∧ state = .clean := by
  unfold expectJoint
  cases isVarying <;> cases state <;> simp

/-- An action that all lanes take together succeeds under no varying condition and in a clean state. -/
theorem expectJoint_yields (action : Joint) (isVarying : Bool) (state : Alteration) (span : Span)
    (t : Trace) :
    (Walk.ofExcept (expectJoint action isVarying state span)).Yields t
      (isVarying = false ∧ state = .clean) ((), t) := by
  constructor
  · intro h
    show (expectJoint action isVarying state span >>= fun a => Except.ok (a, t)) = .ok ((), t)
    rw [(expectJoint_eq_ok (u := ())).2 h]
    rfl
  · intro other hother
    change (expectJoint action isVarying state span >>= fun a => Except.ok (a, t)) = .ok other at hother
    cases he : expectJoint action isVarying state span with
    | error issue =>
      rw [he] at hother
      cases hother
    | ok u => exact expectJoint_eq_ok.1 he

/-- A trace with more region calls. -/
def Trace.addCalls (t : Trace) (calls : List RegionCall) : Trace :=
  { t with calls := t.calls ++ calls }

/-- No more calls change nothing. -/
@[simp] theorem Trace.addCalls_nil (t : Trace) : t.addCalls [] = t := by
  simp [Trace.addCalls]

/-- Calls that are added twice are added together. -/
@[simp] theorem Trace.addCalls_addCalls (t : Trace) (a b : List RegionCall) :
    (t.addCalls a).addCalls b = t.addCalls (a ++ b) := by
  simp [Trace.addCalls]

/-- A call is written down if it needs to be. -/
theorem call_yields (needed : Prop) [Decidable needed] (c : RegionCall) (t : Trace) :
    (if needed then Walk.call c else pure ()).Yields t True
      ((), t.addCalls (if needed then [c] else [])) := by
  by_cases h : needed
  · rw [if_pos h, if_pos h]
    exact Walk.Yields.of_modify _ t
  · rw [if_neg h, if_neg h, Trace.addCalls_nil]
    exact Walk.Yields.of_pure () t

mutual

/-- Scanning an expression succeeds exactly if it receives nothing or lanes are together. -/
theorem Expr.scan_yields (cx : WalkContext) (flow : Flow) (state : Alteration) (t : Trace)
    (e : Expr) :
    (e.scan cx flow state).Yields t
      (e.hasRecv = true → flow.isVarying = false ∧ state = .clean)
      ((), t.addCalls (e.regionCalls cx flow.mask)) := by
  match e with
  | .int .. | .float .. | .bool .. | .ident .. =>
    refine (Walk.Yields.of_pure () t).congr ?_ ?_
    · simp [Expr.hasRecv, Expr.nodes, Node.enter, Node.isRecv]
    · simp [Expr.regionCalls]
  | .unary _ _ operand =>
    simpa [Expr.scan, Expr.regionCalls] using Expr.scan_yields cx flow state t operand
  | .cast _ operand _ =>
    simpa [Expr.scan, Expr.regionCalls] using Expr.scan_yields cx flow state t operand
  | .binary _ _ left right =>
    refine ((Expr.scan_yields cx flow state t left).bind
      (Expr.scan_yields cx flow state _ right)).congr ?_ ?_
    · simp only [Expr.hasRecv_binary, Bool.or_eq_true, or_imp]
    · simp [Expr.regionCalls]
  | .range _ first last =>
    refine ((Expr.scan_yields cx flow state t first).bind
      (Expr.scan_yields cx flow state _ last)).congr ?_ ?_
    · simp only [Expr.hasRecv_range, Bool.or_eq_true, or_imp]
    · simp [Expr.regionCalls]
  | .recv span chan =>
    refine ((Expr.scan_yields cx flow state t chan).bind
      (expectJoint_yields .receive flow.isVarying state span _)).congr ?_ ?_
    · simp only [Expr.hasRecv_recv, true_imp_iff]
      exact ⟨And.right, fun h => ⟨fun _ => h, h⟩⟩
    · simp [Expr.regionCalls]
  | .call span callee args =>
    refine ((Expr.scanEach_yields cx flow state t args).bind (call_yields _ _ _)).congr ?_ ?_
    · simp only [Expr.hasRecv_call, and_true]
    · simp [Expr.regionCalls]

/-- Scanning several expressions succeeds exactly if they receive nothing or lanes are together. -/
theorem Expr.scanEach_yields (cx : WalkContext) (flow : Flow) (state : Alteration) (t : Trace)
    (es : List Expr) :
    (Expr.scanEach cx flow state es).Yields t
      (es.any Expr.hasRecv = true → flow.isVarying = false ∧ state = .clean)
      ((), t.addCalls (Expr.regionCallsOf cx flow.mask es)) := by
  match es with
  | [] =>
    refine (Walk.Yields.of_pure () t).congr ?_ ?_
    · simp
    · simp [Expr.regionCallsOf]
  | e :: rest =>
    refine ((Expr.scan_yields cx flow state t e).bind
      (Expr.scanEach_yields cx flow state _ rest)).congr ?_ ?_
    · simp only [List.any_cons, Bool.or_eq_true, or_imp]
    · simp [Expr.regionCallsOf]

end

/-! ### Statements -/

section Statements

variable (cx : WalkContext) (flow : Flow) (state : Alteration)

/-- What the walk does first at every statement: it writes down the point, and scans the expressions. -/
def Stmt.arrive (s : Stmt) : Walk Unit := do
  Walk.point s.span flow.mask
  Expr.scanEach cx flow state s.scanned

/-- What the walk does at a statement once it has arrived there. -/
def Stmt.proceed : Stmt → Walk Alteration
  | .ifThen _ cond thenArm => do
    let flows ← splitFlow cx flow cond
    let out ← thenArm.walk cx flows.1 state
    return out.join state
  | .ifElse _ cond thenArm elseArm => do
    let flows ← splitFlow cx flow cond
    let afterThen ← thenArm.walk cx flows.1 state
    let afterElse ← elseArm.walk cx flows.2 state
    return afterThen.join afterElse
  | .switch _ scrutinee arms => arms.walk cx scrutinee.span (cx.isVarying scrutinee) 0 flow state
  | .typeSwitch _ _ _ arms => arms.walk cx flow state
  | .forIn _ _ _ body => walkLoop (fun state => body.walk cx flow.enterLoop state) state
  | .whileLoop _ cond body => do
    let bodyFlow ← whileFlow cx flow cond
    walkLoop (fun state => body.walk cx bodyFlow state) state
  | .goFor _ _ _ _ body => walkLoop (fun state => body.walk cx flow.enterLoop state) state
  | .ret span _ => do
    Walk.ofExcept (expectJoint .ret flow.isVarying state span)
    return state
  | .brk span => do
    Walk.ofExcept (expectJoint .brk flow.isVaryingInLoop state span)
    return state
  | .cont _ => return if flow.isVaryingInLoop then .tainted else state
  | .defer span call => do
    Walk.defer (call.callee?.getD "") span flow.mask
    return state
  | .spawn span call => do
    Walk.spawn (call.callee?.getD "") span flow.mask
    return state
  | .send span _ _ => do
    Walk.ofExcept (expectJoint .send flow.isVarying state span)
    return state
  | _ => return state

/-- The walk over a statement is its arrival and what comes after. -/
theorem Stmt.walk_eq (s : Stmt) :
    s.walk cx flow state = s.arrive cx flow state >>= fun _ => s.proceed cx flow state := by
  have hargs : ∀ call : Expr, call.scanArgs cx flow state = Expr.scanEach cx flow state call.args := by
    intro call
    cases call <;> rfl
  cases s with
  | ret span value =>
    cases value <;>
      simp [Stmt.walk, Stmt.arrive, Stmt.proceed, Stmt.scanned, Stmt.exprs, Expr.scanEach]
  | _ =>
    simp [Stmt.walk, Stmt.arrive, Stmt.proceed, Stmt.scanned, Stmt.exprs, Expr.scanEach, hargs]

/-- The trace after the walk has arrived at a statement. -/
def Trace.reach (t : Trace) (mask : Nat) (s : Stmt) : Trace :=
  { t with
    points := t.points ++ [{ span := s.span, mask }]
    calls := t.calls ++ Expr.regionCallsOf cx mask s.scanned }

/-- Arriving succeeds exactly if the statement receives nothing or lanes are together. -/
theorem Stmt.arrive_yields (t : Trace) (s : Stmt) :
    (s.arrive cx flow state).Yields t
      (s.scanned.any Expr.hasRecv = true → flow.isVarying = false ∧ state = .clean)
      ((), t.reach cx flow.mask s) := by
  refine ((Walk.Yields.of_modify _ t).bind (Expr.scanEach_yields cx flow state _ s.scanned)).congr
    ?_ rfl
  simp only [true_and]

/-- What the walk over a statement yields: it succeeds exactly if its sites clear, and leaves its record. -/
def Stmt.WalkYields (t : Trace) (index : Nat) (s : Stmt) : Prop :=
  (s.walk cx flow state).Yields t (Clears cx.isVarying flow.nesting state (s.sites index))
    (exitState cx.isVarying flow.nesting state (s.sites index),
      t.extend cx (s.record cx index flow.mask t.masks.size))

/-- What the walk over a block yields. -/
def Block.WalkYields (t : Trace) (index : Nat) (b : Block) : Prop :=
  (b.walk cx flow state).Yields t (Clears cx.isVarying flow.nesting state (b.sitesFrom index))
    (exitState cx.isVarying flow.nesting state (b.sitesFrom index),
      t.extend cx (b.record cx index flow.mask t.masks.size))

end Statements

section Parts

variable {cx : WalkContext} {flow : Flow} {state : Alteration} {t : Trace} {index : Nat}

/-- The walk over a statement in terms of what it does after its arrival. -/
theorem Stmt.walkYields_of_proceed {s : Stmt} {X : List Site} {P : Prop} {r : WalkRecord}
    (hsites : s.sites index = ⟨[], index, s⟩ :: X)
    (hrecord : s.record cx index flow.mask t.masks.size = .here index flow.mask s ++ r)
    (hproceed : (s.proceed cx flow state).Yields (t.reach cx flow.mask s) P
      (exitState cx.isVarying flow.nesting state (s.sites index),
        t.extend cx (.here index flow.mask s ++ r)))
    (hP : ((s.scanned.any Expr.hasRecv = true → flow.isVarying = false ∧ state = .clean) ∧ P) ↔
      s.StandsTogether flow.nesting state ∧ Clears cx.isVarying flow.nesting state X) :
    s.WalkYields cx flow state t index := by
  have hX : ∀ p ∈ X, p.top = index := by
    intro p hp
    apply Stmt.top_of_mem_sites (s := s)
    rw [hsites]
    exact List.mem_cons_of_mem _ hp
  unfold Stmt.WalkYields
  rw [Stmt.walk_eq, hrecord]
  refine ((Stmt.arrive_yields cx flow state t s).bind hproceed).congr ?_ rfl
  rw [hP, hsites, clears_here index s hX]

/-- A statement that is no exit and no send demands no more than its receives do. -/
theorem Stmt.standsTogether_iff {s : Stmt} (hret : s.isReturn = false) (hsend : s.isSend = false)
    (hbrk : s.isBreak = false) :
    (s.scanned.any Expr.hasRecv = true → flow.isVarying = false ∧ state = .clean) ↔
      s.StandsTogether flow.nesting state := by
  simp only [Stmt.StandsTogether, Stmt.isCollective, hret, hsend, hbrk, Bool.false_or]
  exact ⟨fun h => ⟨h, fun hf => by cases hf⟩, And.left⟩

/-- Arriving at a statement that takes no call writes down its visit. -/
theorem Trace.reach_eq_extend {s : Stmt}
    (hdefer : (Visit.mk ⟨[], index, s⟩ flow.mask).deferred? = none)
    (hspawn : (Visit.mk ⟨[], index, s⟩ flow.mask).spawned? = none) :
    t.reach cx flow.mask s = t.extend cx (.here index flow.mask s) := by
  simp [Trace.reach, Trace.extend, WalkRecord.here, Visit.point, Visit.calls, hdefer, hspawn]

/-- A statement without blocks that is no exit and no send, and does not fail once it is reached. -/
theorem Stmt.walkYields_of_free {s : Stmt} (hret : s.isReturn = false) (hsend : s.isSend = false)
    (hbrk : s.isBreak = false) (hsites : s.sites index = [⟨[], index, s⟩])
    (hrecord : s.record cx index flow.mask t.masks.size = .here index flow.mask s ++ .empty)
    (hproceed : s.proceed cx flow state (t.reach cx flow.mask s) =
      .ok (exitState cx.isVarying flow.nesting state [⟨[], index, s⟩],
        t.extend cx (.here index flow.mask s))) : s.WalkYields cx flow state t index := by
  refine Stmt.walkYields_of_proceed hsites hrecord (P := True) (Walk.Yields.of_ok ?_) ?_
  · rw [hproceed, hsites, ← Trace.extend_extend, Trace.extend_empty]
  · rw [clears_nil, and_true, and_true]
    exact Stmt.standsTogether_iff hret hsend hbrk

/-- A statement that is nothing but an action that lanes take together. -/
theorem Stmt.walkYields_of_joint {s : Stmt} (action : Joint) (isVarying : Bool)
    (hcont : s.isContinue = false)
    (hdefer : (Visit.mk ⟨[], index, s⟩ flow.mask).deferred? = none)
    (hspawn : (Visit.mk ⟨[], index, s⟩ flow.mask).spawned? = none)
    (hsites : s.sites index = [⟨[], index, s⟩])
    (hrecord : s.record cx index flow.mask t.masks.size = .here index flow.mask s ++ .empty)
    (hproceed : s.proceed cx flow state =
      (Walk.ofExcept (expectJoint action isVarying state s.span) >>= fun _ => pure state))
    (hP : ((s.scanned.any Expr.hasRecv = true → flow.isVarying = false ∧ state = .clean) ∧
      isVarying = false ∧ state = .clean) ↔ s.StandsTogether flow.nesting state) :
    s.WalkYields cx flow state t index := by
  refine Stmt.walkYields_of_proceed hsites hrecord (P := isVarying = false ∧ state = .clean) ?_ ?_
  · rw [hproceed, Trace.reach_eq_extend hdefer hspawn, hsites, exitState_here index hcont,
      exitState_nil, ← Trace.extend_extend, Trace.extend_empty]
    refine ((expectJoint_yields action isVarying state s.span _).bind
      (Walk.Yields.of_pure state _)).congr ?_ rfl
    simp only [and_true]
  · rw [clears_nil, and_true]
    exact hP

/-- A statement that is neither an exit nor a send nor takes a call: its sites clear if it receives where it
may and the sites inside it clear. -/
theorem Stmt.walkYields_of_plain {s : Stmt} {X : List Site} {r : WalkRecord}
    (hret : s.isReturn = false) (hsend : s.isSend = false) (hbrk : s.isBreak = false)
    (hcont : s.isContinue = false)
    (hdefer : (Visit.mk ⟨[], index, s⟩ flow.mask).deferred? = none)
    (hspawn : (Visit.mk ⟨[], index, s⟩ flow.mask).spawned? = none)
    (hsites : s.sites index = ⟨[], index, s⟩ :: X)
    (hrecord : s.record cx index flow.mask t.masks.size = .here index flow.mask s ++ r)
    (hproceed : ∀ t', t'.masks.size = t.masks.size → (s.proceed cx flow state).Yields t'
      (Clears cx.isVarying flow.nesting state X)
      (exitState cx.isVarying flow.nesting state X, t'.extend cx r)) :
    s.WalkYields cx flow state t index := by
  refine Stmt.walkYields_of_proceed hsites hrecord (P := Clears cx.isVarying flow.nesting state X) ?_ ?_
  · rw [Trace.reach_eq_extend hdefer hspawn, hsites, exitState_here index hcont,
      ← Trace.extend_extend]
    apply hproceed
    simp [WalkRecord.here]
  · apply and_congr_left
    intro _
    exact Stmt.standsTogether_iff hret hsend hbrk

/-- The walk over a block behind a step that enters no loop. -/
theorem Block.WalkYields.under {b : Block} {n : Nesting} {step : Step}
    (h : b.WalkYields cx flow state t 0) (hn : flow.nesting = n.enter cx.isVarying step)
    (hloop : step.stmt.isLoop = false) :
    (b.walk cx flow state).Yields t
      (Clears cx.isVarying n state ((b.sitesFrom 0).map (.under step)))
      (exitState cx.isVarying n state ((b.sitesFrom 0).map (.under step)),
        t.extend cx ((b.record cx 0 flow.mask t.masks.size).under step)) := by
  refine h.congr ?_ ?_
  · rw [clears_map_under, hn, hloop]
    exact ⟨fun hX => ⟨hX, fun hf => by cases hf⟩, And.left⟩
  · rw [exitState_map_under, hn, Trace.extend_under]

/-- The second walk over the body of a loop, if there is one, keeps state and trace. -/
theorem again_yields {w : Walk Alteration} {out after : Alteration} {P : Prop}
    (hw : ∀ t, (Walk.unrecorded w).Yields t P (after, t)) :
    (if out = .tainted ∧ state = .clean then do
        let _ ← Walk.unrecorded w
        return out
      else return out : Walk Alteration).Yields t (out = .tainted ∧ state = .clean → P) (out, t) := by
  by_cases h : out = .tainted ∧ state = .clean
  · rw [if_pos h]
    refine ((hw t).bind (Walk.Yields.of_pure out t)).congr ?_ rfl
    exact ⟨fun hP _ => hP.1, fun hP => ⟨hP h, trivial⟩⟩
  · rw [if_neg h]
    refine (Walk.Yields.of_pure out t).congr ?_ rfl
    exact ⟨fun _ hagain => absurd hagain h, fun _ => trivial⟩

/-- The walk over the body of a loop behind a step. The second walk demands what the sites behind the step
do if the body taints itself. -/
theorem walkLoop_yields {b : Block} {n : Nesting} {step : Step}
    (h : ∀ state t, b.WalkYields cx flow state t 0) (hn : flow.nesting = n.enter cx.isVarying step)
    (hloop : step.stmt.isLoop = true) :
    (walkLoop (fun state => b.walk cx flow state) state).Yields t
      (Clears cx.isVarying n state ((b.sitesFrom 0).map (.under step)))
      (exitState cx.isVarying n state ((b.sitesFrom 0).map (.under step)),
        t.extend cx ((b.record cx 0 flow.mask t.masks.size).under step)) := by
  rw [clears_map_under, exitState_map_under, Trace.extend_under, ← hn]
  refine ((h state t).bind (again_yields fun t' => (h .tainted t').unrecorded)).congr ?_ rfl
  apply and_congr_right
  intro hfirst
  -- a walk that starts tainted has no second pass, and needs none: the first was in the tainted state
  constructor
  · intro hagain _ htainted
    cases state with
    | clean => exact hagain ⟨htainted, rfl⟩
    | tainted => exact hfirst
  · rintro hagain ⟨htainted, rfl⟩
    exact hagain hloop htainted

/-! ### Masks of the arms -/

/-- A varying condition defines a mask for each of the two arms. -/
theorem splitFlow_yields_of_varying {cond : Expr} (hcond : cx.isVarying cond = true) :
    (splitFlow cx flow cond).Yields t True
      ((flow.narrow t.masks.size, flow.narrow (t.masks.size + 1)),
        t.extend cx (.define [.and flow.mask cond.span, .andNot flow.mask cond.span])) := by
  apply Walk.Yields.of_ok
  unfold splitFlow
  rw [if_pos hcond]
  show Except.ok (_, _) = _
  simp [MaskTable.size, Trace.extend, WalkRecord.define]

/-- A condition that is not varying leaves both arms under the same mask. -/
theorem splitFlow_yields_of_uniform {cond : Expr} (hcond : cx.isVarying cond = false) :
    (splitFlow cx flow cond).Yields t True ((flow, flow), t) := by
  apply Walk.Yields.of_ok
  unfold splitFlow
  rw [hcond]
  rfl

/-- The flow into the body of a loop under a condition. -/
theorem whileFlow_yields (cx : WalkContext) (flow : Flow) (t : Trace) (cond : Expr) :
    (whileFlow cx flow cond).Yields t True
      (if cx.isVarying cond then
        (flow.enterLoop.narrow t.masks.size, t.extend cx (.define [.and flow.mask cond.span]))
      else (flow.enterLoop, t)) := by
  apply Walk.Yields.of_ok
  unfold whileFlow
  cases cx.isVarying cond with
  | false => rfl
  | true =>
    show Except.ok (_, _) = _
    simp [MaskTable.size, Trace.extend, WalkRecord.define]

/-- The flow into an arm of a switch. -/
theorem armFlow_yields (cx : WalkContext) (flow : Flow) (t : Trace) (isVarying : Bool)
    (d : MaskDef) :
    (armFlow isVarying flow d).Yields t True
      (if isVarying then (flow.narrow t.masks.size, t.extend cx (.define [d])) else (flow, t)) := by
  apply Walk.Yields.of_ok
  unfold armFlow
  cases isVarying with
  | false => rfl
  | true =>
    show Except.ok (_, _) = _
    simp [MaskTable.size, Trace.extend, WalkRecord.define]

/-- The walk over an arm of a switch, with the definition of its mask if it has one of its own. -/
theorem arm_yields (flow : Flow) (t : Trace) {b : Block} {isVarying : Bool} (step : Step) (d : MaskDef)
    (h : ∀ flow t, b.WalkYields cx flow state t 0)
    (hvarying : step.isVarying cx.isVarying = isVarying) (hloop : step.stmt.isLoop = false) :
    (armFlow isVarying flow d >>= fun arm => b.walk cx arm state).Yields t
      (Clears cx.isVarying flow.nesting state ((b.sitesFrom 0).map (.under step)))
      (exitState cx.isVarying flow.nesting state ((b.sitesFrom 0).map (.under step)),
        t.extend cx (.narrowed isVarying flow.mask t.masks.size d fun mask next =>
          (b.record cx 0 mask next).under step)) := by
  cases isVarying with
  | false =>
    have hn : flow.nesting = flow.nesting.enter cx.isVarying step := by
      simp [Nesting.enter, hvarying, hloop]
    refine ((armFlow_yields cx flow t false d).bind ((h flow t).under hn hloop)).congr ?_ rfl
    simp only [true_and]
  | true =>
    have hn : (flow.narrow t.masks.size).nesting = flow.nesting.enter cx.isVarying step := by
      simp [Nesting.enter, hvarying, hloop, Flow.narrow, Flow.nesting]
    refine ((armFlow_yields cx flow t true d).bind ((h _ _).under hn hloop)).congr ?_ ?_
    · simp only [true_and]
    · simp [WalkRecord.narrowed, Trace.extend_extend, WalkRecord.define, Flow.narrow]

/-- The walk over a branch without an else arm. -/
theorem then_yields {b : Block} {cond : Expr} {step : Step}
    (h : ∀ flow t, b.WalkYields cx flow state t 0)
    (hvarying : step.isVarying cx.isVarying = cx.isVarying cond) (hloop : step.stmt.isLoop = false) :
    (splitFlow cx flow cond >>= fun flows => b.walk cx flows.1 state).Yields t
      (Clears cx.isVarying flow.nesting state ((b.sitesFrom 0).map (.under step)))
      (exitState cx.isVarying flow.nesting state ((b.sitesFrom 0).map (.under step)),
        t.extend cx
          (if cx.isVarying cond then
            .define [.and flow.mask cond.span, .andNot flow.mask cond.span] ++
              (b.record cx 0 t.masks.size (t.masks.size + 2)).under step
          else (b.record cx 0 flow.mask t.masks.size).under step)) := by
  cases hcond : cx.isVarying cond with
  | false =>
    rw [hcond] at hvarying
    have hn : flow.nesting = flow.nesting.enter cx.isVarying step := by
      simp [Nesting.enter, hvarying, hloop]
    refine ((splitFlow_yields_of_uniform hcond).bind ((h flow t).under hn hloop)).congr ?_ rfl
    simp only [true_and]
  | true =>
    rw [hcond] at hvarying
    have hn : (flow.narrow t.masks.size).nesting = flow.nesting.enter cx.isVarying step := by
      simp [Nesting.enter, hvarying, hloop, Flow.narrow, Flow.nesting]
    refine ((splitFlow_yields_of_varying hcond).bind ((h _ _).under hn hloop)).congr ?_ ?_
    · simp only [true_and]
    · simp [Trace.extend_extend, WalkRecord.define, Flow.narrow]

/-- The walk over a branch with two arms. -/
theorem thenElse_yields {a b : Block} {cond : Expr} {index : Nat} {s : Stmt}
    (ha : ∀ flow t, a.WalkYields cx flow state t 0) (hb : ∀ flow t, b.WalkYields cx flow state t 0)
    (hvarying : s.decision?.any cx.isVarying = cx.isVarying cond) (hloop : s.isLoop = false) :
    (splitFlow cx flow cond >>= fun flows => a.walk cx flows.1 state >>= fun afterThen =>
        b.walk cx flows.2 state >>= fun afterElse => pure (afterThen.join afterElse)).Yields t
      (Clears cx.isVarying flow.nesting state
        ((a.sitesFrom 0).map (.under ⟨index, s, .thenArm⟩) ++
          (b.sitesFrom 0).map (.under ⟨index, s, .elseArm⟩)))
      (exitState cx.isVarying flow.nesting state
        ((a.sitesFrom 0).map (.under ⟨index, s, .thenArm⟩) ++
          (b.sitesFrom 0).map (.under ⟨index, s, .elseArm⟩)),
        t.extend cx
          (if cx.isVarying cond then
            .define [.and flow.mask cond.span, .andNot flow.mask cond.span] ++
              (a.record cx 0 t.masks.size (t.masks.size + 2)).under ⟨index, s, .thenArm⟩ ++
              (b.record cx 0 (t.masks.size + 1) (t.masks.size + 2 +
                (a.record cx 0 t.masks.size (t.masks.size + 2)).masks.length)).under
                  ⟨index, s, .elseArm⟩
          else
            (a.record cx 0 flow.mask t.masks.size).under ⟨index, s, .thenArm⟩ ++
              (b.record cx 0 flow.mask (t.masks.size +
                (a.record cx 0 flow.mask t.masks.size).masks.length)).under ⟨index, s, .elseArm⟩)) := by
  have helse : ∀ p ∈ (b.sitesFrom 0).map (Site.under ⟨index, s, .elseArm⟩),
      ∃ (arm : Arm) (q : Site), p = q.under ⟨index, s, arm⟩ ∧ arm ≠ .thenArm := by
    intro p hp
    obtain ⟨q, -, rfl⟩ := List.mem_map.1 hp
    exact ⟨.elseArm, q, rfl, nofun⟩
  rw [clears_append_of_apart (Site.apart_of_arms helse), ← join_exitState]
  cases hcond : cx.isVarying cond with
  | false =>
    rw [hcond] at hvarying
    have hn : ∀ arm, flow.nesting = flow.nesting.enter cx.isVarying ⟨index, s, arm⟩ := by
      intro arm
      simp [Nesting.enter, Step.isVarying, hvarying, hloop]
    refine ((splitFlow_yields_of_uniform hcond).bind (((ha flow t).under (hn .thenArm) hloop).bind
      (((hb flow _).under (hn .elseArm) hloop).map _))).congr ?_ ?_
    · simp only [true_and]
    · simp [Trace.extend_extend]
  | true =>
    rw [hcond] at hvarying
    have hn : ∀ m arm, (flow.narrow m).nesting = flow.nesting.enter cx.isVarying ⟨index, s, arm⟩ := by
      intro m arm
      simp [Nesting.enter, Step.isVarying, hvarying, hloop, Flow.narrow, Flow.nesting]
    refine ((splitFlow_yields_of_varying hcond).bind (((ha _ _).under (hn _ .thenArm) hloop).bind
      (((hb _ _).under (hn _ .elseArm) hloop).map _))).congr ?_ ?_
    · simp only [true_and]
    · simp only [Trace.size_extend, if_true, ← Trace.extend_extend]
      rfl

/-- The walk over a loop under a condition, with the definition of the mask of its body if it has one of its
own. -/
theorem while_yields {b : Block} {cond : Expr} {step : Step}
    (h : ∀ flow state t, b.WalkYields cx flow state t 0)
    (hvarying : step.isVarying cx.isVarying = cx.isVarying cond) (hloop : step.stmt.isLoop = true) :
    (whileFlow cx flow cond >>= fun bodyFlow =>
        walkLoop (fun state => b.walk cx bodyFlow state) state).Yields t
      (Clears cx.isVarying flow.nesting state ((b.sitesFrom 0).map (.under step)))
      (exitState cx.isVarying flow.nesting state ((b.sitesFrom 0).map (.under step)),
        t.extend cx (.narrowed (cx.isVarying cond) flow.mask t.masks.size (.and flow.mask cond.span)
          fun mask next => (b.record cx 0 mask next).under step)) := by
  have hflow := whileFlow_yields cx flow t cond
  cases hcond : cx.isVarying cond with
  | false =>
    rw [hcond] at hflow hvarying
    have hn : flow.enterLoop.nesting = flow.nesting.enter cx.isVarying step := by
      simp [Nesting.enter, hvarying, hloop, Flow.enterLoop, Flow.nesting]
    refine (hflow.bind (walkLoop_yields (h _) hn hloop)).congr ?_ rfl
    simp only [true_and]
  | true =>
    rw [hcond] at hflow hvarying
    have hn : (flow.enterLoop.narrow t.masks.size).nesting =
        flow.nesting.enter cx.isVarying step := by
      simp [Nesting.enter, hvarying, hloop, Flow.enterLoop, Flow.narrow, Flow.nesting]
    refine (hflow.bind (walkLoop_yields (h _) hn hloop)).congr ?_ ?_
    · simp only [true_and]
    · simp [WalkRecord.narrowed, Trace.extend_extend, WalkRecord.define, Flow.narrow]

end Parts

/-! ### The whole walk -/

mutual

/-- The walk over a statement succeeds exactly if its sites clear; it leaves the state and the record of
one pass. -/
theorem Stmt.walk_yields (cx : WalkContext) (s : Stmt) (flow : Flow) (state : Alteration) (t : Trace)
    (index : Nat) : s.WalkYields cx flow state t index := by
  -- The induction is that of the walk. Flow, state and trace stay general: a loop walks its body a second time
  -- in the tainted state, and the arms of a branch are walked one after the other from one state.
  match s with
  | .declare .. | .assign .. | .panic .. | .eval .. =>
    refine Stmt.walkYields_of_plain (X := []) (r := .empty) rfl rfl rfl rfl rfl rfl rfl rfl ?_
    intro t' _
    rw [clears_nil, Trace.extend_empty]
    exact Walk.Yields.of_pure _ _
  | .ifThen span cond thenArm =>
    refine Stmt.walkYields_of_plain rfl rfl rfl rfl rfl rfl rfl rfl ?_
    intro t' ht'
    have hthen := fun flow t => Block.walk_yields cx thenArm flow state t 0
    -- lanes that skip the arm keep the state, which the join with the state before stands for
    rw [← ht', Stmt.proceed, ← bind_assoc, ← exitState_join]
    exact (then_yields hthen rfl rfl).map _
  | .ifElse span cond thenArm elseArm =>
    refine Stmt.walkYields_of_plain rfl rfl rfl rfl rfl rfl rfl rfl ?_
    intro t' ht'
    have hthen := fun flow t => Block.walk_yields cx thenArm flow state t 0
    have helse := fun flow t => Block.walk_yields cx elseArm flow state t 0
    rw [← ht']
    exact thenElse_yields hthen helse rfl rfl
  | .switch span scrutinee arms =>
    refine Stmt.walkYields_of_plain rfl rfl rfl rfl rfl rfl rfl rfl ?_
    intro t' ht'
    rw [← ht']
    exact Arms.walk_yields cx arms flow state t' index (.switch span scrutinee arms) scrutinee.span
      (cx.isVarying scrutinee) 0 rfl rfl
  | .typeSwitch span binding scrutinee arms =>
    refine Stmt.walkYields_of_plain rfl rfl rfl rfl rfl rfl rfl rfl ?_
    intro t' ht'
    rw [← ht']
    exact LaneArms.walk_yields cx arms flow state t' index (.typeSwitch span binding scrutinee arms) 0
      rfl rfl
  | .forIn _ _ _ body =>
    refine Stmt.walkYields_of_plain rfl rfl rfl rfl rfl rfl rfl rfl ?_
    intro t' ht'
    rw [← ht']
    exact walkLoop_yields (fun state t => Block.walk_yields cx body flow.enterLoop state t 0) rfl rfl
  | .whileLoop _ cond body =>
    refine Stmt.walkYields_of_plain rfl rfl rfl rfl rfl rfl rfl rfl ?_
    intro t' ht'
    rw [← ht']
    exact while_yields (fun flow state t => Block.walk_yields cx body flow state t 0) rfl rfl
  | .goFor _ _ _ _ body =>
    refine Stmt.walkYields_of_plain rfl rfl rfl rfl rfl rfl rfl rfl ?_
    intro t' ht'
    rw [← ht']
    exact walkLoop_yields (fun state t => Block.walk_yields cx body flow.enterLoop state t 0) rfl rfl
  | .ret span value =>
    refine Stmt.walkYields_of_joint .ret flow.isVarying rfl rfl rfl rfl rfl rfl ?_
    exact ⟨fun h => ⟨fun _ => h.2, nofun⟩, fun h => ⟨fun _ => h.1 rfl, h.1 rfl⟩⟩
  | .send span chan value =>
    refine Stmt.walkYields_of_joint .send flow.isVarying rfl rfl rfl rfl rfl rfl ?_
    exact ⟨fun h => ⟨fun _ => h.2, nofun⟩, fun h => ⟨fun _ => h.1 rfl, h.1 rfl⟩⟩
  | .brk span =>
    refine Stmt.walkYields_of_joint .brk flow.isVaryingInLoop rfl rfl rfl rfl rfl rfl ?_
    exact ⟨fun h => ⟨nofun, fun _ => h.2⟩, fun h => ⟨nofun, h.2 rfl⟩⟩
  | .cont span =>
    refine Stmt.walkYields_of_free rfl rfl rfl rfl rfl ?_
    rw [Trace.reach_eq_extend rfl rfl]
    show Except.ok (if flow.isVaryingInLoop = true then _ else _, _) = _
    simp only [exitState, List.any_cons, List.any_nil, Bool.or_false]
    rfl
  | .defer span call =>
    refine Stmt.walkYields_of_free rfl rfl rfl rfl rfl ?_
    rw [exitState_here index rfl, exitState_nil]
    show Except.ok (state, _) = _
    simp [Trace.reach, Trace.extend, WalkRecord.here, Visit.point, Visit.calls, Visit.deferred?,
      Visit.spawned?]
  | .spawn span call =>
    refine Stmt.walkYields_of_free rfl rfl rfl rfl rfl ?_
    rw [exitState_here index rfl, exitState_nil]
    show Except.ok (state, _) = _
    simp [Trace.reach, Trace.extend, WalkRecord.here, Visit.point, Visit.calls, Visit.deferred?,
      Visit.spawned?]

/-- The walk over a block succeeds exactly if its sites clear; it leaves the state and the record of one
pass. -/
theorem Block.walk_yields (cx : WalkContext) (b : Block) (flow : Flow) (state : Alteration) (t : Trace)
    (index : Nat) : b.WalkYields cx flow state t index := by
  match b with
  | .nil _ =>
    unfold Block.WalkYields
    rw [Block.sitesFrom, clears_nil, Block.record, Trace.extend_empty]
    exact Walk.Yields.of_pure _ _
  | .cons first rest =>
    have hfirst := Stmt.walk_yields cx first flow state t index
    refine (hfirst.bind (Block.walk_yields cx rest flow _ _ (index + 1))).congr ?_ ?_
    · rw [Block.sitesFrom, Block.clears_cons]
    · rw [Block.sitesFrom, exitState_append, Trace.extend_extend, Trace.size_extend]
      rfl

/-- The walk over a switch's arms succeeds exactly if their sites clear, and then it leaves their exit state
and their record. -/
theorem Arms.walk_yields (cx : WalkContext) (arms : Arms) (flow : Flow) (state : Alteration)
    (t : Trace) (index : Nat) (s : Stmt) (scrutinee : Span) (isVarying : Bool) (k : Nat)
    (hvarying : s.decision?.any cx.isVarying = isVarying) (hloop : s.isLoop = false) :
    (arms.walk cx scrutinee isVarying k flow state).Yields t
      (Clears cx.isVarying flow.nesting state (arms.sites index s k))
      (exitState cx.isVarying flow.nesting state (arms.sites index s k),
        t.extend cx (arms.record cx index s scrutinee isVarying k flow.mask t.masks.size)) := by
  match arms with
  | .nil =>
    rw [Arms.sites, clears_nil, Arms.record, Trace.extend_empty]
    exact Walk.Yields.of_pure _ _
  | .default body =>
    have hbody := fun flow t => Block.walk_yields cx body flow state t 0
    have harm := arm_yields flow t ⟨index, s, .default k⟩ (.default flow.mask scrutinee k) hbody
      hvarying hloop
    rw [Arms.walk, ← bind_assoc, Arms.sites, ← exitState_join]
    exact harm.map _
  | .case values body rest =>
    have hbody := fun flow t => Block.walk_yields cx body flow state t 0
    have harm := arm_yields flow t ⟨index, s, .case k⟩ (.case flow.mask scrutinee k) hbody
      hvarying hloop
    have hrest := fun t => Arms.walk_yields cx rest flow state t index s scrutinee isVarying (k + 1)
      hvarying hloop
    rw [Arms.walk, ← bind_assoc]
    refine (harm.bind ((hrest _).map _)).congr ?_ ?_
    · rw [Arms.sites, clears_append_of_apart (Site.apart_of_arms ?_)]
      rw [Arms.sites_eq]
      exact later_arms rfl fun arm b => Arms.number_of_mem_blocks
    · rw [join_exitState, Arms.sites, Arms.record, Trace.extend_extend, Trace.size_extend]

/-- The walk over a type switch's arms succeeds exactly if their sites clear, and then it leaves their exit
state and their record. -/
theorem LaneArms.walk_yields (cx : WalkContext) (arms : LaneArms) (flow : Flow) (state : Alteration)
    (t : Trace) (index : Nat) (s : Stmt) (k : Nat)
    (huniform : s.decision? = none) (hloop : s.isLoop = false) :
    (arms.walk cx flow state).Yields t
      (Clears cx.isVarying flow.nesting state (arms.sites index s k))
      (exitState cx.isVarying flow.nesting state (arms.sites index s k),
        t.extend cx (arms.record cx index s k flow.mask t.masks.size)) := by
  have hn : ∀ arm, flow.nesting = flow.nesting.enter cx.isVarying ⟨index, s, arm⟩ := by
    intro arm
    simp [Nesting.enter, Step.isVarying, huniform, hloop]
  match arms with
  | .nil =>
    rw [LaneArms.sites, clears_nil, LaneArms.record, Trace.extend_empty]
    exact Walk.Yields.of_pure _ _
  | .default body =>
    have harm := (Block.walk_yields cx body flow state t 0).under (hn (.lanes k)) hloop
    rw [LaneArms.walk, LaneArms.sites, ← exitState_join]
    exact harm.map _
  | .case lanes body rest =>
    have harm := (Block.walk_yields cx body flow state t 0).under (hn (.lanes k)) hloop
    have hrest := fun t => LaneArms.walk_yields cx rest flow state t index s (k + 1) huniform hloop
    rw [LaneArms.walk]
    refine (harm.bind ((hrest _).map _)).congr ?_ ?_
    · rw [LaneArms.sites, clears_append_of_apart (Site.apart_of_arms ?_)]
      rw [LaneArms.sites_eq]
      exact later_arms rfl fun arm b => LaneArms.number_of_mem_blocks
    · rw [join_exitState, LaneArms.sites, LaneArms.record, Trace.extend_extend, Trace.size_extend]

end

/-! ### Reports -/

/-- What the walk over a region of a function depends on. -/
def Region.walkContext (r : Region) (env : Env) (types : TypeRecord) : WalkContext :=
  { function := r.function, env, types }

/-- The record of one pass over a region, whose entry mask is the first of its table. -/
def Region.record (r : Region) (cx : WalkContext) : WalkRecord :=
  r.body.record cx 0 0 1

/-- The report that one pass over a region gives, without the checks. -/
def Region.report (r : Region) (cx : WalkContext) : RegionReport :=
  { kind := r.kind
    function := r.function
    span := r.span
    entry := 0
    masks := ⟨.entry r.kind.entryMask :: (r.record cx).masks⟩
    points := (r.record cx).visits.map Visit.point
    defers := (r.record cx).visits.filterMap Visit.deferred?
    spawns := (r.record cx).visits.filterMap Visit.spawned?
    calls := (r.record cx).visits.flatMap (Visit.calls cx)
    finalState := exitState cx.isVarying ⟨0, 0⟩ .clean r.body.sites }

/-- The walk over a region succeeds exactly if its sites clear, and then it leaves the entry mask and the
record of the body. -/
theorem Region.walk_yields (r : Region) (cx : WalkContext) :
    (r.walk cx).Yields .empty (Clears cx.isVarying ⟨0, 0⟩ .clean r.body.sites)
      ((0, exitState cx.isVarying ⟨0, 0⟩ .clean r.body.sites),
        (Trace.empty.extend cx (.define [.entry r.kind.entryMask])).extend cx (r.record cx)) := by
  have hentry : (Walk.mask (.entry r.kind.entryMask)).Yields .empty True
      (0, Trace.empty.extend cx (.define [.entry r.kind.entryMask])) := .of_ok rfl
  refine (hentry.bind ((r.body.walk_yields cx ⟨0, 0, 0⟩ .clean _ 0).map _)).congr ?_ rfl
  simp only [true_and]
  rfl

/-- The walk over a region succeeds exactly if its sites clear, and then reports what one pass gives. -/
theorem Region.analyze_eq_ok {r : Region} {env : Env} {types : TypeRecord} {report : RegionReport} :
    r.analyze env types = .ok report ↔
      Clears (r.walkContext env types).isVarying ⟨0, 0⟩ .clean r.body.sites ∧
        report = r.report (r.walkContext env types) := by
  have hwalk := r.walk_yields (r.walkContext env types)
  unfold Region.analyze
  constructor
  · intro h
    cases hrun : (r.walk (r.walkContext env types)).run .empty with
    | error issue =>
      unfold Region.walkContext at hrun
      rw [hrun] at h
      cases h
    | ok outcome =>
      have hclears := hwalk.2 outcome hrun
      refine ⟨hclears, ?_⟩
      have houtcome : outcome = _ := Except.ok.inj (hrun.symm.trans (hwalk.1 hclears))
      unfold Region.walkContext at hrun
      rw [hrun, houtcome] at h
      exact (Except.ok.inj h).symm
  · rintro ⟨hclears, rfl⟩
    have hrun : (r.walk (r.walkContext env types)).run .empty = _ := hwalk.1 hclears
    unfold Region.walkContext at hrun
    rw [hrun]
    rfl

end Lanewise
