import Lanewise.Proofs.CheckRules
import Lanewise.Proofs.WalkOutcome

/-!
# The walk without its second passes

The walk over a region goes a second time over a loop body that taints itself, and keeps nothing of it. The
pass defined here is the same walk with every loop body walked once. Where the walk succeeds, the pass does, in
the same state and with the same trace (`Block.walk_refines_pass`), so a report never shows whether there was a
second walk.
-/

set_option autoImplicit false

namespace Lanewise

/-! ### Passes -/

mutual

/-- One pass over a statement. -/
def Stmt.pass (cx : WalkContext) (s : Stmt) (flow : Flow) (state : Alteration) :
    Walk Alteration := do
  s.arrive cx flow state
  match s with
  | .ifThen _ cond thenArm => do
    let flows ← splitFlow cx flow cond
    let out ← thenArm.pass cx flows.1 state
    return out.join state
  | .ifElse _ cond thenArm elseArm => do
    let flows ← splitFlow cx flow cond
    let afterThen ← thenArm.pass cx flows.1 state
    let afterElse ← elseArm.pass cx flows.2 state
    return afterThen.join afterElse
  | .switch _ scrutinee arms => arms.pass cx scrutinee.span (cx.isVarying scrutinee) 0 flow state
  | .typeSwitch _ _ _ arms => arms.pass cx flow state
  | .forIn _ _ _ body => body.pass cx flow.enterLoop state
  | .whileLoop _ cond body => do
    let bodyFlow ← whileFlow cx flow cond
    body.pass cx bodyFlow state
  | .goFor _ _ _ _ body => body.pass cx flow.enterLoop state
  | s => s.proceed cx flow state

/-- One pass over the statements of a block. -/
def Block.pass (cx : WalkContext) (b : Block) (flow : Flow) (state : Alteration) :
    Walk Alteration :=
  match b with
  | .nil _ => return state
  | .cons first rest => do
    let after ← first.pass cx flow state
    rest.pass cx flow after

/-- One pass over the arms of a switch, the first of which is case number `index`. -/
def Arms.pass (cx : WalkContext) (arms : Arms) (scrutinee : Span) (isVarying : Bool) (index : Nat)
    (flow : Flow) (state : Alteration) : Walk Alteration :=
  match arms with
  | .nil => return state
  | .default body => do
    let arm ← armFlow isVarying flow (.default flow.mask scrutinee index)
    let out ← body.pass cx arm state
    return out.join state
  | .case _ body rest => do
    let arm ← armFlow isVarying flow (.case flow.mask scrutinee index)
    let out ← body.pass cx arm state
    let others ← rest.pass cx scrutinee isVarying (index + 1) flow state
    return out.join others

/-- One pass over the arms of a type switch. -/
def LaneArms.pass (cx : WalkContext) (arms : LaneArms) (flow : Flow) (state : Alteration) :
    Walk Alteration :=
  match arms with
  | .nil => return state
  | .default body => do
    let out ← body.pass cx flow state
    return out.join state
  | .case _ body rest => do
    let out ← body.pass cx flow state
    let others ← rest.pass cx flow state
    return out.join others

end

/-! ### Refinement of walks -/

/-- Where one walk succeeds, another one does, with the same outcome. -/
def Walk.Refines {α : Type} (w w' : Walk α) : Prop :=
  ∀ t outcome, w t = .ok outcome → w' t = .ok outcome

namespace Walk.Refines

variable {α β : Type}

/-- A walk refines itself. -/
theorem refl (w : Walk α) : w.Refines w :=
  fun _ _ h => h

/-- A walk refines what is refined by the walks that it refines. -/
theorem trans {w w' w'' : Walk α} (h : w.Refines w') (h' : w'.Refines w'') : w.Refines w'' :=
  fun t outcome hw => h' t outcome (h t outcome hw)

/-- Refinements compose along a sequence of walks. -/
theorem bind {w w' : Walk α} {k k' : α → Walk β} (hw : w.Refines w') (hk : ∀ a, (k a).Refines (k' a)) :
    (w >>= k).Refines (w' >>= k') := by
  intro t outcome h
  change (w t >>= fun r => k r.1 r.2) = .ok outcome at h
  show (w' t >>= fun r => k' r.1 r.2) = .ok outcome
  cases hwt : w t with
  | error issue =>
    rw [hwt] at h
    cases h
  | ok r =>
    rw [hwt] at h
    rw [hw t r hwt]
    exact hk r.1 r.2 outcome h

/-- Only the first of two walks is replaced. -/
theorem bind_left {w w' : Walk α} (k : α → Walk β) (hw : w.Refines w') :
    (w >>= k).Refines (w' >>= k) :=
  bind hw fun a => refl (k a)

/-- Only the second of two walks is replaced. -/
theorem bind_right (w : Walk α) {k k' : α → Walk β} (hk : ∀ a, (k a).Refines (k' a)) :
    (w >>= k).Refines (w >>= k') :=
  bind (refl w) hk

end Walk.Refines

/-- A walk whose outcome is known has no other one. -/
theorem Walk.Yields.outcome_unique {α : Type} {w : Walk α} {t : Trace} {P : Prop}
    {outcome other : α × Trace} (hw : w.Yields t P outcome) (hother : w t = .ok other) :
    other = outcome := by
  have hlegal : P := hw.2 other hother
  exact Except.ok.inj (hother.symm.trans (hw.1 hlegal))

/-- The walk over a loop body in a state, with its second walk if there is one, does what one walk does. -/
theorem walkLoop_refines (cx : WalkContext) (b : Block) (flow : Flow) (state : Alteration) :
    (walkLoop (fun state => b.walk cx flow state) state).Refines (b.walk cx flow state) := by
  intro t outcome h
  change (b.walk cx flow state t >>= fun r => _) = .ok outcome at h
  cases hfirst : b.walk cx flow state t with
  | error issue =>
    rw [hfirst] at h
    cases h
  | ok first =>
    rw [hfirst] at h
    have hagain := @again_yields state first.2 _ first.1 _ _
      fun t => (b.walk_yields cx flow .tainted t 0).unrecorded
    exact congrArg Except.ok (hagain.outcome_unique h).symm

/-! ### The walk and the pass -/

mutual

/-- Where the walk over a statement succeeds, the single pass does, with the same outcome. The proof goes over
the statement, its blocks and its arms together. -/
theorem Stmt.walk_refines_pass (cx : WalkContext) (s : Stmt) (flow : Flow) (state : Alteration) :
    (s.walk cx flow state).Refines (s.pass cx flow state) := by
  rw [Stmt.walk_eq]
  -- both arrive in the same way, and what follows differs in the blocks only
  match s with
  | .ifThen _ _ thenArm =>
    refine .bind_right _ fun _ => .bind_right _ fun flows => ?_
    exact .bind_left _ (thenArm.walk_refines_pass cx flows.1 state)
  | .ifElse _ _ thenArm elseArm =>
    refine .bind_right _ fun _ => .bind_right _ fun flows => ?_
    refine .bind (thenArm.walk_refines_pass cx flows.1 state) fun _ => ?_
    exact .bind_left _ (elseArm.walk_refines_pass cx flows.2 state)
  | .switch _ scrutinee arms =>
    exact .bind_right _ fun _ =>
      arms.walk_refines_pass cx scrutinee.span (cx.isVarying scrutinee) 0 flow state
  | .typeSwitch _ _ _ arms => exact .bind_right _ fun _ => arms.walk_refines_pass cx flow state
  | .forIn _ _ _ body | .goFor _ _ _ _ body =>
    have honce := walkLoop_refines cx body flow.enterLoop state
    exact .bind_right _ fun _ => honce.trans (body.walk_refines_pass cx flow.enterLoop state)
  | .whileLoop _ _ body =>
    refine .bind_right _ fun _ => .bind_right _ fun bodyFlow => ?_
    have honce := walkLoop_refines cx body bodyFlow state
    exact honce.trans (body.walk_refines_pass cx bodyFlow state)
  | .declare .. | .assign .. | .ret .. | .brk .. | .cont .. | .panic .. | .defer .. | .spawn ..
  | .send .. | .eval .. => exact .refl _

/-- Where the walk over a block succeeds, one pass over it does, in the same state and with the same trace. -/
theorem Block.walk_refines_pass (cx : WalkContext) (b : Block) (flow : Flow) (state : Alteration) :
    (b.walk cx flow state).Refines (b.pass cx flow state) := by
  match b with
  | .nil _ => exact .refl _
  | .cons first rest =>
    exact .bind (first.walk_refines_pass cx flow state) fun after =>
      rest.walk_refines_pass cx flow after

/-- Where the walk over a switch's arms succeeds, the single pass does, with the same outcome. -/
theorem Arms.walk_refines_pass (cx : WalkContext) (arms : Arms) (scrutinee : Span)
    (isVarying : Bool) (index : Nat) (flow : Flow) (state : Alteration) :
    (arms.walk cx scrutinee isVarying index flow state).Refines
      (arms.pass cx scrutinee isVarying index flow state) := by
  match arms with
  | .nil => exact .refl _
  | .default body =>
    exact .bind_right _ fun arm => .bind_left _ (body.walk_refines_pass cx arm state)
  | .case _ body rest =>
    refine .bind_right _ fun arm => .bind (body.walk_refines_pass cx arm state) fun _ => ?_
    exact .bind_left _ (rest.walk_refines_pass cx scrutinee isVarying (index + 1) flow state)

/-- Where the walk over a type switch's arms succeeds, the single pass does, with the same outcome. -/
theorem LaneArms.walk_refines_pass (cx : WalkContext) (arms : LaneArms) (flow : Flow)
    (state : Alteration) : (arms.walk cx flow state).Refines (arms.pass cx flow state) := by
  match arms with
  | .nil => exact .refl _
  | .default body => exact .bind_left _ (body.walk_refines_pass cx flow state)
  | .case _ body rest =>
    refine .bind (body.walk_refines_pass cx flow state) fun _ => ?_
    exact .bind_left _ (rest.walk_refines_pass cx flow state)

end

/-! ### Reports of one pass -/

/-- One pass over a region, from the definition of its entry mask on. -/
def Region.pass (r : Region) (cx : WalkContext) : Walk (Nat × Alteration) := do
  let entry ← Walk.mask (.entry r.kind.entryMask)
  let out ← r.body.pass cx { mask := entry, depth := 0, loopBase := 0 } .clean
  return (entry, out)

/-- Goes over a region once and reports on it. -/
def Region.analyzeOnce (r : Region) (env : Env) (types : TypeRecord) : Except Issue RegionReport := do
  let ((entry, finalState), t) ← (r.pass { function := r.function, env, types }).run .empty
  return {
    kind := r.kind, function := r.function, span := r.span, entry, masks := t.masks,
    points := t.points, defers := t.defers, spawns := t.spawns, calls := t.calls, finalState }

/-- The report of an accepted region is the one that a single pass gives. -/
theorem Region.analyzeOnce_of_analyze {r : Region} {env : Env} {types : TypeRecord}
    {report : RegionReport} (h : r.analyze env types = .ok report) :
    r.analyzeOnce env types = .ok report := by
  have hrefines : (r.walk { function := r.function, env, types }).Refines
      (r.pass { function := r.function, env, types }) :=
    .bind_right _ fun _ => .bind_left _ (r.body.walk_refines_pass _ _ _)
  obtain ⟨outcome, hwalk, hreport⟩ := Except.bind_eq_ok.1 h
  exact Except.bind_eq_ok.2 ⟨outcome, hrefines _ _ hwalk, hreport⟩

end Lanewise
