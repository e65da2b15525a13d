import Lanewise.Proofs.JointActions

/-!
# The masks at the statements of a region

The mask in force at a statement narrows the entry mask of the region once for every varying condition around
the statement, and for nothing else. `Along` says what it means that a mask is reached from another one along
the way to a site: a step under a varying condition leads to a mask that is defined in the table by that
condition and the mask before, and any other step keeps the mask.

The walk threads the size of the table through the whole region. `Stmt.record_entered` is the only place that
follows it: each block of a statement is walked under a mask that is right for it. All else about the masks
of a region is derived from that, by induction over the blocks.
-/

set_option autoImplicit false

namespace Lanewise

/-! ### Masks along a way -/

/-- The definition of the mask of a block that is entered by lanes as the expression at a span decides. -/
def Arm.maskDef? (parent : Nat) (decision : Span) : Arm → Option MaskDef
  | .thenArm => some (.and parent decision)
  | .elseArm => some (.andNot parent decision)
  | .case k => some (.case parent decision k)
  | .default k => some (.default parent decision k)
  | .body => some (.and parent decision)
  | .lanes _ => none

/-- The definition of the mask behind a step, if the condition of its statement is varying. -/
def Step.maskDef? (step : Step) (parent : Nat) : Option MaskDef :=
  step.stmt.decision?.bind fun e => step.arm.maskDef? parent e.span

/-- Whether a step leads from one mask of a table to another. -/
def Step.Narrows (varying : Expr → Bool) (t : MaskTable) (step : Step) (mask inner : Nat) : Prop :=
  if step.isVarying varying then
    mask < inner ∧ ∃ d, step.maskDef? mask = some d ∧ t.get? inner = some d
  else inner = mask

/-- A step with a varying condition leads to a later mask with the definition of its block. -/
theorem Step.narrows_of_varying {varying : Expr → Bool} {t : MaskTable} {step : Step} {mask inner : Nat}
    {d : MaskDef} (hstep : step.isVarying varying = true) (hlt : mask < inner)
    (hdef : step.maskDef? mask = some d) (hget : t.get? inner = some d) :
    step.Narrows varying t mask inner := by
  rw [Step.Narrows, if_pos hstep]
  exact ⟨hlt, d, hdef, hget⟩

/-- A step without a varying condition keeps the mask. -/
theorem Step.narrows_of_uniform {varying : Expr → Bool} {t : MaskTable} {step : Step} {mask : Nat}
    (hstep : step.isVarying varying = false) : step.Narrows varying t mask mask := by
  rw [Step.Narrows, hstep]
  rfl

/-- Whether a way leads from one mask of a table to another. -/
def Along (varying : Expr → Bool) (t : MaskTable) : Nat → List Step → Nat → Prop
  | mask, [], last => last = mask
  | mask, step :: path, last =>
    ∃ inner, step.Narrows varying t mask inner ∧ Along varying t inner path last

/-- A way without varying conditions keeps the mask. -/
theorem Along.eq_of_uniform {varying : Expr → Bool} {t : MaskTable} {path : List Step} {mask last : Nat}
    (h : Along varying t mask path last) (huniform : path.countP (Step.isVarying varying) = 0) :
    last = mask := by
  induction path generalizing mask with
  | nil => exact h
  | cons step path ih =>
    rw [List.countP_eq_zero] at huniform
    obtain ⟨inner, hnarrows, hrest⟩ := h
    rw [Step.Narrows, if_neg (huniform step List.mem_cons_self)] at hnarrows
    rw [← hnarrows]
    apply ih hrest
    rw [List.countP_eq_zero]
    exact fun other hother => huniform other (List.mem_cons_of_mem _ hother)

/-- Whether a table has the given definitions from position `next` on. -/
def MaskTable.Holds (t : MaskTable) (next : Nat) (defs : List MaskDef) : Prop :=
  ∀ i d, defs[i]? = some d → t.get? (next + i) = some d

namespace MaskTable.Holds

variable {t : MaskTable} {next : Nat} {d : MaskDef} {a b : List MaskDef}

/-- The first of the definitions is at the position itself. -/
theorem head (h : t.Holds next (d :: a)) : t.get? next = some d :=
  h 0 d rfl

/-- The other definitions are at the positions after the first. -/
theorem tail (h : t.Holds next (d :: a)) : t.Holds (next + 1) a := by
  intro i e he
  rw [Nat.add_assoc, Nat.add_comm 1 i]
  exact h (i + 1) e he

/-- The first part of the definitions is at the position itself. -/
theorem left (h : t.Holds next (a ++ b)) : t.Holds next a := by
  intro i d hd
  apply h i d
  rw [List.getElem?_append_left (List.getElem?_eq_some_iff.1 hd).1]
  exact hd

/-- The second part of the definitions is at the positions after the first part. -/
theorem right (h : t.Holds next (a ++ b)) : t.Holds (next + a.length) b := by
  intro i d hd
  rw [Nat.add_assoc]
  apply h (a.length + i) d
  rw [List.getElem?_append_right (Nat.le_add_right _ _), Nat.add_sub_cancel_left]
  exact hd

end MaskTable.Holds

/-! ### Blocks of a statement -/

/-- A block is walked behind a step, from a mask on: under a mask that the step leads to, and into a list of
visits. -/
structure Entered (cx : WalkContext) (t : MaskTable) (mask : Nat) (step : Step) (b : Block)
    (visits : List Visit) (inner next : Nat) : Prop where
  lt : inner < next
  narrows : step.Narrows cx.isVarying t mask inner
  holds : t.Holds next (b.record cx 0 inner next).masks
  subset : ∀ v ∈ (b.record cx 0 inner next).visits, v.under step ∈ visits

/-- A visit lies in one of the given blocks of a statement, and that block is walked as it should be. -/
def EntersOne (cx : WalkContext) (t : MaskTable) (mask index : Nat) (s : Stmt)
    (blocks : List (Arm × Block)) (visits : List Visit) (v : Visit) : Prop :=
  ∃ arm b inner next, (arm, b) ∈ blocks ∧ Entered cx t mask ⟨index, s, arm⟩ b visits inner next ∧
    ∃ w ∈ (b.record cx 0 inner next).visits, v = w.under ⟨index, s, arm⟩

section Entering

variable {cx : WalkContext} {t : MaskTable} {mask index next : Nat} {s : Stmt}

/-- More blocks and more visits may be added. -/
theorem EntersOne.mono {blocks blocks' : List (Arm × Block)} {visits visits' : List Visit} {v : Visit}
    (h : EntersOne cx t mask index s blocks visits v) (hblocks : ∀ entry ∈ blocks, entry ∈ blocks')
    (hvisits : ∀ v ∈ visits, v ∈ visits') : EntersOne cx t mask index s blocks' visits' v := by
  obtain ⟨arm, b, inner, n, hb, hentered, hv⟩ := h
  exact ⟨arm, b, inner, n, hblocks _ hb,
    ⟨hentered.lt, hentered.narrows, hentered.holds, fun w hw => hvisits _ (hentered.subset w hw)⟩, hv⟩

/-- The visits of one block behind a step that leads to the mask of the block. -/
theorem entersOne_of_narrows {arm : Arm} {b : Block} {inner : Nat} (hlt : inner < next)
    (hnarrows : Step.Narrows cx.isVarying t ⟨index, s, arm⟩ mask inner)
    (hholds : t.Holds next (b.record cx 0 inner next).masks) :
    ∀ v ∈ ((b.record cx 0 inner next).under ⟨index, s, arm⟩).visits,
      EntersOne cx t mask index s [(arm, b)] ((b.record cx 0 inner next).under ⟨index, s, arm⟩).visits v := by
  intro v hv
  obtain ⟨w, hw, rfl⟩ := List.mem_map.1 hv
  exact ⟨arm, b, inner, next, List.mem_singleton.2 rfl,
    ⟨hlt, hnarrows, hholds, fun u hu => List.mem_map.2 ⟨u, hu, rfl⟩⟩, w, hw, rfl⟩

/-- The visits of a block that is walked under a mask of its own if its condition is varying. -/
theorem entersOne_narrowed {arm : Arm} {b : Block} {isVarying : Bool} {d : MaskDef}
    (hstep : Step.isVarying cx.isVarying ⟨index, s, arm⟩ = isVarying)
    (hdef : Step.maskDef? ⟨index, s, arm⟩ mask = some d) (hmask : mask < next)
    {r : WalkRecord} (hr : r = .narrowed isVarying mask next d fun mask next =>
      (b.record cx 0 mask next).under ⟨index, s, arm⟩) (hholds : t.Holds next r.masks) :
    ∀ v ∈ r.visits, EntersOne cx t mask index s [(arm, b)] r.visits v := by
  subst hr
  cases isVarying with
  | false =>
    exact entersOne_of_narrows hmask (Step.narrows_of_uniform hstep) hholds
  | true =>
    have hnarrows := Step.narrows_of_varying hstep hmask hdef hholds.head
    exact entersOne_of_narrows (Nat.lt_succ_self next) hnarrows hholds.tail

/-- The visits of two records one after the other, each in blocks of its own. -/
theorem entersOne_append {a b : WalkRecord} (blocks blocks' : List (Arm × Block))
    (ha : ∀ v ∈ a.visits, EntersOne cx t mask index s blocks a.visits v)
    (hb : ∀ v ∈ b.visits, EntersOne cx t mask index s blocks' b.visits v) :
    ∀ v ∈ (a ++ b).visits, EntersOne cx t mask index s (blocks ++ blocks') (a ++ b).visits v := by
  intro v hv
  rcases List.mem_append.1 hv with hv | hv
  · exact (ha v hv).mono (fun _ => List.mem_append_left _) (fun _ => List.mem_append_left _)
  · exact (hb v hv).mono (fun _ => List.mem_append_right _) (fun _ => List.mem_append_right _)

/-- Every visit in the arms of a switch lies in one of their bodies, and that body is walked as it should
be. -/
theorem Arms.record_entered {scrutinee : Expr} (hdecision : s.decision? = some scrutinee) :
    ∀ (arms : Arms) (k next : Nat), mask < next →
    t.Holds next (arms.record cx index s scrutinee.span (cx.isVarying scrutinee) k mask next).masks →
    ∀ v ∈ (arms.record cx index s scrutinee.span (cx.isVarying scrutinee) k mask next).visits,
      EntersOne cx t mask index s (arms.blocks k)
        (arms.record cx index s scrutinee.span (cx.isVarying scrutinee) k mask next).visits v
  | .nil, _, _, _, _ => fun v hv => by cases hv
  | .default body, k, next, hmask, hholds => by
    refine entersOne_narrowed ?_ ?_ hmask rfl hholds
    · simp [Step.isVarying, hdecision]
    · simp [Step.maskDef?, Arm.maskDef?, hdecision]
  | .case _ body rest, k, next, hmask, hholds => by
    rw [Arms.record] at hholds ⊢
    refine entersOne_append [(.case k, body)] (rest.blocks (k + 1))
      (entersOne_narrowed ?_ ?_ hmask rfl hholds.left)
      (Arms.record_entered hdecision rest (k + 1) _ (by omega) hholds.right)
    · simp [Step.isVarying, hdecision]
    · simp [Step.maskDef?, Arm.maskDef?, hdecision]

/-- Every visit in the arms of a type switch lies in one of their bodies, and that body is walked as it should
be. -/
theorem LaneArms.record_entered (hdecision : s.decision? = none) :
    ∀ (arms : LaneArms) (k next : Nat), mask < next →
    t.Holds next (arms.record cx index s k mask next).masks →
    ∀ v ∈ (arms.record cx index s k mask next).visits,
      EntersOne cx t mask index s (arms.blocks k) (arms.record cx index s k mask next).visits v
  | .nil, _, _, _, _ => fun v hv => by cases hv
  | .default body, k, next, hmask, hholds =>
    entersOne_of_narrows hmask (Step.narrows_of_uniform (by simp [Step.isVarying, hdecision])) hholds
  | .case _ body rest, k, next, hmask, hholds => by
    rw [LaneArms.record] at hholds ⊢
    refine entersOne_append [(.lanes k, body)] (rest.blocks (k + 1))
      (entersOne_of_narrows hmask (Step.narrows_of_uniform ?_) hholds.left)
      (LaneArms.record_entered hdecision rest (k + 1) _ (by omega) hholds.right)
    simp [Step.isVarying, hdecision]

/-- The masks of the arms of a branch under a varying condition. -/
theorem branch_narrows {cond : Expr} {inner : List MaskDef} (hdecision : s.decision? = some cond)
    (hvarying : cx.isVarying cond = true) (hmask : mask < next)
    (hholds : t.Holds next ([.and mask cond.span, .andNot mask cond.span] ++ inner)) :
    Step.Narrows cx.isVarying t ⟨index, s, .thenArm⟩ mask next ∧
      Step.Narrows cx.isVarying t ⟨index, s, .elseArm⟩ mask (next + 1) ∧ t.Holds (next + 2) inner := by
  have hstep : ∀ arm, Step.isVarying cx.isVarying ⟨index, s, arm⟩ = true := by
    intro arm
    simp [Step.isVarying, hdecision, hvarying]
  have hthen : Step.maskDef? ⟨index, s, .thenArm⟩ mask = some (.and mask cond.span) := by
    simp [Step.maskDef?, Arm.maskDef?, hdecision]
  have helse : Step.maskDef? ⟨index, s, .elseArm⟩ mask = some (.andNot mask cond.span) := by
    simp [Step.maskDef?, Arm.maskDef?, hdecision]
  refine ⟨?_, ?_, hholds.right⟩
  · exact Step.narrows_of_varying (hstep _) hmask hthen hholds.left.head
  · exact Step.narrows_of_varying (hstep _) (by omega) helse hholds.left.tail.head

/-- Every visit is that of the statement itself, or it lies in one of its blocks. -/
def Stmt.EntersBlocks (cx : WalkContext) (t : MaskTable) (mask index : Nat) (s : Stmt)
    (visits : List Visit) : Prop :=
  ∀ v ∈ visits, v = ⟨⟨[], index, s⟩, mask⟩ ∨ EntersOne cx t mask index s s.blocks visits v

/-- The visit of the statement itself comes first, and all others lie in its blocks. -/
theorem Stmt.entersBlocks_here {r : WalkRecord}
    (hholds : t.Holds next (WalkRecord.here index mask s ++ r).masks)
    (h : t.Holds next r.masks → ∀ v ∈ r.visits, EntersOne cx t mask index s s.blocks r.visits v) :
    s.EntersBlocks cx t mask index (WalkRecord.here index mask s ++ r).visits := by
  intro v hv
  rcases List.mem_cons.1 hv with rfl | hv
  · exact Or.inl rfl
  · exact Or.inr ((h hholds v hv).mono (fun _ hentry => hentry) fun _ => List.mem_cons_of_mem _)

/-- The body of a branch with one arm is walked as it should be, whether or not the condition is varying. -/
theorem ifThen_entered {span : Span} {cond : Expr} {thenArm : Block} (hmask : mask < next)
    (hholds : t.Holds next ((Stmt.ifThen span cond thenArm).record cx index mask next).masks) :
    (Stmt.ifThen span cond thenArm).EntersBlocks cx t mask index
      ((Stmt.ifThen span cond thenArm).record cx index mask next).visits := by
  rw [Stmt.record] at hholds ⊢
  refine Stmt.entersBlocks_here hholds ?_
  clear hholds
  cases hvarying : cx.isVarying cond with
  | true =>
    rw [if_pos rfl]
    intro hholds
    -- both masks are defined, though no block is walked under the second
    obtain ⟨hthen, -, hinner⟩ :=
      branch_narrows (s := .ifThen span cond thenArm) rfl hvarying hmask hholds
    exact entersOne_append [] [(.thenArm, thenArm)] (fun v hv => by cases hv)
      (entersOne_of_narrows (by omega) hthen hinner)
  | false =>
    rw [if_neg (by decide)]
    intro hholds
    exact entersOne_of_narrows hmask (Step.narrows_of_uniform hvarying) hholds

/-- Both arms of a branch are walked as they should be, whether or not the condition is varying. -/
theorem ifElse_entered {span : Span} {cond : Expr} {thenArm elseArm : Block} (hmask : mask < next)
    (hholds : t.Holds next ((Stmt.ifElse span cond thenArm elseArm).record cx index mask next).masks) :
    (Stmt.ifElse span cond thenArm elseArm).EntersBlocks cx t mask index
      ((Stmt.ifElse span cond thenArm elseArm).record cx index mask next).visits := by
  rw [Stmt.record] at hholds ⊢
  refine Stmt.entersBlocks_here hholds ?_
  clear hholds
  cases hvarying : cx.isVarying cond with
  | true =>
    rw [if_pos rfl]
    intro hholds
    rw [WalkRecord.masks_append, WalkRecord.masks_append, List.append_assoc] at hholds
    obtain ⟨hthen, helse, hinner⟩ :=
      branch_narrows (s := .ifElse span cond thenArm elseArm) rfl hvarying hmask hholds
    refine entersOne_append [(.thenArm, thenArm)] [(.elseArm, elseArm)]
      (entersOne_append [] [(.thenArm, thenArm)] (fun v hv => by cases hv) ?_) ?_
    · exact entersOne_of_narrows (by omega) hthen hinner.left
    · exact entersOne_of_narrows (by omega) helse hinner.right
  | false =>
    rw [if_neg (by decide)]
    intro hholds
    refine entersOne_append [(.thenArm, thenArm)] [(.elseArm, elseArm)] ?_ ?_
    · exact entersOne_of_narrows hmask (Step.narrows_of_uniform hvarying) hholds.left
    · exact entersOne_of_narrows (by omega) (Step.narrows_of_uniform hvarying) hholds.right

/-- Each block of a statement is walked under the mask that is right for it. -/
theorem Stmt.record_entered (s : Stmt) (hmask : mask < next)
    (hholds : t.Holds next (s.record cx index mask next).masks) :
    s.EntersBlocks cx t mask index (s.record cx index mask next).visits := by
  cases s with
  | ifThen => exact ifThen_entered hmask hholds
  | ifElse => exact ifElse_entered hmask hholds
  | switch _ scrutinee arms =>
    rw [Stmt.record] at hholds ⊢
    exact Stmt.entersBlocks_here hholds (Arms.record_entered rfl arms 0 next hmask)
  | typeSwitch _ _ _ arms =>
    rw [Stmt.record] at hholds ⊢
    exact Stmt.entersBlocks_here hholds (LaneArms.record_entered rfl arms 0 next hmask)
  | forIn _ _ _ body | goFor _ _ _ _ body =>
    rw [Stmt.record] at hholds ⊢
    exact Stmt.entersBlocks_here hholds
      (entersOne_of_narrows hmask (Step.narrows_of_uniform rfl))
  | whileLoop _ cond body =>
    rw [Stmt.record] at hholds ⊢
    exact Stmt.entersBlocks_here hholds (entersOne_narrowed rfl rfl hmask rfl)
  | _ => exact Stmt.entersBlocks_here hholds (fun _ v hv => by cases hv)

end Entering

/-! ### Blocks -/

section Blocks

variable {cx : WalkContext} {t : MaskTable}

/-- What holds of the visits of a block, whatever mask it is walked under: of those of a statement itself, and
of those inside it as soon as it holds of the block that they lie in. -/
theorem Block.record_induction {P : Nat → List Visit → Visit → Prop} (b : Block)
    (mono : ∀ mask visits visits' v, (∀ u ∈ visits, u ∈ visits') → P mask visits v → P mask visits' v)
    (here : ∀ mask visits index s, ⟨⟨[], index, s⟩, mask⟩ ∈ visits →
      P mask visits ⟨⟨[], index, s⟩, mask⟩)
    (inside : ∀ mask visits index s arm b inner next w,
      Entered cx t mask ⟨index, s, arm⟩ b visits inner next → ⟨⟨[], index, s⟩, mask⟩ ∈ visits →
      P inner (b.record cx 0 inner next).visits w → P mask visits (w.under ⟨index, s, arm⟩)) :
    ∀ index mask next, mask < next → t.Holds next (b.record cx index mask next).masks →
      ∀ v ∈ (b.record cx index mask next).visits, P mask (b.record cx index mask next).visits v := by
  refine Block.of_blocks
    (P := fun b => ∀ index mask next, mask < next → t.Holds next (b.record cx index mask next).masks →
      ∀ v ∈ (b.record cx index mask next).visits, P mask (b.record cx index mask next).visits v)
    (Q := fun s => ∀ index mask next, mask < next → t.Holds next (s.record cx index mask next).masks →
      ∀ v ∈ (s.record cx index mask next).visits, P mask (s.record cx index mask next).visits v)
    ?_ ?_ ?_ b
  · intro span index mask next _ _ v hv
    cases hv
  · intro s rest hs hrest index mask next hmask hholds v hv
    rw [Block.record] at hholds hv ⊢
    rcases List.mem_append.1 hv with hv | hv
    · exact mono _ _ _ _ (fun _ => List.mem_append_left _) (hs index mask next hmask hholds.left v hv)
    · exact mono _ _ _ _ (fun _ => List.mem_append_right _)
        (hrest (index + 1) mask _ (by omega) hholds.right v hv)
  · intro s hblocks index mask next hmask hholds v hv
    have hself : ⟨⟨[], index, s⟩, mask⟩ ∈ (s.record cx index mask next).visits := by
      cases s <;> exact List.mem_cons_self
    rcases s.record_entered hmask hholds v hv with rfl | ⟨arm, b, inner, n, hb, hentered, w, hw, rfl⟩
    · exact here _ _ _ _ hself
    · exact inside _ _ _ _ _ _ _ _ _ hentered hself
        (hblocks arm b hb 0 inner n hentered.lt hentered.holds w hw)

/-- The mask of a visit is reached along the way to it, from the mask that the block is walked under as well
as from the mask of every visit on the way. -/
structure Follows (varying : Expr → Bool) (t : MaskTable) (mask : Nat) (visits : List Visit) (v : Visit) :
    Prop where
  along : Along varying t mask v.site.path v.mask
  enclosing : ∀ outer step inner, v.site.path = outer ++ step :: inner →
    ∃ u ∈ visits, u.site = ⟨outer, step.index, step.stmt⟩ ∧
      Along varying t u.mask (step :: inner) v.mask

/-- The mask of every visit in a block is reached from that of the block along the way to the visit. -/
theorem Block.record_follows (b : Block) {index mask next : Nat} (hmask : mask < next)
    (hholds : t.Holds next (b.record cx index mask next).masks) :
    ∀ v ∈ (b.record cx index mask next).visits,
      Follows cx.isVarying t mask (b.record cx index mask next).visits v := by
  refine Block.record_induction b ?_ ?_ ?_ index mask next hmask hholds
  -- the visits on the way have to be among those at hand, so more visits do no harm
  · intro mask visits visits' v hsubset h
    refine ⟨h.along, fun outer step inner hpath => ?_⟩
    obtain ⟨u, hu, hsite⟩ := h.enclosing outer step inner hpath
    exact ⟨u, hsubset u hu, hsite⟩
  · intro mask visits index s _
    refine ⟨rfl, fun outer step inner hpath => ?_⟩
    simp at hpath
  · intro mask visits index s arm b inner next w hentered hself h
    have halong : Along cx.isVarying t mask (⟨index, s, arm⟩ :: w.site.path) w.mask :=
      ⟨inner, hentered.narrows, h.along⟩
    refine ⟨halong, fun outer step rest hpath => ?_⟩
    cases outer with
    | nil =>
      -- the step is the one behind which the block lies
      rw [List.nil_append] at hpath
      refine ⟨_, hself, ?_, hpath ▸ halong⟩
      rw [← (List.cons.inj hpath).1]
    | cons first outer =>
      obtain ⟨hfirst, hrest⟩ := List.cons.inj hpath
      obtain ⟨u, hu, hsite, hu'⟩ := h.enclosing outer step rest hrest
      refine ⟨_, hentered.subset u hu, ?_, hu'⟩
      rw [← hfirst, Visit.under, hsite]
      rfl

end Blocks

/-! ### The sites that are visited -/

/-- Behind a step the sites that are visited are behind that step. -/
theorem WalkRecord.map_site_under (step : Step) (r : WalkRecord) :
    (r.under step).visits.map Visit.site = (r.visits.map Visit.site).map (.under step) := by
  rw [WalkRecord.visits_under, List.map_map, List.map_map]
  rfl

/-- A mask of its own does not change the sites that are visited in a block. -/
theorem WalkRecord.map_site_narrowed {isVarying : Bool} {mask next : Nat} {d : MaskDef}
    {body : Nat → Nat → WalkRecord} {sites : List Site}
    (h : ∀ mask next, (body mask next).visits.map Visit.site = sites) :
    (WalkRecord.narrowed isVarying mask next d body).visits.map Visit.site = sites := by
  unfold WalkRecord.narrowed
  split
  · exact h _ _
  · exact h _ _

mutual

/-- The walk visits the sites of a statement, in order. -/
theorem Stmt.map_site_record (cx : WalkContext) (index mask next : Nat) (s : Stmt) :
    (s.record cx index mask next).visits.map Visit.site = s.sites index := by
  match s with
  | .ifThen _ cond thenArm =>
    rw [Stmt.record, Stmt.sites, WalkRecord.visits_append, List.map_append]
    refine congrArg _ ?_
    split
    · rw [WalkRecord.visits_append, List.map_append, WalkRecord.map_site_under,
        Block.map_site_record]
      rfl
    · rw [WalkRecord.map_site_under, Block.map_site_record]
  | .ifElse _ cond thenArm elseArm =>
    rw [Stmt.record, Stmt.sites, WalkRecord.visits_append, List.map_append]
    refine congrArg _ ?_
    split
    · simp only [WalkRecord.visits_append, List.map_append, WalkRecord.map_site_under,
        Block.map_site_record]
      rfl
    · simp only [WalkRecord.visits_append, List.map_append, WalkRecord.map_site_under,
        Block.map_site_record]
      rfl
  | .switch _ scrutinee arms =>
    rw [Stmt.record, Stmt.sites, WalkRecord.visits_append, List.map_append]
    exact congrArg _ (Arms.map_site_record ..)
  | .typeSwitch _ _ _ arms =>
    rw [Stmt.record, Stmt.sites, WalkRecord.visits_append, List.map_append]
    exact congrArg _ (LaneArms.map_site_record ..)
  | .forIn _ _ _ body =>
    rw [Stmt.record, Stmt.sites, WalkRecord.visits_append, List.map_append, WalkRecord.map_site_under,
      Block.map_site_record]
    rfl
  | .whileLoop _ cond body =>
    rw [Stmt.record, Stmt.sites, WalkRecord.visits_append, List.map_append]
    refine congrArg _ (WalkRecord.map_site_narrowed fun mask next => ?_)
    rw [WalkRecord.map_site_under, Block.map_site_record]
  | .goFor _ _ _ _ body =>
    rw [Stmt.record, Stmt.sites, WalkRecord.visits_append, List.map_append, WalkRecord.map_site_under,
      Block.map_site_record]
    rfl
  | .declare .. | .assign .. | .ret .. | .brk .. | .cont .. | .panic .. | .defer .. | .spawn ..
  | .send .. | .eval .. => rfl

/-- The walk visits the sites of a block, in order. -/
theorem Block.map_site_record (cx : WalkContext) (index mask next : Nat) (b : Block) :
    (b.record cx index mask next).visits.map Visit.site = b.sitesFrom index := by
  match b with
  | .nil _ => rfl
  | .cons first rest =>
    rw [Block.record, Block.sitesFrom, WalkRecord.visits_append, List.map_append,
      Stmt.map_site_record, Block.map_site_record]

/-- The sites that are visited in the arms of a switch are their sites, in order. -/
theorem Arms.map_site_record (cx : WalkContext) (index : Nat) (s : Stmt) (scrutinee : Span)
    (isVarying : Bool) (k mask next : Nat) (arms : Arms) :
    (arms.record cx index s scrutinee isVarying k mask next).visits.map Visit.site =
      arms.sites index s k := by
  match arms with
  | .nil => rfl
  | .default body =>
    rw [Arms.record, Arms.sites]
    refine WalkRecord.map_site_narrowed fun mask next => ?_
    rw [WalkRecord.map_site_under, Block.map_site_record]
  | .case _ body rest =>
    rw [Arms.record, Arms.sites, WalkRecord.visits_append, List.map_append, Arms.map_site_record]
    congr 1
    refine WalkRecord.map_site_narrowed fun mask next => ?_
    rw [WalkRecord.map_site_under, Block.map_site_record]

/-- The sites that are visited in the arms of a type switch are their sites, in order. -/
theorem LaneArms.map_site_record (cx : WalkContext) (index : Nat) (s : Stmt) (k mask next : Nat)
    (arms : LaneArms) :
    (arms.record cx index s k mask next).visits.map Visit.site = arms.sites index s k := by
  match arms with
  | .nil => rfl
  | .default body =>
    rw [LaneArms.record, LaneArms.sites, WalkRecord.map_site_under, Block.map_site_record]
  | .case _ body rest =>
    rw [LaneArms.record, LaneArms.sites, WalkRecord.visits_append, List.map_append,
      LaneArms.map_site_record, WalkRecord.map_site_under, Block.map_site_record]

end

/-! ### Regions -/

section Regions

variable {r : Region} {cx : WalkContext}

/-- If no two visits have the same span, the point of each is found under its span. -/
theorem Visit.find?_point {visits : List Visit} (hspans : (visits.map fun u => u.site.stmt.span).Nodup)
    {v : Visit} (hv : v ∈ visits) :
    (visits.map Visit.point).find? (fun p => p.span = v.site.stmt.span) = some v.point := by
  induction visits with
  | nil => cases hv
  | cons first rest ih =>
    rw [List.map_cons, List.nodup_cons] at hspans
    rw [List.map_cons, List.find?_cons]
    rcases List.mem_cons.1 hv with rfl | hv
    · simp [Visit.point]
    · have hne : first.site.stmt.span ≠ v.site.stmt.span := by
        intro heq
        exact hspans.1 (heq ▸ List.mem_map.2 ⟨v, hv, rfl⟩)
      have hskip : decide (first.point.span = v.site.stmt.span) = false := decide_eq_false hne
      rw [hskip]
      exact ih hspans.2 hv

/-- If no two statements share a span, the report gives for each the mask of its visit. -/
theorem RegionReport.maskAt?_of_mem (hspans : (r.body.sites.map fun p => p.stmt.span).Nodup) {v : Visit}
    (hv : v ∈ (r.record cx).visits) : (r.report cx).maskAt? v.site.stmt.span = some v.mask := by
  have hvisits : ((r.record cx).visits.map fun u => u.site.stmt.span).Nodup := by
    rw [Block.sites, ← Block.map_site_record cx 0 0 1, List.map_map] at hspans
    exact hspans
  rw [RegionReport.maskAt?]
  exact congrArg _ (Visit.find?_point hvisits hv)

/-- Every statement of a region has a mask, which is reached from the entry mask along the way to the
statement, and from the mask of every statement on that way. -/
theorem Region.maskAt?_along (cx : WalkContext)
    (hspans : (r.body.sites.map fun p => p.stmt.span).Nodup) {p : Site} (hp : p ∈ r.body.sites) :
    ∃ m, (r.report cx).maskAt? p.stmt.span = some m ∧
      Along cx.isVarying (r.report cx).masks (r.report cx).entry p.path m ∧
      ∀ outer step inner, p.path = outer ++ step :: inner →
        ∃ k, (r.report cx).maskAt? step.stmt.span = some k ∧
          Along cx.isVarying (r.report cx).masks k (step :: inner) m := by
  rw [Block.sites, ← Block.map_site_record cx 0 0 1, List.mem_map] at hp
  obtain ⟨v, hv, rfl⟩ := hp
  -- the entry mask is the first of the table, and all others are those of the record
  have hholds : (r.report cx).masks.Holds 1 (r.record cx).masks := by
    intro i d hd
    rw [Nat.add_comm]
    exact hd
  have hfollows := Block.record_follows r.body (Nat.zero_lt_one) hholds v hv
  refine ⟨v.mask, RegionReport.maskAt?_of_mem hspans hv, hfollows.along, fun outer step inner hpath => ?_⟩
  obtain ⟨u, hu, hsite, halong⟩ := hfollows.enclosing outer step inner hpath
  refine ⟨u.mask, ?_, halong⟩
  have hmask := RegionReport.maskAt?_of_mem hspans hu
  rw [hsite] at hmask
  exact hmask

end Regions

/-! ### Whole groups of lanes -/

namespace RegionReport

/-- The lanes that are active at a statement. -/
def lanesAt (report : RegionReport) (inputs : MaskInputs) (span : Span) :
    Except LaneError (Option Mask) :=
  match report.maskAt? span with
  | none => .ok none
  | some mask => report.masks.evaluate inputs mask

/-- The lanes at a statement are the value of its mask. -/
theorem lanesAt_of_maskAt? {report : RegionReport} {span : Span} {mask : Nat}
    (h : report.maskAt? span = some mask) (inputs : MaskInputs) :
    report.lanesAt inputs span = report.masks.evaluate inputs mask := by
  rw [lanesAt, h]

/-- The mask of the innermost loop around a site, or that of the region if no loop of the region encloses
the site. -/
def loopMask? (report : RegionReport) (p : Site) : Option Nat :=
  match p.innerLoop? with
  | some loop => report.maskAt? loop.span
  | none => some report.entry

end RegionReport

section Whole

variable {f : Function} {env env' scope : Env} {types : TypeRecord} {sig : Signature} {r : Region}
  {report : RegionReport}

/-- A site under no varying condition has the mask of the region. -/
theorem Region.maskAt?_of_depth_zero {cx : WalkContext}
    (hspans : (r.body.sites.map fun p => p.stmt.span).Nodup) {p : Site} (hp : p ∈ r.body.sites)
    (hdepth : p.varyingDepth cx.isVarying = 0) :
    (r.report cx).maskAt? p.stmt.span = some (r.report cx).entry := by
  obtain ⟨m, hmask, halong, -⟩ := Region.maskAt?_along cx hspans hp
  rw [hmask, halong.eq_of_uniform hdepth]

/-- A site under no varying condition inside its loop has the mask of the loop. -/
theorem Region.maskAt?_of_loopDepth_zero {cx : WalkContext}
    (hspans : (r.body.sites.map fun p => p.stmt.span).Nodup) {p : Site} (hp : p ∈ r.body.sites)
    (hdepth : p.loopDepth cx.isVarying = 0) :
    ∃ m, (r.report cx).loopMask? p = some m ∧ (r.report cx).maskAt? p.stmt.span = some m := by
  obtain ⟨m, hmask, halong, henclosing⟩ := Region.maskAt?_along cx hspans hp
  rw [Site.loopDepth] at hdepth
  cases hloop : p.innerLoop? with
  | none =>
    rw [Site.sinceLoop_of_no_loop (Site.innerLoop?_eq_none hloop)] at hdepth
    refine ⟨m, ?_, hmask⟩
    rw [RegionReport.loopMask?, hloop, halong.eq_of_uniform hdepth]
  | some s =>
    -- from the loop on, no condition is varying, and so the mask is still that of the loop
    obtain ⟨outer, loop, inner, hpath, hstmt, hisLoop, hinner⟩ := Site.innerLoop?_eq_some hloop
    obtain ⟨k, hk, hfrom⟩ := henclosing outer loop inner hpath
    rw [hpath, Site.sinceLoop_of_loop hisLoop hinner] at hdepth
    refine ⟨m, ?_, hmask⟩
    rw [RegionReport.loopMask?, hloop, hfrom.eq_of_uniform hdepth, ← hstmt]
    exact hk

/-- In an accepted region every return, send and receive runs under the mask of the region, and every break
under that of its loop: whatever the inputs, no part of the lanes that are active there takes it alone. -/
theorem Function.exits_by_whole_groups (hcheck : f.check env = (.ok types, env'))
    (hr : r ∈ f.regions sig) (hreport : r.analyze scope types = .ok report)
    (hspans : (r.body.sites.map fun p => p.stmt.span).Nodup) {p : Site} (hp : p ∈ r.body.sites) :
    (p.stmt.isReturn = true ∨ p.stmt.isSend = true ∨ p.stmt.receives = true →
      report.maskAt? p.stmt.span = some report.entry ∧
        ∀ inputs, report.lanesAt inputs p.stmt.span = report.masks.evaluate inputs report.entry) ∧
    (p.stmt.isBreak = true →
      ∃ m, report.loopMask? p = some m ∧ report.maskAt? p.stmt.span = some m ∧
        ∀ inputs, report.lanesAt inputs p.stmt.span = report.masks.evaluate inputs m) := by
  obtain ⟨hclears, rfl⟩ := Region.analyze_eq_ok.1 hreport
  have htogether := (clears_entry_iff fun _ hq => f.scanned_of_check hcheck hr hq).1 hclears p hp
  constructor
  · intro haction
    have hmask := Region.maskAt?_of_depth_zero hspans hp (htogether.1 haction).1
    exact ⟨hmask, RegionReport.lanesAt_of_maskAt? hmask⟩
  · intro hbreak
    obtain ⟨m, hloop, hmask⟩ := Region.maskAt?_of_loopDepth_zero hspans hp (htogether.2 hbreak).1
    exact ⟨m, hloop, hmask, RegionReport.lanesAt_of_maskAt? hmask⟩

end Whole

/-- A break of the accepted region runs under the mask of its loop, whatever the inputs. -/
theorem Function.exits_by_whole_groups_scan :
    ∃ types env' report r p, scan.check scanEnv = (.ok types, env') ∧
      r ∈ scan.regions scanSignature ∧ r.analyze scanEnv types = .ok report ∧
      (r.body.sites.map fun p => p.stmt.span).Nodup ∧ p ∈ r.body.sites ∧ p.stmt.isBreak = true ∧
      ∃ m, report.loopMask? p = some m ∧ report.maskAt? p.stmt.span = some m ∧
        ∀ inputs, report.lanesAt inputs p.stmt.span = report.masks.evaluate inputs m := by
  obtain ⟨types, env', report, r, hcheck, hr, hreport⟩ := scan_accepted
  have hspans : ∀ r ∈ scan.regions scanSignature, (r.body.sites.map fun p => p.stmt.span).Nodup := by
    decide +kernel
  have hbreak : ∀ r ∈ scan.regions scanSignature, ∃ p ∈ r.body.sites, p.stmt.isBreak = true := by
    decide +kernel
  obtain ⟨p, hp, hbrk⟩ := hbreak r hr
  exact ⟨types, env', report, r, p, hcheck, hr, hreport, hspans r hr, hp, hbrk,
    (Function.exits_by_whole_groups hcheck hr hreport (hspans r hr) hp).2 hbrk⟩

end Lanewise
