import Lanewise.Proofs.MaskPoints

/-!
# Masks as reachability of lanes

Given the lanes in which every varying condition holds and every case matches, the mask at a statement
evaluates to the lanes that reach the statement: those that are active when the region is entered and that
choose, at every varying condition around the statement, the arm that the statement lies in. Uniform
branches, loops and type switches add nothing.

`MaskDef.narrow` is followed once, in `Step.narrow_ok`; a way to a statement is then a chain of such steps,
and evaluation along it never runs out of definitions because every mask is defined after its parent.
-/

set_option autoImplicit false

namespace Lanewise

/-! ### Operations on masks, lane by lane -/

namespace Mask

variable {a b : Mask}

/-- The mask with no lane active has the width that it is made with. -/
@[simp] theorem width_none (width : Nat) : (Mask.none width).width = width :=
  List.length_replicate

/-- The mask with no lane active is active in none. -/
@[simp] theorem isActive_none (width lane : Nat) : (Mask.none width).isActive lane = false := by
  simp only [isActive, none, List.getD_eq_getElem?_getD, List.getElem?_replicate]
  split <;> rfl

/-- Masks of one width combine to a mask of that width, lane by lane. -/
theorem zip_ok (f : Bool → Bool → Bool) (hf : f false false = false) (h : a.width = b.width) :
    ∃ m, zip f a b = .ok m ∧ m.width = a.width ∧
      ∀ lane, m.isActive lane = f (a.isActive lane) (b.isActive lane) := by
  refine ⟨⟨List.zipWith f a.lanes b.lanes⟩, ?_, ?_, ?_⟩
  · simp only [zip, sameWidth, if_pos h]
    rfl
  · unfold width at h ⊢
    rw [List.length_zipWith, ← h, Nat.min_self]
  · intro lane
    unfold width at h
    simp only [isActive, List.getD_eq_getElem?_getD, List.getElem?_zipWith]
    by_cases hlane : lane < a.lanes.length
    · rw [List.getElem?_eq_getElem hlane, List.getElem?_eq_getElem (h ▸ hlane)]
      rfl
    · rw [List.getElem?_eq_none (Nat.le_of_not_lt hlane),
        List.getElem?_eq_none (h ▸ Nat.le_of_not_lt hlane)]
      simp [hf]

/-- Masks of one width have an intersection, lane by lane. -/
theorem and_ok (h : a.width = b.width) :
    ∃ m, a.and b = .ok m ∧ m.width = a.width ∧
      ∀ lane, m.isActive lane = (a.isActive lane && b.isActive lane) :=
  zip_ok _ rfl h

/-- Masks of one width have a difference, lane by lane. -/
theorem andNot_ok (h : a.width = b.width) :
    ∃ m, a.andNot b = .ok m ∧ m.width = a.width ∧
      ∀ lane, m.isActive lane = (a.isActive lane && !b.isActive lane) :=
  zip_ok _ rfl h

/-- Masks of one width have a union, lane by lane. -/
theorem or_ok (h : a.width = b.width) :
    ∃ m, a.or b = .ok m ∧ m.width = a.width ∧
      ∀ lane, m.isActive lane = (a.isActive lane || b.isActive lane) :=
  zip_ok _ rfl h

end Mask

/-! ### Inputs -/

namespace MaskInputs

variable (inputs : MaskInputs)

/-- Whether the condition at a span holds in a lane. -/
def holdsIn (cond : Span) (lane : Nat) : Bool :=
  (inputs.condition cond).any fun m => m.isActive lane

/-- Whether the scrutinee at a span matches a case in a lane. -/
def meetsIn (scrutinee : Span) (index lane : Nat) : Bool :=
  (inputs.caseMatch scrutinee index).any fun m => m.isActive lane

/-- The lanes that match one of several cases, if there is an input of the right width for each. -/
theorem matchedFrom_ok {scrutinee : Span} {width : Nat} (count first : Nat) {taken : Mask}
    (htaken : taken.width = width)
    (hcases : ∀ j < first + count, (inputs.caseMatch scrutinee j).map Mask.width = some width) :
    ∃ m, inputs.matchedFrom scrutinee first taken count = .ok (some m) ∧ m.width = width ∧
      ∀ lane, m.isActive lane = true ↔ taken.isActive lane = true ∨
        ∃ j, first ≤ j ∧ j < first + count ∧ inputs.meetsIn scrutinee j lane = true := by
  induction count generalizing first taken with
  | zero =>
    refine ⟨taken, rfl, htaken, fun lane => ⟨Or.inl, ?_⟩⟩
    rintro (h | ⟨j, hfirst, hj, -⟩)
    · exact h
    · omega
  | succ count ih =>
    obtain ⟨c, hc, hwidth⟩ := Option.map_eq_some_iff.1 (hcases first (by omega))
    -- the lanes of the first case join those that are taken already
    have hsame : taken.width = c.width := by rw [htaken, hwidth]
    obtain ⟨both, hboth, hbothWidth, hactive⟩ := Mask.or_ok hsame
    obtain ⟨m, hm, hmWidth, hmActive⟩ :=
      ih (first + 1) (hbothWidth.trans htaken) (fun j hj => hcases j (by omega))
    refine ⟨m, ?_, hmWidth, fun lane => ?_⟩
    · simp only [matchedFrom, hc, hboth]
      exact hm
    · have hmeets : inputs.meetsIn scrutinee first lane = c.isActive lane := by simp [meetsIn, hc]
      rw [hmActive lane, hactive lane, Bool.or_eq_true, ← hmeets]
      constructor
      · rintro ((h | h) | ⟨j, hfirst, hj, h⟩)
        · exact Or.inl h
        · exact Or.inr ⟨first, Nat.le_refl _, by omega, h⟩
        · exact Or.inr ⟨j, by omega, by omega, h⟩
      · rintro (h | ⟨j, hfirst, hj, h⟩)
        · exact Or.inl (Or.inl h)
        · by_cases hj' : j = first
          · exact Or.inl (Or.inr (hj' ▸ h))
          · exact Or.inr ⟨j, by omega, by omega, h⟩

/-- The lanes that match one of the first cases, if there is an input of the right width for each. -/
theorem matched_ok {scrutinee : Span} {width count : Nat}
    (hcases : ∀ j < count, (inputs.caseMatch scrutinee j).map Mask.width = some width) :
    ∃ m, inputs.matched scrutinee width count = .ok (some m) ∧ m.width = width ∧
      ∀ lane, m.isActive lane = true ↔ ∃ j < count, inputs.meetsIn scrutinee j lane = true := by
  obtain ⟨m, hm, hwidth, hactive⟩ := inputs.matchedFrom_ok count 0 (Mask.width_none width)
    (fun j hj => hcases j (by omega))
  refine ⟨m, hm, hwidth, fun lane => ?_⟩
  rw [hactive lane, Mask.isActive_none]
  simp

end MaskInputs

/-! ### Steps -/

/-- The number of cases of a switch. -/
def Arms.caseCount : Arms → Nat
  | .nil => 0
  | .default _ => 0
  | .case _ _ rest => rest.caseCount + 1

/-- Whether there are inputs of the given width for all that decides which block of a statement runs. -/
def MaskInputs.Decide (inputs : MaskInputs) (width : Nat) : Stmt → Prop
  | .switch _ scrutinee arms =>
    ∀ j < arms.caseCount, (inputs.caseMatch scrutinee.span j).map Mask.width = some width
  | s => ∀ cond, s.decision? = some cond → (inputs.condition cond.span).map Mask.width = some width

/-- Whether a lane enters a block as the expression at a span decides: the condition of a branch or loop has
to hold or fail, and of the cases of a switch the first one that matches counts. -/
def Arm.ChosenBy (inputs : MaskInputs) (decision : Span) (lane : Nat) : Arm → Prop
  | .thenArm => inputs.holdsIn decision lane = true
  | .elseArm => inputs.holdsIn decision lane = false
  | .case j =>
    inputs.meetsIn decision j lane = true ∧ ∀ i < j, inputs.meetsIn decision i lane = false
  | .default cases => ∀ i < cases, inputs.meetsIn decision i lane = false
  | .body => inputs.holdsIn decision lane = true
  | .lanes _ => True

/-- Whether a lane chooses the block that a step enters. -/
def Step.Chosen (inputs : MaskInputs) (lane : Nat) (step : Step) : Prop :=
  ∀ e, step.stmt.decision? = some e → step.arm.ChosenBy inputs e.span lane

section Narrowing

variable {inputs : MaskInputs} {parent : Mask} {width : Nat}

/-- Narrowed by a condition, a mask keeps the lanes in which it holds. -/
theorem narrow_and_ok {cond : Span} {mask : Nat} (hparent : parent.width = width)
    (hcond : (inputs.condition cond).map Mask.width = some width) :
    ∃ m, (MaskDef.and mask cond).narrow inputs parent = .ok (some m) ∧ m.width = width ∧
      ∀ lane, m.isActive lane = true ↔
        parent.isActive lane = true ∧ inputs.holdsIn cond lane = true := by
  obtain ⟨c, hc, hwidth⟩ := Option.map_eq_some_iff.1 hcond
  obtain ⟨m, hm, hmWidth, hactive⟩ := Mask.and_ok (hparent.trans hwidth.symm)
  refine ⟨m, ?_, hmWidth.trans hparent, fun lane => ?_⟩
  · simp only [MaskDef.narrow, hc, hm]
    rfl
  · rw [hactive lane, Bool.and_eq_true]
    simp [MaskInputs.holdsIn, hc]

/-- Narrowed by the failure of a condition, a mask keeps the lanes in which it does not hold. -/
theorem narrow_andNot_ok {cond : Span} {mask : Nat} (hparent : parent.width = width)
    (hcond : (inputs.condition cond).map Mask.width = some width) :
    ∃ m, (MaskDef.andNot mask cond).narrow inputs parent = .ok (some m) ∧ m.width = width ∧
      ∀ lane, m.isActive lane = true ↔
        parent.isActive lane = true ∧ inputs.holdsIn cond lane = false := by
  obtain ⟨c, hc, hwidth⟩ := Option.map_eq_some_iff.1 hcond
  obtain ⟨m, hm, hmWidth, hactive⟩ := Mask.andNot_ok (hparent.trans hwidth.symm)
  refine ⟨m, ?_, hmWidth.trans hparent, fun lane => ?_⟩
  · simp only [MaskDef.narrow, hc, hm]
    rfl
  · rw [hactive lane, Bool.and_eq_true]
    simp [MaskInputs.holdsIn, hc]

/-- The first case that matches wins: no lane that matches an earlier case stays. -/
theorem narrow_case_ok {scrutinee : Span} {mask index : Nat} (hparent : parent.width = width)
    (hcases : ∀ j < index + 1, (inputs.caseMatch scrutinee j).map Mask.width = some width) :
    ∃ m, (MaskDef.case mask scrutinee index).narrow inputs parent = .ok (some m) ∧ m.width = width ∧
      ∀ lane, m.isActive lane = true ↔ parent.isActive lane = true ∧
        inputs.meetsIn scrutinee index lane = true ∧
          ∀ i < index, inputs.meetsIn scrutinee i lane = false := by
  -- the lanes of all earlier cases, then those that meet this one, then the difference
  obtain ⟨taken, htaken, htakenWidth, htakenActive⟩ :=
    inputs.matched_ok (fun j hj => hcases j (Nat.lt_succ_of_lt hj))
  obtain ⟨c, hc, hwidth⟩ := Option.map_eq_some_iff.1 (hcases index (Nat.lt_succ_self index))
  obtain ⟨met, hmet, hmetWidth, hmetActive⟩ := Mask.and_ok (hparent.trans hwidth.symm)
  obtain ⟨m, hm, hmWidth, hactive⟩ :=
    Mask.andNot_ok ((hmetWidth.trans hparent).trans htakenWidth.symm)
  refine ⟨m, ?_, hmWidth.trans (hmetWidth.trans hparent), fun lane => ?_⟩
  · simp only [MaskDef.narrow, hparent, htaken, hc]
    show (do let met ← parent.and c; return some (← met.andNot taken) :
      Except LaneError (Option Mask)) = _
    rw [hmet]
    show (do return some (← met.andNot taken) : Except LaneError (Option Mask)) = _
    rw [hm]
    rfl
  · have hnone : taken.isActive lane = false ↔ ∀ i < index, inputs.meetsIn scrutinee i lane = false := by
      rw [← Bool.not_eq_true, htakenActive lane]
      simp
    rw [hactive lane, hmetActive lane, Bool.and_eq_true, Bool.and_eq_true, Bool.not_eq_true', hnone,
      and_assoc]
    simp [MaskInputs.meetsIn, hc]

/-- Narrowed to the default of a switch, a mask keeps the lanes that meet no case. -/
theorem narrow_default_ok {scrutinee : Span} {mask cases : Nat} (hparent : parent.width = width)
    (hcases : ∀ j < cases, (inputs.caseMatch scrutinee j).map Mask.width = some width) :
    ∃ m, (MaskDef.default mask scrutinee cases).narrow inputs parent = .ok (some m) ∧
      m.width = width ∧ ∀ lane, m.isActive lane = true ↔ parent.isActive lane = true ∧
        ∀ i < cases, inputs.meetsIn scrutinee i lane = false := by
  obtain ⟨taken, htaken, htakenWidth, htakenActive⟩ := inputs.matched_ok hcases
  obtain ⟨m, hm, hmWidth, hactive⟩ := Mask.andNot_ok (hparent.trans htakenWidth.symm)
  refine ⟨m, ?_, hmWidth.trans hparent, fun lane => ?_⟩
  · simp only [MaskDef.narrow, hparent, htaken]
    show (do return some (← parent.andNot taken) : Except LaneError (Option Mask)) = _
    rw [hm]
    rfl
  · have hnone : taken.isActive lane = false ↔ ∀ i < cases, inputs.meetsIn scrutinee i lane = false := by
      rw [← Bool.not_eq_true, htakenActive lane]
      simp
    rw [hactive lane, Bool.and_eq_true, Bool.not_eq_true', hnone]

end Narrowing

/-- The cases of a switch are numbered in order, and its default arm knows their number. -/
theorem Arms.arm_of_mem_blocks {arm : Arm} {b : Block} : ∀ {arms : Arms} {k : Nat},
    (arm, b) ∈ arms.blocks k →
      (∃ j, arm = .case j ∧ j < k + arms.caseCount) ∨ arm = .default (k + arms.caseCount)
  | .nil, _, h => by cases h
  | .default _, k, h => by
    rw [Arms.blocks, List.mem_singleton, Prod.mk.injEq] at h
    exact Or.inr h.1
  | .case _ _ rest, k, h => by
    rw [Arms.blocks, List.mem_cons, Prod.mk.injEq] at h
    have hcount : k + 1 + rest.caseCount = k + (rest.caseCount + 1) := by omega
    rcases h with ⟨harm, -⟩ | h
    · exact Or.inl ⟨k, harm, by rw [Arms.caseCount]; omega⟩
    · have hrest := Arms.arm_of_mem_blocks h
      rw [hcount] at hrest
      exact hrest

section Steps

variable {inputs : MaskInputs} {parent : Mask} {width mask : Nat} {step : Step} {d : MaskDef}

/-- The mask that a step defines has the mask at the step as its parent. -/
theorem Step.parent?_of_maskDef? (h : step.maskDef? mask = some d) : d.parent? = some mask := by
  obtain ⟨e, -, hdef⟩ := Option.bind_eq_some_iff.1 h
  cases harm : step.arm <;> rw [harm] at hdef <;> cases hdef <;> rfl

/-- A condition of known outcome decides about a branch or a loop. -/
theorem Arm.narrow_ok_of_condition {arm : Arm} {cond : Span} (hparent : parent.width = width)
    (harm : arm = .thenArm ∨ arm = .elseArm ∨ arm = .body)
    (hcond : (inputs.condition cond).map Mask.width = some width)
    (hdef : arm.maskDef? mask cond = some d) :
    ∃ m, d.narrow inputs parent = .ok (some m) ∧ m.width = width ∧
      ∀ lane, m.isActive lane = true ↔
        parent.isActive lane = true ∧ arm.ChosenBy inputs cond lane := by
  rcases harm with rfl | rfl | rfl
  · cases hdef
    exact narrow_and_ok hparent hcond
  · cases hdef
    exact narrow_andNot_ok hparent hcond
  · cases hdef
    exact narrow_and_ok hparent hcond

/-- The mask behind a step has the lanes of the mask before it that choose the step. -/
theorem Step.narrow_ok {b : Block} (hblock : (step.arm, b) ∈ step.stmt.blocks)
    (hdecide : inputs.Decide width step.stmt) (hparent : parent.width = width)
    (hdef : step.maskDef? mask = some d) :
    ∃ m, d.narrow inputs parent = .ok (some m) ∧ m.width = width ∧
      ∀ lane, m.isActive lane = true ↔ parent.isActive lane = true ∧ step.Chosen inputs lane := by
  obtain ⟨index, s, arm⟩ := step
  obtain ⟨e, he, hdef⟩ := Option.bind_eq_some_iff.1 hdef
  have hchosen : ∀ lane, Step.Chosen inputs lane ⟨index, s, arm⟩ ↔ arm.ChosenBy inputs e.span lane :=
    fun lane => ⟨fun h => h e he, fun h e' he' => by cases he.symm.trans he'; exact h⟩
  simp only [hchosen]
  cases s with
  | ifThen | ifElse | whileLoop =>
    have harm : arm = .thenArm ∨ arm = .elseArm ∨ arm = .body := by
      simp only [Stmt.blocks, List.mem_cons, List.not_mem_nil, or_false, Prod.mk.injEq] at hblock
      grind
    exact Arm.narrow_ok_of_condition hparent harm (hdecide e he) hdef
  | switch span scrutinee arms =>
    cases he
    rcases Arms.arm_of_mem_blocks hblock with ⟨j, rfl, hj⟩ | rfl
    · cases hdef
      exact narrow_case_ok hparent (fun i hi => hdecide i (by omega))
    · cases hdef
      exact narrow_default_ok hparent (fun i hi => hdecide i (by omega))
  | _ => cases he

end Steps

/-! ### Evaluation -/

/-- A mask of a table evaluates to certain lanes, however many definitions beyond its own may be looked at. -/
def MaskTable.Gives (t : MaskTable) (inputs : MaskInputs) (id : Nat) (m : Mask) : Prop :=
  id < t.size ∧ ∀ fuel, id < fuel → t.evaluateWithin inputs fuel id = .ok (some m)

namespace MaskTable.Gives

variable {t : MaskTable} {inputs : MaskInputs} {id parent : Nat} {m lanes : Mask}

/-- What a table gives for a mask is its value. -/
theorem evaluate (h : t.Gives inputs id m) : t.evaluate inputs id = .ok (some m) :=
  h.2 (t.size + 1) (Nat.lt_succ_of_lt h.1)

/-- For an entry mask a table gives the input for the entry. -/
theorem of_entry {kind : EntryMask} (h : t.get? id = some (.entry kind)) :
    t.Gives inputs id (inputs.entry kind) := by
  refine ⟨(List.getElem?_eq_some_iff.1 h).1, fun fuel hfuel => ?_⟩
  cases fuel with
  | zero => omega
  | succ fuel =>
    simp only [evaluateWithin, h]
    rfl

/-- A mask that is defined after its parent evaluates to the narrowed lanes of the parent. -/
theorem of_parent {d : MaskDef} (hparent : t.Gives inputs parent m) (hget : t.get? id = some d)
    (hd : d.parent? = some parent) (hlt : parent < id) (hnarrow : d.narrow inputs m = .ok (some lanes)) :
    t.Gives inputs id lanes := by
  refine ⟨(List.getElem?_eq_some_iff.1 hget).1, fun fuel hfuel => ?_⟩
  cases fuel with
  | zero => omega
  | succ fuel =>
    have hbefore := hparent.2 fuel (by omega)
    simp only [evaluateWithin, hget, hd, hbefore]
    exact hnarrow

end MaskTable.Gives

/-- Along a way to a site, the lanes narrow to those that choose every step under a varying condition. -/
theorem Along.gives {varying : Expr → Bool} {t : MaskTable} {inputs : MaskInputs} {width : Nat}
    {path : List Step} {mask last : Nat} (h : Along varying t mask path last)
    (hblocks : ∀ step ∈ path, ∃ b, (step.arm, b) ∈ step.stmt.blocks)
    (hdecide : ∀ step ∈ path, step.isVarying varying = true → inputs.Decide width step.stmt)
    {m : Mask} (hm : t.Gives inputs mask m) (hwidth : m.width = width) :
    ∃ lanes, t.Gives inputs last lanes ∧ lanes.width = width ∧
      ∀ lane, lanes.isActive lane = true ↔ m.isActive lane = true ∧
        ∀ step ∈ path, step.isVarying varying = true → step.Chosen inputs lane := by
  induction path generalizing mask m with
  | nil =>
    rw [show last = mask from h]
    exact ⟨m, hm, hwidth, by simp⟩
  | cons step path ih =>
    obtain ⟨inner, hnarrows, hrest⟩ := h
    have hblocks' := fun other hother => hblocks other (List.mem_cons_of_mem step hother)
    have hdecide' := fun other hother => hdecide other (List.mem_cons_of_mem step hother)
    cases hvarying : step.isVarying varying with
    | false =>
      rw [Step.Narrows, hvarying] at hnarrows
      rw [show inner = mask from hnarrows] at hrest
      obtain ⟨lanes, hgives, hlanes, hactive⟩ := ih hrest hblocks' hdecide' hm hwidth
      refine ⟨lanes, hgives, hlanes, fun lane => ?_⟩
      rw [hactive lane]
      simp [hvarying]
    | true =>
      rw [Step.Narrows, if_pos hvarying] at hnarrows
      -- the step defines a mask after its parent, so evaluation has definitions enough to look at
      obtain ⟨hlt, d, hdef, hget⟩ := hnarrows
      obtain ⟨b, hb⟩ := hblocks step List.mem_cons_self
      have hstep := hdecide step List.mem_cons_self hvarying
      obtain ⟨m', hnarrow, hwidth', hactive'⟩ := Step.narrow_ok hb hstep hwidth hdef
      have hm' := hm.of_parent hget (Step.parent?_of_maskDef? hdef) hlt hnarrow
      obtain ⟨lanes, hgives, hlanes, hactive⟩ := ih hrest hblocks' hdecide' hm' hwidth'
      refine ⟨lanes, hgives, hlanes, fun lane => ?_⟩
      rw [hactive lane, hactive' lane]
      simp [hvarying, and_assoc]

/-- Whether inputs give masks of one width for the entry of a region and for all that decides between the
blocks of its statements lane by lane. -/
structure MaskInputs.Supply (inputs : MaskInputs) (varying : Expr → Bool) (kind : EntryMask)
    (sites : List Site) (width : Nat) : Prop where
  entry : (inputs.entry kind).width = width
  decide : ∀ p ∈ sites, p.stmt.decision?.any varying = true → inputs.Decide width p.stmt

/-- The mask at a statement of an accepted region evaluates to the lanes that reach the statement: those that
are active at the entry and choose, at every varying condition around the statement, the arm that it lies
in. -/
theorem Region.mask_is_reachability {r : Region} {scope : Env} {types : TypeRecord}
    {report : RegionReport} (hreport : r.analyze scope types = .ok report)
    (hspans : (r.body.sites.map fun p => p.stmt.span).Nodup) {inputs : MaskInputs} {width : Nat}
    (hinputs : inputs.Supply (fun e => types.isVaryingAt e.span) r.kind.entryMask r.body.sites width)
    {p : Site} (hp : p ∈ r.body.sites) :
    ∃ id m, report.maskAt? p.stmt.span = some id ∧ report.masks.evaluate inputs id = .ok (some m) ∧
      m.width = width ∧ ∀ lane < width, m.isActive lane = true ↔
        (inputs.entry r.kind.entryMask).isActive lane = true ∧
          ∀ step ∈ p.path, step.isVarying (fun e => types.isVaryingAt e.span) = true →
            step.Chosen inputs lane := by
  obtain ⟨-, rfl⟩ := Region.analyze_eq_ok.1 hreport
  obtain ⟨id, hmask, halong, -⟩ := Region.maskAt?_along (r.walkContext scope types) hspans hp
  -- inputs are given for the statements on the way because those are sites of the region themselves
  have hblocks : ∀ step ∈ p.path, ∃ b, (step.arm, b) ∈ step.stmt.blocks :=
    fun step hstep => Block.mem_blocks_of_step hp hstep
  have hdecide : ∀ step ∈ p.path, step.isVarying (fun e => types.isVaryingAt e.span) = true →
      inputs.Decide width step.stmt := by
    intro step hstep hvarying
    obtain ⟨outer, inner, hpath⟩ := List.append_of_mem hstep
    exact hinputs.decide _ (Block.mem_sites_of_step hp hpath) hvarying
  have hentry : (r.report (r.walkContext scope types)).masks.Gives inputs 0
      (inputs.entry r.kind.entryMask) := MaskTable.Gives.of_entry rfl
  obtain ⟨m, hgives, hwidth, hactive⟩ := halong.gives hblocks hdecide hentry hinputs.entry
  exact ⟨id, m, hmask, hgives.evaluate, hwidth, fun lane _ => hactive lane⟩

section Route

open Builder

/-- A function of one varying value whose body sends the lanes through the arms of a branch, the cases of a
switch and a loop. -/
def route : Function :=
  let build : Builder Function := do
    let again ← whileLoop (← binary .lt (← ident "x") (← int 2)) [← eval (← ident "x")]
    let choose ← switch (← ident "x")
      [([← int 1], [← eval (← ident "x")]), ([← int 2, ← int 3], [])] (some [again])
    let split ← ifElse (← binary .lt (← ident "x") (← int 4)) [choose] [← eval (← ident "x")]
    function "route" [← param "x" (← varying "int64")] none [split] false
  (build.run 0).1

/-- The signature of the function: one varying value at native width, and no result. -/
def routeSignature : Signature :=
  { params := [.varying .int64 .native], result := .void, isPublic := false, span := route.span }

/-- The environment in which the function alone is declared. -/
def routeEnv : Env :=
  { Env.initial .standard with functions := Assoc.empty.insert "route" routeSignature }

/-- Three of four lanes are active, each condition holds in all lanes but the third, and the first lane
matches the first case. -/
def routeInputs : MaskInputs where
  entry _ := ⟨[true, true, true, false]⟩
  condition _ := some ⟨[true, true, false, true]⟩
  caseMatch _ index := some ⟨[index = 0, false, false, false]⟩

/-- For a site behind three steps the report names a mask of four lanes, and it is active in those that enter
and choose all of the steps. -/
theorem Region.mask_is_reachability_route :
    ∃ types env' report r p id m, route.check routeEnv = (.ok types, env') ∧
      r ∈ route.regions routeSignature ∧ r.analyze routeEnv types = .ok report ∧
      (r.body.sites.map fun p => p.stmt.span).Nodup ∧
      routeInputs.Supply (fun e => types.isVaryingAt e.span) r.kind.entryMask r.body.sites 4 ∧
      p ∈ r.body.sites ∧ p.path.length = 3 ∧
      report.maskAt? p.stmt.span = some id ∧ report.masks.evaluate routeInputs id = .ok (some m) ∧
      m.width = 4 ∧ ∀ lane < 4, m.isActive lane = true ↔
        (routeInputs.entry r.kind.entryMask).isActive lane = true ∧
          ∀ step ∈ p.path, step.isVarying (fun e => types.isVaryingAt e.span) = true →
            step.Chosen routeInputs lane := by
  obtain ⟨types, env', report, r, hcheck, hr, hreport⟩ :
      ∃ types env' report r, route.check routeEnv = (.ok types, env') ∧
        r ∈ route.regions routeSignature ∧ r.analyze routeEnv types = .ok report :=
    Function.exists_accepted (by decide +kernel) (by decide +kernel) (by decide +kernel)
  have hspans : ∀ r ∈ route.regions routeSignature, (r.body.sites.map fun p => p.stmt.span).Nodup := by
    decide +kernel
  have hdeep : ∀ r ∈ route.regions routeSignature, ∃ p ∈ r.body.sites, p.path.length = 3 := by
    decide +kernel
  have hsupply : routeInputs.Supply (fun e => types.isVaryingAt e.span) r.kind.entryMask r.body.sites 4 := by
    refine ⟨rfl, fun p _ _ => ?_⟩
    unfold MaskInputs.Decide
    split <;> intros <;> rfl
  obtain ⟨p, hp, hpath⟩ := hdeep r hr
  obtain ⟨id, m, hmask, heval, hwidth, hactive⟩ :=
    Region.mask_is_reachability hreport (hspans r hr) hsupply hp
  exact ⟨types, env', report, r, p, id, m, hcheck, hr, hreport, hspans r hr, hsupply, hp, hpath, hmask,
    heval, hwidth, hactive⟩

end Route

end Lanewise
