import Lanewise.Lanes.Varying
import Lanewise.Proofs.LaneReach
import Mathlib.Data.Fintype.Card

/-!
# The arms of a branch split its mask

A lane that is active at a branch enters exactly one of its arms. So the masks of the arms have no lane in
common and together have the lanes of the branch, and values that are written arm by arm, each under the mask
of its arm, give the same result in whatever order the arms come.

`Mask.PickedBy` says what the arms of a conditional and those of a switch have in common: every lane picks an
arm, and the mask of an arm has the active lanes that pick it. The statements about splitting and about
writing follow from that alone. The first section is about tables in which parents may come after the masks
that narrow them: a chain of parents that ends is no longer than the table, so the definitions that an
evaluation may look at are always enough.
-/

set_option autoImplicit false

namespace Lanewise

/-! ### Chains of parents -/

namespace MaskTable

variable {t : MaskTable} {inputs : MaskInputs} {id fuel n : Nat}

/-- Whether the chain of parents of a mask ends within `fuel` definitions. -/
def Ends (t : MaskTable) : Nat → Nat → Prop
  | 0, _ => False
  | fuel + 1, id =>
    ∃ d, t.get? id = some d ∧ ∀ parent, d.parent? = some parent → t.Ends fuel parent

/-- Whether the chain of parents of a mask ends after `n` parents, and not before. -/
def EndsAt (t : MaskTable) (n id : Nat) : Prop :=
  t.Ends (n + 1) id ∧ ¬ t.Ends n id

/-- A chain of parents that ends within some definitions ends within any larger number of them. -/
theorem Ends.mono {k : Nat} (h : t.Ends fuel id) (hk : fuel ≤ k) : t.Ends k id := by
  induction fuel generalizing id k with
  | zero => exact h.elim
  | succ fuel ih =>
    obtain ⟨d, hd, hparent⟩ := h
    cases k with
    | zero => omega
    | succ k => exact ⟨d, hd, fun parent hp => ih (hparent parent hp) (by omega)⟩

/-- A mask that evaluates to lanes has a chain of parents that ends. -/
theorem ends_of_evaluateWithin {m : Mask} (h : t.evaluateWithin inputs fuel id = .ok (some m)) :
    t.Ends fuel id := by
  induction fuel generalizing id m with
  | zero => cases h
  | succ fuel ih =>
    rw [evaluateWithin] at h
    cases hget : t.get? id with
    | none =>
      rw [hget] at h
      cases h
    | some d =>
      refine ⟨d, hget, fun parent hparent => ?_⟩
      simp only [hget, hparent] at h
      cases hrest : t.evaluateWithin inputs fuel parent with
      | error e =>
        rw [hrest] at h
        cases h
      | ok lanes =>
        rw [hrest] at h
        cases lanes with
        | none => cases h
        | some lanes => exact ih hrest

/-- Evaluation does not look at more definitions than the chain of parents has. -/
theorem evaluateWithin_of_ends {k : Nat} (h : t.Ends fuel id) (hk : fuel ≤ k) :
    t.evaluateWithin inputs k id = t.evaluateWithin inputs fuel id := by
  induction fuel generalizing id k with
  | zero => exact h.elim
  | succ fuel ih =>
    obtain ⟨d, hd, hparent⟩ := h
    cases k with
    | zero => omega
    | succ k =>
      rw [evaluateWithin, evaluateWithin, hd]
      cases hp : d.parent? with
      | none => simp only [hp]
      | some parent => simp only [hp, ih (hparent parent hp) (Nat.le_of_succ_le_succ hk)]

/-- A mask whose chain of parents ends is one of the table. -/
theorem EndsAt.lt_size (h : t.EndsAt n id) : id < t.size := by
  obtain ⟨⟨d, hd, -⟩, -⟩ := h
  exact (List.getElem?_eq_some_iff.1 hd).1

/-- A chain that ends after one more parent has a parent whose own chain is one shorter. -/
theorem EndsAt.parent (h : t.EndsAt (n + 1) id) : ∃ parent, t.EndsAt n parent := by
  obtain ⟨⟨d, hd, hparent⟩, hlong⟩ := h
  cases hp : d.parent? with
  | none => exact absurd ⟨d, hd, fun parent h => by rw [hp] at h; cases h⟩ hlong
  | some parent =>
    refine ⟨parent, hparent parent hp, fun hshort => hlong ⟨d, hd, fun other hother => ?_⟩⟩
    rw [hp] at hother
    cases hother
    exact hshort

/-- Along a chain of parents every shorter length is met. -/
theorem EndsAt.exists_of_le (h : t.EndsAt n id) : ∀ k ≤ n, ∃ other, t.EndsAt k other := by
  induction n generalizing id with
  | zero =>
    intro k hk
    exact ⟨id, Nat.le_zero.1 hk ▸ h⟩
  | succ n ih =>
    intro k hk
    obtain ⟨parent, hparent⟩ := h.parent
    rcases Nat.lt_or_ge k (n + 1) with hlt | hge
    · exact ih hparent k (by omega)
    · exact ⟨id, (show k = n + 1 by omega) ▸ h⟩

/-- The masks on a chain of parents end after different numbers of parents. So no mask comes twice, and the
chain is no longer than the table. -/
theorem EndsAt.lt_of_table (h : t.EndsAt n id) : n < t.size := by
  choose mask hmask using h.exists_of_le
  let place : Fin (n + 1) → Fin t.size := fun k =>
    ⟨mask k (Nat.le_of_lt_succ k.isLt), (hmask k (Nat.le_of_lt_succ k.isLt)).lt_size⟩
  have hne : ∀ i j : Fin (n + 1), i < j → place i ≠ place j := by
    intro i j hij heq
    have hi := hmask i (Nat.le_of_lt_succ i.isLt)
    have hj := hmask j (Nat.le_of_lt_succ j.isLt)
    rw [← Fin.mk.inj heq] at hj
    exact hj.2 (hi.1.mono hij)
  have hinj : Function.Injective place := by
    intro i j heq
    rcases lt_trichotomy i j with hlt | rfl | hlt
    · exact absurd heq (hne i j hlt)
    · rfl
    · exact absurd heq.symm (hne j i hlt)
  have hcard := Fintype.card_le_of_injective place hinj
  simp only [Fintype.card_fin] at hcard
  omega

/-- A chain of parents that ends does so within as many definitions as the table has. -/
theorem Ends.within_size (h : t.Ends fuel id) : t.Ends t.size id := by
  induction fuel with
  | zero => exact h.elim
  | succ fuel ih =>
    by_cases hshort : t.Ends fuel id
    · exact ih hshort
    · have hat : t.EndsAt fuel id := ⟨h, hshort⟩
      exact h.mono hat.lt_of_table

/-- A mask evaluates to what its definition makes of the lanes of its parent, wherever the two stand in the
table. -/
theorem evaluate_of_parent {parent : Nat} {p : Mask} {d : MaskDef}
    (hparent : t.evaluate inputs parent = .ok (some p)) (hget : t.get? id = some d)
    (hd : d.parent? = some parent) : t.evaluate inputs id = d.narrow inputs p := by
  have hends := (ends_of_evaluateWithin hparent).within_size
  have hbefore : t.evaluateWithin inputs t.size parent = .ok (some p) := by
    rw [← evaluateWithin_of_ends hends (Nat.le_succ _)]
    exact hparent
  rw [evaluate, evaluateWithin]
  simp only [hget, hd, hbefore]
  rfl

end MaskTable

/-! ### Masks of which every lane picks one -/

namespace Mask

/-- Masks are equal if they have the same width and the same active lanes. -/
theorem ext_isActive {a b : Mask} (hwidth : a.width = b.width)
    (h : ∀ lane, a.isActive lane = b.isActive lane) : a = b := by
  obtain ⟨as⟩ := a
  obtain ⟨bs⟩ := b
  simp only [width, isActive, List.getD_eq_getElem?_getD] at hwidth h
  congr 1
  apply List.ext_getElem hwidth
  intro i ha hb
  have hi := h i
  rw [List.getElem?_eq_getElem ha, List.getElem?_eq_getElem hb] at hi
  exact hi

/-- The union of masks of one width has the lanes of each of them. -/
theorem foldlM_or_ok {arms : List Mask} {acc : Mask} (hwidth : ∀ a ∈ arms, a.width = acc.width) :
    ∃ m, arms.foldlM or acc = .ok m ∧ m.width = acc.width ∧
      ∀ lane, m.isActive lane = true ↔
        acc.isActive lane = true ∨ ∃ a ∈ arms, a.isActive lane = true := by
  induction arms generalizing acc with
  | nil => exact ⟨acc, rfl, rfl, fun lane => by simp⟩
  | cons a rest ih =>
    obtain ⟨both, hboth, hbothWidth, hbothActive⟩ :=
      or_ok (hwidth a List.mem_cons_self).symm
    have hrest : ∀ b ∈ rest, b.width = both.width := fun b hb => by
      rw [hbothWidth, hwidth b (List.mem_cons_of_mem a hb)]
    obtain ⟨m, hm, hmWidth, hmActive⟩ := ih hrest
    refine ⟨m, ?_, hmWidth.trans hbothWidth, fun lane => ?_⟩
    · rw [List.foldlM_cons, hboth]
      exact hm
    · rw [hmActive lane, hbothActive lane, Bool.or_eq_true]
      simp [or_assoc]

/-- Whether masks have no lane in common and together have the lanes of another one. -/
structure SplitsInto (p : Mask) (arms : List Mask) : Prop where
  disjoint : arms.Pairwise fun a b => a.and b = .ok (.none p.width)
  union : arms.foldlM or (.none p.width) = .ok p

/-- Whether every lane picks one of `n` arms, and the mask of each arm has those lanes of `p` that pick it. -/
structure PickedBy (p : Mask) (n : Nat) (arm : Nat → Mask) (pick : Nat → Nat) : Prop where
  pick_lt : ∀ lane, pick lane < n
  width : ∀ j < n, (arm j).width = p.width
  active : ∀ j < n, ∀ lane, (arm j).isActive lane = true ↔ p.isActive lane = true ∧ pick lane = j

namespace PickedBy

variable {p : Mask} {n : Nat} {arm : Nat → Mask} {pick : Nat → Nat}

/-- The masks of two different arms have no lane in common. -/
theorem and_eq_none (h : p.PickedBy n arm pick) {i j : Nat} (hi : i < n) (hj : j < n) (hne : i ≠ j) :
    (arm i).and (arm j) = .ok (.none p.width) := by
  obtain ⟨m, hm, hwidth, hactive⟩ := and_ok ((h.width i hi).trans (h.width j hj).symm)
  have hnone : m = .none p.width := by
    apply ext_isActive
    · rw [hwidth, h.width i hi, width_none]
    · intro lane
      rw [isActive_none, hactive lane, Bool.eq_false_iff]
      intro hboth
      rw [Bool.and_eq_true, h.active i hi, h.active j hj] at hboth
      exact hne (hboth.1.2.symm.trans hboth.2.2)
  rw [hm, hnone]

/-- Masks of which every lane picks one split the mask that they are taken from. -/
theorem splitsInto (h : p.PickedBy n arm pick) : p.SplitsInto ((List.range n).map arm) := by
  constructor
  · rw [List.pairwise_map]
    refine List.pairwise_lt_range.imp_of_mem fun hi hj hlt => ?_
    exact h.and_eq_none (List.mem_range.1 hi) (List.mem_range.1 hj) (Nat.ne_of_lt hlt)
  · have hwidth : ∀ a ∈ (List.range n).map arm, a.width = (Mask.none p.width).width := by
      intro a ha
      obtain ⟨j, hj, rfl⟩ := List.mem_map.1 ha
      rw [width_none, h.width j (List.mem_range.1 hj)]
    obtain ⟨m, hm, hmWidth, hmActive⟩ := foldlM_or_ok hwidth
    have hp : m = p := by
      apply ext_isActive
      · rw [hmWidth, width_none]
      · intro lane
        rw [Bool.eq_iff_iff, hmActive lane, isActive_none]
        constructor
        · rintro (hfalse | ⟨a, ha, hactive⟩)
          · cases hfalse
          · obtain ⟨j, hj, rfl⟩ := List.mem_map.1 ha
            exact ((h.active j (List.mem_range.1 hj) lane).1 hactive).1
        · intro hactive
          have hpick := h.pick_lt lane
          exact Or.inr ⟨_, List.mem_map_of_mem (List.mem_range.2 hpick),
            (h.active _ hpick lane).2 ⟨hactive, rfl⟩⟩
    rw [hm, hp]

end PickedBy

end Mask

/-! ### Writing under masks -/

namespace Varying

variable {α : Type} {v w x : Varying α} {m : Mask}

/-- Reading a lane looks at the width and at that lane only. -/
theorem get_congr {lane : Nat} (hwidth : v.width = w.width) (h : v.lanes[lane]? = w.lanes[lane]?) :
    v.get lane = w.get lane := by
  rw [get, get, h, hwidth]

/-- Blending keeps the number of lanes. -/
theorem length_blendLanes (olds news : List α) (mask : List Bool) (hnews : news.length = olds.length)
    (hmask : mask.length = olds.length) : (blendLanes olds news mask).length = olds.length := by
  fun_induction blendLanes olds news mask with
  | case1 old olds new news active mask ih =>
    simp only [List.length_cons, Nat.add_right_cancel_iff] at hnews hmask ⊢
    exact ih hnews hmask
  | case2 olds news mask hshort =>
    cases olds with
    | nil => rfl
    | cons old olds =>
      obtain ⟨new, news, rfl⟩ := List.exists_cons_of_length_eq_add_one hnews
      obtain ⟨active, mask, rfl⟩ := List.exists_cons_of_length_eq_add_one hmask
      exact absurd rfl (hshort old olds new news active mask rfl rfl)

/-- A blended lane holds the new value where the mask is active and the old one elsewhere. -/
theorem getElem?_blendLanes (olds news : List α) (mask : List Bool) (hnews : news.length = olds.length)
    (hmask : mask.length = olds.length) (lane : Nat) :
    (blendLanes olds news mask)[lane]? =
      if mask.getD lane false then news[lane]? else olds[lane]? := by
  fun_induction blendLanes olds news mask generalizing lane with
  | case1 old olds new news active mask ih =>
    simp only [List.length_cons, Nat.add_right_cancel_iff] at hnews hmask
    cases lane with
    | zero => cases active <;> rfl
    | succ lane => exact ih hnews hmask lane
  | case2 olds news mask hshort =>
    cases olds with
    | nil =>
      rw [List.eq_nil_of_length_eq_zero hnews]
      simp
    | cons old olds =>
      obtain ⟨new, news, rfl⟩ := List.exists_cons_of_length_eq_add_one hnews
      obtain ⟨active, mask, rfl⟩ := List.exists_cons_of_length_eq_add_one hmask
      exact absurd rfl (hshort old olds new news active mask rfl rfl)

/-- A masked write succeeds on operands of one width, and it changes the active lanes only. -/
theorem blend_ok (hx : x.width = v.width) (hm : m.width = v.width) :
    ∃ w, v.blend x m = .ok w ∧ w.width = v.width ∧
      ∀ lane, w.lanes[lane]? = if m.isActive lane then x.lanes[lane]? else v.lanes[lane]? := by
  refine ⟨⟨blendLanes v.lanes x.lanes m.lanes⟩, ?_, ?_, ?_⟩
  · simp only [blend, sameWidth, if_pos hx.symm, if_pos hm.symm]
    rfl
  · exact length_blendLanes _ _ _ hx hm
  · exact getElem?_blendLanes _ _ _ hx hm

end Varying

namespace Mask.PickedBy

variable {α : Type} {p : Mask} {n : Nat} {arm : Nat → Mask} {pick : Nat → Nat} {v : Varying α}
  {x : Nat → Varying α}

/-- After writes under the masks of some arms, an active lane that picked one of them has the value of that
arm, and every other lane is as it was. -/
theorem foldlM_blend (h : p.PickedBy n arm pick) (hx : ∀ j < n, (x j).width = p.width)
    {order : List Nat} (horder : ∀ j ∈ order, j < n) (hv : v.width = p.width) :
    ∃ r, order.foldlM (fun w j => w.blend (x j) (arm j)) v = .ok r ∧ r.width = p.width ∧
      ∀ lane, r.lanes[lane]? =
        if p.isActive lane = true ∧ pick lane ∈ order then (x (pick lane)).lanes[lane]?
        else v.lanes[lane]? := by
  induction order generalizing v with
  | nil => exact ⟨v, rfl, hv, fun lane => by simp⟩
  | cons j rest ih =>
    have hj := horder j List.mem_cons_self
    obtain ⟨w, hw, hwWidth, hwLanes⟩ :=
      Varying.blend_ok ((hx j hj).trans hv.symm) ((h.width j hj).trans hv.symm)
    obtain ⟨r, hr, hrWidth, hrLanes⟩ :=
      ih (fun i hi => horder i (List.mem_cons_of_mem j hi)) (hwWidth.trans hv)
    refine ⟨r, ?_, hrWidth, fun lane => ?_⟩
    · rw [List.foldlM_cons, hw]
      exact hr
    · -- a later write to the lane is one of the same arm, because a lane picks only one
      have hhere := h.active j hj lane
      rw [hrLanes lane, hwLanes lane]
      by_cases hactive : p.isActive lane = true
      · by_cases hpick : pick lane = j
        · have harm : (arm j).isActive lane = true := hhere.2 ⟨hactive, hpick⟩
          simp [hactive, harm, hpick]
        · have harm : ¬ (arm j).isActive lane = true := fun hon => hpick (hhere.1 hon).2
          simp [hactive, harm, hpick]
      · have harm : ¬ (arm j).isActive lane = true := fun hon => hactive (hhere.1 hon).1
        simp [hactive, harm]

/-- Writes under the masks of all arms give the same result in every order: an active lane has the value of
the arm that it picked, and every other lane is as it was. -/
theorem blend_in_any_order (h : p.PickedBy n arm pick) (hx : ∀ j < n, (x j).width = p.width)
    (hv : v.width = p.width) :
    ∃ r, (∀ order : List Nat, order.Perm (List.range n) →
        order.foldlM (fun w j => w.blend (x j) (arm j)) v = .ok r) ∧
      ∀ lane, r.get lane = if p.isActive lane then (x (pick lane)).get lane else v.get lane := by
  obtain ⟨r, -, hrWidth, hrLanes⟩ := h.foldlM_blend hx (fun j => List.mem_range.1) hv
  have hvalue : ∀ lane, r.lanes[lane]? =
      if p.isActive lane then (x (pick lane)).lanes[lane]? else v.lanes[lane]? := by
    intro lane
    rw [hrLanes lane]
    simp [h.pick_lt lane]
  refine ⟨r, fun order hperm => ?_, fun lane => ?_⟩
  · have horder : ∀ j ∈ order, j < n := fun j hj => List.mem_range.1 (hperm.mem_iff.1 hj)
    obtain ⟨r', hr', -, hrLanes'⟩ := h.foldlM_blend hx horder hv
    have heq : r'.lanes = r.lanes := by
      apply List.ext_getElem?
      intro lane
      simp only [hrLanes' lane, hrLanes lane, hperm.mem_iff]
    rw [hr', show r' = r from congrArg Varying.mk heq]
  · have hpick := hx _ (h.pick_lt lane)
    have hlane := hvalue lane
    split at hlane
    · rw [if_pos ‹_›]
      exact Varying.get_congr (hrWidth.trans hpick.symm) hlane
    · rw [if_neg ‹_›]
      exact Varying.get_congr (hrWidth.trans hv.symm) hlane

end Mask.PickedBy

/-! ### Conditionals and switches -/

namespace MaskInputs

variable {inputs : MaskInputs} {scrutinee : Span} {cases lane : Nat}

/-- The arm that a lane enters of a switch with the given number of cases: the first case that it matches, or
else the default arm, which counts as the last one. -/
def armOf (inputs : MaskInputs) (scrutinee : Span) (cases lane : Nat) : Nat :=
  ((List.range cases).find? fun j => inputs.meetsIn scrutinee j lane).getD cases

/-- A lane takes a case exactly if it meets that one and none before it. -/
theorem armOf_eq_case {j : Nat} (hj : j < cases) :
    inputs.armOf scrutinee cases lane = j ↔
      inputs.meetsIn scrutinee j lane = true ∧ ∀ i < j, inputs.meetsIn scrutinee i lane = false := by
  unfold armOf
  cases hfind : (List.range cases).find? fun j => inputs.meetsIn scrutinee j lane with
  | none =>
    rw [List.find?_range_eq_none] at hfind
    have hnot := hfind j hj
    constructor
    · intro h
      exact absurd h (by simp; omega)
    · rintro ⟨hmeets, -⟩
      simp [hmeets] at hnot
  | some first =>
    obtain ⟨hmeets, -, hbefore⟩ := List.find?_range_eq_some.1 hfind
    simp only [Bool.not_eq_true'] at hbefore
    constructor
    · rintro rfl
      exact ⟨hmeets, hbefore⟩
    · rintro ⟨hj', hbefore'⟩
      show first = j
      rcases Nat.lt_trichotomy first j with hlt | heq | hlt
      · rw [hbefore' first hlt] at hmeets
        cases hmeets
      · exact heq
      · rw [hbefore j hlt] at hj'
        cases hj'

/-- A lane takes the default exactly if it meets no case. -/
theorem armOf_eq_default :
    inputs.armOf scrutinee cases lane = cases ↔
      ∀ i < cases, inputs.meetsIn scrutinee i lane = false := by
  unfold armOf
  cases hfind : (List.range cases).find? fun j => inputs.meetsIn scrutinee j lane with
  | none => simpa using hfind
  | some first =>
    obtain ⟨hmeets, hfirst, -⟩ := List.find?_range_eq_some.1 hfind
    rw [List.mem_range] at hfirst
    constructor
    · intro h
      exact absurd h (Nat.ne_of_lt hfirst)
    · intro hnone
      rw [hnone first hfirst] at hmeets
      cases hmeets

/-- Every lane takes one of the cases or the default. -/
theorem armOf_lt : inputs.armOf scrutinee cases lane < cases + 1 := by
  unfold armOf
  cases hfind : (List.range cases).find? fun j => inputs.meetsIn scrutinee j lane with
  | none => exact Nat.lt_succ_self cases
  | some first =>
    have hfirst := List.mem_range.1 (List.mem_of_find?_eq_some hfind)
    exact Nat.lt_succ_of_lt hfirst

end MaskInputs

namespace MaskTable

variable {t : MaskTable} {inputs : MaskInputs} {parent : Nat} {p : Mask}

/-- The arms of a conditional are picked by its condition. -/
theorem evaluate_conditional (hparent : t.evaluate inputs parent = .ok (some p)) {cond : Span}
    {thenId elseId : Nat} (hthen : t.get? thenId = some (.and parent cond))
    (helse : t.get? elseId = some (.andNot parent cond))
    (hcond : (inputs.condition cond).map Mask.width = some p.width) :
    ∃ a b, t.evaluate inputs thenId = .ok (some a) ∧ t.evaluate inputs elseId = .ok (some b) ∧
      p.PickedBy 2 (fun j => if j = 0 then a else b)
        (fun lane => if inputs.holdsIn cond lane then 0 else 1) := by
  obtain ⟨a, ha, haWidth, haActive⟩ := @narrow_and_ok _ _ _ _ parent rfl hcond
  obtain ⟨b, hb, hbWidth, hbActive⟩ := @narrow_andNot_ok _ _ _ _ parent rfl hcond
  refine ⟨a, b, ?_, ?_, ?_, ?_, ?_⟩
  · rw [evaluate_of_parent hparent hthen rfl, ha]
  · rw [evaluate_of_parent hparent helse rfl, hb]
  · intro lane
    split <;> omega
  · intro j hj
    split
    · exact haWidth
    · exact hbWidth
  · intro j hj lane
    obtain rfl | rfl : j = 0 ∨ j = 1 := by omega
    · simp [haActive lane]
    · simp [hbActive lane]

/-- The arms of a switch are picked by the first case that matches. -/
theorem evaluate_switch (hparent : t.evaluate inputs parent = .ok (some p)) {scrutinee : Span}
    {cases : Nat} {arm : Nat → Nat}
    (hcase : ∀ j < cases, t.get? (arm j) = some (.case parent scrutinee j))
    (hdefault : t.get? (arm cases) = some (.default parent scrutinee cases))
    (hmatches : ∀ j < cases, (inputs.caseMatch scrutinee j).map Mask.width = some p.width) :
    ∃ m : Nat → Mask, (∀ j < cases + 1, t.evaluate inputs (arm j) = .ok (some (m j))) ∧
      p.PickedBy (cases + 1) m (inputs.armOf scrutinee cases) := by
  have harm : ∀ j < cases + 1, ∃ m, t.evaluate inputs (arm j) = .ok (some m) ∧ m.width = p.width ∧
      ∀ lane, m.isActive lane = true ↔
        p.isActive lane = true ∧ inputs.armOf scrutinee cases lane = j := by
    intro j hj
    rcases Nat.lt_or_eq_of_le (Nat.le_of_lt_succ hj) with hlt | rfl
    · obtain ⟨m, hm, hwidth, hactive⟩ := @narrow_case_ok _ _ _ _ parent j rfl
        (fun i hi => hmatches i (by omega))
      refine ⟨m, ?_, hwidth, fun lane => ?_⟩
      · rw [evaluate_of_parent hparent (hcase j hlt) rfl, hm]
      · rw [hactive lane, MaskInputs.armOf_eq_case hlt]
    · obtain ⟨m, hm, hwidth, hactive⟩ := @narrow_default_ok _ _ _ _ parent _ rfl hmatches
      refine ⟨m, ?_, hwidth, fun lane => ?_⟩
      · rw [evaluate_of_parent hparent hdefault rfl, hm]
      · rw [hactive lane, MaskInputs.armOf_eq_default]
  have : Nonempty Mask := ⟨p⟩
  choose! m heval hwidth hactive using harm
  exact ⟨m, heval, fun _ => MaskInputs.armOf_lt, hwidth, hactive⟩

/-- The arms of a conditional and those of a switch over any number of cases split the mask of the branch, and
writing a value in every arm gives, in whatever order the arms come, each active lane the value of the arm
that it enters and leaves the other lanes as they were. -/
theorem arms_partition (hparent : t.evaluate inputs parent = .ok (some p)) :
    (∀ (cond : Span) (thenId elseId : Nat), t.get? thenId = some (.and parent cond) →
      t.get? elseId = some (.andNot parent cond) →
      (inputs.condition cond).map Mask.width = some p.width →
      ∃ a b, t.evaluate inputs thenId = .ok (some a) ∧ t.evaluate inputs elseId = .ok (some b) ∧
        p.SplitsInto [a, b] ∧
        ∀ {α : Type} (v x y : Varying α), v.width = p.width → x.width = p.width → y.width = p.width →
          ∃ r, (v.blend x a >>= fun w => w.blend y b) = .ok r ∧
            (v.blend y b >>= fun w => w.blend x a) = .ok r ∧
            ∀ lane, r.get lane =
              if p.isActive lane then
                if inputs.holdsIn cond lane then x.get lane else y.get lane
              else v.get lane) ∧
    (∀ (scrutinee : Span) (cases : Nat) (arm : Nat → Nat),
      (∀ j < cases, t.get? (arm j) = some (.case parent scrutinee j)) →
      t.get? (arm cases) = some (.default parent scrutinee cases) →
      (∀ j < cases, (inputs.caseMatch scrutinee j).map Mask.width = some p.width) →
      ∃ m : Nat → Mask, (∀ j < cases + 1, t.evaluate inputs (arm j) = .ok (some (m j))) ∧
        p.SplitsInto ((List.range (cases + 1)).map m) ∧
        ∀ {α : Type} (v : Varying α) (x : Nat → Varying α), v.width = p.width →
          (∀ j < cases + 1, (x j).width = p.width) →
          ∃ r, (∀ order : List Nat, order.Perm (List.range (cases + 1)) →
              order.foldlM (fun w j => w.blend (x j) (m j)) v = .ok r) ∧
            ∀ lane, r.get lane =
              if p.isActive lane then (x (inputs.armOf scrutinee cases lane)).get lane
              else v.get lane) := by
  constructor
  · intro cond thenId elseId hthen helse hcond
    obtain ⟨a, b, ha, hb, hpicked⟩ := evaluate_conditional hparent hthen helse hcond
    refine ⟨a, b, ha, hb, hpicked.splitsInto, fun v x y hv hx hy => ?_⟩
    have hwidths : ∀ j < 2, (if j = 0 then x else y).width = p.width := by
      intro j _
      split
      · exact hx
      · exact hy
    obtain ⟨r, horder, hlanes⟩ :=
      hpicked.blend_in_any_order (x := fun j => if j = 0 then x else y) hwidths hv
    refine ⟨r, ?_, ?_, fun lane => ?_⟩
    · simpa using horder [0, 1] (List.Perm.refl _)
    · simpa using horder [1, 0] (List.Perm.swap 0 1 [])
    · rw [hlanes lane]
      cases inputs.holdsIn cond lane <;> rfl
  · intro scrutinee cases arm hcase hdefault hmatches
    obtain ⟨m, heval, hpicked⟩ := evaluate_switch hparent hcase hdefault hmatches
    exact ⟨m, heval, hpicked.splitsInto, fun v x hv hx => hpicked.blend_in_any_order hx hv⟩

section Overlap

/-- A switch over two cases whose arms stand in the table before the mask that they narrow. -/
def overlapTable : MaskTable :=
  let scrutinee := Span.between 0 1
  ⟨[.case 3 scrutinee 0, .case 3 scrutinee 1, .default 3 scrutinee 2, .entry .inherited]⟩

/-- Three of four lanes are active. The first lane matches both cases, the second only the second case, and the
third matches none. -/
def overlapInputs : MaskInputs where
  entry _ := ⟨[true, true, true, false]⟩
  condition _ := none
  caseMatch _ index :=
    some (if index = 0 then ⟨[true, false, false, true]⟩ else ⟨[true, true, false, false]⟩)

/-- Three arms under a partial mask, of which two overlap: each lane is written by the first arm that it
meets, in either order of blending, and the inactive lane keeps its value. -/
theorem arms_partition_overlap :
    overlapTable.evaluate overlapInputs 3 = .ok (some ⟨[true, true, true, false]⟩) ∧
      ∃ m : Nat → Mask, (∀ j < 3, overlapTable.evaluate overlapInputs j = .ok (some (m j))) ∧
        Mask.SplitsInto ⟨[true, true, true, false]⟩ ((List.range 3).map m) ∧
        ∃ r,
          [2, 0, 1].foldlM (fun (w : Varying Nat) j => w.blend (.splat (j + 1) 4) (m j))
              (.splat 0 4) = .ok r ∧
            [1, 2, 0].foldlM (fun (w : Varying Nat) j => w.blend (.splat (j + 1) 4) (m j))
              (.splat 0 4) = .ok r ∧
            r.get 0 = .ok 1 ∧ r.get 1 = .ok 2 ∧ r.get 2 = .ok 3 ∧ r.get 3 = .ok 0 := by
  have hparent : overlapTable.evaluate overlapInputs 3 = .ok (some ⟨[true, true, true, false]⟩) := rfl
  have hcase : ∀ j < 2, overlapTable.get? j = some (.case 3 (Span.between 0 1) j) := by decide
  have hmatches : ∀ j < 2, (overlapInputs.caseMatch (Span.between 0 1) j).map Mask.width = some 4 := by
    decide
  obtain ⟨m, heval, hsplits, hblend⟩ :=
    (arms_partition hparent).2 (Span.between 0 1) 2 (fun j => j) hcase rfl hmatches
  obtain ⟨r, horder, hlanes⟩ := hblend (.splat 0 4) (fun j => .splat (j + 1) 4) rfl fun _ _ => rfl
  exact ⟨hparent, m, heval, hsplits, r, horder _ (by decide), horder _ (by decide),
    hlanes 0, hlanes 1, hlanes 2, hlanes 3⟩

end Overlap

end MaskTable

end Lanewise
