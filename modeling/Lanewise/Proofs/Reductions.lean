import Lanewise.Lanes.Reduce
import Lanewise.Proofs.ActiveLanes
import Lanewise.Proofs.ArmMasks

/-!
# Reductions under masks

The reductions of integers and of booleans are associative and commutative, and their units add nothing: for the
greatest and the least word these are the ends of the range of the type. This is all that is used of them here
(`Reduction.Lawful`), so what follows holds for every such operation.

An inactive lane may then be filled with the unit: the reduction of what results, over all lanes, is the reduction
under the mask (`Reduction.Lawful.run_fill`). Two masks without a common lane fill the lanes so that they combine,
lane by lane, to the lanes of their union, however the two interleave. So a mask can be split, and the reductions
under its parts combine to the reduction under the whole.
-/

set_option autoImplicit false

namespace Lanewise

/-! ### The order of words -/

namespace Word

variable {k : IntKind}

/-- Words with the same value are the same. -/
theorem value_inj {a b : Word k} : value a = value b ↔ a = b := by
  unfold value
  cases k.isSigned
  · exact Int.ofNat_inj.trans BitVec.toNat_inj
  · exact BitVec.toInt_inj

/-- The larger word has the larger value. -/
theorem value_max (a b : Word k) : value (max a b) = Max.max (value a) (value b) := by
  unfold max
  by_cases h : value a < value b
  · rw [if_pos h, Int.max_eq_right (Int.le_of_lt h)]
  · rw [if_neg h, Int.max_eq_left (Int.not_lt.1 h)]

/-- The smaller word has the smaller value. -/
theorem value_min (a b : Word k) : value (min a b) = Min.min (value a) (value b) := by
  unfold min
  by_cases h : value b < value a
  · rw [if_pos h, Int.min_eq_right (Int.le_of_lt h)]
  · rw [if_neg h, Int.min_eq_left (Int.not_lt.1 h)]

/-- No word has a value below that of the lowest one. -/
theorem value_lowest_le (a : Word k) : value (lowest k) ≤ value a := by
  unfold value lowest
  cases k.isSigned
  · simp
  · simpa using BitVec.toInt_intMin_le a

/-- No word has a value above that of the highest one. -/
theorem le_value_highest (a : Word k) : value a ≤ value (highest k) := by
  unfold value highest
  cases k.isSigned
  · have hlt := a.isLt
    simp only [Bool.false_eq_true, if_false, BitVec.toNat_allOnes]
    omega
  · simpa [BitVec.toInt_intMax] using @BitVec.toInt_le _ a

end Word

/-! ### Laws -/

/-- Whether the order and the grouping of the lanes make no difference to a reduction, and its unit adds nothing. -/
structure Reduction.Lawful {α : Type} (r : Reduction α) : Prop where
  assoc : Std.Associative r.op
  comm : Std.Commutative r.op
  op_unit : ∀ a, r.op a r.unit = a

/-- Every reduction of integers of one kind is lawful. -/
theorem IntReduction.lawful (k : IntKind) (r : IntReduction) : (r.reduction k).Lawful := by
  cases r with
  | add => exact ⟨⟨BitVec.add_assoc⟩, ⟨BitVec.add_comm⟩, BitVec.add_zero⟩
  | mul => exact ⟨⟨BitVec.mul_assoc⟩, ⟨BitVec.mul_comm⟩, BitVec.mul_one⟩
  | max =>
    refine ⟨⟨fun a b c => ?_⟩, ⟨fun a b => ?_⟩, fun a => ?_⟩
    · apply Word.value_inj.1
      simp only [IntReduction.reduction, Word.value_max, Int.max_assoc]
    · apply Word.value_inj.1
      simp only [IntReduction.reduction, Word.value_max, Int.max_comm]
    · apply Word.value_inj.1
      simp only [IntReduction.reduction, Word.value_max, Int.max_eq_left (Word.value_lowest_le a)]
  | min =>
    refine ⟨⟨fun a b c => ?_⟩, ⟨fun a b => ?_⟩, fun a => ?_⟩
    · apply Word.value_inj.1
      simp only [IntReduction.reduction, Word.value_min, Int.min_assoc]
    · apply Word.value_inj.1
      simp only [IntReduction.reduction, Word.value_min, Int.min_comm]
    · apply Word.value_inj.1
      simp only [IntReduction.reduction, Word.value_min, Int.min_eq_left (Word.le_value_highest a)]
  | or => exact ⟨⟨BitVec.or_assoc⟩, ⟨BitVec.or_comm⟩, fun _ => BitVec.or_zero⟩
  | and => exact ⟨⟨BitVec.and_assoc⟩, ⟨BitVec.and_comm⟩, fun _ => BitVec.and_allOnes⟩
  | xor => exact ⟨⟨BitVec.xor_assoc⟩, ⟨BitVec.xor_comm⟩, fun _ => BitVec.xor_zero⟩

/-- Every reduction of booleans is lawful. -/
theorem BoolReduction.lawful (r : BoolReduction) : r.reduction.Lawful := by
  cases r with
  | or => exact ⟨⟨Bool.or_assoc⟩, ⟨Bool.or_comm⟩, Bool.or_false⟩
  | and => exact ⟨⟨Bool.and_assoc⟩, ⟨Bool.and_comm⟩, Bool.and_true⟩
  | xor => exact ⟨⟨Bool.xor_assoc⟩, ⟨Bool.xor_comm⟩, Bool.xor_false⟩

namespace Reduction

variable {α : Type} {r : Reduction α} {v : Varying α} {m : Mask}

/-! ### What a reduction folds -/

/-- A reduction folds the values in active lanes, whatever its operation is. -/
theorem run_eq_foldl (r : Reduction α) (h : m.width = v.width) :
    r.run v m = .ok ((m.select v.lanes).foldl r.op r.unit) := by
  rw [run, sameWidth, if_pos h.symm, Mask.select, List.foldl_map, List.foldl_filter]
  rfl

/-- A reduction folds what the value holds in the lanes that are listed as active. -/
theorem run_eq_foldl_activeLanes (r : Reduction α) (h : m.width = v.width) :
    r.run v m = .ok ((m.activeLanes.filterMap fun lane => v.lanes[lane]?).foldl r.op r.unit) := by
  rw [Mask.filterMap_activeLanes]
  exact run_eq_foldl r h

/-- A mask must have as many lanes as the value. -/
theorem run_of_width_ne (r : Reduction α) (h : m.width ≠ v.width) :
    r.run v m = .error (.widthMismatch v.width m.width) := by
  rw [run, sameWidth, if_neg h.symm]
  rfl

/-- Over all lanes a reduction folds all values. -/
theorem run_all (r : Reduction α) (v : Varying α) :
    r.run v (.all v.width) = .ok (v.lanes.foldl r.op r.unit) := by
  rw [run_eq_foldl r (Mask.width_all v.width), Varying.width, Mask.select_all]

/-- The value with the unit in every lane that is not active. -/
def fill (r : Reduction α) (v : Varying α) (m : Mask) : Varying α :=
  ⟨List.zipWith (fun x active => if active then x else r.unit) v.lanes m.lanes⟩

/-- Filling the inactive lanes keeps the width. -/
theorem width_fill (r : Reduction α) (h : m.width = v.width) : (r.fill v m).width = v.width := by
  unfold Mask.width Varying.width at h
  simp [fill, Varying.width, h]

/-- A filled lane keeps its value if it is active, and holds the unit otherwise. -/
theorem getElem?_fill (r : Reduction α) (h : m.width = v.width) (lane : Nat) :
    (r.fill v m).lanes[lane]? =
      v.lanes[lane]?.map fun x => if m.isActive lane then x else r.unit := by
  unfold Mask.width Varying.width at h
  rw [fill, List.getElem?_zipWith, Mask.isActive, List.getD_eq_getElem?_getD]
  by_cases hlane : lane < v.lanes.length
  · rw [List.getElem?_eq_getElem hlane, List.getElem?_eq_getElem (h ▸ hlane)]
    rfl
  · rw [List.getElem?_eq_none (Nat.le_of_not_lt hlane)]
    rfl

/-- Filling the inactive lanes is writing the value under the mask to lanes that hold the unit. -/
theorem blend_splat (r : Reduction α) (h : m.width = v.width) :
    (Varying.splat r.unit v.width).blend v m = .ok (r.fill v m) := by
  have hsplat : (Varying.splat r.unit v.width).width = v.width := List.length_replicate
  obtain ⟨w, hw, -, hlanes⟩ := Varying.blend_ok hsplat.symm (h.trans hsplat.symm)
  have hfill : w.lanes = (r.fill v m).lanes := by
    apply List.ext_getElem?
    intro lane
    rw [hlanes lane, getElem?_fill r h, Varying.splat, List.getElem?_replicate]
    by_cases hlane : lane < v.width
    · rw [List.getElem?_eq_getElem hlane, if_pos hlane]
      cases m.isActive lane <;> rfl
    · rw [List.getElem?_eq_none (Nat.le_of_not_lt hlane), if_neg hlane, ite_self]
      rfl
  rw [hw]
  exact congrArg (fun lanes => Except.ok (Varying.mk lanes)) hfill

namespace Lawful

/-- A lane that holds the unit may be left out of a fold. -/
theorem foldl_fill (h : r.Lawful) (values : List α) (mask : List Bool) (acc : α) :
    (List.zipWith (fun x active => if active then x else r.unit) values mask).foldl r.op acc =
      (Mask.select ⟨mask⟩ values).foldl r.op acc := by
  induction values generalizing mask acc with
  | nil => simp
  | cons x rest ih =>
    cases mask with
    | nil => simp [Mask.select]
    | cons active mask =>
      rw [List.zipWith_cons_cons, List.foldl_cons, ih, Mask.select_cons]
      cases active
      · simp [h.op_unit]
      · simp

/-- An inactive lane counts as one that holds the unit. -/
theorem run_fill (h : r.Lawful) (hm : m.width = v.width) :
    r.run (r.fill v m) (.all v.width) = r.run v m := by
  have hall := r.run_all (r.fill v m)
  rw [width_fill r hm] at hall
  rw [hall, run_eq_foldl r hm]
  exact congrArg Except.ok (h.foldl_fill v.lanes m.lanes r.unit)

/-! ### Two masks -/

/-- Folding two lists at once, element by element, is folding each of them. -/
theorem foldl_zipWith (h : r.Lawful) {xs ys : List α} (hlen : xs.length = ys.length) (a b : α) :
    (List.zipWith r.op xs ys).foldl r.op (r.op a b) = r.op (xs.foldl r.op a) (ys.foldl r.op b) := by
  have := h.assoc
  have := h.comm
  induction xs generalizing ys a b with
  | nil =>
    rw [List.eq_nil_of_length_eq_zero hlen.symm]
    rfl
  | cons x rest ih =>
    obtain ⟨y, ys, rfl⟩ := List.exists_cons_of_length_eq_add_one hlen.symm
    have hrest : rest.length = ys.length := by simpa using hlen
    have hswap : r.op (r.op a b) (r.op x y) = r.op (r.op a x) (r.op b y) := by ac_rfl
    rw [List.zipWith_cons_cons, List.foldl_cons, hswap, ih hrest]
    rfl

/-- If no lane is active in both of two masks, the lanes filled for the one and those filled for the other combine
to the lanes filled for their union. -/
theorem fill_union (h : r.Lawful) {m₁ m₂ : Mask} (hm : m.width = v.width) (h₁ : m₁.width = v.width)
    (h₂ : m₂.width = v.width) (hdisjoint : ∀ lane, (m₁.isActive lane && m₂.isActive lane) = false)
    (hunion : ∀ lane, m.isActive lane = (m₁.isActive lane || m₂.isActive lane)) :
    (r.fill v m).lanes = List.zipWith r.op (r.fill v m₁).lanes (r.fill v m₂).lanes := by
  have hunit : ∀ a, r.op r.unit a = a := fun a => by rw [h.comm.comm, h.op_unit]
  apply List.ext_getElem?
  intro lane
  rw [List.getElem?_zipWith, getElem?_fill r hm, getElem?_fill r h₁, getElem?_fill r h₂, hunion lane]
  have hlane := hdisjoint lane
  cases hx : v.lanes[lane]? with
  | none => rfl
  | some x =>
    cases hfirst : m₁.isActive lane
    · simp [hunit]
    · rw [hfirst, Bool.true_and] at hlane
      simp [hlane, h.op_unit]

/-- Over two masks without a common lane, a reduction under their union combines those under each. -/
theorem run_union (h : r.Lawful) {m₁ m₂ : Mask} (hm : m.width = v.width) (h₁ : m₁.width = v.width)
    (h₂ : m₂.width = v.width) (hdisjoint : ∀ lane, (m₁.isActive lane && m₂.isActive lane) = false)
    (hunion : ∀ lane, m.isActive lane = (m₁.isActive lane || m₂.isActive lane)) :
    ∃ a b, r.run v m₁ = .ok a ∧ r.run v m₂ = .ok b ∧ r.run v m = .ok (r.op a b) := by
  have hfold : ∀ {n : Mask}, n.width = v.width →
      r.run v n = .ok ((r.fill v n).lanes.foldl r.op r.unit) := by
    intro n hn
    rw [← h.run_fill hn, ← width_fill r hn]
    exact r.run_all _
  have hlen : (r.fill v m₁).lanes.length = (r.fill v m₂).lanes.length :=
    (width_fill r h₁).trans (width_fill r h₂).symm
  refine ⟨_, _, hfold h₁, hfold h₂, ?_⟩
  rw [hfold hm, h.fill_union hm h₁ h₂ hdisjoint hunion, ← h.foldl_zipWith hlen, h.op_unit]

end Lawful

/-- Whether a reduction folds the values in active lanes, takes an inactive lane for its unit, and may be taken over
the parts of a mask. -/
structure AddsOverMasks (r : Reduction α) : Prop where
  /-- The reduction folds the values in active lanes, from lane 0 up, and starts with the unit. -/
  folds : ∀ (v : Varying α) (m : Mask), m.width = v.width →
    r.run v m = .ok ((m.activeLanes.filterMap fun lane => v.lanes[lane]?).foldl r.op r.unit)
  /-- A mask of another width is refused. -/
  mismatch : ∀ (v : Varying α) (m : Mask), m.width ≠ v.width →
    r.run v m = .error (.widthMismatch v.width m.width)
  /-- The unit is the identity of the operation. -/
  identity : ∀ a, r.op a r.unit = a ∧ r.op r.unit a = a
  /-- The reduction is that over all lanes of the value with the unit in its inactive lanes. -/
  inactive : ∀ (v : Varying α) (m : Mask), m.width = v.width →
    ∃ filled total, (Varying.splat r.unit v.width).blend v m = .ok filled ∧
      r.run v m = .ok total ∧ r.run filled (.all v.width) = .ok total
  /-- The reductions under masks without a common lane combine to that under their union. -/
  union : ∀ (v : Varying α) (m₁ m₂ m : Mask), m₁.width = v.width → m₂.width = v.width →
    m₁.and m₂ = .ok (.none v.width) → m₁.or m₂ = .ok m →
    ∃ a b, r.run v m₁ = .ok a ∧ r.run v m₂ = .ok b ∧ r.run v m = .ok (r.op a b)
  /-- The reductions in the two arms of a branch combine to that before the branch. -/
  arms : ∀ (v : Varying α) (m cond : Mask), m.width = v.width → cond.width = v.width →
    ∃ thenMask elseMask a b, m.and cond = .ok thenMask ∧ m.andNot cond = .ok elseMask ∧
      r.run v thenMask = .ok a ∧ r.run v elseMask = .ok b ∧ r.run v m = .ok (r.op a b)

namespace Lawful

/-- Lanes that are filled with the unit count as inactive ones do. -/
theorem run_inactive (h : r.Lawful) (hm : m.width = v.width) :
    ∃ filled total, (Varying.splat r.unit v.width).blend v m = .ok filled ∧
      r.run v m = .ok total ∧ r.run filled (.all v.width) = .ok total := by
  refine ⟨r.fill v m, _, blend_splat r hm, run_eq_foldl r hm, ?_⟩
  rw [h.run_fill hm, run_eq_foldl r hm]

/-- A reduction under the union of two disjoint masks, as the masks compute it, combines those under each. -/
theorem run_or (h : r.Lawful) {m₁ m₂ : Mask} (h₁ : m₁.width = v.width) (h₂ : m₂.width = v.width)
    (hand : m₁.and m₂ = .ok (.none v.width)) (hor : m₁.or m₂ = .ok m) :
    ∃ a b, r.run v m₁ = .ok a ∧ r.run v m₂ = .ok b ∧ r.run v m = .ok (r.op a b) := by
  obtain ⟨both, hboth, -, hbothActive⟩ := Mask.and_ok (h₁.trans h₂.symm)
  obtain ⟨union, hunion, hwidth, hactive⟩ := Mask.or_ok (h₁.trans h₂.symm)
  obtain rfl : both = .none v.width := Except.ok.inj (hboth.symm.trans hand)
  obtain rfl : union = m := Except.ok.inj (hunion.symm.trans hor)
  apply h.run_union (hwidth.trans h₁) h₁ h₂ ?_ hactive
  intro lane
  rw [← hbothActive lane, Mask.isActive_none]

/-- A reduction under a mask combines those under the two arms of a branch. -/
theorem run_arms (h : r.Lawful) {cond : Mask} (hm : m.width = v.width) (hcond : cond.width = v.width) :
    ∃ thenMask elseMask a b, m.and cond = .ok thenMask ∧ m.andNot cond = .ok elseMask ∧
      r.run v thenMask = .ok a ∧ r.run v elseMask = .ok b ∧ r.run v m = .ok (r.op a b) := by
  obtain ⟨thenMask, hthen, hthenWidth, hthenActive⟩ := Mask.and_ok (hm.trans hcond.symm)
  obtain ⟨elseMask, helse, helseWidth, helseActive⟩ := Mask.andNot_ok (hm.trans hcond.symm)
  have hdisjoint : ∀ lane, (thenMask.isActive lane && elseMask.isActive lane) = false := by
    intro lane
    rw [hthenActive lane, helseActive lane]
    cases m.isActive lane <;> cases cond.isActive lane <;> rfl
  have hunion : ∀ lane, m.isActive lane = (thenMask.isActive lane || elseMask.isActive lane) := by
    intro lane
    rw [hthenActive lane, helseActive lane]
    cases m.isActive lane <;> cases cond.isActive lane <;> rfl
  obtain ⟨a, b, ha, hb, htotal⟩ :=
    h.run_union hm (hthenWidth.trans hm) (helseWidth.trans hm) hdisjoint hunion
  exact ⟨thenMask, elseMask, a, b, hthen, helse, ha, hb, htotal⟩

/-- A lawful reduction adds up over masks. -/
theorem addsOverMasks (h : r.Lawful) : r.AddsOverMasks where
  folds _ _ hm := run_eq_foldl_activeLanes r hm
  mismatch _ _ hm := run_of_width_ne r hm
  identity a := ⟨h.op_unit a, by rw [h.comm.comm, h.op_unit]⟩
  inactive _ _ hm := h.run_inactive hm
  union _ _ _ _ h₁ h₂ hand hor := h.run_or h₁ h₂ hand hor
  arms _ _ _ hm hcond := h.run_arms hm hcond

end Lawful

end Reduction

/-- All reductions of integers of any type and all those of booleans fold the values in active lanes, and take an
inactive lane for the unit of their operation. Under masks without a common lane they combine to the reduction under
the union, and so those in the arms of a branch combine to the reduction before it. -/
theorem Reduction.masked_reductions_add_up :
    (∀ (k : IntKind) (r : IntReduction), (r.reduction k).AddsOverMasks) ∧
      ∀ r : BoolReduction, r.reduction.AddsOverMasks :=
  ⟨fun k r => (r.lawful k).addsOverMasks, fun r => r.lawful.addsOverMasks⟩

section Interleaved

/-- The integers of eight bits with a sign. -/
def IntKind.shortest : IntKind :=
  ⟨true, 8⟩

/-- Five lanes, the fourth of which holds the greatest word. -/
def fiveLanes : Varying (Word .shortest) :=
  ⟨[-3, -128, -5, 127, -2]⟩

/-- Two masks that take turns along the lanes. Neither has the fourth one. -/
def turns : Mask × Mask :=
  (⟨[true, false, true, false, false]⟩, ⟨[false, true, false, false, true]⟩)

/-- The union of the two masks. -/
def bothTurns : Mask :=
  ⟨[true, true, true, false, true]⟩

/-- Every reduction of five lanes under two masks that interleave combines to the one under their union, which leaves
out the greatest word: the maximum is negative, and the sum wraps. A branch divides the union into the same masks. -/
theorem Reduction.masked_reductions_add_up_interleaved :
    turns.1.and turns.2 = .ok (.none 5) ∧ turns.1.or turns.2 = .ok bothTurns ∧
      (∀ r : IntReduction, ∃ a b, (r.reduction .shortest).run fiveLanes turns.1 = .ok a ∧
        (r.reduction .shortest).run fiveLanes turns.2 = .ok b ∧
        (r.reduction .shortest).run fiveLanes bothTurns = .ok ((r.reduction .shortest).op a b)) ∧
      (∀ r : IntReduction, ∃ a b, bothTurns.and turns.1 = .ok turns.1 ∧ bothTurns.andNot turns.1 = .ok turns.2 ∧
        (r.reduction .shortest).run fiveLanes turns.1 = .ok a ∧
        (r.reduction .shortest).run fiveLanes turns.2 = .ok b ∧
        (r.reduction .shortest).run fiveLanes bothTurns = .ok ((r.reduction .shortest).op a b)) ∧
      (IntReduction.max.reduction .shortest).run fiveLanes bothTurns = .ok (-2) ∧
      (IntReduction.add.reduction .shortest).run fiveLanes bothTurns = .ok 118 ∧
      (IntReduction.add.reduction .shortest).run fiveLanes (.all 4) = .error (.widthMismatch 5 4) := by
  have hadds (r : IntReduction) : (r.reduction .shortest).AddsOverMasks :=
    Reduction.masked_reductions_add_up.1 .shortest r
  have hand : turns.1.and turns.2 = .ok (.none 5) := rfl
  have hor : turns.1.or turns.2 = .ok bothTurns := rfl
  refine ⟨hand, hor, fun r => (hadds r).union fiveLanes _ _ _ rfl rfl hand hor, fun r => ?_, ?_, ?_, ?_⟩
  · obtain ⟨thenMask, elseMask, a, b, hthen, helse, ha, hb, htotal⟩ :=
      (hadds r).arms fiveLanes bothTurns turns.1 rfl rfl
    obtain rfl : turns.1 = thenMask := Except.ok.inj hthen
    obtain rfl : turns.2 = elseMask := Except.ok.inj helse
    exact ⟨a, b, hthen, helse, ha, hb, htotal⟩
  · exact (hadds .max).folds fiveLanes bothTurns rfl
  · exact (hadds .add).folds fiveLanes bothTurns rfl
  · exact (hadds .add).mismatch fiveLanes (.all 4) (by decide)

end Interleaved

end Lanewise
