import Lanewise.Lanes.Groups
import Lanewise.Lanes.Word
import Lanewise.Proofs.ActiveLanes
import Lanewise.Proofs.Declarations
import Mathlib.Algebra.Order.Floor.Div

/-!
# Dividing values into groups

A value is cut into pieces of the native lane count, and each piece is filled up to a group. Piece `g` begins at lane
`g * n` of the value (`Group.getElem?_pieces`), from which follow the number of the groups, what each of their lanes
holds, and the plan of the division, which is computed on its own.

Putting the groups together again gives the value back, because a group gives its piece back. In the other direction
some lists of groups are not the division of any value; those that are, are exactly the packed ones
(`Group.Packed`): all groups are full, but for the last, which has some lanes in use and blank lanes after them.
-/

set_option autoImplicit false

namespace Lanewise

namespace Group

variable {α : Type}

/-! ### Pieces -/

/-- No lanes are cut into no pieces. -/
@[simp] theorem pieces_nil (n fuel : Nat) : pieces n fuel ([] : List α) = [] := by
  cases fuel <;> rfl

/-- The first piece has the first lanes, and the rest is cut in the same way. -/
theorem pieces_of_ne_nil (n fuel : Nat) {xs : List α} (h : xs ≠ []) :
    pieces n (fuel + 1) xs = xs.take n :: pieces n fuel (xs.drop n) := by
  cases xs with
  | nil => exact absurd rfl h
  | cons x rest => rfl

/-- What holds of the pieces of an empty list, and of those of any other list if it holds of the pieces after the
first, holds of the pieces of every list that is no longer than the number of pieces allowed. -/
@[elab_as_elim]
theorem pieces_induction {n : Nat} (hn : 0 < n) {motive : Nat → List α → Prop}
    (nil : ∀ fuel, motive fuel [])
    (cut : ∀ fuel xs, 0 < xs.length → pieces n (fuel + 1) xs = xs.take n :: pieces n fuel (xs.drop n) →
      motive fuel (xs.drop n) → motive (fuel + 1) xs)
    {fuel : Nat} {xs : List α} (hfuel : xs.length ≤ fuel) : motive fuel xs := by
  induction fuel generalizing xs with
  | zero =>
    obtain rfl := List.eq_nil_of_length_eq_zero (Nat.le_zero.1 hfuel)
    exact nil 0
  | succ fuel ih =>
    by_cases hxs : xs = []
    · rw [hxs]
      exact nil (fuel + 1)
    · have hpos : 0 < xs.length := List.length_pos_iff.2 hxs
      have hdrop : (xs.drop n).length ≤ fuel := by
        rw [List.length_drop]
        omega
      exact cut fuel xs hpos (pieces_of_ne_nil n fuel hxs) (ih hdrop)

section Pieces

variable {n fuel : Nat} {xs : List α}

/-- One piece is cut off for every `n` elements, and one for what is left at the end. -/
theorem length_pieces (hn : 0 < n) (hfuel : xs.length ≤ fuel) :
    (pieces n fuel xs).length = xs.length ⌈/⌉ n := by
  rw [Nat.ceilDiv_eq_add_pred_div]
  refine pieces_induction hn (fun fuel => ?_) (fun fuel xs hpos hcut ih => ?_) hfuel
  · have hempty : 0 + n - 1 < n := by omega
    simp only [pieces_nil, List.length_nil, Nat.div_eq_of_lt hempty]
  · rw [hcut, List.length_cons, ih, List.length_drop]
    -- the rest has one piece less, or there is no rest
    by_cases hle : n ≤ xs.length
    · have hsplit : xs.length + n - 1 = xs.length - n + n - 1 + n := by omega
      rw [hsplit, Nat.add_div_right _ hn]
    · have hrest : xs.length - n + n - 1 < n := by omega
      have hone : xs.length + n - 1 = xs.length - 1 + n := by omega
      have hshort : xs.length - 1 < n := by omega
      rw [Nat.div_eq_of_lt hrest, hone, Nat.add_div_right _ hn, Nat.div_eq_of_lt hshort]

/-- Piece `g` has the elements from number `g * n` on. -/
theorem getElem?_pieces (hn : 0 < n) (hfuel : xs.length ≤ fuel) : ∀ g,
    (pieces n fuel xs)[g]? =
      if g * n < xs.length then some ((xs.drop (g * n)).take n) else none := by
  refine pieces_induction hn (fun fuel g => ?_) (fun fuel xs hpos hcut ih g => ?_) hfuel
  · simp
  · rw [hcut]
    cases g with
    | zero => simp [hpos]
    | succ g =>
      have hindex : n + g * n = (g + 1) * n := by rw [Nat.succ_mul, Nat.add_comm]
      have hbound : g * n < xs.length - n ↔ (g + 1) * n < xs.length := by omega
      rw [List.getElem?_cons_succ, ih, List.drop_drop, List.length_drop, hindex]
      simp only [hbound]

/-- The pieces together are the lanes that were cut. -/
theorem flatten_pieces (hn : 0 < n) (hfuel : xs.length ≤ fuel) : (pieces n fuel xs).flatten = xs := by
  refine pieces_induction hn (fun fuel => ?_) (fun fuel xs hpos hcut ih => ?_) hfuel
  · simp
  · rw [hcut, List.flatten_cons, ih, List.take_append_drop]

/-- No piece is longer than a group. -/
theorem length_le_of_mem_pieces (hn : 0 < n) (hfuel : xs.length ≤ fuel) :
    ∀ piece ∈ pieces n fuel xs, piece.length ≤ n := by
  refine pieces_induction hn (fun fuel => ?_) (fun fuel xs hpos hcut ih => ?_) hfuel
  · simp
  · rw [hcut, List.forall_mem_cons]
    exact ⟨List.length_take_le n xs, ih⟩

/-- A first part of the right length is a piece. -/
theorem pieces_append {rest : List α} (hn : 0 < n) (hxs : xs.length = n) (fuel : Nat) :
    pieces n (fuel + 1) (xs ++ rest) = xs :: pieces n fuel rest := by
  have hne : xs ++ rest ≠ [] := by
    apply List.ne_nil_of_length_pos
    rw [List.length_append]
    omega
  rw [pieces_of_ne_nil n fuel hne, List.take_left' hxs, List.drop_left' hxs]

/-- A short list is one piece. -/
theorem pieces_of_length_le (hpos : 0 < xs.length) (hle : xs.length ≤ n) (fuel : Nat) :
    pieces n (fuel + 1) xs = [xs] := by
  rw [pieces_of_ne_nil n fuel (List.ne_nil_of_length_pos hpos), List.take_of_length_le hle,
    List.drop_of_length_le hle, pieces_nil]

end Pieces

/-! ### One group -/

/-- The lanes of a group that are in use are those that its mask lets through. -/
theorem activeValues_eq_ok {g : Group α} {part : List α} :
    g.activeValues = .ok part ↔ g.mask.width = g.values.width ∧ part = g.mask.select g.values.lanes := by
  unfold activeValues sameWidth
  rw [Mask.filterMap_activeLanes]
  by_cases hwidth : g.values.width = g.mask.width
  · rw [if_pos hwidth]
    constructor
    · intro h
      exact ⟨hwidth.symm, (Except.ok.inj h).symm⟩
    · rintro ⟨-, rfl⟩
      rfl
  · rw [if_neg hwidth]
    constructor
    · intro h
      cases h
    · rintro ⟨hsame, -⟩
      exact absurd hsame.symm hwidth

section OneGroup

variable [Blank α] {width : Nat}

/-- A group that was filled up has the width of a group. -/
theorem width_values_ofLanes {lanes : List α} (h : lanes.length ≤ width) :
    (ofLanes width lanes).values.width = width := by
  simp only [ofLanes, Varying.width, List.length_append, List.length_replicate]
  omega

/-- A group that was filled up gives back the lanes that it was made from. -/
theorem activeValues_ofLanes {lanes : List α} (h : lanes.length ≤ width) :
    (ofLanes width lanes).activeValues = .ok lanes := by
  rw [activeValues_eq_ok]
  constructor
  · rw [width_values_ofLanes h]
    exact Mask.width_firstActive width lanes.length
  · exact (Mask.select_firstActive h _).symm

/-- A group whose first lanes are in use and whose other lanes are blank is made from the lanes in use. -/
theorem eq_ofLanes {g : Group α} {active : Nat} (hwidth : g.values.width = width) (hle : active ≤ width)
    (hmask : g.mask = .firstActive width active)
    (hblank : ∀ j, active ≤ j → j < width → g.values.get j = .ok Blank.blank) :
    g = ofLanes width (g.values.lanes.take active) := by
  obtain ⟨⟨lanes⟩, mask⟩ := g
  have hlength : lanes.length = width := hwidth
  have htake : (lanes.take active).length = active := by
    rw [List.length_take]
    omega
  have hrest : lanes.drop active = List.replicate (width - active) Blank.blank := by
    rw [List.eq_replicate_iff, List.length_drop, hlength]
    refine ⟨rfl, fun x hx => ?_⟩
    obtain ⟨i, hi, rfl⟩ := List.mem_iff_getElem.1 hx
    have hi : active + i < lanes.length := by
      rw [List.length_drop] at hi
      omega
    have hlane : Varying.get ⟨lanes⟩ (active + i) = .ok Blank.blank :=
      hblank (active + i) (Nat.le_add_right _ _) (hlength ▸ hi)
    rw [Varying.get, List.getElem?_eq_getElem hi] at hlane
    rw [List.getElem_drop]
    exact Except.ok.inj hlane
  have hlanes : lanes = lanes.take active ++ List.replicate (width - active) Blank.blank := by
    rw [← hrest, List.take_append_drop]
  rw [ofLanes, htake, ← hlanes, ← hmask]

/-- A group with all lanes in use is made from its own lanes. -/
theorem eq_ofLanes_of_full {g : Group α} (hwidth : g.values.width = width) (hmask : g.mask = .all width) :
    g = ofLanes width g.values.lanes := by
  have hself := eq_ofLanes hwidth (Nat.le_refl width) (hmask.trans (Mask.firstActive_self width).symm)
    (fun j hle hlt => absurd hlt (Nat.not_lt.2 hle))
  rwa [List.take_of_length_le (Nat.le_of_eq hwidth)] at hself

end OneGroup

/-! ### Packed groups -/

/-- Whether groups are all full, but for the last one, of which some first lanes are in use and the others blank. -/
inductive Packed [Blank α] (width : Nat) : List (Group α) → Prop where
  | nil : Packed width []
  | full {g : Group α} {rest : List (Group α)} (hwidth : g.values.width = width)
      (hmask : g.mask = .all width) (hrest : Packed width rest) : Packed width (g :: rest)
  | tail {g : Group α} {active : Nat} (hwidth : g.values.width = width) (hpos : 0 < active)
      (hle : active ≤ width) (hmask : g.mask = .firstActive width active)
      (hblank : ∀ j, active ≤ j → j < width → g.values.get j = .ok Blank.blank) : Packed width [g]

section Packing

variable [Blank α] {width : Nat}

/-- The groups of a value are packed. -/
theorem packed_pieces (hwidth : 0 < width) {fuel : Nat} {xs : List α} (hfuel : xs.length ≤ fuel) :
    Packed width ((pieces width fuel xs).map (ofLanes width)) := by
  refine pieces_induction hwidth (fun fuel => ?_) (fun fuel xs hpos hcut ih => ?_) hfuel
  · rw [pieces_nil]
    exact .nil
  · rw [hcut, List.map_cons]
    by_cases hmore : width ≤ xs.length
    · -- the first piece is whole
      have hlength : (xs.take width).length = width := List.length_take_of_le hmore
      refine .full (width_values_ofLanes (Nat.le_of_eq hlength)) ?_ ih
      rw [ofLanes, hlength, Mask.firstActive_self]
    · -- the first piece is all that there is
      have hle : xs.length ≤ width := by omega
      rw [List.drop_of_length_le hle, pieces_nil, List.map_nil, List.take_of_length_le hle]
      refine .tail (width_values_ofLanes hle) hpos hle rfl fun j hj hlt => ?_
      have hlane : (xs ++ List.replicate (width - xs.length) Blank.blank)[j]? = some Blank.blank := by
        rw [List.getElem?_append_right hj, List.getElem?_replicate, if_pos (by omega)]
      rw [Varying.get, ofLanes, hlane]

/-- Packed groups are the groups of the lanes that are in use. -/
theorem Packed.exists_lanes {groups : List (Group α)} (h : Packed width groups) (hwidth : 0 < width) :
    ∃ parts, List.Forall₂ (fun g part => activeValues g = .ok part) groups parts ∧
      ∀ fuel, parts.flatten.length ≤ fuel →
        (pieces width fuel parts.flatten).map (ofLanes width) = groups := by
  induction h with
  | nil => exact ⟨[], .nil, fun fuel _ => by simp⟩
  | @full g rest hlanes hmask hrest ih =>
    obtain ⟨parts, hparts, hpieces⟩ := ih
    have hg := eq_ofLanes_of_full hlanes hmask
    have hlength : g.values.lanes.length = width := hlanes
    refine ⟨g.values.lanes :: parts, .cons ?_ hparts, fun fuel hfuel => ?_⟩
    · have hactive := activeValues_ofLanes (Nat.le_of_eq hlength)
      rwa [← hg] at hactive
    · rw [List.flatten_cons, List.length_append] at hfuel
      obtain ⟨fuel, rfl⟩ : ∃ less, fuel = less + 1 := ⟨fuel - 1, by omega⟩
      rw [List.flatten_cons, pieces_append hwidth hlength, List.map_cons, hpieces fuel (by omega), ← hg]
  | @tail g active hlanes hpos hle hmask hblank =>
    have hg := eq_ofLanes hlanes hle hmask hblank
    have hlength : (g.values.lanes.take active).length = active :=
      List.length_take_of_le (hle.trans_eq hlanes.symm)
    refine ⟨[g.values.lanes.take active], .cons ?_ .nil, fun fuel hfuel => ?_⟩
    · have hactive := activeValues_ofLanes (hlength.trans_le hle)
      rwa [← hg] at hactive
    · rw [List.flatten_singleton] at hfuel ⊢
      obtain ⟨fuel, rfl⟩ : ∃ less, fuel = less + 1 := ⟨fuel - 1, by omega⟩
      rw [pieces_of_length_le (by omega) (hlength.trans_le hle), List.map_singleton, ← hg]

end Packing

end Group

/-! ### The plan of a division -/

namespace GroupPlan

/-- There is a plan for every width but zero, with these numbers. -/
theorem make_eq {width : Nat} (hwidth : 0 < width) (lanes : Nat) :
    make lanes width = .ok {
      nativeWidth := width
      groups := lanes / width + if lanes % width = 0 then 0 else 1
      tailActive := if lanes % width = 0 ∧ 0 < lanes then width else lanes % width } := by
  rw [make, if_neg (Nat.ne_of_gt hwidth)]

/-- A plan counts the whole groups and one for the lanes that are left over. -/
theorem ceilDiv_eq {width : Nat} (hwidth : 0 < width) (lanes : Nat) :
    lanes ⌈/⌉ width = lanes / width + if lanes % width = 0 then 0 else 1 := by
  have hlanes := Nat.div_add_mod lanes width
  have hrest := Nat.mod_lt lanes hwidth
  rw [Nat.ceilDiv_eq_add_pred_div]
  by_cases hwhole : lanes % width = 0
  · have hsum : lanes + width - 1 = width - 1 + width * (lanes / width) := by omega
    rw [if_pos hwhole, hsum, Nat.add_mul_div_left _ _ hwidth, Nat.div_eq_of_lt (by omega)]
    omega
  · have hsum : lanes + width - 1 = lanes % width - 1 + width * (lanes / width + 1) := by
      rw [Nat.mul_succ]
      omega
    rw [if_neg hwhole, hsum, Nat.add_mul_div_left _ _ hwidth, Nat.div_eq_of_lt (by omega)]
    omega

/-- The lanes of the last group that a plan has in use are those after the groups before it. -/
theorem exists_last {width lanes : Nat} (hwidth : 0 < width) (hlanes : 0 < lanes) :
    ∃ last, lanes ⌈/⌉ width = last + 1 ∧ last * width < lanes ∧
      (if lanes % width = 0 ∧ 0 < lanes then width else lanes % width) =
        min width (lanes - last * width) := by
  have hdivide := Nat.div_add_mod lanes width
  have hrest := Nat.mod_lt lanes hwidth
  rw [ceilDiv_eq hwidth]
  by_cases hwhole : lanes % width = 0
  · -- the last of the whole groups
    obtain ⟨last, hlast⟩ : ∃ last, lanes / width = last + 1 :=
      Nat.exists_eq_add_one.2 (Nat.div_pos (Nat.le_of_dvd hlanes (Nat.dvd_of_mod_eq_zero hwhole)) hwidth)
    rw [hlast, Nat.mul_succ, Nat.mul_comm] at hdivide
    refine ⟨last, ?_, by omega, ?_⟩
    · rw [if_pos hwhole, hlast, Nat.add_zero]
    · rw [if_pos ⟨hwhole, hlanes⟩]
      omega
  · -- the group after the whole ones
    rw [Nat.mul_comm] at hdivide
    refine ⟨lanes / width, ?_, by omega, ?_⟩
    · rw [if_neg hwhole]
    · rw [if_neg (fun h => hwhole h.1)]
      omega

/-- No number of a plan exceeds those that it is made from. -/
theorem le_of_make {width lanes : Nat} (hwidth : 0 < width) {plan : GroupPlan}
    (h : make lanes width = .ok plan) : plan.groups ≤ lanes ∧ plan.tailActive ≤ width := by
  rw [make_eq hwidth] at h
  obtain rfl := Except.ok.inj h
  constructor
  · show lanes / width + (if lanes % width = 0 then 0 else 1) ≤ lanes
    rw [← ceilDiv_eq hwidth, ceilDiv_le_iff_le_mul hwidth]
    exact Nat.le_mul_of_pos_left lanes hwidth
  · have hrest := Nat.mod_lt lanes hwidth
    show (if lanes % width = 0 ∧ 0 < lanes then width else lanes % width) ≤ width
    split
    · exact Nat.le_refl _
    · exact Nat.le_of_lt hrest

end GroupPlan

/-! ### Division and putting together -/

namespace Varying

variable {α : Type} {native : Nat}

/-- Groups are put together from the values of their lanes in use, one group after the other. -/
theorem ofGroups_eq_ok {groups : List (Group α)} {v : Varying α} :
    ofGroups groups = .ok v ↔
      ∃ parts, List.Forall₂ (fun g part => Group.activeValues g = .ok part) groups parts ∧
        v = ⟨parts.flatten⟩ := by
  rw [ofGroups, Except.bind_eq_ok]
  simp only [Except.mapM_eq_ok]
  constructor
  · rintro ⟨parts, hparts, hv⟩
    exact ⟨parts, hparts, (Except.ok.inj hv).symm⟩
  · rintro ⟨parts, hparts, rfl⟩
    exact ⟨parts, hparts, rfl⟩

variable [Blank α]

/-- The groups of a varying value are the pieces of its lanes, filled up. -/
theorem toGroups_eq (hnative : 0 < native) (v : Varying α) :
    v.toGroups native = .ok ((Group.pieces native v.width v.lanes).map (Group.ofLanes native)) := by
  rw [toGroups, if_neg (Nat.ne_of_gt hnative)]

/-- The groups of a value give the value back. -/
theorem ofGroups_pieces (hnative : 0 < native) (v : Varying α) :
    ofGroups ((Group.pieces native v.width v.lanes).map (Group.ofLanes native)) = .ok v := by
  have hfuel : v.lanes.length ≤ v.width := Nat.le_refl _
  rw [ofGroups_eq_ok]
  refine ⟨Group.pieces native v.width v.lanes, ?_, ?_⟩
  · rw [List.forall₂_map_left_iff, List.forall₂_same]
    intro piece hpiece
    exact Group.activeValues_ofLanes (Group.length_le_of_mem_pieces hnative hfuel piece hpiece)
  · rw [Group.flatten_pieces hnative hfuel]

/-- Packed groups are the groups of a value, which is what they are put together to. -/
theorem packed_iff (hnative : 0 < native) {groups : List (Group α)} :
    Group.Packed native groups ↔ ∃ v, ofGroups groups = .ok v ∧ v.toGroups native = .ok groups := by
  constructor
  · intro h
    obtain ⟨parts, hparts, hpieces⟩ := h.exists_lanes hnative
    refine ⟨⟨parts.flatten⟩, ofGroups_eq_ok.2 ⟨parts, hparts, rfl⟩, ?_⟩
    rw [toGroups_eq hnative]
    exact congrArg Except.ok (hpieces _ (Nat.le_refl _))
  · rintro ⟨v, -, hgroups⟩
    rw [toGroups_eq hnative] at hgroups
    obtain rfl := Except.ok.inj hgroups
    exact Group.packed_pieces hnative (Nat.le_refl _)

/-- Lane `j` of group `g` is lane `g * native + j` of the value. -/
theorem lanes_of_group (hnative : 0 < native) {v : Varying α} {g : Nat} {group : Group α}
    (h : ((Group.pieces native v.width v.lanes).map (Group.ofLanes native))[g]? = some group) :
    group.values.width = native ∧ group.mask.width = native ∧
      ∀ j < native, group.mask.isActive j = decide (g * native + j < v.width) ∧
        group.values.get j =
          if g * native + j < v.width then v.get (g * native + j) else .ok Blank.blank := by
  obtain ⟨lanes⟩ := v
  have hlength : Varying.width ⟨lanes⟩ = lanes.length := rfl
  rw [hlength, List.getElem?_map, Group.getElem?_pieces hnative (Nat.le_refl lanes.length)] at h
  by_cases hg : g * native < lanes.length
  · rw [if_pos hg] at h
    obtain rfl := Option.some.inj h
    have hpiece : ((lanes.drop (g * native)).take native).length = min native (lanes.length - g * native) := by
      rw [List.length_take, List.length_drop]
    refine ⟨Group.width_values_ofLanes (List.length_take_le _ _), Mask.width_firstActive _ _, ?_⟩
    intro j hj
    have hlane : j < ((lanes.drop (g * native)).take native).length ↔ g * native + j < lanes.length := by
      omega
    constructor
    · rw [Group.ofLanes, Mask.isActive_firstActive _ hj]
      simp only [hlane, hlength]
    · rw [hlength, get, Group.ofLanes]
      by_cases hin : g * native + j < lanes.length
      · rw [if_pos hin, List.getElem?_append_left (hlane.2 hin), List.getElem?_take_of_lt hj,
          List.getElem?_drop, List.getElem?_eq_getElem hin, get, List.getElem?_eq_getElem hin]
      · have hout : ¬ j < ((lanes.drop (g * native)).take native).length := fun h => hin (hlane.1 h)
        rw [if_neg hin, List.getElem?_append_right (Nat.not_lt.1 hout), List.getElem?_replicate,
          if_pos (by omega)]
  · rw [if_neg hg] at h
    cases h

/-- A plan says how many lanes of the last group are in use. -/
theorem count_last_group (hnative : 0 < native) (v : Varying α) :
    (((Group.pieces native v.width v.lanes).map (Group.ofLanes native)).getLast?.map fun g =>
        g.mask.count).getD 0 =
      if v.width % native = 0 ∧ 0 < v.width then native else v.width % native := by
  have hfuel : v.lanes.length ≤ v.width := Nat.le_refl _
  rw [List.getLast?_eq_getElem?, List.length_map, Group.length_pieces hnative hfuel, List.getElem?_map,
    Group.getElem?_pieces hnative hfuel, ← width]
  by_cases hempty : v.width = 0
  · simp [hempty]
  · obtain ⟨last, hgroups, hlast, htail⟩ := GroupPlan.exists_last hnative (Nat.pos_of_ne_zero hempty)
    have hcount : (Group.ofLanes native ((v.lanes.drop (last * native)).take native)).mask.count =
        min native (v.width - last * native) := by
      rw [Group.ofLanes, Mask.count_firstActive (List.length_take_le _ _), List.length_take,
        List.length_drop]
      rfl
    rw [hgroups, Nat.add_sub_cancel, if_pos hlast, htail, ← hcount]
    rfl

/-- Dividing a value into groups and putting groups together are inverse to one another. A value of any number of
lanes is divided into as many groups as its lanes need, all of the native lane count; the lanes past its end are
inactive and blank. The groups give the value back, and the groups that some value gives are exactly the packed
ones. The plan of the division has the number of the groups and of the lanes in use of the last one, and no number
in it exceeds those that it is made from. -/
theorem groups_round_trip (hnative : 0 < native) :
    (∀ v : Varying α, ∃ groups plan, v.toGroups native = .ok groups ∧
      groups.length = v.width ⌈/⌉ native ∧
      (∀ g group, groups[g]? = some group →
        group.values.width = native ∧ group.mask.width = native ∧
          ∀ j < native, group.mask.isActive j = decide (g * native + j < v.width) ∧
            group.values.get j =
              if g * native + j < v.width then v.get (g * native + j) else .ok Blank.blank) ∧
      ofGroups groups = .ok v ∧
      GroupPlan.make v.width native = .ok plan ∧ plan.nativeWidth = native ∧
      (plan.groups = groups.length ∧ plan.groups ≤ v.width) ∧
      plan.tailActive = (groups.getLast?.map fun g => g.mask.count).getD 0 ∧ plan.tailActive ≤ native) ∧
    ∀ groups : List (Group α), Group.Packed native groups ↔
      ∃ v, ofGroups groups = .ok v ∧ v.toGroups native = .ok groups := by
  refine ⟨fun v => ?_, fun groups => packed_iff hnative⟩
  have hlength : ((Group.pieces native v.width v.lanes).map (Group.ofLanes native)).length =
      v.width ⌈/⌉ native := by
    rw [List.length_map]
    exact Group.length_pieces hnative (Nat.le_refl _)
  have hplan := GroupPlan.make_eq hnative v.width
  obtain ⟨hgroups, htail⟩ := GroupPlan.le_of_make hnative hplan
  refine ⟨_, _, toGroups_eq hnative v, hlength, fun g group => lanes_of_group hnative,
    ofGroups_pieces hnative v, hplan, rfl, ⟨?_, hgroups⟩, (count_last_group hnative v).symm, htail⟩
  rw [hlength, GroupPlan.ceilDiv_eq hnative]

/-- Five lanes in groups of two leave one lane in use of the third group, and the groups are packed. -/
theorem groups_round_trip_five :
    0 < 2 ∧ ∃ groups plan, (Varying.mk ["a", "b", "c", "d", "e"]).toGroups 2 = .ok groups ∧
      ofGroups groups = .ok ⟨["a", "b", "c", "d", "e"]⟩ ∧
      groups[2]? = some ⟨⟨["e", ""]⟩, ⟨[true, false]⟩⟩ ∧
      GroupPlan.make 5 2 = .ok plan ∧ plan.groups = 3 ∧ plan.tailActive = 1 ∧ Group.Packed 2 groups := by
  have htwo : 0 < 2 := by decide
  obtain ⟨hdivide, hpacked⟩ := @groups_round_trip String 2 _ htwo
  obtain ⟨groups, plan, hgroups, -, -, hback, hplan, -⟩ := hdivide ⟨["a", "b", "c", "d", "e"]⟩
  obtain rfl := Except.ok.inj hgroups
  obtain rfl := Except.ok.inj hplan
  exact ⟨htwo, _, _, hgroups, hback, rfl, hplan, rfl, rfl, (hpacked _).2 ⟨_, hback, hgroups⟩⟩

end Varying

end Lanewise
