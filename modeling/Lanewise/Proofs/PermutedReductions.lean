import Lanewise.Proofs.Rotation
import Mathlib.Data.List.Perm.Subperm
import Mathlib.Data.List.Nodup

/-!
# Reductions of permuted lanes

Indices that point to different lanes, one for each lane of a value, point to every lane once
(`perm_range_of_nodup`). Fetching a value and a mask by them permutes the lanes of the two side by side
(`Varying.zip_gather`), so the values in active lanes stay the same up to their order, and a reduction does not look
at the order.
-/

set_option autoImplicit false

namespace Lanewise

/-! ### Indices that reach every lane once -/

/-- As many different numbers below a bound as the bound says are all of them, in some order. -/
theorem perm_range_of_nodup {sources : List Nat} {n : Nat} (hlength : sources.length = n)
    (hlt : ∀ i ∈ sources, i < n) (hnodup : sources.Nodup) : sources.Perm (List.range n) := by
  have hsubset : sources ⊆ List.range n := fun i hi => List.mem_range.2 (hlt i hi)
  apply (List.subperm_of_subset hnodup hsubset).perm_of_length_le
  rw [List.length_range, hlength]

/-- All numbers below a bound, in some order, are below it. -/
theorem lt_of_perm_range {sources : List Nat} {n : Nat} (h : sources.Perm (List.range n)) :
    ∀ i ∈ sources, i < n := by
  intro i hi
  exact List.mem_range.1 (h.mem_iff.1 hi)

namespace Varying

variable {α β : Type} {v : Varying α}

/-- Indices with different remainders reach every lane once. -/
theorem swizzled_perm_range {indices : Varying Int} (h : indices.width = v.width)
    (hnodup : (indices.lanes.map fun i : Int => i % v.width).Nodup) :
    (indices.lanes.map fun i => wrap i v.width).Perm (List.range v.width) := by
  have hwrapped : indices.lanes.map (fun i => wrap i v.width) =
      (indices.lanes.map fun i : Int => i % v.width).map Int.toNat := by
    rw [List.map_map]
    rfl
  apply perm_range_of_nodup ((List.length_map _).trans h) (lt_of_mem_swizzled h)
  rw [hwrapped]
  apply hnodup.map_on
  -- remainders are not negative, so none is lost
  have hnonneg : ∀ x ∈ indices.lanes.map (fun i : Int => i % v.width), 0 ≤ x := by
    intro x hx
    obtain ⟨i, hi, rfl⟩ := List.mem_map.1 hx
    have hpos : 0 < v.width := (List.length_pos_of_mem hi).trans_eq h
    exact Int.emod_nonneg i (Int.natCast_ne_zero.2 (Nat.ne_of_gt hpos))
  intro x hx y hy heq
  have hxnonneg := hnonneg x hx
  have hynonneg := hnonneg y hy
  omega

/-- A rotation takes every lane once. -/
theorem rotationSources_perm_range (v : Varying α) (offset : Int) :
    (v.rotationSources offset).Perm (List.range v.width) := by
  apply perm_range_of_nodup (by simp [rotationSources]) fun i => lt_of_mem_rotationSources
  apply List.nodup_range.map_on
  intro i hi j hj heq
  have hi : i < v.width := List.mem_range.1 hi
  have hj : j < v.width := List.mem_range.1 hj
  have hpos : 0 < v.width := Nat.zero_lt_of_lt hi
  have hmod : (i : Int) ≡ j [ZMOD v.width] := by
    have hsources : (i : Int) - offset ≡ j - offset [ZMOD v.width] := by
      rw [Int.ModEq, ← cast_wrap hpos, ← cast_wrap hpos, heq]
    exact Int.ModEq.add_right_cancel' (-offset) hsources
  rw [Int.ModEq, Int.emod_eq_of_lt (by omega) (by omega), Int.emod_eq_of_lt (by omega) (by omega)] at hmod
  exact Int.ofNat_inj.1 hmod

/-! ### Fetching by such indices -/

/-- Taking the lanes in their own order changes nothing. -/
theorem gather_range (v : Varying α) : (v.gather (List.range v.width)).lanes = v.lanes := by
  have hlt : ∀ i ∈ List.range v.width, i < v.width := fun i => List.mem_range.1
  apply List.ext_getElem?
  intro lane
  rw [getElem?_gather hlt]
  by_cases hlane : lane < v.width
  · rw [List.getElem?_range hlane, Option.bind_some]
  · have hle := Nat.not_lt.1 hlane
    rw [List.getElem?_eq_none (by simpa using hle), List.getElem?_eq_none hle]
    rfl

/-- Taking every lane once gives the same values in another order. -/
theorem lanes_gather_perm {sources : List Nat} (h : sources.Perm (List.range v.width)) :
    (v.gather sources).lanes.Perm v.lanes := by
  have hperm : (v.gather sources).lanes.Perm (v.gather (List.range v.width)).lanes := h.filterMap _
  rwa [gather_range] at hperm

/-- Two values that are fetched by the same indices keep their lanes side by side. -/
theorem zip_gather {w : Varying β} {sources : List Nat} (hv : ∀ i ∈ sources, i < v.width)
    (hw : ∀ i ∈ sources, i < w.width) :
    (v.gather sources).lanes.zip (w.gather sources).lanes =
      ((Varying.mk (v.lanes.zip w.lanes)).gather sources).lanes := by
  unfold gather
  induction sources with
  | nil => rfl
  | cons i rest ih =>
    obtain ⟨hiv, hrestv⟩ := List.forall_mem_cons.1 hv
    obtain ⟨hiw, hrestw⟩ := List.forall_mem_cons.1 hw
    obtain ⟨x, hx⟩ : ∃ x, v.lanes[i]? = some x := ⟨_, List.getElem?_eq_getElem hiv⟩
    obtain ⟨y, hy⟩ : ∃ y, w.lanes[i]? = some y := ⟨_, List.getElem?_eq_getElem hiw⟩
    have hboth : (v.lanes.zip w.lanes)[i]? = some (x, y) := List.getElem?_zip_eq_some.2 ⟨hx, hy⟩
    simp only [List.filterMap_cons, hx, hy, hboth, List.zip_cons_cons, ih hrestv hrestw]

end Varying

/-! ### Reductions -/

section Reductions

variable {α : Type} {r : Reduction α} {v : Varying α} {m : Mask} {sources : List Nat}

/-- The values in active lanes are the same up to their order if value and mask are permuted alike. -/
theorem Mask.select_gather_perm (hm : m.width = v.width) (h : sources.Perm (List.range v.width)) :
    ((m.toVarying.gather sources).toMask.select (v.gather sources).lanes).Perm (m.select v.lanes) := by
  have hmask : m.toVarying.width = v.width := hm
  have hlength : (Varying.mk (v.lanes.zip m.lanes)).width = v.width := by
    have hlanes : m.lanes.length = v.lanes.length := hm
    simp [Varying.width, hlanes]
  have hpairs : ((v.gather sources).lanes.zip (m.toVarying.gather sources).lanes).Perm (v.lanes.zip m.lanes) := by
    rw [Varying.zip_gather (lt_of_perm_range h) (hmask ▸ lt_of_perm_range h)]
    exact Varying.lanes_gather_perm (hlength.symm ▸ h)
  exact (hpairs.filter _).map _

namespace Reduction.Lawful

/-- A reduction does not depend on the order of the lanes. -/
theorem run_gather (h : r.Lawful) (hm : m.width = v.width) (hperm : sources.Perm (List.range v.width)) :
    r.run (v.gather sources) (m.toVarying.gather sources).toMask = r.run v m := by
  have hassoc := h.assoc
  have hcomm := h.comm
  have hmask : m.toVarying.width = v.width := hm
  have hwidth : (m.toVarying.gather sources).toMask.width = (v.gather sources).width :=
    (Varying.width_gather (hmask ▸ lt_of_perm_range hperm)).trans (Varying.width_gather (lt_of_perm_range hperm)).symm
  have hswap : ∀ a x y : α, r.op (r.op a x) y = r.op (r.op a y) x := by
    intro a x y
    ac_rfl
  rw [r.run_eq_foldl hwidth, r.run_eq_foldl hm]
  exact congrArg Except.ok ((Mask.select_gather_perm hm hperm).foldl_eq' (fun x _ y _ a => hswap a x y) r.unit)

/-- A swizzle whose indices all point to different lanes, made of the values and of the mask, does not change
the reduction. -/
theorem run_swizzle (h : r.Lawful) (hm : m.width = v.width) {indices : Varying Int} (hi : indices.width = v.width)
    (hnodup : (indices.lanes.map fun i : Int => i % v.width).Nodup) :
    ∃ moved active, v.swizzle indices = .ok moved ∧ m.toVarying.swizzle indices = .ok active ∧
      r.run moved active.toMask = r.run v m := by
  have hmask : m.toVarying.width = v.width := hm
  refine ⟨_, _, Varying.swizzle_eq_gather hi, Varying.swizzle_eq_gather (hi.trans hmask.symm), ?_⟩
  rw [hmask]
  exact h.run_gather hm (Varying.swizzled_perm_range hi hnodup)

/-- A rotation of the values and of the mask by the same offset does not change the reduction. -/
theorem run_rotate (h : r.Lawful) (hm : m.width = v.width) (offset : Int) :
    r.run (v.rotate offset) (m.toVarying.rotate offset).toMask = r.run v m := by
  have hsources : m.toVarying.rotationSources offset = v.rotationSources offset := by
    rw [Varying.rotationSources, Varying.rotationSources, show m.toVarying.width = v.width from hm]
  rw [Varying.rotate_eq_gather, Varying.rotate_eq_gather, hsources]
  exact h.run_gather hm (v.rotationSources_perm_range offset)

end Reduction.Lawful

end Reductions

/-- A reduction of integers of any type is the same after the lanes of the value and of the mask are permuted alike: by
any indices with different remainders modulo the number of lanes, in or out of range, and so by any rotation. -/
theorem IntReduction.permuted_lanes_reduce_alike (k : IntKind) (r : IntReduction) {v : Varying (Word k)} {m : Mask}
    (hm : m.width = v.width) :
    ∃ total, (r.reduction k).run v m = .ok total ∧
      (∀ indices : Varying Int64, indices.width = v.width →
        (indices.lanes.map fun i => i.toInt % (v.width : Int)).Nodup →
          ∃ moved active, v.swizzle (indices.map Int64.toInt) = .ok moved ∧
            m.toVarying.swizzle (indices.map Int64.toInt) = .ok active ∧
            (r.reduction k).run moved active.toMask = .ok total) ∧
      ∀ offset : Int64,
        (r.reduction k).run (v.rotate offset.toInt) (m.toVarying.rotate offset.toInt).toMask = .ok total := by
  have htotal := (r.reduction k).run_eq_foldl hm
  refine ⟨_, htotal, fun indices hwidth hnodup => ?_, fun offset => ?_⟩
  · have hindices : (indices.map Int64.toInt).width = v.width := (List.length_map _).trans hwidth
    rw [← htotal]
    apply (r.lawful k).run_swizzle hm hindices
    rwa [Varying.map, List.map_map]
  · rw [(r.lawful k).run_rotate hm, htotal]

section Sum

/-- The integers of eight bits without a sign. -/
def IntKind.byte : IntKind :=
  ⟨false, 8⟩

/-- Four bytes, of which all but the third are active. -/
def fourBytes : Varying (Word .byte) × Mask :=
  (⟨[200, 100, 77, 1]⟩, ⟨[true, true, false, true]⟩)

/-- Indices out of the range of four lanes that reach each of them once. -/
def scattered : Varying Int64 :=
  ⟨[Int64.minValue, -1, 5, 6]⟩

/-- A sum of bytes that wraps, of lanes that are fetched by indices out of range, and of rotated ones. -/
theorem IntReduction.permuted_lanes_reduce_alike_bytes :
    fourBytes.2.width = fourBytes.1.width ∧ scattered.width = fourBytes.1.width ∧
      (scattered.lanes.map fun i => i.toInt % (4 : Int)).Nodup ∧
      (∃ moved active, fourBytes.1.swizzle (scattered.map Int64.toInt) = .ok moved ∧
        fourBytes.2.toVarying.swizzle (scattered.map Int64.toInt) = .ok active ∧
        active = ⟨[true, true, true, false]⟩ ∧
        (IntReduction.add.reduction .byte).run moved active.toMask = .ok 45) ∧
      (IntReduction.add.reduction .byte).run (fourBytes.1.rotate Int64.minValue.toInt)
        (fourBytes.2.toVarying.rotate Int64.minValue.toInt).toMask = .ok 45 := by
  have hm : fourBytes.2.width = fourBytes.1.width := rfl
  have hnodup : (scattered.lanes.map fun i => i.toInt % (4 : Int)).Nodup := by decide
  obtain ⟨total, htotal, hswizzle, hrotate⟩ := IntReduction.permuted_lanes_reduce_alike .byte .add hm
  obtain ⟨moved, active, hmoved, hactive, hrun⟩ := hswizzle scattered rfl hnodup
  have hsum : (IntReduction.add.reduction .byte).run fourBytes.1 fourBytes.2 = .ok 45 := rfl
  obtain rfl := Except.ok.inj (htotal.symm.trans hsum)
  exact ⟨hm, rfl, hnodup, ⟨moved, active, hmoved, hactive, (Except.ok.inj hactive).symm, hrun⟩, hrotate _⟩

end Sum

end Lanewise
