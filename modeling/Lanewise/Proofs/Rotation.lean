import Lanewise.Lanes.Permute
import Lanewise.Proofs.BitMasks
import Lanewise.Proofs.ConstantFolding
import Mathlib.Data.Int.ModEq

/-!
# Rotations

A rotation by `k` fetches into lane `i` the value of the lane that `i - k` is congruent to, modulo the number of lanes
(`Varying.rotate_eq_gather`). So a rotation is the swizzle by these indices, and rotations compose as their offsets
add up.

The number of that lane is computed in words of 64 bits, some of them signed and some not. Here the computation is
written out once more with every step checked (`Varying.rotateChecked?`, `Varying.swizzleChecked?`): it stops if a
value is not a word of its type or a lane does not exist. For lane counts that are signed words it never stops, and it
gives the rotation and the swizzle over all integers.
-/

set_option autoImplicit false

namespace Lanewise

/-! ### Indices brought into range -/

section Wrap

variable {n : Nat} {i j : Int}

/-- An index in range of a positive number of lanes is the remainder that is not negative. -/
theorem cast_wrap (hn : 0 < n) (i : Int) : (wrap i n : Int) = i % n :=
  Int.toNat_of_nonneg (Int.emod_nonneg i (Int.natCast_ne_zero.2 (Nat.ne_of_gt hn)))

/-- An index in range is below the number of lanes. -/
theorem wrap_lt (hn : 0 < n) (i : Int) : wrap i n < n := by
  have hlt : i % n < n := Int.emod_lt_of_pos i (Int.natCast_pos.2 hn)
  rw [← cast_wrap hn] at hlt
  exact Int.ofNat_lt.1 hlt

/-- Indices that differ by a multiple of the number of lanes come to the same lane. -/
theorem wrap_congr (h : i ≡ j [ZMOD n]) : wrap i n = wrap j n :=
  congrArg Int.toNat h

/-- The lane that a rotation by `k` reads for lane `i`, which is computed without negative numbers. -/
theorem add_sub_wrap_mod (hn : 0 < n) (k : Int) (i : Nat) :
    (i + n - wrap k n) % n = wrap (i - k) n := by
  have hle : wrap k n ≤ i + n := (Nat.le_of_lt (wrap_lt hn k)).trans (Nat.le_add_left n i)
  have hmod : ((i + n - wrap k n : Nat) : Int) ≡ i - k [ZMOD n] := by
    rw [Int.ofNat_sub hle, cast_wrap hn, Int.natCast_add]
    calc (i : Int) + n - k % n ≡ i + n - k [ZMOD n] := (Int.mod_modEq k n).sub_left _
      _ = i - k + n := by omega
      _ ≡ i - k [ZMOD n] := Int.add_modEq_right
  apply Int.ofNat_inj.1
  rw [cast_wrap hn, Int.natCast_mod]
  exact hmod

end Wrap

/-! ### Lanes that are fetched -/

namespace Varying

variable {α : Type} {v : Varying α}

/-- Values of one number of lanes are equal if their lanes are. -/
theorem ext_lanes {w : Varying α} (hwidth : v.width = w.width)
    (h : ∀ lane < v.width, v.lanes[lane]? = w.lanes[lane]?) : v = w := by
  have hlanes : v.lanes = w.lanes := by
    apply List.ext_getElem?
    intro lane
    by_cases hlane : lane < v.width
    · exact h lane hlane
    · have hle := Nat.not_lt.1 hlane
      rw [List.getElem?_eq_none hle, List.getElem?_eq_none (hwidth.symm.trans_le hle)]
  exact congrArg Varying.mk hlanes

/-- If all indices are lanes, every one of them is fetched, in order. -/
theorem getElem?_gather {indices : List Nat} (h : ∀ i ∈ indices, i < v.width) (lane : Nat) :
    (v.gather indices).lanes[lane]? = indices[lane]?.bind fun i => v.lanes[i]? := by
  unfold gather
  induction indices generalizing lane with
  | nil => simp
  | cons i rest ih =>
    obtain ⟨hi, hrest⟩ := List.forall_mem_cons.1 h
    rw [List.filterMap_cons, List.getElem?_eq_getElem hi]
    cases lane with
    | zero => simp [List.getElem?_eq_getElem hi]
    | succ lane => simpa using ih hrest lane

/-- If all indices are lanes, there are as many lanes as indices. -/
theorem width_gather {indices : List Nat} (h : ∀ i ∈ indices, i < v.width) :
    (v.gather indices).width = indices.length := by
  unfold gather width
  induction indices with
  | nil => rfl
  | cons i rest ih =>
    obtain ⟨hi, hrest⟩ := List.forall_mem_cons.1 h
    rw [List.filterMap_cons, List.getElem?_eq_getElem hi, List.length_cons, List.length_cons, ih hrest]

/-! ### Rotations -/

/-- The lanes that a rotation reads, one for each lane that it writes. -/
def rotationSources (v : Varying α) (offset : Int) : List Nat :=
  (List.range v.width).map fun lane : Nat => wrap (lane - offset) v.width

/-- A rotation fetches the lanes that it reads. -/
theorem rotate_eq_gather (v : Varying α) (offset : Int) : v.rotate offset = v.gather (v.rotationSources offset) := by
  have hsources : ∀ lane ∈ List.range v.width,
      (lane + v.width - wrap offset v.width) % v.width = wrap (lane - offset) v.width := by
    intro lane hlane
    have hpos : 0 < v.width := Nat.zero_lt_of_lt (List.mem_range.1 hlane)
    exact add_sub_wrap_mod hpos offset lane
  rw [rotate, rotationSources, List.map_congr_left hsources]

/-- The lanes that a rotation reads are there. -/
theorem lt_of_mem_rotationSources {offset : Int} {i : Nat} (h : i ∈ v.rotationSources offset) : i < v.width := by
  obtain ⟨lane, hlane, rfl⟩ := List.mem_map.1 h
  exact wrap_lt (Nat.zero_lt_of_lt (List.mem_range.1 hlane)) _

/-- A rotation keeps the number of lanes. -/
@[simp] theorem width_rotate (v : Varying α) (offset : Int) : (v.rotate offset).width = v.width := by
  rw [rotate_eq_gather, width_gather fun i => lt_of_mem_rotationSources, rotationSources, List.length_map,
    List.length_range]

/-- A rotated lane has the value of the lane that lies back by the offset, around the end. -/
theorem getElem?_rotate (offset : Int) {lane : Nat} (hlane : lane < v.width) :
    (v.rotate offset).lanes[lane]? = v.lanes[wrap (lane - offset) v.width]? := by
  rw [rotate_eq_gather, getElem?_gather fun i => lt_of_mem_rotationSources, rotationSources, List.getElem?_map,
    List.getElem?_range hlane]
  rfl

/-- Rotations one after another are a rotation by the sum of the offsets, or by any other number that is congruent
to it. -/
theorem rotate_rotate {a b c : Int} (h : c ≡ a + b [ZMOD v.width]) : (v.rotate a).rotate b = v.rotate c := by
  apply ext_lanes
  · simp
  · intro lane hlane
    have hlane : lane < v.width := by simpa using hlane
    have hpos : 0 < v.width := Nat.zero_lt_of_lt hlane
    have hmod : ((lane : Int) - b) % v.width - a ≡ lane - c [ZMOD v.width] :=
      calc ((lane : Int) - b) % v.width - a ≡ lane - b - a [ZMOD v.width] := (Int.mod_modEq _ _).sub_right a
        _ = lane - (a + b) := by omega
        _ ≡ lane - c [ZMOD v.width] := h.symm.sub_left lane
    have hfirst := wrap_lt hpos (lane - b)
    rw [getElem?_rotate b (by simpa using hlane), width_rotate, getElem?_rotate a hfirst, cast_wrap hpos,
      wrap_congr hmod, getElem?_rotate c hlane]

/-! ### Swizzles -/

/-- A swizzle fetches the lanes at its indices, each brought into range. -/
theorem swizzle_eq_gather {indices : Varying Int} (h : indices.width = v.width) :
    v.swizzle indices = .ok (v.gather (indices.lanes.map fun i => wrap i v.width)) := by
  rw [swizzle, sameWidth, if_pos h.symm]
  rfl

/-- The lanes that a swizzle reads are there. -/
theorem lt_of_mem_swizzled {indices : Varying Int} (h : indices.width = v.width) :
    ∀ source ∈ indices.lanes.map (fun i => wrap i v.width), source < v.width := by
  intro source hsource
  obtain ⟨i, hi, rfl⟩ := List.mem_map.1 hsource
  exact wrap_lt ((List.length_pos_of_mem hi).trans_eq h) i

/-- A rotation is the swizzle by indices that are congruent to the lanes, moved by the offset. -/
theorem swizzle_eq_rotate {indices : Varying Int} {offset : Int} (h : indices.width = v.width)
    (hmod : ∀ (lane : Nat) i, indices.lanes[lane]? = some i → i ≡ lane - offset [ZMOD v.width]) :
    v.swizzle indices = .ok (v.rotate offset) := by
  have hsources : indices.lanes.map (fun i => wrap i v.width) = v.rotationSources offset := by
    apply List.ext_getElem?
    intro lane
    rw [rotationSources, List.getElem?_map, List.getElem?_map]
    by_cases hlane : lane < v.width
    · have hin : lane < indices.lanes.length := hlane.trans_eq h.symm
      have hget := List.getElem?_eq_getElem hin
      rw [hget, List.getElem?_range hlane, Option.map_some, Option.map_some, wrap_congr (hmod lane _ hget)]
    · have hle := Nat.not_lt.1 hlane
      rw [List.getElem?_eq_none (h.trans_le hle), List.getElem?_eq_none (by simpa using hle)]
      rfl
  rw [swizzle_eq_gather h, hsources, rotate_eq_gather]

end Varying

/-! ### The same in words -/

/-- The unsigned word with a given value, if the value is in range. -/
def laneNumber? (value : Int) : Option UInt64 :=
  if 0 ≤ value ∧ value < UInt64.size then some (UInt64.ofNat value.toNat) else none

/-- An index brought into the range of `n` lanes, step by step: the lane count as a signed word, the remainder, which
is a signed word too, and the remainder as a lane number. -/
def wrapChecked? (i : Int64) (n : UInt64) : Option UInt64 := do
  let count ← word? n.toNat
  if count.toInt = 0 then none
  else
    let rest ← word? (i.toInt % count.toInt)
    laneNumber? rest.toInt

/-- The lane of `n` lanes that a rotation by `up` reads for a lane, step by step. The number of lanes is added first, so
that no value is negative. -/
def rotationSource? (n up : UInt64) (lane : Nat) : Option Nat := do
  let above ← laneNumber? (lane + n.toNat)
  let moved ← laneNumber? (above.toNat - up.toNat)
  if n.toNat = 0 then none else some (moved.toNat % n.toNat)

/-- A number below the size of a word is a lane number. -/
theorem laneNumber?_of_lt {value : Nat} (h : value < UInt64.size) :
    ∃ number, laneNumber? value = some number ∧ number.toNat = value := by
  have hrange : (0 : Int) ≤ value ∧ (value : Int) < UInt64.size :=
    ⟨Int.natCast_nonneg value, Int.ofNat_lt.2 h⟩
  refine ⟨UInt64.ofNat value, ?_, UInt64.toNat_ofNat_of_lt h⟩
  rw [laneNumber?, if_pos hrange, Int.toNat_natCast]

/-- A lane count that is a signed word leaves room for two lane numbers in an unsigned one. -/
theorem two_mul_lt_of_isWord {n : Nat} (h : IsWord n) : 2 * n < UInt64.size := by
  have hmax : Int64.maxValue.toInt = 9223372036854775807 := rfl
  have hsize : UInt64.size = 18446744073709551616 := rfl
  obtain ⟨-, hle⟩ := h
  omega

/-- A number below a signed word is a signed word. -/
theorem isWord_of_lt {k n : Nat} (h : IsWord n) (hlt : k < n) : IsWord k := by
  have hmin : Int64.minValue.toInt = -9223372036854775808 := rfl
  obtain ⟨-, hupper⟩ := h
  exact ⟨by omega, by omega⟩

section Checked

variable {n : UInt64}

/-- Step by step an index comes to the same lane as over all integers, if the lane count is a signed word. -/
theorem wrapChecked?_eq (hword : IsWord n.toNat) (hpos : 0 < n.toNat) (i : Int64) :
    ∃ source, wrapChecked? i n = some source ∧ source.toNat = wrap i.toInt n.toNat := by
  have hlt := wrap_lt hpos i.toInt
  have hrest : IsWord (i.toInt % n.toNat) := by
    rw [← cast_wrap hpos]
    exact isWord_of_lt hword hlt
  have hne : ¬ (n.toNat : Int) = 0 := by omega
  obtain ⟨source, hsource, hvalue⟩ := laneNumber?_of_lt (hlt.trans n.toNat_lt_size)
  refine ⟨source, ?_, hvalue⟩
  simp only [wrapChecked?, word?_of_isWord hword, toInt_ofInt_of_isWord hword, word?_of_isWord hrest,
    toInt_ofInt_of_isWord hrest, Option.bind_eq_bind, Option.bind_some, if_neg hne]
  rw [← cast_wrap hpos, hsource]

/-- Step by step a rotation reads the same lane as over all numbers, if the lane count is a signed word. -/
theorem rotationSource?_eq {up : UInt64} {lane : Nat} (hword : IsWord n.toNat) (hup : up.toNat < n.toNat)
    (hlane : lane < n.toNat) : rotationSource? n up lane = some ((lane + n.toNat - up.toNat) % n.toNat) := by
  have hroom := two_mul_lt_of_isWord hword
  have hne : ¬ n.toNat = 0 := by omega
  obtain ⟨above, habove, haboveValue⟩ := laneNumber?_of_lt (show lane + n.toNat < UInt64.size by omega)
  obtain ⟨moved, hmoved, hmovedValue⟩ :=
    laneNumber?_of_lt (show lane + n.toNat - up.toNat < UInt64.size by omega)
  rw [Int.natCast_add] at habove
  rw [← haboveValue, Int.ofNat_sub (by omega)] at hmoved
  simp only [rotationSource?, habove, hmoved, Option.bind_eq_bind, Option.bind_some, if_neg hne, hmovedValue]

/-- A list is mapped as a whole if each of its elements is, and nothing is left out then. -/
theorem mapM_eq_filterMap {β γ : Type} {f g : β → Option γ} {l : List β}
    (h : ∀ x ∈ l, ∃ y, f x = some y ∧ g x = some y) : l.mapM f = some (l.filterMap g) := by
  induction l with
  | nil => rfl
  | cons x rest ih =>
    obtain ⟨⟨y, hf, hg⟩, hrest⟩ := List.forall_mem_cons.1 h
    rw [List.mapM_cons, hf, ih hrest, List.filterMap_cons, hg]
    rfl

end Checked

namespace Varying

variable {α : Type} {v : Varying α}

/-- A rotation, step by step. -/
def rotateChecked? (v : Varying α) (offset : Int64) : Option (Varying α) :=
  if v.width = 0 then some v
  else do
    let n ← laneNumber? v.width
    let up ← wrapChecked? offset n
    let lanes ← (List.range v.width).mapM fun lane : Nat => do
      let source ← rotationSource? n up lane
      v.lanes[source]?
    return ⟨lanes⟩

/-- A swizzle, step by step. -/
def swizzleChecked? (v : Varying α) (indices : Varying Int64) : Option (Except LaneError (Varying α)) :=
  if v.width = indices.width then do
    let n ← laneNumber? v.width
    let lanes ← indices.lanes.mapM fun i => do
      let source ← wrapChecked? i n
      v.lanes[source.toNat]?
    return .ok ⟨lanes⟩
  else some (.error (.widthMismatch v.width indices.width))

/-- No step of a swizzle leaves its type, and every lane that it reads exists. -/
theorem swizzleChecked?_eq (hword : IsWord v.width) (indices : Varying Int64) :
    v.swizzleChecked? indices = some (v.swizzle (indices.map Int64.toInt)) := by
  have hwidth : (indices.map Int64.toInt).width = indices.width := List.length_map _
  by_cases hsame : v.width = indices.width
  · have hlt := two_mul_lt_of_isWord hword
    obtain ⟨n, hn, hvalue⟩ := laneNumber?_of_lt (show v.width < UInt64.size by omega)
    rw [← hvalue] at hword
    have hlanes : ∀ i ∈ indices.lanes, ∃ x,
        ((wrapChecked? i n).bind fun source => v.lanes[source.toNat]?) = some x ∧
          v.lanes[wrap i.toInt v.width]? = some x := by
      intro i hi
      have hpos : 0 < v.width := (List.length_pos_of_mem hi).trans_eq hsame.symm
      have hin : wrap i.toInt v.width < v.lanes.length := wrap_lt hpos i.toInt
      obtain ⟨source, hsource, hsourceValue⟩ := wrapChecked?_eq hword (hvalue ▸ hpos) i
      refine ⟨_, ?_, List.getElem?_eq_getElem hin⟩
      rw [hsource, Option.bind_some, hsourceValue, hvalue, List.getElem?_eq_getElem hin]
    rw [swizzleChecked?, if_pos hsame, hn, swizzle_eq_gather (hwidth.trans hsame.symm), gather, Varying.map,
      List.map_map, List.filterMap_map]
    simp only [Option.bind_eq_bind, Option.bind_some, mapM_eq_filterMap hlanes]
    rfl
  · rw [swizzleChecked?, if_neg hsame, swizzle, sameWidth, hwidth, if_neg hsame]
    rfl

/-- No step of a rotation leaves its type, and every lane that it reads exists. -/
theorem rotateChecked?_eq (hword : IsWord v.width) (offset : Int64) :
    v.rotateChecked? offset = some (v.rotate offset.toInt) := by
  by_cases hempty : v.width = 0
  · have hrotate : v.rotate offset.toInt = v := by
      apply ext_lanes (width_rotate v _)
      intro lane hlane
      rw [width_rotate] at hlane
      omega
    rw [rotateChecked?, if_pos hempty, hrotate]
  · have hpos : 0 < v.width := Nat.pos_of_ne_zero hempty
    have hroom := two_mul_lt_of_isWord hword
    obtain ⟨n, hn, hvalue⟩ := laneNumber?_of_lt (show v.width < UInt64.size by omega)
    rw [← hvalue] at hword
    obtain ⟨up, hup, hupValue⟩ := wrapChecked?_eq hword (hvalue ▸ hpos) offset
    rw [hvalue] at hupValue
    have hlanes : ∀ lane ∈ List.range v.width, ∃ x,
        ((rotationSource? n up lane).bind fun source => v.lanes[source]?) = some x ∧
          v.lanes[(lane + v.width - wrap offset.toInt v.width) % v.width]? = some x := by
      intro lane hlane
      have hlane : lane < n.toNat := hvalue ▸ List.mem_range.1 hlane
      have huplt : up.toNat < n.toNat := by
        rw [hupValue, hvalue]
        exact wrap_lt hpos _
      have hin : (lane + v.width - wrap offset.toInt v.width) % v.width < v.lanes.length := Nat.mod_lt _ hpos
      refine ⟨_, ?_, List.getElem?_eq_getElem hin⟩
      rw [rotationSource?_eq hword huplt hlane, Option.bind_some, hupValue, hvalue, List.getElem?_eq_getElem hin]
    rw [rotateChecked?, if_neg hempty, hn, rotate, gather, List.filterMap_map]
    simp only [Option.bind_eq_bind, Option.bind_some, hup, mapM_eq_filterMap hlanes]
    rfl

/-- Rotations are an action of the integers on the lanes. Lane `i` of the rotation by any 64-bit offset `k` is the lane
of the value that `i - k` is congruent to over all integers, so that rotations compose as their offsets add up modulo
the number of lanes, and a rotation is the swizzle by any indices that are congruent to these lanes. Neither rotations
nor swizzles leave the range of a word or of the lanes on the way. -/
theorem rotations_act_cyclically {v : Varying α} (hword : IsWord v.width) :
    (∀ k : Int64, v.rotateChecked? k = some (v.rotate k.toInt) ∧ (v.rotate k.toInt).width = v.width ∧
      ∀ lane < v.width, ∃ source < v.width, (source : Int) = (lane - k.toInt) % v.width ∧
        (v.rotate k.toInt).get lane = v.get source) ∧
    (∀ a b c : Int64, c.toInt ≡ a.toInt + b.toInt [ZMOD v.width] →
      (v.rotate a.toInt).rotate b.toInt = v.rotate c.toInt) ∧
    (∀ indices : Varying Int64, v.swizzleChecked? indices = some (v.swizzle (indices.map Int64.toInt))) ∧
    ∀ (k : Int64) (indices : Varying Int64), indices.width = v.width →
      (∀ lane i, indices.get lane = .ok i → i.toInt ≡ lane - k.toInt [ZMOD v.width]) →
        v.swizzle (indices.map Int64.toInt) = .ok (v.rotate k.toInt) := by
  refine ⟨fun k => ⟨rotateChecked?_eq hword k, width_rotate v _, ?_⟩, fun a b c => rotate_rotate,
    swizzleChecked?_eq hword, fun k indices hwidth hmod => swizzle_eq_rotate ?_ ?_⟩
  · intro lane hlane
    have hpos : 0 < v.width := Nat.zero_lt_of_lt hlane
    have hin : wrap (lane - k.toInt) v.width < v.lanes.length := wrap_lt hpos _
    refine ⟨_, hin, cast_wrap hpos _, ?_⟩
    rw [get_eq_ok.2 (List.getElem?_eq_getElem hin), get_eq_ok, getElem?_rotate _ hlane, List.getElem?_eq_getElem hin]
  · exact (List.length_map _).trans hwidth
  · intro lane i hi
    rw [Varying.map, List.getElem?_map, Option.map_eq_some_iff] at hi
    obtain ⟨word, hget, rfl⟩ := hi
    exact hmod lane word (get_eq_ok.2 hget)

/-- Three lanes rotated by the least offset there is, and by the greatest one twice. Both are congruent to one. -/
theorem rotations_act_cyclically_extremes :
    IsWord 3 ∧ (Varying.mk ["a", "b", "c"]).rotateChecked? Int64.minValue = some ⟨["c", "a", "b"]⟩ ∧
      ((Varying.mk ["a", "b", "c"]).rotate Int64.maxValue.toInt).rotate Int64.maxValue.toInt =
        ⟨["b", "c", "a"]⟩ ∧
      (Varying.mk ["a", "b", "c"]).swizzle ⟨[-1, 3, -2]⟩ = .ok ⟨["c", "a", "b"]⟩ := by
  have hword : IsWord (Varying.mk ["a", "b", "c"]).width := by decide
  obtain ⟨hrotate, hcompose, -, hswizzle⟩ := rotations_act_cyclically hword
  refine ⟨hword, (hrotate Int64.minValue).1, ?_, ?_⟩
  · exact hcompose Int64.maxValue Int64.maxValue 2 (by decide)
  · refine hswizzle Int64.minValue ⟨[-1, 3, -2]⟩ rfl fun lane i hi => ?_
    rcases lane with _ | _ | _ | lane
    · cases hi
      decide
    · cases hi
      decide
    · cases hi
      decide
    · cases hi

end Varying

end Lanewise
