import Lanewise.Proofs.Rotation

/-!
# Shifts

A value is continued over all integers by blanks on both sides of its lanes (`Varying.valueAt`). A shift to the left
by `a` puts into lane `i` what the continued value has at `i - a`, and a shift to the right what it has at `i + a`, so
shifts to one side add up, and a shift back finds blanks where lanes fell off.

Lanes are numbered by unsigned words of 64 bits, in which a sum or a difference of two lane numbers need not exist. The
shifts are written out once more in such words (`Varying.shiftChecked?`, `Varying.shiftByChecked?`). As no lane has a
number that is not a word, a sum that is not one leads to no lane, and the shifts are those over all integers.
-/

set_option autoImplicit false

namespace Lanewise

namespace Varying

variable {α : Type} [Blank α] {v : Varying α}

/-! ### Values continued by blanks -/

/-- What a value has at an integer: the value in that lane, or a blank if there is no such lane. -/
def valueAt (v : Varying α) (i : Int) : α :=
  if 0 ≤ i then v.lanes[i.toNat]?.getD Blank.blank else Blank.blank

/-- At a lane number stands the value of that lane, or a blank. -/
theorem valueAt_natCast (v : Varying α) (lane : Nat) : v.valueAt lane = v.lanes[lane]?.getD Blank.blank := by
  rw [valueAt, if_pos (Int.natCast_nonneg lane), Int.toNat_natCast]

/-- Below the lanes there are blanks. -/
theorem valueAt_of_neg {i : Int} (h : i < 0) : v.valueAt i = Blank.blank :=
  if_neg (Int.not_le.2 h)

/-- Above the lanes there are blanks. -/
theorem valueAt_of_width_le {i : Int} (h : v.width ≤ i) : v.valueAt i = Blank.blank := by
  have hle : v.lanes.length ≤ i.toNat := by
    have hwidth : (v.lanes.length : Int) ≤ i := h
    omega
  unfold valueAt
  rw [List.getElem?_eq_none hle, Option.getD_none, ite_self]

/-- A lane holds the value at its number. -/
theorem getElem?_eq_valueAt {lane : Nat} (h : lane < v.width) : v.lanes[lane]? = some (v.valueAt lane) := by
  have hget := List.getElem?_eq_getElem (show lane < v.lanes.length from h)
  rw [valueAt_natCast, hget, Option.getD_some]

/-- Values of one number of lanes are equal if they have the same at every lane. -/
theorem ext_valueAt {w : Varying α} (hwidth : v.width = w.width)
    (h : ∀ lane : Nat, lane < v.width → v.valueAt lane = w.valueAt lane) : v = w := by
  apply ext_lanes hwidth
  intro lane hlane
  rw [getElem?_eq_valueAt hlane, getElem?_eq_valueAt (hwidth ▸ hlane), h lane hlane]

/-- A value spread over some lanes has that many. -/
theorem width_splat {β : Type} (value : β) (width : Nat) : (splat value width).width = width :=
  List.length_replicate

/-- A value that is blank in all lanes is blank everywhere. -/
theorem valueAt_splat_blank (width : Nat) (i : Int) : (splat (Blank.blank : α) width).valueAt i = Blank.blank := by
  unfold valueAt splat
  rw [List.getElem?_replicate]
  split
  · split
    · rfl
    · rfl
  · rfl

/-! ### Lanes that are fetched from a source -/

/-- Fetching keeps the number of lanes. -/
@[simp] theorem width_fetch (v : Varying α) (source : Nat → Option Nat) : (v.fetch source).width = v.width := by
  simp [fetch, width]

/-- A fetched lane holds the value of its source, or a blank if it has none. -/
theorem valueAt_fetch (source : Nat → Option Nat) {lane : Nat} (h : lane < v.width) :
    (v.fetch source).valueAt lane = ((source lane).bind fun s => v.lanes[s]?).getD Blank.blank := by
  rw [valueAt_natCast, fetch, List.getElem?_map, List.getElem?_range h]
  rfl

/-- Fetching looks at the sources of its lanes only. -/
theorem fetch_congr {source source' : Nat → Option Nat} (h : ∀ lane < v.width, source lane = source' lane) :
    v.fetch source = v.fetch source' := by
  apply ext_valueAt (by simp)
  intro lane hlane
  have hlane : lane < v.width := by simpa using hlane
  rw [valueAt_fetch source hlane, valueAt_fetch source' hlane, h lane hlane]

/-! ### Shifts over all integers -/

/-- A shift to the left keeps the number of lanes. -/
@[simp] theorem width_shiftLeft (v : Varying α) (amount : Nat) : (v.shiftLeft amount).width = v.width :=
  width_fetch v _

/-- A shift to the right keeps the number of lanes. -/
@[simp] theorem width_shiftRight (v : Varying α) (amount : Nat) : (v.shiftRight amount).width = v.width :=
  width_fetch v _

/-- A shift to the left moves the continued value up, and cuts it off above the lanes. -/
theorem valueAt_shiftLeft (amount : Nat) {i : Int} (h : i < v.width) :
    (v.shiftLeft amount).valueAt i = v.valueAt (i - amount) := by
  by_cases hneg : i < 0
  · rw [valueAt_of_neg hneg, valueAt_of_neg (by omega)]
  · obtain ⟨lane, rfl⟩ := Int.eq_ofNat_of_zero_le (Int.not_lt.1 hneg)
    rw [shiftLeft, valueAt_fetch _ (Int.ofNat_lt.1 h), laneBelow]
    by_cases hle : amount ≤ lane
    · rw [if_pos hle, Option.bind_some, ← Int.ofNat_sub hle, valueAt_natCast]
    · rw [if_neg hle, valueAt_of_neg (by omega)]
      rfl

/-- A shift to the right moves the continued value down, and cuts it off below the lanes. -/
theorem valueAt_shiftRight (amount : Nat) {i : Int} (h : 0 ≤ i) :
    (v.shiftRight amount).valueAt i = v.valueAt (i + amount) := by
  obtain ⟨lane, rfl⟩ := Int.eq_ofNat_of_zero_le h
  by_cases hlane : lane < v.width
  · rw [shiftRight, valueAt_fetch _ hlane, laneAbove, Option.bind_some, ← Int.natCast_add, valueAt_natCast]
  · have hwidth : ((v.shiftRight amount).width : Int) ≤ lane := by
      rw [width_shiftRight]
      omega
    rw [valueAt_of_width_le hwidth, valueAt_of_width_le (by omega)]

/-- Shifts to the left add up. -/
theorem shiftLeft_shiftLeft (v : Varying α) (a b : Nat) : (v.shiftLeft a).shiftLeft b = v.shiftLeft (a + b) := by
  apply ext_valueAt (by simp)
  intro lane hlane
  simp only [width_shiftLeft] at hlane
  rw [valueAt_shiftLeft b (by rw [width_shiftLeft]; omega), valueAt_shiftLeft a (by omega),
    valueAt_shiftLeft (a + b) (by omega)]
  congr 1
  omega

/-- Shifts to the right add up. -/
theorem shiftRight_shiftRight (v : Varying α) (a b : Nat) : (v.shiftRight a).shiftRight b = v.shiftRight (a + b) := by
  apply ext_valueAt (by simp)
  intro lane _
  rw [valueAt_shiftRight b (by omega), valueAt_shiftRight a (by omega), valueAt_shiftRight (a + b) (by omega)]
  congr 1
  omega

/-- A shift to the left by all lanes or more leaves blanks only. -/
theorem shiftLeft_of_width_le {amount : Nat} (h : v.width ≤ amount) :
    v.shiftLeft amount = splat Blank.blank v.width := by
  apply ext_valueAt (by rw [width_splat]; simp)
  intro lane hlane
  simp only [width_shiftLeft] at hlane
  rw [valueAt_shiftLeft amount (by omega), valueAt_splat_blank, valueAt_of_neg (by omega)]

/-- A shift to the right by all lanes or more leaves blanks only. -/
theorem shiftRight_of_width_le {amount : Nat} (h : v.width ≤ amount) :
    v.shiftRight amount = splat Blank.blank v.width := by
  apply ext_valueAt (by rw [width_splat]; simp)
  intro lane _
  rw [valueAt_shiftRight amount (by omega), valueAt_splat_blank, valueAt_of_width_le (by omega)]

/-- What falls off at the top is blank after a shift back. -/
theorem shiftRight_shiftLeft (v : Varying α) (amount : Nat) :
    (v.shiftLeft amount).shiftRight amount =
      ⟨v.lanes.take (v.width - min amount v.width) ++ List.replicate (min amount v.width) Blank.blank⟩ := by
  have hlength : (v.lanes.take (v.width - min amount v.width)).length = v.width - min amount v.width := by
    rw [List.length_take]
    exact Nat.min_eq_left (Nat.sub_le _ _)
  apply ext_valueAt
  · rw [width_shiftRight, width_shiftLeft]
    show v.width = (_ ++ _ : List α).length
    rw [List.length_append, hlength, List.length_replicate]
    omega
  · intro lane hlane
    simp only [width_shiftRight, width_shiftLeft] at hlane
    rw [valueAt_shiftRight amount (by omega), valueAt_natCast]
    by_cases hkept : lane + amount < v.width
    · have hback : (lane : Int) + amount - amount = lane := by omega
      rw [valueAt_shiftLeft amount (by omega), hback, valueAt_natCast, List.getElem?_append_left (by omega),
        List.getElem?_take_of_lt (by omega)]
    · have hout : ((v.shiftLeft amount).width : Int) ≤ lane + amount := by
        rw [width_shiftLeft]
        omega
      rw [valueAt_of_width_le hout, List.getElem?_append_right (by omega), List.getElem?_replicate_of_lt (by omega)]
      rfl

/-! ### Shifts by an amount for each lane -/

/-- Fetches into each lane the value of a source that depends on an amount of its own. -/
def fetchBy (v : Varying α) (source : Nat → Nat → Option Nat) (amounts : Varying Nat) :
    Except LaneError (Varying α) := do
  sameWidth v.width amounts.width
  return v.fetch fun i => (amounts.lanes[i]?).bind fun a => source a i

/-- A shift to the left by an amount for each lane fetches from that far below. -/
theorem shiftLeftBy_eq_fetchBy (v : Varying α) (amounts : Varying Nat) :
    v.shiftLeftBy amounts = v.fetchBy laneBelow amounts := rfl

/-- A shift to the right by an amount for each lane fetches from that far above. -/
theorem shiftRightBy_eq_fetchBy (v : Varying α) (amounts : Varying Nat) :
    v.shiftRightBy amounts = v.fetchBy laneAbove amounts := rfl

/-- With an amount for every lane, each is fetched by its own. -/
theorem fetchBy_of_width_eq (source : Nat → Nat → Option Nat) {amounts : Varying Nat}
    (h : v.width = amounts.width) :
    v.fetchBy source amounts = .ok (v.fetch fun i => (amounts.lanes[i]?).bind fun a => source a i) := by
  rw [fetchBy, sameWidth, if_pos h]
  rfl

/-- Another number of amounts than lanes is refused, and the refusal names both. -/
theorem fetchBy_of_width_ne (source : Nat → Nat → Option Nat) {amounts : Varying Nat}
    (h : v.width ≠ amounts.width) :
    v.fetchBy source amounts = .error (.widthMismatch v.width amounts.width) := by
  rw [fetchBy, sameWidth, if_neg h]
  rfl

/-- With the same amount in every lane, all sources are computed from that amount. -/
theorem fetchBy_splat (v : Varying α) (source : Nat → Nat → Option Nat) (amount : Nat) :
    v.fetchBy source (splat amount v.width) = .ok (v.fetch (source amount)) := by
  rw [fetchBy_of_width_eq source (width_splat amount v.width).symm]
  apply congrArg Except.ok
  apply fetch_congr
  intro lane hlane
  rw [splat, List.getElem?_replicate_of_lt hlane, Option.bind_some]

end Varying

/-! ### The same in words -/

/-- The number of the lane that is `amount` below a lane, if it is a word. -/
def numberBelow? (amount lane : UInt64) : Option UInt64 :=
  laneNumber? (lane.toNat - amount.toNat)

/-- The number of the lane that is `amount` above a lane, if it is a word. -/
def numberAbove? (amount lane : UInt64) : Option UInt64 :=
  laneNumber? (lane.toNat + amount.toNat)

/-- A negative number is no lane number. -/
theorem laneNumber?_of_neg {value : Int} (h : value < 0) : laneNumber? value = none :=
  if_neg fun hrange => Int.not_le.2 h hrange.1

/-- A number that is too large for a word is no lane number. -/
theorem laneNumber?_of_size_le {value : Nat} (h : UInt64.size ≤ value) : laneNumber? value = none :=
  if_neg fun hrange => Nat.not_lt.2 h (Int.ofNat_lt.1 hrange.2)

namespace Varying

variable {α : Type} {v : Varying α}

/-- What a source in words leads to is what a source over all numbers leads to. -/
def ReadsAs (v : Varying α) (number? : UInt64 → UInt64 → Option UInt64) (source : Nat → Nat → Option Nat) : Prop :=
  ∀ amount lane : UInt64, ((number? amount lane).bind fun s => v.lanes[s.toNat]?) =
    (source amount.toNat lane.toNat).bind fun s => v.lanes[s]?

/-- In words the lane below is the one over all numbers, and a difference that is negative leads to none. -/
theorem readsAs_below (v : Varying α) : v.ReadsAs numberBelow? laneBelow := by
  intro amount lane
  rw [numberBelow?, laneBelow]
  by_cases hle : amount.toNat ≤ lane.toNat
  · have hlt : lane.toNat - amount.toNat < UInt64.size := Nat.lt_of_le_of_lt (Nat.sub_le _ _) lane.toNat_lt_size
    obtain ⟨number, hnumber, hvalue⟩ := laneNumber?_of_lt hlt
    rw [← Int.ofNat_sub hle, hnumber, if_pos hle, Option.bind_some, Option.bind_some, hvalue]
  · rw [laneNumber?_of_neg (by omega), if_neg hle]
    rfl

/-- A sum that is not a word is above all lanes. -/
theorem readsAs_above (hword : v.width < UInt64.size) : v.ReadsAs numberAbove? laneAbove := by
  intro amount lane
  rw [numberAbove?, laneAbove, ← Int.natCast_add]
  by_cases hlt : lane.toNat + amount.toNat < UInt64.size
  · obtain ⟨number, hnumber, hvalue⟩ := laneNumber?_of_lt hlt
    rw [hnumber, Option.bind_some, Option.bind_some, hvalue]
  · have hout : v.lanes.length ≤ lane.toNat + amount.toNat := (Nat.le_of_lt hword).trans (Nat.not_lt.1 hlt)
    rw [laneNumber?_of_size_le (Nat.not_lt.1 hlt), Option.bind_none, Option.bind_some, List.getElem?_eq_none hout]

variable [Blank α]

/-- A fetch, step by step. It stops if a lane has no number or its source cannot be computed. -/
def fetchChecked? (v : Varying α) (source : UInt64 → Option (Option UInt64)) : Option (Varying α) := do
  let lanes ← (List.range v.width).mapM fun lane : Nat => do
    let number ← laneNumber? lane
    let found ← source number
    return (found.bind fun s => v.lanes[s.toNat]?).getD Blank.blank
  return ⟨lanes⟩

/-- A shift by one amount, step by step. -/
def shiftChecked? (v : Varying α) (number? : UInt64 → UInt64 → Option UInt64) (amount : UInt64) :
    Option (Varying α) :=
  v.fetchChecked? fun lane => some (number? amount lane)

/-- A shift by an amount for each lane, step by step. -/
def shiftByChecked? (v : Varying α) (number? : UInt64 → UInt64 → Option UInt64) (amounts : Varying UInt64) :
    Option (Except LaneError (Varying α)) :=
  if v.width = amounts.width then do
    let shifted ← v.fetchChecked? fun lane => do
      let amount ← amounts.lanes[lane.toNat]?
      return number? amount lane
    return .ok shifted
  else some (.error (.widthMismatch v.width amounts.width))

/-- Step by step every lane is fetched as over all numbers, if the sources lead to the same values. -/
theorem fetchChecked?_eq (hword : v.width < UInt64.size) {source : UInt64 → Option (Option UInt64)}
    {source' : Nat → Option Nat}
    (h : ∀ lane : UInt64, lane.toNat < v.width → ∃ found, source lane = some found ∧
      (found.bind fun s => v.lanes[s.toNat]?) = (source' lane.toNat).bind fun s => v.lanes[s]?) :
    v.fetchChecked? source = some (v.fetch source') := by
  have hlanes : ∀ lane ∈ List.range v.width, ∃ x,
      ((laneNumber? lane).bind fun number => (source number).bind fun found =>
        some ((found.bind fun s => v.lanes[s.toNat]?).getD Blank.blank)) = some x ∧
        some (((source' lane).bind fun s => v.lanes[s]?).getD Blank.blank) = some x := by
    intro lane hlane
    have hlt := List.mem_range.1 hlane
    obtain ⟨number, hnumber, rfl⟩ := laneNumber?_of_lt (hlt.trans hword)
    obtain ⟨found, hfound, hreads⟩ := h number hlt
    refine ⟨_, ?_, rfl⟩
    rw [hnumber, Option.bind_some, hfound, Option.bind_some, hreads]
  rw [fetchChecked?, fetch]
  simp only [Option.bind_eq_bind, Option.pure_def, mapM_eq_filterMap hlanes, Option.bind_some]
  rw [List.filterMap_eq_map']

/-- No lane is without a number on the way, and the shift is the one over all numbers. -/
theorem shiftChecked?_eq (hword : v.width < UInt64.size) {number? : UInt64 → UInt64 → Option UInt64}
    {source : Nat → Nat → Option Nat} (h : v.ReadsAs number? source) (amount : UInt64) :
    v.shiftChecked? number? amount = some (v.fetch (source amount.toNat)) :=
  fetchChecked?_eq hword fun lane _ => ⟨_, rfl, h amount lane⟩

/-- Step by step a shift by an amount for each lane is the one over all numbers, refusals included. -/
theorem shiftByChecked?_eq (hword : v.width < UInt64.size) {number? : UInt64 → UInt64 → Option UInt64}
    {source : Nat → Nat → Option Nat} (h : v.ReadsAs number? source) (amounts : Varying UInt64) :
    v.shiftByChecked? number? amounts = some (v.fetchBy source (amounts.map UInt64.toNat)) := by
  have hmap : (amounts.map UInt64.toNat).width = amounts.width := List.length_map _
  by_cases hwidth : v.width = amounts.width
  · have hlanes : v.fetchChecked? (fun lane => (amounts.lanes[lane.toNat]?).bind fun a => some (number? a lane)) =
        some (v.fetch fun i => ((amounts.map UInt64.toNat).lanes[i]?).bind fun a => source a i) := by
      apply fetchChecked?_eq hword
      intro lane hlane
      have hget := List.getElem?_eq_getElem (show lane.toNat < amounts.lanes.length from hlane.trans_eq hwidth)
      refine ⟨_, by rw [hget, Option.bind_some], ?_⟩
      rw [Varying.map, List.getElem?_map, hget, Option.map_some, Option.bind_some]
      exact h _ lane
    rw [shiftByChecked?, if_pos hwidth, fetchBy_of_width_eq source (hwidth.trans hmap.symm)]
    simp only [Option.bind_eq_bind, Option.pure_def, hlanes, Option.bind_some]
  · rw [shiftByChecked?, if_neg hwidth, fetchBy_of_width_ne source (hmap.symm ▸ hwidth), hmap]

/-- Shifts add up. Lane `i` of a shift by `a` holds what the value, continued by blanks, has at `i - a` or at `i + a`
over all integers, so that two shifts to one side are the shift by the sum of their amounts, which leaves nothing but
blanks once it reaches the number of lanes. A shift to the left and back blanks the highest lanes, as many as were
shifted out. A shift by an amount for each lane that is the same in all lanes is the shift by that amount. All this is what the
shifts in words of 64 bits do, for every amount that is a word: none of them stops, and no sum wraps. -/
theorem shifts_add_up (v : Varying α) :
    (∀ a : Nat, (v.shiftLeft a).width = v.width ∧ (v.shiftRight a).width = v.width ∧
      ∀ lane : Nat, lane < v.width → (v.shiftLeft a).get lane = .ok (v.valueAt (lane - a)) ∧
        (v.shiftRight a).get lane = .ok (v.valueAt (lane + a))) ∧
    (∀ a b : Nat, (v.shiftLeft a).shiftLeft b = v.shiftLeft (a + b) ∧
      (v.shiftRight a).shiftRight b = v.shiftRight (a + b)) ∧
    (∀ a : Nat, v.width ≤ a → v.shiftLeft a = splat Blank.blank v.width ∧
      v.shiftRight a = splat Blank.blank v.width) ∧
    (∀ a : Nat, (v.shiftLeft a).shiftRight a =
      ⟨v.lanes.take (v.width - min a v.width) ++ List.replicate (min a v.width) Blank.blank⟩) ∧
    (∀ a : Nat, v.shiftLeftBy (splat a v.width) = .ok (v.shiftLeft a) ∧
      v.shiftRightBy (splat a v.width) = .ok (v.shiftRight a)) ∧
    (v.width < UInt64.size →
      (∀ a : UInt64, v.shiftChecked? numberBelow? a = some (v.shiftLeft a.toNat) ∧
        v.shiftChecked? numberAbove? a = some (v.shiftRight a.toNat)) ∧
      ∀ amounts : Varying UInt64,
        v.shiftByChecked? numberBelow? amounts = some (v.shiftLeftBy (amounts.map UInt64.toNat)) ∧
        v.shiftByChecked? numberAbove? amounts = some (v.shiftRightBy (amounts.map UInt64.toNat))) := by
  refine ⟨fun a => ⟨width_shiftLeft v a, width_shiftRight v a, fun lane hlane => ⟨?_, ?_⟩⟩,
    fun a b => ⟨shiftLeft_shiftLeft v a b, shiftRight_shiftRight v a b⟩,
    fun a ha => ⟨shiftLeft_of_width_le ha, shiftRight_of_width_le ha⟩, shiftRight_shiftLeft v,
    fun a => ⟨?_, ?_⟩, fun hword => ⟨fun a => ⟨?_, ?_⟩, fun amounts => ⟨?_, ?_⟩⟩⟩
  · rw [get_eq_ok, getElem?_eq_valueAt (hlane.trans_eq (width_shiftLeft v a).symm), valueAt_shiftLeft a (by omega)]
  · rw [get_eq_ok, getElem?_eq_valueAt (hlane.trans_eq (width_shiftRight v a).symm), valueAt_shiftRight a (by omega)]
  · rw [shiftLeftBy_eq_fetchBy, fetchBy_splat, shiftLeft]
  · rw [shiftRightBy_eq_fetchBy, fetchBy_splat, shiftRight]
  · exact shiftChecked?_eq hword v.readsAs_below a
  · exact shiftChecked?_eq hword (readsAs_above hword) a
  · rw [shiftLeftBy_eq_fetchBy, shiftByChecked?_eq hword v.readsAs_below]
  · rw [shiftRightBy_eq_fetchBy, shiftByChecked?_eq hword (readsAs_above hword)]

/-- Three lanes shifted by the greatest word, at which the number of the lane above the second one is no word any
more, and by an amount for each lane. -/
theorem shifts_add_up_extremes :
    (Varying.mk ["a", "b", "c"]).width < UInt64.size ∧ numberAbove? (UInt64.ofNat (UInt64.size - 1)) 1 = none ∧
      (Varying.mk ["a", "b", "c"]).shiftChecked? numberAbove? (UInt64.ofNat (UInt64.size - 1)) =
        some ⟨["", "", ""]⟩ ∧
      ((Varying.mk ["a", "b", "c"]).shiftLeft 1).shiftRight 1 = ⟨["a", "b", ""]⟩ ∧
      (Varying.mk ["a", "b", "c"]).shiftByChecked? numberAbove? ⟨[2, UInt64.ofNat (UInt64.size - 1), 0]⟩ =
        some (.ok ⟨["c", "", "c"]⟩) := by
  have hword : (Varying.mk ["a", "b", "c"]).width < UInt64.size := by decide
  obtain ⟨-, -, hblank, hback, -, hwords⟩ := shifts_add_up (Varying.mk ["a", "b", "c"])
  obtain ⟨hone, heach⟩ := hwords hword
  refine ⟨hword, by decide, ?_, hback 1, (heach ⟨[2, UInt64.ofNat (UInt64.size - 1), 0]⟩).2.trans ?_⟩
  · rw [(hone _).2, (hblank _ (by decide)).2]
    rfl
  · rfl

end Varying

end Lanewise
