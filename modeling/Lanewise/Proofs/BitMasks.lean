import Lanewise.Proofs.Reductions

/-!
# Booleans and their bit mask

Four reductions of a varying boolean ask about the same lanes: those that are active and hold `true` (`Varying.Sets`).
Two of them fold the lanes, one searches them from the lowest up, and one sets a bit of a word for each. Here each of
them is read as a statement about these lanes.

The bits of the word are exactly those lanes (`Varying.bitmask_ok`). So what the other three say about the lanes can be
said about the word, as long as the lanes fit into it.
-/

set_option autoImplicit false

namespace Lanewise

/-! ### The word of a mask -/

namespace Mask

variable {m : Mask} {bits lane : Nat}

/-- Only lanes inside the width are active. -/
theorem lt_width_of_isActive (h : m.isActive lane = true) : lane < m.width := by
  unfold isActive at h
  by_contra hout
  rw [List.getD_eq_getElem?_getD, List.getElem?_eq_none (Nat.not_lt.1 hout)] at h
  cases h

/-- The listed lanes are the active ones. -/
theorem mem_activeLanes : lane ∈ m.activeLanes ↔ m.isActive lane = true := by
  rw [activeLanes, List.mem_filter, List.mem_range]
  exact ⟨fun h => h.2, fun h => ⟨lt_width_of_isActive h, h⟩⟩

/-- Setting bits one after another sets those bits and no others. -/
theorem testBit_foldl (lanes : List Nat) (bits lane : Nat) :
    (lanes.foldl (fun bits i => bits ||| 1 <<< i) bits).testBit lane =
      (bits.testBit lane || decide (lane ∈ lanes)) := by
  induction lanes generalizing bits with
  | nil => simp
  | cons i rest ih =>
    have hbit : (1 <<< i).testBit lane = decide (lane = i) := by
      rw [Nat.one_shiftLeft, Nat.testBit_two_pow]
      exact decide_eq_decide.2 eq_comm
    rw [List.foldl_cons, ih, Nat.testBit_or, hbit, Bool.or_assoc, ← Bool.decide_or]
    simp only [List.mem_cons]

/-- The word of a mask is the one whose bits are the active lanes, and there is one if the lanes fit. -/
theorem toBits_eq_ok : m.toBits = .ok bits ↔ m.width ≤ 64 ∧ ∀ lane, bits.testBit lane = m.isActive lane := by
  have hactive : ∀ lane, (m.activeLanes.foldl (fun bits i => bits ||| 1 <<< i) 0).testBit lane =
      m.isActive lane := by
    intro lane
    rw [testBit_foldl, Nat.zero_testBit, Bool.false_or, Bool.decide_congr mem_activeLanes, Bool.decide_eq_true]
  unfold toBits
  by_cases hwidth : m.width ≤ 64
  · rw [if_pos hwidth]
    constructor
    · intro h
      obtain rfl := Except.ok.inj h
      exact ⟨hwidth, hactive⟩
    · rintro ⟨-, hbits⟩
      exact congrArg Except.ok (Nat.eq_of_testBit_eq fun lane => (hactive lane).trans (hbits lane).symm)
  · rw [if_neg hwidth]
    constructor
    · intro h
      cases h
    · rintro ⟨hle, -⟩
      exact absurd hle hwidth

/-- A mask of more than 64 lanes has no bits, and the refusal names its width. -/
theorem toBits_of_width_gt (h : 64 < m.width) : m.toBits = .error (.maskTooWide m.width) := by
  rw [toBits, if_neg (Nat.not_le.2 h)]

/-- There is no bit past the last lane, so the word of a mask has at most 64 bits. -/
theorem toBits_lt (h : m.toBits = .ok bits) : bits < UInt64.size := by
  obtain ⟨hwidth, hbits⟩ := toBits_eq_ok.1 h
  have hhigh : ∀ lane ≥ 64, bits.testBit lane = false := by
    intro lane hlane
    rw [hbits, Bool.eq_false_iff]
    intro hactive
    have hlt := lt_width_of_isActive hactive
    omega
  exact Nat.lt_pow_two_of_testBit bits hhigh

end Mask

/-! ### Folds of booleans -/

/-- Disjunction over a list is true if it starts so or a member is true. -/
theorem BoolReduction.foldl_or_eq_true (values : List Bool) (acc : Bool) :
    values.foldl (fun a b => a || b) acc = true ↔ acc = true ∨ true ∈ values := by
  induction values generalizing acc with
  | nil => simp
  | cons x rest ih =>
    rw [List.foldl_cons, ih, Bool.or_eq_true, List.mem_cons, or_assoc]
    exact or_congr_right (or_congr_left eq_comm)

/-- Conjunction over a list is true if it starts so and every member is true. -/
theorem BoolReduction.foldl_and_eq_true (values : List Bool) (acc : Bool) :
    values.foldl (fun a b => a && b) acc = true ↔ acc = true ∧ ∀ x ∈ values, x = true := by
  induction values generalizing acc with
  | nil => simp
  | cons x rest ih => rw [List.foldl_cons, ih, Bool.and_eq_true, List.forall_mem_cons, and_assoc]

namespace Varying

variable {v : Varying Bool} {m : Mask} {lane : Nat}

/-! ### Lanes that are active and hold true -/

/-- Whether a lane is active and holds `true`. -/
def Sets (v : Varying Bool) (m : Mask) (lane : Nat) : Prop :=
  m.isActive lane = true ∧ v.get lane = .ok true

/-- Reading a lane gives the value that stands there, and fails if none does. -/
theorem get_eq_ok {α : Type} {v : Varying α} {x : α} : v.get lane = .ok x ↔ v.lanes[lane]? = some x := by
  unfold get
  cases v.lanes[lane]? with
  | none => simp
  | some value => simp

/-- A flag that is taken to be false outside the lanes is true exactly if reading its lane gives true. -/
theorem getD_eq_true : v.lanes.getD lane false = true ↔ v.get lane = .ok true := by
  rw [get_eq_ok, List.getD_eq_getElem?_getD]
  cases v.lanes[lane]? with
  | none => simp
  | some value => simp

/-- An active lane holds a value. -/
theorem exists_get_of_isActive {α : Type} {v : Varying α} (h : m.width = v.width) (hlane : m.isActive lane = true) :
    ∃ x, v.get lane = .ok x := by
  have hin : lane < v.lanes.length := (Mask.lt_width_of_isActive hlane).trans_eq h
  exact ⟨v.lanes[lane], get_eq_ok.2 (List.getElem?_eq_getElem hin)⟩

/-- The values in active lanes are those that some active lane holds. -/
theorem mem_select {α : Type} {v : Varying α} {x : α} :
    x ∈ m.select v.lanes ↔ ∃ lane, m.isActive lane = true ∧ v.get lane = .ok x := by
  rw [← Mask.filterMap_activeLanes, List.mem_filterMap]
  simp only [Mask.mem_activeLanes, get_eq_ok]

/-! ### Any and all -/

/-- Under a mask of its own width, any says whether an active lane holds true. -/
theorem anyTrue_ok (h : m.width = v.width) :
    ∃ any, v.anyTrue m = .ok any ∧ (any = true ↔ ∃ lane, v.Sets m lane) := by
  refine ⟨_, BoolReduction.or.reduction.run_eq_foldl h, (BoolReduction.foldl_or_eq_true _ _).trans ?_⟩
  rw [mem_select]
  exact or_iff_right Bool.false_ne_true

/-- Under a mask of its own width, all says whether every active lane holds true. -/
theorem allTrue_ok (h : m.width = v.width) :
    ∃ all, v.allTrue m = .ok all ∧ (all = true ↔ ∀ lane, m.isActive lane = true → v.get lane = .ok true) := by
  refine ⟨_, BoolReduction.and.reduction.run_eq_foldl h, (BoolReduction.foldl_and_eq_true _ _).trans ⟨?_, ?_⟩⟩
  · rintro ⟨-, htrue⟩ lane hlane
    obtain ⟨x, hx⟩ := exists_get_of_isActive h hlane
    rwa [htrue x (mem_select.2 ⟨lane, hlane, hx⟩)] at hx
  · intro htrue
    refine ⟨rfl, fun x hx => ?_⟩
    obtain ⟨lane, hlane, hget⟩ := mem_select.1 hx
    exact Except.ok.inj (hget.symm.trans (htrue lane hlane))

/-! ### The search -/

/-- The search finds the lowest of the lanes, or there is none. -/
theorem findFirstSet_ok (h : m.width = v.width) :
    ∃ first, v.findFirstSet m = .ok first ∧ (first = -1 ↔ ∀ lane, ¬ v.Sets m lane) ∧
      ∀ lane : Nat, first = lane ↔ v.Sets m lane ∧ ∀ lower < lane, ¬ v.Sets m lower := by
  have hsets : ∀ lane, (m.isActive lane = true ∧ v.lanes.getD lane false = true) ↔ v.Sets m lane :=
    fun lane => and_congr_right fun _ => getD_eq_true
  cases hfind : m.activeLanes.find? fun i => v.lanes.getD i false with
  | none =>
    have hnone : ∀ lane, ¬ v.Sets m lane := by
      intro lane hlane
      obtain ⟨hactive, htrue⟩ := (hsets lane).2 hlane
      exact List.find?_eq_none.1 hfind lane (Mask.mem_activeLanes.2 hactive) htrue
    refine ⟨-1, ?_, iff_of_true rfl hnone, fun lane => iff_of_false ?_ fun hlane => hnone lane hlane.1⟩
    · simp only [findFirstSet, sameWidth, if_pos h.symm, hfind]
      rfl
    · omega
  | some first =>
    have hfound : v.findFirstSet m = .ok first := by
      simp only [findFirstSet, sameWidth, if_pos h.symm, hfind]
      rfl
    rw [Mask.activeLanes, List.find?_filter, List.find?_range_eq_some] at hfind
    simp only [decide_eq_true_eq, Bool.not_eq_true', decide_eq_false_iff_not, hsets] at hfind
    obtain ⟨hfirst, -, hlower⟩ := hfind
    refine ⟨first, hfound, iff_of_false (by omega) fun hnone => hnone first hfirst, fun lane => ⟨?_, ?_⟩⟩
    · intro heq
      obtain rfl := Int.ofNat_inj.1 heq
      exact ⟨hfirst, hlower⟩
    · rintro ⟨hlane, hbelow⟩
      -- neither of the two lanes lies below the other
      have hle : ¬ first < lane := fun hlt => hbelow first hlt hfirst
      have hge : ¬ lane < first := fun hlt => hlower lane hlt hlane
      exact congrArg Int.ofNat (by omega)

/-! ### The bit mask -/

/-- The mask of a varying boolean is active in the lanes that hold true. -/
theorem isActive_toMask : v.toMask.isActive lane = true ↔ v.get lane = .ok true :=
  getD_eq_true

/-- The bit mask is the word of the mask of the lanes that are active and hold `true`. -/
theorem bitmask_eq_toBits (h : m.width = v.width) :
    ∃ both, v.bitmask m = Mask.toBits both ∧ both.width = v.width ∧
      ∀ lane, both.isActive lane = true ↔ v.Sets m lane := by
  have hwidth : v.toMask.width = m.width := h.symm
  obtain ⟨both, hboth, hbothWidth, hactive⟩ := Mask.and_ok hwidth
  refine ⟨both, ?_, hbothWidth, fun lane => ?_⟩
  · rw [bitmask, hboth]
    rfl
  · rw [hactive lane, Bool.and_eq_true, isActive_toMask, and_comm]
    rfl

/-- With at most 64 lanes there is a bitmask, it fits a 64-bit word, and its bits are the active lanes that
hold true. -/
theorem bitmask_ok (h : m.width = v.width) (hwidth : v.width ≤ 64) :
    ∃ bits, v.bitmask m = .ok bits ∧ bits < UInt64.size ∧ ∀ lane, bits.testBit lane = true ↔ v.Sets m lane := by
  obtain ⟨both, hboth, hbothWidth, hsets⟩ := bitmask_eq_toBits h
  have hfits : both.width ≤ 64 := hbothWidth.trans_le hwidth
  have hbits : both.toBits = .ok _ := if_pos hfits
  refine ⟨_, hboth.trans hbits, Mask.toBits_lt hbits, fun lane => ?_⟩
  rw [(Mask.toBits_eq_ok.1 hbits).2 lane, hsets lane]

/-- With more than 64 lanes there is no bitmask, and the refusal names the width. -/
theorem bitmask_of_width_gt (h : m.width = v.width) (hwidth : 64 < v.width) :
    v.bitmask m = .error (.maskTooWide v.width) := by
  obtain ⟨both, hboth, hbothWidth, -⟩ := bitmask_eq_toBits h
  rw [hboth, Mask.toBits_of_width_gt (hwidth.trans_eq hbothWidth.symm), hbothWidth]

section Bits

variable {bits active : Nat}

/-- No active lane holds true exactly if the bitmask is zero. -/
theorem forall_not_sets_iff (hbits : ∀ lane, bits.testBit lane = true ↔ v.Sets m lane) :
    (∀ lane, ¬ v.Sets m lane) ↔ bits = 0 := by
  simp only [← hbits]
  constructor
  · intro hnone
    by_contra hne
    obtain ⟨lane, hlane⟩ := Nat.exists_testBit_of_ne_zero hne
    exact hnone lane hlane
  · rintro rfl lane hlane
    rw [Nat.zero_testBit] at hlane
    cases hlane

/-- All active lanes hold `true` exactly if they give the same word as the mask. -/
theorem forall_active_iff (hbits : ∀ lane, bits.testBit lane = true ↔ v.Sets m lane)
    (hactive : ∀ lane, active.testBit lane = m.isActive lane) :
    (∀ lane, m.isActive lane = true → v.get lane = .ok true) ↔ bits = active := by
  constructor
  · intro htrue
    apply Nat.eq_of_testBit_eq
    intro lane
    rw [hactive lane, Bool.eq_iff_iff, hbits lane]
    exact ⟨fun hsets => hsets.1, fun hlane => ⟨hlane, htrue lane hlane⟩⟩
  · rintro rfl lane hlane
    rw [← hactive lane, hbits lane] at hlane
    exact hlane.2

end Bits

/-! ### Agreement -/

/-- Booleans of another number of lanes than the mask are refused by all four reductions alike. -/
theorem refused_of_width_ne (h : v.width ≠ m.width) :
    v.anyTrue m = .error (.widthMismatch v.width m.width) ∧
      v.allTrue m = .error (.widthMismatch v.width m.width) ∧
      v.findFirstSet m = .error (.widthMismatch v.width m.width) ∧
      v.bitmask m = .error (.widthMismatch v.width m.width) := by
  have hmask : v.toMask.width = v.width := rfl
  refine ⟨?_, ?_, ?_, ?_⟩
  · exact BoolReduction.or.reduction.run_of_width_ne h.symm
  · exact BoolReduction.and.reduction.run_of_width_ne h.symm
  · rw [findFirstSet, sameWidth, if_neg h]
    rfl
  · rw [bitmask, Mask.and, Mask.zip, hmask, sameWidth, if_neg h]
    rfl

/-- The four reductions of booleans agree about the lanes that are active and hold `true`. Whether there is one,
whether all active lanes are such, and which is the lowest is answered for any number of lanes. Up to 64 lanes are the
bits of the bit mask, with no bit above them, so that the other three can be read off it; more lanes do not fit. If
the value and the mask differ in the number of lanes, all four are refused for that reason. -/
theorem boolean_reductions_agree (v : Varying Bool) (m : Mask) :
    (v.width = m.width → ∃ any all first, v.anyTrue m = .ok any ∧ v.allTrue m = .ok all ∧
      v.findFirstSet m = .ok first ∧
      ((any = true ↔ ∃ lane, v.Sets m lane) ∧
        (all = true ↔ ∀ lane, m.isActive lane = true → v.get lane = .ok true) ∧
        (first = -1 ↔ ∀ lane, ¬ v.Sets m lane) ∧
        ∀ lane : Nat, first = lane ↔ v.Sets m lane ∧ ∀ lower < lane, ¬ v.Sets m lower) ∧
      (v.width ≤ 64 → ∃ bits active, v.bitmask m = .ok bits ∧ m.toBits = .ok active ∧
        bits < UInt64.size ∧
        (∀ i, bits.testBit i = true ↔ i < v.width ∧ v.get i = .ok true ∧ m.isActive i = true) ∧
        (any = true ↔ bits ≠ 0) ∧
        (all = true ↔ bits = active) ∧
        (first = -1 ↔ bits = 0) ∧
        ∀ i : Nat, first = i ↔ bits.testBit i = true ∧ ∀ j < i, bits.testBit j = false) ∧
      (64 < v.width → v.bitmask m = .error (.maskTooWide v.width))) ∧
    (v.width ≠ m.width →
      v.anyTrue m = .error (.widthMismatch v.width m.width) ∧
        v.allTrue m = .error (.widthMismatch v.width m.width) ∧
        v.findFirstSet m = .error (.widthMismatch v.width m.width) ∧
        v.bitmask m = .error (.widthMismatch v.width m.width)) := by
  refine ⟨fun hsame => ?_, refused_of_width_ne⟩
  obtain ⟨any, hany, hanySets⟩ := anyTrue_ok hsame.symm
  obtain ⟨all, hall, hallTrue⟩ := allTrue_ok hsame.symm
  obtain ⟨first, hfirst, hnone, hlowest⟩ := findFirstSet_ok hsame.symm
  refine ⟨any, all, first, hany, hall, hfirst, ⟨hanySets, hallTrue, hnone, hlowest⟩, fun hfits => ?_,
    bitmask_of_width_gt hsame.symm⟩
  obtain ⟨bits, hmask, hsize, hbits⟩ := bitmask_ok hsame.symm hfits
  have hword : m.toBits = .ok _ := if_pos (hsame.symm.trans_le hfits)
  have hzero := forall_not_sets_iff hbits
  refine ⟨bits, _, hmask, hword, hsize, fun i => ?_, ?_, ?_, hnone.trans hzero, fun i => ?_⟩
  · rw [hbits i]
    constructor
    · rintro ⟨hactive, htrue⟩
      exact ⟨(Mask.lt_width_of_isActive hactive).trans_eq hsame.symm, htrue, hactive⟩
    · rintro ⟨-, htrue, hactive⟩
      exact ⟨hactive, htrue⟩
  · rw [hanySets, ne_eq, ← hzero, not_forall_not]
  · exact hallTrue.trans (forall_active_iff hbits (Mask.toBits_eq_ok.1 hword).2)
  · rw [hlowest i]
    simp only [← Bool.not_eq_true, hbits]

/-- Of 64 lanes the first and the last hold `true`, and all but the first are active. -/
def topLane : Varying Bool × Mask :=
  (⟨true :: List.replicate 62 false ++ [true]⟩, ⟨false :: List.replicate 63 true⟩)

/-- The last of 64 lanes gives the highest bit of the word. One lane more, and there is no word, but the lowest lane is
found all the same. -/
theorem boolean_reductions_agree_topLane :
    topLane.1.width = topLane.2.width ∧ topLane.1.width ≤ 64 ∧
      (∃ bits first, topLane.1.bitmask topLane.2 = .ok bits ∧ topLane.1.findFirstSet topLane.2 = .ok first ∧
        bits = 9223372036854775808 ∧ bits.testBit 63 = true ∧ (∀ j < 63, bits.testBit j = false) ∧ first = 63) ∧
      (splat true 65).bitmask (.all 65) = .error (.maskTooWide 65) ∧
      (splat true 65).findFirstSet (.all 65) = .ok 0 := by
  have hsame : topLane.1.width = topLane.2.width := rfl
  have hfits : topLane.1.width ≤ 64 := by decide
  obtain ⟨any, all, first, -, -, hfirst, -, hword, -⟩ := (boolean_reductions_agree topLane.1 topLane.2).1 hsame
  obtain ⟨bits, active, hbits, -, -, -, -, -, -, hlowest⟩ := hword hfits
  have hvalue : topLane.1.bitmask topLane.2 = .ok 9223372036854775808 := rfl
  obtain rfl := Except.ok.inj (hvalue.symm.trans hbits)
  have hbit : Nat.testBit 9223372036854775808 63 = true ∧ ∀ j < 63, Nat.testBit 9223372036854775808 j = false := by
    decide
  refine ⟨hsame, hfits, ⟨_, first, hbits, hfirst, rfl, hbit.1, hbit.2, (hlowest 63).2 hbit⟩, ?_, ?_⟩
  · obtain ⟨-, -, -, -, -, -, -, -, hwide⟩ := (boolean_reductions_agree (splat true 65) (.all 65)).1 rfl
    exact hwide (by decide)
  · rfl

end Varying

end Lanewise
