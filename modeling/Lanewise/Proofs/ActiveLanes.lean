import Lanewise.Lanes.Varying

/-!
# The values in active lanes

The values that stand in the active lanes of a mask are taken in two ways. Groups are put together by the numbers of
their active lanes; a reduction walks along the values and the mask side by side. Both take the same values in the
same order (`Mask.filterMap_activeLanes`).
-/

set_option autoImplicit false

namespace Lanewise

namespace Mask

variable {α : Type}

/-! ### Widths -/

/-- The mask with every lane active has the width that it is made with. -/
@[simp] theorem width_all (width : Nat) : (Mask.all width).width = width :=
  List.length_replicate

/-- The number of active lanes does not change a mask's width. -/
@[simp] theorem width_firstActive (width active : Nat) : (Mask.firstActive width active).width = width := by
  simp [Mask.width, firstActive]

/-- If the first lanes are active, a lane inside the width is active exactly if its number is below theirs. -/
theorem isActive_firstActive {width lane : Nat} (active : Nat) (hlane : lane < width) :
    (Mask.firstActive width active).isActive lane = decide (lane < active) := by
  simp [isActive, firstActive, List.getD_eq_getElem?_getD, List.getElem?_range hlane]

/-- The active lanes come first and the others after them. -/
theorem lanes_firstActive {width active : Nat} (h : active ≤ width) :
    (Mask.firstActive width active).lanes =
      List.replicate active true ++ List.replicate (width - active) false := by
  apply List.ext_getElem
  · simp [firstActive]
    omega
  · intro i hi _
    have hwidth : i < width := by simpa [firstActive] using hi
    by_cases hactive : i < active
    · simp [firstActive, hactive]
    · simp [firstActive, hactive, List.getElem_append]

/-- A mask whose first lanes are active has all of them active if these are all its lanes. -/
theorem firstActive_self (width : Nat) : Mask.firstActive width width = .all width := by
  have hlanes := lanes_firstActive (Nat.le_refl width)
  rw [Nat.sub_self, List.replicate_zero, List.append_nil] at hlanes
  exact congrArg Mask.mk hlanes

/-- As many lanes are active as were asked for, if the width has room for them. -/
theorem count_firstActive {width active : Nat} (h : active ≤ width) :
    (Mask.firstActive width active).count = active := by
  rw [count, lanes_firstActive h, List.countP_append, List.countP_replicate, List.countP_replicate]
  simp

/-! ### Values -/

/-- The values that stand in active lanes, in order. -/
def select (m : Mask) (values : List α) : List α :=
  ((values.zip m.lanes).filter fun lane => lane.2).map fun lane => lane.1

/-- Of no values none is taken. -/
@[simp] theorem select_nil (m : Mask) : m.select ([] : List α) = [] := by
  simp [select]

/-- The first value is taken if the first lane is active, and the rest is taken by the lanes after it. -/
theorem select_cons (active : Bool) (mask : List Bool) (x : α) (values : List α) :
    select ⟨active :: mask⟩ (x :: values) =
      if active then x :: select ⟨mask⟩ values else select ⟨mask⟩ values := by
  cases active
  · rfl
  · rfl

/-- Where a mask and the values split at the same lane, each part of the mask takes from its own part. -/
theorem select_append {first rest : List Bool} {xs ys : List α} (h : xs.length = first.length) :
    select ⟨first ++ rest⟩ (xs ++ ys) = select ⟨first⟩ xs ++ select ⟨rest⟩ ys := by
  simp [select, List.zip_append h]

/-- If no lane is active, no value is taken. -/
theorem select_replicate_false (n : Nat) (values : List α) :
    select ⟨List.replicate n false⟩ values = [] := by
  induction n generalizing values with
  | zero => simp [select]
  | succ n ih =>
    cases values with
    | nil => exact select_nil _
    | cons x rest => exact ih rest

/-- If every lane is active, every value is taken. -/
theorem select_replicate_true {n : Nat} {values : List α} (h : values.length = n) :
    select ⟨List.replicate n true⟩ values = values := by
  induction n generalizing values with
  | zero => simp [select, List.eq_nil_of_length_eq_zero h]
  | succ n ih =>
    obtain ⟨x, rest, rfl⟩ := List.exists_cons_of_length_eq_add_one h
    have hrest : rest.length = n := by simpa using h
    exact congrArg (x :: ·) (ih hrest)

/-- The full mask takes every value. -/
theorem select_all (values : List α) : (Mask.all values.length).select values = values :=
  select_replicate_true rfl

/-- If the first lanes are active, their values are taken and what comes after them is not looked at. -/
theorem select_firstActive {width : Nat} {values : List α} (h : values.length ≤ width) (rest : List α) :
    (Mask.firstActive width values.length).select (values ++ rest) = values := by
  have hmask : Mask.firstActive width values.length =
      ⟨List.replicate values.length true ++ List.replicate (width - values.length) false⟩ :=
    congrArg Mask.mk (lanes_firstActive h)
  rw [hmask, select_append (by simp), select_replicate_true rfl, select_replicate_false, List.append_nil]

/-! ### Numbers of lanes -/

/-- Lane zero is listed if it is active, and the lanes after it are listed one number higher. -/
theorem activeLanes_cons (active : Bool) (mask : List Bool) :
    activeLanes ⟨active :: mask⟩ =
      if active then 0 :: (activeLanes ⟨mask⟩).map Nat.succ else (activeLanes ⟨mask⟩).map Nat.succ := by
  have hrest : (List.filter (isActive ⟨active :: mask⟩) ((List.range mask.length).map Nat.succ)) =
      (activeLanes ⟨mask⟩).map Nat.succ := by
    rw [List.filter_map]
    rfl
  rw [activeLanes, Mask.width, List.length_cons, List.range_succ_eq_map, List.filter_cons, hrest]
  rfl

/-- The values with the numbers of the active lanes are those in active lanes. -/
theorem filterMap_activeLanes (m : Mask) (values : List α) :
    m.activeLanes.filterMap (fun i => values[i]?) = m.select values := by
  obtain ⟨mask⟩ := m
  induction mask generalizing values with
  | nil => simp [activeLanes, Mask.width, select]
  | cons active mask ih =>
    cases values with
    | nil => simp
    | cons x rest =>
      have hrest : ((activeLanes ⟨mask⟩).map Nat.succ).filterMap (fun i => (x :: rest)[i]?) =
          select ⟨mask⟩ rest := by
        rw [List.filterMap_map, ← ih rest]
        rfl
      rw [activeLanes_cons, select_cons]
      cases active
      · exact hrest
      · exact congrArg (x :: ·) hrest

end Mask

end Lanewise
