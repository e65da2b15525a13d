import Lanewise.Proofs.Grouping
import Lanewise.Proofs.Reductions

/-!
# Reductions group by group

A reduction of a group under its own mask folds the lanes of the group that are in use (`Group.run_of_activeValues`).
Put together, these are the lanes of the value that was divided. So the reductions of the groups, folded once more,
are the reduction of the value (`Reduction.Lawful.run_groups`), and the lanes that are not in use may hold anything.
-/

set_option autoImplicit false

namespace Lanewise

variable {α : Type} {r : Reduction α}

namespace Group

/-- Whether two groups differ at most in lanes that are not in use. -/
structure AlikeInUse (g other : Group α) : Prop where
  mask : other.mask = g.mask
  width : other.values.width = g.values.width
  value : ∀ lane, g.mask.isActive lane = true → other.values.get lane = g.values.get lane

/-- Groups that differ at most in lanes that are not in use have the same values in use. -/
theorem AlikeInUse.activeValues_eq {g other : Group α} (h : g.AlikeInUse other) :
    other.activeValues = g.activeValues := by
  have hvalues : ∀ lane ∈ g.mask.activeLanes, other.values.lanes[lane]? = g.values.lanes[lane]? := by
    intro lane hlane
    have hget := h.value lane (List.mem_filter.1 hlane).2
    have hwidth : other.values.lanes.length = g.values.lanes.length := h.width
    by_cases hin : lane < g.values.lanes.length
    · have hother : lane < other.values.lanes.length := by omega
      rw [Varying.get, Varying.get, List.getElem?_eq_getElem hin, List.getElem?_eq_getElem hother] at hget
      rw [List.getElem?_eq_getElem hin, List.getElem?_eq_getElem hother, Except.ok.inj hget]
    · rw [List.getElem?_eq_none (Nat.not_lt.1 hin), List.getElem?_eq_none (by omega)]
  rw [activeValues, activeValues, h.mask, h.width, List.filterMap_congr hvalues]

/-- A reduction of a group under its own mask folds the lanes in use. -/
theorem run_of_activeValues (r : Reduction α) {g : Group α} {part : List α}
    (h : g.activeValues = .ok part) : r.run g.values g.mask = .ok (part.foldl r.op r.unit) := by
  obtain ⟨hwidth, rfl⟩ := activeValues_eq_ok.1 h
  exact r.run_eq_foldl hwidth

/-- Lanes that are not in use make no difference to the reduction of a group. -/
theorem AlikeInUse.run_eq (r : Reduction α) {g other : Group α} (h : g.AlikeInUse other) :
    r.run other.values other.mask = r.run g.values g.mask := by
  by_cases hwidth : g.mask.width = g.values.width
  · have hactive : g.activeValues = .ok (g.mask.select g.values.lanes) := activeValues_eq_ok.2 ⟨hwidth, rfl⟩
    rw [run_of_activeValues r hactive, run_of_activeValues r (h.activeValues_eq.trans hactive)]
  · have hother : other.mask.width ≠ other.values.width := by rwa [h.mask, h.width]
    rw [r.run_of_width_ne hwidth, r.run_of_width_ne hother, h.mask, h.width]

end Group

namespace Reduction

/-- Groups that differ at most in lanes that are not in use reduce to the same parts, or fail alike. -/
theorem mapM_run_alike (r : Reduction α) {groups others : List (Group α)}
    (h : List.Forall₂ Group.AlikeInUse groups others) :
    others.mapM (fun g => r.run g.values g.mask) = groups.mapM fun g => r.run g.values g.mask := by
  induction h with
  | nil => rfl
  | cons hfirst _ ih => rw [List.mapM_cons, List.mapM_cons, hfirst.run_eq, ih]

namespace Lawful

/-- A fold may be taken part by part, each from the unit on. -/
theorem foldl_flatten (h : r.Lawful) (parts : List (List α)) (acc : α) :
    (parts.map fun part => part.foldl r.op r.unit).foldl r.op acc = parts.flatten.foldl r.op acc := by
  have hassoc := h.assoc
  induction parts generalizing acc with
  | nil => rfl
  | cons part rest ih =>
    have hpart : r.op acc (part.foldl r.op r.unit) = part.foldl r.op (r.op acc r.unit) :=
      List.foldl_assoc.symm
    rw [List.map_cons, List.foldl_cons, hpart, h.op_unit, ih, List.flatten_cons, List.foldl_append]

/-- The reductions of groups, folded once more, are the reduction of what the groups are put together to. -/
theorem run_groups (h : r.Lawful) {groups : List (Group α)} {v : Varying α}
    (hv : Varying.ofGroups groups = .ok v) :
    ∃ parts, groups.mapM (fun g => r.run g.values g.mask) = .ok parts ∧
      r.run v (.all v.width) = .ok (parts.foldl r.op r.unit) := by
  obtain ⟨parts, hparts, rfl⟩ := Varying.ofGroups_eq_ok.1 hv
  refine ⟨parts.map fun part => part.foldl r.op r.unit, ?_, ?_⟩
  · rw [Except.mapM_eq_ok, List.forall₂_map_right_iff]
    exact hparts.imp fun g part hpart => Group.run_of_activeValues r hpart
  · rw [run_all, h.foldl_flatten]

end Lawful

end Reduction

/-- The reduction of a value over all its lanes is that of its groups, each reduced under its own mask, for integers of
any type, groups of any lane count and all reductions. What the groups hold in lanes that are not in use does not
enter into it. -/
theorem IntReduction.groups_reduce_whole (k : IntKind) (r : IntReduction) (v : Varying (Word k)) {native : Nat}
    (hnative : 0 < native) :
    ∃ groups parts, v.toGroups native = .ok groups ∧
      groups.mapM (fun g => (r.reduction k).run g.values g.mask) = .ok parts ∧
      (r.reduction k).run v (.all v.width) = .ok (parts.foldl (r.reduction k).op (r.reduction k).unit) ∧
      ∀ others, List.Forall₂ Group.AlikeInUse groups others →
        others.mapM (fun g => (r.reduction k).run g.values g.mask) = .ok parts := by
  obtain ⟨parts, hparts, htotal⟩ := (r.lawful k).run_groups (Varying.ofGroups_pieces hnative v)
  refine ⟨_, parts, Varying.toGroups_eq hnative v, hparts, htotal, fun others halike => ?_⟩
  rw [(r.reduction k).mapM_run_alike halike, hparts]

section Padded

/-- The maximum of five negative lanes in groups of four is one of them, also if the lanes that fill the second group
hold greater words. -/
theorem IntReduction.groups_reduce_whole_negative :
    0 < 4 ∧ ∃ parts,
      [Group.mk ⟨[-3, -5, -2, -7]⟩ (.all 4), Group.mk ⟨[-9, 127, 0, 1]⟩ (.firstActive 4 1)].mapM
          (fun g => (IntReduction.max.reduction .shortest).run g.values g.mask) = .ok parts ∧
        (IntReduction.max.reduction .shortest).run ⟨[-3, -5, -2, -7, -9]⟩ (.all 5) =
          .ok (parts.foldl Word.max (Word.lowest .shortest)) ∧
        parts.foldl Word.max (Word.lowest .shortest) = -2 := by
  have hfour : 0 < 4 := by decide
  obtain ⟨groups, parts, hgroups, hparts, htotal, halike⟩ :=
    IntReduction.groups_reduce_whole .shortest .max ⟨[-3, -5, -2, -7, -9]⟩ hfour
  obtain rfl := Except.ok.inj hgroups
  have hvalue : (IntReduction.max.reduction .shortest).run ⟨[-3, -5, -2, -7, -9]⟩ (.all 5) = .ok (-2) := rfl
  have hothers : parts.foldl Word.max (Word.lowest .shortest) = -2 := Except.ok.inj (htotal.symm.trans hvalue)
  refine ⟨hfour, parts, halike _ (.cons ⟨rfl, rfl, fun _ _ => rfl⟩ (.cons ⟨rfl, rfl, ?_⟩ .nil)), htotal, hothers⟩
  intro lane hlane
  rcases lane with _ | _ | _ | _ | lane
  · rfl
  all_goals cases hlane

end Padded

end Lanewise
