import Lanewise.Proofs.ConstantNames
import Mathlib.Logic.Relation

/-!
# The parts of an expression that have types

To type an expression is to type its children, with one exception: the lane index of a broadcast is folded to a
number, and its type is not asked for. So every part of an expression that has a type has a type as well, or it
stands in a lane index and has a compile-time value (`Expr.part_typed_or_constant`). What is reached without
entering a lane index is always typed (`Expr.typed_of_evaluates`).
-/

set_option autoImplicit false

namespace Lanewise

variable {env : Env}

/-- The children of an expression that are typed with it: all but the lane index of a broadcast. -/
def Expr.typedChildren : Expr → List Expr
  | .call _ callee args => if callee.text = LibraryOp.broadcast.name then args.take 1 else args
  | e => e.children

/-- Whether an expression is part of another one, and not of a lane index in it. -/
def Expr.Evaluates : Expr → Expr → Prop :=
  Relation.ReflTransGen fun e c => c ∈ e.typedChildren

/-- The bounds of a range are uniform integers. -/
theorem Expr.bounds_of_infer {span : Span} {first last : Expr} {t : LaneType}
    (h : (Expr.range span first last).infer env = .ok t) :
    ∀ c ∈ [first, last], ∃ a, c.infer env = .ok (.uniform a) := by
  rw [Expr.infer] at h
  obtain ⟨f, hf, h⟩ := Except.bind_eq_ok.1 h
  obtain ⟨a, ha, h⟩ := Except.bind_eq_ok.1 h
  obtain ⟨l, hl, h⟩ := Except.bind_eq_ok.1 h
  obtain ⟨b, hb, -⟩ := Except.bind_eq_ok.1 h
  obtain ⟨rfl, -⟩ := uniformInt_ok ha
  obtain ⟨rfl, -⟩ := uniformInt_ok hb
  exact List.forall_mem_cons.2 ⟨⟨a, hf⟩, List.forall_mem_singleton.2 ⟨b, hl⟩⟩

/-- If an expression has a type, so have its children, the lane index of a broadcast apart. -/
theorem Expr.typed_of_infer {e : Expr} {t : LaneType} (h : e.infer env = .ok t) :
    ∀ c ∈ e.typedChildren, ∃ u, c.infer env = .ok u := by
  cases e with
  | int | float | bool | ident =>
    intro c hc
    cases hc
  | unary span op operand =>
    rw [Expr.infer] at h
    obtain ⟨u, hu, -⟩ := Except.bind_eq_ok.1 h
    exact List.forall_mem_singleton.2 ⟨u, hu⟩
  | binary span op left right =>
    rw [Expr.infer] at h
    obtain ⟨l, hl, h⟩ := Except.bind_eq_ok.1 h
    obtain ⟨r, hr, -⟩ := Except.bind_eq_ok.1 h
    exact List.forall_mem_cons.2 ⟨⟨l, hl⟩, List.forall_mem_singleton.2 ⟨r, hr⟩⟩
  | cast span operand target =>
    rw [Expr.infer] at h
    obtain ⟨u, hu, -⟩ := Except.bind_eq_ok.1 h
    exact List.forall_mem_singleton.2 ⟨u, hu⟩
  | call span callee args =>
    rw [Expr.infer] at h
    rw [Expr.typedChildren]
    split
    · rename_i hcallee
      obtain ⟨value, index, u, lane, rfl, hvalue, -⟩ := callType_broadcast h hcallee
      exact List.forall_mem_singleton.2 ⟨u, hvalue⟩
    · rename_i hcallee
      exact callType_typed h hcallee
  | range span first last =>
    intro c hc
    obtain ⟨a, ha⟩ := Expr.bounds_of_infer h c hc
    exact ⟨_, ha⟩
  | recv span chan =>
    rw [Expr.infer] at h
    obtain ⟨u, hu, -⟩ := Except.bind_eq_ok.1 h
    exact List.forall_mem_singleton.2 ⟨u, hu⟩

/-- If an expression has a type, so have all its parts outside of lane indices. -/
theorem Expr.typed_of_evaluates {e c : Expr} {t : LaneType} (hpart : e.Evaluates c) (h : e.infer env = .ok t) :
    ∃ u, c.infer env = .ok u := by
  induction hpart with
  | refl => exact ⟨t, h⟩
  | tail _ hchild ih =>
    obtain ⟨u, hu⟩ := ih
    exact Expr.typed_of_infer hu _ hchild

/-- A child of an expression is typed with it, or it is the lane index of a broadcast. -/
theorem Expr.child_typed_or_constant {e : Expr} {t : LaneType} (h : e.infer env = .ok t) :
    ∀ c ∈ e.children, (∃ u, c.infer env = .ok u) ∨ ∃ v, c.constantValue env.constants = .ok v := by
  intro c hc
  by_cases htyped : c ∈ e.typedChildren
  · exact Or.inl (Expr.typed_of_infer h c htyped)
  · cases e with
    | call span callee args =>
      rw [Expr.typedChildren] at htyped
      split at htyped
      · rename_i hcallee
        rw [Expr.infer] at h
        obtain ⟨value, index, u, lane, rfl, hvalue, hindex⟩ := callType_broadcast h hcallee
        rcases List.mem_cons.1 hc with rfl | hc
        · exact Or.inl ⟨u, hvalue⟩
        · rw [List.mem_singleton.1 hc]
          exact Or.inr ⟨lane, hindex⟩
      · exact absurd hc htyped
    | _ => exact absurd hc htyped

/-- If an expression has a compile-time value, so have all its parts. -/
theorem Expr.part_constant {constants : NameMap Int64} (e : Expr) :
    ∀ {v : Int64}, e.constantValue constants = .ok v →
      ∀ c ∈ e.parts, ∃ w, c.constantValue constants = .ok w := by
  refine Expr.of_children (P := fun e => ∀ {v : Int64}, e.constantValue constants = .ok v →
    ∀ c ∈ e.parts, ∃ w, c.constantValue constants = .ok w) ?_ e
  intro e hchildren v h c hc
  rw [Expr.parts_eq] at hc
  rcases List.mem_cons.1 hc with rfl | hc
  · exact ⟨v, h⟩
  · obtain ⟨child, hchild, hc⟩ := List.mem_flatMap.1 hc
    have hvalue : ∃ w, child.constantValue constants = .ok w := by
      rcases Expr.constantValue_ok h with ⟨span, rfl⟩ | ⟨span, name, rfl, -⟩ |
        ⟨span, operand, w, rfl, hw, -⟩ | ⟨span, op, left, right, l, r, rfl, hl, hr, -⟩
      · cases hchild
      · cases hchild
      · exact ⟨w, List.mem_singleton.1 hchild ▸ hw⟩
      · rcases List.mem_cons.1 hchild with rfl | hchild
        · exact ⟨l, hl⟩
        · exact ⟨r, List.mem_singleton.1 hchild ▸ hr⟩
    obtain ⟨w, hw⟩ := hvalue
    exact hchildren child hchild hw c hc

/-- Every part of an expression that has a type has a type or a compile-time value. -/
theorem Expr.part_typed_or_constant (e : Expr) :
    ∀ {t : LaneType}, e.infer env = .ok t →
      ∀ c ∈ e.parts, (∃ u, c.infer env = .ok u) ∨ ∃ v, c.constantValue env.constants = .ok v := by
  refine Expr.of_children (P := fun e => ∀ {t : LaneType}, e.infer env = .ok t →
    ∀ c ∈ e.parts, (∃ u, c.infer env = .ok u) ∨ ∃ v, c.constantValue env.constants = .ok v) ?_ e
  intro e hchildren t h c hc
  rw [Expr.parts_eq] at hc
  rcases List.mem_cons.1 hc with rfl | hc
  · exact Or.inl ⟨t, h⟩
  · obtain ⟨child, hchild, hc⟩ := List.mem_flatMap.1 hc
    rcases Expr.child_typed_or_constant h child hchild with ⟨u, hu⟩ | ⟨v, hv⟩
    · exact hchildren child hchild hu c hc
    · exact Or.inr (child.part_constant hv c hc)

end Lanewise
