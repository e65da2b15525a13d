import Lanewise.Lanes.Permute
import Lanewise.Proofs.BitMasks
import Lanewise.Proofs.TypingRules

/-!
# What the checker and the lane library refuse

Two operations of the lane library fail for some numbers of lanes: a broadcast of a lane that does not exist, and a bit
mask of more lanes than a word has bits. The checker refuses calls of them beforehand, from the types alone, by bounds
of its own.

A type with a known number of lanes (`LaneType.laneCount?`) stands for all values with that many lanes. Each bound of
the checker is here compared with what the library does to all of them: the bounds are the same, whatever the target is,
also where the target has no lanes at all or more than a word has bits.
-/

set_option autoImplicit false

namespace Lanewise

/-! ### The library -/

namespace Varying

variable {α : Type}

/-- A broadcast succeeds exactly if the value has the lane. -/
theorem broadcast_succeeds_iff {v : Varying α} {lane : Nat} : (∃ r, v.broadcast lane = .ok r) ↔ lane < v.width := by
  constructor
  · rintro ⟨r, h⟩
    obtain ⟨x, hx, -⟩ := Except.bind_eq_ok.1 h
    exact (List.getElem?_eq_some_iff.1 (get_eq_ok.1 hx)).1
  · intro hlane
    have hin : lane < v.lanes.length := hlane
    exact ⟨_, Except.bind_eq_ok.2 ⟨_, get_eq_ok.2 (List.getElem?_eq_getElem hin), rfl⟩⟩

/-- The values with `count` lanes all have a lane exactly if it is below `count`. -/
theorem forall_broadcast_iff [Nonempty α] {count lane : Nat} :
    (∀ v : Varying α, v.width = count → ∃ r, v.broadcast lane = .ok r) ↔ lane < count := by
  constructor
  · intro h
    obtain ⟨x⟩ := ‹Nonempty α›
    have hwidth : (splat x count).width = count := List.length_replicate
    rw [← hwidth]
    exact broadcast_succeeds_iff.1 (h (splat x count) hwidth)
  · rintro hlane v rfl
    exact broadcast_succeeds_iff.2 hlane

/-- All booleans of `count` lanes have a bit mask, under every mask, exactly if the lanes fit into a word. -/
theorem forall_bitmask_iff {count : Nat} :
    (∀ (v : Varying Bool) (m : Mask), v.width = count → m.width = count → ∃ bits, v.bitmask m = .ok bits) ↔
      count ≤ 64 := by
  constructor
  · intro h
    by_contra hwide
    have hvalue : (splat true count).width = count := List.length_replicate
    have hmask : (Mask.all count).width = count := List.length_replicate
    obtain ⟨bits, hbits⟩ := h (splat true count) (.all count) hvalue hmask
    have hrefused := bitmask_of_width_gt (hmask.trans hvalue.symm) (hvalue.symm ▸ Nat.not_le.1 hwide)
    rw [hrefused] at hbits
    cases hbits
  · rintro hfits v m rfl hmask
    obtain ⟨bits, hbits, -⟩ := bitmask_ok hmask hfits
    exact ⟨bits, hbits⟩

end Varying

/-! ### Lane counts of types -/

/-- The number of lanes of the values of a type, if it is varying and does not leave the number open. -/
def LaneType.laneCount? (target : Target) : LaneType → Option Nat
  | .varying _ (.fixed n) => some n
  | .varying elem .native => some (target.laneWidth elem)
  | _ => none

/-- A type with a lane count is varying, and its width is not open and has that many lanes. -/
theorem LaneType.laneCount?_eq_some {target : Target} {t : LaneType} {count : Nat}
    (h : t.laneCount? target = some count) :
    ∃ elem w, t = .varying elem w ∧ w ≠ .universal ∧ w.lanes target elem = count := by
  cases t with
  | varying elem w =>
    cases w with
    | native | fixed =>
      cases h
      exact ⟨elem, _, rfl, fun hopen => (by cases hopen), rfl⟩
    | universal => cases h
  | void | uniform | seq | groups | chan => cases h

/-! ### The checker -/

namespace Expr

variable {env : Env} {span : Span} {callee : Name} {value index : Expr} {elem : Scalar} {w : Width} {k : Int64}

/-- A broadcast at a constant index asks for an index below the lane count. -/
theorem infer_broadcast_iff (hcallee : callee.text = "lanes.Broadcast")
    (hvalue : value.infer env = .ok (.varying elem w)) (hknown : w ≠ .universal)
    (hindex : index.constantValue env.constants = .ok k) :
    (∃ t, (Expr.call span callee [value, index]).infer env = .ok t) ↔
      0 ≤ k.toInt ∧ k.toInt < w.lanes env.target elem := by
  rw [infer_broadcast hcallee hvalue hknown]
  simp only [broadcastType, hindex, Except.bind_eq_ok, Issue.require_eq_ok, Bool.and_eq_true, decide_eq_true_eq]
  constructor
  · rintro ⟨t, -, hrange, -⟩
    exact hrange
  · intro hrange
    exact ⟨_, (), hrange, rfl⟩

/-- A bit mask asks for a lane count of at most 64. -/
theorem infer_bitmask_iff (hcallee : callee.text = "reduce.Mask")
    (hvalue : value.infer env = .ok (.varying .bool w)) (hknown : w ≠ .universal) :
    (∃ t, (Expr.call span callee [value]).infer env = .ok t) ↔ w.lanes env.target .bool ≤ 64 := by
  have hoperand : varyingOperand .mask ⟨value, value.infer env⟩ = .ok (.bool, w) :=
    varyingOperand_eq_ok.2 ⟨hvalue, hknown⟩
  have hcall : (Expr.call span callee [value]).infer env = reductionType env .mask .bool w value.span := by
    rw [infer_libraryCall .mask hcallee]
    show unaryLibraryType env .mask ⟨value, value.infer env⟩ = _
    rw [unaryLibraryType, hoperand]
    rfl
  rw [hcall]
  simp only [reductionType, Except.bind_eq_ok, Issue.require_eq_ok, decide_eq_true_eq]
  constructor
  · rintro ⟨t, -, -, -, hfits, -⟩
    exact hfits
  · intro hfits
    exact ⟨_, (), rfl, (), hfits, rfl⟩

end Expr

/-- The checker refuses a broadcast or a bit mask exactly if the lane library does. On any target, acceptable or not, a
broadcast of lanes of a known count at a constant index has a type exactly if the index is not negative and the library
can broadcast that lane of every value with that many lanes. A bit mask of booleans of a known lane count has a type
exactly if the library finds one for all such booleans under all masks. -/
theorem Env.lane_checks_agree (env : Env) {α : Type} [Nonempty α] :
    (∀ (span : Span) (callee : Name) (value index : Expr) (t : LaneType) (count : Nat) (k : Int64),
      callee.text = "lanes.Broadcast" → value.infer env = .ok t → t.laneCount? env.target = some count →
        index.constantValue env.constants = .ok k →
        ((∃ r, (Expr.call span callee [value, index]).infer env = .ok r) ↔
          0 ≤ k.toInt ∧ ∀ v : Varying α, v.width = count → ∃ r, v.broadcast k.toInt.toNat = .ok r)) ∧
    ∀ (span : Span) (callee : Name) (value : Expr) (t : LaneType) (count : Nat),
      callee.text = "reduce.Mask" → value.infer env = .ok t → t.isBool = true →
        t.laneCount? env.target = some count →
        ((∃ r, (Expr.call span callee [value]).infer env = .ok r) ↔
          ∀ (v : Varying Bool) (m : Mask), v.width = count → m.width = count →
            ∃ bits, v.bitmask m = .ok bits) := by
  constructor
  · intro span callee value index t count k hcallee hvalue hcount hindex
    obtain ⟨elem, w, rfl, hknown, rfl⟩ := LaneType.laneCount?_eq_some hcount
    rw [Expr.infer_broadcast_iff hcallee hvalue hknown hindex, Varying.forall_broadcast_iff]
    apply and_congr_right
    intro hk
    omega
  · intro span callee value t count hcallee hvalue hbool hcount
    obtain ⟨elem, w, rfl, hknown, rfl⟩ := LaneType.laneCount?_eq_some hcount
    obtain rfl : elem = .bool := Option.some.inj (of_decide_eq_true hbool)
    rw [Expr.infer_bitmask_iff hcallee hvalue hknown, Varying.forall_bitmask_iff]

section Overwide

open Builder

/-- A target with registers of twice the limit, booleans in all its lanes, four lanes of another type, and the number of
the last of these four. -/
def overwide : Env :=
  let env := (Env.initial ⟨"overwide", 1024⟩).define "ready" ⟨.varying .bool .native, 0⟩
  { env.define "quad" ⟨.varying .float32 (.fixed 4), 0⟩ with constants := Assoc.empty.insert "LAST" 3 }

/-- The last of the four lanes, in all of them. -/
def spreadLast : Expr :=
  let build : Builder Expr := do
    call "lanes.Broadcast" [← ident "quad", ← ident "LAST"]
  (build.run 0).1

/-- The bit mask of the booleans. -/
def readyBits : Expr :=
  let build : Builder Expr := do
    call "reduce.Mask" [← ident "ready"]
  (build.run 0).1

/-- Lane 3 of four lanes can be broadcast. The target, which is not acceptable, has 128 boolean lanes: their bit mask is
refused by the checker, and by the library for some booleans. -/
theorem Env.lane_checks_agree_overwide :
    Target.acceptable overwide.target.registerBits = false ∧
      (LaneType.varying .bool .native).laneCount? overwide.target = some 128 ∧
      (∃ r, spreadLast.infer overwide = .ok r) ∧
      (∀ v : Varying Bool, v.width = 4 → ∃ r, v.broadcast 3 = .ok r) ∧
      (¬ ∃ r, readyBits.infer overwide = .ok r) ∧
      ¬ ∀ (v : Varying Bool) (m : Mask), v.width = 128 → m.width = 128 → ∃ bits, v.bitmask m = .ok bits := by
  obtain ⟨hbroadcast, hmask⟩ := @Env.lane_checks_agree overwide Bool ⟨true⟩
  have hspread : ∃ r, spreadLast.infer overwide = .ok r := ⟨_, rfl⟩
  have hready : ¬ ∃ r, readyBits.infer overwide = .ok r := by
    rintro ⟨r, hr⟩
    cases hr
  have hlast := (hbroadcast _ _ _ _ _ 4 3 rfl rfl rfl rfl).1 hspread
  refine ⟨rfl, rfl, hspread, hlast.2, hready, fun hall => hready ?_⟩
  exact (hmask _ _ _ _ 128 rfl rfl rfl rfl).2 hall

end Overwide

end Lanewise
