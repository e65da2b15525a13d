import Lanewise.Proofs.Occurrences
import Lanewise.Proofs.TypingRules
import Lanewise.Syntax.Builder

/-!
# Constant folding and integer arithmetic

Compile-time integers are folded step by step in words of 64 bits. Over all integers an expression has a value of
its own (`Expr.integerValue?`), which knows of no range: it is missing only for a name without a value, a division
by zero, a shift by a negative amount and an expression of another form.

A step that folds has the integer value, and it is a word, because every operator refuses what is out of range. The
shift to the left is the exception: it looks at its amount alone. So the folded value is the integer value, and
nothing on the way to it is out of range, exactly if all shifts stay in range (`Expr.folding_exact_iff`).
-/

set_option autoImplicit false

namespace Lanewise

/-! ### Words -/

/-- Whether an integer is in the range of the signed words of 64 bits. -/
def IsWord (n : Int) : Prop :=
  Int64.minValue.toInt ≤ n ∧ n ≤ Int64.maxValue.toInt

instance (n : Int) : Decidable (IsWord n) :=
  inferInstanceAs (Decidable (_ ∧ _))

/-- A word of 64 bits stands for an integer in its range. -/
theorem isWord_toInt (v : Int64) : IsWord v.toInt :=
  ⟨v.minValue_le_toInt, v.toInt_le⟩

/-- An integer in the range of the words is kept by turning it into one. -/
theorem toInt_ofInt_of_isWord {n : Int} (h : IsWord n) : (Int64.ofInt n).toInt = n := by
  have hmin : Int64.minValue.toInt = -9223372036854775808 := rfl
  have hmax : Int64.maxValue.toInt = 9223372036854775807 := rfl
  obtain ⟨hlower, hupper⟩ := h
  rw [hmin] at hlower
  rw [hmax] at hupper
  exact Int64.toInt_ofInt_of_le hlower (by omega)

/-- An integer becomes the word that stands for it, and none if there is no such word. -/
theorem word?_eq_some {n : Int} {v : Int64} : word? n = some v ↔ v.toInt = n := by
  constructor
  · intro h
    unfold word? at h
    split at h
    · rename_i hword
      cases h
      exact toInt_ofInt_of_isWord hword
    · cases h
  · rintro rfl
    have hword := isWord_toInt v
    unfold IsWord at hword
    rw [word?, if_pos hword, Int64.ofInt_toInt]

/-- An integer in range becomes a word. -/
theorem word?_of_isWord {n : Int} (h : IsWord n) : word? n = some (Int64.ofInt n) :=
  word?_eq_some.2 (toInt_ofInt_of_isWord h)

/-- The remainder of two words is a word: it is smaller than the divisor. -/
theorem isWord_tmod (l r : Int64) (hr : r.toInt ≠ 0) : IsWord (l.toInt.tmod r.toInt) := by
  have hmin : Int64.minValue.toInt = -9223372036854775808 := rfl
  have hmax : Int64.maxValue.toInt = 9223372036854775807 := rfl
  have hdivisor : 0 < r.toInt.natAbs := Int.natAbs_pos.2 hr
  have hsmaller : (l.toInt.tmod r.toInt).natAbs < r.toInt.natAbs := by
    rw [Int.natAbs_tmod]
    exact Nat.mod_lt _ hdivisor
  obtain ⟨hlower, hupper⟩ := isWord_toInt r
  rw [hmin] at hlower
  rw [hmax] at hupper
  constructor
  · omega
  · omega

/-! ### Operators -/

/-- The value of an operator over all integers. Division truncates, and a shift to the left multiplies by a power of
two. -/
def BinaryOp.onIntegers? (op : BinaryOp) (l r : Int) : Option Int :=
  match op with
  | add => some (l + r)
  | sub => some (l - r)
  | mul => some (l * r)
  | div => if r = 0 then none else some (l.tdiv r)
  | mod => if r = 0 then none else some (l.tmod r)
  | shl => if 0 ≤ r then some (l * Int.pow 2 r.toNat) else none
  | _ => none

/-- What an operator asks of its operands besides a value in range: a shift has an amount below the number of bits,
and a remainder exists where the quotient is in range. -/
def BinaryOp.Admits (op : BinaryOp) (l r : Int) : Prop :=
  (op = .shl → r < 64) ∧ (op = .mod → IsWord (l.tdiv r))

/-- An operator that folds has folded to its value over all integers; a shift, if that value is in range. -/
theorem BinaryOp.onIntegers?_of_fold? {op : BinaryOp} {l r v : Int64} (h : op.fold? l r = some v)
    (hshift : op = .shl → ∃ n, op.onIntegers? l.toInt r.toInt = some n ∧ IsWord n) :
    op.onIntegers? l.toInt r.toInt = some v.toInt := by
  cases op with
  | add | sub | mul =>
    simp only [BinaryOp.fold?, word?_eq_some] at h
    rw [h, BinaryOp.onIntegers?]
  | div =>
    simp only [BinaryOp.fold?] at h
    split at h
    · cases h
    · rename_i hr
      rw [word?_eq_some] at h
      rw [BinaryOp.onIntegers?, if_neg hr, h]
  | mod =>
    simp only [BinaryOp.fold?] at h
    split at h
    · cases h
    · rename_i hr
      obtain ⟨quotient, -, hv⟩ := Option.map_eq_some_iff.1 h
      rw [BinaryOp.onIntegers?, if_neg hr, ← hv, toInt_ofInt_of_isWord (isWord_tmod l r hr)]
  | shl =>
    obtain ⟨n, hn, hword⟩ := hshift rfl
    simp only [BinaryOp.fold?] at h
    split at h
    · rename_i hamount
      rw [BinaryOp.onIntegers?, if_pos hamount.1] at hn ⊢
      cases hn
      cases h
      rw [toInt_ofInt_of_isWord hword]
    · cases h
  | _ => cases h

/-- An operator folds if its value over all integers is in range and it admits its operands. -/
theorem BinaryOp.fold?_of_onIntegers? {op : BinaryOp} {l r : Int64} {n : Int}
    (h : op.onIntegers? l.toInt r.toInt = some n) (hword : IsWord n) (hadmits : op.Admits l.toInt r.toInt) :
    ∃ v, op.fold? l r = some v := by
  cases op with
  | add | sub | mul =>
    cases h
    exact ⟨_, word?_of_isWord hword⟩
  | div =>
    rw [BinaryOp.onIntegers?] at h
    split at h
    · cases h
    · rename_i hr
      cases h
      refine ⟨Int64.ofInt (l.toInt.tdiv r.toInt), ?_⟩
      simp only [BinaryOp.fold?, if_neg hr, word?_of_isWord hword]
  | mod =>
    rw [BinaryOp.onIntegers?] at h
    split at h
    · cases h
    · rename_i hr
      refine ⟨Int64.ofInt (l.toInt.tmod r.toInt), ?_⟩
      simp only [BinaryOp.fold?, if_neg hr, word?_of_isWord (hadmits.2 rfl), Option.map_some]
  | shl =>
    rw [BinaryOp.onIntegers?] at h
    split at h
    · rename_i hr
      have hamount : 0 ≤ r.toInt ∧ r.toInt < 64 := ⟨hr, hadmits.1 rfl⟩
      refine ⟨Int64.ofInt (l.toInt * Int.pow 2 r.toInt.toNat), ?_⟩
      simp only [BinaryOp.fold?, if_pos hamount]
    · cases h
  | _ => cases h

/-! ### Expressions -/

/-- The value of an expression over all integers. -/
def Expr.integerValue? (constants : NameMap Int64) : Expr → Option Int
  | .int _ v => some v.toInt
  | .ident _ name => (constants.find? name).map Int64.toInt
  | .unary _ .neg operand => (operand.integerValue? constants).map fun n => -n
  | .binary _ op left right => do
    let l ← left.integerValue? constants
    let r ← right.integerValue? constants
    op.onIntegers? l r
  | _ => none

namespace Expr

/-- Whether an expression has a value over all integers, and one that is in range. -/
def Fits (constants : NameMap Int64) (e : Expr) : Prop :=
  ∃ n, e.integerValue? constants = some n ∧ IsWord n

/-- Whether an expression is a shift to the left. -/
def isShift : Expr → Bool
  | .binary _ .shl _ _ => true
  | _ => false

/-- Whether the operator of an expression admits the values of its operands. -/
def Admitted (constants : NameMap Int64) (e : Expr) : Prop :=
  ∀ span op left right l r, e = .binary span op left right → left.integerValue? constants = some l →
    right.integerValue? constants = some r → op.Admits l r

/-- Something holds of all parts of an expression if it holds of the expression and of all parts of its
children. -/
theorem forall_parts_iff {P : Expr → Prop} {e : Expr} :
    (∀ part ∈ e.parts, P part) ↔ P e ∧ ∀ child ∈ e.children, ∀ part ∈ child.parts, P part := by
  rw [Expr.parts_eq, List.forall_mem_cons, List.forall_mem_flatMap]

end Expr

section Folding

variable {constants : NameMap Int64}

/-- A folded value is the integer value if all shifts stay in range, and then nothing else is out of range. -/
theorem Expr.fits_of_constantValue (e : Expr) : ∀ {v : Int64}, e.constantValue constants = .ok v →
    (∀ part ∈ e.parts, part.isShift = true → part.Fits constants) →
      e.integerValue? constants = some v.toInt ∧ ∀ part ∈ e.parts, part.Fits constants := by
  refine Expr.of_children (P := fun e => ∀ {v : Int64}, e.constantValue constants = .ok v →
    (∀ part ∈ e.parts, part.isShift = true → part.Fits constants) →
      e.integerValue? constants = some v.toInt ∧ ∀ part ∈ e.parts, part.Fits constants) ?_ e
  intro e hchildren v h hshifts
  rw [Expr.forall_parts_iff] at hshifts ⊢
  obtain ⟨hshift, hshifts⟩ := hshifts
  -- the value of the expression itself is in range as soon as it is that of the word
  suffices hvalue : e.integerValue? constants = some v.toInt ∧
      ∀ child ∈ e.children, ∀ part ∈ child.parts, part.Fits constants from
    ⟨hvalue.1, ⟨_, hvalue.1, isWord_toInt v⟩, hvalue.2⟩
  rcases Expr.constantValue_ok h with ⟨span, rfl⟩ | ⟨span, name, rfl, hfind⟩ |
    ⟨span, operand, w, rfl, hw, hneg⟩ | ⟨span, op, left, right, l, r, rfl, hl, hr, hfold⟩
  · exact ⟨rfl, fun child hchild => by cases hchild⟩
  · refine ⟨?_, fun child hchild => by cases hchild⟩
    rw [Expr.integerValue?, hfind, Option.map_some]
  · have hoperand := hchildren operand List.mem_cons_self hw (hshifts operand List.mem_cons_self)
    rw [word?_eq_some] at hneg
    refine ⟨?_, List.forall_mem_singleton.2 hoperand.2⟩
    rw [Expr.integerValue?, hoperand.1, Option.map_some, hneg]
  · have hright : right ∈ (Expr.binary span op left right).children :=
      List.mem_cons_of_mem _ List.mem_cons_self
    have hlvalue := hchildren left List.mem_cons_self hl (hshifts left List.mem_cons_self)
    have hrvalue := hchildren right hright hr (hshifts right hright)
    have hstep : (Expr.binary span op left right).integerValue? constants =
        op.onIntegers? l.toInt r.toInt := by
      rw [Expr.integerValue?, hlvalue.1, hrvalue.1]
      rfl
    refine ⟨?_, List.forall_mem_cons.2 ⟨hlvalue.2, List.forall_mem_singleton.2 hrvalue.2⟩⟩
    rw [hstep]
    apply BinaryOp.onIntegers?_of_fold? hfold
    rintro rfl
    rw [← hstep]
    exact hshift rfl

/-- An expression folds if all of it is in range and every operator admits its operands. -/
theorem Expr.constantValue_of_fits (e : Expr) :
    (∀ part ∈ e.parts, part.Fits constants ∧ part.Admitted constants) → ∃ v, e.constantValue constants = .ok v := by
  refine Expr.of_children (P := fun e => (∀ part ∈ e.parts, part.Fits constants ∧ part.Admitted constants) →
    ∃ v, e.constantValue constants = .ok v) ?_ e
  intro e hchildren hparts
  rw [Expr.forall_parts_iff] at hparts
  obtain ⟨⟨⟨n, hn, hword⟩, hadmitted⟩, hparts⟩ := hparts
  have hvalues : ∀ child ∈ e.children, ∃ v, child.constantValue constants = .ok v ∧
      child.integerValue? constants = some v.toInt := by
    intro child hchild
    obtain ⟨v, hv⟩ := hchildren child hchild (hparts child hchild)
    have hshifts : ∀ part ∈ child.parts, part.isShift = true → part.Fits constants :=
      fun part hpart _ => (hparts child hchild part hpart).1
    exact ⟨v, hv, (Expr.fits_of_constantValue child hv hshifts).1⟩
  cases e with
  | int span value => exact ⟨value, rfl⟩
  | ident span name =>
    obtain ⟨v, hfind, -⟩ := Option.map_eq_some_iff.1 hn
    exact ⟨v, by simp only [Expr.constantValue, hfind]⟩
  | unary span op operand =>
    cases op with
    | neg =>
      obtain ⟨w, hw, hoperand⟩ := hvalues operand List.mem_cons_self
      rw [Expr.integerValue?, hoperand] at hn
      cases hn
      refine ⟨Int64.ofInt (-w.toInt), ?_⟩
      rw [Expr.constantValue]
      refine Except.bind_eq_ok.2 ⟨w, hw, ?_⟩
      simp only [word?_of_isWord hword]
    | not | bitNot => cases hn
  | binary span op left right =>
    obtain ⟨l, hl, hleft⟩ := hvalues left List.mem_cons_self
    obtain ⟨r, hr, hright⟩ := hvalues right (List.mem_cons_of_mem _ List.mem_cons_self)
    rw [Expr.integerValue?, hleft, hright] at hn
    have hadmits : op.Admits l.toInt r.toInt := hadmitted span op left right _ _ rfl hleft hright
    obtain ⟨v, hfold⟩ := BinaryOp.fold?_of_onIntegers? hn hword hadmits
    refine ⟨v, ?_⟩
    rw [Expr.constantValue]
    refine Except.bind_eq_ok.2 ⟨l, hl, Except.bind_eq_ok.2 ⟨r, hr, ?_⟩⟩
    simp only [hfold]
  | float | bool | cast | call | range | recv => cases hn

end Folding

/-- Folding is exact apart from shifts to the left. A folded value is the value over all integers, and an issue is
raised instead as soon as some step has none or one out of range, exactly if an expression that folds has no shift
out of range. And folding is complete: an expression folds if all its steps are in range, its shifts are by less
than 64 and its remainders have a quotient in range. -/
theorem Expr.folding_exact_iff (constants : NameMap Int64) (e : Expr) :
    (((∀ v, e.constantValue constants = .ok v → e.integerValue? constants = some v.toInt) ∧
        ((∃ part ∈ e.parts, ¬ part.Fits constants) → ∃ issue, e.constantValue constants = .error issue)) ↔
      ∀ v, e.constantValue constants = .ok v → ∀ part ∈ e.parts, part.isShift = true → part.Fits constants) ∧
    ((∀ part ∈ e.parts, part.Fits constants ∧ part.Admitted constants) →
      ∃ v, e.constantValue constants = .ok v) := by
  refine ⟨⟨?_, ?_⟩, Expr.constantValue_of_fits e⟩
  · rintro ⟨-, hrefused⟩ v hv part hpart -
    by_cases hfits : part.Fits constants
    · exact hfits
    · obtain ⟨issue, hissue⟩ := hrefused ⟨part, hpart, hfits⟩
      rw [hv] at hissue
      cases hissue
  · intro hshifts
    constructor
    · intro v hv
      exact (Expr.fits_of_constantValue e hv (hshifts v hv)).1
    · rintro ⟨part, hpart, hfits⟩
      cases hvalue : e.constantValue constants with
      | error issue => exact ⟨issue, rfl⟩
      | ok v => exact absurd ((Expr.fits_of_constantValue e hvalue (hshifts v hvalue)).2 part hpart) hfits

section Overshot

open Builder

/-- The word 2 ^ 62, moved two bits to the left. -/
def overshot : Expr :=
  let build : Builder Expr := do
    binary .shl (← int 4611686018427387904) (← int 2)
  (build.run 0).1

/-- The shift has the value 2 ^ 64, which is out of range. It is not refused but folded to 0, which as a lane count
would leave the number of lanes open; the same product is refused. -/
theorem Expr.folding_exact_overshot :
    overshot.constantValue .empty = .ok 0 ∧
      overshot.integerValue? .empty = some 18446744073709551616 ∧ ¬ IsWord 18446744073709551616 ∧
      ¬ ((∀ v, overshot.constantValue .empty = .ok v → overshot.integerValue? .empty = some v.toInt) ∧
        ((∃ part ∈ overshot.parts, ¬ part.Fits .empty) →
          ∃ issue, overshot.constantValue .empty = .error issue)) ∧
      BinaryOp.fold? .mul 4611686018427387904 4 = none := by
  have hfolded : overshot.constantValue .empty = .ok 0 := rfl
  have hvalue : overshot.integerValue? .empty = some 18446744073709551616 := by decide +kernel
  refine ⟨hfolded, hvalue, by decide, ?_, by decide +kernel⟩
  rintro ⟨hexact, -⟩
  have hzero := hexact 0 hfolded
  rw [hvalue] at hzero
  revert hzero
  decide

end Overshot

end Lanewise
