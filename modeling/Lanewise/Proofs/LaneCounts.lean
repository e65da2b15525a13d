import Mathlib.Logic.Relation
import Lanewise.Proofs.TypeResolution
import Lanewise.Proofs.TypingRules
import Lanewise.Syntax.Builder

/-!
# Fixed lane counts

An expression that works lane by lane has the lanes of its operands: if one of them has a fixed count, the
result has that count, and operands with different fixed counts are refused. So a fixed count goes with a value
through any tree of such expressions, and all values of fixed count in one tree have the same one.

There is one exception. A conversion names its result type in full, and where that type is written without a
lane constraint, the count of the operand is compared with nothing and forgotten (`Expr.castsToNative`). What
comes out flows into slots that are closed to the operand, and combines with values of any other count.
-/

set_option autoImplicit false

namespace Lanewise

/-- The operands of an expression that works lane by lane. The lane index of a broadcast is a compile-time
number and no operand. -/
def Expr.laneOperands : Expr → List Expr
  | .unary _ _ operand => [operand]
  | .binary _ _ left right => [left, right]
  | .cast _ operand _ => [operand]
  | .call _ callee args =>
    match LibraryOp.ofName? callee.text with
    | some .broadcast => args.take 1
    | some .rotate => args
    | some .swizzle => args
    | some .shiftLeft => args
    | some .shiftRight => args
    | _ => []
  | _ => []

/-- Whether an expression is a conversion to a varying type that is written without a lane constraint. -/
def Expr.castsToNative : Expr → Bool
  | .cast _ _ (.varying _ _ none) => true
  | _ => false

/-! ### One expression -/

/-- A fixed width on the left is the joined one. -/
theorem Width.eq_of_join_left {n : Nat} {b w : Width} {span : Span}
    (h : (Width.fixed n).join b span = .ok w) : w = .fixed n := by
  obtain ⟨-, -, ⟨hnative, -⟩ | ⟨-, hw⟩⟩ := Width.join_eq_ok.1 h
  · cases hnative
  · exact hw

/-- A fixed width on the right is the joined one. -/
theorem Width.eq_of_join_right {n : Nat} {a w : Width} {span : Span}
    (h : a.join (.fixed n) span = .ok w) : w = .fixed n := by
  obtain ⟨-, -, ⟨-, hw⟩ | ⟨hright, hw⟩⟩ := Width.join_eq_ok.1 h
  · exact hw
  · rcases hright with hnative | hsame
    · cases hnative
    · rw [hw, hsame]

/-- A fixed count on the left is that of the result. -/
theorem lanewise_of_fixed_left {s : Scalar} {n : Nat} {r : Option Width} {span : Span} {t : LaneType}
    (h : lanewise s (some (.fixed n)) r span = .ok t) : t = .varying s (.fixed n) := by
  cases r with
  | none =>
    cases h
    rfl
  | some b =>
    obtain ⟨w, hw, h⟩ := Except.bind_eq_ok.1 h
    cases h
    rw [Width.eq_of_join_left hw]

/-- A fixed count on the right is that of the result. -/
theorem lanewise_of_fixed_right {s : Scalar} {n : Nat} {l : Option Width} {span : Span} {t : LaneType}
    (h : lanewise s l (some (.fixed n)) span = .ok t) : t = .varying s (.fixed n) := by
  cases l with
  | none =>
    cases h
    rfl
  | some a =>
    obtain ⟨w, hw, h⟩ := Except.bind_eq_ok.1 h
    cases h
    rw [Width.eq_of_join_right hw]

/-- A varying type has native width exactly if it is written without a lane constraint. -/
theorem TypeExpr.width_of_resolve {env : Env} {t : TypeExpr} {d : Scalar} {w : Width}
    (h : t.resolve env = .ok (.varying d w)) :
    ∃ span elem lanes, t = .varying span elem lanes ∧ (w = .native ↔ lanes = none) := by
  cases TypeExpr.resolve_eq_ok.1 h with
  | native | universal | fixed => exact ⟨_, _, _, rfl, by simp⟩

/-- What a lanewise expression of type `t` and an operand of type `u` have to do with each other: if the
operand has a fixed count, the expression has it, too, or is a conversion that leaves the count open. -/
def Expr.Carries (e : Expr) (t u : LaneType) : Prop :=
  ∀ s n, u = .varying s (.fixed n) →
    ∃ d, t = .varying d (if e.castsToNative then .native else .fixed n)

/-- A conversion carries the count of its operand, unless it leaves the count open. -/
theorem Expr.carries_cast {env : Env} {span : Span} {operand : Expr} {target : TypeExpr}
    {source dest : LaneType} (hdest : target.resolve env = .ok dest)
    (hcast : source.expectCast dest span = .ok ()) :
    (Expr.cast span operand target).Carries dest source := by
  rintro s n rfl
  obtain ⟨d, w, rfl⟩ := LaneType.expectCast_of_varying hcast
  obtain ⟨tspan, elem, lanes, rfl, hnative⟩ := TypeExpr.width_of_resolve hdest
  refine ⟨d, ?_⟩
  cases lanes with
  | none =>
    have hw : w = .native := hnative.2 rfl
    rw [hw]
    rfl
  | some c =>
    have hw : w ≠ .native := fun hw => by cases hnative.1 hw
    obtain ⟨-, ⟨a, ha⟩ | ⟨a, aw, joined, hsource, hjoin, -⟩⟩ := LaneType.expectCast_varying_ok hcast
    · cases ha
    · cases hsource
      -- two fixed widths only join if they are the same
      obtain ⟨-, -, ⟨hleft, -⟩ | ⟨hright, -⟩⟩ := Width.join_eq_ok.1 hjoin
      · cases hleft
      · rw [hright.resolve_left hw]
        rfl

section Calls

variable {env : Env} {span : Span} {callee : Name} {op : LibraryOp} {o : Expr}

/-- An operation of the library with two arguments is lanewise in both, but for a broadcast. -/
theorem Expr.mem_laneOperands_call {value other : Expr} (hop : LibraryOp.ofName? callee.text = some op)
    (harity : op.arity = 2) :
    o ∈ (Expr.call span callee [value, other]).laneOperands ↔ o = value ∨ op ≠ .broadcast ∧ o = other := by
  rw [Expr.laneOperands, hop]
  cases op with
  | broadcast | rotate | swizzle | shiftLeft | shiftRight => simp
  | _ => cases harity

/-- An operation of the library with one argument is not lanewise. -/
theorem Expr.laneOperands_call_unary {args : List Expr} (hop : LibraryOp.ofName? callee.text = some op)
    (harity : op.arity = 1) : (Expr.call span callee args).laneOperands = [] := by
  rw [Expr.laneOperands, hop]
  cases op with
  | broadcast | rotate | swizzle | shiftLeft | shiftRight => cases harity
  | _ => rfl

/-- A lanewise operand of a call that has a type has one, too, and the call carries its count. -/
theorem Expr.carries_call {args : List Expr} {t : LaneType}
    (h : (Expr.call span callee args).infer env = .ok t)
    (ho : o ∈ (Expr.call span callee args).laneOperands) :
    ∃ u, o.infer env = .ok u ∧ (Expr.call span callee args).Carries t u := by
  rw [Expr.infer] at h
  rcases callType_ok h with
    ⟨op, value, other, d, w, result, hop, harity, rfl, hvalue, -, rfl, hsettles⟩ |
      ⟨op, value, s, hop, harity, rfl, -⟩ | ⟨sig, hnone, -, -⟩
  · rcases (Expr.mem_laneOperands_call hop harity).1 ho with rfl | ⟨hbroadcast, rfl⟩
    · refine ⟨_, hvalue, fun s n hu => ⟨d, ?_⟩⟩
      cases hu
      rcases hsettles with ⟨-, rfl⟩ | ⟨a, -, rfl⟩ | ⟨a, aw, -, -, -, hjoin⟩
      · rfl
      · rfl
      · rw [Width.eq_of_join_left hjoin]
        rfl
    · rcases hsettles with ⟨hop, -⟩ | ⟨a, ha, -⟩ | ⟨a, aw, -, ha, -, hjoin⟩
      · exact absurd hop hbroadcast
      · refine ⟨_, ha, fun s n hu => ?_⟩
        cases hu
      · refine ⟨_, ha, fun s n hu => ⟨d, ?_⟩⟩
        cases hu
        rw [Width.eq_of_join_right hjoin]
        rfl
  · rw [Expr.laneOperands_call_unary hop harity] at ho
    cases ho
  · rw [Expr.laneOperands, hnone] at ho
    cases ho

end Calls

/-- The operands of a lanewise expression that has a type have types, and it has their lanes. -/
theorem Expr.carries_of_infer {env : Env} {e o : Expr} {t : LaneType} (h : e.infer env = .ok t)
    (ho : o ∈ e.laneOperands) : ∃ u, o.infer env = .ok u ∧ e.Carries t u := by
  cases e with
  | unary span op operand =>
    rw [Expr.laneOperands, List.mem_singleton] at ho
    rw [Expr.infer] at h
    obtain ⟨u, hu, h⟩ := Except.bind_eq_ok.1 h
    obtain ⟨-, -, rfl⟩ := unaryType_ok h
    exact ⟨t, ho ▸ hu, fun s n hlanes => ⟨s, hlanes⟩⟩
  | binary span op left right =>
    rw [Expr.infer] at h
    obtain ⟨lt, hl, h⟩ := Except.bind_eq_ok.1 h
    obtain ⟨rt, hr, h⟩ := Except.bind_eq_ok.1 h
    obtain ⟨-, -, l, r, common, -, -, -, -, hlanes⟩ := binaryType_ok h
    have hside : o = left ∨ o = right := by simpa [Expr.laneOperands] using ho
    rcases hside with rfl | rfl
    · refine ⟨lt, hl, ?_⟩
      rintro s n rfl
      exact ⟨_, lanewise_of_fixed_left hlanes⟩
    · refine ⟨rt, hr, ?_⟩
      rintro s n rfl
      exact ⟨_, lanewise_of_fixed_right hlanes⟩
  | cast span operand target =>
    rw [Expr.laneOperands, List.mem_singleton] at ho
    rw [Expr.infer] at h
    obtain ⟨source, hsource, h⟩ := Except.bind_eq_ok.1 h
    obtain ⟨dest, hdest, h⟩ := Except.bind_eq_ok.1 h
    obtain ⟨_, hcast, h⟩ := Except.bind_eq_ok.1 h
    cases h
    exact ⟨source, ho ▸ hsource, Expr.carries_cast hdest hcast⟩
  | call span callee args => exact Expr.carries_call h ho
  | int | float | bool | ident | range | recv => cases ho

/-! ### Trees of expressions -/

/-- Whether an expression has the lanes of another one, because that is one of its operands and it is no
conversion that leaves the count open. -/
def Expr.TakesLanes (e o : Expr) : Prop :=
  o ∈ e.laneOperands ∧ e.castsToNative = false

/-- A fixed count goes through a tree of lanewise expressions from any of its leaves to the root. -/
theorem Expr.infer_of_fixed_leaf {env : Env} {e o : Expr} {t : LaneType} {s : Scalar} {n : Nat}
    (hpath : Relation.ReflTransGen Expr.TakesLanes e o) (h : e.infer env = .ok t)
    (hleaf : o.infer env = .ok (.varying s (.fixed n))) : ∃ d, t = .varying d (.fixed n) := by
  induction hpath using Relation.ReflTransGen.head_induction_on generalizing t with
  | refl =>
    rw [hleaf] at h
    cases h
    exact ⟨s, rfl⟩
  | head hstep _ ih =>
    obtain ⟨hoperand, hkeeps⟩ := hstep
    obtain ⟨u, hu, hcarries⟩ := Expr.carries_of_infer h hoperand
    obtain ⟨d, hd⟩ := ih hu
    have hroot := hcarries d n hd
    rwa [hkeeps] at hroot

/-- No slot of native width takes lanes of a fixed count. -/
theorem LaneType.expect_native_of_fixed {a b : Scalar} {n : Nat} {isLiteral : Bool} {span : Span} :
    (LaneType.varying a (.fixed n)).expect (.varying b .native) isLiteral span ≠ .ok () := by
  intro h
  obtain ⟨_, -, hwidth⟩ := Except.bind_eq_ok.1 h
  cases hwidth

/-- A lanewise expression with an operand of a fixed count has that count, but for a conversion to a type
without a lane constraint, which has native width. Away from such conversions, the count of every value of fixed
count in a tree of lanewise expressions is that of the whole, so no two of them differ. Slots of native width are
closed to values of fixed count. -/
theorem Expr.fixed_count_kept {env : Env} {e : Expr} {t : LaneType} (h : e.infer env = .ok t) :
    (∀ o ∈ e.laneOperands, ∀ s n, o.infer env = .ok (.varying s (.fixed n)) →
        ∃ d, t = .varying d (if e.castsToNative then .native else .fixed n)) ∧
      (∀ o, Relation.ReflTransGen Expr.TakesLanes e o →
        ∀ s n, o.infer env = .ok (.varying s (.fixed n)) → ∃ d, t = .varying d (.fixed n)) ∧
      (∀ o o', Relation.ReflTransGen Expr.TakesLanes e o → Relation.ReflTransGen Expr.TakesLanes e o' →
        ∀ s s' n n', o.infer env = .ok (.varying s (.fixed n)) →
          o'.infer env = .ok (.varying s' (.fixed n')) → n = n') ∧
      ∀ a b n isLiteral span,
        (LaneType.varying a (.fixed n)).expect (.varying b .native) isLiteral span ≠ .ok () := by
  refine ⟨?_, ?_, ?_, ?_⟩
  · intro o ho s n hoperand
    obtain ⟨u, hu, hcarries⟩ := Expr.carries_of_infer h ho
    rw [hoperand] at hu
    cases hu
    exact hcarries s n rfl
  · intro o hpath s n hleaf
    exact Expr.infer_of_fixed_leaf hpath h hleaf
  · intro o o' hpath hpath' s s' n n' hleaf hleaf'
    obtain ⟨d, hd⟩ := Expr.infer_of_fixed_leaf hpath h hleaf
    obtain ⟨d', hd'⟩ := Expr.infer_of_fixed_leaf hpath' h hleaf'
    have hsame : LaneType.varying d (.fixed n) = .varying d' (.fixed n') := hd.symm.trans hd'
    cases hsame
    rfl
  · intro a b n isLiteral span
    exact LaneType.expect_native_of_fixed

section Mixing

open Builder

/-- Lanes at native width, and values with four and with eight lanes. -/
def mixingEnv : Env :=
  (((Env.initial .standard).define "x" ⟨.varying .float32 .native, 0⟩).define "four"
    ⟨.varying .int32 (.fixed 4), 0⟩).define "eight" ⟨.varying .int32 (.fixed 8), 0⟩

/-- Four indices, and native lanes taken from where they point to, negated and added to native lanes. -/
def gathered : Expr × Expr :=
  let build : Builder (Expr × Expr) := do
    let indices ← ident "four"
    let picked ← call "lanes.Swizzle" [← ident "x", indices]
    return (indices, ← binary .add (← unary .neg picked) (← ident "x"))
  (build.run 0).1

/-- The count of four indices is kept through a swizzle of native lanes, a negation and a sum with native
lanes. -/
theorem Expr.fixed_count_kept_gathered :
    Relation.ReflTransGen Expr.TakesLanes gathered.2 gathered.1 ∧
      gathered.1.infer mixingEnv = .ok (.varying .int32 (.fixed 4)) ∧
      ∃ t, gathered.2.infer mixingEnv = .ok t ∧ ∃ d, t = .varying d (.fixed 4) := by
  have hindices : gathered.1.infer mixingEnv = .ok (.varying .int32 (.fixed 4)) := rfl
  have hsum : gathered.2.infer mixingEnv = .ok (.varying .float32 (.fixed 4)) := rfl
  have hpath : Relation.ReflTransGen Expr.TakesLanes gathered.2 gathered.1 := by
    exact .head ⟨.head _, rfl⟩ (.head ⟨.head _, rfl⟩ (.single ⟨.tail _ (.head _), rfl⟩))
  obtain ⟨-, hleaves, -, -⟩ := Expr.fixed_count_kept hsum
  exact ⟨hpath, hindices, _, hsum, hleaves _ hpath _ _ hindices⟩

/-- Four lanes converted to a type without a lane constraint, and the sum of that and eight lanes. -/
def reopened : Expr × Expr :=
  let build : Builder (Expr × Expr) := do
    let converted ← cast (← ident "four") (← varying "int32")
    return (converted, ← binary .add converted (← ident "eight"))
  (build.run 0).1

/-- The sum of four lanes and eight. -/
def clashing : Expr :=
  let build : Builder Expr := do
    binary .add (← ident "four") (← ident "eight")
  (build.run 0).1

/-- The conversion forgets the count of its operand. So four and eight lanes are added, which is refused without
it, and the four lanes flow into a slot of native width. -/
theorem Expr.fixed_count_kept_reopened :
    (∃ o ∈ reopened.1.laneOperands, o.infer mixingEnv = .ok (.varying .int32 (.fixed 4))) ∧
      reopened.1.infer mixingEnv = .ok (.varying .int32 .native) ∧
      reopened.2.infer mixingEnv = .ok (.varying .int32 (.fixed 8)) ∧
      (clashing.infer mixingEnv).isOk = false ∧
      (LaneType.varying .int32 .native).expect (.varying .int32 .native) false reopened.1.span =
        .ok () :=
  ⟨⟨_, .head _, rfl⟩, rfl, rfl, rfl, rfl⟩

end Mixing

end Lanewise
