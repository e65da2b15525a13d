import Lanewise.Proofs.TypingRules
import Lanewise.Syntax.Builder

/-!
# Widths of operator trees

An operation on two values of one element type takes the width of one of them: a value for all lanes gives way to
lanes of any width, and native lanes give way to a fixed count (`GivesWay`). Of two concrete widths one gives way to
the other, except for two different fixed counts, which are refused.

Since giving way is an order, a whole tree of such operations has the type of a leaf that all leaves give way to
(`Expr.infer_arithmetic`), and it is refused exactly if there is no such leaf, which takes two leaves with different
fixed counts. What the tree looks like does not matter, only which types occur at its leaves: operands may be
regrouped and reordered at will.
-/

set_option autoImplicit false

namespace Lanewise

/-! ### Widths that give way to others -/

/-- Whether an operation on values of the concrete widths `u` and `w` takes the width `w`, where a value for all lanes
has no width. -/
inductive GivesWay : Option Width → Option Width → Prop
  | refl (w : Option Width) : GivesWay w w
  | uniform (w : Option Width) : GivesWay none w
  | native (n : Nat) : GivesWay (some .native) (some (.fixed n))

namespace GivesWay

/-- A width gives way to all that its successors give way to. -/
theorem trans {u v w : Option Width} (huv : GivesWay u v) (hvw : GivesWay v w) : GivesWay u w := by
  cases huv with
  | refl => exact hvw
  | uniform => exact .uniform w
  | native n =>
    cases hvw
    exact .native n

/-- Widths that give way to each other are the same. -/
theorem antisymm {u w : Option Width} (huw : GivesWay u w) (hwu : GivesWay w u) : u = w := by
  cases huw with
  | refl => rfl
  | uniform => cases hwu <;> rfl
  | native n => cases hwu

/-- A fixed count gives way to nothing else. -/
theorem eq_of_fixed {n : Nat} {w : Option Width} (h : GivesWay (some (.fixed n)) w) : w = some (.fixed n) := by
  cases h
  rfl

/-- Two concrete widths of which neither gives way to the other are different fixed counts. -/
theorem total {u w : Option Width} (hu : u ≠ some .universal) (hw : w ≠ some .universal) :
    GivesWay u w ∨ GivesWay w u ∨ ∃ m n, m ≠ n ∧ u = some (.fixed m) ∧ w = some (.fixed n) := by
  match u, w with
  | none, w => exact .inl (.uniform w)
  | u, none => exact .inr (.inl (.uniform u))
  | some .universal, _ => exact absurd rfl hu
  | _, some .universal => exact absurd rfl hw
  | some .native, some .native => exact .inl (.refl _)
  | some .native, some (.fixed n) => exact .inl (.native n)
  | some (.fixed m), some .native => exact .inr (.inl (.native m))
  | some (.fixed m), some (.fixed n) =>
    by_cases h : m = n
    · rw [h]
      exact .inl (.refl _)
    · exact .inr (.inr ⟨m, n, h, rfl, rfl⟩)

end GivesWay

/-- The type of lanes of the given width, or of a value for all lanes if there is none. -/
def LaneType.ofWidth (s : Scalar) : Option Width → LaneType
  | none => .uniform s
  | some w => .varying s w

/-- The elements of the type are as given. -/
@[simp] theorem LaneType.scalar?_ofWidth (s : Scalar) (w : Option Width) : (ofWidth s w).scalar? = some s := by
  cases w <;> rfl

/-- The width of the type is as given. -/
@[simp] theorem LaneType.width?_ofWidth (s : Scalar) (w : Option Width) : (ofWidth s w).width? = w := by
  cases w <;> rfl

/-- Different widths make different types. -/
theorem LaneType.ofWidth_injective {s : Scalar} {u w : Option Width} (h : ofWidth s u = ofWidth s w) : u = w := by
  rw [← width?_ofWidth s u, h, width?_ofWidth]

/-- A width that is not open makes a concrete type. -/
theorem LaneType.isUniversal_ofWidth {s : Scalar} {w : Option Width} (h : w ≠ some .universal) :
    (ofWidth s w).isUniversal = false := by
  match w with
  | none => rfl
  | some .native => rfl
  | some (.fixed _) => rfl
  | some .universal => exact absurd rfl h

/-- Where the left width gives way, the result has the right one. -/
theorem lanewise_of_givesWay {s : Scalar} {l r : Option Width} {span : Span} (h : GivesWay l r)
    (hr : r ≠ some .universal) : lanewise s l r span = .ok (.ofWidth s r) := by
  cases h with
  | uniform => cases r <;> rfl
  | native n => rfl
  | refl =>
    match l with
    | none => rfl
    | some .native => rfl
    | some (.fixed n) =>
      have hcombine : (Width.fixed n).combine (.fixed n) = .ok (.fixed n) := if_pos rfl
      rw [lanewise, Width.join, hcombine]
      rfl
    | some .universal => exact absurd rfl hr

/-- Where the right width gives way, the result has the left one. -/
theorem lanewise_of_givesWay_left {s : Scalar} {l r : Option Width} {span : Span} (h : GivesWay r l)
    (hl : l ≠ some .universal) : lanewise s l r span = .ok (.ofWidth s l) := by
  cases h with
  | uniform => cases l <;> rfl
  | native n => rfl
  | refl => exact lanewise_of_givesWay (.refl _) hl

/-- Two different fixed counts are refused, and the refusal names both. -/
theorem lanewise_of_counts_ne {s : Scalar} {m n : Nat} {span : Span} (h : m ≠ n) :
    lanewise s (some (.fixed m)) (some (.fixed n)) span = .error (.type (.laneCountsDiffer m n) span) := by
  have hcombine : (Width.fixed m).combine (.fixed n) = .error (.mismatch m n) := if_neg h
  rw [lanewise, Width.join, hcombine]
  rfl

/-! ### Arithmetic on one element type -/

/-- Whether the operator is one of arithmetic. -/
def BinaryOp.isArithmetic : BinaryOp → Bool
  | add | sub | mul | div | mod => true
  | _ => false

/-- Arithmetic is there for the numeric types. -/
theorem BinaryOp.supports_of_isArithmetic {op : BinaryOp} (h : op.isArithmetic = true) (s : Scalar) :
    op.supports s = s.isNumeric := by
  cases op <;> first | rfl | cases h

/-- Arithmetic keeps the element type. -/
theorem BinaryOp.resultScalar_of_isArithmetic {op : BinaryOp} (h : op.isArithmetic = true) (s : Scalar) :
    op.resultScalar s = s := by
  cases op <;> first | rfl | cases h

/-- Arithmetic on concrete operands of one numeric type is refused for their widths only. -/
theorem binaryType_arithmetic {op : BinaryOp} {s : Scalar} (hop : op.isArithmetic = true)
    (hs : s.isNumeric = true) {l r : Option Width} (hl : l ≠ some .universal) (hr : r ≠ some .universal)
    (left right : Expr) (span : Span) :
    binaryType op left right (.ofWidth s l) (.ofWidth s r) span = lanewise s l r span := by
  have hleft : (LaneType.ofWidth s l).expectConcrete left.span = .ok () :=
    LaneType.expectConcrete_eq_ok.2 (LaneType.isUniversal_ofWidth hl)
  have hright : (LaneType.ofWidth s r).expectConcrete right.span = .ok () :=
    LaneType.expectConcrete_eq_ok.2 (LaneType.isUniversal_ofWidth hr)
  have hsupports : Issue.require (op.supports s) (.binaryUnsupported op s) span = .ok () := by
    rw [Issue.require_eq_ok, BinaryOp.supports_of_isArithmetic hop, hs]
  rw [binaryType, hleft, hright, LaneType.scalar?_ofWidth, LaneType.scalar?_ofWidth, LaneType.width?_ofWidth,
    LaneType.width?_ofWidth]
  simp only [commonScalar?, if_true, hsupports, BinaryOp.resultScalar_of_isArithmetic hop]
  rfl

/-! ### Trees -/

/-- Whether an expression is built from identifiers with the operators of arithmetic. -/
inductive Expr.IsArithmetic : Expr → Prop
  | ident (span : Span) (name : String) : IsArithmetic (.ident span name)
  | binary (span : Span) {op : BinaryOp} {left right : Expr} (hop : op.isArithmetic = true)
      (hleft : IsArithmetic left) (hright : IsArithmetic right) : IsArithmetic (.binary span op left right)

/-- The identifiers at the leaves of a tree of binary operators, from left to right. -/
def Expr.leafNames : Expr → List String
  | .ident _ name => [name]
  | .binary _ _ left right => left.leafNames ++ right.leafNames
  | _ => []

/-- Whether an identifier has the type `t`, wherever it stands. -/
def Env.Gives (env : Env) (name : String) (t : LaneType) : Prop :=
  ∀ span, identType env name span = .ok t

/-- An identifier has one type. -/
theorem Env.Gives.unique {env : Env} {name : String} {t u : LaneType} (ht : env.Gives name t)
    (hu : env.Gives name u) : t = u := by
  have h := (ht default).symm.trans (hu default)
  exact Except.ok.inj h

/-- Whether some leaf of a tree has the type `t`. -/
def Expr.HasLeaf (env : Env) (e : Expr) (t : LaneType) : Prop :=
  ∃ name ∈ e.leafNames, env.Gives name t

/-- The leaves of an operation are those of its operands. -/
theorem Expr.hasLeaf_binary {env : Env} {span : Span} {op : BinaryOp} {left right : Expr} {t : LaneType} :
    (Expr.binary span op left right).HasLeaf env t ↔ left.HasLeaf env t ∨ right.HasLeaf env t := by
  simp only [HasLeaf, leafNames, List.mem_append, or_and_right, exists_or]

/-- Arithmetic on identifiers with elements of type `s`, each of which has one value for all lanes, native lanes or
a fixed count of them. -/
structure Expr.IsArithmeticOn (env : Env) (s : Scalar) (e : Expr) : Prop where
  arithmetic : e.IsArithmetic
  leaf : ∀ name ∈ e.leafNames,
    env.Gives name (.uniform s) ∨ env.Gives name (.varying s .native) ∨ ∃ n, env.Gives name (.varying s (.fixed n))

/-- Whether all leaves of a tree over elements of type `s` give way to a leaf of width `w`. -/
def Expr.Leads (env : Env) (s : Scalar) (e : Expr) (w : Option Width) : Prop :=
  e.HasLeaf env (.ofWidth s w) ∧ ∀ u, e.HasLeaf env (.ofWidth s u) → GivesWay u w

namespace Expr

variable {env : Env} {s : Scalar} {e : Expr}

/-- Every leaf has a type with some concrete width, or none. -/
theorem IsArithmeticOn.exists_width (he : e.IsArithmeticOn env s) {name : String} (hname : name ∈ e.leafNames) :
    ∃ w, w ≠ some .universal ∧ env.Gives name (.ofWidth s w) := by
  rcases he.leaf name hname with hgives | hgives | ⟨n, hgives⟩
  · exact ⟨none, by simp, hgives⟩
  · exact ⟨some .native, by simp, hgives⟩
  · exact ⟨some (.fixed n), by simp, hgives⟩

/-- No leaf leaves its lane count open. -/
theorem IsArithmeticOn.concrete (he : e.IsArithmeticOn env s) {w : Option Width}
    (hw : e.HasLeaf env (.ofWidth s w)) : w ≠ some .universal := by
  obtain ⟨name, hname, hgives⟩ := hw
  obtain ⟨v, hv, hgives'⟩ := he.exists_width hname
  rwa [LaneType.ofWidth_injective (hgives.unique hgives')]

/-- The operands of arithmetic are arithmetic on the same elements. -/
theorem IsArithmeticOn.operands {span : Span} {op : BinaryOp} {left right : Expr}
    (he : (Expr.binary span op left right).IsArithmeticOn env s) :
    op.isArithmetic = true ∧ left.IsArithmeticOn env s ∧ right.IsArithmeticOn env s := by
  obtain ⟨harithmetic, hleaf⟩ := he
  cases harithmetic with
  | binary _ hop hleft hright =>
    exact ⟨hop, ⟨hleft, fun name hname => hleaf name (List.mem_append_left _ hname)⟩,
      ⟨hright, fun name hname => hleaf name (List.mem_append_right _ hname)⟩⟩

/-- An identifier leads by itself. -/
theorem leads_ident {span : Span} {name : String} {w : Option Width} (h : env.Gives name (.ofWidth s w)) :
    (Expr.ident span name).Leads env s w := by
  refine ⟨⟨name, List.mem_singleton_self name, h⟩, ?_⟩
  rintro u ⟨other, hother, hgives⟩
  rw [List.mem_singleton.1 hother] at hgives
  rw [LaneType.ofWidth_injective (hgives.unique h)]
  exact .refl w

/-- An operation leads with a width that both operands give way to and one of them has. -/
theorem Leads.binary {span : Span} {op : BinaryOp} {left right : Expr} {l r w : Option Width}
    (hleft : left.Leads env s l) (hright : right.Leads env s r) (hl : GivesWay l w) (hr : GivesWay r w)
    (hw : w = l ∨ w = r) : (Expr.binary span op left right).Leads env s w := by
  constructor
  · rw [hasLeaf_binary]
    rcases hw with rfl | rfl
    · exact .inl hleft.1
    · exact .inr hright.1
  · intro u hu
    rcases hasLeaf_binary.1 hu with hu | hu
    · exact (hleft.2 u hu).trans hl
    · exact (hright.2 u hu).trans hr

/-- A tree leads with one width at most. -/
theorem Leads.unique {v w : Option Width} (hv : e.Leads env s v) (hw : e.Leads env s w) : v = w :=
  (hw.2 v hv.1).antisymm (hv.2 w hw.1)

/-- A leaf with a fixed count gives way to no leaf of another width. -/
theorem Leads.eq_fixed {w : Option Width} (hw : e.Leads env s w) {n : Nat}
    (hn : e.HasLeaf env (.varying s (.fixed n))) : w = some (.fixed n) :=
  (hw.2 (some (.fixed n)) hn).eq_of_fixed

/-- In a tree that leads, all fixed counts at the leaves are the same. -/
theorem Leads.counts_eq {w : Option Width} (hw : e.Leads env s w) {m n : Nat}
    (hm : e.HasLeaf env (.varying s (.fixed m))) (hn : e.HasLeaf env (.varying s (.fixed n))) : m = n := by
  cases (hw.eq_fixed hm).symm.trans (hw.eq_fixed hn)
  rfl

/-- A tree that leads, with lanes at a leaf but no fixed count at any, leads with native width. -/
theorem Leads.eq_native (he : e.IsArithmeticOn env s) {w : Option Width} (hw : e.Leads env s w)
    (hfixed : ∀ n, ¬ e.HasLeaf env (.varying s (.fixed n))) {v : Width} (hv : e.HasLeaf env (.varying s v)) :
    w = some .native := by
  have hlead := hw.2 (some v) hv
  match w with
  | none => cases hlead
  | some .native => rfl
  | some (.fixed n) => exact absurd hw.1 (hfixed n)
  | some .universal => exact absurd rfl (he.concrete hw.1)

/-- Arithmetic on two trees takes a width that all leaves of both give way to, or it is refused for a count that
occurs in one tree and a different one that occurs in the other. -/
theorem binaryType_of_leads (hs : s.isNumeric = true) {span : Span} {op : BinaryOp} {left right : Expr}
    (he : (Expr.binary span op left right).IsArithmeticOn env s) {l r : Option Width} (hl : left.Leads env s l)
    (hr : right.Leads env s r) :
    (∃ w, (Expr.binary span op left right).Leads env s w ∧
      binaryType op left right (.ofWidth s l) (.ofWidth s r) span = .ok (.ofWidth s w)) ∨
    ∃ m n, m ≠ n ∧ left.HasLeaf env (.varying s (.fixed m)) ∧ right.HasLeaf env (.varying s (.fixed n)) ∧
      binaryType op left right (.ofWidth s l) (.ofWidth s r) span =
        .error (.type (.laneCountsDiffer m n) span) := by
  obtain ⟨hop, hleft, hright⟩ := he.operands
  have hlc := hleft.concrete hl.1
  have hrc := hright.concrete hr.1
  rw [binaryType_arithmetic hop hs hlc hrc left right span]
  rcases GivesWay.total hlc hrc with hlr | hrl | ⟨m, n, hne, rfl, rfl⟩
  · exact .inl ⟨r, hl.binary hr hlr (.refl r) (.inr rfl), lanewise_of_givesWay hlr hrc⟩
  · exact .inl ⟨l, hl.binary hr (.refl l) hrl (.inl rfl), lanewise_of_givesWay_left hrl hlc⟩
  · exact .inr ⟨m, n, hne, hl.1, hr.1, lanewise_of_counts_ne hne⟩

/-- A tree of arithmetic has the type of a leaf to which all leaves give way, or it is refused for two different
counts that occur at its leaves. -/
theorem infer_arithmetic (hs : s.isNumeric = true) (he : e.IsArithmeticOn env s) :
    (∃ w, e.Leads env s w ∧ e.infer env = .ok (.ofWidth s w)) ∨
      ∃ m n span, m ≠ n ∧ e.HasLeaf env (.varying s (.fixed m)) ∧ e.HasLeaf env (.varying s (.fixed n)) ∧
        e.infer env = .error (.type (.laneCountsDiffer m n) span) := by
  have harithmetic := he.arithmetic
  induction harithmetic with
  | ident span name =>
    obtain ⟨w, -, hgives⟩ := he.exists_width (List.mem_singleton_self name)
    exact .inl ⟨w, leads_ident hgives, hgives span⟩
  | @binary span op left right _ _ _ ihleft ihright =>
    obtain ⟨-, hleft, hright⟩ := he.operands
    simp only [hasLeaf_binary]
    rw [Expr.infer]
    -- the operands are inferred in turn, and a refused one ends the matter
    rcases ihleft hleft with ⟨l, hl, hinferl⟩ | ⟨m, n, place, hne, hm, hn, hinfer⟩
    · rcases ihright hright with ⟨r, hr, hinferr⟩ | ⟨m, n, place, hne, hm, hn, hinfer⟩
      · rw [hinferl, hinferr]
        rcases binaryType_of_leads hs he hl hr with hleads | ⟨m, n, hne, hm, hn, htype⟩
        · exact .inl hleads
        · exact .inr ⟨m, n, span, hne, .inl hm, .inr hn, htype⟩
      · rw [hinferl, hinfer]
        exact .inr ⟨m, n, place, hne, .inr hm, .inr hn, rfl⟩
    · rw [hinfer]
      exact .inr ⟨m, n, place, hne, .inl hm, .inl hn, rfl⟩

/-- A tree of arithmetic has a type exactly if it leads with some width, and then it has that width. -/
theorem infer_eq_ok_iff_leads (hs : s.isNumeric = true) (he : e.IsArithmeticOn env s) {t : LaneType} :
    e.infer env = .ok t ↔ ∃ w, t = .ofWidth s w ∧ e.Leads env s w := by
  rcases infer_arithmetic hs he with ⟨w, hw, hinfer⟩ | ⟨m, n, span, hne, hm, hn, hinfer⟩
  · rw [hinfer]
    constructor
    · intro h
      exact ⟨w, (Except.ok.inj h).symm, hw⟩
    · rintro ⟨v, rfl, hv⟩
      rw [hv.unique hw]
  · rw [hinfer]
    constructor
    · intro h
      cases h
    · rintro ⟨w, -, hw⟩
      exact absurd (hw.counts_eq hm hn) hne

/-- Trees with leaves of the same types have the same type. -/
theorem infer_eq_of_leaves (hs : s.isNumeric = true) (he : e.IsArithmeticOn env s) {env' : Env} {e' : Expr}
    (he' : e'.IsArithmeticOn env' s) (h : ∀ t, e'.HasLeaf env' t ↔ e.HasLeaf env t) (t : LaneType) :
    e'.infer env' = .ok t ↔ e.infer env = .ok t := by
  rw [infer_eq_ok_iff_leads hs he', infer_eq_ok_iff_leads hs he]
  simp only [Leads, h]

/-- Arithmetic on identifiers with elements of one numeric type is accepted exactly if all fixed counts that occur
among them are the same, and it is refused for the lane count otherwise. Its type has the fixed count if there is one,
or else native lanes if there are lanes at all, or else one value for all lanes. So any other tree with leaves of these
types is accepted or refused alike, with the same type, in particular any tree that arranges and groups the same
operands in another way. -/
theorem tree_type_of_leaf_types (hs : s.isNumeric = true) (he : e.IsArithmeticOn env s) :
    ((∃ t, e.infer env = .ok t) ↔
      ∀ m n, e.HasLeaf env (.varying s (.fixed m)) → e.HasLeaf env (.varying s (.fixed n)) → m = n) ∧
    (∀ issue, e.infer env = .error issue → issue.fault.kind = .type .mismatchedConstraint) ∧
    (∀ t, e.infer env = .ok t →
      (∀ n, e.HasLeaf env (.varying s (.fixed n)) → t = .varying s (.fixed n)) ∧
      ((∀ n, ¬ e.HasLeaf env (.varying s (.fixed n))) → (∃ w, e.HasLeaf env (.varying s w)) →
        t = .varying s .native) ∧
      ((∀ w, ¬ e.HasLeaf env (.varying s w)) → t = .uniform s)) ∧
    (∀ env' e', IsArithmeticOn env' s e' → (∀ t, e'.HasLeaf env' t ↔ e.HasLeaf env t) →
      ∀ t, e'.infer env' = .ok t ↔ e.infer env = .ok t) ∧
    ∀ e', IsArithmetic e' → e'.leafNames.Perm e.leafNames → ∀ t, e'.infer env = .ok t ↔ e.infer env = .ok t := by
  refine ⟨⟨?_, ?_⟩, ?_, ?_, fun env' e' he' h => infer_eq_of_leaves hs he he' h, ?_⟩
  · rintro ⟨t, ht⟩ m n hm hn
    obtain ⟨w, -, hw⟩ := (infer_eq_ok_iff_leads hs he).1 ht
    exact hw.counts_eq hm hn
  · intro h
    rcases infer_arithmetic hs he with ⟨w, -, hinfer⟩ | ⟨m, n, span, hne, hm, hn, -⟩
    · exact ⟨_, hinfer⟩
    · exact absurd (h m n hm hn) hne
  · intro issue hissue
    rcases infer_arithmetic hs he with ⟨w, -, hinfer⟩ | ⟨m, n, span, -, -, -, hinfer⟩
    · cases hinfer.symm.trans hissue
    · cases hinfer.symm.trans hissue
      rfl
  · intro t ht
    obtain ⟨w, rfl, hw⟩ := (infer_eq_ok_iff_leads hs he).1 ht
    refine ⟨?_, ?_, ?_⟩
    · intro n hn
      rw [hw.eq_fixed hn]
      rfl
    · rintro hfixed ⟨v, hv⟩
      rw [hw.eq_native he hfixed hv]
      rfl
    · intro hvarying
      cases w with
      | none => rfl
      | some v => exact absurd hw.1 (hvarying v)
  · intro e' he' hperm
    have hmem : ∀ name, name ∈ e'.leafNames ↔ name ∈ e.leafNames := fun name => hperm.mem_iff
    apply infer_eq_of_leaves hs he
    · exact ⟨he', fun name hname => he.leaf name ((hmem name).1 hname)⟩
    · intro t
      simp only [HasLeaf, hmem]

end Expr

section Regrouping

open Builder

/-- A number for all lanes, native lanes, and values with four and with eight lanes. -/
def treeEnv : Env :=
  ((((Env.initial .standard).define "k" ⟨.uniform .int32, 0⟩).define "x" ⟨.varying .int32 .native, 0⟩).define "four"
    ⟨.varying .int32 (.fixed 4), 0⟩).define "eight" ⟨.varying .int32 (.fixed 8), 0⟩

/-- The trees `(k * x - four) % x` and `x / (four + (x - k))`. -/
def regrouped : Expr × Expr :=
  let build : Builder (Expr × Expr) := do
    let scaled ← binary .mul (← ident "k") (← ident "x")
    let first ← binary .mod (← binary .sub scaled (← ident "four")) (← ident "x")
    let shifted ← binary .sub (← ident "x") (← ident "k")
    return (first, ← binary .div (← ident "x") (← binary .add (← ident "four") shifted))
  (build.run 0).1

/-- The tree `(k + four) * (x - eight)`. -/
def uneven : Expr :=
  let build : Builder Expr := do
    let left ← binary .add (← ident "k") (← ident "four")
    binary .mul left (← binary .sub (← ident "x") (← ident "eight"))
  (build.run 0).1

/-- The four lanes set the type of either tree. They do not go together with eight, which are an operand of another
node. -/
theorem Expr.tree_type_of_leaf_types_regrouped :
    regrouped.1.IsArithmeticOn treeEnv .int32 ∧ regrouped.2.leafNames.Perm regrouped.1.leafNames ∧
      regrouped.1.infer treeEnv = .ok (.varying .int32 (.fixed 4)) ∧
      regrouped.2.infer treeEnv = .ok (.varying .int32 (.fixed 4)) ∧
      uneven.IsArithmeticOn treeEnv .int32 ∧ ¬ ∃ t, uneven.infer treeEnv = .ok t := by
  have hleaf : ∀ name ∈ ["k", "x", "four", "eight"], treeEnv.Gives name (.uniform .int32) ∨
      treeEnv.Gives name (.varying .int32 .native) ∨ ∃ n, treeEnv.Gives name (.varying .int32 (.fixed n)) := by
    rw [List.forall_mem_cons, List.forall_mem_cons, List.forall_mem_cons, List.forall_mem_singleton]
    refine ⟨.inl ?_, .inr (.inl ?_), .inr (.inr ⟨4, ?_⟩), .inr (.inr ⟨8, ?_⟩)⟩
    all_goals exact fun _ => rfl
  have hfirst : regrouped.1.IsArithmeticOn treeEnv .int32 := by
    constructor
    · exact .binary _ rfl (.binary _ rfl (.binary _ rfl (.ident ..) (.ident ..)) (.ident ..)) (.ident ..)
    · have hsub : regrouped.1.leafNames ⊆ ["k", "x", "four", "eight"] := by decide
      exact fun name hname => hleaf name (hsub hname)
  have hsecond : regrouped.2.IsArithmetic :=
    .binary _ rfl (.ident ..) (.binary _ rfl (.ident ..) (.binary _ rfl (.ident ..) (.ident ..)))
  have huneven : uneven.IsArithmeticOn treeEnv .int32 := by
    constructor
    · exact .binary _ rfl (.binary _ rfl (.ident ..) (.ident ..)) (.binary _ rfl (.ident ..) (.ident ..))
    · have hsub : uneven.leafNames ⊆ ["k", "x", "four", "eight"] := by decide
      exact fun name hname => hleaf name (hsub hname)
  have hperm : regrouped.2.leafNames.Perm regrouped.1.leafNames := by decide
  have hinfer : regrouped.1.infer treeEnv = .ok (.varying .int32 (.fixed 4)) := rfl
  obtain ⟨-, -, -, -, hregroup⟩ := Expr.tree_type_of_leaf_types rfl hfirst
  obtain ⟨haccepted, -⟩ := Expr.tree_type_of_leaf_types rfl huneven
  refine ⟨hfirst, hperm, hinfer, (hregroup _ hsecond hperm _).2 hinfer, huneven, ?_⟩
  intro htyped
  have hsame := haccepted.1 htyped 4 8 ⟨"four", by decide, fun _ => rfl⟩ ⟨"eight", by decide, fun _ => rfl⟩
  cases hsame

end Regrouping

end Lanewise
