import Lanewise.Proofs.Occurrences
import Lanewise.Proofs.Scopes
import Lanewise.Proofs.TypeResolution
import Lanewise.Proofs.TypingRules

/-!
# Well-formed types

A lane type is well formed if its fixed lane counts are positive and stay within the register limit. Types that
are written are checked for that, and every rule of `Expr.infer` that takes its elements and its width from one
operand, or from a type that is written, keeps it.

A swizzle or a shift takes its elements from its first argument and its width from both. If the first argument
has the native width and the second one a fixed count, then nothing compares the two: `Expr.regrouped?` finds
these calls, and `Expr.wellFormed_parts_iff` says that they are the only way out of the limit.
-/

set_option autoImplicit false

namespace Lanewise

/-! ### Types and environments -/

/-- Whether every fixed lane count in a type, also inside of channels, is positive and stays within the register
limit. -/
def LaneType.WellFormed : LaneType → Prop
  | .varying elem (.fixed n) => 1 ≤ n ∧ n * elem.bits ≤ registerLimit
  | .chan elem => elem.WellFormed
  | _ => True

instance LaneType.decidableWellFormed : (t : LaneType) → Decidable t.WellFormed
  | .varying _ (.fixed _) => inferInstanceAs (Decidable (_ ∧ _))
  | .chan elem => LaneType.decidableWellFormed elem
  | .varying _ .native | .varying _ .universal | .void | .uniform _ | .seq _ | .groups _ => .isTrue trivial

/-- A channel is well formed exactly if its elements are. -/
theorem LaneType.wellFormed_chan {elem : LaneType} : (LaneType.chan elem).WellFormed ↔ elem.WellFormed :=
  Iff.rfl

/-- Whether all types that an environment knows are well formed. -/
structure Env.WellFormed (env : Env) : Prop where
  bindings : ∀ scope ∈ env.scopes, ∀ name binding, scope.find? name = some binding →
    binding.type.WellFormed
  params : ∀ name s, env.functions.find? name = some s → ∀ t ∈ s.params, t.WellFormed
  results : ∀ name s, env.functions.find? name = some s → s.result.WellFormed

namespace Env.WellFormed

variable {env : Env}

/-- The variables of a well-formed environment have well-formed types. -/
theorem lookup {name : String} {binding : Binding} (henv : env.WellFormed)
    (h : env.lookup? name = some binding) : binding.type.WellFormed := by
  obtain ⟨scope, hscope, hfind⟩ := List.exists_of_findSome?_eq_some h
  exact henv.bindings scope hscope name binding hfind

/-- A well-formed environment stays so when a scope is opened. -/
theorem push (henv : env.WellFormed) : env.push.WellFormed := by
  refine ⟨?_, henv.params, henv.results⟩
  intro scope hscope name binding h
  rcases List.mem_cons.1 hscope with rfl | hscope
  · cases h
  · exact henv.bindings scope hscope name binding h

/-- A well-formed environment stays so when a scope is closed. -/
theorem pop (henv : env.WellFormed) : env.pop.WellFormed := by
  refine ⟨?_, henv.params, henv.results⟩
  intro scope hscope
  exact henv.bindings scope (List.mem_of_mem_tail hscope)

/-- A well-formed environment stays so when a name is defined with a well-formed type. -/
theorem define {t : LaneType} (henv : env.WellFormed) (ht : t.WellFormed) (name : String) (depth : Nat) :
    (env.define name { type := t, depth }).WellFormed := by
  unfold Env.define
  split
  · exact henv
  · rename_i scope outer hscopes
    refine ⟨?_, henv.params, henv.results⟩
    intro changed hchanged other binding h
    rcases List.mem_cons.1 hchanged with rfl | houter
    · rw [Assoc.find?_insert] at h
      split at h
      · cases h
        exact ht
      · exact henv.bindings scope (by rw [hscopes]; exact List.mem_cons_self) other binding h
    · exact henv.bindings changed (by rw [hscopes]; exact List.mem_cons_of_mem _ houter) other binding h

/-- A well-formed environment stays so when a scope is opened with a variable of a well-formed type. -/
theorem pushWith {t : LaneType} (henv : env.WellFormed) (ht : t.WellFormed) (name : Name) (depth : Nat) :
    (env.pushWith name t depth).WellFormed :=
  henv.push.define ht name.text depth

end Env.WellFormed

/-! ### Types that are written -/

/-- A count that the register limit allows is well formed. -/
theorem Scalar.Allows.wellFormed {elem : Scalar} {n : Int} (h : elem.Allows n) :
    (LaneType.varying elem (.fixed n.toNat)).WellFormed := by
  obtain ⟨hpos, hlimit⟩ := h
  have hholds : Width.holds n.toNat elem = true := (Width.holds_toNat elem (by omega)).2 hlimit
  exact ⟨by omega, of_decide_eq_true hholds⟩

/-- The width that a number gives to lanes is well formed. -/
theorem widthOf_wellFormed {n : Int64} {elem : Scalar} {span : Span} {w : Width}
    (h : widthOf n elem span = .ok w) : (LaneType.varying elem w).WellFormed := by
  rcases widthOf_eq_ok.1 h with ⟨-, rfl⟩ | ⟨hallowed, rfl⟩
  · trivial
  · exact hallowed.wellFormed

/-- The width of a lane constraint is well formed. -/
theorem Constraint.width_wellFormed {env : Env} {c : Constraint} {elem : Scalar} {w : Width}
    (h : c.width env elem = .ok w) : (LaneType.varying elem w).WellFormed := by
  obtain ⟨n, -, hn⟩ := Except.bind_eq_ok.1 h
  exact widthOf_wellFormed hn

/-- The concrete width of a lane constraint is well formed. -/
theorem concreteWidth_wellFormed {env : Env} {lanes : Constraint} {elem : Scalar} {ifOpen : TypeFault}
    {w : Width} (h : concreteWidth lanes elem ifOpen env = .ok w) :
    (LaneType.varying elem w).WellFormed := by
  obtain ⟨found, hfound, h⟩ := Except.bind_eq_ok.1 h
  cases found <;> cases h <;> exact Constraint.width_wellFormed hfound

/-- The width of a go-for is well formed. -/
theorem goForWidth_wellFormed {env : Env} {lanes : Option Constraint} {elem : Scalar} {w : Width}
    (h : goForWidth lanes elem env = .ok w) : (LaneType.varying elem w).WellFormed := by
  cases lanes with
  | none =>
    cases h
    trivial
  | some c => exact concreteWidth_wellFormed h

/-- What a written type means is well formed. -/
theorem TypeExpr.wellFormed_of_resolve {env : Env} {t : TypeExpr} {l : LaneType}
    (h : t.resolve env = .ok l) : l.WellFormed := by
  rw [TypeExpr.resolve_eq_ok] at h
  induction h with
  | void | uniform | native | universal => trivial
  | fixed hname hcount hallowed => exact hallowed.wellFormed
  | chan helem ih => exact LaneType.wellFormed_chan.2 ih

/-! ### Operators -/

/-- Lanes stay well formed if their elements get no wider. -/
theorem LaneType.wellFormed_of_bits_le {s d : Scalar} {w : Width} (hbits : d.bits ≤ s.bits)
    (h : (LaneType.varying s w).WellFormed) : (LaneType.varying d w).WellFormed := by
  cases w with
  | fixed n => exact ⟨h.1, Nat.le_trans (Nat.mul_le_mul_left n hbits) h.2⟩
  | native | universal => trivial

/-- The result of an operator is no wider than its operands. -/
theorem BinaryOp.bits_resultScalar_le (op : BinaryOp) (s : Scalar) :
    (op.resultScalar s).bits ≤ s.bits := by
  unfold BinaryOp.resultScalar
  split
  · cases s <;> decide
  · exact Nat.le_refl _

/-- An operand keeps its elements, unless it is an integer literal. -/
theorem commonScalar?_eq_some {left right : Expr} {l r s : Scalar}
    (h : commonScalar? left right l r = some s) :
    (left.isIntLiteral = true ∨ s = l) ∧ (right.isIntLiteral = true ∨ s = r) := by
  unfold commonScalar? at h
  split at h
  · rename_i hsame
    cases h
    exact ⟨Or.inr rfl, Or.inr hsame⟩
  · split at h
    · rename_i hleft
      cases h
      exact ⟨Or.inl (Bool.and_eq_true_iff.1 hleft).1, Or.inr rfl⟩
    · split at h
      · rename_i hright
        cases h
        exact ⟨Or.inr rfl, Or.inl (Bool.and_eq_true_iff.1 hright).1⟩
      · cases h

/-- The width of an operand is well formed for the elements that both operands have in common: it has those
elements itself, or it is a literal and has no lanes. -/
theorem Expr.wellFormed_common {env : Env} {e : Expr} {t : LaneType} {l s : Scalar} {w : Width}
    (he : e.infer env = .ok t) (ht : t.WellFormed) (hscalar : t.scalar? = some l)
    (hwidth : t.width? = some w) (hs : e.isIntLiteral = true ∨ s = l) :
    (LaneType.varying s w).WellFormed := by
  cases t with
  | varying a aw =>
    cases hscalar
    cases hwidth
    rcases hs with hliteral | rfl
    · rw [Expr.infer_of_isIntLiteral env hliteral] at he
      cases he
    · exact ht
  | void | uniform | seq | groups | chan => cases hwidth

/-- Lanes come from one of the operands. -/
theorem lanewise_ok {s : Scalar} {l r : Option Width} {span : Span} {t : LaneType}
    (h : lanewise s l r span = .ok t) :
    t = .uniform s ∨ ∃ w, (l = some w ∨ r = some w) ∧ t = .varying s w := by
  unfold lanewise at h
  split at h
  · cases h
    exact Or.inl rfl
  · cases h
    exact Or.inr ⟨_, Or.inl rfl, rfl⟩
  · cases h
    exact Or.inr ⟨_, Or.inr rfl, rfl⟩
  · obtain ⟨w, hw, h⟩ := Except.bind_eq_ok.1 h
    cases h
    obtain ⟨-, -, ⟨-, rfl⟩ | ⟨-, rfl⟩⟩ := Width.join_eq_ok.1 hw
    · exact Or.inr ⟨_, Or.inr rfl, rfl⟩
    · exact Or.inr ⟨_, Or.inl rfl, rfl⟩

/-- An operator on well-formed operands has a well-formed type. -/
theorem binaryType_wellFormed {env : Env} {op : BinaryOp} {left right : Expr} {lt rt t : LaneType}
    {span : Span} (hl : left.infer env = .ok lt) (hr : right.infer env = .ok rt) (hlt : lt.WellFormed)
    (hrt : rt.WellFormed) (h : binaryType op left right lt rt span = .ok t) : t.WellFormed := by
  obtain ⟨-, -, l, r, s, hls, hrs, hcommon, -, hlanes⟩ := binaryType_ok h
  obtain ⟨hsleft, hsright⟩ := commonScalar?_eq_some hcommon
  rcases lanewise_ok hlanes with rfl | ⟨w, hw, rfl⟩
  · trivial
  · apply LaneType.wellFormed_of_bits_le (op.bits_resultScalar_le s)
    rcases hw with hw | hw
    · exact Expr.wellFormed_common hl hlt hls hw hsleft
    · exact Expr.wellFormed_common hr hrt hrs hw hsright

/-! ### Calls that regroup native lanes -/

/-- The elements and the lane count of a call that puts native lanes into groups of a fixed count: a swizzle or
shift of native lanes by indices or amounts of a fixed count. -/
def Expr.regrouped? (env : Env) : Expr → Option (Scalar × Nat)
  | .call _ callee [value, other] =>
    match LibraryOp.ofName? callee.text, value.infer env, other.infer env with
    | some op, .ok (.varying s .native), .ok (.varying a (.fixed n)) =>
      if op.joinsWidths && a.isInteger then some (s, n) else none
    | _, _, _ => none
  | _ => none

/-- Whether an expression stays within the register limit if it regroups native lanes. -/
def Expr.fits (env : Env) (e : Expr) : Bool :=
  (e.regrouped? env).all fun found => Width.holds found.2 found.1

/-- A call regroups native lanes exactly if it is a swizzle or shift of them by integers of a fixed count. -/
theorem Expr.regrouped?_eq_some {env : Env} {e : Expr} {s : Scalar} {n : Nat} :
    e.regrouped? env = some (s, n) ↔
      ∃ span callee value other op a, e = .call span callee [value, other] ∧
        LibraryOp.ofName? callee.text = some op ∧ op.joinsWidths = true ∧
        value.infer env = .ok (.varying s .native) ∧ other.infer env = .ok (.varying a (.fixed n)) ∧
        a.isInteger = true := by
  constructor
  · intro h
    unfold Expr.regrouped? at h
    split at h
    · rename_i span callee value other
      split at h
      · rename_i op s' a n' hop hvalue hother
        split at h
        · rename_i hjoins
          rw [Bool.and_eq_true] at hjoins
          cases h
          exact ⟨span, callee, value, other, op, a, rfl, hop, hjoins.1, hvalue, hother, hjoins.2⟩
        · cases h
      · cases h
    · cases h
  · rintro ⟨span, callee, value, other, op, a, rfl, hop, hjoins, hvalue, hother, hint⟩
    simp [Expr.regrouped?, hop, hvalue, hother, hjoins, hint]

/-- A call that regroups native lanes is accepted, whatever the count. -/
theorem Expr.infer_of_regrouped? {env : Env} {e : Expr} {s : Scalar} {n : Nat}
    (h : e.regrouped? env = some (s, n)) : e.infer env = .ok (.varying s (.fixed n)) := by
  obtain ⟨span, callee, value, other, op, a, rfl, hop, hjoins, hvalue, hother, hint⟩ :=
    Expr.regrouped?_eq_some.1 h
  have hjoin : Width.join .native (.fixed n) span = .ok (.fixed n) := rfl
  have hoperand : varyingOperand op ⟨value, value.infer env⟩ = .ok (s, .native) :=
    varyingOperand_eq_ok.2 ⟨hvalue, nofun⟩
  rw [Expr.infer, Expr.inferEach_eq_map, callType, hop]
  cases op with
  | swizzle =>
    refine Except.bind_eq_ok.2 ⟨_, hoperand, ?_⟩
    exact swizzleType_eq_ok.2 ⟨a, .fixed n, .fixed n, hother, hint, hjoin, rfl⟩
  | shiftLeft | shiftRight =>
    refine Except.bind_eq_ok.2 ⟨_, hoperand, ?_⟩
    exact shiftType_eq_ok.2 (Or.inr ⟨a, .fixed n, .fixed n, hother, hint, hjoin, rfl⟩)
  | _ => cases hjoins

/-- An expression with a well-formed type stays within the limit if it regroups native lanes. -/
theorem Expr.fits_of_wellFormed {env : Env} {e : Expr}
    (h : ∀ t, e.infer env = .ok t → t.WellFormed) : e.fits env = true := by
  rw [Expr.fits, Option.all_eq_true]
  rintro ⟨s, n⟩ hfound
  have hwell := h _ (Expr.infer_of_regrouped? hfound)
  exact decide_eq_true hwell.2

/-- The width of a library call with two arguments is well formed for the elements of the first, if it stays
within the limit where native lanes are regrouped. -/
theorem LibraryOp.wellFormed_of_settles {env : Env} {op : LibraryOp} {value other : Expr} {callee : Name}
    {span : Span} {s : Scalar} {w result : Width} (hop : LibraryOp.ofName? callee.text = some op)
    (hfits : (Expr.call span callee [value, other]).fits env = true)
    (hvalue : value.infer env = .ok (.varying s w)) (hwell : (LaneType.varying s w).WellFormed)
    (hother : ∀ t, other.infer env = .ok t → t.WellFormed)
    (h : op.Settles w ⟨other, other.infer env⟩ span result) : (LaneType.varying s result).WellFormed := by
  rcases h with ⟨-, rfl⟩ | ⟨a, -, rfl⟩ | ⟨a, aw, hjoins, hamount, hint, hjoin⟩
  · exact hwell
  · exact hwell
  · obtain ⟨-, -, ⟨rfl, rfl⟩ | ⟨-, rfl⟩⟩ := Width.join_eq_ok.1 hjoin
    · cases result with
      | native | universal => trivial
      | fixed n =>
        have hfound : (Expr.call span callee [value, other]).regrouped? env = some (s, n) :=
          Expr.regrouped?_eq_some.2 ⟨span, callee, value, other, op, a, rfl, hop, hjoins, hvalue,
            hamount, hint⟩
        rw [Expr.fits, hfound] at hfits
        have hcount : 1 ≤ n := (hother _ hamount).1
        exact ⟨hcount, of_decide_eq_true hfits⟩
    · exact hwell

/-! ### Expressions -/

section Inference

variable {env : Env}

/-- One step of typing: an expression that fits has a well-formed type if those of its children are. -/
theorem Expr.wellFormed_of_children (henv : env.WellFormed) {e : Expr} (hfits : e.fits env = true)
    (hchildren : ∀ c ∈ e.children, ∀ t, c.infer env = .ok t → t.WellFormed) {t : LaneType}
    (h : e.infer env = .ok t) : t.WellFormed := by
  cases e with
  | int | float | bool =>
    cases h
    trivial
  | ident span name =>
    rw [Expr.infer, identType] at h
    split at h
    · rename_i binding hbinding
      cases h
      exact henv.lookup hbinding
    · split at h
      · cases h
        trivial
      · cases h
  | unary span op operand =>
    rw [Expr.infer] at h
    obtain ⟨u, hu, h⟩ := Except.bind_eq_ok.1 h
    obtain ⟨-, -, rfl⟩ := unaryType_ok h
    exact hchildren operand List.mem_cons_self t hu
  | binary span op left right =>
    rw [Expr.infer] at h
    obtain ⟨lt, hl, h⟩ := Except.bind_eq_ok.1 h
    obtain ⟨rt, hr, h⟩ := Except.bind_eq_ok.1 h
    have hlt := hchildren left List.mem_cons_self lt hl
    have hrt := hchildren right (List.mem_cons_of_mem _ List.mem_cons_self) rt hr
    exact binaryType_wellFormed hl hr hlt hrt h
  | cast span operand target =>
    rw [Expr.infer] at h
    obtain ⟨source, -, h⟩ := Except.bind_eq_ok.1 h
    obtain ⟨dest, hdest, h⟩ := Except.bind_eq_ok.1 h
    obtain ⟨_, -, h⟩ := Except.bind_eq_ok.1 h
    cases h
    exact TypeExpr.wellFormed_of_resolve hdest
  | call span callee args =>
    rw [Expr.infer] at h
    rcases callType_ok h with
      ⟨op, value, other, s, w, result, hop, -, rfl, hvalue, -, rfl, hsettles⟩ |
        ⟨op, value, s, -, -, -, rfl | rfl | rfl⟩ | ⟨s, -, hs, rfl⟩
    · have hwell := hchildren value List.mem_cons_self _ hvalue
      have hother := hchildren other (List.mem_cons_of_mem _ List.mem_cons_self)
      exact LibraryOp.wellFormed_of_settles hop hfits hvalue hwell hother hsettles
    · trivial
    · trivial
    · trivial
    · exact henv.results callee.text s hs
  | range span first last =>
    rw [Expr.infer] at h
    obtain ⟨_, -, h⟩ := Except.bind_eq_ok.1 h
    obtain ⟨_, -, h⟩ := Except.bind_eq_ok.1 h
    obtain ⟨_, -, h⟩ := Except.bind_eq_ok.1 h
    obtain ⟨_, -, h⟩ := Except.bind_eq_ok.1 h
    obtain ⟨s, rfl⟩ := rangeType_ok h
    trivial
  | recv span chan =>
    rw [Expr.infer] at h
    obtain ⟨c, hc, h⟩ := Except.bind_eq_ok.1 h
    obtain rfl := receivedType_ok h
    exact LaneType.wellFormed_chan.1 (hchildren chan List.mem_cons_self _ hc)

/-- All parts of an expression have well-formed types exactly if every part that regroups native lanes stays
within the limit. -/
theorem Expr.wellFormed_parts_iff (henv : env.WellFormed) (e : Expr) :
    (∀ p ∈ e.parts, ∀ t, p.infer env = .ok t → t.WellFormed) ↔ ∀ p ∈ e.parts, p.fits env = true := by
  constructor
  · intro h p hp
    exact Expr.fits_of_wellFormed (h p hp)
  · refine Expr.of_children (P := fun e => (∀ p ∈ e.parts, p.fits env = true) →
      ∀ p ∈ e.parts, ∀ t, p.infer env = .ok t → t.WellFormed) ?_ e
    intro e hchildren hfits p hp t h
    rw [Expr.parts_eq] at hfits hp
    have hinside : ∀ c ∈ e.children, ∀ q ∈ c.parts, ∀ t, q.infer env = .ok t → t.WellFormed := by
      intro c hc
      apply hchildren c hc
      intro q hq
      exact hfits q (List.mem_cons_of_mem _ (List.mem_flatMap.2 ⟨c, hc, hq⟩))
    rcases List.mem_cons.1 hp with rfl | hp
    · refine Expr.wellFormed_of_children henv (hfits p List.mem_cons_self) ?_ h
      intro c hc
      exact hinside c hc c c.mem_parts_self
    · obtain ⟨c, hc, hp⟩ := List.mem_flatMap.1 hp
      exact hinside c hc p hp t h

/-- An expression whose parts all fit has a well-formed type. -/
theorem Expr.wellFormed_of_infer (henv : env.WellFormed) {e : Expr}
    (hfits : ∀ p ∈ e.parts, p.fits env = true) {t : LaneType} (h : e.infer env = .ok t) : t.WellFormed :=
  (Expr.wellFormed_parts_iff henv e).2 hfits e e.mem_parts_self t h

/-- The type of an expression whose parts all fit is well formed, and so is `void` if it has none. -/
theorem Expr.wellFormed_typeIn (henv : env.WellFormed) {e : Expr}
    (hfits : ∀ p ∈ e.parts, p.fits env = true) : (e.typeIn env).WellFormed := by
  cases hinfer : e.infer env with
  | error issue =>
    rw [Expr.typeIn, hinfer]
    trivial
  | ok t =>
    rw [Expr.typeIn_of_infer hinfer]
    exact Expr.wellFormed_of_infer henv hfits hinfer

end Inference

end Lanewise
