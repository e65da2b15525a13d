import Lanewise.Proofs.CheckRules

/-!
# Which types can be written

A type expression is resolved layer by layer. Here its meaning is said without the resolution: `TypeExpr.Denotes` has
one rule for each form of type, and `TypeExpr.Admissible` says of a type outside of all channels whether it has a
meaning at all. The resolution finds exactly that meaning (`TypeExpr.resolve_eq_ok`), so what holds of all types that
have been resolved is proved by the rules, one by one.

Whether a lane constraint is within the register limit is a question about integers. It is answered in words: the
constraint is a signed word of 64 bits, the lane count an unsigned one of 32, and the product is taken in 64 bits
(`widthInWords`). No step of this loses anything (`widthOf_eq_widthInWords`).
-/

set_option autoImplicit false

namespace Lanewise

/-! ### Names of scalars -/

/-- The names that a type expression may use for a scalar: the canonical one, and for some a second one. -/
def Scalar.spellings : Scalar → List String
  | .int64 => ["int64", "int"]
  | .uint8 => ["uint8", "byte"]
  | .uint64 => ["uint64", "uint"]
  | .float64 => ["float64", "float"]
  | s => [s.name]

/-- A text names a scalar exactly if it is one of its spellings. -/
theorem Scalar.ofName?_eq_some {text : String} {s : Scalar} :
    Scalar.ofName? text = some s ↔ text ∈ s.spellings := by
  constructor
  · intro h
    unfold Scalar.ofName? at h
    split at h <;> cases h <;> decide
  · have hspelled : ∀ text ∈ s.spellings, Scalar.ofName? text = some s := by
      cases s <;> decide
    exact hspelled text

/-- The type of nothing is no scalar. -/
theorem Scalar.ne_void_of_mem_spellings {text : String} {s : Scalar} (h : text ∈ s.spellings) : text ≠ "void" := by
  have hspelled : ∀ text ∈ s.spellings, text ≠ "void" := by
    cases s <;> decide
  exact hspelled text h

/-- A name resolves to a scalar exactly if it is one of its spellings. -/
theorem resolveScalar_eq_ok {name : String} {span : Span} {s : Scalar} :
    resolveScalar name span = .ok s ↔ name ∈ s.spellings := by
  rw [← Scalar.ofName?_eq_some]
  unfold resolveScalar
  cases Scalar.ofName? name with
  | none => simp
  | some found => simp

/-! ### Lane constraints -/

/-- Whether a lane constraint stands for a number: as a literal, as the empty constraint, which stands for zero, or as
the name of a constant. -/
def Constraint.StandsFor (env : Env) (c : Constraint) (n : Int64) : Prop :=
  c.form = .literal n ∨ c.form = .universal ∧ n = 0 ∨
    ∃ name, c.form = .named name ∧ env.constants.find? name = some n

/-- A lane constraint has a value exactly if it stands for that number. -/
theorem Constraint.value_eq_ok {env : Env} {c : Constraint} {n : Int64} :
    c.value env = .ok n ↔ c.StandsFor env n := by
  unfold Constraint.value Constraint.StandsFor
  cases c.form with
  | literal lanes => simp
  | universal => simp [eq_comm]
  | named name =>
    cases hfind : env.constants.find? name with
    | none => simp [hfind]
    | some value => simp [hfind]

/-- Whether a number is a lane count that the register limit allows, over all integers. -/
def Scalar.Allows (elem : Scalar) (n : Int) : Prop :=
  1 ≤ n ∧ n * elem.bits ≤ 512

/-- A register holds a count that is not negative exactly if the lanes have at most 512 bits together. -/
theorem Width.holds_toNat {n : Int} (elem : Scalar) (hn : 0 ≤ n) :
    Width.holds n.toNat elem = true ↔ n * elem.bits ≤ 512 := by
  unfold Width.holds registerLimit
  rw [decide_eq_true_eq, ← Int.ofNat_le, Int.natCast_mul, Int.toNat_of_nonneg hn]
  exact Iff.rfl

/-- A constraint of zero leaves the lane count open, and a positive one is the lane count if it is allowed. -/
theorem widthOf_eq_ok {n : Int64} {elem : Scalar} {span : Span} {w : Width} :
    widthOf n elem span = .ok w ↔
      n.toInt = 0 ∧ w = .universal ∨ elem.Allows n.toInt ∧ w = .fixed n.toInt.toNat := by
  unfold widthOf Scalar.Allows
  by_cases hneg : n.toInt < 0
  · rw [if_pos hneg]
    constructor
    · intro h
      cases h
    · omega
  · have hholds := Width.holds_toNat elem (Int.not_lt.1 hneg)
    rw [if_neg hneg]
    by_cases hzero : n.toInt = 0
    · rw [if_pos hzero, Except.ok.injEq]
      constructor
      · intro h
        exact Or.inl ⟨hzero, h.symm⟩
      · rintro (⟨-, rfl⟩ | ⟨⟨hpos, -⟩, -⟩)
        · rfl
        · omega
    · rw [if_neg hzero]
      have hpos : 1 ≤ n.toInt := by omega
      by_cases hfits : Width.holds n.toInt.toNat elem = true
      · rw [if_pos hfits, Except.ok.injEq]
        constructor
        · intro h
          exact Or.inr ⟨⟨hpos, hholds.1 hfits⟩, h.symm⟩
        · rintro (⟨hn, -⟩ | ⟨-, rfl⟩)
          · exact absurd hn hzero
          · rfl
      · rw [if_neg hfits]
        constructor
        · intro h
          cases h
        · rintro (⟨hn, -⟩ | ⟨⟨-, hallowed⟩, -⟩)
          · exact absurd hn hzero
          · exact absurd (hholds.2 hallowed) hfits

/-! ### The same in words -/

/-- The unsigned word of 32 bits with the value of a signed one of 64, if there is one. -/
def unsigned? (n : Int64) : Option UInt32 :=
  if 0 ≤ n.toInt ∧ n.toInt < UInt32.size then some (UInt32.ofNat n.toInt.toNat) else none

/-- The width that a lane constraint gives to lanes, where the lane count is a word of 32 bits and its product with the
bits of a lane is taken in 64 bits. -/
def widthInWords (n : Int64) (elem : Scalar) (span : Span) : Except Issue Width :=
  if n < 0 then .error (.type (.negativeConstraint n.toInt) span)
  else if n = 0 then .ok .universal
  else
    match unsigned? n with
    | none => .error (.type (.constraintTooWide n.toInt elem) span)
    | some lanes =>
      if lanes.toUInt64 * (UInt32.ofNat elem.bits).toUInt64 ≤ (UInt32.ofNat registerLimit).toUInt64 then
        .ok (.fixed lanes.toNat)
      else .error (.type (.constraintTooWide n.toInt elem) span)

/-- No scalar has more than 64 bits. -/
theorem Scalar.bits_le (s : Scalar) : s.bits ≤ 64 := by
  cases s <;> decide

/-- Lanes that can be counted in 32 bits have fewer than 2 ^ 64 bits, so their product does not wrap. -/
theorem product_le_iff_holds (lanes : UInt32) (elem : Scalar) :
    lanes.toUInt64 * (UInt32.ofNat elem.bits).toUInt64 ≤ (UInt32.ofNat registerLimit).toUInt64 ↔
      Width.holds lanes.toNat elem = true := by
  have hlanes : lanes.toNat < UInt32.size := lanes.toNat_lt_size
  have hbits : elem.bits < UInt32.size := Nat.lt_of_le_of_lt elem.bits_le (by decide)
  have hproduct : lanes.toNat * elem.bits < UInt64.size :=
    calc lanes.toNat * elem.bits ≤ UInt32.size * 64 := Nat.mul_le_mul (Nat.le_of_lt hlanes) elem.bits_le
      _ < UInt64.size := by decide
  rw [UInt64.le_iff_toNat_le, UInt64.toNat_mul, UInt32.toNat_toUInt64, UInt32.toNat_toUInt64, UInt32.toNat_toUInt64,
    UInt32.toNat_ofNat_of_lt' hbits, UInt32.toNat_ofNat_of_lt' (by decide), Nat.mod_eq_of_lt hproduct]
  unfold Width.holds
  rw [decide_eq_true_eq]

/-- The width over all integers is the one in words: no product wraps on the way. -/
theorem widthOf_eq_widthInWords (n : Int64) (elem : Scalar) (span : Span) :
    widthOf n elem span = widthInWords n elem span := by
  have hneg : n < 0 ↔ n.toInt < 0 := Int64.lt_iff_toInt_lt
  have hzero : n = 0 ↔ n.toInt = 0 := Int64.toInt_inj.symm
  unfold widthOf widthInWords unsigned?
  by_cases hn : n.toInt < 0
  · rw [if_pos hn, if_pos (hneg.2 hn)]
  · rw [if_neg hn, if_neg (mt hneg.1 hn)]
    by_cases hn0 : n.toInt = 0
    · rw [if_pos hn0, if_pos (hzero.2 hn0)]
    · rw [if_neg hn0, if_neg (mt hzero.1 hn0)]
      by_cases hsmall : n.toInt < UInt32.size
      · have hlanes : (UInt32.ofNat n.toInt.toNat).toNat = n.toInt.toNat :=
          UInt32.toNat_ofNat_of_lt' (by omega)
        have hfits := product_le_iff_holds (UInt32.ofNat n.toInt.toNat) elem
        rw [hlanes] at hfits
        simp only [if_pos (And.intro (Int.not_lt.1 hn) hsmall), hfits, hlanes]
      · have hwide : ¬ Width.holds n.toInt.toNat elem = true := by
          intro hholds
          have hle : n.toInt.toNat ≤ 512 :=
            Nat.le_trans (Nat.le_mul_of_pos_right _ elem.bits_pos) (of_decide_eq_true hholds)
          have hsize : UInt32.size = 4294967296 := rfl
          omega
        rw [if_neg hwide, if_neg fun hword => hsmall hword.2]

/-! ### Type expressions -/

namespace TypeExpr

/-- The type inside of all channels. -/
def payload : TypeExpr → TypeExpr
  | .chan _ elem => elem.payload
  | t => t

/-- Whether a type expression outside of channels has a meaning: it names a scalar or the type of nothing, or it is
varying over a named scalar, and its lane constraint, if there is one, stands for zero or for a lane count that the
register limit allows. -/
def Admissible (env : Env) (t : TypeExpr) : Prop :=
  (∃ span name, t = .named span name ∧ (name = "void" ∨ ∃ s : Scalar, name ∈ s.spellings)) ∨
    ∃ span elemSpan name lanes, ∃ s : Scalar, t = .varying span (.named elemSpan name) lanes ∧
      name ∈ s.spellings ∧
      ∀ c, lanes = some c → ∃ n, c.StandsFor env n ∧ (n.toInt = 0 ∨ s.Allows n.toInt)

/-- The lane type that a type expression denotes, layer by layer. -/
inductive Denotes (env : Env) : TypeExpr → LaneType → Prop
  | void {span : Span} : Denotes env (.named span "void") .void
  | uniform {span : Span} {name : String} {s : Scalar} (hname : name ∈ s.spellings) :
    Denotes env (.named span name) (.uniform s)
  | native {span elemSpan : Span} {name : String} {s : Scalar} (hname : name ∈ s.spellings) :
    Denotes env (.varying span (.named elemSpan name) none) (.varying s .native)
  | universal {span elemSpan : Span} {name : String} {s : Scalar} {c : Constraint} (hname : name ∈ s.spellings)
      (hzero : c.StandsFor env 0) :
    Denotes env (.varying span (.named elemSpan name) (some c)) (.varying s .universal)
  | fixed {span elemSpan : Span} {name : String} {s : Scalar} {c : Constraint} {n : Int64}
      (hname : name ∈ s.spellings) (hcount : c.StandsFor env n) (hallowed : s.Allows n.toInt) :
    Denotes env (.varying span (.named elemSpan name) (some c)) (.varying s (.fixed n.toInt.toNat))
  | chan {span : Span} {elem : TypeExpr} {t : LaneType} (helem : Denotes env elem t) :
    Denotes env (.chan span elem) (.chan t)

variable {env : Env} {t : TypeExpr} {l : LaneType}

/-- What a written type resolves to is what it denotes. -/
theorem denotes_of_resolve (h : t.resolve env = .ok l) : t.Denotes env l := by
  induction t generalizing l with
  | named span name =>
    rw [resolve] at h
    split at h
    · rename_i hvoid
      cases h
      rw [hvoid]
      exact .void
    · obtain ⟨s, hs, h⟩ := Except.bind_eq_ok.1 h
      cases h
      exact .uniform (resolveScalar_eq_ok.1 hs)
  | varying span elem lanes =>
    cases elem with
    | varying | chan => cases h
    | named elemSpan name =>
      obtain ⟨s, hs, h⟩ := Except.bind_eq_ok.1 h
      obtain ⟨w, hw, h⟩ := Except.bind_eq_ok.1 h
      cases h
      have hname := resolveScalar_eq_ok.1 hs
      cases lanes with
      | none =>
        cases hw
        exact .native hname
      | some c =>
        obtain ⟨n, hn, hw⟩ := Except.bind_eq_ok.1 hw
        have hcount := Constraint.value_eq_ok.1 hn
        rcases widthOf_eq_ok.1 hw with ⟨hzero, rfl⟩ | ⟨hallowed, rfl⟩
        · obtain rfl : n = 0 := Int64.toInt_inj.1 hzero
          exact .universal hname hcount
        · exact .fixed hname hcount hallowed
  | chan span elem ih =>
    obtain ⟨inner, hinner, h⟩ := Except.bind_eq_ok.1 h
    cases h
    exact .chan (ih hinner)

/-- The resolution finds exactly what a type expression denotes. -/
theorem resolve_eq_ok : t.resolve env = .ok l ↔ t.Denotes env l := by
  refine ⟨denotes_of_resolve, fun h => ?_⟩
  -- a varying type resolves as soon as its name and its constraint do
  have hvarying : ∀ {span elemSpan : Span} {name : String} {s : Scalar} {lanes : Option Constraint} {w : Width},
      name ∈ s.spellings → laneWidth env lanes s = .ok w →
        (TypeExpr.varying span (.named elemSpan name) lanes).resolve env = .ok (.varying s w) := by
    intro span elemSpan name s lanes w hname hw
    exact Except.bind_eq_ok.2 ⟨s, resolveScalar_eq_ok.2 hname, Except.bind_eq_ok.2 ⟨w, hw, rfl⟩⟩
  induction h with
  | void => rfl
  | uniform hname =>
    rw [resolve, if_neg (Scalar.ne_void_of_mem_spellings hname)]
    exact Except.bind_eq_ok.2 ⟨_, resolveScalar_eq_ok.2 hname, rfl⟩
  | native hname => exact hvarying hname rfl
  | universal hname hzero =>
    apply hvarying hname
    exact Except.bind_eq_ok.2 ⟨0, Constraint.value_eq_ok.2 hzero, widthOf_eq_ok.2 (Or.inl ⟨rfl, rfl⟩)⟩
  | fixed hname hcount hallowed =>
    apply hvarying hname
    exact Except.bind_eq_ok.2 ⟨_, Constraint.value_eq_ok.2 hcount, widthOf_eq_ok.2 (Or.inr ⟨hallowed, rfl⟩)⟩
  | chan helem ih => exact Except.bind_eq_ok.2 ⟨_, ih, rfl⟩

/-- A type expression denotes something exactly if it is admissible inside of all channels. -/
theorem exists_denotes_iff : (∃ l, t.Denotes env l) ↔ t.payload.Admissible env := by
  constructor
  · rintro ⟨l, h⟩
    induction h with
    | void => exact Or.inl ⟨_, _, rfl, Or.inl rfl⟩
    | uniform hname => exact Or.inl ⟨_, _, rfl, Or.inr ⟨_, hname⟩⟩
    | native hname =>
      refine Or.inr ⟨_, _, _, _, _, rfl, hname, ?_⟩
      intro c hc
      cases hc
    | universal hname hzero =>
      refine Or.inr ⟨_, _, _, _, _, rfl, hname, ?_⟩
      intro c hc
      cases hc
      exact ⟨0, hzero, Or.inl rfl⟩
    | fixed hname hcount hallowed =>
      refine Or.inr ⟨_, _, _, _, _, rfl, hname, ?_⟩
      intro c hc
      cases hc
      exact ⟨_, hcount, Or.inr hallowed⟩
    | chan helem ih => exact ih
  · intro h
    induction t with
    | chan span elem ih =>
      obtain ⟨l, hl⟩ := ih h
      exact ⟨_, .chan hl⟩
    | named span name =>
      rcases h with ⟨_, _, hsame, hname⟩ | ⟨_, _, _, _, _, hsame, -, -⟩
      · cases hsame
        rcases hname with rfl | ⟨s, hs⟩
        · exact ⟨_, .void⟩
        · exact ⟨_, .uniform hs⟩
      · cases hsame
    | varying span elem lanes =>
      rcases h with ⟨_, _, hsame, -⟩ | ⟨_, _, _, _, s, hsame, hname, hlanes⟩
      · cases hsame
      · cases hsame
        cases lanes with
        | none => exact ⟨_, .native hname⟩
        | some c =>
          obtain ⟨n, hcount, hzero | hallowed⟩ := hlanes c rfl
          · obtain rfl : n = 0 := Int64.toInt_inj.1 hzero
            exact ⟨_, .universal hname hcount⟩
          · exact ⟨_, .fixed hname hcount hallowed⟩

end TypeExpr

/-- Exactly the well-formed type expressions are resolved. Inside of any number of channels such an expression names a
scalar or the type of nothing, or it is varying over a named scalar, with no lane constraint or with one that stands for
zero or for a positive number of lanes of at most 512 bits together. The lane type has the layers of the expression: it
is native without a constraint, of open lane count for zero, and otherwise of that lane count. The limit is that of
integers, although it is checked in words of 32 and 64 bits. -/
theorem TypeExpr.resolved_iff_admissible (env : Env) (t : TypeExpr) :
    ((∃ l, t.resolve env = .ok l) ↔ t.payload.Admissible env) ∧
      (∀ l, t.resolve env = .ok l ↔ t.Denotes env l) ∧
      ∀ n elem span, widthOf n elem span = widthInWords n elem span := by
  refine ⟨?_, fun l => resolve_eq_ok, widthOf_eq_widthInWords⟩
  simp only [resolve_eq_ok, exists_denotes_iff]

-- The low 32 bits of this constraint are those of four, which the limit allows.
example (span : Span) :
    widthOf 4294967300 .int32 span = .error (.type (.constraintTooWide 4294967300 .int32) span) := rfl

end Lanewise
