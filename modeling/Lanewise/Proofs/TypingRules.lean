import Lanewise.Proofs.CheckRules

/-!
# What a typing rule has found

One inversion lemma for each rule of `Expr.infer`: from the type of an expression, what the types of its parts
are and how they make up that type. The operations of the lane library that keep their lanes apart are put
together in one lemma (`binaryLibraryType_ok`): the result has the elements of the first argument, and its width
is that of the first argument or the join of both. `Expr.constantValue_ok` is the same for compile-time values.
-/

set_option autoImplicit false

namespace Lanewise

/-! ### Widths -/

/-- Widths combine if neither is open and one of them is native or both are the same. -/
theorem Width.combine_eq_ok {a b w : Width} :
    a.combine b = .ok w ↔
      a ≠ .universal ∧ b ≠ .universal ∧ (a = .native ∧ w = b ∨ (b = .native ∨ b = a) ∧ w = a) := by
  cases a <;> cases b <;> simp [Width.combine, eq_comm]
  case fixed.fixed m n =>
    by_cases h : m = n
    · simp [h]
    · simp [h]

/-- Two widths join if none is open and one of them is native or both are the same; the joined one is the one
that is not native. -/
theorem Width.join_eq_ok {a b w : Width} {span : Span} :
    a.join b span = .ok w ↔
      a ≠ .universal ∧ b ≠ .universal ∧ (a = .native ∧ w = b ∨ (b = .native ∨ b = a) ∧ w = a) := by
  rw [← Width.combine_eq_ok]
  unfold Width.join
  cases a.combine b with
  | ok joined =>
    constructor
    · intro h
      cases h
      rfl
    · intro h
      cases h
      rfl
  | error clash =>
    constructor
    · intro h
      cases h
    · intro h
      cases h

/-! ### Constants -/

/-- An expression that folds is a literal, the name of a constant, or an operation whose operands fold. -/
theorem Expr.constantValue_ok {constants : NameMap Int64} {e : Expr} {v : Int64}
    (h : e.constantValue constants = .ok v) :
    (∃ span, e = .int span v) ∨
      (∃ span name, e = .ident span name ∧ constants.find? name = some v) ∨
      (∃ span operand w, e = .unary span .neg operand ∧ operand.constantValue constants = .ok w ∧
        word? (-w.toInt) = some v) ∨
      ∃ span op left right l r, e = .binary span op left right ∧ left.constantValue constants = .ok l ∧
        right.constantValue constants = .ok r ∧ op.fold? l r = some v := by
  cases e with
  | int span value =>
    cases h
    exact Or.inl ⟨span, rfl⟩
  | ident span name =>
    rw [Expr.constantValue] at h
    split at h
    · rename_i value hfind
      cases h
      exact Or.inr (Or.inl ⟨span, name, rfl, hfind⟩)
    · cases h
  | unary span op operand =>
    cases op with
    | neg =>
      obtain ⟨w, hw, h⟩ := Except.bind_eq_ok.1 h
      split at h
      · rename_i value hneg
        cases h
        exact Or.inr (Or.inr (Or.inl ⟨span, operand, w, rfl, hw, hneg⟩))
      · cases h
    | not | bitNot => cases h
  | binary span op left right =>
    obtain ⟨l, hl, h⟩ := Except.bind_eq_ok.1 h
    obtain ⟨r, hr, h⟩ := Except.bind_eq_ok.1 h
    split at h
    · rename_i value hfold
      cases h
      exact Or.inr (Or.inr (Or.inr ⟨span, op, left, right, l, r, rfl, hl, hr, hfold⟩))
    · cases h
  | float | bool | cast | call | range | recv => cases h

/-! ### Operators -/

/-- A type is accepted as concrete exactly if it does not leave a lane count open. -/
theorem LaneType.expectConcrete_eq_ok {t : LaneType} {span : Span} {u : Unit} :
    t.expectConcrete span = .ok u ↔ t.isUniversal = false := by
  simp [LaneType.expectConcrete]

/-- An operator on one operand keeps its type, which is concrete and supports the operator. -/
theorem unaryType_ok {op : UnaryOp} {operand : Expr} {t r : LaneType} {span : Span}
    (h : unaryType op operand t span = .ok r) :
    t.isUniversal = false ∧ t.scalar?.any op.supports = true ∧ r = t := by
  obtain ⟨_, hconcrete, h⟩ := Except.bind_eq_ok.1 h
  obtain ⟨_, hsupports, h⟩ := Except.bind_eq_ok.1 h
  cases h
  exact ⟨LaneType.expectConcrete_eq_ok.1 hconcrete, Issue.require_eq_ok.1 hsupports, rfl⟩

/-- Operands of a binary operation have elements of a common type, and their widths go together. -/
theorem binaryType_ok {op : BinaryOp} {left right : Expr} {lt rt t : LaneType} {span : Span}
    (h : binaryType op left right lt rt span = .ok t) :
    lt.isUniversal = false ∧ rt.isUniversal = false ∧
      ∃ l r s, lt.scalar? = some l ∧ rt.scalar? = some r ∧ commonScalar? left right l r = some s ∧
        op.supports s = true ∧ lanewise (op.resultScalar s) lt.width? rt.width? span = .ok t := by
  obtain ⟨_, hleft, h⟩ := Except.bind_eq_ok.1 h
  obtain ⟨_, hright, h⟩ := Except.bind_eq_ok.1 h
  refine ⟨LaneType.expectConcrete_eq_ok.1 hleft, LaneType.expectConcrete_eq_ok.1 hright, ?_⟩
  split at h
  · rename_i l r hl hr
    split at h
    · cases h
    · rename_i s hs
      obtain ⟨_, hsupports, h⟩ := Except.bind_eq_ok.1 h
      exact ⟨l, r, s, hl, hr, hs, Issue.require_eq_ok.1 hsupports, h⟩
  · cases h

/-- An integer literal is a uniform 64-bit integer, whatever type its context gives it. -/
theorem Expr.infer_of_isIntLiteral (env : Env) : ∀ {e : Expr}, e.isIntLiteral = true →
    e.infer env = .ok (.uniform .int64)
  | .int .., _ => rfl
  | .unary _ .neg operand, h => by
    have hoperand := Expr.infer_of_isIntLiteral env (e := operand) h
    rw [Expr.infer, hoperand]
    rfl

/-- What is accepted as a uniform integer is one. -/
theorem uniformInt_ok {slot : IntSlot} {t : LaneType} {span : Span} {s : Scalar}
    (h : uniformInt slot t span = .ok s) : t = .uniform s ∧ s.isInteger = true := by
  cases t with
  | uniform a =>
    rw [uniformInt] at h
    split at h
    · rename_i hint
      cases h
      exact ⟨rfl, hint⟩
    · cases h
  | _ => cases h

/-- A range is a sequence. -/
theorem rangeType_ok {first last : Expr} {a b : Scalar} {span : Span} {t : LaneType}
    (h : rangeType first last a b span = .ok t) : ∃ s, t = .seq s := by
  obtain ⟨_, -, h⟩ := Except.bind_eq_ok.1 h
  cases h
  exact ⟨_, rfl⟩

/-- What is received are the elements of the channel. -/
theorem receivedType_ok {chan : Expr} {c t : LaneType} (h : receivedType chan c = .ok t) :
    c = .chan t := by
  cases c <;> cases h
  rfl

/-! ### Conversions -/

/-- A conversion to a varying type starts from a uniform value or from lanes whose width joins with the new
one. -/
theorem LaneType.expectCast_varying_ok {source : LaneType} {d : Scalar} {w : Width} {span : Span}
    {u : Unit} (h : source.expectCast (.varying d w) span = .ok u) :
    w ≠ .universal ∧ ((∃ s, source = .uniform s) ∨
      ∃ s sw joined, source = .varying s sw ∧ sw.join w span = .ok joined ∧ d.bits ≤ s.bits) := by
  cases source with
  | uniform s =>
    cases w with
    | universal => cases h
    | native | fixed n => exact ⟨nofun, Or.inl ⟨s, rfl⟩⟩
  | varying s sw =>
    have hopen : w ≠ .universal ∧ ∃ joined, sw.join w span = .ok joined ∧ d.bits ≤ s.bits := by
      cases sw <;> cases w <;> first
        | cases h
        | obtain ⟨joined, hjoin, h⟩ := Except.bind_eq_ok.1 h
          obtain ⟨_, hbits, -⟩ := Except.bind_eq_ok.1 h
          exact ⟨nofun, joined, hjoin, of_decide_eq_true (Issue.require_eq_ok.1 hbits)⟩
    obtain ⟨hw, joined, hjoin, hbits⟩ := hopen
    exact ⟨hw, Or.inr ⟨s, sw, joined, rfl, hjoin, hbits⟩⟩
  | void | seq | groups | chan => cases h

/-- Lanes are only ever converted to lanes. -/
theorem LaneType.expectCast_of_varying {s : Scalar} {w : Width} {target : LaneType} {span : Span}
    {u : Unit} (h : (LaneType.varying s w).expectCast target span = .ok u) :
    ∃ d dw, target = .varying d dw := by
  cases target with
  | varying d dw => exact ⟨d, dw, rfl⟩
  | void | uniform | seq | groups | chan => cases h

/-! ### Library calls -/

/-- Whether an operation takes lanes, indices or amounts for each lane, so that the widths of both arguments
have to go together. -/
def LibraryOp.joinsWidths : LibraryOp → Bool
  | .swizzle | .shiftLeft | .shiftRight => true
  | _ => false

/-- An operand is accepted as varying exactly if it has lanes whose count is not open. -/
theorem varyingOperand_eq_ok {op : LibraryOp} {arg : Argument} {found : Scalar × Width} :
    varyingOperand op arg = .ok found ↔
      arg.type = .ok (.varying found.1 found.2) ∧ found.2 ≠ .universal := by
  obtain ⟨s, w⟩ := found
  unfold varyingOperand
  rw [Except.bind_eq_ok]
  constructor
  · rintro ⟨t, ht, h⟩
    split at h
    · cases h
    · rename_i hopen
      cases h
      exact ⟨ht, hopen⟩
    · cases h
  · rintro ⟨ht, hw⟩
    refine ⟨_, ht, ?_⟩
    cases w with
    | universal => exact absurd rfl hw
    | native | fixed => rfl

/-- A broadcast keeps the type of its lanes. -/
theorem broadcastType_ok {env : Env} {s : Scalar} {w : Width} {index : Argument} {t : LaneType}
    (h : broadcastType env s w index = .ok t) : t = .varying s w := by
  unfold broadcastType at h
  split at h
  · cases h
  · obtain ⟨_, -, h⟩ := Except.bind_eq_ok.1 h
    cases h
    rfl

/-- A rotation has a uniform offset and keeps the type of its lanes. -/
theorem rotateType_ok {s : Scalar} {w : Width} {offset : Argument} {t : LaneType}
    (h : rotateType s w offset = .ok t) :
    ∃ a, offset.type = .ok (.uniform a) ∧ t = .varying s w := by
  obtain ⟨u, hu, h⟩ := Except.bind_eq_ok.1 h
  obtain ⟨a, ha, h⟩ := Except.bind_eq_ok.1 h
  cases h
  obtain ⟨rfl, -⟩ := uniformInt_ok ha
  exact ⟨a, hu, rfl⟩

/-- A swizzle is accepted exactly if its indices are varying integers whose width joins that of the lanes. -/
theorem swizzleType_eq_ok {s : Scalar} {w : Width} {indices : Argument} {span : Span} {t : LaneType} :
    swizzleType s w indices span = .ok t ↔
      ∃ a iw joined, indices.type = .ok (.varying a iw) ∧ a.isInteger = true ∧
        w.join iw span = .ok joined ∧ t = .varying s joined := by
  unfold swizzleType
  simp only [Except.bind_eq_ok, varyingOperand_eq_ok, Issue.require_eq_ok]
  constructor
  · rintro ⟨⟨a, iw⟩, ⟨hindices, -⟩, _, hint, joined, hjoin, h⟩
    cases h
    exact ⟨a, iw, joined, hindices, hint, hjoin, rfl⟩
  · rintro ⟨a, iw, joined, hindices, hint, hjoin, rfl⟩
    exact ⟨(a, iw), ⟨hindices, (Width.join_eq_ok.1 hjoin).2.1⟩, (), hint, joined, hjoin, rfl⟩

/-- A shift of lanes is accepted exactly if its amount is a uniform integer, or varying integers whose width
joins that of the lanes. -/
theorem shiftType_eq_ok {s : Scalar} {w : Width} {amount : Argument} {span : Span} {t : LaneType} :
    shiftType s w amount span = .ok t ↔
      (∃ a, amount.type = .ok (.uniform a) ∧ a.isInteger = true ∧ t = .varying s w) ∨
        ∃ a aw joined, amount.type = .ok (.varying a aw) ∧ a.isInteger = true ∧
          w.join aw span = .ok joined ∧ t = .varying s joined := by
  unfold shiftType
  rw [Except.bind_eq_ok]
  constructor
  · rintro ⟨u, hu, h⟩
    cases u with
    | uniform a =>
      obtain ⟨_, hint, h⟩ := Except.bind_eq_ok.1 h
      cases h
      exact Or.inl ⟨a, hu, Issue.require_eq_ok.1 hint, rfl⟩
    | varying a aw =>
      obtain ⟨_, hint, h⟩ := Except.bind_eq_ok.1 h
      obtain ⟨joined, hjoin, h⟩ := Except.bind_eq_ok.1 h
      cases h
      exact Or.inr ⟨a, aw, joined, hu, Issue.require_eq_ok.1 hint, hjoin, rfl⟩
    | void | seq | groups | chan => cases h
  · rintro (⟨a, hu, hint, rfl⟩ | ⟨a, aw, joined, hu, hint, hjoin, rfl⟩)
    · exact ⟨_, hu, Except.bind_eq_ok.2 ⟨(), Issue.require_eq_ok.2 hint, rfl⟩⟩
    · refine ⟨_, hu, Except.bind_eq_ok.2 ⟨(), Issue.require_eq_ok.2 hint, ?_⟩⟩
      exact Except.bind_eq_ok.2 ⟨joined, hjoin, rfl⟩

/-- The second argument of a library operation with two: a broadcast does not look at its type, and otherwise it
is uniform, or its width joins that of the first. -/
def LibraryOp.Settles (op : LibraryOp) (w : Width) (other : Argument) (span : Span) (result : Width) :
    Prop :=
  op = .broadcast ∧ result = w ∨
    (∃ a, other.type = .ok (.uniform a) ∧ result = w) ∨
      ∃ a aw, op.joinsWidths = true ∧ other.type = .ok (.varying a aw) ∧ a.isInteger = true ∧
        w.join aw span = .ok result

/-- An operation with two arguments yields lanes with the elements of the first one. -/
theorem binaryLibraryType_ok {env : Env} {op : LibraryOp} {value other : Argument} {span : Span}
    {t : LaneType} (harity : op.arity = 2) (h : binaryLibraryType env op value other span = .ok t) :
    ∃ s w result, value.type = .ok (.varying s w) ∧ w ≠ .universal ∧ t = .varying s result ∧
      op.Settles w other span result := by
  obtain ⟨⟨s, w⟩, hoperand, h⟩ := Except.bind_eq_ok.1 h
  obtain ⟨hvalue, hconcrete⟩ := varyingOperand_eq_ok.1 hoperand
  refine ⟨s, w, ?_⟩
  -- the two shifts have one rule
  have hshift : op.joinsWidths = true → shiftType s w other span = .ok t →
      ∃ result, value.type = .ok (.varying s w) ∧ w ≠ .universal ∧ t = .varying s result ∧
        op.Settles w other span result := by
    intro hjoins h
    rcases shiftType_eq_ok.1 h with ⟨a, ha, -, rfl⟩ | ⟨a, aw, joined, ha, hint, hjoin, rfl⟩
    · exact ⟨w, hvalue, hconcrete, rfl, Or.inr (Or.inl ⟨a, ha, rfl⟩)⟩
    · exact ⟨joined, hvalue, hconcrete, rfl, Or.inr (Or.inr ⟨a, aw, hjoins, ha, hint, hjoin⟩)⟩
  cases op with
  | broadcast => exact ⟨w, hvalue, hconcrete, broadcastType_ok h, Or.inl ⟨rfl, rfl⟩⟩
  | rotate =>
    obtain ⟨a, ha, rfl⟩ := rotateType_ok h
    exact ⟨w, hvalue, hconcrete, rfl, Or.inr (Or.inl ⟨a, ha, rfl⟩)⟩
  | swizzle =>
    obtain ⟨a, iw, joined, ha, hint, hjoin, rfl⟩ := swizzleType_eq_ok.1 h
    exact ⟨joined, hvalue, hconcrete, rfl, Or.inr (Or.inr ⟨a, iw, rfl, ha, hint, hjoin⟩)⟩
  | shiftLeft | shiftRight => exact hshift rfl h
  | _ => cases harity

/-- An operation with one argument yields no lanes. -/
theorem unaryLibraryType_ok {env : Env} {op : LibraryOp} {value : Argument} {t : LaneType}
    (h : unaryLibraryType env op value = .ok t) :
    ∃ s, t = .uniform s ∨ t = .seq s ∨ t = .groups s := by
  unfold unaryLibraryType at h
  split at h
  · obtain ⟨u, -, h⟩ := Except.bind_eq_ok.1 h
    cases u <;> cases h
    exact ⟨_, Or.inr (Or.inr rfl)⟩
  · obtain ⟨⟨s, w⟩, -, h⟩ := Except.bind_eq_ok.1 h
    unfold reductionType at h
    cases op with
    | mask =>
      obtain ⟨_, -, h⟩ := Except.bind_eq_ok.1 h
      obtain ⟨_, -, h⟩ := Except.bind_eq_ok.1 h
      cases h
      exact ⟨_, Or.inl rfl⟩
    | add | mul | max | min | or | and | xor | any | all | findFirstSet =>
      obtain ⟨_, -, h⟩ := Except.bind_eq_ok.1 h
      cases h
      exact ⟨_, Or.inl rfl⟩
    | broadcast | rotate | swizzle | shiftLeft | shiftRight | fromConstrained | «from» =>
      cases h
      exact ⟨_, Or.inr (Or.inl rfl)⟩

/-- A text that is found to name a library operation is its name. -/
theorem LibraryOp.name_of_ofName? {text : String} {op : LibraryOp} (h : LibraryOp.ofName? text = some op) :
    text = op.name := by
  have hname := List.find?_some h
  exact (eq_of_beq hname).symm

/-- A library call has as many arguments as its operation takes. -/
theorem libraryCallType_ok {env : Env} {op : LibraryOp} {args : List Argument} {span : Span}
    {t : LaneType} (h : libraryCallType env op args span = .ok t) :
    (∃ value other, op.arity = 2 ∧ args = [value, other] ∧
        binaryLibraryType env op value other span = .ok t) ∨
      ∃ value, op.arity = 1 ∧ args = [value] ∧ unaryLibraryType env op value = .ok t := by
  unfold libraryCallType at h
  split at h
  · rename_i value other harity
    exact Or.inl ⟨value, other, harity, rfl, h⟩
  · rename_i value harity
    exact Or.inr ⟨value, harity, rfl, h⟩
  · cases h

/-! ### Calls -/

/-- The call of a declared function has as many arguments as parameters, they fit, and it has the type of the
result. -/
theorem functionCallType_ok {env : Env} {callee : Name} {args : List Argument} {span : Span}
    {t : LaneType} (h : functionCallType env callee args span = .ok t) :
    ∃ s, env.functions.find? callee.text = some s ∧ args.length = s.params.length ∧
      expectArguments args s.params = .ok () ∧ t = s.result := by
  unfold functionCallType at h
  split at h
  · cases h
  · rename_i s hs
    obtain ⟨_, hlength, h⟩ := Except.bind_eq_ok.1 h
    obtain ⟨_, hargs, h⟩ := Except.bind_eq_ok.1 h
    cases h
    exact ⟨s, hs, of_decide_eq_true (Issue.require_eq_ok.1 hlength), hargs, rfl⟩

/-- The arguments of a call are typed one by one. -/
theorem Expr.inferEach_eq_map (env : Env) (es : List Expr) :
    Expr.inferEach env es = es.map fun e => { expr := e, type := e.infer env } := by
  induction es with
  | nil => rfl
  | cons e rest ih => rw [Expr.inferEach, ih, List.map_cons]

/-- A call by the name of a library operation is typed as that operation. -/
theorem Expr.infer_libraryCall {env : Env} {span : Span} {callee : Name} {args : List Expr} (op : LibraryOp)
    (hcallee : callee.text = op.name) :
    (Expr.call span callee args).infer env = libraryCallType env op (Expr.inferEach env args) span := by
  rw [Expr.infer, callType, hcallee, LibraryOp.ofName?_name]

/-- A broadcast of a known number of lanes has a type if its index is right. -/
theorem Expr.infer_broadcast {env : Env} {span : Span} {callee : Name} {value index : Expr} {s : Scalar} {w : Width}
    (hcallee : callee.text = LibraryOp.broadcast.name) (hvalue : value.infer env = .ok (.varying s w))
    (hknown : w ≠ .universal) :
    (Expr.call span callee [value, index]).infer env = broadcastType env s w ⟨index, index.infer env⟩ := by
  have hoperand : varyingOperand .broadcast ⟨value, value.infer env⟩ = .ok (s, w) :=
    varyingOperand_eq_ok.2 ⟨hvalue, hknown⟩
  rw [Expr.infer_libraryCall .broadcast hcallee]
  change binaryLibraryType env .broadcast ⟨value, value.infer env⟩ ⟨index, index.infer env⟩ span = _
  rw [binaryLibraryType, hoperand]
  rfl

/-- A list that is mapped to two elements has two. -/
theorem List.map_eq_pair {α β : Type} {f : α → β} {l : List α} {x y : β} (h : l.map f = [x, y]) :
    ∃ a b, l = [a, b] ∧ f a = x ∧ f b = y := by
  obtain ⟨a, rest, rfl, ha, hrest⟩ := List.map_eq_cons_iff.1 h
  obtain ⟨b, none, rfl, hb, hnone⟩ := List.map_eq_cons_iff.1 hrest
  obtain rfl := List.map_eq_nil_iff.1 hnone
  exact ⟨a, b, rfl, ha, hb⟩

/-- A call with two arguments to an operation of the library with two, or a call that yields no lanes of its
own: from the library with one argument, or of a declared function. -/
theorem callType_ok {env : Env} {callee : Name} {args : List Expr} {span : Span} {t : LaneType}
    (h : callType env callee (Expr.inferEach env args) span = .ok t) :
    (∃ op value other s w result, LibraryOp.ofName? callee.text = some op ∧ op.arity = 2 ∧
        args = [value, other] ∧ value.infer env = .ok (.varying s w) ∧ w ≠ .universal ∧
        t = .varying s result ∧ op.Settles w ⟨other, other.infer env⟩ span result) ∨
      (∃ op value s, LibraryOp.ofName? callee.text = some op ∧ op.arity = 1 ∧ args = [value] ∧
        (t = .uniform s ∨ t = .seq s ∨ t = .groups s)) ∨
      ∃ s, LibraryOp.ofName? callee.text = none ∧ env.functions.find? callee.text = some s ∧
        t = s.result := by
  rw [Expr.inferEach_eq_map] at h
  unfold callType at h
  split at h
  · rename_i op hop
    rcases libraryCallType_ok h with ⟨value, other, harity, hargs, htwo⟩ | ⟨value, harity, hargs, hone⟩
    · obtain ⟨first, second, rfl, rfl, rfl⟩ := List.map_eq_pair hargs
      obtain ⟨s, w, result, hvalue, hw, ht, hsettles⟩ := binaryLibraryType_ok harity htwo
      exact Or.inl ⟨op, first, second, s, w, result, hop, harity, rfl, hvalue, hw, ht, hsettles⟩
    · obtain ⟨first, none, rfl, rfl, hnone⟩ := List.map_eq_cons_iff.1 hargs
      obtain rfl := List.map_eq_nil_iff.1 hnone
      obtain ⟨s, hs⟩ := unaryLibraryType_ok hone
      exact Or.inr (Or.inl ⟨op, first, s, hop, harity, rfl, hs⟩)
  · rename_i hnone
    obtain ⟨s, hs, -, -, ht⟩ := functionCallType_ok h
    exact Or.inr (Or.inr ⟨s, hnone, hs, ht⟩)

end Lanewise
