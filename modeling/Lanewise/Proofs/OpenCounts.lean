import Lanewise.Proofs.SharedWrites
import Lanewise.Proofs.TypeResolution
import Lanewise.Proofs.TypedParts

/-!
# Lanes of unknown count are not operated on

A value whose lane count is open can be passed on, sent, split into groups and looked into by a type switch. No
operator, conversion, range or other operation of the lane library takes it (`Expr.concrete_operands`), nothing
branches on it, and it flows into no slot but one that leaves the count open as well. In a case of a type switch
the value is bound anew, with the count of that case.

The lane index of a broadcast is left out: it is folded and has no type, so a name in it may be that of a variable
with any type.
-/

set_option autoImplicit false

namespace Lanewise

variable {env : Env}

/-! ### Operands -/

/-- The operands of an expression that have to have a known lane count: those of operators and conversions, the
bounds of a range, and the arguments of library operations. Only the groups of a value are there for any count. -/
def Expr.operands : Expr → List Expr
  | .unary _ _ operand => [operand]
  | .binary _ _ left right => [left, right]
  | .cast _ operand _ => [operand]
  | .range _ first last => [first, last]
  | .call _ callee args =>
    match LibraryOp.ofName? callee.text with
    | none => []
    | some .fromConstrained => []
    | some .broadcast => args.take 1
    | some _ => args
  | _ => []

/-- Whether an expression has a type that does not leave a lane count open. -/
def Expr.Concrete (env : Env) (e : Expr) : Prop :=
  ∃ t, e.infer env = .ok t ∧ t.isUniversal = false

/-- A varying type whose width is not open is concrete. -/
theorem LaneType.concrete_of_width {s : Scalar} {w : Width} (h : w ≠ .universal) :
    (LaneType.varying s w).isUniversal = false := by
  cases w with
  | universal => exact absurd rfl h
  | native | fixed => rfl

/-- What can be converted has a concrete type. -/
theorem LaneType.concrete_of_expectCast {source target : LaneType} {span : Span} {u : Unit}
    (h : source.expectCast target span = .ok u) : source.isUniversal = false := by
  cases source with
  | varying s w =>
    obtain ⟨d, dw, rfl⟩ := LaneType.expectCast_of_varying h
    obtain ⟨-, ⟨_, hsource⟩ | ⟨_, sw, joined, hsource, hjoin, -⟩⟩ := LaneType.expectCast_varying_ok h
    · cases hsource
    · cases hsource
      exact LaneType.concrete_of_width (Width.join_eq_ok.1 hjoin).1
  | _ => rfl

/-- The argument of a library operation with one has a concrete type, unless its groups are taken. -/
theorem unaryLibraryType_concrete {op : LibraryOp} {value : Argument} {t : LaneType}
    (h : unaryLibraryType env op value = .ok t) (hop : op ≠ .fromConstrained) :
    ∃ u, value.type = .ok u ∧ u.isUniversal = false := by
  rw [unaryLibraryType, if_neg hop] at h
  obtain ⟨⟨s, w⟩, hoperand, -⟩ := Except.bind_eq_ok.1 h
  obtain ⟨hvalue, hw⟩ := varyingOperand_eq_ok.1 hoperand
  exact ⟨_, hvalue, LaneType.concrete_of_width hw⟩

/-- The second argument of a library operation has a concrete type, unless it is a lane index. -/
theorem LibraryOp.Settles.concrete {op : LibraryOp} {w result : Width} {other : Argument} {span : Span}
    (h : op.Settles w other span result) (hop : op ≠ .broadcast) :
    ∃ u, other.type = .ok u ∧ u.isUniversal = false := by
  rcases h with ⟨hbroadcast, -⟩ | ⟨a, ha, -⟩ | ⟨a, aw, -, ha, -, hjoin⟩
  · exact absurd hbroadcast hop
  · exact ⟨_, ha, rfl⟩
  · exact ⟨_, ha, LaneType.concrete_of_width (Width.join_eq_ok.1 hjoin).2.1⟩

/-- The operands of a call that has a type have concrete types. -/
theorem callType_concrete {span : Span} {callee : Name} {args : List Expr} {t : LaneType}
    (h : callType env callee (Expr.inferEach env args) span = .ok t) :
    ∀ o ∈ (Expr.call span callee args).operands, o.Concrete env := by
  rw [Expr.inferEach_eq_map] at h
  rw [Expr.operands]
  cases hop : LibraryOp.ofName? callee.text with
  | none =>
    intro o ho
    cases ho
  | some op =>
    rw [callType, hop] at h
    rcases libraryCallType_ok h with ⟨value, other, harity, hargs, htwo⟩ | ⟨value, harity, hargs, hone⟩
    · obtain ⟨first, second, rfl, rfl, rfl⟩ := List.map_eq_pair hargs
      obtain ⟨s, w, result, hvalue, hw, -, hsettles⟩ := binaryLibraryType_ok harity htwo
      have hfirst : first.Concrete env := ⟨_, hvalue, LaneType.concrete_of_width hw⟩
      cases op with
      | broadcast => exact List.forall_mem_singleton.2 hfirst
      | rotate | swizzle | shiftLeft | shiftRight =>
        have hsecond : second.Concrete env := hsettles.concrete (by decide)
        exact List.forall_mem_cons.2 ⟨hfirst, List.forall_mem_singleton.2 hsecond⟩
      | _ => cases harity
    · obtain ⟨first, none, rfl, rfl, hnone⟩ := List.map_eq_cons_iff.1 hargs
      obtain rfl := List.map_eq_nil_iff.1 hnone
      cases op with
      | broadcast | rotate | swizzle | shiftLeft | shiftRight => cases harity
      | fromConstrained =>
        intro o ho
        cases ho
      | _ => exact List.forall_mem_singleton.2 (unaryLibraryType_concrete hone (by decide))

/-- The operands of an expression that has a type have known lane counts. -/
theorem Expr.concrete_operands {e : Expr} {t : LaneType} (h : e.infer env = .ok t) :
    ∀ o ∈ e.operands, o.Concrete env := by
  cases e with
  | unary span op operand =>
    rw [Expr.infer] at h
    obtain ⟨u, hu, h⟩ := Except.bind_eq_ok.1 h
    obtain ⟨hconcrete, -, -⟩ := unaryType_ok h
    exact List.forall_mem_singleton.2 ⟨u, hu, hconcrete⟩
  | binary span op left right =>
    rw [Expr.infer] at h
    obtain ⟨l, hl, h⟩ := Except.bind_eq_ok.1 h
    obtain ⟨r, hr, h⟩ := Except.bind_eq_ok.1 h
    obtain ⟨hleft, hright, -⟩ := binaryType_ok h
    exact List.forall_mem_cons.2 ⟨⟨l, hl, hleft⟩, List.forall_mem_singleton.2 ⟨r, hr, hright⟩⟩
  | cast span operand target =>
    rw [Expr.infer] at h
    obtain ⟨source, hsource, h⟩ := Except.bind_eq_ok.1 h
    obtain ⟨dest, -, h⟩ := Except.bind_eq_ok.1 h
    obtain ⟨_, hcast, -⟩ := Except.bind_eq_ok.1 h
    exact List.forall_mem_singleton.2 ⟨source, hsource, LaneType.concrete_of_expectCast hcast⟩
  | range span first last =>
    intro c hc
    obtain ⟨a, ha⟩ := Expr.bounds_of_infer h c hc
    exact ⟨_, ha, rfl⟩
  | call span callee args =>
    rw [Expr.infer] at h
    exact callType_concrete h
  | _ =>
    intro o ho
    cases ho

/-! ### Conditions and slots -/

/-- What decides about a statement that passes has a concrete type. -/
theorem Standing.concrete_decision {x : Standing} {result : LaneType} (h : x.Passes result) {e : Expr}
    (he : x.site.stmt.decision? = some e) : e.Concrete x.env := by
  obtain ⟨place, state, final, -, -, henv, hcheck⟩ := h
  rw [← henv]
  cases hstmt : x.site.stmt with
  | ifThen | ifElse | whileLoop =>
    rw [hstmt] at hcheck he
    cases he
    obtain ⟨t, middle, hcondition, -⟩ := Check.bind_eq_ok.1 hcheck
    obtain ⟨ht, hconcrete, -⟩ := checkCondition_ok hcondition
    exact ⟨t, ht, LaneType.expectConcrete_eq_ok.1 hconcrete⟩
  | switch =>
    rw [hstmt] at hcheck he
    cases he
    obtain ⟨found, middle, hscrutinee, -⟩ := Check.bind_eq_ok.1 hcheck
    obtain ⟨ht, hconcrete, -⟩ := checkScrutinee_ok hscrutinee
    exact ⟨found.1, ht, LaneType.expectConcrete_eq_ok.1 hconcrete⟩
  | _ =>
    rw [hstmt] at he
    cases he

/-- Lanes of unknown count flow only into slots that leave the count open. -/
theorem LaneType.universal_of_expect {a : Scalar} {slot : LaneType} {isLiteral : Bool} {span : Span} {u : Unit}
    (h : (LaneType.varying a .universal).expect slot isLiteral span = .ok u) :
    ∃ s, slot = .varying s .universal := by
  cases slot with
  | varying s w =>
    obtain ⟨_, -, hwidth⟩ := Except.bind_eq_ok.1 h
    cases w with
    | universal => exact ⟨s, rfl⟩
    | native | fixed => cases hwidth
  | uniform => cases h
  | void | seq | groups | chan => cases of_decide_eq_true (Issue.require_eq_ok.1 h)

/-! ### Cases of a type switch -/

/-- The lane constraint of an arm of a type switch, if the arm is a case. -/
def LaneArms.caseAt? : LaneArms → Nat → Option Constraint
  | .case lanes _ _, 0 => some lanes
  | .case _ _ rest, k + 1 => rest.caseAt? k
  | _, _ => none

/-- A lane constraint with a concrete width stands for a positive count. -/
theorem concreteWidth_fixed {lanes : Constraint} {elem : Scalar} {ifOpen : TypeFault} {w : Width}
    (h : concreteWidth lanes elem ifOpen env = .ok w) : ∃ n, 0 < n ∧ w = .fixed n := by
  obtain ⟨found, hfound, h⟩ := Except.bind_eq_ok.1 h
  obtain ⟨n, -, hn⟩ := Except.bind_eq_ok.1 hfound
  rcases widthOf_eq_ok.1 hn with ⟨-, rfl⟩ | ⟨⟨hpos, -⟩, rfl⟩
  · cases h
  · cases h
    exact ⟨n.toInt.toNat, by omega, rfl⟩

/-- Every case of a type switch that passes has a concrete width. -/
theorem LaneArms.concreteWidth_of_check {binding : Name} {elem : Scalar} {place : Place} :
    ∀ (arms : LaneArms) {k : Nat} {lanes : Constraint} {state final : CheckState} {u : Unit},
      arms.check binding.text elem place state = .ok u final → arms.caseAt? k = some lanes →
        ∃ w, concreteWidth lanes elem .openTypeCase state.env = .ok w
  | .case lanes body rest, k, found, state, final, u, h, hfound => by
    rw [LaneArms.check] at h
    obtain ⟨w, middle, hask, hbodies⟩ := Check.bind_eq_ok.1 h
    obtain ⟨hwidth, rfl⟩ := Check.ask_eq_ok.1 hask
    obtain ⟨_, middle, hbody, hrest⟩ := Check.bind_eq_ok.1 hbodies
    cases k with
    | zero =>
      cases hfound
      exact ⟨w, hwidth⟩
    | succ k =>
      have hlater := LaneArms.concreteWidth_of_check rest hrest hfound
      rwa [Block.env_of_inScopeWith hbody] at hlater

/-- A case of a type switch is entered with the name bound to lanes of the count that it asks for. -/
theorem LaneArms.env_of_caseAt? {binding : Name} {t : LaneType} {depth : Nat} :
    ∀ (arms : LaneArms) {first k : Nat} {lanes : Constraint} {b : ScopedBlock},
      (arms.scopedBlocks env depth binding t first)[k]? = some b → arms.caseAt? k = some lanes →
        b.env = env.pushWith binding (t.settled env lanes) depth
  | .case lanes _ rest, first, 0, found, b, hb, hcase => by
    cases hb
    cases hcase
    rfl
  | .case _ _ rest, first, k + 1, lanes, b, hb, hcase => LaneArms.env_of_caseAt? rest hb hcase

/-- Inside a case of a type switch the name that it binds means lanes of a fixed count, unless the case declares
the name again. -/
theorem Standing.fixed_in_case {y : Standing} {result : LaneType} (h : y.Passes result) {span : Span}
    {binding : Name} {scrutinee : Expr} {arms : LaneArms}
    (hstmt : y.site.stmt = .typeSwitch span binding scrutinee arms) :
    ∃ elem, scrutinee.infer y.env = .ok (.varying elem .universal) ∧
      ∀ (k : Nat) (b : ScopedBlock) (lanes : Constraint),
        (y.site.stmt.scopedBlocks y.env y.depth)[k]? = some b → arms.caseAt? k = some lanes →
        ∃ n, 0 < n ∧ ∀ x ∈ b.contents, declaring? b.contents x.site binding.text = none →
          x.env.lookup? binding.text = some ⟨.varying elem (.fixed n), y.depth⟩ := by
  obtain ⟨place, state, final, -, -, henv, hcheck⟩ := h
  rw [hstmt] at hcheck ⊢
  obtain ⟨elem, middle, hscrutinee, harms⟩ := Check.bind_eq_ok.1 hcheck
  obtain ⟨htype, rfl⟩ := checkTypeScrutinee_ok hscrutinee
  rw [henv] at htype
  refine ⟨elem, htype, fun k b lanes hb hcase => ?_⟩
  obtain ⟨w, hw⟩ := LaneArms.concreteWidth_of_check arms harms hcase
  rw [CheckState.note_env, henv] at hw
  obtain ⟨n, hn, rfl⟩ := concreteWidth_fixed hw
  refine ⟨n, hn, fun x hx hdeclared => ?_⟩
  rw [Stmt.scopedBlocks, Expr.typeIn_of_infer htype] at hb
  have hentered := LaneArms.env_of_caseAt? arms hb hcase
  rw [LaneType.settled_of_concreteWidth hw] at hentered
  have hopen : b.env.scopes ≠ [] := hentered ▸ Env.scopes_pushWith _ _ _
  rw [b.block.lookup?_standing hopen b.depth 0 binding.text x hx, hentered, Env.lookup?_pushWith, if_pos rfl]
  rw [ScopedBlock.contents, hentered] at hdeclared
  rw [hdeclared]
  rfl

/-- In a function that passes its check, lanes of unknown count are no operands, decide about nothing and flow
only into slots that leave the count open. A case of a type switch binds them with a fixed count. -/
theorem Function.open_counts_untouched {f : Function} {env env' : Env} {types : TypeRecord}
    (hcheck : f.check env = (.ok types, env')) :
    (∀ x ∈ f.standings env,
        (∀ e ∈ x.site.stmt.exprs, ∀ part, e.Evaluates part → ∀ o ∈ part.operands, o.Concrete x.env) ∧
          ∀ e, x.site.stmt.decision? = some e → e.Concrete x.env) ∧
      (∀ a slot isLiteral span, (LaneType.varying a .universal).expect slot isLiteral span = .ok () →
        ∃ s, slot = .varying s .universal) ∧
      ∀ y ∈ f.standings env, ∀ span binding scrutinee arms,
        y.site.stmt = .typeSwitch span binding scrutinee arms →
        ∃ elem, scrutinee.infer y.env = .ok (.varying elem .universal) ∧
          ∀ (k : Nat) (b : ScopedBlock) (lanes : Constraint),
            (y.site.stmt.scopedBlocks y.env y.depth)[k]? = some b → arms.caseAt? k = some lanes →
            ∃ n, 0 < n ∧ ∀ x ∈ b.contents, x.behind (y.way b.arm) ∈ f.standings env ∧
              (declaring? b.contents x.site binding.text = none →
                x.env.lookup? binding.text = some ⟨.varying elem (.fixed n), y.depth⟩) := by
  obtain ⟨s, -, hpasses⟩ := Function.passes_of_check hcheck
  refine ⟨fun x hx => ⟨?_, fun e he => Standing.concrete_decision (hpasses x hx) he⟩, ?_, ?_⟩
  · intro e he part hpart
    obtain ⟨t, ht⟩ := ((Function.check_ok hcheck).1 x hx).infers e he
    obtain ⟨u, hu⟩ := Expr.typed_of_evaluates hpart ht
    exact Expr.concrete_operands hu
  · intro a slot isLiteral span h
    exact LaneType.universal_of_expect h
  · intro y hy span binding scrutinee arms hstmt
    obtain ⟨elem, htype, hcases⟩ := Standing.fixed_in_case (hpasses y hy) hstmt
    refine ⟨elem, htype, fun k b lanes hb hcase => ?_⟩
    obtain ⟨n, hn, hlookup⟩ := hcases k b lanes hb hcase
    refine ⟨n, hn, fun x hx => ⟨?_, hlookup x hx⟩⟩
    have hinside : x.behind (y.way b.arm) ∈ y.inside :=
      List.mem_flatMap.2 ⟨b, List.mem_of_getElem? hb, List.mem_map_of_mem hx⟩
    exact Block.mem_standings_of_inside hy hinside

section Sample

open Builder

/-- A function that looks into lanes of unknown count. -/
def unpack : Function :=
  let build : Builder Function := do
    let known ← declare "sum" none (← call "reduce.Add" [← ident "w"])
    let unknown ← forIn "part" (← call "lanes.FromConstrained" [← ident "w"]) []
    let cases ← typeSwitch "w" (← ident "v") [(.literal 4, [known])] (some [unknown])
    function "unpack" [← param "v" (← varyingWith "int32" .universal)] none [cases] false
  (build.run 0).1

/-- The signature of the function: lanes of unknown count, and no result. -/
def unpackSignature : Signature :=
  { params := [.varying .int32 .universal], result := .void, isPublic := false, span := unpack.span }

/-- The environment in which the function alone is declared. -/
def unpackEnv : Env :=
  { Env.initial .standard with functions := Assoc.empty.insert "unpack" unpackSignature }

/-- The case for four lanes adds them up. -/
theorem Function.open_counts_untouched_unpack :
    (unpack.check unpackEnv).1.isOk = true ∧
      ∃ y ∈ unpack.standings unpackEnv, ∃ b ∈ y.site.stmt.scopedBlocks y.env y.depth, ∃ x ∈ b.contents,
        x.behind (y.way b.arm) ∈ unpack.standings unpackEnv ∧
          (∃ elem n, 0 < n ∧ x.env.lookup? "w" = some ⟨.varying elem (.fixed n), y.depth⟩) ∧
          ∃ e ∈ x.site.stmt.exprs, ∃ o ∈ e.operands, o.Concrete x.env := by
  have hpasses : (unpack.check unpackEnv).1.isOk = true := by decide +kernel
  obtain ⟨types, env', hcheck⟩ := Function.exists_of_isOk hpasses
  obtain ⟨hconcrete, -, hcases⟩ := Function.open_counts_untouched hcheck
  have hfirst : ((unpack.standings unpackEnv)[0]?.any fun y =>
      (y.site.stmt.scopedBlocks y.env y.depth)[0]?.any fun b => b.contents[0]?.any fun x =>
        (declaring? b.contents x.site "w").isNone && (x.site.stmt.exprs[0]?.any fun e => e.operands.length = 1) &&
          match y.site.stmt with
          | .typeSwitch _ binding _ arms => binding.text = "w" && (arms.caseAt? 0).isSome
          | _ => false) = true := by
    decide +kernel
  obtain ⟨y, hy, hfound⟩ := (Option.any_eq_true _ _).1 hfirst
  obtain ⟨b, hb, hfound⟩ := (Option.any_eq_true _ _).1 hfound
  obtain ⟨x, hx, hfound⟩ := (Option.any_eq_true _ _).1 hfound
  rw [Bool.and_eq_true, Bool.and_eq_true] at hfound
  obtain ⟨⟨hfree, hexpr⟩, hswitch⟩ := hfound
  have hmem := List.mem_of_getElem? hy
  split at hswitch
  · rename_i span binding scrutinee arms hstmt
    rw [Bool.and_eq_true] at hswitch
    obtain ⟨hname, hcase⟩ := hswitch
    obtain ⟨lanes, hlanes⟩ := Option.isSome_iff_exists.1 hcase
    obtain ⟨elem, -, hcases⟩ := hcases y hmem span binding scrutinee arms hstmt
    obtain ⟨n, hn, hinside⟩ := hcases 0 b lanes hb hlanes
    obtain ⟨hlisted, hlookup⟩ := hinside x (List.mem_of_getElem? hx)
    rw [of_decide_eq_true hname, Option.isNone_iff_eq_none.1 hfree] at hlookup
    obtain ⟨e, he, hoperands⟩ := (Option.any_eq_true _ _).1 hexpr
    obtain ⟨o, ho⟩ := List.length_eq_one_iff.1 (of_decide_eq_true hoperands)
    have hoperand : o ∈ e.operands := ho ▸ List.mem_singleton_self o
    have hmem' := List.mem_of_getElem? he
    have ho' := (hconcrete _ hlisted).1 e hmem' e .refl o hoperand
    exact ⟨hpasses, y, hmem, b, List.mem_of_getElem? hb, x, List.mem_of_getElem? hx, hlisted,
      ⟨elem, n, hn, hlookup rfl⟩, e, hmem', o, hoperand, ho'⟩
  · cases hswitch

end Sample

end Lanewise
