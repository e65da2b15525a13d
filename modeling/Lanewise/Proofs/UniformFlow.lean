import Lanewise.Proofs.StatementChecks
import Lanewise.Proofs.TypedParts

/-!
# Lanes become one value only where a call says so

An expression that is not varying may still be made of lanes, but then a call stands between: a reduction, the
groups of a constrained value, or a declared function whose result is not varying. Every other form of expression
that is not varying has no varying child (`Expr.shared_of_children`), so an identifier that stands for lanes lies
inside an argument of such a call.

The slots of a function are as strict. What flows into a slot that is not varying is not varying either, be it a
variable, a result, an argument, a channel, a case or the bound of a range.
-/

set_option autoImplicit false

namespace Lanewise

variable {env : Env}

/-! ### Expressions that all lanes share -/

/-- The part of an expression at a position, which tells the number of the child to go to at each step. -/
def Expr.at? (e : Expr) : List Nat → Option Expr
  | [] => some e
  | i :: pos => e.children[i]?.bind fun child => child.at? pos

/-- Whether a function makes a value that all lanes share out of lanes. -/
inductive Env.Gathers (env : Env) (callee : String) : Prop
  | reduction (op : LibraryOp) (kind : String) (reserved : LibraryOp.ofName? callee = some op)
    (name : callee = "reduce." ++ kind)
  | groups (name : callee = LibraryOp.fromConstrained.name)
  | declared (s : Signature) (free : LibraryOp.ofName? callee = none)
    (found : env.functions.find? callee = some s) (shared : s.result.isVarying = false)

/-- A type without lanes is not varying. -/
theorem LaneType.shared_of_width? {t : LaneType} (h : t.width? = none) : t.isVarying = false := by
  cases t with
  | varying => cases h
  | _ => rfl

/-- A result that is not varying has operands without lanes. -/
theorem lanewise_shared {s : Scalar} {l r : Option Width} {span : Span} {t : LaneType}
    (h : lanewise s l r span = .ok t) (ht : t.isVarying = false) : l = none ∧ r = none := by
  unfold lanewise at h
  split at h
  · exact ⟨rfl, rfl⟩
  · cases h
    cases ht
  · cases h
    cases ht
  · obtain ⟨w, -, h⟩ := Except.bind_eq_ok.1 h
    cases h
    cases ht

/-- Lanes never become a shared value but in a call. -/
theorem Expr.shared_of_children {e : Expr} {t : LaneType} (h : e.infer env = .ok t)
    (ht : t.isVarying = false) (hcall : e.callee? = none) :
    ∀ c ∈ e.children, ∃ u, c.infer env = .ok u ∧ u.isVarying = false := by
  cases e with
  | int | float | bool | ident =>
    intro c hc
    cases hc
  | unary span op operand =>
    rw [Expr.infer] at h
    obtain ⟨u, hu, h⟩ := Except.bind_eq_ok.1 h
    obtain ⟨-, -, rfl⟩ := unaryType_ok h
    exact List.forall_mem_singleton.2 ⟨t, hu, ht⟩
  | binary span op left right =>
    rw [Expr.infer] at h
    obtain ⟨lt, hl, h⟩ := Except.bind_eq_ok.1 h
    obtain ⟨rt, hr, h⟩ := Except.bind_eq_ok.1 h
    obtain ⟨-, -, _, _, _, -, -, -, -, hlanes⟩ := binaryType_ok h
    obtain ⟨hleft, hright⟩ := lanewise_shared hlanes ht
    have hfirst := LaneType.shared_of_width? hleft
    have hsecond := LaneType.shared_of_width? hright
    exact List.forall_mem_cons.2 ⟨⟨lt, hl, hfirst⟩, List.forall_mem_singleton.2 ⟨rt, hr, hsecond⟩⟩
  | cast span operand target =>
    rw [Expr.infer] at h
    obtain ⟨source, hsource, h⟩ := Except.bind_eq_ok.1 h
    obtain ⟨dest, -, h⟩ := Except.bind_eq_ok.1 h
    obtain ⟨_, hcast, h⟩ := Except.bind_eq_ok.1 h
    cases h
    have hshared : source.isVarying = false := by
      cases source with
      | varying s w =>
        obtain ⟨d, dw, rfl⟩ := LaneType.expectCast_of_varying hcast
        cases ht
      | _ => rfl
    exact List.forall_mem_singleton.2 ⟨source, hsource, hshared⟩
  | call => cases hcall
  | range span first last =>
    intro c hc
    obtain ⟨a, ha⟩ := Expr.bounds_of_infer h c hc
    exact ⟨_, ha, rfl⟩
  | recv span chan =>
    rw [Expr.infer] at h
    obtain ⟨u, hu, h⟩ := Except.bind_eq_ok.1 h
    obtain rfl := receivedType_ok h
    exact List.forall_mem_singleton.2 ⟨_, hu, rfl⟩

/-- A library operation with one argument gives the groups of a value or is a reduction. -/
theorem LibraryOp.name_of_arity_one {op : LibraryOp} (h : op.arity = 1) :
    op = .fromConstrained ∨ ∃ kind, op.name = "reduce." ++ kind := by
  cases op with
  | broadcast | rotate | swizzle | shiftLeft | shiftRight => cases h
  | fromConstrained => exact Or.inl rfl
  | add => exact Or.inr ⟨"Add", rfl⟩
  | mul => exact Or.inr ⟨"Mul", rfl⟩
  | max => exact Or.inr ⟨"Max", rfl⟩
  | min => exact Or.inr ⟨"Min", rfl⟩
  | or => exact Or.inr ⟨"Or", rfl⟩
  | and => exact Or.inr ⟨"And", rfl⟩
  | xor => exact Or.inr ⟨"Xor", rfl⟩
  | any => exact Or.inr ⟨"Any", rfl⟩
  | all => exact Or.inr ⟨"All", rfl⟩
  | findFirstSet => exact Or.inr ⟨"FindFirstSet", rfl⟩
  | mask => exact Or.inr ⟨"Mask", rfl⟩
  | «from» => exact Or.inr ⟨"From", rfl⟩

/-- A call whose result is not varying makes a value that all lanes share. -/
theorem Env.gathers_of_infer {span : Span} {callee : Name} {args : List Expr} {t : LaneType}
    (h : (Expr.call span callee args).infer env = .ok t) (ht : t.isVarying = false) :
    env.Gathers callee.text := by
  rw [Expr.infer] at h
  rcases callType_ok h with
    ⟨op, value, other, s, w, result, -, -, -, -, -, rfl, -⟩ | ⟨op, value, s, hop, harity, -, -⟩ |
      ⟨s, hfree, hfound, rfl⟩
  · cases ht
  · have hname := LibraryOp.name_of_ofName? hop
    rcases LibraryOp.name_of_arity_one harity with rfl | ⟨kind, hkind⟩
    · exact .groups hname
    · exact .reduction op kind hop (hname.trans hkind)
  · exact .declared s hfree hfound ht

/-- An identifier that stands for lanes, inside an expression that is not varying, lies in an argument of a call
that makes them one value. -/
theorem Expr.gathered_of_infer {span : Span} {name : String} {binding : Binding}
    (hbinding : env.lookup? name = some binding) (hlanes : binding.type.isVarying = true) :
    ∀ {pos : List Nat} {e : Expr} {t : LaneType}, e.infer env = .ok t → t.isVarying = false →
      e.at? pos = some (.ident span name) →
      ∃ outer i inner span callee args u, pos = outer ++ i :: inner ∧
        e.at? outer = some (.call span callee args) ∧
        (Expr.call span callee args).infer env = .ok u ∧ u.isVarying = false ∧ env.Gathers callee.text
  | [], e, t, h, ht, hpos => by
    cases hpos
    rw [Expr.infer, identType, hbinding] at h
    cases h
    rw [hlanes] at ht
    cases ht
  | i :: pos, e, t, h, ht, hpos => by
    cases hcall : e.callee? with
    | some text =>
      cases e with
      | call span callee args =>
        exact ⟨[], i, pos, span, callee, args, t, rfl, rfl, h, ht, Env.gathers_of_infer h ht⟩
      | _ => cases hcall
    | none =>
      obtain ⟨child, hchild, hrest⟩ := Option.bind_eq_some_iff.1 hpos
      obtain ⟨u, hu, hshared⟩ := Expr.shared_of_children h ht hcall child (List.mem_of_getElem? hchild)
      obtain ⟨outer, j, inner, at', callee, args, v, rfl, houter, hv⟩ :=
        Expr.gathered_of_infer hbinding hlanes hu hshared hrest
      refine ⟨i :: outer, j, inner, at', callee, args, v, rfl, ?_, hv⟩
      rw [Expr.at?, hchild]
      exact houter

/-! ### Slots -/

/-- A value that flows into a slot, and whether lanes may disagree about what the slot holds. -/
structure Inflow where
  value : Expr
  isVarying : Bool

/-- What flows into the slots of an expression: the parameters of a declared function, the offset of a rotation
and the bounds of a range. -/
def Expr.inflows (env : Env) : Expr → List Inflow
  | .call _ callee args =>
    match LibraryOp.ofName? callee.text with
    | none =>
      match env.functions.find? callee.text with
      | none => []
      | some s => List.zipWith (fun arg param => ⟨arg, param.isVarying⟩) args s.params
    | some .rotate => (args.drop 1).map (⟨·, false⟩)
    | some _ => []
  | .range _ first last => [⟨first, false⟩, ⟨last, false⟩]
  | _ => []

/-- What flows into the slots of a statement of a function with the given result: variables that have a type
already, the result, a channel and the cases of a switch. -/
def Stmt.inflows (env : Env) (result : LaneType) : Stmt → List Inflow
  | .declare _ _ (some type) value => [⟨value, (declaredType env (some type) value).isVarying⟩]
  | .assign _ target value => [⟨value, (env.lookup? target.text).any (·.type.isVarying)⟩]
  | .ret _ (some value) => [⟨value, result.isVarying⟩]
  | .send _ chan value =>
    match chan.typeIn env with
    | .chan elem => [⟨value, elem.isVarying⟩]
    | _ => []
  | .switch _ _ arms => arms.values.map (⟨·, false⟩)
  | _ => []

/-- Whether a value that flows into a slot is typed, and shared by all lanes if the slot is. -/
def Inflow.Sound (env : Env) (flow : Inflow) : Prop :=
  ∃ t, flow.value.infer env = .ok t ∧ (flow.isVarying = false → t.isVarying = false)

/-- What fits a slot that is not varying is not varying. -/
theorem LaneType.shared_of_expect {found expected : LaneType} {isLiteral : Bool} {span : Span} {u : Unit}
    (h : found.expect expected isLiteral span = .ok u) (hslot : expected.isVarying = false) :
    found.isVarying = false := by
  cases found with
  | varying s w =>
    cases expected with
    | varying => cases hslot
    | uniform => cases h
    | void | seq | groups | chan => cases of_decide_eq_true (Issue.require_eq_ok.1 h)
  | _ => rfl

/-- Arguments that fit their parameters flow into them soundly. -/
theorem expectArguments_sound {args : List Expr} {params : List LaneType}
    (h : expectArguments (args.map fun e => { expr := e, type := e.infer env }) params = .ok ()) :
    ∀ flow ∈ List.zipWith (fun arg param => Inflow.mk arg param.isVarying) args params, flow.Sound env := by
  induction args generalizing params with
  | nil =>
    intro flow hflow
    cases hflow
  | cons first rest ih =>
    cases params with
    | nil =>
      intro flow hflow
      cases hflow
    | cons param params =>
      obtain ⟨t, ht, h⟩ := Except.bind_eq_ok.1 h
      obtain ⟨_, hfirst, hrest⟩ := Except.bind_eq_ok.1 h
      rw [List.zipWith_cons_cons, List.forall_mem_cons]
      exact ⟨⟨t, ht, LaneType.shared_of_expect hfirst⟩, ih hrest⟩

/-- What flows into the slots of an expression with a type flows soundly. -/
theorem Expr.sound_inflows {e : Expr} {t : LaneType} (h : e.infer env = .ok t) :
    ∀ flow ∈ e.inflows env, flow.Sound env := by
  cases e with
  | call span callee args =>
    rw [Expr.infer] at h
    rw [Expr.inflows]
    split
    · rename_i hfree
      split
      · intro flow hflow
        cases hflow
      · rename_i s hs
        rw [callType, hfree, Expr.inferEach_eq_map] at h
        obtain ⟨s', hs', -, hargs, -⟩ := functionCallType_ok h
        rw [hs] at hs'
        cases hs'
        exact expectArguments_sound hargs
    · rename_i hop
      rcases callType_ok h with
        ⟨op, value, other, s, w, result, hop', -, rfl, -, -, -, hsettles⟩ | ⟨op, value, s, hop', harity, -, -⟩ |
          ⟨s, hfree, -, -⟩
      · rw [hop] at hop'
        cases hop'
        rcases hsettles with ⟨hne, -⟩ | ⟨a, ha, -⟩ | ⟨a, aw, hjoins, -⟩
        · cases hne
        · exact List.forall_mem_singleton.2 ⟨_, ha, fun _ => rfl⟩
        · cases hjoins
      · rw [hop] at hop'
        cases hop'
        cases harity
      · rw [hop] at hfree
        cases hfree
    · intro flow hflow
      cases hflow
  | range span first last =>
    have hshared : ∀ c ∈ [first, last], Inflow.Sound env ⟨c, false⟩ := by
      intro c hc
      obtain ⟨a, ha⟩ := Expr.bounds_of_infer h c hc
      exact ⟨_, ha, fun _ => rfl⟩
    simpa [Expr.inflows] using hshared
  | _ =>
    intro flow hflow
    cases hflow

/-- Parts with a compile-time value have no slots. -/
theorem Expr.inflows_of_constant {constants : NameMap Int64} {e : Expr} {v : Int64}
    (h : e.constantValue constants = .ok v) : e.inflows env = [] := by
  cases e with
  | call | range => cases h
  | _ => rfl

/-- The values in the cases of a switch that passes are not varying. -/
theorem Arms.sound_values {elem : Scalar} {place : Place} : ∀ (arms : Arms) {state final : CheckState} {u : Unit},
    arms.check elem place state = .ok u final →
      ∀ value ∈ arms.values, Inflow.Sound state.env ⟨value, false⟩
  | .nil, _, _, _, _, _, hvalue => by cases hvalue
  | .default _, _, _, _, _, _, hvalue => by cases hvalue
  | .case values body rest, state, final, u, h, value, hvalue => by
    obtain ⟨_, middle, hcase, hbodies⟩ := Check.bind_eq_ok.1 h
    obtain ⟨hvalues, rfl⟩ := checkCaseValues_ok hcase
    obtain ⟨_, middle, hbody, hrest⟩ := Check.bind_eq_ok.1 hbodies
    rcases List.mem_append.1 hvalue with hvalue | hvalue
    · obtain ⟨t, ht, hexpect⟩ := hvalues value hvalue
      exact ⟨t, ht, fun _ => LaneType.shared_of_expect hexpect rfl⟩
    · have henv := Block.env_of_inScope hbody
      rw [CheckState.note_env] at henv
      have hlater := Arms.sound_values rest hrest value hvalue
      rwa [henv] at hlater

/-- What flows into the slots of a statement that passes flows soundly. -/
theorem Standing.sound_inflows {x : Standing} {result : LaneType} (h : x.Passes result) :
    ∀ flow ∈ x.site.stmt.inflows x.env result, flow.Sound x.env := by
  obtain ⟨place, state, final, rfl, -, henv, hcheck⟩ := h
  rw [← henv]
  cases hstmt : x.site.stmt with
  | declare span name type value =>
    rw [hstmt, Stmt.check] at hcheck
    cases type with
    | none =>
      intro flow hflow
      cases hflow
    | some declared =>
      obtain ⟨t, bound, ht, -, ⟨hresolve, hexpect⟩, -⟩ := checkDeclare_ok hcheck
      refine List.forall_mem_singleton.2 ⟨t, ht, fun hslot => LaneType.shared_of_expect hexpect ?_⟩
      rw [declaredType, hresolve] at hslot
      exact hslot
  | assign span target value =>
    rw [hstmt] at hcheck
    obtain ⟨t, binding, hbinding, ht, hexpect, -, -⟩ := checkAssign_ok hcheck
    refine List.forall_mem_singleton.2 ⟨t, ht, fun hslot => LaneType.shared_of_expect hexpect ?_⟩
    rw [hbinding] at hslot
    exact hslot
  | ret span value =>
    rw [hstmt] at hcheck
    cases value with
    | none =>
      intro flow hflow
      cases hflow
    | some value =>
      obtain ⟨t, ht, hexpect, -⟩ := Check.inferInto_eq_ok.1 hcheck
      exact List.forall_mem_singleton.2 ⟨t, ht, LaneType.shared_of_expect hexpect⟩
  | send span chan value =>
    rw [hstmt] at hcheck
    obtain ⟨elem, t, hchan, ht, hexpect, -⟩ := checkSend_ok hcheck
    rw [Stmt.inflows, Expr.typeIn_of_infer hchan]
    exact List.forall_mem_singleton.2 ⟨t, ht, LaneType.shared_of_expect hexpect⟩
  | switch span scrutinee arms =>
    rw [hstmt] at hcheck
    obtain ⟨found, middle, hscrutinee, harms⟩ := Check.bind_eq_ok.1 hcheck
    obtain ⟨-, -, -, rfl⟩ := checkScrutinee_ok hscrutinee
    have hvalues := arms.sound_values harms
    rw [Stmt.inflows, List.forall_mem_map]
    exact hvalues
  | _ =>
    intro flow hflow
    cases hflow

/-- Inside an expression that is not varying, an identifier stands for lanes only in an argument of a call that
makes them one value. In a function that passes its check, what flows into a slot that is not varying is not
varying. -/
theorem Env.lanes_shared_explicitly (env : Env) :
    (∀ (e : Expr) (t : LaneType), e.infer env = .ok t → t.isVarying = false →
        ∀ (pos : List Nat) (span : Span) (name : String) (binding : Binding),
          e.at? pos = some (.ident span name) → env.lookup? name = some binding →
          binding.type.isVarying = true →
          ∃ outer i inner span callee args u, pos = outer ++ i :: inner ∧
            e.at? outer = some (.call span callee args) ∧
            (Expr.call span callee args).infer env = .ok u ∧ u.isVarying = false ∧
            env.Gathers callee.text) ∧
      ∀ (f : Function) (types : TypeRecord) (env' : Env), f.check env = (.ok types, env') →
        ∃ s, env.functions.find? f.name.text = some s ∧
          ∀ x ∈ f.standings env,
            (∀ flow ∈ x.site.stmt.inflows x.env s.result, flow.Sound x.env) ∧
              ∀ e ∈ x.site.stmt.exprs, ∀ part ∈ e.parts, ∀ flow ∈ part.inflows x.env, flow.Sound x.env := by
  constructor
  · intro e t h ht pos span name binding hpos hbinding hlanes
    exact Expr.gathered_of_infer hbinding hlanes h ht hpos
  · intro f types env' hcheck
    obtain ⟨s, hs, hpasses⟩ := Function.passes_of_check hcheck
    refine ⟨s, hs, fun x hx => ⟨Standing.sound_inflows (hpasses x hx), ?_⟩⟩
    intro e he part hpart flow hflow
    obtain ⟨t, ht⟩ := ((Function.check_ok hcheck).1 x hx).infers e he
    rcases e.part_typed_or_constant ht part hpart with ⟨u, hu⟩ | ⟨v, hv⟩
    · exact Expr.sound_inflows hu flow hflow
    · rw [Expr.inflows_of_constant hv] at hflow
      cases hflow

section Sample

open Builder

/-- A function that adds up lanes before it declares a variable that they share. -/
def tally : Function :=
  let build : Builder Function := do
    let squares ← call "reduce.Add" [← binary .mul (← ident "x") (← ident "x")]
    let total ← declare "total" (some (← named "int64")) (← binary .add squares (← int 1))
    function "tally" [← param "x" (← varying "int64")] (some (← named "int64"))
      [total, ← ret (some (← ident "total"))] false
  (build.run 0).1

/-- The signature of the function: one varying value, and an integer as the result. -/
def tallySignature : Signature :=
  { params := [.varying .int64 .native], result := .uniform .int64, isPublic := false, span := tally.span }

/-- The environment in which the function alone is declared. -/
def tallyEnv : Env :=
  { Env.initial .standard with functions := Assoc.empty.insert "tally" tallySignature }

/-- The value that is declared is not varying, and its lanes are inside the reduction. -/
theorem Env.lanes_shared_explicitly_tally :
    (tally.check tallyEnv).1.isOk = true ∧
      ∃ x ∈ tally.standings tallyEnv, ∃ flow ∈ x.site.stmt.inflows x.env tallySignature.result,
        ∃ t, flow.value.infer x.env = .ok t ∧ t.isVarying = false ∧
          ∃ span, flow.value.at? [0, 0, 1] = some (.ident span "x") ∧
            ∃ outer i inner span callee args u, [0, 0, 1] = outer ++ i :: inner ∧
              flow.value.at? outer = some (.call span callee args) ∧
              (Expr.call span callee args).infer x.env = .ok u ∧ u.isVarying = false ∧
              x.env.Gathers callee.text := by
  have hpasses : (tally.check tallyEnv).1.isOk = true := by decide +kernel
  obtain ⟨types, env', hcheck⟩ := Function.exists_of_isOk hpasses
  obtain ⟨s, hs, hsound⟩ := (Env.lanes_shared_explicitly tallyEnv).2 tally types env' hcheck
  have hfirst : ((tally.standings tallyEnv)[0]?.any fun x =>
      (x.env.lookup? "x").any (·.type.isVarying) &&
        (x.site.stmt.inflows x.env tallySignature.result)[0]?.any fun flow =>
          !flow.isVarying && (flow.value.at? [0, 0, 1]).any fun part => part.ident? = some "x") = true := by
    decide +kernel
  obtain ⟨x, hx, hfound⟩ := (Option.any_eq_true _ _).1 hfirst
  rw [Bool.and_eq_true] at hfound
  obtain ⟨binding, hbinding, hlanes⟩ := (Option.any_eq_true _ _).1 hfound.1
  obtain ⟨flow, hflow, hslot⟩ := (Option.any_eq_true _ _).1 hfound.2
  rw [Bool.and_eq_true, Bool.not_eq_true'] at hslot
  have hsignature : s = tallySignature := Option.some.inj (hs.symm.trans (by decide +kernel))
  subst hsignature
  have hmem := List.mem_of_getElem? hflow
  obtain ⟨t, ht, hshared⟩ := (hsound x (List.mem_of_getElem? hx)).1 flow hmem
  obtain ⟨hvarying, hident⟩ := hslot
  obtain ⟨part, hpart, hname⟩ := (Option.any_eq_true _ _).1 hident
  obtain ⟨span, rfl⟩ : ∃ span, part = .ident span "x" := by
    cases part <;> cases of_decide_eq_true hname
    exact ⟨_, rfl⟩
  have hgathered := (Env.lanes_shared_explicitly x.env).1 flow.value t ht (hshared hvarying) _ span _ binding
    hpart hbinding hlanes
  exact ⟨hpasses, x, List.mem_of_getElem? hx, flow, hmem, t, ht, hshared hvarying, span, hpart, hgathered⟩

end Sample

end Lanewise
