import Lanewise.Typing.Body

/-!
# What a check that succeeds has found

One inversion lemma for each way in which checks are put together, and one for each rule of the statements:
from the success of the check, all that it has looked at and what it has changed. A rule changes nothing but
the record of types, and a declaration also the innermost scope.
-/

set_option autoImplicit false

namespace Lanewise

/-! ### Demands -/

/-- A sequence of demands is met exactly if its parts are. -/
theorem Except.bind_eq_ok {ε α β : Type} {x : Except ε α} {f : α → Except ε β} {b : β} :
    (x >>= f) = .ok b ↔ ∃ a, x = .ok a ∧ f a = .ok b := by
  cases x with
  | error e =>
    constructor
    · intro h
      cases h
    · rintro ⟨a, h, -⟩
      cases h
  | ok a =>
    constructor
    · intro h
      exact ⟨a, rfl, h⟩
    · rintro ⟨a', h, hf⟩
      cases h
      exact hf

/-- Two demands in sequence are met exactly if both are. -/
theorem Except.seq_eq_ok {ε : Type} {x y : Except ε Unit} :
    (do x; y) = .ok () ↔ x = .ok () ∧ y = .ok () := by
  rw [Except.bind_eq_ok]
  exact ⟨fun ⟨_, hx, hy⟩ => ⟨hx, hy⟩, fun ⟨hx, hy⟩ => ⟨(), hx, hy⟩⟩

/-- An outcome that is fine has a result. -/
theorem Except.exists_of_isOk {ε α : Type} {outcome : Except ε α} (h : outcome.isOk = true) :
    ∃ a, outcome = .ok a := by
  cases outcome with
  | ok a => exact ⟨a, rfl⟩
  | error _ => cases h

/-! ### States -/

/-- The state after types were recorded under spans, one after another. -/
def CheckState.note (state : CheckState) (notes : List (Span × LaneType)) : CheckState :=
  { state with types := notes.foldl (fun types entry => types.insert entry.1 entry.2) state.types }

namespace CheckState

variable (state : CheckState) (a b : List (Span × LaneType))

/-- Recording types leaves the environment alone. -/
@[simp] theorem note_env : (state.note a).env = state.env := rfl

/-- Recording twice is recording both lists, one after the other. -/
@[simp] theorem note_note : (state.note a).note b = state.note (a ++ b) := by
  simp [note]

/-- Types recorded under other spans are not seen at a span. -/
theorem find?_note_of_notMem {span : Span} (h : span ∉ a.map Prod.fst) :
    (state.note a).types.find? span = state.types.find? span := by
  induction a generalizing state with
  | nil => rfl
  | cons entry rest ih =>
    rw [List.map_cons, List.mem_cons, not_or] at h
    have hrest := ih ⟨state.env, state.types.insert entry.1 entry.2⟩ h.2
    rw [Assoc.find?_insert, if_neg h.1] at hrest
    exact hrest

/-- Of types recorded under distinct spans, each is found. -/
theorem find?_note_of_mem {span : Span} {t : LaneType} (hspans : (a.map Prod.fst).Nodup)
    (h : (span, t) ∈ a) : (state.note a).types.find? span = some t := by
  induction a generalizing state with
  | nil => cases h
  | cons entry rest ih =>
    rw [List.map_cons, List.nodup_cons] at hspans
    rcases List.mem_cons.1 h with rfl | h
    · have hrest := find?_note_of_notMem ⟨state.env, state.types.insert span t⟩ rest hspans.1
      rw [Assoc.find?_insert, if_pos rfl] at hrest
      exact hrest
    · exact ih ⟨state.env, state.types.insert entry.1 entry.2⟩ hspans.2 h

end CheckState

/-- The type of an expression in an environment; an expression that has none counts as `void`. -/
def Expr.typeIn (env : Env) (e : Expr) : LaneType :=
  (e.infer env).toOption.getD .void

/-- The type of an expression that has one is the inferred one. -/
theorem Expr.typeIn_of_infer {env : Env} {e : Expr} {t : LaneType} (h : e.infer env = .ok t) :
    e.typeIn env = t := by
  rw [Expr.typeIn, h]
  rfl

/-- What is recorded about an expression in an environment. -/
def Expr.note (env : Env) (e : Expr) : Span × LaneType :=
  (e.span, e.typeIn env)

/-- What is recorded about an expression with a type is that type, under its span. -/
theorem Expr.note_of_infer {env : Env} {e : Expr} {t : LaneType} (h : e.infer env = .ok t) :
    e.note env = (e.span, t) := by
  rw [Expr.note, Expr.typeIn_of_infer h]

/-! ### Checks in general -/

namespace Check

variable {α β : Type} {state final : CheckState}

/-- A check that only answers changes nothing. -/
theorem pure_eq_ok {a b : α} :
    (pure a : Check α) state = .ok b final ↔ a = b ∧ state = final := by
  show EStateM.Result.ok a state = .ok b final ↔ _
  rw [EStateM.Result.ok.injEq]

/-- A sequence of checks succeeds exactly if its parts do. -/
theorem bind_eq_ok {c : Check α} {k : α → Check β} {b : β} :
    (c >>= k) state = .ok b final ↔
      ∃ a middle, c state = .ok a middle ∧ k a middle = .ok b final := by
  show EStateM.bind c k state = _ ↔ _
  unfold EStateM.bind
  cases h : c state with
  | ok a middle =>
    constructor
    · intro hk
      exact ⟨a, middle, rfl, hk⟩
    · rintro ⟨a', middle', heq, hk⟩
      cases heq
      exact hk
  | error issue middle =>
    constructor
    · intro hk
      cases hk
    · rintro ⟨a', middle', heq, hk⟩
      cases heq

/-- An outcome as a check succeeds if the outcome does, and changes nothing. -/
theorem ofExcept_eq_ok {outcome : Except Issue α} {a : α} :
    ofExcept outcome state = .ok a final ↔ outcome = .ok a ∧ state = final := by
  unfold ofExcept
  cases outcome with
  | ok b => simp
  | error issue => simp

/-- A question to the environment succeeds if it has an answer there, and changes nothing. -/
theorem ask_eq_ok {question : Env → Except Issue α} {a : α} :
    ask question state = .ok a final ↔ question state.env = .ok a ∧ state = final :=
  ofExcept_eq_ok

/-- Recording a type always succeeds, and notes that type only. -/
theorem record_eq_ok {span : Span} {t : LaneType} {u : Unit} :
    record span t state = .ok u final ↔ final = state.note [(span, t)] := by
  show EStateM.Result.ok () _ = .ok u final ↔ _
  rw [EStateM.Result.ok.injEq]
  exact ⟨fun h => h.2.symm, fun h => ⟨rfl, h.symm⟩⟩

/-- A definition always succeeds, and changes the environment only. -/
theorem define_eq_ok {name : String} {t : LaneType} {depth : Nat} {u : Unit} :
    define name t depth state = .ok u final ↔
      final = { state with env := state.env.define name { type := t, depth } } := by
  show EStateM.Result.ok () _ = .ok u final ↔ _
  rw [EStateM.Result.ok.injEq]
  exact ⟨fun h => h.2.symm, fun h => ⟨rfl, h.symm⟩⟩

/-- Typing an expression records its type, and changes nothing else. -/
theorem infer_eq_ok {e : Expr} {t : LaneType} :
    infer e state = .ok t final ↔
      e.infer state.env = .ok t ∧ final = state.note [(e.span, t)] := by
  unfold infer
  rw [bind_eq_ok]
  constructor
  · rintro ⟨t', middle, hask, hrest⟩
    obtain ⟨hinfer, rfl⟩ := ask_eq_ok.1 hask
    obtain ⟨u, middle', hrecord, hpure⟩ := bind_eq_ok.1 hrest
    obtain ⟨rfl, rfl⟩ := pure_eq_ok.1 hpure
    exact ⟨hinfer, record_eq_ok.1 hrecord⟩
  · rintro ⟨hinfer, rfl⟩
    exact ⟨t, state, ask_eq_ok.2 ⟨hinfer, rfl⟩, rfl⟩

/-- Typing an expression for a slot records its type, and demands that it may flow there. -/
theorem inferInto_eq_ok {e : Expr} {slot : LaneType} {u : Unit} :
    inferInto e slot state = .ok u final ↔
      ∃ t, e.infer state.env = .ok t ∧ t.expect slot e.isIntLiteral e.span = .ok u ∧
        final = state.note [(e.span, t)] := by
  unfold inferInto
  rw [bind_eq_ok]
  constructor
  · rintro ⟨t, middle, hinfer, hexpect⟩
    obtain ⟨ht, rfl⟩ := infer_eq_ok.1 hinfer
    obtain ⟨hflow, rfl⟩ := ofExcept_eq_ok.1 hexpect
    exact ⟨t, ht, hflow, rfl⟩
  · rintro ⟨t, ht, hflow, rfl⟩
    exact ⟨t, _, infer_eq_ok.2 ⟨ht, rfl⟩, ofExcept_eq_ok.2 ⟨hflow, rfl⟩⟩

/-- A check in a scope of its own starts with a new scope, and drops it in the end. -/
theorem inScope_eq_ok {body : Check Unit} {u : Unit} :
    inScope body state = .ok u final ↔
      ∃ inner, body { state with env := state.env.push } = .ok () inner ∧
        final = { inner with env := inner.env.pop } := by
  unfold inScope
  rw [bind_eq_ok]
  constructor
  · rintro ⟨_, middle, hopen, hrest⟩
    cases hopen
    obtain ⟨_, inner, hbody, hclose⟩ := bind_eq_ok.1 hrest
    cases hclose
    exact ⟨inner, hbody, rfl⟩
  · rintro ⟨inner, hbody, rfl⟩
    exact ⟨(), _, rfl, bind_eq_ok.2 ⟨(), inner, hbody, rfl⟩⟩

/-- A check in a scope that starts with a variable. -/
theorem inScopeWith_eq_ok {name : String} {t : LaneType} {depth : Nat} {body : Check Unit} {u : Unit} :
    inScopeWith name t depth body state = .ok u final ↔
      ∃ inner, body { state with env := state.env.push.define name { type := t, depth } } = .ok () inner ∧
        final = { inner with env := inner.env.pop } := by
  unfold inScopeWith
  rw [inScope_eq_ok]
  constructor
  · rintro ⟨inner, hbody, rfl⟩
    obtain ⟨_, middle, hdefine, hrest⟩ := bind_eq_ok.1 hbody
    rw [define_eq_ok.1 hdefine] at hrest
    exact ⟨inner, hrest, rfl⟩
  · rintro ⟨inner, hbody, rfl⟩
    exact ⟨inner, bind_eq_ok.2 ⟨(), _, rfl, hbody⟩, rfl⟩

end Check

/-! ### The rules of the statements -/

section Rules

open Check

variable {state final : CheckState} {u : Unit}

/-- A condition that passes has a concrete boolean type, which is recorded. -/
theorem checkCondition_ok {stmt : Guarded} {cond : Expr} {t : LaneType}
    (h : checkCondition stmt cond state = .ok t final) :
    cond.infer state.env = .ok t ∧ t.expectConcrete cond.span = .ok () ∧ t.isBool = true ∧
      final = state.note [(cond.span, t)] := by
  simp only [checkCondition, bind_eq_ok, infer_eq_ok, ofExcept_eq_ok, pure_eq_ok] at h
  obtain ⟨t', _, ⟨hinfer, rfl⟩, _, _, ⟨hconcrete, rfl⟩, _, _, ⟨hbool, rfl⟩, rfl, rfl⟩ := h
  exact ⟨hinfer, hconcrete, (Issue.require_eq_ok.1 hbool), rfl⟩

/-- A declaration binds its name to the declared type, if there is one, and else to that of its value. -/
theorem checkDeclare_ok {name : Name} {type : Option TypeExpr} {value : Expr} {depth : Nat}
    (h : checkDeclare name type value depth state = .ok u final) :
    ∃ t bound, value.infer state.env = .ok t ∧ t ≠ .void ∧
      (match type with
        | none => bound = t
        | some declared => declared.resolve state.env = .ok bound ∧
            t.expect bound value.isIntLiteral value.span = .ok ()) ∧
      final = { state.note [(value.span, t), (name.span, bound)] with
        env := state.env.define name.text { type := bound, depth } } := by
  cases type with
  | none =>
    simp only [checkDeclare, bind_eq_ok, infer_eq_ok, ofExcept_eq_ok, record_eq_ok, define_eq_ok,
      pure_eq_ok] at h
    obtain ⟨t, _, ⟨hinfer, rfl⟩, _, _, ⟨hvoid, rfl⟩, bound, _, ⟨rfl, rfl⟩, _, _, rfl, rfl⟩ := h
    have hsome : t ≠ .void := by simpa using Issue.require_eq_ok.1 hvoid
    exact ⟨t, t, hinfer, hsome, rfl, by simp⟩
  | some declared =>
    simp only [checkDeclare, bind_eq_ok, infer_eq_ok, ofExcept_eq_ok, ask_eq_ok, record_eq_ok,
      define_eq_ok, pure_eq_ok] at h
    obtain ⟨t, _, ⟨hinfer, rfl⟩, _, _, ⟨hvoid, rfl⟩, slot, _, ⟨hresolve, rfl⟩, _, _, ⟨hflow, rfl⟩,
      _, _, ⟨rfl, rfl⟩, _, _, rfl, rfl⟩ := h
    have hsome : t ≠ .void := by simpa using Issue.require_eq_ok.1 hvoid
    exact ⟨t, slot, hinfer, hsome, ⟨hresolve, hflow⟩, by simp⟩

/-- An assignment that passes has a bound target, a value that fits its type, and the right to write there;
both types are recorded. -/
theorem checkAssign_ok {target : Name} {value : Expr} {depth : Nat} {span : Span}
    (h : checkAssign target value depth span state = .ok u final) :
    ∃ t binding, state.env.lookup? target.text = some binding ∧ value.infer state.env = .ok t ∧
      t.expect binding.type value.isIntLiteral value.span = .ok () ∧
      expectSharedWrite binding target depth span = .ok () ∧
      final = state.note [(value.span, t), (target.span, binding.type)] := by
  simp only [checkAssign, bind_eq_ok, ask_eq_ok, inferInto_eq_ok, ofExcept_eq_ok, record_eq_ok] at h
  obtain ⟨binding, _, ⟨hbinding, rfl⟩, _, _, ⟨t, hinfer, hflow, rfl⟩, _, _, ⟨hwrite, rfl⟩, rfl⟩ := h
  refine ⟨t, binding, ?_, hinfer, hflow, hwrite, by simp⟩
  unfold assignedBinding at hbinding
  split at hbinding
  · rename_i found hfound
    cases hbinding
    exact hfound
  · cases hbinding

/-- The scrutinee of a switch that passes has a concrete type with elements, which is recorded. -/
theorem checkScrutinee_ok {scrutinee : Expr} {found : LaneType × Scalar}
    (h : checkScrutinee scrutinee state = .ok found final) :
    scrutinee.infer state.env = .ok found.1 ∧ found.1.expectConcrete scrutinee.span = .ok () ∧
      found.1.scalar? = some found.2 ∧ final = state.note [(scrutinee.span, found.1)] := by
  simp only [checkScrutinee, bind_eq_ok, infer_eq_ok, ofExcept_eq_ok] at h
  obtain ⟨t, _, ⟨hinfer, rfl⟩, _, _, ⟨hconcrete, rfl⟩, h⟩ := h
  cases hscalar : t.scalar? with
  | none => simp [hscalar, ofExcept_eq_ok] at h
  | some s =>
    simp only [hscalar, pure_eq_ok] at h
    obtain ⟨rfl, rfl⟩ := h
    exact ⟨hinfer, hconcrete, hscalar, rfl⟩

/-- The values of a case are typed in order, each for a slot of the type of the scrutinee. -/
theorem checkCaseValues_ok {elem : Scalar} {values : List Expr}
    (h : checkCaseValues elem values state = .ok u final) :
    (∀ e ∈ values, ∃ t, e.infer state.env = .ok t ∧
        t.expect (.uniform elem) e.isIntLiteral e.span = .ok ()) ∧
      final = state.note (values.map (Expr.note state.env)) := by
  induction values generalizing state with
  | nil =>
    obtain ⟨-, rfl⟩ := pure_eq_ok.1 h
    exact ⟨by simp, rfl⟩
  | cons value rest ih =>
    simp only [checkCaseValues, bind_eq_ok, inferInto_eq_ok] at h
    obtain ⟨_, _, ⟨t, hinfer, hflow, rfl⟩, hrest⟩ := h
    obtain ⟨htyped, rfl⟩ := ih hrest
    refine ⟨?_, by simp [Expr.note_of_infer hinfer]⟩
    intro e he
    rcases List.mem_cons.1 he with rfl | he
    · exact ⟨t, hinfer, hflow⟩
    · exact htyped e he

/-- The scrutinee of a type switch that passes is varying with an open lane count. -/
theorem checkTypeScrutinee_ok {scrutinee : Expr} {elem : Scalar}
    (h : checkTypeScrutinee scrutinee state = .ok elem final) :
    scrutinee.infer state.env = .ok (.varying elem .universal) ∧
      final = state.note [(scrutinee.span, .varying elem .universal)] := by
  simp only [checkTypeScrutinee, bind_eq_ok, infer_eq_ok] at h
  obtain ⟨t, _, ⟨hinfer, rfl⟩, h⟩ := h
  split at h
  · obtain ⟨rfl, rfl⟩ := pure_eq_ok.1 h
    exact ⟨hinfer, rfl⟩
  · simp [ofExcept_eq_ok] at h

/-- The type of the variable of a loop over values of a type. -/
def LaneType.item : LaneType → LaneType
  | .seq s => .uniform s
  | .groups s => .varying s .native
  | t => t

/-- What a loop runs over has a type, and the loop's variable has that of its items. -/
theorem checkIterable_ok {iterable : Expr} {t : LaneType}
    (h : checkIterable iterable state = .ok t final) :
    ∃ all, iterable.infer state.env = .ok all ∧ t = all.item ∧
      final = state.note [(iterable.span, all)] := by
  simp only [checkIterable, bind_eq_ok, infer_eq_ok] at h
  obtain ⟨all, _, ⟨hinfer, rfl⟩, h⟩ := h
  split at h
  · obtain ⟨rfl, rfl⟩ := pure_eq_ok.1 h
    exact ⟨_, hinfer, rfl, rfl⟩
  · obtain ⟨rfl, rfl⟩ := pure_eq_ok.1 h
    exact ⟨_, hinfer, rfl, rfl⟩
  · simp [ofExcept_eq_ok] at h

/-- The range of a go-for that passes is a sequence of integers. -/
theorem checkGoForRange_ok {range : Expr} {elem : Scalar}
    (h : checkGoForRange range state = .ok elem final) :
    range.infer state.env = .ok (.seq elem) ∧ elem.isInteger = true ∧
      final = state.note [(range.span, .seq elem)] := by
  simp only [checkGoForRange, bind_eq_ok, infer_eq_ok] at h
  obtain ⟨t, _, ⟨hinfer, rfl⟩, h⟩ := h
  split at h
  · split at h
    · rename_i hint
      obtain ⟨rfl, rfl⟩ := pure_eq_ok.1 h
      exact ⟨hinfer, hint, rfl⟩
    · simp [ofExcept_eq_ok] at h
  · simp [ofExcept_eq_ok] at h

/-- What is deferred or spawned, if that passes, is a call of a name and has a type. -/
theorem checkTaken_ok {stmt : CallTaker} {call : Expr}
    (h : checkTaken stmt call state = .ok u final) :
    call.callee?.isSome = true ∧
      ∃ t, call.infer state.env = .ok t ∧ final = state.note [(call.span, t)] := by
  simp only [checkTaken, bind_eq_ok, infer_eq_ok, ofExcept_eq_ok, pure_eq_ok] at h
  obtain ⟨_, _, ⟨hcall, rfl⟩, t, _, ⟨hinfer, rfl⟩, -, rfl⟩ := h
  exact ⟨Issue.require_eq_ok.1 hcall, t, hinfer, rfl⟩

/-- A send that passes has a channel and a value that fits its elements; both types are recorded. -/
theorem checkSend_ok {chan value : Expr} (h : checkSend chan value state = .ok u final) :
    ∃ elem t, chan.infer state.env = .ok (.chan elem) ∧ value.infer state.env = .ok t ∧
      t.expect elem value.isIntLiteral value.span = .ok () ∧
      final = state.note [(chan.span, .chan elem), (value.span, t)] := by
  simp only [checkSend, bind_eq_ok, infer_eq_ok] at h
  obtain ⟨c, _, ⟨hchan, rfl⟩, h⟩ := h
  split at h
  · obtain ⟨t, hvalue, hflow, rfl⟩ := inferInto_eq_ok.1 h
    exact ⟨_, t, hchan, hvalue, hflow, rfl⟩
  · simp [ofExcept_eq_ok] at h

end Rules

end Lanewise
