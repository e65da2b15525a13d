import Lanewise.Proofs.CheckStructure

/-!
# Two runs of a check

The same function checked in two environments. What is asked of the environment may have two answers; if they are
the same up to failures that are excused (`Agree`), then so are the two checks (`Function.check_paired`). Two things
are left open: how the environments differ, as long as names and types mean the same in both (`Env.Pairing`), and
which failures of the first run are excused.
-/

set_option autoImplicit false

namespace Lanewise

/-- Two outcomes that are the same, unless the first one is a failure that is excused. -/
inductive Agree {α : Type} (excused : Issue → Prop) : Except Issue α → Except Issue α → Prop
  | same (outcome : Except Issue α) : Agree excused outcome outcome
  | differ {issue : Issue} (h : excused issue) (outcome : Except Issue α) :
    Agree excused (.error issue) outcome

namespace Agree

variable {α β : Type} {excused : Issue → Prop} {x y : Except Issue α}

/-- Outcomes that are the same agree. -/
theorem of_eq (h : x = y) : Agree excused x y :=
  h ▸ .same x

/-- Outcomes that agree still do after the same next step. -/
theorem bind (hx : Agree excused x y) {k k' : α → Except Issue β}
    (hk : ∀ a, Agree excused (k a) (k' a)) : Agree excused (x >>= k) (y >>= k') := by
  cases hx with
  | differ h outcome => exact .differ h _
  | same outcome =>
    cases x with
    | error issue => exact .same _
    | ok a => exact hk a

/-- Outcomes that agree are the same, or the first one is a failure that is excused. -/
theorem eq_or_excused (h : Agree excused x y) : x = y ∨ ∃ issue, excused issue ∧ x = .error issue := by
  cases h with
  | same outcome => exact Or.inl rfl
  | differ hissue outcome => exact Or.inr ⟨_, hissue, rfl⟩

end Agree

/-! ### Environments -/

/-- Whether environments that are related in some way give the same meaning to names and types, and stay related
when scopes are opened and closed and variables are declared. -/
structure Env.Pairing (R : Env → Env → Prop) : Prop where
  scopes : ∀ {env env' : Env}, R env env' → env.scopes = env'.scopes
  constants : ∀ {env env' : Env}, R env env' → env.constants = env'.constants
  functions : ∀ {env env' : Env}, R env env' → ∀ name, env.functions.find? name = env'.functions.find? name
  push : ∀ {env env' : Env}, R env env' → R env.push env'.push
  pop : ∀ {env env' : Env}, R env env' → R env.pop env'.pop
  define : ∀ {env env' : Env} (name : String) (binding : Binding), R env env' →
    R (env.define name binding) (env'.define name binding)

/-- Paired environments name the same region functions. -/
theorem Env.Pairing.isRegionFunction {R : Env → Env → Prop} (hR : Env.Pairing R) {env env' : Env}
    (h : R env env') (name : String) : env.isRegionFunction name = env'.isRegionFunction name := by
  rw [Env.isRegionFunction, Env.isRegionFunction, hR.functions h]

/-- Environments that are alike are paired. -/
theorem Env.Alike.pairing : Env.Pairing Env.Alike where
  scopes := Env.Alike.scopes
  constants := Env.Alike.constants
  functions := Env.Alike.functions
  push := Env.Alike.push
  pop := Env.Alike.pop
  define := fun name binding h => h.define name binding

/-! ### Checks -/

/-- Two runs of a check that have the same outcome, unless the first one fails and is excused. -/
inductive PairedRun (R : Env → Env → Prop) (excused : Issue → Prop) {α : Type} :
    EStateM.Result Issue CheckState α → EStateM.Result Issue CheckState α → Prop
  | ok (a : α) {final final' : CheckState} (henv : R final.env final'.env)
    (htypes : final.types = final'.types) : PairedRun R excused (.ok a final) (.ok a final')
  | error (issue : Issue) (final final' : CheckState) :
    PairedRun R excused (.error issue final) (.error issue final')
  | differ {issue : Issue} (h : excused issue) (final : CheckState)
    (run : EStateM.Result Issue CheckState α) : PairedRun R excused (.error issue final) run

/-- Whether a check has the same outcome in related environments, unless the first run fails and is excused. -/
def Check.Paired (R : Env → Env → Prop) (excused : Issue → Prop) {α : Type} (c : Check α) : Prop :=
  ∀ state state' : CheckState, R state.env state'.env → state.types = state'.types →
    PairedRun R excused (c state) (c state')

namespace Check.Paired

variable {R : Env → Env → Prop} {excused : Issue → Prop} {α β : Type}

/-- A check that only answers has the same outcome in both runs. -/
theorem of_pure (a : α) : Check.Paired R excused (pure a) :=
  fun _ _ henv htypes => .ok a henv htypes

/-- A question whose answers agree in related environments agrees in both runs. -/
theorem of_ask {question : Env → Except Issue α}
    (h : ∀ env env' : Env, R env env' → Agree excused (question env) (question env')) :
    Check.Paired R excused (Check.ask question) := by
  intro state state' henv htypes
  have hanswer := h _ _ henv
  show PairedRun R excused (Check.ofExcept (question state.env) state)
    (Check.ofExcept (question state'.env) state')
  generalize question state.env = answer at hanswer ⊢
  generalize question state'.env = answer' at hanswer ⊢
  cases hanswer with
  | differ hissue outcome => exact .differ hissue _ _
  | same outcome =>
    cases answer with
    | ok a => exact .ok a henv htypes
    | error issue => exact .error issue _ _

/-- An outcome as a check is the same in both runs. -/
theorem of_except (outcome : Except Issue α) : Check.Paired R excused (Check.ofExcept outcome) :=
  @of_ask R excused α (fun _ => outcome) fun _ _ _ => .same outcome

/-- Recording a type does the same in both runs. -/
theorem of_record (span : Span) (t : LaneType) : Check.Paired R excused (Check.record span t) :=
  fun _ _ henv htypes => .ok () henv (congrArg (Assoc.insert · span t) htypes)

/-- A sequence of checks agrees in both runs if each of its parts does. -/
theorem bind {c : Check α} {k : α → Check β} (hc : Check.Paired R excused c)
    (hk : ∀ a, Check.Paired R excused (k a)) : Check.Paired R excused (c >>= k) := by
  intro state state' henv htypes
  have hfirst := hc state state' henv htypes
  show PairedRun R excused (EStateM.bind c k state) (EStateM.bind c k state')
  unfold EStateM.bind
  generalize c state = run at hfirst ⊢
  generalize c state' = run' at hfirst ⊢
  cases hfirst with
  | ok a hmiddle hrecord => exact hk a _ _ hmiddle hrecord
  | error issue final final' => exact .error issue final final'
  | differ hissue final run => exact .differ hissue final _

variable (hR : Env.Pairing R)

include hR

/-- A definition keeps the environments related. -/
theorem of_define (name : String) (t : LaneType) (depth : Nat) :
    Check.Paired R excused (Check.define name t depth) :=
  fun _ _ henv htypes => .ok () (hR.define name _ henv) htypes

/-- A check in a scope of its own agrees in both runs if it does outside. -/
theorem inScope {body : Check Unit} (h : Check.Paired R excused body) :
    Check.Paired R excused (Check.inScope body) := by
  have hopen : Check.Paired R excused Check.openScope :=
    fun _ _ henv htypes => .ok () (hR.push henv) htypes
  have hclose : Check.Paired R excused Check.closeScope :=
    fun _ _ henv htypes => .ok () (hR.pop henv) htypes
  exact bind hopen fun _ => bind h fun _ => hclose

/-- Agreement of two runs is composable, so it passes from the expressions of a function to its check. -/
theorem composable : Check.Composable (Check.Paired R excused) where
  of_pure := of_pure
  of_except := of_except
  of_ask := fun hquestion => of_ask fun env env' h =>
    .of_eq (hquestion env env' (hR.scopes h) (hR.constants h))
  of_record := of_record
  of_define := of_define hR
  bind := bind
  inScope := inScope hR

end Check.Paired

/-- A function whose expressions have the same types in related environments, up to failures that are excused,
passes its check in both or in neither, up to such failures, and with the same record. -/
theorem Function.check_paired {R : Env → Env → Prop} {excused : Issue → Prop} (hR : Env.Pairing R)
    {env env' : Env} (h : R env env') (f : Function)
    (hexprs : ∀ p ∈ f.body.sites, ∀ e ∈ p.stmt.exprs, ∀ env env' : Env, R env env' →
      Agree excused (e.infer env) (e.infer env')) :
    Agree excused (f.check env).1 (f.check env').1 := by
  unfold Function.check
  rw [hR.functions h]
  cases env'.functions.find? f.name.text with
  | none => exact .same _
  | some s =>
    have hbody : Check.Paired R excused (f.checkBody s.result) :=
      (Check.Paired.composable hR).checkBody f s.result fun p hp e he =>
        Check.Paired.of_ask (hexprs p hp e he)
    have hrun := hbody ⟨env.push, .empty⟩ ⟨env'.push, .empty⟩ (hR.push h) rfl
    simp only
    generalize f.checkBody s.result ⟨env.push, .empty⟩ = run at hrun ⊢
    generalize f.checkBody s.result ⟨env'.push, .empty⟩ = run' at hrun ⊢
    cases hrun with
    | ok u henv htypes => exact .of_eq (congrArg Except.ok htypes)
    | error issue final final' => exact .same _
    | differ hissue final run => exact .differ hissue _

end Lanewise
