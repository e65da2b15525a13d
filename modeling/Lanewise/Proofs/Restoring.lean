import Lanewise.Proofs.CheckStructure

/-!
# Checks restore the environment

A check adds to the innermost scope and opens scopes above it, and it touches nothing below, whether it
succeeds or fails: `Check.Keeps` says so, and it holds of every check because it holds of the primitive ones
and is kept by doing one after another and by giving a check a scope of its own. A function is checked in a
scope above all that were open, so the environment that comes back is the one that went in
(`Function.check_env`). That needs a scope to come back to: the outermost scope is never closed, so an
environment without one comes back with one (`Function.check_env_restored_iff`).
-/

set_option autoImplicit false

namespace Lanewise

/-- Whether the outcome of a check has changed nothing of an environment but its innermost scope and, after a
failure, the scopes that stand open above it. -/
def Kept {α : Type} (env : Env) (below : List Scope) : EStateM.Result Issue CheckState α → Prop
  | .ok _ final => ∃ top, final.env = { env with scopes := top :: below }
  | .error _ final => ∃ above top, final.env = { env with scopes := above ++ top :: below }

/-- Whether a check keeps the scopes below the innermost one, and all else of the environment. -/
def Check.Keeps {α : Type} (c : Check α) : Prop :=
  ∀ (state : CheckState) (top : Scope) (below : List Scope), state.env.scopes = top :: below →
    Kept state.env below (c state)

namespace Check.Keeps

variable {α β : Type}

/-- A check that only answers keeps the environment. -/
theorem of_pure (a : α) : Check.Keeps (pure a) := by
  intro state top below hscopes
  exact ⟨top, by rw [← hscopes]⟩

/-- An outcome as a check keeps the environment, also if it is a failure. -/
theorem of_except (outcome : Except Issue α) : (Check.ofExcept outcome).Keeps := by
  intro state top below hscopes
  cases outcome with
  | ok a => exact ⟨top, by rw [← hscopes]⟩
  | error issue => exact ⟨[], top, by rw [List.nil_append, ← hscopes]⟩

/-- A question keeps the environment. -/
theorem of_ask (question : Env → Except Issue α) : (Check.ask question).Keeps := by
  intro state
  exact of_except (question state.env) state

/-- Recording a type keeps the environment. -/
theorem of_record (span : Span) (t : LaneType) : (Check.record span t).Keeps := by
  intro state top below hscopes
  exact ⟨top, by rw [← hscopes]⟩

/-- A definition changes the innermost scope only. -/
theorem of_define (name : String) (t : LaneType) (depth : Nat) : (Check.define name t depth).Keeps := by
  intro state top below hscopes
  refine ⟨top.insert name { type := t, depth }, ?_⟩
  show state.env.define name { type := t, depth } = _
  rw [Env.define, hscopes]

/-- One check after another keeps what both keep. -/
theorem bind {c : Check α} {k : α → Check β} (hc : c.Keeps) (hk : ∀ a, (k a).Keeps) :
    Check.Keeps (c >>= k) := by
  intro state top below hscopes
  have hfirst := hc state top below hscopes
  show Kept state.env below (EStateM.bind c k state)
  unfold EStateM.bind
  cases hrun : c state with
  | error issue final =>
    rw [hrun] at hfirst
    exact hfirst
  | ok a middle =>
    rw [hrun] at hfirst
    obtain ⟨top', hmiddle⟩ := hfirst
    have hsecond := hk a middle top' below (by rw [hmiddle])
    rw [hmiddle] at hsecond
    exact hsecond

/-- A scope of its own is gone after a check that succeeds, and stands above the others after one that
fails. -/
theorem inScope {body : Check Unit} (h : body.Keeps) : (Check.inScope body).Keeps := by
  intro state top below hscopes
  have hbody := h { state with env := state.env.push } .empty state.env.scopes rfl
  show Kept state.env below
    (EStateM.bind Check.openScope (fun _ => EStateM.bind body fun _ => Check.closeScope) state)
  simp only [EStateM.bind, Check.openScope]
  cases hrun : body { state with env := state.env.push } with
  | ok u inner =>
    rw [hrun] at hbody
    obtain ⟨top', hinner⟩ := hbody
    refine ⟨top, ?_⟩
    show inner.env.pop = _
    rw [hinner, ← hscopes]
    rfl
  | error issue inner =>
    -- the scope stays open, above what was the innermost scope before
    rw [hrun] at hbody
    obtain ⟨above, own, hinner⟩ := hbody
    refine ⟨above ++ [own], top, ?_⟩
    show inner.env = _
    rw [hinner, List.append_assoc, List.singleton_append, ← hscopes]
    rfl

end Check.Keeps

/-- Keeping the scopes is compositional, so every check of a function does. -/
theorem Check.keeps_compositional : Check.Compositional Check.Keeps where
  of_pure := Check.Keeps.of_pure
  of_except := Check.Keeps.of_except
  of_ask := fun _ => Check.Keeps.of_ask _
  of_record := Check.Keeps.of_record
  of_define := Check.Keeps.of_define
  bind := Check.Keeps.bind
  inScope := Check.Keeps.inScope

/-- Closing the scopes above an environment gives it back. -/
theorem Env.truncate_append {env : Env} (hopen : env.scopes ≠ []) (above : List Scope) :
    Env.truncate { env with scopes := above ++ env.scopes } env.depth = env := by
  have hdepth : 1 ≤ env.scopes.length := List.length_pos_iff.2 hopen
  have hdrop : (above ++ env.scopes).length - max env.depth 1 = above.length := by
    rw [List.length_append, Env.depth, Nat.max_eq_left hdepth, Nat.add_sub_cancel]
  simp only [Env.truncate, hdrop, List.drop_left]

/-- Closing scopes leaves one open. -/
theorem Env.scopes_truncate_ne_nil {env : Env} (hopen : env.scopes ≠ []) (depth : Nat) :
    (env.truncate depth).scopes ≠ [] := by
  have hlength : 1 ≤ env.scopes.length := List.length_pos_iff.2 hopen
  have hrest : (env.truncate depth).scopes.length = min env.scopes.length (max depth 1) := by
    simp only [Env.truncate, List.length_drop]
    omega
  apply List.ne_nil_of_length_pos
  omega

section Functions

variable {env : Env} {f : Function} {s : Signature}

/-- The check of a function ends, before it closes what is open, with scopes above all those that it found. -/
theorem Function.check_env_eq_truncate (hknown : env.functions.find? f.name.text = some s) :
    ∃ above top, (f.check env).2 = Env.truncate { env with scopes := above ++ top :: env.scopes } env.depth := by
  have hkeeps : (f.checkBody s.result).Keeps := Check.keeps_compositional.checkBody f s.result
  have hkept := hkeeps { env := env.push, types := .empty } .empty env.scopes rfl
  simp only [Function.check, hknown]
  cases hrun : f.checkBody s.result { env := env.push, types := .empty } with
  | ok u final =>
    rw [hrun] at hkept
    obtain ⟨top, hfinal⟩ := hkept
    refine ⟨[], top, ?_⟩
    simp only [hfinal]
    rfl
  | error issue final =>
    rw [hrun] at hkept
    obtain ⟨above, top, hfinal⟩ := hkept
    refine ⟨above, top, ?_⟩
    simp only [hfinal]
    rfl

/-- The check of a function without a signature changes nothing. -/
theorem Function.check_env_of_unknown (hunknown : env.functions.find? f.name.text = none) :
    (f.check env).2 = env := by
  simp only [Function.check, hunknown]

/-- The check of a function restores the environment, whatever it finds. -/
theorem Function.check_env (hopen : env.scopes ≠ []) (f : Function) : (f.check env).2 = env := by
  cases hfind : env.functions.find? f.name.text with
  | none => exact Function.check_env_of_unknown hfind
  | some s =>
    obtain ⟨above, top, hcheck⟩ := Function.check_env_eq_truncate hfind
    have hscopes : above ++ top :: env.scopes = (above ++ [top]) ++ env.scopes := by simp
    rw [hcheck, hscopes]
    exact Env.truncate_append hopen (above ++ [top])

/-- The check of a known function hands back a scope, whether it was given one or not. -/
theorem Function.check_scopes_ne_nil (hknown : env.functions.find? f.name.text = some s) :
    (f.check env).2.scopes ≠ [] := by
  obtain ⟨above, top, hcheck⟩ := Function.check_env_eq_truncate hknown
  rw [hcheck]
  apply Env.scopes_truncate_ne_nil
  simp

end Functions

/-- The check of a function hands back the environment that it was given: the same scopes with the same variables
in them, the same functions, constants and target, whether the check succeeds or fails, and at whatever depth of
nested blocks it fails. The one exception is an environment without any scope that knows the function. -/
theorem Function.check_env_restored_iff (f : Function) (env : Env) :
    (f.check env).2 = env ↔ env.scopes ≠ [] ∨ env.functions.find? f.name.text = none := by
  constructor
  · intro hrestored
    cases hfind : env.functions.find? f.name.text with
    | none => exact Or.inr rfl
    | some s =>
      left
      have hopen := Function.check_scopes_ne_nil hfind
      rwa [hrestored] at hopen
  · rintro (hopen | hunknown)
    · exact Function.check_env hopen f
    · exact Function.check_env_of_unknown hunknown

end Lanewise
