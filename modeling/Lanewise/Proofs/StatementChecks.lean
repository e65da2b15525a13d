import Lanewise.Proofs.ScopeInvariants

/-!
# Statements pass where they stand

The check of a body goes through its statements in order. If it succeeds, each of them passes a check of its own,
in the environment in force where it stands and at the number of varying conditions around it
(`Function.passes_of_check`). So what a rule demands of one statement is true of every statement of the body.
-/

set_option autoImplicit false

namespace Lanewise

/-- Whether a statement passes its check where it stands, in a function with the given result. -/
def Standing.Passes (result : LaneType) (x : Standing) : Prop :=
  ∃ (place : Place) (state final : CheckState), place.result = result ∧ place.depth = x.depth ∧
    state.env = x.env ∧ x.site.stmt.check place state = .ok () final

/-- Whether a block of a statement passes its check as it is entered. -/
def ScopedBlock.Passes (result : LaneType) (b : ScopedBlock) : Prop :=
  ∃ (place : Place) (state final : CheckState), place.result = result ∧ place.depth = b.depth ∧
    state.env = b.env ∧ b.block.check place state = .ok () final

section Blocks

variable {b : Block} {place : Place} {state final : CheckState} {u : Unit} {result : LaneType} {env : Env}
  {depth : Nat}

/-- A block that passes in a scope of its own passes as it is entered. -/
theorem Block.passes_of_inScope {arm : Arm} (h : Check.inScope (b.check place) state = .ok u final)
    (hresult : place.result = result) (hdepth : place.depth = depth) (henv : state.env = env) :
    ScopedBlock.Passes result ⟨arm, b, env.push, depth⟩ := by
  obtain ⟨inner, hinner, -⟩ := Check.inScope_eq_ok.1 h
  exact ⟨place, _, inner, hresult, hdepth, by rw [henv], hinner⟩

/-- A block that passes in a scope with one variable passes as it is entered. -/
theorem Block.passes_of_inScopeWith {arm : Arm} {name : Name} {t : LaneType}
    (h : Check.inScopeWith name.text t depth (b.check place) state = .ok u final)
    (hresult : place.result = result) (hdepth : place.depth = depth) (henv : state.env = env) :
    ScopedBlock.Passes result ⟨arm, b, env.pushWith name t depth, depth⟩ := by
  obtain ⟨inner, hinner, -⟩ := Check.inScopeWith_eq_ok.1 h
  exact ⟨place, _, inner, hresult, hdepth, by rw [henv, Env.pushWith], hinner⟩

end Blocks

/-- If the arms of a switch pass, so does the body of each, as it is entered. -/
theorem Arms.passes_scopedBlocks (arms : Arms) {place : Place} {elem : Scalar} (k : Nat)
    {state final : CheckState} {u : Unit} (h : arms.check elem place state = .ok u final) :
    ∀ b ∈ arms.scopedBlocks state.env place.depth k, b.Passes place.result := by
  intro b hb
  match arms with
  | .nil => cases hb
  | .default body =>
    rw [List.mem_singleton.1 hb]
    exact Block.passes_of_inScope h rfl rfl rfl
  | .case values body rest =>
    obtain ⟨_, middle, hcase, hbodies⟩ := Check.bind_eq_ok.1 h
    obtain ⟨-, rfl⟩ := checkCaseValues_ok hcase
    obtain ⟨_, middle, hbody, hrest⟩ := Check.bind_eq_ok.1 hbodies
    rcases List.mem_cons.1 hb with rfl | hb
    · exact Block.passes_of_inScope hbody rfl rfl rfl
    · have henv := Block.env_of_inScope hbody
      rw [CheckState.note_env] at henv
      apply Arms.passes_scopedBlocks rest (k + 1) hrest
      rw [henv]
      exact hb

/-- If the arms of a type switch pass, so does the body of each, as it is entered. -/
theorem LaneArms.passes_scopedBlocks (arms : LaneArms) {place : Place} {binding : Name} {elem : Scalar}
    (k : Nat) {state final : CheckState} {u : Unit}
    (h : arms.check binding.text elem place state = .ok u final) :
    ∀ b ∈ arms.scopedBlocks state.env place.depth binding (.varying elem .universal) k,
      b.Passes place.result := by
  intro b hb
  match arms with
  | .nil => cases hb
  | .default body =>
    rw [List.mem_singleton.1 hb]
    exact Block.passes_of_inScopeWith h rfl rfl rfl
  | .case lanes body rest =>
    obtain ⟨w, middle, hwidth, hbodies⟩ := Check.bind_eq_ok.1 h
    obtain ⟨hw, rfl⟩ := Check.ask_eq_ok.1 hwidth
    obtain ⟨_, middle, hbody, hrest⟩ := Check.bind_eq_ok.1 hbodies
    rcases List.mem_cons.1 hb with rfl | hb
    · rw [LaneType.settled_of_concreteWidth hw]
      exact Block.passes_of_inScopeWith hbody rfl rfl rfl
    · have henv : middle.env = state.env := Block.env_of_inScopeWith hbody
      apply LaneArms.passes_scopedBlocks rest (k + 1) hrest
      rw [henv]
      exact hb

/-- A statement that passes its check has every block pass as it is entered. -/
theorem Stmt.passes_scopedBlocks {s : Stmt} {place : Place} {state final : CheckState} {u : Unit}
    (h : s.check place state = .ok u final) :
    ∀ b ∈ s.scopedBlocks state.env place.depth, b.Passes place.result := by
  intro b hb
  cases s with
  | ifThen span cond thenArm =>
    obtain ⟨t, middle, hcond, hthen⟩ := Check.bind_eq_ok.1 h
    obtain ⟨hinfer, -, -, rfl⟩ := checkCondition_ok hcond
    rw [List.mem_singleton.1 hb]
    exact Block.passes_of_inScope hthen rfl (Place.depth_guardedBy place hinfer) rfl
  | ifElse span cond thenArm elseArm =>
    obtain ⟨t, middle, hcond, harms⟩ := Check.bind_eq_ok.1 h
    obtain ⟨hinfer, -, -, rfl⟩ := checkCondition_ok hcond
    obtain ⟨_, middle, hthen, helse⟩ := Check.bind_eq_ok.1 harms
    have hdepth := Place.depth_guardedBy place hinfer
    have henv := Block.env_of_inScope hthen
    rcases List.mem_cons.1 hb with rfl | hb
    · exact Block.passes_of_inScope hthen rfl hdepth rfl
    · rw [List.mem_singleton.1 hb]
      exact Block.passes_of_inScope helse rfl hdepth henv
  | switch span scrutinee arms =>
    obtain ⟨⟨t, elem⟩, middle, hscrutinee, harms⟩ := Check.bind_eq_ok.1 h
    obtain ⟨hinfer, -, -, rfl⟩ := checkScrutinee_ok hscrutinee
    rw [Stmt.scopedBlocks, ← Place.depth_guardedBy place hinfer] at hb
    exact Arms.passes_scopedBlocks arms 0 harms b hb
  | typeSwitch span binding scrutinee arms =>
    obtain ⟨elem, middle, hscrutinee, harms⟩ := Check.bind_eq_ok.1 h
    obtain ⟨hinfer, rfl⟩ := checkTypeScrutinee_ok hscrutinee
    rw [Stmt.scopedBlocks, Expr.typeIn_of_infer hinfer] at hb
    exact LaneArms.passes_scopedBlocks arms 0 harms b hb
  | forIn span var iterable body =>
    obtain ⟨t, middle, hiterable, hbody⟩ := Check.bind_eq_ok.1 h
    obtain ⟨all, hinfer, rfl, rfl⟩ := checkIterable_ok hiterable
    rw [List.mem_singleton.1 hb, Expr.typeIn_of_infer hinfer]
    exact Block.passes_of_inScopeWith hbody rfl rfl rfl
  | whileLoop span cond body =>
    obtain ⟨t, middle, hcond, hbody⟩ := Check.bind_eq_ok.1 h
    obtain ⟨hinfer, -, -, rfl⟩ := checkCondition_ok hcond
    rw [List.mem_singleton.1 hb]
    exact Block.passes_of_inScope hbody rfl (Place.depth_guardedBy place hinfer) rfl
  | goFor span var range lanes body =>
    obtain ⟨elem, middle, hrange, hrest⟩ := Check.bind_eq_ok.1 h
    obtain ⟨hinfer, -, rfl⟩ := checkGoForRange_ok hrange
    obtain ⟨w, middle, hwidth, hbody⟩ := Check.bind_eq_ok.1 hrest
    obtain ⟨hw, rfl⟩ := Check.ask_eq_ok.1 hwidth
    rw [List.mem_singleton.1 hb, Expr.spread_of_infer hinfer hw]
    exact Block.passes_of_inScopeWith hbody rfl rfl rfl
  | _ => cases hb

/-- Every statement of a block that passes its check passes where it stands. -/
theorem Block.passes_of_check (b : Block) {place : Place} (index : Nat) {state final : CheckState} {u : Unit}
    (h : b.check place state = .ok u final) :
    ∀ x ∈ b.standingsFrom state.env place.depth index, x.Passes place.result := by
  refine Block.of_blocks
    (P := fun b => ∀ (place : Place) (index : Nat) (state final : CheckState),
      b.check place state = .ok () final →
        ∀ x ∈ b.standingsFrom state.env place.depth index, x.Passes place.result)
    (Q := fun s => ∀ (place : Place) (index : Nat) (state final : CheckState),
      s.check place state = .ok () final →
        ∀ x ∈ s.standings state.env place.depth index, x.Passes place.result)
    ?_ ?_ ?_ b place index state final h
  · intro span place index state final _ x hx
    cases hx
  · intro s rest hs hrest place index state final h x hx
    obtain ⟨_, middle, hfirst, hlater⟩ := Check.bind_eq_ok.1 h
    have henv := (Stmt.check_ok s index hfirst).2.env_eq
    rw [Block.standingsFrom, ← henv] at hx
    rcases List.mem_append.1 hx with hx | hx
    · exact hs place index state middle hfirst x hx
    · exact hrest place (index + 1) middle final hlater x hx
  · intro s hblocks place index state final h x hx
    rw [Stmt.standings_eq] at hx
    rcases List.mem_cons.1 hx with rfl | hx
    · exact ⟨place, state, final, rfl, rfl, rfl, h⟩
    · obtain ⟨inner, hinner, hx⟩ := List.mem_flatMap.1 hx
      obtain ⟨y, hy, rfl⟩ := List.mem_map.1 hx
      obtain ⟨place', state', final', hresult, hdepth, henv, hcheck⟩ :=
        Stmt.passes_scopedBlocks h inner hinner
      rw [← hdepth, ← henv] at hy
      rw [← hresult]
      exact hblocks inner.arm inner.block (Stmt.mem_blocks_of_scopedBlocks hinner) place' 0 state' final'
        hcheck y hy

/-- Every statement of a function that passes its check passes where it stands. -/
theorem Function.passes_of_check {f : Function} {env env' : Env} {types : TypeRecord}
    (h : f.check env = (.ok types, env')) :
    ∃ s, env.functions.find? f.name.text = some s ∧ ∀ x ∈ f.standings env, x.Passes s.result := by
  unfold Function.check at h
  split at h
  · cases h
  · rename_i s hs
    refine ⟨s, hs, ?_⟩
    split at h
    · rename_i final hbody
      obtain ⟨_, middle, hparams, hrest⟩ := Check.bind_eq_ok.1 hbody
      have hmiddle := declareParams_ok hparams
      subst hmiddle
      exact Block.passes_of_check f.body 0 hrest
    · cases h

end Lanewise
