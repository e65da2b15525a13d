import Lanewise.Proofs.Scopes

/-!
# Invariants of the environment in force

What is true of the environment at the start of a body, is kept by every statement for those that follow it,
and is kept by every statement for the blocks inside it, is true at every statement of the body
(`Block.standings_induction`). The rules for the blocks are put together in `Stmt.scopedBlocks`, which lists each
block of a statement with the environment that it is entered with.
-/

set_option autoImplicit false

namespace Lanewise

/-- A block of a statement, with the environment and the number of varying conditions that it is entered
with. -/
structure ScopedBlock where
  arm : Arm
  block : Block
  env : Env
  depth : Nat

/-- The blocks of the arms of a switch, the first of which is number `k`. -/
def Arms.scopedBlocks (env : Env) (depth k : Nat) : Arms → List ScopedBlock
  | .nil => []
  | .default body => [⟨.default k, body, env.push, depth⟩]
  | .case _ body rest => ⟨.case k, body, env.push, depth⟩ :: rest.scopedBlocks env depth (k + 1)

/-- The blocks of the arms of a type switch on lanes of type `t`, the first of which is number `k`. -/
def LaneArms.scopedBlocks (env : Env) (depth : Nat) (binding : Name) (t : LaneType) (k : Nat) :
    LaneArms → List ScopedBlock
  | .nil => []
  | .default body => [⟨.lanes k, body, env.pushWith binding t depth, depth⟩]
  | .case lanes body rest =>
    ⟨.lanes k, body, env.pushWith binding (t.settled env lanes) depth, depth⟩ ::
      rest.scopedBlocks env depth binding t (k + 1)

/-- The blocks of a statement, as they are entered. -/
def Stmt.scopedBlocks (env : Env) (depth : Nat) : Stmt → List ScopedBlock
  | .ifThen _ cond thenArm => [⟨.thenArm, thenArm, env.push, cond.guardedDepth env depth⟩]
  | .ifElse _ cond thenArm elseArm =>
    [⟨.thenArm, thenArm, env.push, cond.guardedDepth env depth⟩,
      ⟨.elseArm, elseArm, env.push, cond.guardedDepth env depth⟩]
  | .switch _ scrutinee arms => arms.scopedBlocks env (scrutinee.guardedDepth env depth) 0
  | .typeSwitch _ binding scrutinee arms =>
    arms.scopedBlocks env depth binding (scrutinee.typeIn env) 0
  | .forIn _ var iterable body =>
    [⟨.body, body, env.pushWith var (iterable.typeIn env).item depth, depth⟩]
  | .whileLoop _ cond body => [⟨.body, body, env.push, cond.guardedDepth env depth⟩]
  | .goFor _ var range lanes body =>
    [⟨.body, body, env.pushWith var ((range.typeIn env).spread env lanes) depth, depth⟩]
  | _ => []

namespace ScopedBlock

/-- The statements of a block, seen from the block around the statement `s` that it belongs to. -/
def standings (index : Nat) (s : Stmt) (b : ScopedBlock) : List Standing :=
  (b.block.standingsFrom b.env b.depth 0).map (.under ⟨index, s, b.arm⟩)

end ScopedBlock

/-- The statements in the arms of a switch are those of its blocks, as they are entered. -/
theorem Arms.standings_eq (env : Env) (depth index : Nat) (s : Stmt) : ∀ (k : Nat) (arms : Arms),
    arms.standings env depth index s k =
      (arms.scopedBlocks env depth k).flatMap (ScopedBlock.standings index s)
  | _, .nil => rfl
  | _, .default _ => by
    rw [Arms.standings, Arms.scopedBlocks, List.flatMap_singleton]
    rfl
  | k, .case _ _ rest => by
    rw [Arms.standings, Arms.scopedBlocks, List.flatMap_cons, Arms.standings_eq env depth index s (k + 1) rest]
    rfl

/-- The statements in the arms of a type switch are those of its blocks, as they are entered. -/
theorem LaneArms.standings_eq (env : Env) (depth index : Nat) (s : Stmt) (binding : Name) (t : LaneType) :
    ∀ (k : Nat) (arms : LaneArms), arms.standings env depth index s binding t k =
      (arms.scopedBlocks env depth binding t k).flatMap (ScopedBlock.standings index s)
  | _, .nil => rfl
  | _, .default _ => by
    rw [LaneArms.standings, LaneArms.scopedBlocks, List.flatMap_singleton]
    rfl
  | k, .case _ _ rest => by
    rw [LaneArms.standings, LaneArms.scopedBlocks, List.flatMap_cons,
      LaneArms.standings_eq env depth index s binding t (k + 1) rest]
    rfl

/-- The statements of a statement are itself and those of its blocks. -/
theorem Stmt.standings_eq (env : Env) (depth index : Nat) (s : Stmt) :
    s.standings env depth index =
      ⟨⟨[], index, s⟩, env, depth⟩ :: (s.scopedBlocks env depth).flatMap (ScopedBlock.standings index s) := by
  cases s with
  | switch _ scrutinee arms => rw [Stmt.standings, Stmt.scopedBlocks, Arms.standings_eq]
  | typeSwitch _ binding scrutinee arms => rw [Stmt.standings, Stmt.scopedBlocks, LaneArms.standings_eq]
  | _ => simp [Stmt.standings, Stmt.scopedBlocks, ScopedBlock.standings]

/-- A statement is one of those that stand in it. -/
theorem Stmt.mem_standings_self (env : Env) (depth index : Nat) (s : Stmt) :
    ⟨⟨[], index, s⟩, env, depth⟩ ∈ s.standings env depth index := by
  rw [Stmt.standings_eq]
  exact List.mem_cons_self

/-- A block of a switch, as it is entered, is one of its blocks. -/
theorem Arms.mem_blocks_of_scopedBlocks {env : Env} {depth : Nat} {b : ScopedBlock} :
    ∀ {k : Nat} {arms : Arms}, b ∈ arms.scopedBlocks env depth k → (b.arm, b.block) ∈ arms.blocks k
  | _, .default _, h => by
    rw [List.mem_singleton.1 h]
    exact List.mem_singleton_self _
  | _, .case _ _ rest, h => by
    rcases List.mem_cons.1 h with rfl | h
    · exact List.mem_cons_self
    · exact List.mem_cons_of_mem _ (Arms.mem_blocks_of_scopedBlocks h)

/-- A block of a type switch, as it is entered, is one of its blocks. -/
theorem LaneArms.mem_blocks_of_scopedBlocks {env : Env} {depth : Nat} {binding : Name} {t : LaneType}
    {b : ScopedBlock} : ∀ {k : Nat} {arms : LaneArms}, b ∈ arms.scopedBlocks env depth binding t k →
      (b.arm, b.block) ∈ arms.blocks k
  | _, .default _, h => by
    rw [List.mem_singleton.1 h]
    exact List.mem_singleton_self _
  | _, .case _ _ rest, h => by
    rcases List.mem_cons.1 h with rfl | h
    · exact List.mem_cons_self
    · exact List.mem_cons_of_mem _ (LaneArms.mem_blocks_of_scopedBlocks h)

/-- A block of a statement, as it is entered, is one of its blocks. -/
theorem Stmt.mem_blocks_of_scopedBlocks {env : Env} {depth : Nat} {s : Stmt} {b : ScopedBlock}
    (h : b ∈ s.scopedBlocks env depth) : (b.arm, b.block) ∈ s.blocks := by
  cases s with
  | switch => exact Arms.mem_blocks_of_scopedBlocks h
  | typeSwitch => exact LaneArms.mem_blocks_of_scopedBlocks h
  | ifElse =>
    rcases List.mem_cons.1 h with rfl | h
    · exact List.mem_cons_self
    · rw [List.mem_singleton.1 h]
      exact List.mem_cons_of_mem _ List.mem_cons_self
  | ifThen | forIn | whileLoop | goFor =>
    rw [List.mem_singleton.1 h]
    exact List.mem_singleton_self _
  | _ => cases h

section Induction

variable {I : Env → Prop} {P : Stmt → Env → Prop}

/-- What is true of an environment, is kept after every statement for which `P` holds and by its blocks, is true
at every statement of a block, if `P` holds of all its statements where they stand. -/
theorem Block.standings_induction
    (after : ∀ (s : Stmt) (env : Env) (depth : Nat), I env → P s env → I (s.envAfter env depth))
    (entered : ∀ (s : Stmt) (env : Env) (depth : Nat), I env → P s env →
      ∀ b ∈ s.scopedBlocks env depth, I b.env)
    (b : Block) (env : Env) (depth index : Nat) (hstart : I env)
    (hall : ∀ x ∈ b.standingsFrom env depth index, P x.site.stmt x.env) :
    ∀ x ∈ b.standingsFrom env depth index, I x.env := by
  refine Block.of_blocks
    (P := fun b => ∀ env depth index, I env →
      (∀ x ∈ b.standingsFrom env depth index, P x.site.stmt x.env) →
        ∀ x ∈ b.standingsFrom env depth index, I x.env)
    (Q := fun s => ∀ env depth index, I env →
      (∀ x ∈ s.standings env depth index, P x.site.stmt x.env) →
        ∀ x ∈ s.standings env depth index, I x.env)
    ?_ ?_ ?_ b env depth index hstart hall
  · intro span env depth index _ _ x hx
    cases hx
  · intro s rest hs hrest env depth index hI hP x hx
    rw [Block.standingsFrom] at hP hx
    have hhere : P s env := hP ⟨⟨[], index, s⟩, env, depth⟩
      (List.mem_append_left _ (Stmt.mem_standings_self ..))
    rcases List.mem_append.1 hx with hx | hx
    · exact hs env depth index hI (fun y hy => hP y (List.mem_append_left _ hy)) x hx
    · exact hrest _ depth (index + 1) (after s env depth hI hhere)
        (fun y hy => hP y (List.mem_append_right _ hy)) x hx
  · intro s hblocks env depth index hI hP x hx
    rw [Stmt.standings_eq] at hP hx
    have hhere : P s env := hP ⟨⟨[], index, s⟩, env, depth⟩ List.mem_cons_self
    rcases List.mem_cons.1 hx with rfl | hx
    · exact hI
    · obtain ⟨inner, hinner, hx⟩ := List.mem_flatMap.1 hx
      obtain ⟨y, hy, rfl⟩ := List.mem_map.1 hx
      refine hblocks inner.arm inner.block (Stmt.mem_blocks_of_scopedBlocks hinner) inner.env inner.depth 0
        (entered s env depth hI hhere inner hinner) ?_ y hy
      intro z hz
      have hlisted : z.under ⟨index, s, inner.arm⟩ ∈ inner.standings index s := List.mem_map_of_mem hz
      have hfound := List.mem_flatMap.2 ⟨inner, hinner, hlisted⟩
      exact hP (z.under ⟨index, s, inner.arm⟩) (List.mem_cons_of_mem _ hfound)

end Induction

end Lanewise
