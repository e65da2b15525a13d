import Lanewise.Mask.Walk
import Lanewise.Proofs.Sites

/-!
# When the sites of a block clear

A list of sites clears if no action that lanes take together stands under a varying condition or after a
varying continue. The condition is said relative to where the list is entered: with how many varying
conditions around it, and in which state. It splits along the syntax:

* the sites of two statements in sequence clear if those of the first do, and those of the second do in the
  state that the first leaves (`clears_append_of_precedes`);
* the sites of two arms clear if those of each arm do in the same state (`clears_append_of_apart`);
* the sites behind a step clear if they do one step further in, and if the step enters a loop whose body
  taints itself, once more in the tainted state (`clears_map_under`).
-/

set_option autoImplicit false

namespace Lanewise

/-! ### Nesting -/

/-- How many varying conditions enclose a place, and how many of them its innermost loop. -/
structure Nesting where
  depth : Nat
  loopBase : Nat

namespace Nesting

/-- The nesting behind a step. -/
def enter (varying : Expr → Bool) (n : Nesting) (step : Step) : Nesting :=
  { depth := if step.isVarying varying then n.depth + 1 else n.depth
    loopBase := if step.stmt.isLoop then n.depth else n.loopBase }

/-- The nesting at the end of a way. -/
def along (varying : Expr → Bool) (n : Nesting) (path : List Step) : Nesting :=
  path.foldl (enter varying) n

/-- Whether a varying condition encloses the place. -/
def isVarying (n : Nesting) : Bool :=
  0 < n.depth

/-- Whether a varying condition encloses the place, inside the innermost loop. -/
def isVaryingInLoop (n : Nesting) : Bool :=
  n.loopBase < n.depth

/-- The nesting along a way is that of its first step, followed by the rest. -/
@[simp] theorem along_cons (varying : Expr → Bool) (n : Nesting) (step : Step) (path : List Step) :
    n.along varying (step :: path) = (n.enter varying step).along varying path := rfl

end Nesting

/-- The nesting of a flow. -/
def Flow.nesting (flow : Flow) : Nesting :=
  { depth := flow.depth, loopBase := flow.loopBase }

/-! ### Clear sites -/

namespace Stmt

/-- Whether all lanes of the region have to take part in what a statement does: it leaves the function, or
uses a channel. -/
def isCollective (s : Stmt) : Bool :=
  s.isReturn || s.isSend || s.scanned.any Expr.hasRecv

/-- Whether all lanes of the region or of a loop have to take part in what a statement does. -/
def isJoint (s : Stmt) : Bool :=
  s.isCollective || s.isBreak

end Stmt

section Clears

variable (varying : Expr → Bool)

/-- Whether a site is a continue that not all lanes of its loop take, seen from a place. -/
def Site.taintsFrom (n : Nesting) (c : Site) : Bool :=
  c.stmt.isContinue && (n.along varying c.path).isVaryingInLoop

/-- Whether no varying condition keeps lanes from taking the action of a site together. -/
def Site.Together (n : Nesting) (p : Site) : Prop :=
  (p.stmt.isCollective = true → (n.along varying p.path).isVarying = false) ∧
    (p.stmt.isBreak = true → (n.along varying p.path).isVaryingInLoop = false)

/-- Whether every joint action of a list of sites, entered in the given state, is taken by lanes that are
together: under no varying condition and after no varying continue. -/
def Clears (n : Nesting) (state : Alteration) (sites : List Site) : Prop :=
  ∀ p ∈ sites, p.Together varying n ∧
    (p.stmt.isJoint = true →
      state = .clean ∧ ∀ c ∈ sites, c.taintsFrom varying n = true → ¬ c.Precedes p)

/-- The state after a list of sites. -/
def exitState (n : Nesting) (state : Alteration) (sites : List Site) : Alteration :=
  if sites.any (Site.taintsFrom varying n) then .tainted else state

end Clears

variable {varying : Expr → Bool} {n : Nesting} {state : Alteration} {A B X : List Site}

/-! ### States -/

/-- Where nothing stands, nothing is altered. -/
@[simp] theorem exitState_nil : exitState varying n state [] = state := rfl

/-- The state after two lists of sites is that after the second one, entered as the first one leaves it. -/
theorem exitState_append :
    exitState varying n state (A ++ B) = exitState varying n (exitState varying n state A) B := by
  unfold exitState
  rw [List.any_append]
  cases A.any (Site.taintsFrom varying n) <;> cases B.any (Site.taintsFrom varying n) <;> rfl

/-- Two lists of sites that are entered in one state and joined after leave what the two together leave. -/
theorem join_exitState :
    (exitState varying n state A).join (exitState varying n state B) =
      exitState varying n state (A ++ B) := by
  unfold exitState
  rw [List.any_append]
  cases A.any (Site.taintsFrom varying n) <;> cases B.any (Site.taintsFrom varying n) <;>
    cases state <;> rfl

/-- What is left after some sites holds also of the lanes that pass them by. -/
theorem exitState_join :
    (exitState varying n state A).join state = exitState varying n state A := by
  have h : (exitState varying n state A).join (exitState varying n state []) =
      exitState varying n state (A ++ []) := join_exitState
  rwa [exitState_nil, List.append_nil] at h

/-- Sites below a step taint as they do from inside that step. -/
theorem any_taintsFrom_map_under (step : Step) :
    (X.map (.under step)).any (Site.taintsFrom varying n) =
      X.any (Site.taintsFrom varying (n.enter varying step)) := by
  rw [List.any_map]
  rfl

/-- The state after sites below a step is the one that they leave from inside that step. -/
theorem exitState_map_under (step : Step) :
    exitState varying n state (X.map (.under step)) =
      exitState varying (n.enter varying step) state X := by
  unfold exitState
  rw [any_taintsFrom_map_under]

/-! ### Clearing, part by part -/

/-- An empty list of sites clears. -/
@[simp] theorem clears_nil : Clears varying n state [] ↔ True := by
  simp [Clears]

/-- Some of a list of sites that clears clear by themselves. -/
theorem Clears.mono (h : Clears varying n state B) (hsub : ∀ p ∈ A, p ∈ B) :
    Clears varying n state A := by
  intro p hp
  obtain ⟨htogether, hjoint⟩ := h p (hsub p hp)
  exact ⟨htogether, fun hj => ⟨(hjoint hj).1, fun c hc => (hjoint hj).2 c (hsub c hc)⟩⟩

/-- Sites that do not precede each other clear if they clear apart. -/
theorem clears_append_of_apart
    (hAB : ∀ a ∈ A, ∀ b ∈ B, ¬ a.Precedes b ∧ ¬ b.Precedes a) :
    Clears varying n state (A ++ B) ↔ Clears varying n state A ∧ Clears varying n state B := by
  constructor
  · intro h
    exact ⟨h.mono fun p => List.mem_append_left B, h.mono fun p => List.mem_append_right A⟩
  · rintro ⟨hA, hB⟩ p hp
    rcases List.mem_append.1 hp with hp | hp
    · obtain ⟨htogether, hjoint⟩ := hA p hp
      refine ⟨htogether, fun hj => ⟨(hjoint hj).1, fun c hc htaints => ?_⟩⟩
      rcases List.mem_append.1 hc with hc | hc
      · exact (hjoint hj).2 c hc htaints
      · exact (hAB p hp c hc).2
    · obtain ⟨htogether, hjoint⟩ := hB p hp
      refine ⟨htogether, fun hj => ⟨(hjoint hj).1, fun c hc htaints => ?_⟩⟩
      rcases List.mem_append.1 hc with hc | hc
      · exact (hAB c hc p hp).1
      · exact (hjoint hj).2 c hc htaints

/-- A list of sites is left clean exactly if it is entered so and no varying continue is among them. -/
theorem exitState_eq_clean :
    exitState varying n state A = .clean ↔
      state = .clean ∧ ∀ c ∈ A, ¬ c.taintsFrom varying n = true := by
  unfold exitState
  by_cases h : A.any (Site.taintsFrom varying n) = true
  · rw [if_pos h]
    obtain ⟨c, hc, htaints⟩ := List.any_eq_true.1 h
    constructor
    · intro hstate
      cases hstate
    · intro hclean
      exact absurd htaints (hclean.2 c hc)
  · rw [if_neg h]
    rw [List.any_eq_true] at h
    exact ⟨fun hstate => ⟨hstate, fun c hc htaints => h ⟨c, hc, htaints⟩⟩, And.left⟩

/-- Sites all of which precede others clear if they do, and the others do in the state that they leave. -/
theorem clears_append_of_precedes
    (hAB : ∀ a ∈ A, ∀ b ∈ B, a.Precedes b ∧ ¬ b.Precedes a) :
    Clears varying n state (A ++ B) ↔
      Clears varying n state A ∧ Clears varying n (exitState varying n state A) B := by
  constructor
  · intro h
    refine ⟨h.mono fun p => List.mem_append_left B, fun p hp => ?_⟩
    obtain ⟨htogether, hjoint⟩ := h p (List.mem_append_right A hp)
    refine ⟨htogether, fun hj => ⟨?_, fun c hc => ?_⟩⟩
    · -- a tainting site of the first part would precede the joint action
      refine exitState_eq_clean.2 ⟨(hjoint hj).1, fun c hc htaints => ?_⟩
      exact (hjoint hj).2 c (List.mem_append_left B hc) htaints (hAB c hc p hp).1
    · exact (hjoint hj).2 c (List.mem_append_right A hc)
  · rintro ⟨hA, hB⟩ p hp
    rcases List.mem_append.1 hp with hp | hp
    · obtain ⟨htogether, hjoint⟩ := hA p hp
      refine ⟨htogether, fun hj => ⟨(hjoint hj).1, fun c hc htaints => ?_⟩⟩
      rcases List.mem_append.1 hc with hc | hc
      · exact (hjoint hj).2 c hc htaints
      · exact (hAB p hp c hc).2
    · obtain ⟨htogether, hjoint⟩ := hB p hp
      refine ⟨htogether, fun hj => ?_⟩
      obtain ⟨hstate, hnone⟩ := exitState_eq_clean.1 (hjoint hj).1
      refine ⟨hstate, fun c hc htaints => ?_⟩
      rcases List.mem_append.1 hc with hc | hc
      · exact absurd htaints (hnone c hc)
      · exact (hjoint hj).2 c hc htaints

/-- Two sites behind the same step precede each other if the step enters a loop, or if they do inside. -/
theorem Site.precedes_under_iff {step : Step} {c p : Site} :
    (c.under step).Precedes (p.under step) ↔ step.stmt.isLoop = true ∨ c.Precedes p := by
  rw [Site.precedes_iff]
  constructor
  · rintro (h | ⟨step', c', p', hc, hp, h⟩)
    · simp at h
    · have hstep : step = step' := by
        have := congrArg Site.path hc
        simp only [Site.under_path, List.cons.injEq] at this
        exact this.1
      subst hstep
      rw [Site.under_inj.1 hc, Site.under_inj.1 hp]
      exact h
  · intro h
    exact Or.inr ⟨step, c, p, rfl, rfl, h⟩

/-- The sites behind a step clear if they clear inside, and, if the step enters a loop that taints itself,
also in the tainted state. -/
theorem clears_map_under (step : Step) :
    Clears varying n state (X.map (.under step)) ↔
      Clears varying (n.enter varying step) state X ∧
        (step.stmt.isLoop = true → exitState varying (n.enter varying step) .clean X = .tainted →
          Clears varying (n.enter varying step) .tainted X) := by
  constructor
  · intro h
    constructor
    · intro p hp
      obtain ⟨htogether, hjoint⟩ := h (p.under step) (List.mem_map_of_mem hp)
      refine ⟨htogether, fun hj => ⟨(hjoint hj).1, fun c hc htaints hprec => ?_⟩⟩
      exact (hjoint hj).2 (c.under step) (List.mem_map_of_mem hc) htaints
        (Site.precedes_under_iff.2 (Or.inr hprec))
    · intro hloop htainted p hp
      obtain ⟨htogether, hjoint⟩ := h (p.under step) (List.mem_map_of_mem hp)
      refine ⟨htogether, fun hj => ?_⟩
      -- in a loop, the site that taints the body precedes every action of it
      exfalso
      have hclean : exitState varying (n.enter varying step) .clean X = .clean := by
        refine exitState_eq_clean.2 ⟨rfl, fun c hc htaints => ?_⟩
        exact (hjoint hj).2 (c.under step) (List.mem_map_of_mem hc) htaints
          (Site.precedes_under_iff.2 (Or.inl hloop))
      rw [hclean] at htainted
      cases htainted
  · rintro ⟨hX, hloop⟩ p hp
    obtain ⟨p, hpX, rfl⟩ := List.mem_map.1 hp
    obtain ⟨htogether, hjoint⟩ := hX p hpX
    refine ⟨htogether, fun hj => ⟨(hjoint hj).1, fun c hc htaints hprec => ?_⟩⟩
    obtain ⟨c, hcX, rfl⟩ := List.mem_map.1 hc
    rcases Site.precedes_under_iff.1 hprec with hl | hprec
    · have htainted : exitState varying (n.enter varying step) .clean X = .tainted := by
        rw [exitState, if_pos (List.any_eq_true.2 ⟨c, hcX, htaints⟩)]
      cases ((hloop hl htainted p hpX).2 hj).1
    · exact (hjoint hj).2 c hcX htaints hprec

/-! ### Which sites precede each other -/

/-- A site of an earlier statement of a block precedes those of the later ones. -/
theorem Site.precedes_of_top_lt {c p : Site} (h : c.top < p.top) : c.Precedes p :=
  Site.precedes_iff.2 (Or.inl h)

/-- Nothing precedes a site of an earlier statement of the same block. -/
theorem Site.not_precedes_of_top_lt {c p : Site} (h : p.top < c.top) : ¬ c.Precedes p := by
  rw [Site.precedes_iff]
  rintro (hlt | ⟨step, c', p', rfl, rfl, -⟩)
  · omega
  · simp at h

/-- A statement and what lies inside it do not precede each other. -/
theorem Site.not_precedes_here {index : Nat} {s : Stmt} {p : Site} (hp : p.top = index) :
    ¬ (Site.mk [] index s).Precedes p ∧ ¬ p.Precedes (Site.mk [] index s) := by
  rw [Site.precedes_iff, Site.precedes_iff]
  constructor
  · rintro (hlt | ⟨step, c', p', hc, -⟩)
    · simp [hp] at hlt
    · have := congrArg Site.path hc
      simp at this
  · rintro (hlt | ⟨step, c', p', -, hp', -⟩)
    · simp [hp] at hlt
    · have := congrArg Site.path hp'
      simp at this

/-- Sites of different blocks of one statement do not precede each other. -/
theorem Site.not_precedes_of_arm_ne {index : Nat} {s : Stmt} {arm arm' : Arm} (h : arm ≠ arm')
    (c p : Site) : ¬ (c.under ⟨index, s, arm⟩).Precedes (p.under ⟨index, s, arm'⟩) := by
  rw [Site.precedes_iff]
  rintro (hlt | ⟨step, c', p', hc, hp, -⟩)
  · simp at hlt
  · have hc := congrArg Site.path hc
    have hp := congrArg Site.path hp
    simp only [Site.under_path, List.cons.injEq] at hc hp
    rw [← hp.1] at hc
    simp only [Step.mk.injEq] at hc
    exact h hc.1.2.2

/-- The sites of one block of a statement are apart from those of its other blocks. -/
theorem Site.apart_of_arms {index : Nat} {s : Stmt} {arm : Arm}
    (hB : ∀ b ∈ B, ∃ (arm' : Arm) (q : Site), b = q.under ⟨index, s, arm'⟩ ∧ arm' ≠ arm) :
    ∀ a ∈ X.map (.under ⟨index, s, arm⟩), ∀ b ∈ B, ¬ a.Precedes b ∧ ¬ b.Precedes a := by
  intro a ha b hb
  obtain ⟨p, -, rfl⟩ := List.mem_map.1 ha
  obtain ⟨arm', q, rfl, hne⟩ := hB b hb
  exact ⟨Site.not_precedes_of_arm_ne hne.symm p q, Site.not_precedes_of_arm_ne hne q p⟩

/-- The number of an arm of a switch. -/
def Arm.number : Arm → Nat
  | case index => index
  | default cases => cases
  | lanes index => index
  | _ => 0

/-- Arms of a switch that are counted from a number have at least that number. -/
theorem Arms.number_of_mem_blocks {arm : Arm} {b : Block} :
    ∀ {k : Nat} {arms : Arms}, (arm, b) ∈ arms.blocks k → k ≤ arm.number
  | _, .nil, h => by simp [Arms.blocks] at h
  | k, .default body, h => by
    simp only [Arms.blocks, List.mem_singleton, Prod.mk.injEq] at h
    rw [h.1]
    exact Nat.le_refl k
  | k, .case _ body rest, h => by
    simp only [Arms.blocks, List.mem_cons, Prod.mk.injEq] at h
    rcases h with ⟨rfl, -⟩ | h
    · exact Nat.le_refl k
    · exact Nat.le_of_succ_le (Arms.number_of_mem_blocks h)

/-- Arms of a type switch that are counted from a number have at least that number. -/
theorem LaneArms.number_of_mem_blocks {arm : Arm} {b : Block} :
    ∀ {k : Nat} {arms : LaneArms}, (arm, b) ∈ arms.blocks k → k ≤ arm.number
  | _, .nil, h => by simp [LaneArms.blocks] at h
  | k, .default body, h => by
    simp only [LaneArms.blocks, List.mem_singleton, Prod.mk.injEq] at h
    rw [h.1]
    exact Nat.le_refl k
  | k, .case _ body rest, h => by
    simp only [LaneArms.blocks, List.mem_cons, Prod.mk.injEq] at h
    rcases h with ⟨rfl, -⟩ | h
    · exact Nat.le_refl k
    · exact Nat.le_of_succ_le (LaneArms.number_of_mem_blocks h)

/-- The sites of later arms lie behind other steps than those of an arm before them. -/
theorem later_arms {index k : Nat} {s : Stmt} {arm : Arm} {blocks : List (Arm × Block)}
    (harm : arm.number = k) (hblocks : ∀ arm' b, (arm', b) ∈ blocks → k + 1 ≤ arm'.number) :
    ∀ p ∈ blocks.flatMap (Block.sitesBehind index s),
      ∃ (arm' : Arm) (q : Site), p = q.under ⟨index, s, arm'⟩ ∧ arm' ≠ arm := by
  intro p hp
  obtain ⟨⟨arm', b⟩, hb, hp⟩ := List.mem_flatMap.1 hp
  obtain ⟨q, -, rfl⟩ := List.mem_map.1 hp
  refine ⟨arm', q, rfl, ?_⟩
  rintro rfl
  have := hblocks arm' b hb
  omega

/-- The sites of a statement lie in it. -/
theorem Stmt.top_of_mem_sites {index : Nat} {s : Stmt} {p : Site} (hp : p ∈ s.sites index) :
    p.top = index := by
  rcases Stmt.mem_sites.1 hp with rfl | ⟨arm, b, -, q, -, rfl⟩
  · rfl
  · rfl

/-- The sites of the rest of a block lie in its statements. -/
theorem Block.le_top_of_mem_sitesFrom {p : Site} :
    ∀ {index : Nat} {b : Block}, p ∈ b.sitesFrom index → index ≤ p.top
  | _, .nil _, hp => by simp [Block.sitesFrom] at hp
  | index, .cons first rest, hp => by
    rcases List.mem_append.1 hp with hp | hp
    · exact Nat.le_of_eq (Stmt.top_of_mem_sites hp).symm
    · exact Nat.le_of_succ_le (Block.le_top_of_mem_sitesFrom hp)

/-- The sites of a block clear exactly if those of its first statement do, and the others do after it. -/
theorem Block.clears_cons (index : Nat) (first : Stmt) (rest : Block) :
    Clears varying n state (first.sites index ++ rest.sitesFrom (index + 1)) ↔
      Clears varying n state (first.sites index) ∧
        Clears varying n (exitState varying n state (first.sites index))
          (rest.sitesFrom (index + 1)) := by
  apply clears_append_of_precedes
  intro a ha b hb
  have htop := Stmt.top_of_mem_sites ha
  have hle := Block.le_top_of_mem_sitesFrom hb
  exact ⟨Site.precedes_of_top_lt (by omega), Site.not_precedes_of_top_lt (by omega)⟩

/-- What a statement demands where it stands, apart from what lies inside it. -/
def Stmt.StandsTogether (s : Stmt) (n : Nesting) (state : Alteration) : Prop :=
  (s.isCollective = true → n.isVarying = false ∧ state = .clean) ∧
    (s.isBreak = true → n.isVaryingInLoop = false ∧ state = .clean)

/-- The sites of a statement clear exactly if it stands where it may, and the sites inside it clear. -/
theorem clears_here (index : Nat) (s : Stmt) (hX : ∀ p ∈ X, p.top = index) :
    Clears varying n state (⟨[], index, s⟩ :: X) ↔
      s.StandsTogether n state ∧ Clears varying n state X := by
  rw [← List.singleton_append, clears_append_of_apart]
  · apply and_congr_left
    intro _
    simp only [Clears, List.mem_singleton, forall_eq, Site.Together, Stmt.StandsTogether, Stmt.isJoint,
      Bool.or_eq_true]
    have hself : ¬ (Site.mk [] index s).Precedes ⟨[], index, s⟩ :=
      (Site.not_precedes_here (Site.top_mk_nil index s)).1
    constructor
    · rintro ⟨⟨hall, hloop⟩, hjoint⟩
      exact ⟨fun h => ⟨hall h, (hjoint (Or.inl h)).1⟩, fun h => ⟨hloop h, (hjoint (Or.inr h)).1⟩⟩
    · rintro ⟨hall, hloop⟩
      refine ⟨⟨fun h => (hall h).1, fun h => (hloop h).1⟩, fun h => ⟨?_, fun _ => hself⟩⟩
      rcases h with h | h
      · exact (hall h).2
      · exact (hloop h).2
  · intro a ha b hb
    rw [List.mem_singleton] at ha
    subst ha
    exact Site.not_precedes_here (hX b hb)

/-- A statement that is no continue does not alter the state by itself. -/
theorem exitState_here (index : Nat) {s : Stmt} (hs : s.isContinue = false) :
    exitState varying n state (⟨[], index, s⟩ :: X) = exitState varying n state X := by
  unfold exitState
  simp [Site.taintsFrom, hs]

end Lanewise
