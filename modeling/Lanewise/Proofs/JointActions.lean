import Lanewise.Proofs.Scopes
import Lanewise.Proofs.WalkOutcome
import Lanewise.Syntax.Builder

/-!
# Which exits and channel operations a region may contain

All lanes of a region have to return, send and receive together, and all lanes of a loop have to break
together. The walk decides this with two counters and a state that it carries along; the law that it decides
speaks of sites only. A return, a send or a receive may stand under no varying condition, a break under none
inside its loop, and no continue that some lanes of a loop take without the others may come before any of
them.
-/

set_option autoImplicit false

namespace Lanewise

/-- Whether no continue that some lanes of a loop take without the others comes before a site. -/
def Site.Untainted (varying : Expr → Bool) (sites : List Site) (p : Site) : Prop :=
  ∀ c ∈ sites, c.taints varying = true → ¬ c.Precedes p

/-- Whether lanes do together what they have to: return, send and receive under no varying condition, break
under none inside the loop, and all of it before any of them has left a round without the others. -/
def LanesActTogether (varying : Expr → Bool) (sites : List Site) : Prop :=
  ∀ p ∈ sites,
    (p.stmt.isReturn = true ∨ p.stmt.isSend = true ∨ p.stmt.receives = true →
      p.varyingDepth varying = 0 ∧ p.Untainted varying sites) ∧
    (p.stmt.isBreak = true → p.loopDepth varying = 0 ∧ p.Untainted varying sites)

/-! ### The counters of the walk -/

namespace Nesting

variable (varying : Expr → Bool)

/-- Along a way the depth grows by one for each varying condition on it. -/
theorem depth_along (n : Nesting) (path : List Step) :
    (n.along varying path).depth = n.depth + path.countP (Step.isVarying varying) := by
  induction path generalizing n with
  | nil => rfl
  | cons step inner ih =>
    rw [along_cons, ih, List.countP_cons]
    simp only [enter]
    split <;> omega

/-- No step puts the loop base above the depth. -/
theorem loopBase_le_depth_enter {n : Nesting} (h : n.loopBase ≤ n.depth) (step : Step) :
    (n.enter varying step).loopBase ≤ (n.enter varying step).depth := by
  simp only [enter]
  split <;> split <;> omega

/-- What the depth exceeds the loop base by is the number of varying conditions since the innermost loop. -/
theorem depth_along_eq {n : Nesting} (h : n.loopBase ≤ n.depth) (path : List Step) :
    (n.along varying path).depth =
      (n.along varying path).loopBase +
        if path.any (·.stmt.isLoop) then (Site.sinceLoop path).countP (Step.isVarying varying)
        else n.depth - n.loopBase + path.countP (Step.isVarying varying) := by
  induction path generalizing n with
  | nil =>
    show n.depth = n.loopBase + (n.depth - n.loopBase + 0)
    omega
  | cons step inner ih =>
    rw [along_cons, ih (loopBase_le_depth_enter varying h step), List.any_cons]
    congr 1
    cases hinner : inner.any (·.stmt.isLoop) with
    | true => simp [Site.sinceLoop, hinner]
    | false =>
      -- the step itself is the innermost loop, or there is none
      simp only [Site.sinceLoop, hinner, Bool.or_false, Bool.false_eq_true, if_false, enter,
        List.countP_cons]
      cases step.stmt.isLoop <;> cases step.isVarying varying <;>
        simp only [Bool.false_eq_true, if_false, if_true] <;> omega

end Nesting

section Law

variable {varying : Expr → Bool}

/-- At the entry of a region, the depth counts the varying conditions around a site. -/
theorem Site.isVarying_along (p : Site) :
    ((⟨0, 0⟩ : Nesting).along varying p.path).isVarying = decide (0 < p.varyingDepth varying) := by
  rw [Nesting.isVarying, Nesting.depth_along]
  simp [Site.varyingDepth]

/-- At the entry of a region, the depth exceeds the loop base by the varying conditions inside the innermost
loop of a site. -/
theorem Site.isVaryingInLoop_along (p : Site) :
    ((⟨0, 0⟩ : Nesting).along varying p.path).isVaryingInLoop = decide (0 < p.loopDepth varying) := by
  have hdepth := Nesting.depth_along_eq varying (n := ⟨0, 0⟩) (Nat.le_refl 0) p.path
  have hloop : (if p.path.any (·.stmt.isLoop) then
        (Site.sinceLoop p.path).countP (Step.isVarying varying)
      else 0 - 0 + p.path.countP (Step.isVarying varying)) = p.loopDepth varying := by
    split
    · rfl
    · rename_i hnone
      rw [Site.loopDepth, Site.sinceLoop_of_no_loop hnone]
      omega
  rw [hloop] at hdepth
  rw [Nesting.isVaryingInLoop, hdepth]
  simp

/-- Seen from the entry of a region, a continue taints if it is under a varying condition inside its loop. -/
theorem Site.taintsFrom_entry (c : Site) : c.taintsFrom varying ⟨0, 0⟩ = c.taints varying := by
  rw [Site.taintsFrom, Site.isVaryingInLoop_along, Site.taints]

/-- A site is untainted exactly if no continue that taints, seen from the entry, precedes it. -/
theorem Site.untainted_iff {sites : List Site} {p : Site} :
    p.Untainted varying sites ↔
      ∀ c ∈ sites, c.taintsFrom varying ⟨0, 0⟩ = true → ¬ c.Precedes p := by
  simp only [Site.Untainted, Site.taintsFrom_entry]

/-- If every receive of the sites of a region is one that the walk looks at, the sites clear exactly if lanes
act together. -/
theorem clears_entry_iff {sites : List Site}
    (hscanned : ∀ p ∈ sites, p.stmt.scanned.any Expr.hasRecv = p.stmt.receives) :
    Clears varying ⟨0, 0⟩ .clean sites ↔ LanesActTogether varying sites := by
  apply forall₂_congr
  intro p hp
  have hcollective : p.stmt.isCollective = true ↔
      p.stmt.isReturn = true ∨ p.stmt.isSend = true ∨ p.stmt.receives = true := by
    rw [Stmt.isCollective, hscanned p hp]
    simp only [Bool.or_eq_true, or_assoc]
  simp only [Site.Together, Site.isVarying_along, Site.isVaryingInLoop_along,
    decide_eq_false_iff_not, Nat.not_lt, Nat.le_zero, Stmt.isJoint, Bool.or_eq_true, true_and,
    hcollective, ← Site.untainted_iff]
  constructor
  · rintro ⟨⟨hall, hloop⟩, hbefore⟩
    exact ⟨fun h => ⟨hall h, hbefore (Or.inl h)⟩, fun h => ⟨hloop h, hbefore (Or.inr h)⟩⟩
  · rintro ⟨hall, hloop⟩
    refine ⟨⟨fun h => (hall h).1, fun h => (hloop h).1⟩, ?_⟩
    rintro (h | h)
    · exact (hall h).2
    · exact (hloop h).2

end Law

/-! ### Conditions by record and by type -/

section Agreement

variable {v w : Expr → Bool} {p : Site}

/-- Two readings that agree on the conditions of a way count as many of them as varying. -/
theorem Site.countP_congr {path : List Step} (h : ∀ step ∈ path, step.isVarying v = step.isVarying w) :
    path.countP (Step.isVarying v) = path.countP (Step.isVarying w) :=
  List.countP_congr fun step hstep => by rw [h step hstep]

/-- The steps since the innermost loop are steps of the way. -/
theorem Site.sinceLoop_subset (path : List Step) : ∀ step ∈ Site.sinceLoop path, step ∈ path := by
  induction path with
  | nil => exact fun _ h => h
  | cons first inner ih =>
    intro step hstep
    rw [Site.sinceLoop] at hstep
    split at hstep
    · exact List.mem_cons_of_mem _ (ih step hstep)
    · exact hstep

/-- Two readings that agree on the conditions around a site give it the same depth. -/
theorem Site.varyingDepth_congr (h : ∀ step ∈ p.path, step.isVarying v = step.isVarying w) :
    p.varyingDepth v = p.varyingDepth w :=
  Site.countP_congr h

/-- Two readings that agree on the conditions around a site give it the same depth in its innermost loop. -/
theorem Site.loopDepth_congr (h : ∀ step ∈ p.path, step.isVarying v = step.isVarying w) :
    p.loopDepth v = p.loopDepth w :=
  Site.countP_congr fun step hstep => h step (Site.sinceLoop_subset p.path step hstep)

/-- Lanes act together by one reading of the conditions if they do by another that agrees with it on the
conditions around the sites. -/
theorem lanesActTogether_congr {sites : List Site}
    (h : ∀ p ∈ sites, ∀ step ∈ p.path, step.isVarying v = step.isVarying w) :
    LanesActTogether v sites ↔ LanesActTogether w sites := by
  have hbefore : ∀ p : Site, p.Untainted v sites ↔ p.Untainted w sites := by
    intro p
    apply forall₂_congr
    intro c hc
    rw [Site.taints, Site.taints, Site.loopDepth_congr (h c hc)]
  apply forall₂_congr
  intro p hp
  rw [Site.varyingDepth_congr (h p hp), Site.loopDepth_congr (h p hp), hbefore p]

end Agreement

/-! ### Regions inside a function -/

/-- A go-for in the arms of a switch is in the body of one of them. -/
theorem Arms.mem_goFors {found : Span × Block} : ∀ {arms : Arms} (k : Nat), found ∈ arms.goFors →
    ∃ arm b, (arm, b) ∈ arms.blocks k ∧ found ∈ b.goFors
  | .nil, _, h => by cases h
  | .default body, k, h => ⟨.default k, body, List.mem_singleton.2 rfl, h⟩
  | .case _ body rest, k, h => by
    rcases List.mem_append.1 h with h | h
    · exact ⟨.case k, body, List.mem_cons_self, h⟩
    · obtain ⟨arm, b, hb, hfound⟩ := Arms.mem_goFors (k + 1) h
      exact ⟨arm, b, List.mem_cons_of_mem _ hb, hfound⟩

/-- A go-for in the arms of a type switch is in the body of one of them. -/
theorem LaneArms.mem_goFors {found : Span × Block} : ∀ {arms : LaneArms} (k : Nat),
    found ∈ arms.goFors → ∃ arm b, (arm, b) ∈ arms.blocks k ∧ found ∈ b.goFors
  | .nil, _, h => by cases h
  | .default body, k, h => ⟨.lanes k, body, List.mem_singleton.2 rfl, h⟩
  | .case _ body rest, k, h => by
    rcases List.mem_append.1 h with h | h
    · exact ⟨.lanes k, body, List.mem_cons_self, h⟩
    · obtain ⟨arm, b, hb, hfound⟩ := LaneArms.mem_goFors (k + 1) h
      exact ⟨arm, b, List.mem_cons_of_mem _ hb, hfound⟩

/-- A go-for of a statement is the statement itself, or it lies in one of its blocks. -/
theorem Stmt.mem_goFors {s : Stmt} {found : Span × Block} (h : found ∈ s.goFors) :
    (.body, found.2) ∈ s.blocks ∨ ∃ arm b, (arm, b) ∈ s.blocks ∧ found ∈ b.goFors := by
  cases s with
  | goFor _ _ _ _ body =>
    rw [Stmt.goFors, List.mem_singleton] at h
    exact Or.inl (by rw [h]; exact List.mem_singleton.2 rfl)
  | ifThen _ _ thenArm => exact Or.inr ⟨.thenArm, thenArm, List.mem_singleton.2 rfl, h⟩
  | ifElse _ _ thenArm elseArm =>
    rcases List.mem_append.1 h with h | h
    · exact Or.inr ⟨.thenArm, thenArm, List.mem_cons_self, h⟩
    · exact Or.inr ⟨.elseArm, elseArm, by simp [Stmt.blocks], h⟩
  | switch _ _ arms => exact Or.inr (Arms.mem_goFors 0 h)
  | typeSwitch _ _ _ arms => exact Or.inr (LaneArms.mem_goFors 0 h)
  | forIn _ _ _ body => exact Or.inr ⟨.body, body, List.mem_singleton.2 rfl, h⟩
  | whileLoop _ _ body => exact Or.inr ⟨.body, body, List.mem_singleton.2 rfl, h⟩
  | _ => cases h

/-- The statements in the body of a go-for are statements of the block that it lies in. -/
theorem Block.stmt_mem_of_goFors {b : Block} {found : Span × Block} (h : found ∈ b.goFors) {p : Site}
    (hp : p ∈ found.2.sites) : ∃ q ∈ b.sites, q.stmt = p.stmt := by
  refine Block.of_blocks
    (P := fun b => ∀ k, found ∈ b.goFors → ∃ q ∈ b.sitesFrom k, q.stmt = p.stmt)
    (Q := fun s => ∀ k, found ∈ s.goFors → ∃ q ∈ s.sites k, q.stmt = p.stmt) ?_ ?_ ?_ b 0 h
  · intro span k h
    cases h
  · intro s rest hs hrest k h
    rcases List.mem_append.1 h with h | h
    · obtain ⟨q, hq, hstmt⟩ := hs k h
      exact ⟨q, List.mem_append_left _ hq, hstmt⟩
    · obtain ⟨q, hq, hstmt⟩ := hrest (k + 1) h
      exact ⟨q, List.mem_append_right _ hq, hstmt⟩
  · intro s hblocks k h
    rcases Stmt.mem_goFors h with hbody | ⟨arm, b, hb, hfound⟩
    · exact ⟨_, Stmt.mem_sites.2 (Or.inr ⟨_, _, hbody, p, hp, rfl⟩), rfl⟩
    · obtain ⟨q, hq, hstmt⟩ := hblocks arm b hb 0 hfound
      exact ⟨_, Stmt.mem_sites.2 (Or.inr ⟨arm, b, hb, q, hq, rfl⟩), hstmt⟩

/-- The statements of a region are statements of its function. -/
theorem Function.stmt_mem_of_regions {f : Function} {sig : Signature} {r : Region}
    (hr : r ∈ f.regions sig) {p : Site} (hp : p ∈ r.body.sites) :
    ∃ q ∈ f.body.sites, q.stmt = p.stmt := by
  unfold Function.regions at hr
  split at hr
  · rw [List.mem_singleton.1 hr] at hp
    exact ⟨p, hp, rfl⟩
  · obtain ⟨found, hfound, rfl⟩ := List.mem_map.1 hr
    exact Block.stmt_mem_of_goFors hfound hp

section Accepted

variable {f : Function} {env env' : Env} {types : TypeRecord} {sig : Signature} {r : Region}

/-- In a function that passes its check, the walk takes a step of a region for varying exactly if the type of
its condition is. -/
theorem Function.isVarying_step (hcheck : f.check env = (.ok types, env'))
    (hspans : f.recordedSpans.Nodup) (hr : r ∈ f.regions sig) (scope : Env) {p : Site}
    (hp : p ∈ r.body.sites) {step : Step} (hstep : step ∈ p.path) :
    step.isVarying (r.walkContext scope types).isVarying = step.isVarying (f.decidesByLane env) := by
  obtain ⟨outer, inner, hpath⟩ := List.append_of_mem hstep
  obtain ⟨q, hq, hstmt⟩ := f.stmt_mem_of_regions hr (Block.mem_sites_of_step hp hpath)
  unfold Step.isVarying
  cases hdecision : step.stmt.decision? with
  | none => rfl
  | some e =>
    have hsame : q.stmt.decision? = some e := by rw [hstmt]; exact hdecision
    exact Function.isVaryingAt_decision hcheck hspans hq hsame

/-- In a function that passes its check, what is deferred or spawned is a call. -/
theorem Function.takesCall_of_check (hcheck : f.check env = (.ok types, env')) (hr : r ∈ f.regions sig)
    {p : Site} (hp : p ∈ r.body.sites) : p.stmt.takesCall = true := by
  obtain ⟨q, hq, hstmt⟩ := f.stmt_mem_of_regions hr hp
  rw [← f.map_site_standings env, List.mem_map] at hq
  obtain ⟨x, hx, rfl⟩ := hq
  exact hstmt ▸ ((Function.check_ok hcheck).1 x hx).takes

/-- In a function that passes its check, the receives of a statement are those that its walk looks at. -/
theorem Function.scanned_of_check (hcheck : f.check env = (.ok types, env')) (hr : r ∈ f.regions sig)
    {p : Site} (hp : p ∈ r.body.sites) : p.stmt.scanned.any Expr.hasRecv = p.stmt.receives :=
  Stmt.any_scanned_of_takesCall (f.takesCall_of_check hcheck hr hp)

/-- A region of a function that passes its check is accepted exactly if its lanes act together, where the
types of the conditions where they stand say which of them are varying. -/
theorem Function.region_accepted_iff (hcheck : f.check env = (.ok types, env'))
    (hspans : f.recordedSpans.Nodup) (hr : r ∈ f.regions sig) (scope : Env) :
    (∃ report, r.analyze scope types = .ok report) ↔
      LanesActTogether (f.decidesByLane env) r.body.sites :=
  calc (∃ report, r.analyze scope types = .ok report)
      ↔ Clears (r.walkContext scope types).isVarying ⟨0, 0⟩ .clean r.body.sites := by
        simp only [Region.analyze_eq_ok, exists_and_left, exists_eq, and_true]
    _ ↔ LanesActTogether (r.walkContext scope types).isVarying r.body.sites :=
        clears_entry_iff fun _ hp => f.scanned_of_check hcheck hr hp
    _ ↔ LanesActTogether (f.decidesByLane env) r.body.sites :=
        lanesActTogether_congr fun _ hp _ hstep => f.isVarying_step hcheck hspans hr scope hp hstep

end Accepted

/-! ### A function with a region -/

/-- A function with a region that passes, as far as evaluation shows. -/
theorem Function.exists_accepted {f : Function} {env : Env} {sig : Signature}
    (hpasses : (f.check env).1.isOk = true) (hregions : 0 < (f.regions sig).length)
    (haccepted : ∀ r ∈ f.regions sig, ((f.check env).1.bind fun types =>
      r.analyze env types).isOk = true) :
    ∃ types env' report r, f.check env = (.ok types, env') ∧ r ∈ f.regions sig ∧
      r.analyze env types = .ok report := by
  obtain ⟨types, env', hcheck⟩ := Function.exists_of_isOk hpasses
  obtain ⟨r, hr⟩ := List.exists_mem_of_length_pos hregions
  have hr' := haccepted r hr
  rw [hcheck] at hr'
  obtain ⟨report, hreport⟩ := Except.exists_of_isOk hr'
  exact ⟨types, env', report, r, hcheck, hr, hreport⟩

section Scan

open Builder

/-- A function over a channel with one region: it receives, breaks out of a loop under a uniform condition and
out of another one that stands under a varying condition, and skips rounds of a last loop lane by lane. -/
def scan : Function :=
  let build : Builder Function := do
    let total ← declare "total" none (← recv (← ident "c"))
    let stop ← ifThen (← binary .lt (← int 2) (← ident "total")) [← brk]
    let search ← forIn "j" (← range (← int 0) (← int 4)) [stop]
    let once ← forIn "k" (← range (← int 0) (← int 2)) [← brk]
    let low ← ifThen (← binary .lt (← ident "i") (← int 4)) [once]
    let skip ← ifThen (← binary .lt (← ident "i") (← ident "m")) [← cont]
    let rounds ← forIn "m" (← range (← int 0) (← int 4)) [skip]
    let region ← goFor "i" (← range (← int 0) (← int 8)) [total, search, low, rounds]
    function "scan" [← param "c" (← chan (← named "int64"))] none [region] false
  (build.run 0).1

/-- The signature of the function: a channel of integers, and no result. -/
def scanSignature : Signature :=
  { params := [.chan (.uniform .int64)], result := .void, isPublic := false, span := scan.span }

/-- The environment in which the function alone is declared. -/
def scanEnv : Env :=
  { Env.initial .standard with functions := Assoc.empty.insert "scan" scanSignature }

/-- The function passes its check, and its region is accepted. -/
theorem scan_accepted :
    ∃ types env' report r, scan.check scanEnv = (.ok types, env') ∧ r ∈ scan.regions scanSignature ∧
      r.analyze scanEnv types = .ok report :=
  Function.exists_accepted (by decide +kernel) (by decide +kernel) (by decide +kernel)

/-- The lanes of the accepted region act together, although a loop stands under a varying condition and
another one skips rounds lane by lane. -/
theorem Function.region_accepted_iff_scan :
    ∃ types env' report r, scan.check scanEnv = (.ok types, env') ∧ scan.recordedSpans.Nodup ∧
      r ∈ scan.regions scanSignature ∧ r.analyze scanEnv types = .ok report ∧
      LanesActTogether (scan.decidesByLane scanEnv) r.body.sites := by
  obtain ⟨types, env', report, r, hcheck, hr, hreport⟩ := scan_accepted
  have hspans : scan.recordedSpans.Nodup := by decide +kernel
  exact ⟨types, env', report, r, hcheck, hspans, hr, hreport,
    (Function.region_accepted_iff hcheck hspans hr scanEnv).1 ⟨report, hreport⟩⟩

end Scan

end Lanewise
