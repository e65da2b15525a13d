import Lanewise.Proofs.JointActions

/-!
# Receives in the condition of a loop

The condition of a loop is evaluated before every round, so a receive in it also runs after the body. The walk
looks at a condition only where the loop is entered, and at the body a second time. So a receive in the
condition is held against the continues of the body only if the loop lies inside another one, whose body is
walked again as a whole (`Site.precedes_enclosing_iff`). Where no other loop is around, lanes that have left a
round one by one come back to the receive, and the region is accepted all the same.
-/

set_option autoImplicit false

namespace Lanewise

/-! ### Sites inside the statement of another site -/

/-- Whether a site lies in a block of the statement of another site. -/
def Site.Inside (c p : Site) : Prop :=
  ∃ arm inner, c.path = p.path ++ ⟨p.index, p.stmt, arm⟩ :: inner

/-- A site inside the statement of another one comes before it exactly if a loop is around both. -/
theorem Site.precedes_enclosing_iff {c p : Site} (h : c.Inside p) :
    c.Precedes p ↔ p.path.any (·.stmt.isLoop) = true := by
  obtain ⟨arm, inner, hpath⟩ := h
  obtain ⟨path, index, s⟩ := p
  induction path generalizing c with
  | nil =>
    have htop : c.top = index := by
      rw [Site.top, hpath]
      rfl
    rw [Site.precedes_iff]
    constructor
    · rintro (hlt | ⟨step, c', p', -, hp, -⟩)
      · rw [htop] at hlt
        exact absurd hlt (Nat.lt_irrefl index)
      · cases congrArg Site.path hp
    · intro hany
      cases hany
  | cons step outer ih =>
    -- the first step leads to both, so it decides or is left out
    obtain ⟨cpath, cindex, cstmt⟩ := c
    obtain rfl : cpath = step :: (outer ++ ⟨index, s, arm⟩ :: inner) := hpath
    have hinner := @ih ⟨outer ++ ⟨index, s, arm⟩ :: inner, cindex, cstmt⟩ rfl
    rw [List.any_cons, Bool.or_eq_true, ← hinner]
    exact @Site.precedes_under_iff step ⟨outer ++ ⟨index, s, arm⟩ :: inner, cindex, cstmt⟩
      ⟨outer, index, s⟩

/-! ### The law of a region around such a loop -/

/-- Whether no continue that some lanes take without the others comes before a site, if nothing inside the
statement of `loop` counts as coming before `loop` itself. -/
def Site.UntaintedOutside (p : Site) (varying : Expr → Bool) (sites : List Site) (loop : Site) : Prop :=
  ∀ c ∈ sites, c.taints varying = true → ¬ (p = loop ∧ c.Inside loop) → ¬ c.Precedes p

/-- Whether the lanes of a region act together, if nothing inside the statement of `loop` counts as coming
before `loop` itself. -/
def LanesActTogetherOutside (varying : Expr → Bool) (sites : List Site) (loop : Site) : Prop :=
  ∀ p ∈ sites,
    (p.stmt.isReturn = true ∨ p.stmt.isSend = true ∨ p.stmt.receives = true →
      p.varyingDepth varying = 0 ∧ p.UntaintedOutside varying sites loop) ∧
    (p.stmt.isBreak = true →
      p.loopDepth varying = 0 ∧ p.UntaintedOutside varying sites loop)

/-- Around a loop that is in no other loop, it makes no difference whether what lies inside it counts as coming
before it. -/
theorem lanesActTogether_outside_iff {varying : Expr → Bool} {sites : List Site} {loop : Site}
    (hloop : loop.path.any (·.stmt.isLoop) = false) :
    LanesActTogetherOutside varying sites loop ↔ LanesActTogether varying sites := by
  have hnever : ∀ p c : Site, p = loop ∧ c.Inside loop → ¬ c.Precedes p := by
    rintro p c ⟨rfl, hinside⟩ hprec
    rw [Site.precedes_enclosing_iff hinside, hloop] at hprec
    cases hprec
  have huntainted : ∀ p : Site,
      p.UntaintedOutside varying sites loop ↔ p.Untainted varying sites := by
    intro p
    constructor
    · intro h c hc htaints hprec
      exact h c hc htaints (fun hexempt => hnever p c hexempt hprec) hprec
    · intro h c hc htaints _
      exact h c hc htaints
  unfold LanesActTogetherOutside LanesActTogether
  simp only [huntainted]

/-- Whether a statement is a loop whose condition takes a value from a channel. -/
def Stmt.receivesInCondition : Stmt → Bool
  | .whileLoop _ cond _ => cond.hasRecv
  | _ => false

/-- A loop that receives in its condition receives. -/
theorem Stmt.receives_of_condition {s : Stmt} (h : s.receivesInCondition = true) :
    s.receives = true := by
  cases s with
  | whileLoop _ cond _ => simpa [Stmt.receives, Stmt.exprs] using show cond.hasRecv = true from h
  | _ => cases h

section Accepted

variable {f : Function} {env env' : Env} {types : TypeRecord} {sig : Signature} {r : Region}

/-- A region of a function that passes its check is accepted exactly if its lanes act together, where the
recorded types say which conditions are varying. -/
theorem Function.accepted_iff_recorded (hcheck : f.check env = (.ok types, env'))
    (hr : r ∈ f.regions sig) (scope : Env) :
    (∃ report, r.analyze scope types = .ok report) ↔
      LanesActTogether (fun e => types.isVaryingAt e.span) r.body.sites := by
  have hclears : (∃ report, r.analyze scope types = .ok report) ↔
      Clears (r.walkContext scope types).isVarying ⟨0, 0⟩ .clean r.body.sites := by
    simp only [Region.analyze_eq_ok, exists_and_left, exists_eq, and_true]
  rw [hclears]
  exact clears_entry_iff fun _ hp => f.scanned_of_check hcheck hr hp

/-- A region with a loop whose condition receives and whose body has a continue that not all lanes take is
rejected exactly if the loop lies inside another loop of the region, or if the region is at fault elsewhere. The
way back from the body to the condition of the loop itself is not looked at. -/
theorem Function.receiving_condition_accepted_iff (hcheck : f.check env = (.ok types, env'))
    (hr : r ∈ f.regions sig) (scope : Env) {p c : Site} (hp : p ∈ r.body.sites)
    (hreceives : p.stmt.receivesInCondition = true) (hc : c ∈ r.body.sites) (hinside : c.Inside p)
    (htaints : c.taints (fun e => types.isVaryingAt e.span) = true) :
    (∃ report, r.analyze scope types = .ok report) ↔
      p.path.any (·.stmt.isLoop) = false ∧
        LanesActTogetherOutside (fun e => types.isVaryingAt e.span) r.body.sites p := by
  rw [Function.accepted_iff_recorded hcheck hr scope]
  constructor
  · intro htogether
    have huntainted := ((htogether p hp).1
      (Or.inr (Or.inr (Stmt.receives_of_condition hreceives)))).2
    have hloop : p.path.any (·.stmt.isLoop) = false := by
      rw [Bool.eq_false_iff]
      intro hany
      exact huntainted c hc htaints ((Site.precedes_enclosing_iff hinside).2 hany)
    exact ⟨hloop, (lanesActTogether_outside_iff hloop).2 htogether⟩
  · rintro ⟨hloop, houtside⟩
    exact (lanesActTogether_outside_iff hloop).1 houtside

end Accepted

/-! ### The loop alone and inside another one -/

section Drain

open Builder

/-- A loop that receives in its condition, and whose body skips a round lane by lane. -/
def drainLoop : Builder Stmt := do
  let more ← binary .lt (← int 0) (← recv (← ident "c"))
  let skip ← ifThen (← binary .lt (← ident "x") (← int 0)) [← cont]
  whileLoop more [skip]

/-- A function that is one region around a statement. -/
def drainFunction (stmt : Builder Stmt) : Function :=
  let build : Builder Function := do
    let params := [← param "x" (← varying "int64"), ← param "c" (← chan (← named "int64"))]
    function "drain" params none [← stmt] false
  (build.run 0).1

/-- The loop in no other loop. -/
def drain : Function :=
  drainFunction drainLoop

/-- The loop inside another one. -/
def drainTwice : Function :=
  drainFunction do forIn "k" (← range (← int 0) (← int 2)) [← drainLoop]

/-- The signature of the functions: a varying value and a channel of integers, and no result. -/
def drainSignature : Signature :=
  { params := [.varying .int64 .native, .chan (.uniform .int64)], result := .void, isPublic := false,
    span := drain.span }

/-- The environment in which one such function is declared. -/
def drainEnv : Env :=
  { Env.initial .standard with functions := Assoc.empty.insert "drain" drainSignature }

/-- Nothing is found wrong with the region, although its lanes come back to a receive from different
rounds. -/
theorem Function.receiving_condition_accepted_drain :
    ∃ types env' r report, drain.check drainEnv = (.ok types, env') ∧ r ∈ drain.regions drainSignature ∧
      (∃ p ∈ r.body.sites, ∃ c ∈ r.body.sites, p.stmt.receivesInCondition = true ∧ c.Inside p ∧
        c.taints (fun e => types.isVaryingAt e.span) = true) ∧
      r.analyze drainEnv types = .ok report := by
  obtain ⟨types, env', hcheck⟩ :=
    Function.exists_of_isOk (show (drain.check drainEnv).1.isOk = true by decide +kernel)
  have htaints : ((drain.check drainEnv).1.toOption.any fun types =>
      drain.body.sites[2].taints fun e => types.isVaryingAt e.span) = true := by decide +kernel
  have haccepted : ((drain.check drainEnv).1.bind fun types =>
      (drain.regions drainSignature)[0].analyze drainEnv types).isOk = true := by decide +kernel
  rw [hcheck] at htaints haccepted
  obtain ⟨report, hreport⟩ := Except.exists_of_isOk haccepted
  exact ⟨types, env', _, report, hcheck, List.getElem_mem _,
    ⟨drain.body.sites[0], List.getElem_mem _, drain.body.sites[2], List.getElem_mem _,
      by decide +kernel, ⟨_, _, rfl⟩, htaints⟩, hreport⟩

/-- Inside another loop, the receive is held against the continue. -/
theorem Function.receiving_condition_accepted_iff_drainTwice :
    ∃ types env' r, drainTwice.check drainEnv = (.ok types, env') ∧
      r ∈ drainTwice.regions drainSignature ∧
      (∃ p ∈ r.body.sites, ∃ c ∈ r.body.sites, p.stmt.receivesInCondition = true ∧ c.Inside p ∧
        c.taints (fun e => types.isVaryingAt e.span) = true) ∧
      ¬ ∃ report, r.analyze drainEnv types = .ok report := by
  obtain ⟨types, env', hcheck⟩ :=
    Function.exists_of_isOk (show (drainTwice.check drainEnv).1.isOk = true by decide +kernel)
  have htaints : ((drainTwice.check drainEnv).1.toOption.any fun types =>
      drainTwice.body.sites[3].taints fun e => types.isVaryingAt e.span) = true := by decide +kernel
  rw [hcheck] at htaints
  have hr : (drainTwice.regions drainSignature)[0] ∈ drainTwice.regions drainSignature :=
    List.getElem_mem _
  have hp : drainTwice.body.sites[1] ∈ drainTwice.body.sites := List.getElem_mem _
  have hc : drainTwice.body.sites[3] ∈ drainTwice.body.sites := List.getElem_mem _
  have hreceives : drainTwice.body.sites[1].stmt.receivesInCondition = true := by decide +kernel
  have hinside : drainTwice.body.sites[3].Inside drainTwice.body.sites[1] := ⟨_, _, rfl⟩
  have hloop : drainTwice.body.sites[1].path.any (·.stmt.isLoop) = true := by decide +kernel
  refine ⟨types, env', _, hcheck, hr, ⟨_, hp, _, hc, hreceives, hinside, htaints⟩, ?_⟩
  rw [Function.receiving_condition_accepted_iff hcheck hr drainEnv hp hreceives hc hinside htaints]
  rintro ⟨hnone, -⟩
  exact absurd (hloop.symm.trans hnone) (by decide)

end Drain

end Lanewise
