import Lanewise.Proofs.LexicalScope
import Lanewise.Proofs.MaskLineage
import Lanewise.Proofs.StatementChecks

/-!
# Later passes read the verdicts of the check

The context rules and the walk over a region do not type anything. They look up conditions, scrutinees and the
operands of panics in the record of the check, and what is not in there counts as uniform. For a function that
passes its check that default is never used: the record holds the type of each of these expressions as it is
where the expression stands.

So the two passes agree about how deep a statement lies. The check counts the varying conditions around it
(`Block.depth_of_verdicts`), the walk narrows the mask once for each (`Along.depth_eq`), and outside the regions
the context rules leave nothing to count.
-/

set_option autoImplicit false

namespace Lanewise

/-- The expression of a statement whose type later passes look up: what decides about its blocks, or the operand
of a panic. -/
def Stmt.consulted? : Stmt → Option Expr
  | .panic _ value => some value
  | s => s.decision?

/-- The expression that later passes look up is one of the statement. -/
theorem Stmt.consulted?_mem_exprs {s : Stmt} {e : Expr} (h : s.consulted? = some e) : e ∈ s.exprs := by
  cases s with
  | panic span value =>
    cases h
    exact List.mem_singleton_self _
  | _ => exact Stmt.decision?_mem_exprs h

/-- What decides about the blocks of a statement is looked up. -/
theorem Stmt.consulted?_of_decision? {s : Stmt} {e : Expr} (h : s.decision? = some e) :
    s.consulted? = some e := by
  cases s with
  | panic => cases h
  | _ => exact h

/-! ### Depths of masks -/

section Masks

variable {t : MaskTable} {mask last parent : Nat} {varying : Expr → Bool} {path : List Step}

/-- A mask that narrows nothing has depth zero. -/
theorem MaskTable.depth_of_entry (h : t.parent? mask = none) : t.depth mask = 0 := by
  rw [MaskTable.depth, MaskTable.lineage_of_entry h]
  rfl

/-- A mask is one deeper than the one that it narrows. -/
theorem MaskTable.Ordered.depth_of_parent (h : t.Ordered) (hparent : t.parent? mask = some parent) :
    t.depth mask = t.depth parent + 1 := by
  have hlast := h.getLast?_lineage parent
  have hne : t.lineage parent ≠ [] := by
    intro hnil
    rw [hnil] at hlast
    cases hlast
  have hpos := List.length_pos_iff.2 hne
  rw [MaskTable.depth, MaskTable.depth, h.lineage_of_parent hparent, List.length_append, List.length_singleton]
  omega

/-- Each varying condition on the way to a mask puts it one deeper. -/
theorem Along.depth_eq (h : Along varying t mask path last) (hordered : t.Ordered) :
    t.depth last = t.depth mask + path.countP (Step.isVarying varying) := by
  induction path generalizing mask with
  | nil =>
    rw [show last = mask from h]
    rfl
  | cons step path ih =>
    obtain ⟨inner, hstep, hrest⟩ := h
    rw [ih hrest, List.countP_cons]
    cases hvarying : step.isVarying varying with
    | false =>
      rw [Step.Narrows, hvarying] at hstep
      rw [show inner = mask from hstep]
      simp
    | true =>
      rw [Step.Narrows, if_pos hvarying] at hstep
      obtain ⟨-, d, hdef, hget⟩ := hstep
      have hparent : t.parent? inner = some mask := by
        rw [MaskTable.parent?, hget]
        exact Step.parent?_of_maskDef? hdef
      rw [hordered.depth_of_parent hparent]
      simp
      omega

/-- The mask at a statement of a region is as deep as there are varying conditions around the statement. -/
theorem Region.depths_report (r : Region) (cx : WalkContext) :
    (r.report cx).points.map (fun point => (point.span, (r.report cx).masks.depth point.mask)) =
      r.body.sites.map fun p => (p.stmt.span, p.varyingDepth cx.isVarying) := by
  have hpoints : (r.report cx).points = (r.record cx).visits.map Visit.point := rfl
  have hholds : (r.report cx).masks.Holds 1 (r.record cx).masks := by
    intro i d hd
    rw [Nat.add_comm]
    exact hd
  rw [hpoints, ← r.map_site_record cx, List.map_map, List.map_map]
  refine List.map_congr_left fun v hv => ?_
  have halong := (Block.record_follows r.body Nat.zero_lt_one hholds v hv).along
  have hdepth := halong.depth_eq (r.ordered_report cx)
  have hentry : (r.report cx).masks.depth 0 = 0 := MaskTable.depth_of_entry rfl
  rw [hentry, Nat.zero_add] at hdepth
  exact congrArg (Prod.mk v.site.stmt.span) hdepth

end Masks

/-! ### Depths of statements -/

section Depths

variable {varying : Expr → Bool}

/-- The depth that the check counts for a statement of a block, if `varying` knows the types of the conditions of
the block. -/
theorem Block.depth_of_verdicts (b : Block) (env : Env) (depth index : Nat)
    (h : ∀ y ∈ b.standingsFrom env depth index, y.site.stmt.decision?.any varying = y.isVarying) :
    ∀ x ∈ b.standingsFrom env depth index, x.depth = depth + x.site.varyingDepth varying := by
  refine Block.of_blocks
    (P := fun b => ∀ env depth index,
      (∀ y ∈ b.standingsFrom env depth index, y.site.stmt.decision?.any varying = y.isVarying) →
        ∀ x ∈ b.standingsFrom env depth index, x.depth = depth + x.site.varyingDepth varying)
    (Q := fun s => ∀ env depth index,
      (∀ y ∈ s.standings env depth index, y.site.stmt.decision?.any varying = y.isVarying) →
        ∀ x ∈ s.standings env depth index, x.depth = depth + x.site.varyingDepth varying)
    ?_ ?_ ?_ b env depth index h
  · intro span env depth index _ x hx
    cases hx
  · intro s rest hs hrest env depth index h x hx
    rw [Block.standingsFrom] at h hx
    rcases List.mem_append.1 hx with hx | hx
    · exact hs env depth index (fun y hy => h y (List.mem_append_left _ hy)) x hx
    · exact hrest _ depth (index + 1) (fun y hy => h y (List.mem_append_right _ hy)) x hx
  · intro s hblocks env depth index h x hx
    have hhere := h _ (Stmt.mem_standings_self env depth index s)
    rw [Stmt.standings_eq] at h hx
    rcases List.mem_cons.1 hx with rfl | hx
    · rfl
    · obtain ⟨b, hb, hx⟩ := List.mem_flatMap.1 hx
      obtain ⟨y, hy, rfl⟩ := List.mem_map.1 hx
      have hdepth := hblocks b.arm b.block (Stmt.mem_blocks_of_scopedBlocks hb) b.env b.depth 0 ?_ y hy
      · -- the step into the block counts if the check found the condition varying
        have hstep : Step.isVarying varying ⟨index, s, b.arm⟩ =
            Standing.isVarying ⟨⟨[], index, s⟩, env, depth⟩ := hhere
        have hcount : (y.under ⟨index, s, b.arm⟩).site.varyingDepth varying =
            y.site.varyingDepth varying + if Standing.isVarying ⟨⟨[], index, s⟩, env, depth⟩ then 1 else 0 := by
          rw [← hstep]
          exact List.countP_cons
        have hentered := Stmt.depth_scopedBlocks hb index
        have hsame : (y.under ⟨index, s, b.arm⟩).depth = y.depth := rfl
        rw [hsame, hcount, hdepth]
        omega
      · intro z hz
        have hlisted : z.under ⟨index, s, b.arm⟩ ∈ b.standings index s := List.mem_map_of_mem hz
        have hfound := List.mem_flatMap.2 ⟨b, hb, hlisted⟩
        exact h (z.under ⟨index, s, b.arm⟩) (List.mem_cons_of_mem _ hfound)

end Depths

/-! ### Functions that pass -/

section Accepted

variable {f : Function} {env env' : Env} {types : TypeRecord} {x : Standing}

/-- The record of a function that passes has the type of what later passes look up, as it was inferred there,
and so the verdict whether it is varying. -/
theorem Function.verdict_of_check (h : f.check env = (.ok types, env')) (hspans : f.recordedSpans.Nodup)
    (hx : x ∈ f.standings env) {e : Expr} (he : x.site.stmt.consulted? = some e) :
    ∃ t, e.infer x.env = .ok t ∧ types.find? e.span = some t ∧ types.isVaryingAt e.span = t.isVarying := by
  have hmem := Stmt.consulted?_mem_exprs he
  have hfind := Function.find?_of_check h hspans hx hmem
  obtain ⟨t, hinfer⟩ := ((Function.check_ok h).1 x hx).infers e hmem
  rw [Expr.typeIn_of_infer hinfer] at hfind
  refine ⟨t, hinfer, hfind, ?_⟩
  rw [TypeRecord.isVaryingAt, hfind, Option.any_some]

/-- The record tells which statements the check found to decide lane by lane. -/
theorem Function.any_decision_of_check (h : f.check env = (.ok types, env')) (hspans : f.recordedSpans.Nodup)
    (hx : x ∈ f.standings env) :
    (x.site.stmt.decision?.any fun e => types.isVaryingAt e.span) = x.isVarying := by
  rw [Standing.isVarying]
  cases hdecision : x.site.stmt.decision? with
  | none => rfl
  | some e =>
    obtain ⟨t, hinfer, -, hvarying⟩ :=
      Function.verdict_of_check h hspans hx (Stmt.consulted?_of_decision? hdecision)
    rw [Option.any_some, Option.any_some, hvarying, Expr.typeIn_of_infer hinfer]

/-- The depth at which the check saw a statement is the number of conditions around it that are recorded as
varying. -/
theorem Function.depth_of_check (h : f.check env = (.ok types, env')) (hspans : f.recordedSpans.Nodup)
    (hx : x ∈ f.standings env) : x.depth = x.site.varyingDepth fun e => types.isVaryingAt e.span := by
  have hdepth := f.body.depth_of_verdicts _ 0 0 (fun y hy => Function.any_decision_of_check h hspans hy) x hx
  rwa [Nat.zero_add] at hdepth

/-- Outside the regions of a function that keeps to the context rules no condition is varying. -/
theorem Function.depth_outside {launchers : List String}
    (hcontext : f.checkContext { types, launchers, wholeBody := false } = .ok ()) {p : Site}
    (hp : p ∈ f.body.sites) (hout : p.inGoFor = false) :
    p.varyingDepth (fun e => types.isVaryingAt e.span) = 0 := by
  have hallows := (Block.checkContext_eq_ok f.body).1 hcontext
  rw [Site.varyingDepth, List.countP_eq_zero]
  intro step hstep
  obtain ⟨outer, inner, hpath⟩ := List.append_of_mem hstep
  have hsite := Block.mem_sites_of_step hp hpath
  -- what encloses the step lies on the way to the site as well
  have houter : Site.inGoFor ⟨outer, step.index, step.stmt⟩ = false := by
    rw [Site.inGoFor, hpath, List.any_append, Bool.or_eq_false_iff] at hout
    exact hout.1
  have hdecision := (hallows _ hsite).decision (by rw [houter]; rfl)
  rw [Step.isVarying, Option.any_eq_true]
  rintro ⟨e, he, hvarying⟩
  rw [hdecision e he] at hvarying
  cases hvarying

/-- The statements of a go-for outside of all others lie as deep in the function as in the go-for. -/
theorem Function.depth_inside {launchers : List String} (h : f.check env = (.ok types, env'))
    (hspans : f.recordedSpans.Nodup)
    (hcontext : f.checkContext { types, launchers, wholeBody := false } = .ok ())
    (hx : x ∈ f.standings env) (hout : x.site.inGoFor = false) {span : Span} {body : Block}
    (hbody : x.site.stmt.goFor? = some (span, body)) :
    x.inside.map (fun y => (y.site.stmt.span, y.depth)) =
      body.sites.map fun p => (p.stmt.span, p.varyingDepth fun e => types.isVaryingAt e.span) := by
  have hdepth : x.depth = 0 := by
    rw [Function.depth_of_check h hspans hx,
      Function.depth_outside hcontext (Function.site_of_standing hx) hout]
  obtain ⟨inner, hinner⟩ : ∃ inner, x.site.stmt.scopedBlocks x.env x.depth = [⟨.body, body, inner, x.depth⟩] := by
    cases hstmt : x.site.stmt <;> rw [hstmt] at hbody <;> cases hbody
    exact ⟨_, rfl⟩
  have hinside : x.inside = (body.standingsFrom inner x.depth 0).map (.behind (x.way .body)) := by
    rw [Standing.inside, hinner, List.flatMap_singleton]
    rfl
  have hverdicts : ∀ y ∈ body.standingsFrom inner x.depth 0,
      (y.site.stmt.decision?.any fun e => types.isVaryingAt e.span) = y.isVarying := by
    intro y hy
    have hlisted : y.behind (x.way .body) ∈ x.inside := hinside ▸ List.mem_map_of_mem hy
    have hmem : y.behind (x.way .body) ∈ f.standings env := Block.mem_standings_of_inside hx hlisted
    exact Function.any_decision_of_check (x := y.behind (x.way .body)) h hspans hmem
  rw [hinside, Block.sites, ← Block.map_site_standingsFrom inner x.depth 0 body, List.map_map, List.map_map]
  refine List.map_congr_left fun y hy => ?_
  have hy' := body.depth_of_verdicts inner x.depth 0 hverdicts y hy
  rw [hdepth, Nat.zero_add] at hy'
  exact congrArg (Prod.mk y.site.stmt.span) hy'

end Accepted

/-! ### Reports -/

/-- The mask of every statement of an accepted region is as deep as there are varying conditions around the
statement. -/
theorem Region.depths_of_analyze {r : Region} {scope : Env} {types : TypeRecord} {report : RegionReport}
    (h : r.analyze scope types = .ok report) :
    report.points.map (fun point => (point.span, report.masks.depth point.mask)) =
      r.body.sites.map fun p => (p.stmt.span, p.varyingDepth fun e => types.isVaryingAt e.span) := by
  obtain ⟨-, rfl⟩ := Region.analyze_eq_ok.1 h
  exact r.depths_report _

/-- What is chosen from a list is related one by one to what is chosen beside it. -/
theorem forall₂_filterMap {α β γ : Type} {R : β → γ → Prop} {a : α → Option β} {b : α → γ} {xs : List α}
    (h : ∀ x ∈ xs, ∀ v, a x = some v → R v (b x)) :
    List.Forall₂ R (xs.filterMap a) (xs.filterMap fun x => (a x).map fun _ => b x) := by
  induction xs with
  | nil => exact .nil
  | cons x xs ih =>
    have hrest := ih fun y hy => h y (List.mem_cons_of_mem _ hy)
    cases hx : a x with
    | none => simpa [hx] using hrest
    | some v => simpa [hx] using ⟨h x List.mem_cons_self v hx, hrest⟩

/-- The statements of the regions of a function, region by region: its body, or what its go-fors hold. -/
def Function.regionStandings (f : Function) (env : Env) (isRegion : Bool) : List (List Standing) :=
  if isRegion then [f.standings env]
  else (f.standings env).filterMap fun x => x.site.stmt.goFor?.map fun _ => x.inside

/-- Whether a report gives the statements of a region masks that are as deep as the check had counted. -/
def RegionReport.Deepens (report : RegionReport) (xs : List Standing) : Prop :=
  report.points.map (fun point => (point.span, report.masks.depth point.mask)) =
    xs.map fun x => (x.site.stmt.span, x.depth)

section Accepted

variable {f : Function} {env env' : Env} {types : TypeRecord} {launchers : List String} {s : Signature}

/-- The statements of a region are statements of the function. -/
theorem Function.mem_standings_of_regionStandings {isRegion : Bool} {xs : List Standing} {x : Standing}
    (hxs : xs ∈ f.regionStandings env isRegion) (hx : x ∈ xs) : x ∈ f.standings env := by
  cases isRegion with
  | true =>
    rw [List.mem_singleton.1 hxs] at hx
    exact hx
  | false =>
    obtain ⟨g, hg, hinside⟩ := List.mem_filterMap.1 hxs
    obtain ⟨found, -, rfl⟩ := Option.map_eq_some_iff.1 hinside
    exact Block.mem_standings_of_inside hg hx

/-- The reports of the regions of a function that passes its check and keeps to the context rules are as deep as
the check had counted. -/
theorem Function.deepens_of_check (h : f.check env = (.ok types, env')) (hspans : f.recordedSpans.Nodup)
    (hcontext : f.checkContext { types, launchers, wholeBody := s.isRegion } = .ok ()) :
    List.Forall₂ (fun r xs => ∀ scope report, r.analyze scope types = .ok report → report.Deepens xs)
      (f.regions s) (f.regionStandings env s.isRegion) := by
  rw [Function.regions_eq_written hcontext]
  cases hregion : s.isRegion with
  | true =>
    refine .cons (fun scope report hreport => ?_) .nil
    rw [RegionReport.Deepens, Region.depths_of_analyze hreport, ← f.map_site_standings env, List.map_map]
    refine List.map_congr_left fun x hx => ?_
    exact congrArg (Prod.mk x.site.stmt.span) (Function.depth_of_check h hspans hx).symm
  | false =>
    rw [hregion] at hcontext
    have hallows := (Block.checkContext_eq_ok f.body).1 hcontext
    have hwritten : f.writtenRegions false = ((f.standings env).filterMap fun x => x.site.stmt.goFor?).map
        fun found => { kind := .goFor, function := f.name.text, span := found.1, body := found.2 } := by
      rw [Function.writtenRegions, ← Block.map_stmt_sites, ← f.map_site_standings env, List.filterMap_map,
        List.filterMap_map]
      rfl
    rw [hwritten, List.forall₂_map_left_iff]
    refine forall₂_filterMap fun x hx found hfound scope report hreport => ?_
    have hgoFor : (Node.stmt x.site.stmt).isGoFor = true := by
      rw [← Stmt.isSome_goFor?, hfound]
      rfl
    have hout := ((hallows x.site (Function.site_of_standing hx)).goFor hgoFor).2
    rw [RegionReport.Deepens, Region.depths_of_analyze hreport]
    exact (Function.depth_inside h hspans hcontext hx hout hfound).symm

/-- The record of a function that passes its check holds the type of every condition, every scrutinee and every
operand of a panic, as it is where the expression stands. The depth at which each statement of a region passed
its check is the depth of the mask that the region is reported to have there. -/
theorem Function.verdicts_recorded (hcheck : f.check env = (.ok types, env'))
    (hspans : f.recordedSpans.Nodup) :
    (∀ x ∈ f.standings env, ∀ e, x.site.stmt.consulted? = some e →
        ∃ t, e.infer x.env = .ok t ∧ types.find? e.span = some t ∧ types.isVaryingAt e.span = t.isVarying) ∧
      (∃ sig, env.functions.find? f.name.text = some sig ∧ ∀ x ∈ f.standings env, x.Passes sig.result) ∧
      ∀ (s : Signature) (launchers : List String),
        f.checkContext { types, launchers, wholeBody := s.isRegion } = .ok () →
          (∀ xs ∈ f.regionStandings env s.isRegion, ∀ x ∈ xs, x ∈ f.standings env) ∧
            List.Forall₂ (fun r xs => ∀ scope report, r.analyze scope types = .ok report → report.Deepens xs)
              (f.regions s) (f.regionStandings env s.isRegion) := by
  refine ⟨fun x hx e he => Function.verdict_of_check hcheck hspans hx he, Function.passes_of_check hcheck, ?_⟩
  intro s launchers hcontext
  refine ⟨fun xs hxs x hx => Function.mem_standings_of_regionStandings hxs hx, ?_⟩
  exact Function.deepens_of_check hcheck hspans hcontext

end Accepted

section Sample

open Builder

/-- A function whose region branches by lane, by a value that all lanes share, and by lane again. -/
def sift : Function :=
  let build : Builder Function := do
    let stop ← ifThen (← binary .lt (← ident "i") (← int 9)) [← panic (← ident "i")]
    let inner ← switch (← ident "i") [([← int 1], [stop])] none
    let shared ← ifThen (← binary .lt (← ident "n") (← int 4)) [inner]
    let each ← goFor "i" (← range (← int 0) (← ident "n")) [shared]
    let guarded ← ifThen (← binary .lt (← ident "n") (← int 8)) [each]
    function "sift" [← param "n" (← named "int64")] none [guarded] false
  (build.run 0).1

/-- The signature of the function: one integer, and no result. -/
def siftSignature : Signature :=
  { params := [.uniform .int64], result := .void, isPublic := false, span := sift.span }

/-- The environment in which the function alone is declared. -/
def siftEnv : Env :=
  { Env.initial .standard with functions := Assoc.empty.insert "sift" siftSignature }

/-- The masks of the four statements of the region are as deep as the check had counted: the condition that
all lanes share adds nothing. -/
theorem Function.verdicts_recorded_sift :
    sift.recordedSpans.Nodup ∧ ∃ types env', sift.check siftEnv = (.ok types, env') ∧
      sift.checkContext { types, launchers := ["sift"], wholeBody := siftSignature.isRegion } = .ok () ∧
      ∃ r report, sift.regions siftSignature = [r] ∧ r.analyze siftEnv types = .ok report ∧
        report.points.map (fun point => report.masks.depth point.mask) = [0, 0, 1, 2] := by
  have hspans : sift.recordedSpans.Nodup := by decide +kernel
  obtain ⟨types, env', hcheck⟩ :=
    Function.exists_of_isOk (show (sift.check siftEnv).1.isOk = true by decide +kernel)
  have hcontext : ((sift.check siftEnv).1.toOption.any fun types =>
      (sift.checkContext { types, launchers := ["sift"], wholeBody := siftSignature.isRegion }).isOk) = true := by
    decide +kernel
  have hreport : ((sift.check siftEnv).1.toOption.any fun types =>
      ((sift.regions siftSignature).map fun r => (r.analyze siftEnv types).isOk) = [true]) = true := by
    decide +kernel
  rw [hcheck] at hcontext hreport
  obtain ⟨⟨⟩, hcontext⟩ := Except.exists_of_isOk hcontext
  have hdepths : (sift.regionStandings siftEnv siftSignature.isRegion).map (·.map Standing.depth) =
      [[0, 0, 1, 2]] := by decide +kernel
  have hdeepens := ((Function.verdicts_recorded hcheck hspans).2.2 siftSignature ["sift"] hcontext).2
  obtain ⟨r, hr, haccepted⟩ := List.map_eq_singleton_iff.1 (of_decide_eq_true hreport)
  obtain ⟨report, hreport⟩ := Except.exists_of_isOk haccepted
  obtain ⟨xs, hxs, hdepth⟩ := List.map_eq_singleton_iff.1 hdepths
  rw [hr, hxs, List.forall₂_cons] at hdeepens
  have hmasks := congrArg (List.map Prod.snd) (hdeepens.1 siftEnv report hreport)
  rw [List.map_map, List.map_map] at hmasks
  exact ⟨hspans, types, env', hcheck, hcontext, r, report, hr, hreport, hmasks.trans hdepth⟩

end Sample

end Lanewise
