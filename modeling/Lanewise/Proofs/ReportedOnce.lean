import Lanewise.Proofs.Findings
import Lanewise.Syntax.Builder

/-!
# How often a declaration is reported

A constant is reported at most once. A function is reported by two loops: the one over the signatures, and the
one over the bodies, which leaves out the names without a signature. The two are linked by nothing but the name.
So a function whose signature does not resolve is looked at again if some other declaration of its name has one
that does. Then it may be reported a second time, or its regions may be listed although it was reported. This is
the only way in which it can happen (`Program.declarations_reported_once_iff`); where no name is declared twice,
it cannot.
-/

set_option autoImplicit false

namespace Lanewise

namespace Program

variable (p : Program) (target : Target)

/-- What a function adds to the issues of a program. -/
def issuesOf (f : Function) : List Issue :=
  (p.signatureIssue? target f).toList ++ (p.bodyIssue? target f).toList

/-- Whether a function is reported at most once, and not at all if it adds to the reports or to the fresh
calls. -/
structure ReportedOnce (f : Function) : Prop where
  once : (p.issuesOf target f).length ≤ 1
  excluded : p.issuesOf target f ≠ [] →
    FunctionReport.listed FunctionReport.regions (p.outcome target f) = [] ∧
      FunctionReport.listed FunctionReport.freshCalls (p.outcome target f) = []

/-- Whether something is wrong with the signature of a function and with its body. -/
def reportedTwice (f : Function) : Bool :=
  (p.signatureIssue? target f).isSome && (p.bodyIssue? target f).isSome

/-- Whether something is wrong with the signature of a function or with its body. -/
def reported (f : Function) : Bool :=
  (p.signatureIssue? target f).isSome || (p.bodyIssue? target f).isSome

end Program

/-! ### Counting -/

/-- Those of one kind and those of another are those of either kind, and those of both kinds once more. -/
theorem countP_add_countP {α : Type} (first second : α → Bool) (l : List α) :
    l.countP first + l.countP second =
      l.countP (fun a => first a || second a) + l.countP fun a => first a && second a := by
  induction l with
  | nil => rfl
  | cons a rest ih =>
    simp only [List.countP_cons]
    cases first a <;> cases second a <;> simp <;> omega

section Counting

variable {p : Program} {target : Target}

/-- There is an issue for each constant and each function that is reported, and one more for each function that
is reported twice. -/
theorem Program.length_issues (p : Program) (target : Target) :
    (p.analyze target).issues.length = p.constantFindings.countP Option.isSome +
      p.functions.countP (p.reported target) + p.functions.countP (p.reportedTwice target) := by
  have hfunctions := countP_add_countP (fun f => (p.signatureIssue? target f).isSome)
    (fun f => (p.bodyIssue? target f).isSome) p.functions
  rw [Program.issues_analyze, List.length_append, List.length_append, List.length_filterMap_eq_countP,
    List.length_filterMap_eq_countP, List.length_filterMap_eq_countP, Nat.add_assoc, hfunctions,
    ← Nat.add_assoc]
  rfl

/-- A function that is reported at most once is not reported twice. -/
theorem Program.ReportedOnce.reportedTwice {f : Function} (h : p.ReportedOnce target f) :
    p.reportedTwice target f = false := by
  have honce := h.once
  unfold Program.issuesOf at honce
  unfold Program.reportedTwice
  cases hsignature : p.signatureIssue? target f with
  | none => rfl
  | some issue =>
    cases hbody : p.bodyIssue? target f with
    | none => rfl
    | some second =>
      rw [hsignature, hbody] at honce
      exact absurd honce (Nat.not_succ_le_self 1)

/-- If no function is reported twice, there are no more issues than declarations. -/
theorem Program.length_issues_le (h : ∀ f ∈ p.functions, p.ReportedOnce target f) :
    (p.analyze target).issues.length ≤ p.constants.length + p.functions.length := by
  have htwice : p.functions.countP (p.reportedTwice target) = 0 := by
    rw [List.countP_eq_zero]
    intro f hf
    rw [(h f hf).reportedTwice]
    exact Bool.false_ne_true
  have hconstants : p.constantFindings.countP Option.isSome ≤ p.constants.length := by
    rw [← length_constantFindings p.constants .empty]
    exact List.countP_le_length
  have hfunctions : p.functions.countP (p.reported target) ≤ p.functions.length := List.countP_le_length
  rw [Program.length_issues, htwice]
  omega

end Counting

/-! ### One function -/

section Once

variable {p : Program} {target : Target} {f : Function}

/-- A function with nothing wrong in its body and nothing to list is reported for its signature only. -/
theorem Program.reportedOnce_of_body (hbody : p.bodyIssue? target f = none)
    (hregions : FunctionReport.listed FunctionReport.regions (p.outcome target f) = [])
    (hcalls : FunctionReport.listed FunctionReport.freshCalls (p.outcome target f) = []) :
    p.ReportedOnce target f := by
  constructor
  · rw [Program.issuesOf, hbody, Option.toList_none, List.append_nil]
    exact Option.length_toList_le
  · exact fun _ => ⟨hregions, hcalls⟩

/-- A function whose signature resolves is reported for its body only, and then nothing of it is listed. -/
theorem Program.reportedOnce_of_signature (h : p.signatureIssue? target f = none) :
    p.ReportedOnce target f := by
  have hissues : p.issuesOf target f = (p.bodyIssue? target f).toList := by
    rw [Program.issuesOf, h, Option.toList_none, List.nil_append]
  constructor
  · rw [hissues]
    exact Option.length_toList_le
  · intro hreported
    rw [hissues, Program.bodyIssue?] at hreported
    cases houtcome : p.outcome target f with
    | none => exact ⟨rfl, rfl⟩
    | some found =>
      cases found with
      | error issue => exact ⟨rfl, rfl⟩
      | ok report =>
        rw [houtcome] at hreported
        exact absurd rfl hreported

/-- A function is reported once exactly if its signature resolves, or no declaration of its name has one that
does, or its body passes under the one that does and has nothing to list. -/
theorem Program.reportedOnce_iff : p.ReportedOnce target f ↔
    p.signatureIssue? target f = none ∨
      (∀ g ∈ p.functions, g.name.text = f.name.text → p.signatureIssue? target g ≠ none) ∨
      ∃ report, p.outcome target f = some (.ok report) ∧ report.regions = [] ∧ report.freshCalls = [] := by
  rw [← Program.outcome_eq_none_iff]
  constructor
  · intro h
    cases hsignature : p.signatureIssue? target f with
    | none => exact Or.inl rfl
    | some issue =>
      -- the signature is reported, so whatever the body adds is too much
      have hreported : p.issuesOf target f ≠ [] := by
        rw [Program.issuesOf, hsignature]
        exact List.cons_ne_nil _ _
      obtain ⟨hregions, hcalls⟩ := h.excluded hreported
      have honce := h.reportedTwice
      rw [Program.reportedTwice, hsignature, Program.bodyIssue?] at honce
      cases houtcome : p.outcome target f with
      | none => exact Or.inr (Or.inl rfl)
      | some found =>
        rw [houtcome] at honce hregions hcalls
        cases found with
        | error second => exact absurd honce.symm Bool.false_ne_true
        | ok report => exact Or.inr (Or.inr ⟨report, rfl, hregions, hcalls⟩)
  · rintro (hsignature | houtcome | ⟨report, houtcome, hregions, hcalls⟩)
    · exact Program.reportedOnce_of_signature hsignature
    · exact Program.reportedOnce_of_body (by rw [Program.bodyIssue?, houtcome]; rfl) (by rw [houtcome]; rfl)
        (by rw [houtcome]; rfl)
    · exact Program.reportedOnce_of_body (by rw [Program.bodyIssue?, houtcome]; rfl)
        (by rw [houtcome]; exact hregions) (by rw [houtcome]; exact hcalls)

end Once

/-- The issues, the reports and the fresh calls of a program are what its declarations add to them. A constant
adds at most one issue. So does a function, and then it adds nothing else, unless its signature does not resolve
and another declaration of its name lets its body be looked at all the same. -/
theorem Program.declarations_reported_once_iff (p : Program) (target : Target) :
    ((p.analyze target).issues = p.constantFindings.filterMap id ++
        p.functions.filterMap (p.signatureIssue? target) ++ p.functions.filterMap (p.bodyIssue? target) ∧
      p.constantFindings.length = p.constants.length) ∧
    ((p.analyze target).regions = p.functions.flatMap
        (fun f => FunctionReport.listed FunctionReport.regions (p.outcome target f)) ∧
      (p.analyze target).freshCalls = p.functions.flatMap
        fun f => FunctionReport.listed FunctionReport.freshCalls (p.outcome target f)) ∧
    (∀ f, p.ReportedOnce target f ↔
      p.signatureIssue? target f = none ∨
        (∀ g ∈ p.functions, g.name.text = f.name.text → p.signatureIssue? target g ≠ none) ∨
        ∃ report, p.outcome target f = some (.ok report) ∧ report.regions = [] ∧ report.freshCalls = []) ∧
    (p.analyze target).issues.length = p.constantFindings.countP Option.isSome +
      p.functions.countP (p.reported target) + p.functions.countP (p.reportedTwice target) ∧
    ((∀ f ∈ p.functions, p.ReportedOnce target f) →
      (p.analyze target).issues.length ≤ p.constants.length + p.functions.length) ∧
    ((p.functions.map fun f => f.name.text).Nodup → ∀ f ∈ p.functions, p.ReportedOnce target f) := by
  refine ⟨⟨p.issues_analyze target, length_constantFindings _ _⟩, p.lists_analyze target,
    fun _ => Program.reportedOnce_iff, p.length_issues target, Program.length_issues_le, ?_⟩
  intro hnames f hf
  rw [Program.reportedOnce_iff, ← Program.outcome_eq_none_iff]
  by_cases hsignature : p.signatureIssue? target f = none
  · exact Or.inl hsignature
  · exact Or.inr (Or.inl (Program.outcome_of_signatureIssue? hnames hf hsignature))

section Scans

open Builder

/-- A function that refers to a name that is not declared. -/
def scanLost : Function :=
  let build : Builder Function := do
    function "scan" [] none [← eval (← ident "missing")] false
  (build.run 0).1

/-- One of the same name that passes. -/
def scanPixels : Function :=
  let build : Builder Function := do
    let region ← goFor "i" (← range (← int 0) (← int 8)) [← declare "x" none (← ident "i")]
    function "scan" [] none [region] false
  (build.run 100).1

/-- The program of the two functions. -/
def scans : Program :=
  { constants := [], functions := [scanLost, scanPixels] }

/-- Both signatures resolve, so the name that is declared twice does no harm. -/
theorem Program.declarations_reported_once_iff_scans :
    ¬ (scans.functions.map fun f => f.name.text).Nodup ∧
      (∀ f ∈ scans.functions, scans.ReportedOnce .standard f) ∧
      (scans.analyze .standard).issues.length ≤ scans.constants.length + scans.functions.length := by
  obtain ⟨-, -, honce, -, hlength, -⟩ := Program.declarations_reported_once_iff scans .standard
  have hresolve : ∀ f ∈ scans.functions, (scans.signatureIssue? .standard f).isNone = true := by
    decide +kernel
  have hall : ∀ f ∈ scans.functions, scans.ReportedOnce .standard f :=
    fun f hf => (honce f).2 (Or.inl (Option.isNone_iff_eq_none.1 (hresolve f hf)))
  exact ⟨by decide +kernel, hall, hlength hall⟩

/-- One with a parameter of a type that is not known. -/
def scanUnknown : Function :=
  let build : Builder Function := do
    function "scan" [← param "x" (← named "nope")] none [] false
  (build.run 200).1

/-- One that passes but for its result, which is of a type that is not known. -/
def scanReturn : Function :=
  let build : Builder Function := do
    function "scan" [] (some (← named "nope")) [] false
  { (build.run 300).1 with body := scanPixels.body }

/-- The program in which the second function has a parameter of an unknown type. -/
def rescans : Program :=
  { constants := [], functions := [scanLost, scanUnknown] }

/-- The program in which the first function passes but for its result. -/
def returns : Program :=
  { constants := [], functions := [scanReturn, scanPixels] }

/-- Two declarations bring three issues, and one that is reported has its region listed. -/
theorem Program.declarations_reported_rescans :
    (rescans.analyze .standard).issues.length = 3 ∧
      rescans.constants.length + rescans.functions.length = 2 ∧
      (rescans.issuesOf .standard scanUnknown).length = 2 ∧
      (returns.issuesOf .standard scanReturn).length = 1 ∧
      (FunctionReport.listed FunctionReport.regions (returns.outcome .standard scanReturn)).length = 1 ∧
      ¬ rescans.ReportedOnce .standard scanUnknown ∧ ¬ returns.ReportedOnce .standard scanReturn := by
  have htwo : (rescans.issuesOf .standard scanUnknown).length = 2 := by decide +kernel
  have hone : (returns.issuesOf .standard scanReturn).length = 1 := by decide +kernel
  have hregion : (FunctionReport.listed FunctionReport.regions
      (returns.outcome .standard scanReturn)).length = 1 := by decide +kernel
  refine ⟨by decide +kernel, rfl, htwo, hone, hregion, ?_, ?_⟩
  · intro h
    exact absurd h.once (by rw [htwo]; decide)
  · intro h
    have hreported : returns.issuesOf .standard scanReturn ≠ [] :=
      List.ne_nil_of_length_pos (by rw [hone]; decide)
    rw [(h.excluded hreported).1] at hregion
    cases hregion

end Scans

end Lanewise
