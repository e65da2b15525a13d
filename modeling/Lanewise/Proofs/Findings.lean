import Lanewise.Proofs.AlikeTables
import Lanewise.Proofs.CallRecords
import Mathlib.Data.List.Nodup

/-!
# What is found wrong with each declaration

The issues of a program are listed by three loops: over the constants, over the signatures of the functions, and
over their bodies. Here each issue is put down to the declaration that it comes from
(`Program.issues_analyze`): a constant brings at most one, and a function one if its signature does not resolve
and one if its body fails.

A body is looked at if the name of its function has a signature. Under a name that is declared once, that is the
case exactly if the signature of that function resolves (`Program.find?_declare`).
-/

set_option autoImplicit false

namespace Lanewise

/-- What was found wrong, if anything was. -/
def Issue.of? {α : Type} : Except Issue α → Option Issue
  | .ok _ => none
  | .error issue => some issue

/-- Nothing is found wrong where there is a result. -/
@[simp] theorem Issue.of?_ok {α : Type} (a : α) : Issue.of? (.ok a) = none := rfl

/-- What is found wrong is the issue that was raised. -/
@[simp] theorem Issue.of?_error {α : Type} (issue : Issue) :
    Issue.of? (.error issue : Except Issue α) = some issue := rfl

/-! ### Constants -/

/-- What is found wrong with each of some constants, in order. -/
def constantFindings : List Constant → NameMap Int64 → List (Option Issue)
  | [], _ => []
  | c :: rest, constants =>
    match c.value.constantValue constants with
    | .ok v => none :: constantFindings rest (constants.insert c.name.text v)
    | .error issue => some issue :: constantFindings rest constants

/-- There is one finding, if an empty one, for each constant. -/
theorem length_constantFindings (cs : List Constant) (constants : NameMap Int64) :
    (constantFindings cs constants).length = cs.length := by
  induction cs generalizing constants with
  | nil => rfl
  | cons c rest ih =>
    rw [constantFindings]
    split
    · rw [List.length_cons, ih, List.length_cons]
    · rw [List.length_cons, ih, List.length_cons]

/-- The issues of the constants are the findings that are not empty. -/
theorem issues_declareConstants (cs : List Constant) (constants : NameMap Int64) :
    (declareConstants cs constants).2 = (constantFindings cs constants).filterMap id := by
  induction cs generalizing constants with
  | nil => rfl
  | cons c rest ih =>
    cases hc : c.value.constantValue constants with
    | ok v =>
      simp only [declareConstants, constantFindings, hc]
      exact ih _
    | error issue =>
      simp only [declareConstants, constantFindings, hc]
      exact congrArg (issue :: ·) (ih constants)

/-! ### Signatures -/

/-- Declarations of functions change nothing but the table of functions. -/
theorem declareFunctions_fst (fs : List Function) (env : Env) :
    (declareFunctions fs env).1 = { env with functions := (declareFunctions fs env).1.functions } := by
  induction fs generalizing env with
  | nil => rfl
  | cons f rest ih =>
    rw [declareFunctions]
    split
    · exact ih _
    · exact ih env

/-- A signature does not depend on the functions declared so far. -/
theorem Function.signature_functions (f : Function) (env : Env) (m : NameMap Signature) :
    f.signature { env with functions := m } = f.signature env :=
  @Function.signature_congr { env with functions := m } env rfl rfl f

/-- The issues of the declared functions are those of their signatures, in order. -/
theorem issues_declareFunctions (fs : List Function) (env : Env) :
    (declareFunctions fs env).2 = fs.filterMap fun f => Issue.of? (f.signature env) := by
  induction fs generalizing env with
  | nil => rfl
  | cons f rest ih =>
    cases hs : f.signature env with
    | ok s => simp only [declareFunctions, List.filterMap_cons, hs, Issue.of?_ok, ih, Function.signature_functions]
    | error issue => simp only [declareFunctions, List.filterMap_cons, hs, Issue.of?_error, ih]

/-- A name has a signature exactly if it had one before or some function of that name has one. -/
theorem isSome_find?_declareFunctions {fs : List Function} {env : Env} {name : String} :
    ((declareFunctions fs env).1.functions.find? name).isSome = true ↔
      (env.functions.find? name).isSome = true ∨
        ∃ f ∈ fs, f.name.text = name ∧ Issue.of? (f.signature env) = none := by
  induction fs generalizing env with
  | nil => simp [declareFunctions]
  | cons f rest ih =>
    rw [declareFunctions]
    split
    · rename_i s hs
      rw [ih, Assoc.find?_insert]
      simp only [Function.signature_functions, List.exists_mem_cons_iff, hs, Issue.of?_ok, and_true]
      by_cases hname : name = f.name.text
      · simp [hname]
      · simp [hname, Ne.symm hname]
    · rename_i issue hs
      show ((declareFunctions rest env).1.functions.find? name).isSome = true ↔ _
      rw [ih]
      simp [hs]

/-- A signature comes from a function of that name, or was there before. -/
theorem signature_of_find? {fs : List Function} {env : Env} {name : String} {s : Signature}
    (h : (declareFunctions fs env).1.functions.find? name = some s) :
    env.functions.find? name = some s ∨ ∃ f ∈ fs, f.name.text = name ∧ f.signature env = .ok s := by
  induction fs generalizing env with
  | nil => exact Or.inl h
  | cons f rest ih =>
    rw [declareFunctions] at h
    split at h
    · rename_i found hfound
      rcases ih h with hbefore | ⟨g, hg, hname, hsignature⟩
      · rw [Assoc.find?_insert] at hbefore
        split at hbefore
        · rename_i hname
          cases hbefore
          exact Or.inr ⟨f, List.mem_cons_self, hname.symm, hfound⟩
        · exact Or.inl hbefore
      · rw [Function.signature_functions] at hsignature
        exact Or.inr ⟨g, List.mem_cons_of_mem _ hg, hname, hsignature⟩
    · rcases ih h with hbefore | ⟨g, hg, hname, hsignature⟩
      · exact Or.inl hbefore
      · exact Or.inr ⟨g, List.mem_cons_of_mem _ hg, hname, hsignature⟩

namespace Program

/-- The environment of a program before its functions are declared. -/
def baseEnv (p : Program) (target : Target) : Env :=
  { Env.initial target with constants := (declareConstants p.constants .empty).1 }

/-- The declared environment is that of the constants, with the functions added. -/
theorem declare_fst (p : Program) (target : Target) :
    (p.declare target).1 = (declareFunctions p.functions (p.baseEnv target)).1 := rfl

/-- What is wrong with the signature of a function. -/
def signatureIssue? (p : Program) (target : Target) (f : Function) : Option Issue :=
  Issue.of? (f.signature (p.baseEnv target))

/-- What is wrong with the body of a function that is looked at. -/
def bodyIssue? (p : Program) (target : Target) (f : Function) : Option Issue :=
  (p.outcome target f).bind Issue.of?

/-- What is wrong with the constants of a program, one by one. -/
def constantFindings (p : Program) : List (Option Issue) :=
  Lanewise.constantFindings p.constants .empty

section Table

variable {p : Program} {target : Target} {f : Function}

/-- If no name is declared twice, a name has the signature of its function, or none if that does not resolve. -/
theorem find?_declare (hnames : (p.functions.map fun f => f.name.text).Nodup) (hf : f ∈ p.functions) :
    (p.declare target).1.functions.find? f.name.text = (f.signature (p.baseEnv target)).toOption := by
  have hsame : ∀ g ∈ p.functions, g.name.text = f.name.text → g = f :=
    fun g hg hname => List.inj_on_of_nodup_map hnames hg hf hname
  rw [declare_fst]
  cases hfind : (declareFunctions p.functions (p.baseEnv target)).1.functions.find? f.name.text with
  | some s =>
    rcases signature_of_find? hfind with hbefore | ⟨g, hg, hname, hsignature⟩
    · cases hbefore
    · rw [hsame g hg hname] at hsignature
      rw [hsignature]
      rfl
  | none =>
    cases hsignature : f.signature (p.baseEnv target) with
    | error issue => rfl
    | ok s =>
      have hresolves : Issue.of? (f.signature (p.baseEnv target)) = none := by rw [hsignature, Issue.of?_ok]
      have hsome := isSome_find?_declareFunctions.2 (Or.inr ⟨f, hf, rfl, hresolves⟩)
      rw [hfind] at hsome
      cases hsome

/-- A body is not looked at exactly if no function of its name has a signature that resolves. -/
theorem outcome_eq_none_iff : p.outcome target f = none ↔
    ∀ g ∈ p.functions, g.name.text = f.name.text → p.signatureIssue? target g ≠ none := by
  rw [outcome, Function.outcome, Option.map_eq_none_iff, ← Option.not_isSome_iff_eq_none, declare_fst,
    isSome_find?_declareFunctions]
  have hbefore : ¬ ((p.baseEnv target).functions.find? f.name.text).isSome = true := Bool.false_ne_true
  rw [or_iff_right hbefore, not_exists]
  exact ⟨fun h g hg hname hissue => h g ⟨hg, hname, hissue⟩, fun h g hg => h g hg.1 hg.2.1 hg.2.2⟩

/-- If no name is declared twice, the body of a function is only looked at if its signature resolves. -/
theorem outcome_of_signatureIssue? (hnames : (p.functions.map fun f => f.name.text).Nodup)
    (hf : f ∈ p.functions) (h : p.signatureIssue? target f ≠ none) : p.outcome target f = none := by
  rw [outcome_eq_none_iff]
  intro g hg hname
  rw [List.inj_on_of_nodup_map hnames hg hf hname]
  exact h

end Table

end Program

/-! ### Bodies -/

/-- Adding functions one by one appends the issue of each that has one, and keeps the signatures. -/
theorem Analysis.issues_foldl (outcome : Function → Option (Except Issue FunctionReport))
    (fs : List Function) (a : Analysis) :
    (fs.foldl (fun a f => a.add (outcome f)) a).issues =
        a.issues ++ fs.filterMap (fun f => (outcome f).bind Issue.of?) ∧
      (fs.foldl (fun a f => a.add (outcome f)) a).signatures = a.signatures := by
  induction fs generalizing a with
  | nil => simp
  | cons f rest ih =>
    obtain ⟨hissues, hsignatures⟩ := ih (a.add (outcome f))
    rw [List.foldl_cons, hissues, hsignatures, List.filterMap_cons]
    cases outcome f with
    | none => exact ⟨rfl, rfl⟩
    | some found =>
      cases found with
      | ok report => exact ⟨rfl, rfl⟩
      | error issue =>
        refine ⟨?_, rfl⟩
        simp [Analysis.add]

/-- The issues of a program are those of its constants, of the signatures and of the bodies of its functions. -/
theorem Program.issues_analyze (p : Program) (target : Target) :
    (p.analyze target).issues = p.constantFindings.filterMap id ++
      p.functions.filterMap (p.signatureIssue? target) ++ p.functions.filterMap (p.bodyIssue? target) := by
  rw [Program.analyze_eq_foldl, (Analysis.issues_foldl (p.outcome target) p.functions _).1]
  have hdeclared : (p.declare target).2 = (declareConstants p.constants .empty).2 ++
      (declareFunctions p.functions (p.baseEnv target)).2 := rfl
  rw [hdeclared, issues_declareConstants, issues_declareFunctions]
  rfl

/-- The signatures of an analysis are those of the declared functions. -/
theorem Program.signatures_analyze (p : Program) (target : Target) :
    (p.analyze target).signatures = (p.declare target).1.functions := by
  rw [Program.analyze_eq_foldl, (Analysis.issues_foldl (p.outcome target) p.functions _).2]

end Lanewise
