import Lanewise.Analysis
import Lanewise.Proofs.Contexts
import Lanewise.Proofs.Restoring
import Lanewise.Proofs.TypeResolution
import Mathlib.Data.List.Forall2

/-!
# Functions are analysed on their own

The check of a function gives the environment back as it was, so every function of a program is analysed in
the environment of the declarations. What the analysis of a program finds is then what it finds in each
function, put together in order (`Program.analyze_eq_foldl`).
-/

set_option autoImplicit false

namespace Lanewise

/-! ### Signatures -/

/-- Whether a type is written as a varying type. -/
def TypeExpr.isVarying : TypeExpr → Bool
  | .varying .. => true
  | _ => false

/-- Whether a function takes a varying parameter. -/
def Function.hasVaryingParam (f : Function) : Bool :=
  f.params.any fun p => p.type.isVarying

/-- A written type means a varying one exactly if it is written as varying. -/
theorem TypeExpr.isVarying_of_resolve {env : Env} {t : TypeExpr} {l : LaneType}
    (h : t.resolve env = .ok l) : l.isVarying = t.isVarying := by
  cases TypeExpr.resolve_eq_ok.1 h with
  | void | uniform | native | universal | fixed | chan => rfl

/-- What can be told of a type from the way in which it is written can be told of a list of parameters. -/
theorem Param.any_of_resolve {env : Env} {holds : LaneType → Bool} {written : TypeExpr → Bool}
    (htype : ∀ {t l}, TypeExpr.resolve env t = .ok l → holds l = written t) {params : List Param}
    {types : List LaneType} (h : params.mapM (fun p => p.type.resolve env) = .ok types) :
    types.any holds = params.any fun p => written p.type := by
  induction params generalizing types with
  | nil =>
    cases h
    rfl
  | cons p rest ih =>
    rw [List.mapM_cons] at h
    obtain ⟨t, ht, h⟩ := Except.bind_eq_ok.1 h
    obtain ⟨others, hothers, h⟩ := Except.bind_eq_ok.1 h
    cases h
    rw [List.any_cons, List.any_cons, htype ht, ih hothers]

/-- What the signature of a function has is what its declaration says. -/
theorem Function.signature_ok {env : Env} {f : Function} {s : Signature} (h : f.signature env = .ok s) :
    f.params.mapM (fun p => p.type.resolve env) = .ok s.params ∧
      (f.result = none ∧ s.result = .void ∨ ∃ t, f.result = some t ∧ t.resolve env = .ok s.result) ∧
      s.isPublic = f.isPublic ∧ s.span = f.span := by
  obtain ⟨types, htypes, h⟩ := Except.bind_eq_ok.1 h
  cases hresult : f.result with
  | none =>
    rw [hresult] at h
    cases h
    exact ⟨htypes, Or.inl ⟨rfl, rfl⟩, rfl, rfl⟩
  | some t =>
    rw [hresult] at h
    obtain ⟨result, hresolve, h⟩ := Except.bind_eq_ok.1 h
    cases h
    exact ⟨htypes, Or.inr ⟨t, rfl, hresolve⟩, rfl, rfl⟩

/-- The body of a function is a region exactly if a parameter is written as varying. -/
theorem Function.isRegion_of_signature {env : Env} {f : Function} {s : Signature}
    (h : f.signature env = .ok s) : s.isRegion = f.hasVaryingParam :=
  Param.any_of_resolve TypeExpr.isVarying_of_resolve (Function.signature_ok h).1

/-! ### Declarations -/

/-- Declaring functions opens and closes no scope. -/
theorem scopes_declareFunctions (fs : List Function) (env : Env) :
    (declareFunctions fs env).1.scopes = env.scopes := by
  induction fs generalizing env with
  | nil => rfl
  | cons f rest ih =>
    rw [declareFunctions]
    split
    · rw [ih]
    · exact ih env

/-- After the declarations one scope is open, and it is empty. -/
theorem Program.scopes_declare (p : Program) (target : Target) :
    (p.declare target).1.scopes = [.empty] :=
  scopes_declareFunctions _ _

/-- After the declarations a scope is open. -/
theorem Program.scopes_declare_ne_nil (p : Program) (target : Target) :
    (p.declare target).1.scopes ≠ [] := by
  rw [Program.scopes_declare]
  exact List.cons_ne_nil _ _

/-- Declarations leave what is known under other names. -/
theorem find?_declareFunctions_of_notMem {fs : List Function} {name : String}
    (h : name ∉ fs.map fun f => f.name.text) (env : Env) :
    (declareFunctions fs env).1.functions.find? name = env.functions.find? name := by
  induction fs generalizing env with
  | nil => rfl
  | cons f rest ih =>
    rw [List.map_cons, List.mem_cons, not_or] at h
    rw [declareFunctions]
    split
    · rw [ih h.2, Assoc.find?_insert, if_neg h.1]
    · exact ih h.2 env

/-- If no name is declared twice, a declared name has the signature that its function denotes. -/
theorem exists_signature_of_find? {fs : List Function}
    (hnames : (fs.map fun f => f.name.text).Nodup) {f : Function} (hf : f ∈ fs) {env : Env}
    (hfresh : env.functions.find? f.name.text = none) {s : Signature}
    (hs : (declareFunctions fs env).1.functions.find? f.name.text = some s) :
    ∃ before, f.signature before = .ok s := by
  induction fs generalizing env with
  | nil => cases hf
  | cons first rest ih =>
    rw [List.map_cons, List.nodup_cons] at hnames
    rw [declareFunctions] at hs
    rcases List.mem_cons.1 hf with rfl | hf
    · -- no later declaration has the same name, so the entry is the one made here
      split at hs
      · rename_i s' hsignature
        rw [find?_declareFunctions_of_notMem hnames.1, Assoc.find?_insert, if_pos rfl] at hs
        cases hs
        exact ⟨env, hsignature⟩
      · have hnone := find?_declareFunctions_of_notMem hnames.1 env
        rw [hfresh] at hnone
        exact absurd (hnone.symm.trans hs) (by simp)
    · have hne : f.name.text ≠ first.name.text := by
        intro heq
        exact hnames.1 (heq ▸ List.mem_map_of_mem hf)
      split at hs
      · exact ih hnames.2 hf (by rw [Assoc.find?_insert, if_neg hne, hfresh]) hs
      · exact ih hnames.2 hf hfresh hs

/-! ### One function after another -/

/-- The analysis of a function gives the environment back. -/
theorem Function.analyze_env {env : Env} (hopen : env.scopes ≠ []) (f : Function) (s : Signature)
    (launchers : List String) : (f.analyze s env launchers).2 = env := by
  have hcheck := Function.check_env hopen f
  unfold Function.analyze
  split
  · rfl
  · split
    · rename_i hrun
      rw [hrun] at hcheck
      exact hcheck
    · rename_i hrun
      rw [hrun] at hcheck
      exact hcheck

/-- Results of a list of steps are results of the single steps, one by one. -/
theorem Except.mapM_eq_ok {ε α β : Type} {f : α → Except ε β} {l : List α} {out : List β} :
    l.mapM f = .ok out ↔ List.Forall₂ (fun a b => f a = .ok b) l out := by
  induction l generalizing out with
  | nil =>
    rw [List.mapM_nil, List.forall₂_nil_left_iff]
    exact ⟨fun h => (Except.ok.inj h).symm, fun h => congrArg Except.ok h.symm⟩
  | cons a rest ih =>
    rw [List.mapM_cons, Except.bind_eq_ok, List.forall₂_cons_left_iff]
    simp only [Except.bind_eq_ok, ih]
    constructor
    · rintro ⟨b, hb, others, hothers, h⟩
      exact ⟨b, others, hb, hothers, (Except.ok.inj h).symm⟩
    · rintro ⟨b, others, hb, hothers, rfl⟩
      exact ⟨b, hb, others, hothers, rfl⟩

/-- What it takes for a function to pass. -/
theorem Function.analyze_ok {f : Function} {s : Signature} {env env' : Env} {launchers : List String}
    {report : FunctionReport} (h : f.analyze s env launchers = (.ok report, env')) :
    ∃ types, f.check env = (.ok types, env') ∧
      f.checkContext { types, launchers, wholeBody := s.isRegion } = .ok () ∧
      List.Forall₂ (fun region r => region.analyze env' types = .ok r) (f.regions s) report.regions ∧
      report.freshCalls = f.freshCalls env' := by
  unfold Function.analyze at h
  split at h
  · cases h
  · split at h
    · cases h
    · rename_i types after hcheck
      obtain ⟨htyped, rfl⟩ := Prod.mk.inj h
      obtain ⟨_, hcontext, hrest⟩ := Except.bind_eq_ok.1 htyped
      obtain ⟨regions, hregions, hreport⟩ := Except.bind_eq_ok.1 hrest
      cases hreport
      exact ⟨types, hcheck, hcontext, Except.mapM_eq_ok.1 hregions, rfl⟩

/-- What the analysis says about a function in an environment: nothing if it has no signature there. -/
def Function.outcome (f : Function) (env : Env) (launchers : List String) :
    Option (Except Issue FunctionReport) :=
  (env.functions.find? f.name.text).map fun s => (f.analyze s env launchers).1

/-- Adds what was said about one function to an analysis. -/
def Analysis.add (a : Analysis) : Option (Except Issue FunctionReport) → Analysis
  | none => a
  | some (.ok report) =>
    { a with
      regions := a.regions ++ report.regions
      freshCalls := a.freshCalls ++ report.freshCalls }
  | some (.error issue) => { a with issues := a.issues ++ [issue] }

/-- With a scope open, the functions are analysed one by one in the environment of the declarations. -/
theorem analyzeFunctions_eq_foldl {env : Env} (hopen : env.scopes ≠ []) (launchers : List String)
    (fs : List Function) (acc : Analysis) :
    analyzeFunctions launchers fs env acc =
      fs.foldl (fun a f => a.add (f.outcome env launchers)) acc := by
  induction fs generalizing acc with
  | nil => rfl
  | cons f rest ih =>
    rw [analyzeFunctions, List.foldl_cons, Function.outcome]
    cases hs : env.functions.find? f.name.text with
    | none => exact ih acc
    | some s =>
      have henv := f.analyze_env hopen s launchers
      cases hrun : f.analyze s env launchers with
      | mk outcome after =>
        -- the next function is analysed in the environment that this one left, which is the same
        rw [hrun] at henv
        obtain rfl : after = env := henv
        cases outcome with
        | ok report =>
          simp only [Option.map_some, hrun]
          exact ih _
        | error issue =>
          simp only [Option.map_some, hrun]
          exact ih _

/-- What the analysis of a program says about one of its functions. -/
def Program.outcome (p : Program) (target : Target) (f : Function) :
    Option (Except Issue FunctionReport) :=
  f.outcome (p.declare target).1 p.launchers

/-- The analysis of a program says about each function what it says about it on its own. -/
theorem Program.analyze_eq_foldl (p : Program) (target : Target) :
    p.analyze target =
      p.functions.foldl (fun a f => a.add (p.outcome target f))
        { signatures := (p.declare target).1.functions, regions := [], freshCalls := [],
          issues := (p.declare target).2 } :=
  analyzeFunctions_eq_foldl (p.scopes_declare_ne_nil target) p.launchers p.functions _

/-- What is reported about a function: nothing if it did not pass. -/
def FunctionReport.listed {α : Type} (field : FunctionReport → List α) :
    Option (Except Issue FunctionReport) → List α
  | some (.ok report) => field report
  | _ => []

/-- What is listed for a function is in the report of one that passes. -/
theorem FunctionReport.mem_listed {α : Type} {field : FunctionReport → List α}
    {outcome : Option (Except Issue FunctionReport)} {x : α}
    (h : x ∈ FunctionReport.listed field outcome) :
    ∃ report, outcome = some (.ok report) ∧ x ∈ field report := by
  unfold FunctionReport.listed at h
  split at h
  · exact ⟨_, rfl, h⟩
  · cases h

/-- Adding functions one by one appends the regions and the fresh calls of each, in order. -/
theorem Analysis.lists_foldl (outcome : Function → Option (Except Issue FunctionReport))
    (fs : List Function) (a : Analysis) :
    (fs.foldl (fun a f => a.add (outcome f)) a).regions =
        a.regions ++ fs.flatMap (fun f => FunctionReport.listed FunctionReport.regions (outcome f)) ∧
      (fs.foldl (fun a f => a.add (outcome f)) a).freshCalls =
        a.freshCalls ++ fs.flatMap (fun f => FunctionReport.listed FunctionReport.freshCalls (outcome f)) := by
  induction fs generalizing a with
  | nil => simp
  | cons f rest ih =>
    obtain ⟨hregions, hcalls⟩ := ih (a.add (outcome f))
    rw [List.foldl_cons, hregions, hcalls, List.flatMap_cons, List.flatMap_cons, ← List.append_assoc,
      ← List.append_assoc]
    cases outcome f with
    | none => simp [Analysis.add, FunctionReport.listed]
    | some found =>
      cases found with
      | ok report => exact ⟨rfl, rfl⟩
      | error issue => simp [Analysis.add, FunctionReport.listed]

/-- The reports and fresh calls of a program are those of its functions, in order. -/
theorem Program.lists_analyze (p : Program) (target : Target) :
    (p.analyze target).regions =
        p.functions.flatMap (fun f => FunctionReport.listed FunctionReport.regions (p.outcome target f)) ∧
      (p.analyze target).freshCalls =
        p.functions.flatMap fun f =>
          FunctionReport.listed FunctionReport.freshCalls (p.outcome target f) := by
  rw [Program.analyze_eq_foldl]
  exact Analysis.lists_foldl (p.outcome target) p.functions _

/-- The reports of a function that passes are among those of the program. -/
theorem Program.regions_of_outcome {p : Program} {target : Target} {f : Function}
    {report : FunctionReport} (hf : f ∈ p.functions) (h : p.outcome target f = some (.ok report)) :
    report.regions <:+: (p.analyze target).regions := by
  rw [(p.lists_analyze target).1, List.flatMap_def]
  apply List.infix_of_mem_flatten
  rw [List.mem_map]
  exact ⟨f, hf, by rw [h]; rfl⟩

/-- A function of a program that passes does so in the environment of the declarations. -/
theorem Program.analyze_of_outcome {p : Program} {target : Target} {f : Function}
    {report : FunctionReport} (h : p.outcome target f = some (.ok report)) :
    ∃ s, (p.declare target).1.functions.find? f.name.text = some s ∧
      f.analyze s (p.declare target).1 p.launchers = (.ok report, (p.declare target).1) := by
  obtain ⟨s, hs, hreport⟩ := Option.map_eq_some_iff.1 h
  have henv := f.analyze_env (p.scopes_declare_ne_nil target) s p.launchers
  exact ⟨s, hs, Prod.ext hreport henv⟩

/-- A function that passes keeps to the context rules, for the types that its check found. -/
theorem Program.context_of_outcome {p : Program} {target : Target} {f : Function}
    {report : FunctionReport} (hnames : (p.functions.map fun f => f.name.text).Nodup)
    (hf : f ∈ p.functions) (h : p.outcome target f = some (.ok report)) :
    ∃ types, f.checkContext
      { types, launchers := p.launchers, wholeBody := f.hasVaryingParam } = .ok () := by
  obtain ⟨s, hs, hanalyze⟩ := Program.analyze_of_outcome h
  obtain ⟨before, hsignature⟩ := exists_signature_of_find? hnames hf rfl hs
  obtain ⟨types, -, hcontext, -⟩ := Function.analyze_ok hanalyze
  rw [Function.isRegion_of_signature hsignature] at hcontext
  exact ⟨types, hcontext⟩

end Lanewise
