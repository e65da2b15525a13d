import Lanewise.Mask.Report
import Lanewise.Region.Context
import Lanewise.Region.Launchers
import Lanewise.Typing.Body

/-!
# Analysis of programs

A program is analysed in three passes: types, contexts, masks. A declaration that fails is reported with
its first issue and left out; the others are still analysed.
-/

set_option autoImplicit false

namespace Lanewise

/-- What the analysis of a program hands to code generation. -/
structure Analysis where
  /-- The signatures that resolved, also those of functions that failed later. -/
  signatures : NameMap Signature
  /-- The reports of all regions of the functions that passed. -/
  regions : List RegionReport
  /-- The region calls from uniform code of the functions that passed. -/
  freshCalls : List RegionCall
  /-- What was found wrong. -/
  issues : List Issue

namespace Analysis

/-- Whether nothing was found wrong. -/
def isOk (a : Analysis) : Bool :=
  a.issues.isEmpty

/-- The diagnostics of what was found wrong. -/
def diagnostics (a : Analysis) : List Diagnostic :=
  a.issues.map Issue.diagnostic

/-- The reports of the regions of one function. -/
def regionsOf (a : Analysis) (function : String) : List RegionReport :=
  a.regions.filter fun r => r.function == function

/-- The text of the diagnostics. -/
def diagnosticsJson (a : Analysis) : String :=
  Diagnostic.listJson a.diagnostics

end Analysis

/-- What the analysis finds in one function that passes. -/
structure FunctionReport where
  regions : List RegionReport
  freshCalls : List RegionCall

/-- The passes after the types of a body are known. -/
def Function.analyzeTyped (f : Function) (s : Signature) (env : Env) (launchers : List String)
    (types : TypeRecord) : Except Issue FunctionReport := do
  f.checkContext { types, launchers, wholeBody := s.isRegion }
  let regions ← (f.regions s).mapM fun r => r.analyze env types
  return { regions, freshCalls := f.freshCalls env }

/-- All passes over one function, and the environment afterwards. -/
def Function.analyze (f : Function) (s : Signature) (env : Env) (launchers : List String) :
    Except Issue FunctionReport × Env :=
  match s.expectPrivateLanes f.name.text with
  | .error issue => (.error issue, env)
  | .ok _ =>
    match f.check env with
    | (.error issue, env) => (.error issue, env)
    | (.ok types, env) => (f.analyzeTyped s env launchers types, env)

/-- Analyses functions in order, and adds what is found to an analysis. A function without a signature
was reported before. -/
def analyzeFunctions (launchers : List String) : List Function → Env → Analysis → Analysis
  | [], _, acc => acc
  | f :: rest, env, acc =>
    match env.functions.find? f.name.text with
    | none => analyzeFunctions launchers rest env acc
    | some s =>
      match f.analyze s env launchers with
      | (.ok report, env) =>
        analyzeFunctions launchers rest env
          { acc with
            regions := acc.regions ++ report.regions
            freshCalls := acc.freshCalls ++ report.freshCalls }
      | (.error issue, env) =>
        analyzeFunctions launchers rest env { acc with issues := acc.issues ++ [issue] }

/-- The environment of a program for a target, and the issues of its declarations. -/
def Program.declare (p : Program) (target : Target) : Env × List Issue :=
  let (constants, constantIssues) := declareConstants p.constants .empty
  let (env, functionIssues) :=
    declareFunctions p.functions { Env.initial target with constants }
  (env, constantIssues ++ functionIssues)

/-- Analyses a program for a target. -/
def Program.analyze (p : Program) (target : Target) : Analysis :=
  let (env, issues) := p.declare target
  analyzeFunctions p.launchers p.functions env
    { signatures := env.functions, regions := [], freshCalls := [], issues }

end Lanewise
