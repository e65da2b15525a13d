import Lanewise.Proofs.Findings
import Lanewise.Proofs.Launching
import Lanewise.Syntax.Builder
import Mathlib.Data.List.Perm.Basic

/-!
# Declarations are independent

What is found in a function depends on the other functions of the program only through the look-ups in the table
of signatures and through which of the names that it calls are launchers. If no name is declared twice, neither
depends on the order of the declarations, and the table does not depend on the bodies. So the functions of a
program may be put in any order, and the body of one may be replaced by any other as long as no name that another
one calls becomes or ceases to be a launcher: nothing changes in what is found in that other one
(`Program.functions_independent`).
-/

set_option autoImplicit false

namespace Lanewise

/-- Whether all that the analysis of a program lists is put down to its declarations, in their order: a function
has the reports and the fresh calls under its name, and what is wrong with its signature or with its body. -/
structure Program.Attributed (p : Program) (target : Target) : Prop where
  regions : (p.analyze target).regions =
    p.functions.flatMap fun f => (p.analyze target).regionsOf f.name.text
  freshCalls : (p.analyze target).freshCalls =
    p.functions.flatMap fun f => (p.analyze target).freshCalls.filter fun c => c.caller == f.name.text
  issues : (p.analyze target).issues = p.constantFindings.filterMap id ++
    p.functions.filterMap (p.signatureIssue? target) ++ p.functions.filterMap (p.bodyIssue? target)
  once : ∀ f ∈ p.functions, p.signatureIssue? target f = none ∨ p.bodyIssue? target f = none

/-- If no name is used twice, all that is listed is put down to a declaration. -/
theorem Program.attributed {p : Program} (hnames : (p.functions.map fun f => f.name.text).Nodup)
    (target : Target) : p.Attributed target := by
  obtain ⟨hregions, hcalls⟩ := p.lists_analyze target
  refine ⟨?_, ?_, p.issues_analyze target, ?_⟩
  · nth_rewrite 1 [hregions]
    exact List.flatMap_congr fun f hf => (p.lists_of_function target hnames hf).1.symm
  · nth_rewrite 1 [hcalls]
    exact List.flatMap_congr fun f hf => (p.lists_of_function target hnames hf).2.symm
  · intro f hf
    by_cases hsignature : p.signatureIssue? target f = none
    · exact Or.inl hsignature
    · have houtcome := Program.outcome_of_signatureIssue? hnames hf hsignature
      exact Or.inr (by rw [Program.bodyIssue?, houtcome, Option.bind_none])

/-- Whether two programs have the same reports, the same fresh calls and the same issues for a function. -/
structure Program.SameFindings (p q : Program) (target : Target) (f : Function) : Prop where
  regions : (q.analyze target).regionsOf f.name.text = (p.analyze target).regionsOf f.name.text
  freshCalls : (q.analyze target).freshCalls.filter (fun c => c.caller == f.name.text) =
    (p.analyze target).freshCalls.filter fun c => c.caller == f.name.text
  signatureIssue : q.signatureIssue? target f = p.signatureIssue? target f
  bodyIssue : q.bodyIssue? target f = p.bodyIssue? target f

/-- Programs with the same constants and the same outcome for a function say the same about it. -/
theorem Program.sameFindings_of_outcome {p q : Program} {target : Target} {f : Function}
    (hp : (p.functions.map fun f => f.name.text).Nodup) (hq : (q.functions.map fun f => f.name.text).Nodup)
    (hfp : f ∈ p.functions) (hfq : f ∈ q.functions) (hconstants : q.constants = p.constants)
    (houtcome : q.outcome target f = p.outcome target f) : p.SameFindings q target f := by
  obtain ⟨hregions, hcalls⟩ := p.lists_of_function target hp hfp
  obtain ⟨hregions', hcalls'⟩ := q.lists_of_function target hq hfq
  refine ⟨?_, ?_, ?_, ?_⟩
  · rw [hregions, hregions', houtcome]
  · rw [hcalls, hcalls', houtcome]
  · rw [Program.signatureIssue?, Program.signatureIssue?, Program.baseEnv, Program.baseEnv, hconstants]
  · rw [Program.bodyIssue?, Program.bodyIssue?, houtcome]

/-! ### Other orders -/

section Order

variable {p q : Program} (hnames : (p.functions.map fun f => f.name.text).Nodup)
  (hconstants : q.constants = p.constants) (hfunctions : q.functions.Perm p.functions)

include hnames hfunctions

/-- In another order still no name is used twice. -/
theorem Program.nodup_names_of_perm : (q.functions.map fun f => f.name.text).Nodup :=
  (hfunctions.map _).nodup_iff.2 hnames

/-- The order of the functions makes no difference to which of them are launchers. -/
theorem Program.mem_launchers_of_perm (name : String) : name ∈ q.launchers ↔ name ∈ p.launchers := by
  have hq := Program.nodup_names_of_perm hnames hfunctions
  constructor
  · exact fun h => Program.launchers_subset hnames (fun f hf => hfunctions.mem_iff.1 hf) h
  · exact fun h => Program.launchers_subset hq (fun f hf => hfunctions.mem_iff.2 hf) h

include hconstants

/-- The order of the functions makes no difference to their signatures. -/
theorem Program.find?_declare_of_perm (target : Target) (name : String) :
    (q.declare target).1.functions.find? name = (p.declare target).1.functions.find? name := by
  have hbase : q.baseEnv target = p.baseEnv target := by
    rw [Program.baseEnv, Program.baseEnv, hconstants]
  by_cases hname : name ∈ p.functions.map fun f => f.name.text
  · obtain ⟨f, hf, rfl⟩ := List.mem_map.1 hname
    have hq := Program.nodup_names_of_perm hnames hfunctions
    rw [Program.find?_declare hnames hf, Program.find?_declare hq (hfunctions.mem_iff.2 hf), hbase]
  · -- a name that no function has is as it was before the declarations, which depends on the constants only
    have hname' : name ∉ q.functions.map fun f => f.name.text :=
      fun h => hname ((hfunctions.map _).mem_iff.1 h)
    rw [Program.declare_fst, Program.declare_fst, find?_declareFunctions_of_notMem hname,
      find?_declareFunctions_of_notMem hname', hbase]

/-- The order of the functions makes no difference to what is declared but the order itself. -/
theorem Program.declare_alike_of_perm (target : Target) :
    (q.declare target).1.Alike (p.declare target).1 := by
  have hfind := Program.find?_declare_of_perm hnames hconstants hfunctions target
  rw [Program.declare_fst, Program.declare_fst] at hfind ⊢
  rw [declareFunctions_fst q.functions, declareFunctions_fst p.functions]
  refine ⟨rfl, ?_, rfl, hfind⟩
  show (q.baseEnv target).constants = (p.baseEnv target).constants
  rw [Program.baseEnv, Program.baseEnv, hconstants]

/-- The order of the functions makes no difference to what is found in one of them. -/
theorem Program.outcome_of_perm (target : Target) (f : Function) :
    q.outcome target f = p.outcome target f :=
  Function.outcome_alike (Program.declare_alike_of_perm hnames hconstants hfunctions target)
    (q.scopes_declare_ne_nil target) f fun name _ => Program.mem_launchers_of_perm hnames hfunctions name

end Order

/-! ### Other bodies -/

/-- A function with another body, if it has the given name. -/
def Function.withBody (name : String) (body : Block) (f : Function) : Function :=
  if f.name.text = name then { f with body } else f

/-- A program with another body for the functions of a name. -/
def Program.replaceBody (p : Program) (name : String) (body : Block) : Program :=
  { p with functions := p.functions.map (Function.withBody name body) }

section Bodies

variable (name : String) (body : Block)

/-- Another body keeps the name. -/
theorem Function.withBody_name (f : Function) : (f.withBody name body).name = f.name := by
  unfold Function.withBody
  split
  · rfl
  · rfl

/-- A function of another name keeps its body. -/
theorem Function.withBody_of_ne {f : Function} (h : f.name.text ≠ name) : f.withBody name body = f :=
  if_neg h

/-- A signature does not depend on the body. -/
theorem Function.signature_withBody (f : Function) (env : Env) :
    (f.withBody name body).signature env = f.signature env := by
  unfold Function.withBody
  split
  · rfl
  · rfl

/-- The declarations do not depend on the bodies. -/
theorem declareFunctions_withBody (fs : List Function) (env : Env) :
    declareFunctions (fs.map (Function.withBody name body)) env = declareFunctions fs env := by
  induction fs generalizing env with
  | nil => rfl
  | cons f rest ih =>
    simp only [List.map_cons, declareFunctions, Function.signature_withBody, Function.withBody_name, ih]

variable (p : Program)

/-- What a program declares does not depend on the body of a function. -/
theorem Program.declare_replaceBody (target : Target) :
    (p.replaceBody name body).declare target = p.declare target := by
  unfold Program.declare
  simp only [Program.replaceBody, declareFunctions_withBody]

/-- Another body keeps the names of a program. -/
theorem Program.names_replaceBody :
    (p.replaceBody name body).functions.map (fun f => f.name.text) = p.functions.map fun f => f.name.text := by
  simp only [Program.replaceBody, List.map_map]
  refine List.map_congr_left fun f _ => ?_
  rw [Function.comp_apply, Function.withBody_name]

/-- The functions of other names are still there. -/
theorem Program.mem_replaceBody {f : Function} (hf : f ∈ p.functions) (h : f.name.text ≠ name) :
    f ∈ (p.replaceBody name body).functions :=
  List.mem_map.2 ⟨f, hf, Function.withBody_of_ne name body h⟩

/-- Another body makes no difference to what is found in a function whose calls it leaves launchers or not, as
they were. -/
theorem Program.outcome_replaceBody (target : Target) {f : Function}
    (hcallees : ∀ callee ∈ f.callees, callee ∈ (p.replaceBody name body).launchers ↔ callee ∈ p.launchers) :
    (p.replaceBody name body).outcome target f = p.outcome target f := by
  rw [Program.outcome, Program.outcome, Program.declare_replaceBody]
  have hsame : (p.declare target).1.Alike (p.declare target).1 := ⟨rfl, rfl, rfl, fun _ => rfl⟩
  exact Function.outcome_alike hsame (p.scopes_declare_ne_nil target) f hcallees

end Bodies

/-- The functions of a program are analysed independently of each other and of their order. -/
theorem Program.functions_independent {p : Program}
    (hnames : (p.functions.map fun f => f.name.text).Nodup) (target : Target) :
    p.Attributed target ∧
    (∀ q : Program, q.constants = p.constants → q.functions.Perm p.functions →
      q.Attributed target ∧
      (∀ name, (q.analyze target).signatures.find? name = (p.analyze target).signatures.find? name) ∧
      ∀ f ∈ p.functions, p.SameFindings q target f) ∧
    ∀ g ∈ p.functions, ∀ body : Block,
      (p.replaceBody g.name.text body).Attributed target ∧
      ((p.replaceBody g.name.text body).analyze target).signatures = (p.analyze target).signatures ∧
      ∀ f ∈ p.functions, f.name.text ≠ g.name.text →
        (∀ callee ∈ f.callees,
          callee ∈ (p.replaceBody g.name.text body).launchers ↔ callee ∈ p.launchers) →
        p.SameFindings (p.replaceBody g.name.text body) target f := by
  refine ⟨Program.attributed hnames target, ?_, ?_⟩
  · intro q hconstants hfunctions
    have hq := Program.nodup_names_of_perm hnames hfunctions
    refine ⟨Program.attributed hq target, ?_, ?_⟩
    · intro name
      rw [Program.signatures_analyze, Program.signatures_analyze]
      exact Program.find?_declare_of_perm hnames hconstants hfunctions target name
    · intro f hf
      have houtcome := Program.outcome_of_perm hnames hconstants hfunctions target f
      exact Program.sameFindings_of_outcome hnames hq hf (hfunctions.mem_iff.2 hf) hconstants houtcome
  · intro g _ body
    have hq : ((p.replaceBody g.name.text body).functions.map fun f => f.name.text).Nodup := by
      rw [Program.names_replaceBody]
      exact hnames
    refine ⟨Program.attributed hq target, ?_, ?_⟩
    · rw [Program.signatures_analyze, Program.signatures_analyze, Program.declare_replaceBody]
    · intro f hf hother hcallees
      have hfq := p.mem_replaceBody g.name.text body hf hother
      have houtcome := p.outcome_replaceBody g.name.text body target hcallees
      exact Program.sameFindings_of_outcome hnames hq hf hfq rfl houtcome

section Trio

open Builder

/-- A function that launches a region. -/
def blur : Function :=
  let build : Builder Function := do
    let region ← goFor "i" (← range (← int 0) (← int 8)) [← declare "x" none (← ident "i")]
    function "blur" [] none [region] false
  (build.run 0).1

/-- A function that calls it. -/
def frame : Function :=
  let build : Builder Function := do
    function "frame" [] none [← eval (← call "blur" [])] false
  (build.run 100).1

/-- A function that fails inside of a nested scope. -/
def lost : Function :=
  let build : Builder Function := do
    let inner ← ifThen (← bool true) [← eval (← ident "nowhere")]
    function "lost" [] none [← ifThen (← bool true) [inner]] false
  (build.run 200).1

/-- The program of the three functions. -/
def trio : Program :=
  { constants := [], functions := [blur, lost, frame] }

/-- Neither the other order nor the end of the failure changes what is found in the other two functions. -/
theorem Program.functions_independent_trio :
    (trio.functions.map fun f => f.name.text).Nodup ∧
      (trio.analyze .standard).issues.length = 1 ∧
      ((trio.analyze .standard).regionsOf blur.name.text).length = 1 ∧
      trio.SameFindings { trio with functions := trio.functions.reverse } .standard blur ∧
      "blur" ∈ frame.callees ∧
      trio.SameFindings (trio.replaceBody lost.name.text blur.body) .standard frame := by
  have hnames : (trio.functions.map fun f => f.name.text).Nodup := by decide +kernel
  have hblur : blur ∈ trio.functions := .head _
  have hlost : lost ∈ trio.functions := .tail _ (.head _)
  have hframe : frame ∈ trio.functions := .tail _ (.tail _ (.head _))
  have hother : frame.name.text ≠ lost.name.text := by decide +kernel
  have hcallees : ∀ callee ∈ frame.callees,
      callee ∈ (trio.replaceBody lost.name.text blur.body).launchers ↔ callee ∈ trio.launchers := by
    decide +kernel
  obtain ⟨-, horders, hbodies⟩ := Program.functions_independent hnames .standard
  obtain ⟨-, -, hreversed⟩ := horders { trio with functions := trio.functions.reverse } rfl
    trio.functions.reverse_perm
  obtain ⟨-, -, hreplaced⟩ := hbodies lost hlost blur.body
  exact ⟨hnames, by decide +kernel, by decide +kernel, hreversed blur hblur, by decide +kernel,
    hreplaced frame hframe hother hcallees⟩

end Trio

end Lanewise
