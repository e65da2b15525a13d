import Lanewise.Proofs.Findings
import Lanewise.Proofs.TypeResolution
import Lanewise.Syntax.Builder

/-!
# Lanes in public signatures

A public function is to keep lane counts inside its module. A type shows lanes if it is varying, and also if it is a
channel of values that show lanes, however deep. The rule for public functions asks of each type of a signature
only whether it is varying itself, as does the rule that makes a body a region. So every public function with a
varying parameter or result is reported, whatever its body is, but a channel of varying values passes. These
channels are the only way in which lanes can be seen from outside (`Program.public_lanes_hidden_iff`), and they can
be told from the types as they are written, since resolving a type changes nothing of this at any depth.
-/

set_option autoImplicit false

namespace Lanewise

/-! ### Types that show lanes -/

/-- Whether a type is varying or a channel, at any depth, of varying values. -/
def LaneType.showsLanes : LaneType → Bool
  | varying .. => true
  | chan elem => elem.showsLanes
  | _ => false

/-- Whether a type is written as varying or as a channel, at any depth, of varying values. -/
def TypeExpr.showsLanes : TypeExpr → Bool
  | named .. => false
  | varying .. => true
  | chan _ elem => elem.showsLanes

/-- Whether a type is written as a channel, at any depth, of varying values. -/
def TypeExpr.isLaneChannel : TypeExpr → Bool
  | chan _ elem => elem.showsLanes
  | _ => false

/-- A type shows lanes if it is written as varying or as a channel of varying values. -/
theorem TypeExpr.showsLanes_eq (t : TypeExpr) : t.showsLanes = (t.isVarying || t.isLaneChannel) := by
  cases t <;> rfl

/-- Resolving a type neither brings lanes into it nor hides them. -/
theorem TypeExpr.showsLanes_of_resolve {env : Env} {t : TypeExpr} {l : LaneType}
    (h : t.resolve env = .ok l) : l.showsLanes = t.showsLanes := by
  rw [TypeExpr.resolve_eq_ok] at h
  induction h with
  | void | uniform | native | universal | fixed => rfl
  | chan helem ih =>
    rw [LaneType.showsLanes, TypeExpr.showsLanes]
    exact ih

/-! ### Signatures -/

/-- The types that a caller sees. -/
def Signature.shown (s : Signature) : List LaneType :=
  s.params ++ [s.result]

/-- The types that a function is declared with. -/
def Function.written (f : Function) : List TypeExpr :=
  f.params.map Param.type ++ f.result.toList

/-- A signature exposes lanes if one of the types that a caller sees is varying. -/
theorem Signature.exposesVarying_eq (s : Signature) : s.exposesVarying = s.shown.any LaneType.isVarying := by
  simp [Signature.exposesVarying, Signature.isRegion, Signature.shown]

/-- What can be told of a type from the way in which it is written can be told of a signature from its
declaration. -/
theorem Function.any_shown {env : Env} {holds : LaneType → Bool} {written : TypeExpr → Bool}
    (hvoid : holds .void = false) (htype : ∀ {t l}, TypeExpr.resolve env t = .ok l → holds l = written t)
    {f : Function} {s : Signature} (h : f.signature env = .ok s) :
    s.shown.any holds = f.written.any written := by
  obtain ⟨hparams, hresult, -⟩ := Function.signature_ok h
  have hany := Param.any_of_resolve htype hparams
  rw [Signature.shown, Function.written, List.any_append, List.any_append, List.any_map, hany]
  rcases hresult with ⟨hnone, hs⟩ | ⟨t, hsome, hresolve⟩
  · rw [hnone, hs]
    simp [hvoid, Function.comp_def]
  · rw [hsome]
    simp [htype hresolve, Function.comp_def]

/-- If no type of a signature is varying itself, it shows lanes exactly through channels. -/
theorem Function.shown_iff_of_uniform {env : Env} {f : Function} {s : Signature}
    (h : f.signature env = .ok s) (huniform : ∀ t ∈ s.shown, t.isVarying = false) :
    (∀ t ∈ s.shown, t.showsLanes = false) ↔ ∀ t ∈ f.written, t.isLaneChannel = false := by
  have hvarying : f.written.any TypeExpr.isVarying = false := by
    rw [← Function.any_shown rfl TypeExpr.isVarying_of_resolve h, List.any_eq_false]
    exact fun t ht => by rw [huniform t ht]; exact Bool.false_ne_true
  have hshows := Function.any_shown rfl TypeExpr.showsLanes_of_resolve h
  simp only [← Bool.not_eq_true]
  rw [← List.any_eq_false, ← List.any_eq_false, hshows]
  rw [List.any_eq_false] at hvarying
  simp only [List.any_eq_false, TypeExpr.showsLanes_eq, Bool.or_eq_true, not_or]
  exact ⟨fun hall t ht => (hall t ht).2, fun hall t ht => ⟨hvarying t ht, hall t ht⟩⟩

/-! ### Public functions -/

section Public

variable {p : Program} {target : Target} {f : Function} {s : Signature}

/-- The rule for public functions comes before everything else. -/
theorem Function.analyze_of_exposed (hpublic : s.isPublic = true) (hexposed : s.exposesVarying = true)
    (env : Env) (launchers : List String) :
    f.analyze s env launchers = (.error (.context (.publicVarying f.name.text) s.span), env) := by
  rw [Function.analyze, Signature.expectPrivateLanes, hpublic, hexposed]
  rfl

/-- A public function that passes has no varying parameter and no varying result. -/
theorem Function.uniform_of_analyze {env env' : Env} {launchers : List String} {report : FunctionReport}
    (hpublic : s.isPublic = true) (h : f.analyze s env launchers = (.ok report, env')) :
    ∀ t ∈ s.shown, t.isVarying = false := by
  by_cases hexposed : s.exposesVarying = true
  · rw [Function.analyze_of_exposed hpublic hexposed] at h
    cases h
  · rw [Signature.exposesVarying_eq, Bool.not_eq_true, List.any_eq_false] at hexposed
    exact fun t ht => Bool.eq_false_iff.2 (hexposed t ht)

/-- The signature under the name of a function is that of its declaration. -/
theorem Program.signature_of_declared (hnames : (p.functions.map fun f => f.name.text).Nodup)
    (hf : f ∈ p.functions) (h : (p.declare target).1.functions.find? f.name.text = some s) :
    f.signature (p.baseEnv target) = .ok s := by
  rw [Program.find?_declare hnames hf] at h
  cases hsignature : f.signature (p.baseEnv target) with
  | ok found =>
    rw [hsignature] at h
    exact congrArg Except.ok (Option.some.inj h)
  | error issue =>
    rw [hsignature] at h
    cases h

/-- A function whose signature resolves is analysed under it, if no name is declared twice. -/
theorem Program.outcome_of_signature (hnames : (p.functions.map fun f => f.name.text).Nodup)
    (hf : f ∈ p.functions) (hs : f.signature (p.baseEnv target) = .ok s) :
    p.outcome target f = some (f.analyze s (p.declare target).1 p.launchers).1 := by
  rw [Program.outcome, Function.outcome, Program.find?_declare hnames hf, hs]
  rfl

/-- What is found wrong with a function of a program is among its issues. -/
theorem Program.mem_issues_of_outcome {issue : Issue} (hf : f ∈ p.functions)
    (h : p.outcome target f = some (.error issue)) : issue ∈ (p.analyze target).issues := by
  rw [Program.issues_analyze, List.mem_append, List.mem_filterMap]
  exact Or.inr ⟨f, hf, by rw [Program.bodyIssue?, h]; rfl⟩

end Public

/-- Where no name is declared twice, a public function with a varying parameter or a varying result is reported as
such. One that passes has neither. It shows no lanes at all, at any depth of channels, exactly if it is declared
with no channel of varying values. -/
theorem Program.public_lanes_hidden_iff {p : Program} {target : Target} {f : Function}
    (hnames : (p.functions.map fun f => f.name.text).Nodup) (hf : f ∈ p.functions)
    (hpublic : f.isPublic = true) :
    (∀ s, f.signature (p.baseEnv target) = .ok s → (∃ t ∈ s.shown, t.isVarying = true) →
      p.outcome target f = some (.error (.context (.publicVarying f.name.text) f.span)) ∧
        .context (.publicVarying f.name.text) f.span ∈ (p.analyze target).issues) ∧
    ∀ report, p.outcome target f = some (.ok report) →
      ∃ s, f.signature (p.baseEnv target) = .ok s ∧
        (p.analyze target).signatures.find? f.name.text = some s ∧
        (∀ t ∈ s.shown, t.isVarying = false) ∧
        ((∀ t ∈ s.shown, t.showsLanes = false) ↔ ∀ t ∈ f.written, t.isLaneChannel = false) := by
  constructor
  · intro s hs hvarying
    obtain ⟨-, -, hsPublic, hspan⟩ := Function.signature_ok hs
    have hexposed : s.exposesVarying = true := by
      rw [Signature.exposesVarying_eq, List.any_eq_true]
      exact hvarying
    have houtcome : p.outcome target f =
        some (.error (.context (.publicVarying f.name.text) f.span)) := by
      rw [Program.outcome_of_signature hnames hf hs,
        Function.analyze_of_exposed (hsPublic.trans hpublic) hexposed, hspan]
    exact ⟨houtcome, Program.mem_issues_of_outcome hf houtcome⟩
  · intro report hreport
    obtain ⟨s, hfind, hanalyze⟩ := Program.analyze_of_outcome hreport
    have hs := Program.signature_of_declared hnames hf hfind
    have hsPublic : s.isPublic = true := (Function.signature_ok hs).2.2.1.trans hpublic
    have huniform := Function.uniform_of_analyze hsPublic hanalyze
    refine ⟨s, hs, ?_, huniform, Function.shown_iff_of_uniform hs huniform⟩
    rw [Program.signatures_analyze, hfind]

section Relays

open Builder

/-- A public function that takes a channel of channels of integers. -/
def relayCounts : Function :=
  let build : Builder Function := do
    function "relay" [← param "c" (← chan (← chan (← named "int64")))] (some (← named "bool"))
      [← ret (some (← bool true))] true
  (build.run 0).1

/-- A public function that takes a varying value of four lanes. -/
def spreadLanes : Function :=
  let build : Builder Function := do
    function "spread" [← param "x" (← varyingWith "int64" (.literal 4))] none [] true
  (build.run 100).1

/-- The program of the two functions. -/
def relayPair : Program :=
  { constants := [], functions := [relayCounts, spreadLanes] }

/-- The channels of integers show no lanes; the function with the varying parameter is reported. -/
theorem Program.public_lanes_hidden_iff_pair :
    (relayPair.functions.map fun f => f.name.text).Nodup ∧ relayCounts.isPublic = true ∧
      spreadLanes.isPublic = true ∧
      (∃ s, (relayPair.analyze .standard).signatures.find? "relay" = some s ∧
        ∀ t ∈ s.shown, t.showsLanes = false) ∧
      .context (.publicVarying "spread") spreadLanes.span ∈ (relayPair.analyze .standard).issues := by
  have hnames : (relayPair.functions.map fun f => f.name.text).Nodup := by decide
  have hrelay : relayCounts ∈ relayPair.functions := List.mem_cons_self
  have hspread : spreadLanes ∈ relayPair.functions := List.mem_cons_of_mem _ List.mem_cons_self
  have hpasses : (relayPair.outcome .standard relayCounts).any Except.isOk = true := by decide +kernel
  obtain ⟨outcome, houtcome, hok⟩ := (Option.any_eq_true _ _).1 hpasses
  obtain ⟨report, rfl⟩ := Except.exists_of_isOk hok
  obtain ⟨s, -, hfind, -, hshown⟩ :=
    (Program.public_lanes_hidden_iff hnames hrelay rfl).2 report houtcome
  have hspreads : spreadLanes.signature (relayPair.baseEnv .standard) = .ok
      { params := [.varying .int64 (.fixed 4)], result := .void, isPublic := true,
        span := spreadLanes.span } := by
    decide +kernel
  obtain ⟨-, hissue⟩ := (Program.public_lanes_hidden_iff hnames hspread rfl).1 _ hspreads
    ⟨_, List.mem_cons_self, rfl⟩
  exact ⟨hnames, rfl, rfl, ⟨s, hfind, hshown.2 (by decide)⟩, hissue⟩

/-- A public function that takes a channel of varying values of four lanes. -/
def relayLanes : Function :=
  let build : Builder Function := do
    function "relay" [← param "c" (← chan (← varyingWith "int64" (.literal 4)))] none [] true
  (build.run 0).1

/-- The program of this function alone. -/
def laneRelay : Program :=
  { constants := [], functions := [relayLanes] }

/-- It is accepted, although the lane count of the channel can be seen from outside. -/
theorem Program.public_lanes_leaked :
    (laneRelay.functions.map fun f => f.name.text).Nodup ∧ relayLanes ∈ laneRelay.functions ∧
      relayLanes.isPublic = true ∧ (laneRelay.analyze .standard).isOk = true ∧
      (laneRelay.analyze .standard).signatures.find? "relay" =
        some { params := [.chan (.varying .int64 (.fixed 4))], result := .void, isPublic := true,
               span := relayLanes.span } ∧
      (LaneType.chan (.varying .int64 (.fixed 4))).showsLanes = true := by
  refine ⟨by decide, List.mem_cons_self, rfl, by decide +kernel, by decide +kernel, rfl⟩

end Relays

end Lanewise
