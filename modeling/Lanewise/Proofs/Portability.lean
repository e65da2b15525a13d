import Lanewise.Proofs.AlikeTables
import Lanewise.Proofs.Findings
import Lanewise.Syntax.Builder
import Mathlib.Data.List.Flatten

/-!
# Programs on different targets

The target of a program is asked for in two places only. The index of a broadcast has to be a lane of the value,
so a target with more lanes accepts more indices; a bit mask of lanes has to fit into a word, which no target within
the register limit ever breaks. So two analyses of a program for targets within the limit agree about every
function, except that on the narrower target a function may fail for a lane index that is out of range
(`Expr.infer_retargeted`, `Program.outcome_retargeted`).

Hence what passes on one target passes on every wider one with the same reports (`Program.accepted_on_wider`), and a
program without broadcasts is analysed alike on all targets (`Program.portable_without_broadcast`).
-/

set_option autoImplicit false

namespace Lanewise

/-! ### Environments for two targets -/

/-- Whether two environments are the same but for their targets. -/
structure Env.Retargeted (narrow wide : Target) (env env' : Env) : Prop where
  scopes : env.scopes = env'.scopes
  constants : env.constants = env'.constants
  functions : env.functions = env'.functions
  narrow : env.target = narrow
  wide : env'.target = wide

/-- The same definition leaves two environments the same but for their targets. -/
theorem Env.Retargeted.define {narrow wide : Target} {env env' : Env} (name : String) (binding : Binding)
    (h : env.Retargeted narrow wide env') :
    (env.define name binding).Retargeted narrow wide (env'.define name binding) := by
  unfold Env.define
  rw [← h.scopes]
  split
  · exact h
  · exact ⟨rfl, h.constants, h.functions, h.narrow, h.wide⟩

/-- Environments that are the same but for their targets are paired. -/
theorem Env.Retargeted.pairing (narrow wide : Target) : Env.Pairing (Env.Retargeted narrow wide) where
  scopes := Env.Retargeted.scopes
  constants := Env.Retargeted.constants
  functions := fun h name => by rw [h.functions]
  push := fun h => ⟨congrArg (Assoc.empty :: ·) h.scopes, h.constants, h.functions, h.narrow, h.wide⟩
  pop := fun h => ⟨congrArg List.tail h.scopes, h.constants, h.functions, h.narrow, h.wide⟩
  define := Env.Retargeted.define

/-! ### Where the target is asked for -/

/-- Whether an issue is that of a lane index that is out of range. -/
def Issue.LaneOutOfRange (issue : Issue) : Prop :=
  ∃ lane count span, issue = .type (.laneIndexOutOfRange lane count) span

/-- A wider target has at least as many lanes of every type. -/
theorem Width.lanes_mono {narrow wide : Target} (hle : narrow.registerBits ≤ wide.registerBits) (w : Width)
    (s : Scalar) : w.lanes narrow s ≤ w.lanes wide s := by
  have hnative : narrow.laneWidth s ≤ wide.laneWidth s := Nat.div_le_div_right hle
  cases w with
  | fixed n => exact Nat.le_refl n
  | native | universal => exact hnative

/-- A target within the register limit has at most 64 lanes of booleans. -/
theorem Target.laneWidth_bool_le {t : Target} (h : t.registerBits ≤ registerLimit) :
    t.laneWidth .bool ≤ 64 := by
  have hmax : max Scalar.bool.bits 8 = 8 := rfl
  have hlimit : registerLimit = 512 := rfl
  rw [Target.laneWidth, hmax]
  omega

/-- The lanes of a boolean of native width fit into a word on every target, and a fixed lane count does not depend
on the target. -/
theorem Width.require_lanes_bool {t t' : Target} (h : t.registerBits ≤ registerLimit)
    (h' : t'.registerBits ≤ registerLimit) (w : Width) :
    Issue.require (w.lanes t .bool ≤ 64) (.bitMaskTooWide (w.lanes t .bool)) =
      Issue.require (w.lanes t' .bool ≤ 64) (.bitMaskTooWide (w.lanes t' .bool)) := by
  have hfits := Target.laneWidth_bool_le h
  have hfits' := Target.laneWidth_bool_le h'
  funext span
  cases w with
  | fixed n => rfl
  | native | universal => simp [Issue.require, Width.lanes, hfits, hfits']

section Retargeted

variable {narrow wide : Target} {env env' : Env} (h : env.Retargeted narrow wide env')

include h

/-- A broadcast passes on the wider target if it passes on the narrower one. -/
theorem broadcastType_retargeted (hle : narrow.registerBits ≤ wide.registerBits) (s : Scalar) (w : Width)
    (index : Argument) :
    Agree Issue.LaneOutOfRange (broadcastType env s w index) (broadcastType env' s w index) := by
  unfold broadcastType
  rw [h.constants, h.narrow, h.wide]
  cases index.expr.constantValue env'.constants with
  | error issue => exact .same _
  | ok lane =>
    have hmono : w.lanes narrow s ≤ w.lanes wide s := Width.lanes_mono hle w s
    by_cases hlane : 0 ≤ lane.toInt ∧ lane.toInt < w.lanes narrow s
    · have hwide : lane.toInt < w.lanes wide s := by omega
      simp only [Issue.require, hlane.1, hlane.2, hwide, decide_true, Bool.and_self]
      exact .same _
    · have hnarrow : (decide (0 ≤ lane.toInt) && decide (lane.toInt < w.lanes narrow s)) = false := by
        simpa using hlane
      simp only [Issue.require, hnarrow]
      exact .differ ⟨_, _, _, rfl⟩ _

/-- A reduction has the same type on all targets within the register limit. -/
theorem reductionType_retargeted (hnarrow : narrow.registerBits ≤ registerLimit)
    (hwide : wide.registerBits ≤ registerLimit) (op : LibraryOp) (s : Scalar) (w : Width) (span : Span) :
    reductionType env op s w span = reductionType env' op s w span := by
  unfold reductionType
  rw [h.narrow, h.wide]
  cases op with
  | mask =>
    -- only booleans are packed into a mask, and those are narrow enough on every target
    by_cases hbool : s = .bool
    · subst hbool
      simp only [Width.require_lanes_bool hnarrow hwide]
    · have hclass : ElementClass.bool.admits s = false := decide_eq_false hbool
      simp only [hclass, Issue.require]
      rfl
  | _ => rfl

end Retargeted

/-! ### Calls -/

/-- An argument in an environment. -/
def Expr.argument (env : Env) (e : Expr) : Argument :=
  { expr := e, type := e.infer env }

section Calls

variable {excused : Issue → Prop} {env env' : Env} {es : List Expr}
  (hes : ∀ e ∈ es, Agree excused (e.infer env) (e.infer env'))

include hes

/-- Arguments with types that agree fit their parameters alike. -/
theorem expectArguments_agree (params : List LaneType) :
    Agree excused (expectArguments (es.map (Expr.argument env)) params)
      (expectArguments (es.map (Expr.argument env')) params) := by
  induction es generalizing params with
  | nil => exact .same _
  | cons e rest ih =>
    rw [List.forall_mem_cons] at hes
    cases params with
    | nil => exact .same _
    | cons param params => exact hes.1.bind fun t => (Agree.same _).bind fun _ => ih hes.2 params

/-- The call of a declared function agrees if its arguments do. -/
theorem functionCallType_agree (hfunctions : env.functions = env'.functions) (callee : Name) (span : Span) :
    Agree excused (functionCallType env callee (es.map (Expr.argument env)) span)
      (functionCallType env' callee (es.map (Expr.argument env')) span) := by
  unfold functionCallType
  rw [hfunctions, List.length_map, List.length_map]
  cases env'.functions.find? callee.text with
  | none => exact .same _
  | some s => exact (Agree.same _).bind fun _ => (expectArguments_agree hes s.params).bind fun _ => .same _

end Calls

section Library

variable {narrow wide : Target} (hnarrow : narrow.registerBits ≤ registerLimit)
  (hwide : wide.registerBits ≤ registerLimit) {excused : Issue → Prop} {env env' : Env}
  (h : env.Retargeted narrow wide env')

/-- A varying operand agrees if its expression does. -/
theorem varyingOperand_agree (op : LibraryOp) {e : Expr} (he : Agree excused (e.infer env) (e.infer env')) :
    Agree excused (varyingOperand op (e.argument env)) (varyingOperand op (e.argument env')) :=
  he.bind fun _ => .same _

include hnarrow hwide h in
/-- A library operation with one argument does not depend on the target, within the register limit. -/
theorem unaryLibraryType_agree (op : LibraryOp) {value : Expr}
    (hvalue : Agree excused (value.infer env) (value.infer env')) :
    Agree excused (unaryLibraryType env op (value.argument env))
      (unaryLibraryType env' op (value.argument env')) := by
  unfold unaryLibraryType
  split
  · exact hvalue.bind fun _ => .same _
  · exact (varyingOperand_agree op hvalue).bind fun found =>
      .of_eq (reductionType_retargeted h hnarrow hwide op found.1 found.2 value.span)

/-- A library operation with two arguments looks at the target only if it is a broadcast. -/
theorem binaryLibraryType_agree (op : LibraryOp) (span : Span) {value other : Expr}
    (hvalue : Agree excused (value.infer env) (value.infer env'))
    (hother : Agree excused (other.infer env) (other.infer env'))
    (hbroadcast : op = .broadcast → ∀ s w,
      Agree excused (broadcastType env s w (other.argument env)) (broadcastType env' s w (other.argument env'))) :
    Agree excused (binaryLibraryType env op (value.argument env) (other.argument env) span)
      (binaryLibraryType env' op (value.argument env') (other.argument env') span) := by
  refine (varyingOperand_agree op hvalue).bind fun found => ?_
  cases op with
  | broadcast => exact hbroadcast rfl found.1 found.2
  | rotate => exact hother.bind fun _ => .same _
  | swizzle => exact (varyingOperand_agree .swizzle hother).bind fun _ => .same _
  | _ => exact hother.bind fun _ => .same _

/-- A library operation has one argument or two. -/
theorem LibraryOp.arity_eq (op : LibraryOp) : op.arity = 1 ∨ op.arity = 2 := by
  cases op <;> decide

include hnarrow hwide h in
/-- A library call agrees on two targets within the register limit if it is no broadcast, or if broadcasts
do. -/
theorem libraryCallType_agree (op : LibraryOp) (span : Span) {es : List Expr}
    (hes : ∀ e ∈ es, Agree excused (e.infer env) (e.infer env'))
    (hbroadcast : op = .broadcast → ∀ s w index,
      Agree excused (broadcastType env s w index) (broadcastType env' s w index)) :
    Agree excused (libraryCallType env op (es.map (Expr.argument env)) span)
      (libraryCallType env' op (es.map (Expr.argument env')) span) := by
  unfold libraryCallType
  rcases op.arity_eq with harity | harity
  · rw [harity]
    match es with
    | [] => exact .same _
    | [value] => exact unaryLibraryType_agree hnarrow hwide h op (hes value List.mem_cons_self)
    | _ :: _ :: rest =>
      simp only [List.map_cons, List.length_cons, List.length_map]
      exact .same _
  · rw [harity]
    match es with
    | [] => exact .same _
    | [_] => exact .same _
    | [value, other] =>
      have hvalue := hes value List.mem_cons_self
      have hother := hes other (List.mem_cons_of_mem _ List.mem_cons_self)
      exact binaryLibraryType_agree op span hvalue hother fun hop s w => hbroadcast hop s w (other.argument env)
    | _ :: _ :: _ :: rest =>
      simp only [List.map_cons, List.length_cons, List.length_map]
      exact .same _

end Library

/-! ### Expressions -/

/-- Whether an expression is a broadcast. -/
def Expr.isBroadcast (e : Expr) : Bool :=
  e.callee? = some LibraryOp.broadcast.name

section Inference

variable {narrow wide : Target} (hnarrow : narrow.registerBits ≤ registerLimit)
  (hwide : wide.registerBits ≤ registerLimit) {excused : Issue → Prop} {env env' : Env}
  (h : env.Retargeted narrow wide env')

include hnarrow hwide h

/-- An expression has the same type for both targets, up to failures that are excused, if that is so of
broadcasts or the expression has none. -/
theorem Expr.infer_retargeted (e : Expr)
    (hbroadcast : ∀ part ∈ e.parts, part.isBroadcast = true → ∀ s w index,
      Agree excused (broadcastType env s w index) (broadcastType env' s w index)) :
    Agree excused (e.infer env) (e.infer env') := by
  revert hbroadcast
  refine Expr.of_children (P := fun e => (∀ part ∈ e.parts, part.isBroadcast = true → ∀ s w index,
      Agree excused (broadcastType env s w index) (broadcastType env' s w index)) →
    Agree excused (e.infer env) (e.infer env')) ?_ e
  intro e hchildren hbroadcast
  have hparts : ∀ c ∈ e.children, Agree excused (c.infer env) (c.infer env') := by
    intro c hc
    refine hchildren c hc fun part hpart => hbroadcast part ?_
    rw [Expr.parts_eq]
    exact List.mem_cons_of_mem _ (List.mem_flatMap.2 ⟨c, hc, hpart⟩)
  cases e with
  | int | float | bool => exact .same _
  | ident span name =>
    refine .of_eq ?_
    rw [Expr.infer, Expr.infer, identType, identType, Env.lookup?, Env.lookup?, h.scopes, h.constants]
  | unary span op operand => exact (hparts operand List.mem_cons_self).bind fun _ => .same _
  | binary span op left right =>
    have hleft := hparts left List.mem_cons_self
    have hright := hparts right (List.mem_cons_of_mem _ List.mem_cons_self)
    exact hleft.bind fun _ => hright.bind fun _ => .same _
  | cast span operand target =>
    have hoperand := hparts operand List.mem_cons_self
    have htarget : target.resolve env = target.resolve env' :=
      TypeExpr.resolve_congr h.scopes h.constants target
    exact hoperand.bind fun _ => (Agree.of_eq htarget).bind fun _ => .same _
  | range span first last =>
    have hfirst := hparts first List.mem_cons_self
    have hlast := hparts last (List.mem_cons_of_mem _ List.mem_cons_self)
    exact hfirst.bind fun _ => (Agree.same _).bind fun _ => hlast.bind fun _ => .same _
  | recv span chan => exact (hparts chan List.mem_cons_self).bind fun _ => .same _
  | call span callee args =>
    rw [Expr.infer, Expr.infer, Expr.inferEach_eq_map, Expr.inferEach_eq_map]
    unfold callType
    cases hop : LibraryOp.ofName? callee.text with
    | none => exact functionCallType_agree hparts h.functions callee span
    | some op =>
      refine libraryCallType_agree hnarrow hwide h op span hparts fun hbroad => ?_
      have hname := LibraryOp.name_of_ofName? hop
      exact hbroadcast _ (Expr.mem_parts_self _) (by simp [Expr.isBroadcast, Expr.callee?, hname, hbroad])

end Inference

/-! ### Programs -/

/-- A broadcast in the body of a function is one of its calls. -/
theorem Function.broadcast_mem_callees {f : Function} {q : Site} (hq : q ∈ f.body.sites) {e part : Expr}
    (he : e ∈ q.stmt.exprs) (hpart : part ∈ e.parts) (hbroadcast : part.isBroadcast = true) :
    LibraryOp.broadcast.name ∈ f.callees := by
  obtain ⟨node, hnode, hexpr⟩ := List.mem_filterMap.1 hpart
  have hinside : node ∈ f.body.inside fun _ => true :=
    Block.mem_inside_iff.2 ⟨q, hq, Or.inr (Or.inr (Or.inl ⟨e, he, hnode⟩))⟩
  refine List.mem_filterMap.2 ⟨node, List.mem_cons_of_mem _ hinside, ?_⟩
  cases node with
  | expr e' =>
    cases hexpr
    exact of_decide_eq_true hbroadcast
  | _ => cases hexpr

/-- The functions of a program are declared alike for all targets. -/
theorem declareFunctions_retargeted {narrow wide : Target} (fs : List Function) {env env' : Env}
    (h : env.Retargeted narrow wide env') :
    (declareFunctions fs env).1.Retargeted narrow wide (declareFunctions fs env').1 ∧
      (declareFunctions fs env).2 = (declareFunctions fs env').2 := by
  induction fs generalizing env env' with
  | nil => exact ⟨h, rfl⟩
  | cons f rest ih =>
    rw [declareFunctions, declareFunctions, Function.signature_congr h.scopes h.constants f]
    split
    · rename_i s _
      exact ih ⟨h.scopes, h.constants, congrArg (Assoc.insert · f.name.text s) h.functions, h.narrow, h.wide⟩
    · obtain ⟨henv, hissues⟩ := ih h
      exact ⟨henv, congrArg (_ :: ·) hissues⟩

namespace Program

variable (p : Program)

/-- The declarations of a program are the same for all targets. -/
theorem declare_retargeted (narrow wide : Target) :
    (p.declare narrow).1.Retargeted narrow wide (p.declare wide).1 ∧
      (p.declare narrow).2 = (p.declare wide).2 := by
  have hbase : (p.baseEnv narrow).Retargeted narrow wide (p.baseEnv wide) := ⟨rfl, rfl, rfl, rfl, rfl⟩
  obtain ⟨henv, hissues⟩ := declareFunctions_retargeted p.functions hbase
  exact ⟨henv, congrArg (_ ++ ·) hissues⟩

/-- The signatures of a program are the same for all targets. -/
theorem signatures_retargeted (narrow wide : Target) :
    (p.analyze wide).signatures = (p.analyze narrow).signatures := by
  rw [signatures_analyze, signatures_analyze]
  exact (p.declare_retargeted narrow wide).1.functions.symm

/-- An analysis is the same for two targets as soon as it says the same about every function. -/
theorem analyze_of_outcomes {narrow wide : Target}
    (h : ∀ f ∈ p.functions, p.outcome narrow f = p.outcome wide f) : p.analyze narrow = p.analyze wide := by
  obtain ⟨henv, hissues⟩ := p.declare_retargeted narrow wide
  rw [analyze_eq_foldl, analyze_eq_foldl, henv.functions, hissues]
  exact List.foldl_ext _ _ _ fun a f hf => congrArg a.add (h f hf)

section Targets

variable {narrow wide : Target}

/-- What is found in a function is the same on two targets, up to failures that are excused, if that is so of
its broadcasts. -/
theorem outcome_paired (hnarrow : narrow.registerBits ≤ registerLimit) (hwide : wide.registerBits ≤ registerLimit)
    {excused : Issue → Prop} (f : Function)
    (hbroadcast : LibraryOp.broadcast.name ∈ f.callees → ∀ env env' : Env, env.Retargeted narrow wide env' →
      ∀ s w index, Agree excused (broadcastType env s w index) (broadcastType env' s w index)) :
    p.outcome narrow f = p.outcome wide f ∨
      ∃ issue, excused issue ∧ p.outcome narrow f = some (.error issue) := by
  have hexprs : ∀ q ∈ f.body.sites, ∀ e ∈ q.stmt.exprs, ∀ env env' : Env, env.Retargeted narrow wide env' →
      Agree excused (e.infer env) (e.infer env') := by
    intro q hq e he env env' henv
    refine e.infer_retargeted hnarrow hwide henv fun part hpart hbroad => ?_
    exact hbroadcast (Function.broadcast_mem_callees hq he hpart hbroad) env env' henv
  exact Function.outcome_paired (Env.Retargeted.pairing narrow wide) (p.declare_retargeted narrow wide).1 f
    (fun _ _ => Iff.rfl) hexprs (p.scopes_declare_ne_nil narrow)

/-- On a wider target a function fares as on a narrower one, unless it fails there for a lane index that is out
of range. -/
theorem outcome_retargeted (hle : narrow.registerBits ≤ wide.registerBits)
    (hwide : wide.registerBits ≤ registerLimit) (f : Function) :
    p.outcome narrow f = p.outcome wide f ∨
      ∃ issue, Issue.LaneOutOfRange issue ∧ p.outcome narrow f = some (.error issue) :=
  p.outcome_paired (hle.trans hwide) hwide f fun _ _ _ henv => broadcastType_retargeted henv hle

/-- A function that passes on a target passes on every wider one with the same report. -/
theorem outcome_of_narrower (hle : narrow.registerBits ≤ wide.registerBits)
    (hwide : wide.registerBits ≤ registerLimit) {f : Function} {report : FunctionReport}
    (h : p.outcome narrow f = some (.ok report)) : p.outcome wide f = some (.ok report) := by
  rcases p.outcome_retargeted hle hwide f with hsame | ⟨issue, -, herror⟩
  · exact hsame.symm.trans h
  · rw [herror] at h
    cases h

/-- What is listed for a function on a target is listed on every wider one. -/
theorem listed_sublist (hle : narrow.registerBits ≤ wide.registerBits)
    (hwide : wide.registerBits ≤ registerLimit) {α : Type} (field : FunctionReport → List α) (f : Function) :
    (FunctionReport.listed field (p.outcome narrow f)).Sublist
      (FunctionReport.listed field (p.outcome wide f)) := by
  rcases p.outcome_retargeted hle hwide f with hsame | ⟨issue, -, herror⟩
  · rw [hsame]
  · rw [herror]
    exact List.nil_sublist _

/-- If nothing is wrong on the narrower target, the analysis is the same on the wider one. -/
theorem analyze_of_isOk (hle : narrow.registerBits ≤ wide.registerBits)
    (hwide : wide.registerBits ≤ registerLimit) (hok : (p.analyze narrow).isOk = true) :
    p.analyze narrow = p.analyze wide := by
  have hissues := List.isEmpty_iff.1 hok
  rw [issues_analyze] at hissues
  have hbodies := List.filterMap_eq_nil_iff.1 (List.append_eq_nil_iff.1 hissues).2
  refine p.analyze_of_outcomes fun f hf => ?_
  rcases p.outcome_retargeted hle hwide f with hsame | ⟨issue, -, herror⟩
  · exact hsame
  · have hbody := hbodies f hf
    rw [bodyIssue?, herror] at hbody
    cases hbody

end Targets

/-- Acceptance is monotone in the register width, up to the register limit: the signatures do not depend on it, and
a function that passes on some target passes on every wider one with the same reports and fresh calls. So no report
and no fresh call of the program is lost, and nothing at all changes if the whole program passes. -/
theorem accepted_on_wider {narrow wide : Target} (hle : narrow.registerBits ≤ wide.registerBits)
    (hwide : wide.registerBits ≤ registerLimit) :
    (p.analyze wide).signatures = (p.analyze narrow).signatures ∧
    (∀ f ∈ p.functions, ∀ report,
      p.outcome narrow f = some (.ok report) → p.outcome wide f = some (.ok report)) ∧
    (p.analyze narrow).regions.Sublist (p.analyze wide).regions ∧
    (p.analyze narrow).freshCalls.Sublist (p.analyze wide).freshCalls ∧
    ((p.analyze narrow).isOk = true → p.analyze wide = p.analyze narrow) := by
  obtain ⟨hregions, hcalls⟩ := p.lists_analyze narrow
  obtain ⟨hregions', hcalls'⟩ := p.lists_analyze wide
  refine ⟨p.signatures_retargeted narrow wide, fun f _ report => p.outcome_of_narrower hle hwide, ?_, ?_,
    fun hok => (p.analyze_of_isOk hle hwide hok).symm⟩
  · rw [hregions, hregions']
    exact List.Sublist.flatMap_right _ fun f _ => p.listed_sublist hle hwide FunctionReport.regions f
  · rw [hcalls, hcalls']
    exact List.Sublist.flatMap_right _ fun f _ => p.listed_sublist hle hwide FunctionReport.freshCalls f

end Program

section Splats

open Builder

/-- A function that takes the value of one lane to all of them. -/
def splat (name : String) (lane : Int64) (cursor : Nat) : Function :=
  let build : Builder Function := do
    let v ← param "v" (← varying "float32")
    let wide ← declare "x" none (← call "lanes.Broadcast" [← ident "v", ← int lane])
    function name [v] none [wide] false
  (build.run cursor).1

/-- A program with a lane that every target has and one that is only there on wider ones. -/
def splats : Program :=
  { constants := [], functions := [splat "low" 3 0, splat "high" 5 100] }

/-- A function that passes, as far as evaluation shows, has a report. -/
theorem Program.exists_report_of_any {p : Program} {target : Target} {f : Function}
    (h : (p.outcome target f).any Except.isOk = true) : ∃ report, p.outcome target f = some (.ok report) := by
  cases houtcome : p.outcome target f with
  | none =>
    rw [houtcome] at h
    cases h
  | some outcome =>
    rw [houtcome, Option.any_some] at h
    obtain ⟨report, rfl⟩ := Except.exists_of_isOk h
    exact ⟨report, rfl⟩

/-- On the narrower target one function fails for its lane, and the other one passes; on the wider target both
pass, and the report of the second is the same. -/
theorem Program.accepted_on_wider_splats :
    (splats.analyze ⟨"sse4", 128⟩).issues.length = 1 ∧ (splats.analyze ⟨"avx512", 512⟩).isOk = true ∧
    ∃ report, splats.outcome ⟨"sse4", 128⟩ (splat "low" 3 0) = some (.ok report) ∧
      splats.outcome ⟨"avx512", 512⟩ (splat "low" 3 0) = some (.ok report) := by
  have hpasses : (splats.outcome ⟨"sse4", 128⟩ (splat "low" 3 0)).any Except.isOk = true := by decide +kernel
  obtain ⟨report, hreport⟩ := Program.exists_report_of_any hpasses
  obtain ⟨-, haccepted, -⟩ := @Program.accepted_on_wider splats ⟨"sse4", 128⟩ ⟨"avx512", 512⟩ (by decide) (by decide)
  exact ⟨by decide +kernel, by decide +kernel, report, hreport, haccepted _ (.head _) report hreport⟩

end Splats

/-! ### Programs without broadcasts -/

/-- A program without broadcasts is analysed alike on all targets within the register limit, down to what is
wrong with it. -/
theorem Program.portable_without_broadcast (p : Program) {target target' : Target}
    (htarget : target.registerBits ≤ registerLimit) (htarget' : target'.registerBits ≤ registerLimit)
    (hnone : ∀ f ∈ p.functions, LibraryOp.broadcast.name ∉ f.callees) :
    p.analyze target = p.analyze target' := by
  refine p.analyze_of_outcomes fun f hf => ?_
  have hpaired := @Program.outcome_paired p target target' htarget htarget' (fun _ => False) f
    fun hbroadcast => absurd hbroadcast (hnone f hf)
  rcases hpaired with hsame | ⟨_, hfalse, -⟩
  · exact hsame
  · exact hfalse.elim

section Ballot

open Builder

/-- A program that reads the bit mask of a condition, and one function of which fails. -/
def ballot : Program :=
  let build : Builder (List Function) := do
    let v ← param "v" (← varying "float64")
    let high ← binary .gt (← ident "v") (← float 0.5)
    let vote ← function "vote" [v] none [← declare "bits" none (← call "reduce.Mask" [high])] false
    let lost ← function "lost" [] none [← eval (← ident "nowhere")] false
    return [vote, lost]
  { constants := [], functions := (build.run 0).1 }

/-- The reports and the one issue of the program are the same on both targets. -/
theorem Program.portable_without_broadcast_ballot :
    (ballot.analyze ⟨"sse4", 128⟩).regions.length = 1 ∧ (ballot.analyze ⟨"sse4", 128⟩).issues.length = 1 ∧
      ballot.analyze ⟨"sse4", 128⟩ = ballot.analyze ⟨"avx512", 512⟩ := by
  have hnone : ∀ f ∈ ballot.functions, LibraryOp.broadcast.name ∉ f.callees := by decide +kernel
  exact ⟨by decide +kernel, by decide +kernel,
    ballot.portable_without_broadcast (by decide) (by decide) hnone⟩

end Ballot

end Lanewise
