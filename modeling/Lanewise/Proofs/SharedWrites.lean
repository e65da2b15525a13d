import Lanewise.Proofs.LexicalScope
import Lanewise.Proofs.TypeIssues
import Lanewise.Proofs.TypeResolution
import Lanewise.Syntax.Builder

/-!
# Writes to uniform variables

All lanes share a uniform variable, so no lane may write it while others that share it are switched off. The check
keeps to that by comparing two numbers: how many varying conditions are around the write, and how many were around
the declaration. `Function.uniform_writes_unguarded` says what the comparison comes to in the text: in a function
that passes, every varying condition around a write to a uniform variable is around the declaration too, and a
function that is refused has a write where that fails.
-/

set_option autoImplicit false

namespace Lanewise

/-! ### Declarations of a function -/

/-- A declaration of a variable: its type, and where it stands. Parameters stand nowhere in the body. -/
structure Declaration where
  type : LaneType
  site? : Option Site

/-- The declaration of a variable that is in scope before a function. -/
def Declaration.outside (binding : Binding) : Declaration :=
  { type := binding.type, site? := none }

/-- The type of a parameter. -/
def Param.typeIn (env : Env) (q : Param) : LaneType :=
  (q.type.resolve env).toOption.getD .void

/-- The declaration of a function that a name refers to at a site: the last one in the text that reaches the site,
and the last parameter of that name if there is none. -/
def Function.declaration? (env : Env) (f : Function) (p : Site) (name : String) : Option Declaration :=
  ((declaring? (f.standings env) p name).map fun found => { type := found.2, site? := some found.1.site }).or
    ((f.params.reverse.find? fun q => q.name.text = name).map fun q => { type := q.typeIn env, site? := none })

/-- Whether a statement has a varying condition, and one of its blocks is around a site but not around the
declaration. -/
def Standing.separates (y : Standing) (p : Site) (d : Declaration) : Bool :=
  y.isVarying && y.site.stmt.blocks.any fun b =>
    p.within (y.way b.1) && !d.site?.any fun q => q.within (y.way b.1)

/-! ### Parameters -/

section Params

variable {env env' : Env}

/-- What a lane constraint stands for depends on the constants only. -/
theorem Constraint.StandsFor.of_constants (hconstants : env.constants = env'.constants) {c : Constraint} {n : Int64}
    (h : c.StandsFor env n) : c.StandsFor env' n := by
  unfold Constraint.StandsFor at h ⊢
  rwa [hconstants] at h

/-- What a type expression means depends on the constants only. -/
theorem TypeExpr.resolve_eq_ok_of_constants (hconstants : env.constants = env'.constants) {t : TypeExpr}
    {l : LaneType} (h : t.resolve env = .ok l) : t.resolve env' = .ok l := by
  rw [TypeExpr.resolve_eq_ok] at h ⊢
  induction h with
  | void => exact .void
  | uniform hname => exact .uniform hname
  | native hname => exact .native hname
  | universal hname hzero => exact .universal hname (hzero.of_constants hconstants)
  | fixed hname hcount hallowed => exact .fixed hname (hcount.of_constants hconstants) hallowed
  | chan helem ih => exact .chan ih

/-- The type of a parameter depends on the constants only. -/
theorem Param.typeIn_of_constants (hconstants : env.constants = env'.constants) (q : Param) :
    q.typeIn env = q.typeIn env' := by
  unfold Param.typeIn
  cases h : q.type.resolve env with
  | ok l => rw [TypeExpr.resolve_eq_ok_of_constants hconstants h]
  | error issue =>
    cases h' : q.type.resolve env' with
    | ok l =>
      rw [TypeExpr.resolve_eq_ok_of_constants hconstants.symm h'] at h
      cases h
    | error issue' => rfl

/-- Declaring parameters closes no scope. -/
theorem scopes_declareParamsIn (hopen : env.scopes ≠ []) (params : List Param) :
    (declareParamsIn env params).scopes ≠ [] := by
  induction params generalizing env with
  | nil => exact hopen
  | cons q rest ih => exact ih (Env.scopes_define hopen _ _)

/-- Among the parameters a name means the last one of that name, or else what it means outside. -/
theorem lookup?_declareParamsIn (hopen : env.scopes ≠ []) (params : List Param) (name : String) :
    (declareParamsIn env params).lookup? name =
      ((params.reverse.find? fun q => q.name.text = name).map fun q => { type := q.typeIn env, depth := 0 }).or
        (env.lookup? name) := by
  induction params generalizing env with
  | nil => rfl
  | cons q rest ih =>
    have hconstants : (env.define q.name.text ⟨q.typeIn env, 0⟩).constants = env.constants := by
      unfold Env.define
      split
      · rfl
      · rfl
    have htypes : (fun r : Param => Binding.mk (r.typeIn (env.define q.name.text ⟨q.typeIn env, 0⟩)) 0) =
        fun r => Binding.mk (r.typeIn env) 0 := by
      funext r
      rw [Param.typeIn_of_constants hconstants r]
    show (declareParamsIn (env.define q.name.text ⟨q.typeIn env, 0⟩) rest).lookup? name = _
    rw [ih (Env.scopes_define hopen _ _), htypes, Env.lookup?_define hopen, List.reverse_cons, List.find?_append,
      Option.map_or, Option.or_assoc]
    by_cases hname : q.name.text = name
    · simp [hname]
    · simp [hname]

end Params

/-! ### What the check compares -/

section Depths

variable {f : Function} {env : Env} {x : Standing} (hx : x ∈ f.standings env)

include hx

/-- At a statement a name means the last declaration that reaches it, or else a parameter, or else what it
means outside the function. -/
theorem Function.lookup?_standing (name : String) : x.env.lookup? name =
    ((declaring? (f.standings env) x.site name).map Standing.bind).or
      (((f.params.reverse.find? fun q => q.name.text = name).map fun q => { type := q.typeIn env, depth := 0 }).or
        (env.lookup? name)) := by
  have hopen : env.push.scopes ≠ [] := by simp [Env.push]
  have htypes : (fun q : Param => Binding.mk (q.typeIn env.push) 0) = fun q => Binding.mk (q.typeIn env) 0 := by
    funext q
    rw [Param.typeIn_of_constants (show env.push.constants = env.constants from rfl) q]
  rw [Block.lookup?_standing f.body (scopes_declareParamsIn hopen f.params) 0 0 name x hx,
    lookup?_declareParamsIn hopen, htypes, Env.lookup?_push]
  rfl

/-- The check counts the varying conditions around a statement. -/
theorem Function.depth_standing : x.depth = (f.standings env).countP (·.guards x.site) := by
  rw [Block.depth_standing f.body (declareParamsIn env.push f.params) 0 0 x hx, Nat.zero_add]
  rfl

end Depths

/-- Where one property is stronger than another, its count is smaller exactly if something has the weaker one
only. -/
theorem countP_lt_countP_iff {α : Type} {p q : α → Bool} {xs : List α} (h : ∀ a, p a = true → q a = true) :
    xs.countP p < xs.countP q ↔ ∃ a ∈ xs, q a = true ∧ p a = false := by
  induction xs with
  | nil => simp
  | cons a rest ih =>
    have hle : rest.countP p ≤ rest.countP q := List.countP_mono_left fun b _ => h b
    simp only [List.countP_cons, List.mem_cons, exists_eq_or_imp, ← ih]
    cases hq : q a with
    | false =>
      have hp : p a = false := by
        cases hp : p a with
        | false => rfl
        | true => rw [h a hp] at hq; cases hq
      simp [hp]
    | true =>
      cases hp : p a with
      | true => simp
      | false =>
        simp
        omega

namespace Standing

variable {y : Standing} {p q : Site} {t : LaneType}

/-- From a declaration outside the body every varying condition around a site separates. -/
theorem separates_none : y.separates p ⟨t, none⟩ = y.guards p := by
  simp [separates, guards]

/-- What guards a declaration guards all that it reaches. -/
theorem guards_of_within (h : p.within q.path = true) (hq : y.guards q = true) : y.guards p = true := by
  simp only [guards, Bool.and_eq_true, List.any_eq_true] at hq ⊢
  obtain ⟨hvarying, b, hb, hwithin⟩ := hq
  exact ⟨hvarying, b, hb, Site.within_trans hwithin h⟩

/-- A varying condition is around a site and not around the place of a declaration that reaches it exactly if no
block of it is around both. -/
theorem separates_some (h : p.within q.path = true) :
    y.separates p ⟨t, some q⟩ = true ↔ y.guards p = true ∧ y.guards q = false := by
  simp only [separates, guards, Option.any_some, Bool.and_eq_true, List.any_eq_true, Bool.not_eq_true']
  constructor
  · rintro ⟨hvarying, b, hb, hin, hout⟩
    refine ⟨⟨hvarying, b, hb, hin⟩, ?_⟩
    rw [hvarying, Bool.true_and, List.any_eq_false]
    intro c hc hwithin
    have hturn := Site.turn_unique hin (Site.within_trans hwithin h)
    have harm : b.1 = c.1 := congrArg Prod.snd hturn
    rw [harm, hwithin] at hout
    cases hout
  · rintro ⟨⟨hvarying, b, hb, hin⟩, hout⟩
    rw [hvarying, Bool.true_and, List.any_eq_false] at hout
    exact ⟨hvarying, b, hb, hin, by simpa using hout b hb⟩

end Standing

section Compared

variable {f : Function} {env : Env} {x : Standing}

/-- A declaration has fewer varying conditions around it than a statement that it reaches exactly if some varying
condition separates the two. -/
theorem Function.depth_lt_iff {y : Standing} (hx : x ∈ f.standings env) (hy : y ∈ f.standings env)
    (hwithin : x.site.within y.site.path = true) (t : LaneType) :
    y.depth < x.depth ↔ ∃ z ∈ f.standings env, z.separates x.site ⟨t, some y.site⟩ = true := by
  have hmono : ∀ z : Standing, z.guards y.site = true → z.guards x.site = true :=
    fun z => Standing.guards_of_within hwithin
  rw [Function.depth_standing hx, Function.depth_standing hy, countP_lt_countP_iff hmono]
  simp only [Standing.separates_some hwithin]

/-- A statement has a varying condition around it exactly if one separates it from the parameters. -/
theorem Function.depth_pos_iff (hx : x ∈ f.standings env) (t : LaneType) :
    0 < x.depth ↔ ∃ z ∈ f.standings env, z.separates x.site ⟨t, none⟩ = true := by
  rw [Function.depth_standing hx, List.countP_pos_iff]
  simp only [Standing.separates_none]

/-- Where a name refers to a declaration of the function, the variable that the check finds has the type of that
declaration, and fewer varying conditions around it exactly if one of them separates the two. -/
theorem Function.binding_of_declaration? (hx : x ∈ f.standings env) {name : String} {d : Declaration}
    (hd : f.declaration? env x.site name = some d) :
    ∃ binding, x.env.lookup? name = some binding ∧ binding.type = d.type ∧
      (binding.depth < x.depth ↔ ∃ y ∈ f.standings env, y.separates x.site d = true) := by
  rw [Function.lookup?_standing hx name]
  unfold Function.declaration? at hd
  cases hlocal : declaring? (f.standings env) x.site name with
  | some found =>
    rw [hlocal] at hd
    cases hd
    obtain ⟨hy, hdeclares⟩ := mem_of_declaring? hlocal
    exact ⟨Standing.bind found, rfl, rfl,
      Function.depth_lt_iff hx hy (Standing.within_of_declares? hdeclares) found.2⟩
  | none =>
    rw [hlocal] at hd
    cases hparam : f.params.reverse.find? fun q => q.name.text = name with
    | none =>
      rw [hparam] at hd
      cases hd
    | some q =>
      rw [hparam] at hd
      cases hd
      exact ⟨⟨q.typeIn env, 0⟩, rfl, rfl, Function.depth_pos_iff hx _⟩

/-- A name that the check finds a variable for refers to a declaration of the function, or to a variable that was
in scope before. -/
theorem Function.declaration?_of_binding (hx : x ∈ f.standings env) {name : String} {binding : Binding}
    (h : x.env.lookup? name = some binding) :
    ∃ d, (f.declaration? env x.site name).or ((env.lookup? name).map Declaration.outside) = some d ∧
      d.type = binding.type ∧
      (binding.depth < x.depth → ∃ y ∈ f.standings env, y.separates x.site d = true) := by
  cases hd : f.declaration? env x.site name with
  | some d =>
    obtain ⟨found, hfound, htype, hdepth⟩ := Function.binding_of_declaration? hx hd
    rw [h] at hfound
    cases hfound
    exact ⟨d, rfl, htype.symm, hdepth.1⟩
  | none =>
    obtain ⟨hlocal, hparam⟩ := Option.or_eq_none_iff.1 hd
    rw [Option.map_eq_none_iff] at hlocal hparam
    rw [Function.lookup?_standing hx name, hlocal, hparam] at h
    have houter : env.lookup? name = some binding := h
    refine ⟨.outside binding, by rw [houter]; rfl, rfl, fun hdepth => ?_⟩
    exact (Function.depth_pos_iff hx binding.type).1 (Nat.zero_lt_of_lt hdepth)

end Compared

/-- In a function that passes its check, no varying condition separates a write to a uniform variable from the
declaration of the variable. A function that is refused for a write to a uniform variable is refused at a write that
some varying condition separates from the declaration. -/
theorem Function.uniform_writes_unguarded (env : Env) (f : Function) :
    ((f.check env).1.isOk = true → ∀ x ∈ f.standings env, ∀ span target value,
        x.site.stmt = .assign span target value → ∀ d, f.declaration? env x.site target.text = some d →
          d.type.isVarying = false → ∀ y ∈ f.standings env, y.separates x.site d = false) ∧
      ∀ issue, (f.check env).1 = .error issue → issue.fault.kind = .flow .uniformAssignInVaryingBranch →
        ∃ x ∈ f.standings env, ∃ target value, x.site.stmt = .assign issue.span target value ∧
          ∃ d, (f.declaration? env x.site target.text).or ((env.lookup? target.text).map Declaration.outside) =
              some d ∧
            d.type.isVarying = false ∧ ∃ y ∈ f.standings env, y.separates x.site d = true := by
  constructor
  · intro hok x hx span target value hstmt d hd huniform y hy
    obtain ⟨types, env', hcheck⟩ := Function.exists_of_isOk hok
    obtain ⟨s, -, hpasses⟩ := Function.passes_of_check hcheck
    obtain ⟨place, state, final, -, hdepth, henv, hrun⟩ := hpasses x hx
    rw [hstmt] at hrun
    obtain ⟨t, binding, hlookup, -, -, hwrite, -⟩ := checkAssign_ok hrun
    obtain ⟨found, hfound, htype, hiff⟩ := Function.binding_of_declaration? hx hd
    rw [henv, hfound] at hlookup
    cases hlookup
    have hshallow : ¬ binding.depth < x.depth := by
      intro hdeep
      unfold expectSharedWrite at hwrite
      rw [htype, huniform, hdepth] at hwrite
      simp [hdeep] at hwrite
    cases hseparates : y.separates x.site d with
    | false => rfl
    | true => exact absurd (hiff.2 ⟨y, hy, hseparates⟩) hshallow
  · intro issue hissue hkind
    have hcheck : f.check env = (.error issue, (f.check env).2) := by rw [← hissue]
    rcases Function.issue_of_check hcheck with ⟨fault, span, rfl⟩ | ⟨x, hx, target, value, binding, hstmt, hlookup,
      huniform, hdepth⟩
    · cases hkind
    · obtain ⟨d, hd, htype, hseparated⟩ := Function.declaration?_of_binding hx hlookup
      exact ⟨x, hx, target, value, hstmt, d, hd, by rw [htype, huniform], hseparated hdepth⟩

section Settling

open Builder

/-- A branch by lane that declares a uniform variable of its own, and writes the variable of the given name in a
loop. -/
def settle (target : String) : Function :=
  let build : Builder Function := do
    let total ← declare "total" none (← int 0)
    let step ← declare "step" none (← int 1)
    let rounds ← whileLoop (← binary .lt (← ident "step") (← int 4)) [← assign target (← int 5)]
    let branch ← ifThen (← binary .lt (← ident "x") (← int 8)) [step, rounds]
    function "settle" [← param "x" (← varying "int64")] none [total, branch, ← assign "total" (← int 2)] false
  (build.run 0).1

/-- The signature of the function: one varying value, and no result. -/
def settleSignature : Signature :=
  { params := [.varying .int64 .native], result := .void, isPublic := false, span := (settle "step").span }

/-- The environment in which the function alone is declared. -/
def settleEnv : Env :=
  { Env.initial .standard with functions := Assoc.empty.insert "settle" settleSignature }

/-- The branch may write its own variable, and not the one from outside. -/
theorem Function.uniform_writes_unguarded_settle :
    (∃ x ∈ (settle "step").standings settleEnv, ∃ span target value, x.site.stmt = .assign span target value ∧
        (∃ y ∈ (settle "step").standings settleEnv, y.guards x.site = true) ∧
        ∃ d, (settle "step").declaration? settleEnv x.site target.text = some d ∧ d.type = .uniform .int64 ∧
          ∀ y ∈ (settle "step").standings settleEnv, y.separates x.site d = false) ∧
      ∃ issue, ((settle "total").check settleEnv).1 = .error issue ∧
        ∃ x ∈ (settle "total").standings settleEnv, ∃ target value, x.site.stmt = .assign issue.span target value := by
  constructor
  · have hpasses : ((settle "step").check settleEnv).1.isOk = true := by decide +kernel
    have hsite : (((settle "step").standings settleEnv)[4]?.any fun x =>
        ((settle "step").standings settleEnv).any (·.guards x.site) &&
          match x.site.stmt with
          | .assign _ target _ => ((settle "step").declaration? settleEnv x.site target.text).any fun d =>
              d.type = .uniform .int64
          | _ => false) = true := by decide +kernel
    obtain ⟨x, hx, hfound⟩ := (Option.any_eq_true _ _).1 hsite
    rw [Bool.and_eq_true, List.any_eq_true] at hfound
    obtain ⟨hguarded, hwrite⟩ := hfound
    have hmem := List.mem_of_getElem? hx
    split at hwrite
    · rename_i span target value hstmt
      obtain ⟨d, hd, htype⟩ := (Option.any_eq_true _ _).1 hwrite
      rw [decide_eq_true_eq] at htype
      have huniform : d.type.isVarying = false := by rw [htype]; rfl
      exact ⟨x, hmem, span, target, value, hstmt, hguarded, d, hd, htype,
        (Function.uniform_writes_unguarded settleEnv (settle "step")).1 hpasses x hmem span target value hstmt d hd
          huniform⟩
    · cases hwrite
  · have hrefused : (match ((settle "total").check settleEnv).1 with
        | .error issue => decide (issue.fault.kind = .flow .uniformAssignInVaryingBranch)
        | .ok _ => false) = true := by decide +kernel
    split at hrefused
    · rename_i issue hissue
      obtain ⟨x, hx, target, value, hstmt, -⟩ :=
        (Function.uniform_writes_unguarded settleEnv (settle "total")).2 issue hissue (by simpa using hrefused)
      exact ⟨issue, hissue, x, hx, target, value, hstmt⟩
    · cases hrefused

end Settling

end Lanewise
