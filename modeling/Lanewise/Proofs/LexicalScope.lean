import Lanewise.Proofs.Clearing
import Lanewise.Proofs.ScopeInvariants

/-!
# Lexical scope

What a name means at a statement can be read off the text: a declaration reaches the statements that follow it in
its block and all that lies inside them, the variable of a loop or of an arm of a type switch reaches what lies
inside that block, and of the declarations of a name that reach a statement the last one counts. The environment
in force finds exactly that one (`Block.lookup?_standing`), and remembers how many varying conditions are around
it. That number is a count over the text too (`Block.depth_standing`).
-/

set_option autoImplicit false

namespace Lanewise

/-! ### Places in a body -/

/-- Where a step goes: the number of its statement in the block, and the block of that statement. -/
def Step.turn (step : Step) : Nat × Arm :=
  (step.index, step.arm)

namespace Site

/-- Whether a site lies in the block at the end of a way. In one body the turns tell all blocks apart. -/
def within (p : Site) (block : List Step) : Bool :=
  (block.map Step.turn).isPrefixOf (p.path.map Step.turn)

/-- The number of the statement that a site lies in, in the block at the end of a way. -/
def numberIn? (p : Site) (block : List Step) : Option Nat :=
  if p.within block then some (top { p with path := p.path.drop block.length }) else none

variable {p q : Site} {step first : Step} {block : List Step}

/-- Every site lies in the outermost block. -/
@[simp] theorem within_nil : p.within [] = true := by
  simp [within]

/-- Behind a step a site lies in a block if that block is entered by the same turn and has the site further
on. -/
@[simp] theorem within_under :
    (p.under step).within (first :: block) = (first.turn == step.turn && p.within block) := rfl

/-- A site given by its way lies in a block if both ways start with the same turn and the rest of it does. -/
@[simp] theorem within_mk_cons {inner : List Step} {index : Nat} {s : Stmt} :
    (Site.mk (step :: inner) index s).within (first :: block) =
      (first.turn == step.turn && (Site.mk inner index s).within block) := rfl

/-- A statement of the outermost block lies in no block further inside. -/
@[simp] theorem within_here {index : Nat} {s : Stmt} : (Site.mk [] index s).within (first :: block) = false := by
  simp [within]

/-- In the outermost block a site counts by the statement at its top. -/
@[simp] theorem numberIn?_nil : p.numberIn? [] = some p.top := by
  simp [numberIn?]

/-- Behind a step a site has its number in a block that is entered by the same turn, and none in another. -/
@[simp] theorem numberIn?_under : (p.under step).numberIn? (first :: block) =
    if first.turn = step.turn then p.numberIn? block else none := by
  have hdrop : (p.under step).path.drop (first :: block).length = p.path.drop block.length := rfl
  by_cases hturn : first.turn = step.turn
  · rw [numberIn?, numberIn?, within_under, hdrop]
    simp [hturn, under]
  · simp [numberIn?, hturn]

/-- A site with a number in a block lies in it. -/
theorem within_of_numberIn? {i : Nat} (h : p.numberIn? block = some i) : p.within block = true := by
  by_cases hin : p.within block = true
  · exact hin
  · simp [numberIn?, hin] at h

/-- A site that does not lie behind a step lies in no block further inside. -/
theorem not_within_cons (h : p.within [first] = false) : p.within (first :: block) = false := by
  obtain ⟨path, index, stmt⟩ := p
  cases path with
  | nil => exact within_here
  | cons step inner =>
    rw [within_mk_cons, within_nil, Bool.and_true] at h
    rw [within_mk_cons, h, Bool.false_and]

/-- A site lies in no block of another statement than the one at its top. -/
theorem not_within_of_top_ne (h : first.index ≠ p.top) : p.within (first :: block) = false := by
  obtain ⟨path, index, stmt⟩ := p
  cases path with
  | nil => exact within_here
  | cons step inner =>
    have hturn : first.turn ≠ step.turn := fun heq => h (congrArg Prod.fst heq)
    simp [hturn]

/-- What lies in a block around a site lies around all that is further inside. -/
theorem within_trans {outer : List Step} (houter : q.within outer = true) (h : p.within q.path = true) :
    p.within outer = true := by
  simp only [within, List.isPrefixOf_iff_prefix] at houter h ⊢
  exact houter.trans h

/-- A site in an inner block lies in the outer one. -/
theorem within_of_append {inner : List Step} (h : p.within (block ++ inner) = true) : p.within block = true := by
  simp only [within, List.isPrefixOf_iff_prefix, List.map_append] at h ⊢
  exact (List.prefix_append _ _).trans h

/-- A site lies in one block of a statement at most. -/
theorem turn_unique {a b : Step} (ha : p.within (block ++ [a]) = true) (hb : p.within (block ++ [b]) = true) :
    a.turn = b.turn := by
  simp only [within, List.isPrefixOf_iff_prefix, List.map_append] at ha hb
  have heq := List.prefix_of_prefix_length_le ha hb (by simp)
  simpa using List.IsPrefix.eq_of_length heq (by simp)

end Site

namespace Standing

/-- The way into a block of a statement. -/
def way (y : Standing) (arm : Arm) : List Step :=
  y.site.path ++ [⟨y.site.index, y.site.stmt, arm⟩]

/-- Whether lanes may disagree about the block of a statement that they run, by the type of what decides. -/
def isVarying (y : Standing) : Bool :=
  y.site.stmt.decision?.any fun e => (e.typeIn y.env).isVarying

/-- Whether a statement has a varying condition and a site lies in one of its blocks. -/
def guards (y : Standing) (p : Site) : Bool :=
  y.isVarying && y.site.stmt.blocks.any fun b => p.within (y.way b.1)

/-- Behind a step the ways start with that step. -/
@[simp] theorem way_under (step : Step) (y : Standing) (arm : Arm) :
    (y.under step).way arm = step :: y.way arm := rfl

/-- A step in front does not change what decides. -/
@[simp] theorem isVarying_under (step : Step) (y : Standing) : (y.under step).isVarying = y.isVarying := rfl

/-- A step in front of both does not change whether a statement guards a site. -/
@[simp] theorem guards_under (step : Step) (y : Standing) (p : Site) :
    (y.under step).guards (p.under step) = y.guards p := by
  simp only [guards, isVarying_under, way_under, Site.within_under, beq_self_eq_true, Bool.true_and]
  rfl

/-- A statement behind a step guards no site that is not behind it. -/
theorem guards_under_of_not_within {step : Step} {y : Standing} {p : Site} (h : p.within [step] = false) :
    (y.under step).guards p = false := by
  simp [guards, Site.not_within_cons h]

/-- Nothing guards a statement of the outermost block. -/
theorem not_guards_mk_nil {y : Standing} {index : Nat} {s : Stmt} : y.guards ⟨[], index, s⟩ = false := by
  obtain ⟨⟨path, number, stmt⟩, env, depth⟩ := y
  cases path <;> simp [guards, way]

/-- A statement guards no site of another statement at the top. -/
theorem guards_of_top_ne {y : Standing} {p : Site} (h : y.site.top ≠ p.top) : y.guards p = false := by
  obtain ⟨⟨path, index, stmt⟩, env, depth⟩ := y
  cases path with
  | nil =>
    have hout : ∀ arm, p.within [⟨index, stmt, arm⟩] = false := fun arm => Site.not_within_of_top_ne h
    simp [guards, way, hout]
  | cons step inner =>
    have hout : ∀ more, p.within (step :: more) = false := fun more => Site.not_within_of_top_ne h
    simp [guards, way, hout]

end Standing

/-! ### Declarations -/

/-- A variable that a block of a statement starts with. -/
structure BlockVariable where
  arm : Arm
  name : String
  type : LaneType

/-- The variables of the arms of a type switch on lanes of type `t`, the first of which is number `k`. -/
def LaneArms.variables (env : Env) (name : String) (t : LaneType) (k : Nat) : LaneArms → List BlockVariable
  | .nil => []
  | .default _ => [⟨.lanes k, name, t⟩]
  | .case lanes _ rest => ⟨.lanes k, name, t.settled env lanes⟩ :: rest.variables env name t (k + 1)

/-- The variables that the blocks of a statement start with. -/
def Stmt.blockVariables (env : Env) : Stmt → List BlockVariable
  | .typeSwitch _ binding scrutinee arms => arms.variables env binding.text (scrutinee.typeIn env) 0
  | .forIn _ var iterable _ => [⟨.body, var.text, (iterable.typeIn env).item⟩]
  | .goFor _ var range lanes _ => [⟨.body, var.text, (range.typeIn env).spread env lanes⟩]
  | _ => []

/-- The type under which a statement declares a name for those that follow it. -/
def Stmt.declared? (env : Env) (name : String) : Stmt → Option LaneType
  | .declare _ declared type value =>
    if declared.text = name then some (declaredType env type value) else none
  | _ => none

/-- The type under which a statement declares a name for a site, if it does. -/
def Standing.declares? (y : Standing) (p : Site) (name : String) : Option LaneType :=
  if (p.numberIn? y.site.path).any (y.site.index < ·) then y.site.stmt.declared? y.env name
  else
    ((y.site.stmt.blockVariables y.env).find? fun v => v.name = name && p.within (y.way v.arm)).map
      BlockVariable.type

/-- The last of some statements that declares a name for a site, and the type under which it does. -/
def declaring? (xs : List Standing) (p : Site) (name : String) : Option (Standing × LaneType) :=
  xs.reverse.findSome? fun y => (y.declares? p name).map fun t => (y, t)

namespace Standing

variable {p : Site} {name : String} {step : Step}

/-- A step in front of both does not change what a statement declares for a site. -/
@[simp] theorem declares?_under (y : Standing) :
    (y.under step).declares? (p.under step) name = y.declares? p name := by
  have hpath : (y.under step).site.path = step :: y.site.path := rfl
  simp only [declares?, hpath, Site.numberIn?_under, if_true, way_under, Site.within_under, beq_self_eq_true,
    Bool.true_and]
  rfl

/-- A statement behind a step declares nothing for a site that is not behind it. -/
theorem declares?_under_of_not_within {y : Standing} (h : p.within [step] = false) :
    (y.under step).declares? p name = none := by
  have hpath : (y.under step).site.path = step :: y.site.path := rfl
  simp [declares?, hpath, Site.numberIn?, Site.not_within_cons h]

/-- No declaration reaches back to an earlier statement. -/
theorem declares?_of_top_lt {y : Standing} (h : p.top < y.site.top) : y.declares? p name = none := by
  obtain ⟨⟨path, index, stmt⟩, env, depth⟩ := y
  cases path with
  | nil =>
    have hlt : p.top < index := h
    have hout : ∀ arm, p.within [⟨index, stmt, arm⟩] = false :=
      fun arm => Site.not_within_of_top_ne (show index ≠ p.top by omega)
    have hnot : ¬ index < p.top := by omega
    simp [declares?, way, hout, hnot]
  | cons step inner =>
    have hlt : p.top < step.index := h
    have hout : ∀ more, p.within (step :: more) = false :=
      fun more => Site.not_within_of_top_ne (show step.index ≠ p.top by omega)
    simp [declares?, Site.numberIn?, way, hout]

/-- No statement declares anything for one that does not come after it in the outermost block. -/
theorem declares?_here (y : Standing) {index : Nat} {s : Stmt} (hle : index ≤ y.site.top) :
    y.declares? ⟨[], index, s⟩ name = none := by
  obtain ⟨⟨path, number, stmt⟩, env, depth⟩ := y
  cases path with
  | nil =>
    have hnot : ¬ number < index := by
      have : index ≤ number := hle
      omega
    simp [declares?, way, hnot]
  | cons step inner => simp [declares?, Site.numberIn?, way]

/-- A declaration reaches only what lies in its block. -/
theorem within_of_declares? {y : Standing} {t : LaneType} (h : y.declares? p name = some t) :
    p.within y.site.path = true := by
  unfold declares? at h
  split at h
  · rename_i hnumber
    obtain ⟨i, hi, -⟩ := (Option.any_eq_true _ _).1 hnumber
    exact Site.within_of_numberIn? hi
  · obtain ⟨v, hv, -⟩ := Option.map_eq_some_iff.1 h
    have hinside := List.find?_some hv
    rw [Bool.and_eq_true] at hinside
    exact Site.within_of_append hinside.2

end Standing

section Declaring

variable {p : Site} {name : String} {xs ys : List Standing}

/-- The last declaration in two lists is that of the second one, or else that of the first. -/
@[simp] theorem declaring?_append :
    declaring? (xs ++ ys) p name = (declaring? ys p name).or (declaring? xs p name) := by
  simp [declaring?, List.findSome?_append]

/-- The first statement counts only if none of the others declares the name. -/
@[simp] theorem declaring?_cons {x : Standing} :
    declaring? (x :: xs) p name =
      (declaring? xs p name).or ((x.declares? p name).map fun t => (x, t)) := by
  simp [declaring?, List.findSome?_append]

/-- Where no statement declares a name for a site, there is no declaration. -/
theorem declaring?_eq_none (h : ∀ y ∈ xs, y.declares? p name = none) : declaring? xs p name = none := by
  rw [declaring?, List.findSome?_eq_none_iff]
  intro y hy
  rw [h y (List.mem_reverse.1 hy)]
  rfl

/-- A step in front of all does not change which statement declares a name. -/
theorem declaring?_map_under (step : Step) :
    declaring? (xs.map (.under step)) (p.under step) name =
      (declaring? xs p name).map fun found => (found.1.under step, found.2) := by
  induction xs with
  | nil => rfl
  | cons x rest ih =>
    rw [List.map_cons, declaring?_cons, declaring?_cons, ih, Standing.declares?_under, Option.map_or,
      Option.map_map]
    rfl

/-- The declaration that is found is one of the statements, and declares the name. -/
theorem mem_of_declaring? {y : Standing} {t : LaneType} (h : declaring? xs p name = some (y, t)) :
    y ∈ xs ∧ y.declares? p name = some t := by
  obtain ⟨z, hz, hfound⟩ := List.exists_of_findSome?_eq_some h
  obtain ⟨u, hu, heq⟩ := Option.map_eq_some_iff.1 hfound
  cases heq
  exact ⟨List.mem_reverse.1 hz, hu⟩

end Declaring

/-! ### What the environment in force finds -/

/-- The variable of a declaration, as the environment holds it. -/
def Standing.bind (found : Standing × LaneType) : Binding :=
  { type := found.2, depth := found.1.depth }

namespace Env

variable {env : Env}

/-- A new scope hides no name. -/
@[simp] theorem lookup?_push (name : String) : env.push.lookup? name = env.lookup? name := by
  rw [lookup?, lookup?, push, List.findSome?_cons, Assoc.find?_empty]

/-- A definition gives its name a meaning and leaves all others as they were, if a scope is open. -/
theorem lookup?_define (hopen : env.scopes ≠ []) (declared name : String) (binding : Binding) :
    (env.define declared binding).lookup? name =
      if declared = name then some binding else env.lookup? name := by
  unfold define lookup?
  split
  · contradiction
  · rename_i scope outer hscopes
    rw [List.findSome?_cons, Assoc.find?_insert, hscopes, List.findSome?_cons]
    by_cases heq : declared = name
    · simp [heq]
    · have hne : name ≠ declared := fun h => heq h.symm
      simp [heq, hne]

/-- A definition closes no scope. -/
theorem scopes_define (hopen : env.scopes ≠ []) (name : String) (binding : Binding) :
    (env.define name binding).scopes ≠ [] := by
  unfold define
  split
  · exact hopen
  · simp

/-- A new scope with one variable gives its name a meaning and leaves all others as they were. -/
theorem lookup?_pushWith (declared : Name) (t : LaneType) (depth : Nat) (name : String) :
    (env.pushWith declared t depth).lookup? name =
      if declared.text = name then some { type := t, depth } else env.lookup? name := by
  rw [pushWith, lookup?_define (by simp [push]), lookup?_push]

/-- In a new scope with one variable a scope is open. -/
theorem scopes_pushWith (declared : Name) (t : LaneType) (depth : Nat) :
    (env.pushWith declared t depth).scopes ≠ [] :=
  scopes_define (by simp [push]) _ _

end Env

section Blocks

variable {env : Env} {depth : Nat}

/-- After a statement a scope is open if one was before. -/
theorem Stmt.scopes_envAfter (hopen : env.scopes ≠ []) (s : Stmt) : (s.envAfter env depth).scopes ≠ [] := by
  cases s with
  | declare span name type value => exact Env.scopes_define hopen _ _
  | _ => exact hopen

/-- A statement adds what it declares to what the environment finds. -/
theorem Stmt.lookup?_envAfter (hopen : env.scopes ≠ []) (s : Stmt) (name : String) :
    (s.envAfter env depth).lookup? name =
      ((s.declared? env name).map fun t => { type := t, depth }).or (env.lookup? name) := by
  cases s with
  | declare span declared type value =>
    rw [Stmt.envAfter, Env.lookup?_define hopen, Stmt.declared?]
    by_cases heq : declared.text = name
    · simp [heq]
    · simp [heq]
  | _ => rfl

/-- The arms of a type switch have no variable of another name than the one it binds. -/
theorem LaneArms.find?_variables_of_ne {binding name : String} (hne : binding ≠ name) {t : LaneType}
    (test : BlockVariable → Bool) : ∀ (arms : LaneArms) (k : Nat),
      (arms.variables env binding t k).find? (fun v => v.name = name && test v) = none
  | .nil, _ => rfl
  | .default _, _ => by simp [LaneArms.variables, hne]
  | .case _ _ rest, k => by
    simp [LaneArms.variables, hne, LaneArms.find?_variables_of_ne hne test rest (k + 1)]

/-- In the body of an arm of a type switch a name means the variable of that arm, or else what it means
outside. -/
theorem LaneArms.lookup?_scopedBlocks {binding : Name} {t : LaneType} (name : String) :
    ∀ (arms : LaneArms) (k : Nat), ∀ b ∈ arms.scopedBlocks env depth binding t k,
      b.env.scopes ≠ [] ∧ b.env.lookup? name =
        (((arms.variables env binding.text t k).find? fun v => v.name = name && v.arm = b.arm).map
          fun v => { type := v.type, depth }).or (env.lookup? name)
  | .nil, _, _, hb => by cases hb
  | .default body, k, b, hb => by
    obtain rfl := List.mem_singleton.1 hb
    refine ⟨Env.scopes_pushWith _ _ _, ?_⟩
    by_cases heq : binding.text = name
    · simp [Env.lookup?_pushWith, LaneArms.variables, heq]
    · simp [Env.lookup?_pushWith, LaneArms.variables, heq]
  | .case lanes body rest, k, b, hb => by
    rcases List.mem_cons.1 hb with rfl | hb
    · refine ⟨Env.scopes_pushWith _ _ _, ?_⟩
      by_cases heq : binding.text = name
      · simp [Env.lookup?_pushWith, LaneArms.variables, heq]
      · simp [Env.lookup?_pushWith, heq, LaneArms.find?_variables_of_ne heq]
    · have hnumber := LaneArms.number_of_mem_blocks (LaneArms.mem_blocks_of_scopedBlocks hb)
      have harm : Arm.lanes k ≠ b.arm := by
        intro heq
        rw [← heq] at hnumber
        exact absurd hnumber (Nat.not_succ_le_self k)
      have hrest := LaneArms.lookup?_scopedBlocks name rest (k + 1) b hb
      simpa [LaneArms.variables, harm] using hrest

/-- The bodies of a switch start with a new scope and nothing in it. -/
theorem Arms.env_scopedBlocks : ∀ (arms : Arms) (k : Nat),
    ∀ b ∈ arms.scopedBlocks env depth k, b.env = env.push
  | .nil, _, _, hb => by cases hb
  | .default _, _, _, hb => by rw [List.mem_singleton.1 hb]
  | .case _ _ rest, k, b, hb => by
    rcases List.mem_cons.1 hb with rfl | hb
    · rfl
    · exact Arms.env_scopedBlocks rest (k + 1) b hb

/-- A block is entered with its variable, if it has one, and what the environment finds otherwise. -/
theorem Stmt.lookup?_scopedBlocks (s : Stmt) (name : String) : ∀ b ∈ s.scopedBlocks env depth,
    b.env.scopes ≠ [] ∧ b.env.lookup? name =
      (((s.blockVariables env).find? fun v => v.name = name && v.arm = b.arm).map
        fun v => { type := v.type, depth }).or (env.lookup? name) := by
  have hplain : env.push.scopes ≠ [] ∧ env.push.lookup? name = env.lookup? name :=
    ⟨by simp [Env.push], Env.lookup?_push name⟩
  intro b hb
  cases s with
  | ifThen | whileLoop =>
    obtain rfl := List.mem_singleton.1 hb
    exact hplain
  | ifElse =>
    rcases List.mem_cons.1 hb with rfl | hb
    · exact hplain
    · obtain rfl := List.mem_singleton.1 hb
      exact hplain
  | switch span scrutinee arms =>
    rw [Arms.env_scopedBlocks arms 0 b hb]
    exact hplain
  | typeSwitch span binding scrutinee arms => exact LaneArms.lookup?_scopedBlocks name arms 0 b hb
  | forIn span var iterable body =>
    obtain rfl := List.mem_singleton.1 hb
    refine ⟨Env.scopes_pushWith _ _ _, ?_⟩
    by_cases heq : var.text = name
    · simp [Env.lookup?_pushWith, Stmt.blockVariables, heq]
    · simp [Env.lookup?_pushWith, Stmt.blockVariables, heq]
  | goFor span var range lanes body =>
    obtain rfl := List.mem_singleton.1 hb
    refine ⟨Env.scopes_pushWith _ _ _, ?_⟩
    by_cases heq : var.text = name
    · simp [Env.lookup?_pushWith, Stmt.blockVariables, heq]
    · simp [Env.lookup?_pushWith, Stmt.blockVariables, heq]
  | _ => cases hb

/-- The blocks of a switch with their environments are its blocks. -/
theorem Arms.map_scopedBlocks : ∀ (arms : Arms) (k : Nat),
    (arms.scopedBlocks env depth k).map (fun b => (b.arm, b.block)) = arms.blocks k
  | .nil, _ => rfl
  | .default _, _ => rfl
  | .case _ _ rest, k => by simp [Arms.scopedBlocks, Arms.blocks, Arms.map_scopedBlocks rest (k + 1)]

/-- The blocks of a type switch with their environments are its blocks. -/
theorem LaneArms.map_scopedBlocks {binding : Name} {t : LaneType} : ∀ (arms : LaneArms) (k : Nat),
    (arms.scopedBlocks env depth binding t k).map (fun b => (b.arm, b.block)) = arms.blocks k
  | .nil, _ => rfl
  | .default _, _ => rfl
  | .case _ _ rest, k => by simp [LaneArms.scopedBlocks, LaneArms.blocks, LaneArms.map_scopedBlocks rest (k + 1)]

/-- The blocks of a statement with their environments are its blocks. -/
theorem Stmt.map_scopedBlocks (s : Stmt) :
    (s.scopedBlocks env depth).map (fun b => (b.arm, b.block)) = s.blocks := by
  cases s with
  | switch span scrutinee arms => exact Arms.map_scopedBlocks arms 0
  | typeSwitch span binding scrutinee arms => exact LaneArms.map_scopedBlocks arms 0
  | _ => rfl

end Blocks

/-! ### Blocks of one statement are apart -/

/-- No two blocks of a switch belong to the same arm. -/
theorem Arms.nodup_arms : ∀ (arms : Arms) (k : Nat), ((arms.blocks k).map Prod.fst).Nodup
  | .nil, _ => .nil
  | .default _, _ => by simp [Arms.blocks]
  | .case _ _ rest, k => by
    rw [Arms.blocks, List.map_cons, List.nodup_cons]
    refine ⟨?_, Arms.nodup_arms rest (k + 1)⟩
    intro hmem
    obtain ⟨⟨arm, b⟩, hb, heq⟩ := List.mem_map.1 hmem
    have hnumber := Arms.number_of_mem_blocks hb
    rw [show arm = .case k from heq] at hnumber
    exact absurd hnumber (Nat.not_succ_le_self k)

/-- No two blocks of a type switch belong to the same arm. -/
theorem LaneArms.nodup_arms : ∀ (arms : LaneArms) (k : Nat), ((arms.blocks k).map Prod.fst).Nodup
  | .nil, _ => .nil
  | .default _, _ => by simp [LaneArms.blocks]
  | .case _ _ rest, k => by
    rw [LaneArms.blocks, List.map_cons, List.nodup_cons]
    refine ⟨?_, LaneArms.nodup_arms rest (k + 1)⟩
    intro hmem
    obtain ⟨⟨arm, b⟩, hb, heq⟩ := List.mem_map.1 hmem
    have hnumber := LaneArms.number_of_mem_blocks hb
    rw [show arm = .lanes k from heq] at hnumber
    exact absurd hnumber (Nat.not_succ_le_self k)

/-- No two blocks of a statement are entered in the same way. -/
theorem Stmt.nodup_arms (s : Stmt) : (s.blocks.map Prod.fst).Nodup := by
  cases s with
  | switch span scrutinee arms => exact Arms.nodup_arms arms 0
  | typeSwitch span binding scrutinee arms => exact LaneArms.nodup_arms arms 0
  | _ => simp [Stmt.blocks]

section Apart

variable {env : Env} {depth : Nat} {s : Stmt} {b : ScopedBlock}

/-- The statements of a statement, seen from inside one of its blocks: itself, those of that block, and those of
other blocks. -/
theorem Stmt.standings_around (hb : b ∈ s.scopedBlocks env depth) (index : Nat) (p : Site) :
    ∃ before after, s.standings env depth index =
        ⟨⟨[], index, s⟩, env, depth⟩ :: (before ++ (b.standings index s ++ after)) ∧
      ∀ y ∈ before ++ after, ∃ (z : Standing) (step : Step),
        y = z.under step ∧ (p.under ⟨index, s, b.arm⟩).within [step] = false := by
  obtain ⟨front, back, hsplit⟩ := List.append_of_mem hb
  refine ⟨front.flatMap (ScopedBlock.standings index s), back.flatMap (ScopedBlock.standings index s), ?_, ?_⟩
  · rw [Stmt.standings_eq, hsplit, List.flatMap_append, List.flatMap_cons]
  · have hnodup := s.nodup_arms
    rw [← @Stmt.map_scopedBlocks env depth s, hsplit, List.map_map, List.map_append, List.map_cons,
      List.nodup_append, List.nodup_cons] at hnodup
    obtain ⟨-, ⟨hback, -⟩, hfront⟩ := hnodup
    have hne : ∀ c ∈ front ++ back, c.arm ≠ b.arm := by
      intro c hc heq
      rcases List.mem_append.1 hc with hc | hc
      · exact hfront c.arm (List.mem_map_of_mem hc) b.arm List.mem_cons_self heq
      · exact hback (List.mem_map.2 ⟨c, hc, heq⟩)
    intro y hy
    rw [← List.flatMap_append] at hy
    obtain ⟨c, hc, hy⟩ := List.mem_flatMap.1 hy
    obtain ⟨z, -, rfl⟩ := List.mem_map.1 hy
    refine ⟨z, ⟨index, s, c.arm⟩, rfl, ?_⟩
    have hturn : (index, c.arm) ≠ (index, b.arm) := fun heq => hne c hc (congrArg Prod.snd heq)
    simp [Step.turn, hturn]

end Apart

/-! ### The rules of scoping -/

/-- The sites below a statement have it at their top. -/
theorem Stmt.top_standing {s : Stmt} {env : Env} {depth index : Nat} {x : Standing}
    (hx : x ∈ s.standings env depth index) : x.site.top = index := by
  apply Stmt.top_of_mem_sites (s := s)
  rw [← Stmt.map_site_standings env depth]
  exact List.mem_map_of_mem hx

/-- The sites of a block that counts from a number have at least this one at their top. -/
theorem Block.le_top_standing {b : Block} {env : Env} {depth index : Nat} {x : Standing}
    (hx : x ∈ b.standingsFrom env depth index) : index ≤ x.site.top := by
  apply Block.le_top_of_mem_sitesFrom (b := b)
  rw [← Block.map_site_standingsFrom env depth]
  exact List.mem_map_of_mem hx

section Reach

variable {s : Stmt} {env : Env} {depth index : Nat} {p : Site} (name : String)

/-- A statement declares nothing for itself, nor does anything inside it. -/
theorem Stmt.declaring?_here : declaring? (s.standings env depth index) ⟨[], index, s⟩ name = none := by
  apply declaring?_eq_none
  intro y hy
  exact y.declares?_here (Nat.le_of_eq (Stmt.top_standing hy).symm)

/-- Of all statements of a statement, only itself declares names for those that follow it. -/
theorem Stmt.declaring?_later (hlater : index < p.top) : declaring? (s.standings env depth index) p name =
    (s.declared? env name).map fun t => (⟨⟨[], index, s⟩, env, depth⟩, t) := by
  have hinner : declaring? ((s.scopedBlocks env depth).flatMap (ScopedBlock.standings index s)) p name = none := by
    apply declaring?_eq_none
    intro y hy
    obtain ⟨b, -, hy⟩ := List.mem_flatMap.1 hy
    obtain ⟨z, -, rfl⟩ := List.mem_map.1 hy
    exact Standing.declares?_under_of_not_within (Site.not_within_of_top_ne (Nat.ne_of_lt hlater))
  rw [Stmt.standings_eq, declaring?_cons, hinner, Option.none_or]
  simp [Standing.declares?, hlater]

/-- Inside a block of a statement, the declarations of that block come before the variable that it starts with. -/
theorem Stmt.declaring?_inside {b : ScopedBlock} (hb : b ∈ s.scopedBlocks env depth) :
    declaring? (s.standings env depth index) (p.under ⟨index, s, b.arm⟩) name =
      ((declaring? (b.block.standingsFrom b.env b.depth 0) p name).map
          fun found => (found.1.under ⟨index, s, b.arm⟩, found.2)).or
        (((s.blockVariables env).find? fun v => v.name = name && v.arm = b.arm).map
          fun v => (⟨⟨[], index, s⟩, env, depth⟩, v.type)) := by
  obtain ⟨before, after, hsplit, hapart⟩ := Stmt.standings_around hb index p
  have hothers : ∀ ys, (∀ y ∈ ys, y ∈ before ++ after) →
      declaring? ys (p.under ⟨index, s, b.arm⟩) name = none := by
    intro ys hys
    apply declaring?_eq_none
    intro y hy
    obtain ⟨z, step, rfl, hout⟩ := hapart y (hys y hy)
    exact Standing.declares?_under_of_not_within hout
  have hbefore := hothers before fun y hy => List.mem_append_left _ hy
  have hafter := hothers after fun y hy => List.mem_append_right _ hy
  have harm : ∀ v : BlockVariable, ((index, v.arm) == (index, b.arm)) = decide (v.arm = b.arm) := by
    intro v
    rw [Bool.eq_iff_iff]
    simp
  have hhere : Standing.declares? ⟨⟨[], index, s⟩, env, depth⟩ (p.under ⟨index, s, b.arm⟩) name =
      ((s.blockVariables env).find? fun v => v.name = name && v.arm = b.arm).map BlockVariable.type := by
    simp [Standing.declares?, Standing.way, Step.turn, harm]
  rw [hsplit, declaring?_cons, declaring?_append, declaring?_append, hbefore, hafter, hhere, ScopedBlock.standings,
    declaring?_map_under, Option.map_map, Option.none_or, Option.or_none]
  rfl

end Reach

/-- What a name means at a statement of a block: the last declaration of the name that reaches the statement, and
what it meant before the block if there is none. -/
theorem Block.lookup?_standing (b : Block) {env : Env} (hopen : env.scopes ≠ []) (depth index : Nat) (name : String) :
    ∀ x ∈ b.standingsFrom env depth index, x.env.lookup? name =
      ((declaring? (b.standingsFrom env depth index) x.site name).map Standing.bind).or (env.lookup? name) := by
  refine Block.of_blocks
    (P := fun b => ∀ env depth index, env.scopes ≠ [] → ∀ x ∈ b.standingsFrom env depth index,
      x.env.lookup? name =
        ((declaring? (b.standingsFrom env depth index) x.site name).map Standing.bind).or (env.lookup? name))
    (Q := fun s => ∀ env depth index, env.scopes ≠ [] → ∀ x ∈ s.standings env depth index,
      x.env.lookup? name =
        ((declaring? (s.standings env depth index) x.site name).map Standing.bind).or (env.lookup? name))
    ?_ ?_ ?_ b env depth index hopen
  · intro span env depth index _ x hx
    cases hx
  · intro s rest hs hrest env depth index hopen x hx
    rw [Block.standingsFrom] at hx ⊢
    rw [declaring?_append]
    rcases List.mem_append.1 hx with hx | hx
    · -- what follows the statement does not reach back
      have hlater : declaring? (rest.standingsFrom (s.envAfter env depth) depth (index + 1)) x.site name = none := by
        apply declaring?_eq_none
        intro y hy
        apply Standing.declares?_of_top_lt
        rw [Stmt.top_standing hx]
        exact Block.le_top_standing hy
      rw [hlater, Option.none_or]
      exact hs env depth index hopen x hx
    · have htop := Block.le_top_standing hx
      rw [hrest _ depth (index + 1) (Stmt.scopes_envAfter hopen s) x hx, Stmt.lookup?_envAfter hopen,
        Stmt.declaring?_later name htop, Option.map_or, Option.map_map, Option.or_assoc]
      rfl
  · intro s hblocks env depth index hopen x hx
    rw [Stmt.standings_eq] at hx
    rcases List.mem_cons.1 hx with rfl | hx
    · rw [Stmt.declaring?_here]
      rfl
    · obtain ⟨b, hb, hx⟩ := List.mem_flatMap.1 hx
      obtain ⟨y, hy, rfl⟩ := List.mem_map.1 hx
      obtain ⟨hentered, hlookup⟩ := Stmt.lookup?_scopedBlocks s name b hb
      have hinner := hblocks b.arm b.block (Stmt.mem_blocks_of_scopedBlocks hb) b.env b.depth 0 hentered y hy
      show y.env.lookup? name =
        ((declaring? _ (y.site.under ⟨index, s, b.arm⟩) name).map Standing.bind).or (env.lookup? name)
      rw [hinner, hlookup, Stmt.declaring?_inside name hb, Option.map_or, Option.map_map, Option.map_map,
        Option.or_assoc]
      rfl

/-! ### What lies inside a statement -/

/-- The statements of a block, as they are seen from there. -/
def ScopedBlock.contents (b : ScopedBlock) : List Standing :=
  b.block.standingsFrom b.env b.depth 0

/-- A statement of a block that is entered along a way, seen from where the way starts. -/
def Standing.behind (way : List Step) (x : Standing) : Standing :=
  { x with site := { x.site with path := way ++ x.site.path } }

/-- The statements inside a statement. -/
def Standing.inside (g : Standing) : List Standing :=
  (g.site.stmt.scopedBlocks g.env g.depth).flatMap fun b => b.contents.map (.behind (g.way b.arm))

/-- The statements inside a statement of a block are statements of that block. -/
theorem Block.mem_standings_of_inside {b : Block} {env : Env} {depth index : Nat} {x y : Standing}
    (hx : x ∈ b.standingsFrom env depth index) (hy : y ∈ x.inside) : y ∈ b.standingsFrom env depth index := by
  refine Block.of_blocks
    (P := fun b => ∀ env depth index, ∀ x ∈ b.standingsFrom env depth index, ∀ y ∈ x.inside,
      y ∈ b.standingsFrom env depth index)
    (Q := fun s => ∀ env depth index, ∀ x ∈ s.standings env depth index, ∀ y ∈ x.inside,
      y ∈ s.standings env depth index)
    ?_ ?_ ?_ b env depth index x hx y hy
  · intro span env depth index x hx
    cases hx
  · intro s rest hs hrest env depth index x hx y hy
    rw [Block.standingsFrom] at hx ⊢
    rcases List.mem_append.1 hx with hx | hx
    · exact List.mem_append_left _ (hs env depth index x hx y hy)
    · exact List.mem_append_right _ (hrest _ depth (index + 1) x hx y hy)
  · intro s hblocks env depth index x hx y hy
    rw [Stmt.standings_eq] at hx ⊢
    rcases List.mem_cons.1 hx with rfl | hx
    · exact List.mem_cons_of_mem _ hy
    · obtain ⟨b, hb, hx⟩ := List.mem_flatMap.1 hx
      obtain ⟨z, hz, rfl⟩ := List.mem_map.1 hx
      obtain ⟨c, hc, hy⟩ := List.mem_flatMap.1 hy
      obtain ⟨w, hw, rfl⟩ := List.mem_map.1 hy
      have hinside : w.behind (z.way c.arm) ∈ z.inside :=
        List.mem_flatMap.2 ⟨c, hc, List.mem_map_of_mem hw⟩
      have hinner := hblocks b.arm b.block (Stmt.mem_blocks_of_scopedBlocks hb) b.env b.depth 0 z hz _ hinside
      have hlisted := List.mem_map_of_mem (f := Standing.under ⟨index, s, b.arm⟩) hinner
      exact List.mem_cons_of_mem _ (List.mem_flatMap.2 ⟨b, hb, hlisted⟩)

/-! ### Varying conditions around a statement -/

section Depth

variable {s : Stmt} {env : Env} {depth index : Nat} {p : Site} {b : ScopedBlock}

/-- The bodies of a switch are at the depth that is given for them. -/
theorem Arms.depth_scopedBlocks : ∀ (arms : Arms) (k : Nat), ∀ b ∈ arms.scopedBlocks env depth k, b.depth = depth
  | .nil, _, _, hb => by cases hb
  | .default _, _, _, hb => by rw [List.mem_singleton.1 hb]
  | .case _ _ rest, k, b, hb => by
    rcases List.mem_cons.1 hb with rfl | hb
    · rfl
    · exact Arms.depth_scopedBlocks rest (k + 1) b hb

/-- The bodies of a type switch are at the depth that is given for them. -/
theorem LaneArms.depth_scopedBlocks {binding : Name} {t : LaneType} : ∀ (arms : LaneArms) (k : Nat),
    ∀ b ∈ arms.scopedBlocks env depth binding t k, b.depth = depth
  | .nil, _, _, hb => by cases hb
  | .default _, _, _, hb => by rw [List.mem_singleton.1 hb]
  | .case _ _ rest, k, b, hb => by
    rcases List.mem_cons.1 hb with rfl | hb
    · rfl
    · exact LaneArms.depth_scopedBlocks rest (k + 1) b hb

/-- A varying condition puts its blocks one deeper. -/
theorem Stmt.depth_scopedBlocks (hb : b ∈ s.scopedBlocks env depth) (index : Nat) :
    b.depth = depth + if Standing.isVarying ⟨⟨[], index, s⟩, env, depth⟩ then 1 else 0 := by
  have hguarded : ∀ e : Expr, e.guardedDepth env depth = depth + if (e.typeIn env).isVarying then 1 else 0 := by
    intro e
    unfold Expr.guardedDepth
    split
    · rfl
    · rfl
  cases s with
  | ifThen | whileLoop =>
    obtain rfl := List.mem_singleton.1 hb
    exact hguarded _
  | ifElse =>
    rcases List.mem_cons.1 hb with rfl | hb
    · exact hguarded _
    · obtain rfl := List.mem_singleton.1 hb
      exact hguarded _
  | switch span scrutinee arms =>
    rw [Arms.depth_scopedBlocks arms 0 b hb]
    exact hguarded scrutinee
  | typeSwitch span binding scrutinee arms => exact LaneArms.depth_scopedBlocks arms 0 b hb
  | forIn | goFor =>
    obtain rfl := List.mem_singleton.1 hb
    rfl
  | _ => cases hb

/-- A statement guards the sites in its blocks exactly if its condition is varying. -/
theorem Standing.guards_here (hb : b ∈ s.scopedBlocks env depth) :
    Standing.guards ⟨⟨[], index, s⟩, env, depth⟩ (p.under ⟨index, s, b.arm⟩) =
      Standing.isVarying ⟨⟨[], index, s⟩, env, depth⟩ := by
  have hany : (s.blocks.any fun c => (p.under ⟨index, s, b.arm⟩).within
      (Standing.way ⟨⟨[], index, s⟩, env, depth⟩ c.1)) = true := by
    rw [List.any_eq_true]
    refine ⟨(b.arm, b.block), Stmt.mem_blocks_of_scopedBlocks hb, ?_⟩
    simp [Standing.way]
  rw [Standing.guards, hany, Bool.and_true]

/-- The varying conditions around a site in a block of a statement are those in that block, and the one of the
statement if it has one. -/
theorem Stmt.countP_guards_inside (hb : b ∈ s.scopedBlocks env depth) :
    depth + (s.standings env depth index).countP (·.guards (p.under ⟨index, s, b.arm⟩)) =
      b.depth + (b.block.standingsFrom b.env b.depth 0).countP (·.guards p) := by
  obtain ⟨before, after, hsplit, hapart⟩ := Stmt.standings_around hb index p
  have hothers : ∀ ys, (∀ y ∈ ys, y ∈ before ++ after) →
      List.countP (·.guards (p.under ⟨index, s, b.arm⟩)) ys = 0 := by
    intro ys hys
    rw [List.countP_eq_zero]
    intro y hy
    obtain ⟨z, step, rfl, hout⟩ := hapart y (hys y hy)
    rw [Standing.guards_under_of_not_within hout]
    exact Bool.false_ne_true
  have hbefore := hothers before fun y hy => List.mem_append_left _ hy
  have hafter := hothers after fun y hy => List.mem_append_right _ hy
  have hinner : (b.standings index s).countP (·.guards (p.under ⟨index, s, b.arm⟩)) =
      (b.block.standingsFrom b.env b.depth 0).countP (·.guards p) := by
    rw [ScopedBlock.standings, List.countP_map]
    congr 1
    funext y
    exact Standing.guards_under _ y p
  have hdepth := Stmt.depth_scopedBlocks hb index
  rw [hsplit, List.countP_cons, List.countP_append, List.countP_append, hbefore, hafter, hinner,
    Standing.guards_here hb]
  omega

end Depth

/-- The depth of a statement of a block is the number of varying conditions around it in the block, counted from
the depth of the block. -/
theorem Block.depth_standing (b : Block) (env : Env) (depth index : Nat) :
    ∀ x ∈ b.standingsFrom env depth index,
      x.depth = depth + (b.standingsFrom env depth index).countP (·.guards x.site) := by
  refine Block.of_blocks
    (P := fun b => ∀ env depth index, ∀ x ∈ b.standingsFrom env depth index,
      x.depth = depth + (b.standingsFrom env depth index).countP (·.guards x.site))
    (Q := fun s => ∀ env depth index, ∀ x ∈ s.standings env depth index,
      x.depth = depth + (s.standings env depth index).countP (·.guards x.site))
    ?_ ?_ ?_ b env depth index
  · intro span env depth index x hx
    cases hx
  · intro s rest hs hrest env depth index x hx
    rw [Block.standingsFrom] at hx ⊢
    rw [List.countP_append]
    rcases List.mem_append.1 hx with hx | hx
    · have hlater : (rest.standingsFrom (s.envAfter env depth) depth (index + 1)).countP (·.guards x.site) = 0 := by
        rw [List.countP_eq_zero]
        intro y hy
        have hy' := Block.le_top_standing hy
        have hx' := Stmt.top_standing hx
        rw [Standing.guards_of_top_ne (by omega)]
        exact Bool.false_ne_true
      rw [hlater, Nat.add_zero]
      exact hs env depth index x hx
    · have hearlier : (s.standings env depth index).countP (·.guards x.site) = 0 := by
        rw [List.countP_eq_zero]
        intro y hy
        have hy' := Stmt.top_standing hy
        have hx' := Block.le_top_standing hx
        rw [Standing.guards_of_top_ne (by omega)]
        exact Bool.false_ne_true
      rw [hearlier, Nat.zero_add]
      exact hrest _ depth (index + 1) x hx
  · intro s hblocks env depth index x hx
    rw [Stmt.standings_eq] at hx
    rcases List.mem_cons.1 hx with rfl | hx
    · have hnone : (s.standings env depth index).countP (·.guards ⟨[], index, s⟩) = 0 := by
        rw [List.countP_eq_zero]
        intro y _
        rw [Standing.not_guards_mk_nil]
        exact Bool.false_ne_true
      rw [hnone]
      rfl
    · obtain ⟨b, hb, hx⟩ := List.mem_flatMap.1 hx
      obtain ⟨y, hy, rfl⟩ := List.mem_map.1 hx
      have hinner := hblocks b.arm b.block (Stmt.mem_blocks_of_scopedBlocks hb) b.env b.depth 0 y hy
      exact hinner.trans (Stmt.countP_guards_inside hb).symm

end Lanewise
