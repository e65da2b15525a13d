import Lanewise.Proofs.CheckStructure
import Lanewise.Proofs.Declarations
import Lanewise.Proofs.ScopeInvariants
import Lanewise.Proofs.TypeResolution
import Lanewise.Proofs.TypingRules
import Lanewise.Syntax.Builder

/-!
# Names of compile-time integers

A lane constraint may name a constant, and so may the lane index of a broadcast. In an expression a name means the
variable in scope, and a constant only if there is none (`Env.meaning?`). In these places it is looked up among the
constants alone. So in a function that passes its check every such name is that of a constant, and it means that
constant as it would in an expression exactly if no variable of the same name is in scope where it stands. Nothing
keeps a variable from having the name of a constant; without such variables the two always agree
(`Program.constant_names_unshadowed`).
-/

set_option autoImplicit false

namespace Lanewise

/-! ### Names that are used as constants -/

/-- The name in a lane constraint. -/
def Constraint.constantNames (c : Constraint) : List String :=
  match c.form with
  | .named name => [name]
  | _ => []

/-- The names in the lane constraints of a type. -/
def TypeExpr.constantNames : TypeExpr → List String
  | .named .. => []
  | .varying _ elem lanes => lanes.toList.flatMap Constraint.constantNames ++ elem.constantNames
  | .chan _ elem => elem.constantNames

/-- The name of an identifier. -/
def Expr.ident? : Expr → Option String
  | .ident _ name => some name
  | _ => none

/-- The names that occur in an expression. -/
def Expr.identifiers (e : Expr) : List String :=
  e.parts.filterMap Expr.ident?

/-- The names that an expression itself uses as constants: in the type of a cast, or in the lane index of a
broadcast. -/
def Expr.ownConstantNames : Expr → List String
  | .cast _ _ target => target.constantNames
  | .call _ callee [_, index] => if callee.text = LibraryOp.broadcast.name then index.identifiers else []
  | _ => []

/-- The names that an expression uses as constants. -/
def Expr.constantNames (e : Expr) : List String :=
  e.parts.flatMap Expr.ownConstantNames

/-- The names in the lane constraints of the cases of a type switch. -/
def LaneArms.constantNames : LaneArms → List String
  | .nil => []
  | .default _ => []
  | .case lanes _ rest => lanes.constantNames ++ rest.constantNames

/-- The names in the lane constraints that a statement itself writes: in the type of a declaration, in the cases of
a type switch, or in a go-for. -/
def Stmt.ownConstantNames : Stmt → List String
  | .declare _ _ type _ => type.toList.flatMap TypeExpr.constantNames
  | .typeSwitch _ _ _ arms => arms.constantNames
  | .goFor _ _ _ lanes _ => lanes.toList.flatMap Constraint.constantNames
  | _ => []

/-- The names that a statement uses as constants, outside of the statements inside it. -/
def Stmt.constantNames (s : Stmt) : List String :=
  s.ownConstantNames ++ s.exprs.flatMap Expr.constantNames

/-- The names in an expression are its own, if it is an identifier, and those in its children. -/
theorem Expr.identifiers_eq (e : Expr) :
    e.identifiers = e.ident?.toList ++ e.children.flatMap Expr.identifiers := by
  rw [Expr.identifiers, Expr.parts_eq, List.filterMap_cons, List.filterMap_flatMap]
  cases e.ident? <;> rfl

/-- The names that an expression uses as constants are its own and those of its children. -/
theorem Expr.constantNames_eq (e : Expr) :
    e.constantNames = e.ownConstantNames ++ e.children.flatMap Expr.constantNames := by
  rw [Expr.constantNames, Expr.parts_eq, List.flatMap_cons, List.flatMap_assoc]
  rfl

/-! ### What has a value is made of constants -/

/-- Whether names are all those of constants. -/
def AllConstant (constants : NameMap Int64) (names : List String) : Prop :=
  ∀ name ∈ names, ∃ v, constants.find? name = some v

namespace AllConstant

variable {constants : NameMap Int64} {a b : List String}

/-- No name is left that is not one of a constant. -/
theorem nil : AllConstant constants [] := by
  intro name hname
  cases hname

/-- Two lists hold names of constants only if each of them does. -/
theorem append_iff : AllConstant constants (a ++ b) ↔ AllConstant constants a ∧ AllConstant constants b :=
  List.forall_mem_append

/-- Joined lists hold names of constants only if each of them does. -/
theorem flatMap_iff {α : Type} {l : List α} {f : α → List String} :
    AllConstant constants (l.flatMap f) ↔ ∀ x ∈ l, AllConstant constants (f x) := by
  simp only [AllConstant, List.mem_flatMap]
  constructor
  · intro h x hx name hname
    exact h name ⟨x, hx, hname⟩
  · rintro h name ⟨x, hx, hname⟩
    exact h x hx name hname

end AllConstant

section Values

variable {env : Env}

/-- The name in a lane constraint that stands for a number is one of a constant. -/
theorem Constraint.StandsFor.allConstant {c : Constraint} {n : Int64} (h : c.StandsFor env n) :
    AllConstant env.constants c.constantNames := by
  unfold Constraint.constantNames
  rcases h with hform | ⟨hform, -⟩ | ⟨name, hform, hfind⟩
  · rw [hform]
    exact .nil
  · rw [hform]
    exact .nil
  · rw [hform]
    intro other hother
    obtain rfl := List.mem_singleton.1 hother
    exact ⟨n, hfind⟩

/-- The name in a lane constraint with a width is one of a constant. -/
theorem Constraint.allConstant_of_width {c : Constraint} {elem : Scalar} {w : Width}
    (h : c.width env elem = .ok w) : AllConstant env.constants c.constantNames := by
  obtain ⟨n, hn, -⟩ := Except.bind_eq_ok.1 h
  exact (Constraint.value_eq_ok.1 hn).allConstant

/-- The name in a lane constraint with a concrete width is one of a constant. -/
theorem allConstant_of_concreteWidth {lanes : Constraint} {elem : Scalar} {ifOpen : TypeFault} {w : Width}
    (h : concreteWidth lanes elem ifOpen env = .ok w) : AllConstant env.constants lanes.constantNames := by
  obtain ⟨found, hfound, -⟩ := Except.bind_eq_ok.1 h
  exact Constraint.allConstant_of_width hfound

/-- The name in the lane constraint of a go-for with a width is one of a constant. -/
theorem allConstant_of_goForWidth {lanes : Option Constraint} {elem : Scalar} {w : Width}
    (h : goForWidth lanes elem env = .ok w) :
    AllConstant env.constants (lanes.toList.flatMap Constraint.constantNames) := by
  cases lanes with
  | none => exact .nil
  | some c =>
    rw [Option.toList_some, List.flatMap_singleton]
    exact allConstant_of_concreteWidth h

/-- The names in a written type that means something are those of constants. -/
theorem TypeExpr.allConstant_of_resolve {t : TypeExpr} {l : LaneType} (h : t.resolve env = .ok l) :
    AllConstant env.constants t.constantNames := by
  rw [TypeExpr.resolve_eq_ok] at h
  induction h with
  | void | uniform | native => exact .nil
  | universal hname hcount | fixed hname hcount =>
    rw [TypeExpr.constantNames, Option.toList_some, List.flatMap_singleton, AllConstant.append_iff]
    exact ⟨hcount.allConstant, .nil⟩
  | chan helem ih => exact ih

/-- An expression that has a compile-time value holds no names but those of constants, and no casts or calls. -/
theorem Expr.allConstant_of_constantValue {constants : NameMap Int64} (e : Expr) :
    ∀ {v : Int64}, e.constantValue constants = .ok v →
      AllConstant constants e.identifiers ∧ e.constantNames = [] := by
  refine Expr.of_children (P := fun e => ∀ {v : Int64}, e.constantValue constants = .ok v →
    AllConstant constants e.identifiers ∧ e.constantNames = []) ?_ e
  intro e hchildren v h
  rw [Expr.identifiers_eq, Expr.constantNames_eq]
  rcases Expr.constantValue_ok h with ⟨span, rfl⟩ | ⟨span, name, rfl, hfind⟩ |
    ⟨span, operand, w, rfl, hw, -⟩ | ⟨span, op, left, right, l, r, rfl, hl, hr, -⟩
  · exact ⟨.nil, rfl⟩
  · refine ⟨?_, rfl⟩
    intro other hother
    obtain rfl := List.mem_singleton.1 hother
    exact ⟨v, hfind⟩
  · obtain ⟨hnames, hnone⟩ := hchildren operand List.mem_cons_self hw
    simp only [Expr.ident?, Option.toList_none, List.nil_append, Expr.ownConstantNames, Expr.children,
      List.flatMap_singleton]
    exact ⟨hnames, hnone⟩
  · obtain ⟨hleft, hleftNone⟩ := hchildren left List.mem_cons_self hl
    obtain ⟨hright, hrightNone⟩ := hchildren right (List.mem_cons_of_mem _ List.mem_cons_self) hr
    simp only [Expr.ident?, Option.toList_none, List.nil_append, Expr.ownConstantNames, Expr.children,
      List.flatMap_cons, List.flatMap_nil, List.append_nil, AllConstant.append_iff]
    exact ⟨⟨hleft, hright⟩, List.append_eq_nil_iff.2 ⟨hleftNone, hrightNone⟩⟩

/-- The lane index of a broadcast that has a type has a constant value. -/
theorem broadcast_static {s : Scalar} {w : Width} {index : Argument} {t : LaneType}
    (h : broadcastType env s w index = .ok t) :
    ∃ lane, index.expr.constantValue env.constants = .ok lane := by
  unfold broadcastType at h
  split at h
  · cases h
  · rename_i lane hlane
    exact ⟨lane, hlane⟩

/-- A broadcast whose lane index has a name that is not one of a constant is refused at the index. -/
theorem broadcast_of_not_constant {s : Scalar} {w : Width} {index : Argument} {name : String}
    (hnone : env.constants.find? name = none) (hname : name ∈ index.expr.identifiers) :
    broadcastType env s w index = .error (.type .laneIndexNotStatic index.expr.span) := by
  unfold broadcastType
  split
  · rfl
  · rename_i lane hlane
    obtain ⟨v, hv⟩ := (index.expr.allConstant_of_constantValue hlane).1 name hname
    rw [hnone] at hv
    cases hv

/-- A library call with one argument has a type only if its argument has one. -/
theorem unaryLibraryType_typed {op : LibraryOp} {value : Argument} {t : LaneType}
    (h : unaryLibraryType env op value = .ok t) : ∃ u, value.type = .ok u := by
  unfold unaryLibraryType at h
  split at h
  · obtain ⟨u, hu, -⟩ := Except.bind_eq_ok.1 h
    exact ⟨u, hu⟩
  · obtain ⟨found, hfound, -⟩ := Except.bind_eq_ok.1 h
    obtain ⟨u, hu, -⟩ := Except.bind_eq_ok.1 hfound
    exact ⟨u, hu⟩

/-- The second argument of a library operation has a type, unless the operation is a broadcast. -/
theorem LibraryOp.Settles.typed {op : LibraryOp} {w result : Width} {other : Argument} {span : Span}
    (h : op.Settles w other span result) (hop : op ≠ .broadcast) : ∃ u, other.type = .ok u := by
  rcases h with ⟨hbroadcast, -⟩ | ⟨a, ha, -⟩ | ⟨a, aw, -, ha, -⟩
  · exact absurd hbroadcast hop
  · exact ⟨_, ha⟩
  · exact ⟨_, ha⟩

/-- Arguments that fit their parameters all have types. -/
theorem expectArguments_typed {args : List Argument} {params : List LaneType}
    (hlength : args.length = params.length) (h : expectArguments args params = .ok ()) :
    ∀ arg ∈ args, ∃ u, arg.type = .ok u := by
  induction args generalizing params with
  | nil =>
    intro arg harg
    cases harg
  | cons first rest ih =>
    cases params with
    | nil => cases hlength
    | cons param params =>
      obtain ⟨u, hu, h⟩ := Except.bind_eq_ok.1 h
      obtain ⟨_, -, hrest⟩ := Except.bind_eq_ok.1 h
      rw [List.forall_mem_cons]
      exact ⟨⟨u, hu⟩, ih (Nat.succ.inj hlength) hrest⟩

/-- The lane index of a broadcast that has a type has a value. -/
theorem callType_broadcast {callee : Name} {args : List Expr} {span : Span} {t : LaneType}
    (h : callType env callee (Expr.inferEach env args) span = .ok t)
    (hcallee : callee.text = LibraryOp.broadcast.name) :
    ∃ value index u lane, args = [value, index] ∧ value.infer env = .ok u ∧
      index.constantValue env.constants = .ok lane := by
  have hop : LibraryOp.ofName? callee.text = some .broadcast := by
    rw [hcallee]
    exact LibraryOp.ofName?_name .broadcast
  rw [Expr.inferEach_eq_map, callType, hop] at h
  rcases libraryCallType_ok h with ⟨value, other, harity, hargs, htwo⟩ | ⟨value, harity, -⟩
  · obtain ⟨first, second, rfl, rfl, rfl⟩ := List.map_eq_pair hargs
    obtain ⟨s, w, result, hvalue, -⟩ := binaryLibraryType_ok harity htwo
    obtain ⟨found, -, hindex⟩ := Except.bind_eq_ok.1 htwo
    obtain ⟨lane, hlane⟩ := broadcast_static hindex
    exact ⟨first, second, _, lane, rfl, hvalue, hlane⟩
  · cases harity

/-- The arguments of any other call that has a type have types. -/
theorem callType_typed {callee : Name} {args : List Expr} {span : Span} {t : LaneType}
    (h : callType env callee (Expr.inferEach env args) span = .ok t)
    (hcallee : callee.text ≠ LibraryOp.broadcast.name) : ∀ arg ∈ args, ∃ u, arg.infer env = .ok u := by
  rw [Expr.inferEach_eq_map] at h
  have htyped : ∀ arg ∈ args.map fun e => Argument.mk e (e.infer env), ∃ u, arg.type = .ok u := by
    unfold callType at h
    split at h
    · rename_i op hop
      have hne : op ≠ .broadcast := by
        intro heq
        apply hcallee
        rw [LibraryOp.name_of_ofName? hop, heq]
      rcases libraryCallType_ok h with ⟨value, other, harity, hargs, htwo⟩ | ⟨value, harity, hargs, hone⟩
      · obtain ⟨s, w, result, hvalue, -, -, hsettles⟩ := binaryLibraryType_ok harity htwo
        rw [hargs, List.forall_mem_cons]
        exact ⟨⟨_, hvalue⟩, List.forall_mem_singleton.2 (hsettles.typed hne)⟩
      · rw [hargs]
        exact List.forall_mem_singleton.2 (unaryLibraryType_typed hone)
    · obtain ⟨s, -, hlength, hexpect, -⟩ := functionCallType_ok h
      exact expectArguments_typed hlength hexpect
  intro arg harg
  exact htyped _ (List.mem_map.2 ⟨arg, harg, rfl⟩)

/-- An expression uses names of constants only if it does so itself and its children do. -/
theorem Expr.allConstant_of_children {constants : NameMap Int64} {e : Expr}
    (hown : AllConstant constants e.ownConstantNames)
    (hchildren : ∀ c ∈ e.children, AllConstant constants c.constantNames) : AllConstant constants e.constantNames := by
  rw [Expr.constantNames_eq, AllConstant.append_iff, AllConstant.flatMap_iff]
  exact ⟨hown, hchildren⟩

/-- A call that is no broadcast uses no name as a constant. -/
theorem Expr.ownConstantNames_call {span : Span} {callee : Name} {args : List Expr}
    (hcallee : callee.text ≠ LibraryOp.broadcast.name) : (Expr.call span callee args).ownConstantNames = [] := by
  unfold Expr.ownConstantNames
  split
  · rename_i heq
    cases heq
  · rename_i heq
    cases heq
    exact if_neg hcallee
  · rfl

/-- An expression that has a type uses no names as constants but those of constants. -/
theorem Expr.allConstant_of_infer (e : Expr) :
    ∀ {t : LaneType}, e.infer env = .ok t → AllConstant env.constants e.constantNames := by
  refine Expr.of_children (P := fun e => ∀ {t : LaneType}, e.infer env = .ok t →
    AllConstant env.constants e.constantNames) ?_ e
  intro e hchildren t h
  cases e with
  | int | float | bool | ident => exact Expr.allConstant_of_children .nil (fun c hc => by cases hc)
  | unary span op operand =>
    obtain ⟨u, hu, -⟩ := Except.bind_eq_ok.1 h
    exact Expr.allConstant_of_children .nil (List.forall_mem_singleton.2 (hchildren operand List.mem_cons_self hu))
  | recv span chan =>
    obtain ⟨u, hu, -⟩ := Except.bind_eq_ok.1 h
    exact Expr.allConstant_of_children .nil (List.forall_mem_singleton.2 (hchildren chan List.mem_cons_self hu))
  | binary span op left right =>
    obtain ⟨l, hl, h⟩ := Except.bind_eq_ok.1 h
    obtain ⟨r, hr, -⟩ := Except.bind_eq_ok.1 h
    refine Expr.allConstant_of_children .nil (List.forall_mem_cons.2 ⟨hchildren left List.mem_cons_self hl, ?_⟩)
    exact List.forall_mem_singleton.2 (hchildren right (List.mem_cons_of_mem _ List.mem_cons_self) hr)
  | range span first last =>
    obtain ⟨l, hl, h⟩ := Except.bind_eq_ok.1 h
    obtain ⟨a, -, h⟩ := Except.bind_eq_ok.1 h
    obtain ⟨r, hr, -⟩ := Except.bind_eq_ok.1 h
    refine Expr.allConstant_of_children .nil (List.forall_mem_cons.2 ⟨hchildren first List.mem_cons_self hl, ?_⟩)
    exact List.forall_mem_singleton.2 (hchildren last (List.mem_cons_of_mem _ List.mem_cons_self) hr)
  | cast span operand target =>
    obtain ⟨u, hu, h⟩ := Except.bind_eq_ok.1 h
    obtain ⟨dest, hdest, -⟩ := Except.bind_eq_ok.1 h
    refine Expr.allConstant_of_children (TypeExpr.allConstant_of_resolve hdest) ?_
    exact List.forall_mem_singleton.2 (hchildren operand List.mem_cons_self hu)
  | call span callee args =>
    by_cases hcallee : callee.text = LibraryOp.broadcast.name
    · -- the lane index has no type, but as a constant it holds no casts or calls either
      obtain ⟨value, index, u, lane, rfl, hu, hlane⟩ := callType_broadcast h hcallee
      obtain ⟨hnames, hnone⟩ := index.allConstant_of_constantValue hlane
      have hown : AllConstant env.constants (Expr.call span callee [value, index]).ownConstantNames := by
        rw [Expr.ownConstantNames, if_pos hcallee]
        exact hnames
      refine Expr.allConstant_of_children hown (List.forall_mem_cons.2 ⟨hchildren value List.mem_cons_self hu, ?_⟩)
      exact List.forall_mem_singleton.2 (hnone ▸ .nil)
    · refine Expr.allConstant_of_children (Expr.ownConstantNames_call hcallee ▸ .nil) fun arg harg => ?_
      obtain ⟨u, hu⟩ := callType_typed h hcallee arg harg
      exact hchildren arg harg hu

end Values

/-! ### What passes resolves -/

/-- Whether a check leaves the constants as they are, and succeeds only if something is true. -/
def Check.Ensures {α : Type} (constants : NameMap Int64) (Q : Prop) (c : Check α) : Prop :=
  ∀ (state final : CheckState) (a : α), state.env.constants = constants → c state = .ok a final →
    final.env.constants = constants ∧ Q

/-- A definition leaves the constants alone. -/
@[simp] theorem Env.constants_define (env : Env) (name : String) (binding : Binding) :
    (env.define name binding).constants = env.constants := by
  unfold Env.define
  split
  · rfl
  · rfl

namespace Check.Ensures

variable {α β : Type} {constants : NameMap Int64} {Q R : Prop}

/-- What a check ensures may be weakened. -/
theorem mono {c : Check α} (h : c.Ensures constants Q) (hQ : Q → R) : c.Ensures constants R := by
  intro state final a hstate hrun
  obtain ⟨hfinal, hq⟩ := h state final a hstate hrun
  exact ⟨hfinal, hQ hq⟩

/-- A sequence of checks ensures what each of its parts does. -/
theorem bind {c : Check α} {k : α → Check β} (hc : c.Ensures constants Q) (hk : ∀ a, (k a).Ensures constants R) :
    (c >>= k).Ensures constants (Q ∧ R) := by
  intro state final b hstate hrun
  obtain ⟨a, middle, hfirst, hrest⟩ := Check.bind_eq_ok.1 hrun
  obtain ⟨hmiddle, hq⟩ := hc state middle a hstate hfirst
  obtain ⟨hfinal, hr⟩ := hk a middle final b hmiddle hrest
  exact ⟨hfinal, hq, hr⟩

/-- A question ensures what follows from its answer. -/
theorem of_ask {question : Env → Except Issue α}
    (h : ∀ env a, env.constants = constants → question env = .ok a → Q) :
    (Check.ask question).Ensures constants Q := by
  intro state final a hstate hrun
  obtain ⟨hanswer, rfl⟩ := Check.ask_eq_ok.1 hrun
  exact ⟨hstate, h state.env a hstate hanswer⟩

/-- A definition ensures nothing but the constants. -/
theorem of_define (name : String) (t : LaneType) (depth : Nat) :
    (Check.define name t depth).Ensures constants True := by
  intro state final u hstate hrun
  rw [Check.define_eq_ok.1 hrun]
  exact ⟨by rw [Env.constants_define, hstate], trivial⟩

/-- A check in a scope of its own ensures what it ensures outside. -/
theorem inScope {body : Check Unit} (h : body.Ensures constants Q) :
    (Check.inScope body).Ensures constants Q := by
  intro state final u hstate hrun
  obtain ⟨inner, hinner, rfl⟩ := Check.inScope_eq_ok.1 hrun
  exact h { state with env := state.env.push } inner () hstate hinner

/-- A check in a scope with one name defined ensures what it ensures outside. -/
theorem inScopeWith {body : Check Unit} (name : String) (t : LaneType) (depth : Nat)
    (h : body.Ensures constants Q) : (Check.inScopeWith name t depth body).Ensures constants Q :=
  (inScope ((of_define name t depth).bind fun _ => h)).mono And.right

/-- No check changes the constants. -/
theorem composable (constants : NameMap Int64) : Check.Composable (Check.Ensures constants True) where
  of_pure := fun a state final b hstate hrun => by
    obtain ⟨-, rfl⟩ := Check.pure_eq_ok.1 hrun
    exact ⟨hstate, trivial⟩
  of_except := fun outcome state final a hstate hrun => by
    obtain ⟨-, rfl⟩ := Check.ofExcept_eq_ok.1 hrun
    exact ⟨hstate, trivial⟩
  of_ask := fun _ => of_ask fun _ _ _ _ => trivial
  of_record := fun span t state final u hstate hrun => by
    rw [Check.record_eq_ok.1 hrun, CheckState.note_env]
    exact ⟨hstate, trivial⟩
  of_define := of_define
  bind := fun hc hk => (bind hc hk).mono And.left
  inScope := inScope

end Check.Ensures

/-- Whether the names in the lane constraints of a statement are those of constants. -/
def Stmt.Resolves (constants : NameMap Int64) (s : Stmt) : Prop :=
  AllConstant constants s.ownConstantNames

/-- Whether that is so of all statements of a block, at any depth. -/
def Block.Resolves (constants : NameMap Int64) (b : Block) : Prop :=
  ∀ p ∈ b.sites, p.stmt.Resolves constants

section Statements

variable {constants : NameMap Int64}

/-- The statements below a statement resolve if it does and its blocks do. -/
theorem Stmt.resolves_sites {s : Stmt} {index : Nat} (hown : s.Resolves constants)
    (hblocks : ∀ entry ∈ s.blocks, entry.2.Resolves constants) :
    ∀ p ∈ s.sites index, p.stmt.Resolves constants := by
  intro p hp
  rcases Stmt.mem_sites.1 hp with rfl | ⟨arm, b, hb, q, hq, rfl⟩
  · exact hown
  · exact hblocks (arm, b) hb q hq

/-- A declaration that passes has resolved the names in its type. -/
theorem checkDeclare_ensures (span : Span) (name : Name) (type : Option TypeExpr) (value : Expr) (depth : Nat) :
    (checkDeclare name type value depth).Ensures constants
      ((Stmt.declare span name type value).Resolves constants) := by
  intro state final u hstate hrun
  obtain ⟨t, bound, -, -, hbound, rfl⟩ := checkDeclare_ok hrun
  refine ⟨by rw [Env.constants_define, hstate], ?_⟩
  cases type with
  | none => exact .nil
  | some declared =>
    have hresolve := TypeExpr.allConstant_of_resolve hbound.1
    rw [hstate] at hresolve
    rw [Stmt.Resolves, Stmt.ownConstantNames, Option.toList_some, List.flatMap_singleton]
    exact hresolve

mutual

/-- A statement that passes has resolved its own names, and so have those in its blocks. The proof goes over
the statement, its blocks and its arms together. -/
theorem Stmt.check_ensures (s : Stmt) (place : Place) :
    (s.check place).Ensures constants
      (s.Resolves constants ∧ ∀ entry ∈ s.blocks, entry.2.Resolves constants) := by
  have hP := Check.Ensures.composable constants
  have hexpr : ∀ e : Expr, (Check.ask e.infer).Ensures constants True := fun e => .of_ask fun _ _ _ _ => trivial
  -- a statement without constraints and without blocks has nothing to ensure
  have hplain : s.ownConstantNames = [] → s.blocks = [] → (s.check place).Ensures constants True →
      (s.check place).Ensures constants
        (s.Resolves constants ∧ ∀ entry ∈ s.blocks, entry.2.Resolves constants) := by
    intro hown hblocks h
    refine h.mono fun _ => ⟨?_, ?_⟩
    · rw [Stmt.Resolves, hown]
      exact .nil
    · rw [hblocks]
      intro entry hentry
      cases hentry
  match s with
  | .declare span name type value =>
    refine (checkDeclare_ensures span name type value place.depth).mono fun h => ⟨h, ?_⟩
    intro entry hentry
    cases hentry
  | .ifThen _ cond thenArm =>
    refine ((hP.condition (hexpr cond) .ifStmt).bind fun t => (Block.check_ensures thenArm _ 0).inScope).mono ?_
    rintro ⟨-, hthen⟩
    exact ⟨.nil, List.forall_mem_singleton.2 hthen⟩
  | .ifElse _ cond thenArm elseArm =>
    refine ((hP.condition (hexpr cond) .ifStmt).bind fun t =>
      (Block.check_ensures thenArm _ 0).inScope.bind fun _ => (Block.check_ensures elseArm _ 0).inScope).mono ?_
    rintro ⟨-, hthen, helse⟩
    exact ⟨.nil, List.forall_mem_cons.2 ⟨hthen, List.forall_mem_singleton.2 helse⟩⟩
  | .switch _ scrutinee arms =>
    refine ((hP.scrutinee (hexpr scrutinee)).bind fun found => Arms.check_ensures arms found.2 _ 0).mono ?_
    rintro ⟨-, harms⟩
    exact ⟨.nil, harms⟩
  | .typeSwitch _ binding scrutinee arms =>
    refine ((hP.typeScrutinee (hexpr scrutinee)).bind fun elem =>
      LaneArms.check_ensures arms binding.text elem place 0).mono ?_
    rintro ⟨-, hcases, hblocks⟩
    exact ⟨hcases, hblocks⟩
  | .forIn _ var iterable body =>
    refine ((hP.iterable (hexpr iterable)).bind fun t => (Block.check_ensures body _ 0).inScopeWith _ t _).mono ?_
    rintro ⟨-, hbody⟩
    exact ⟨.nil, List.forall_mem_singleton.2 hbody⟩
  | .whileLoop _ cond body =>
    refine ((hP.condition (hexpr cond) .whileStmt).bind fun t => (Block.check_ensures body _ 0).inScope).mono ?_
    rintro ⟨-, hbody⟩
    exact ⟨.nil, List.forall_mem_singleton.2 hbody⟩
  | .goFor _ var range lanes body =>
    have hlanes : ∀ elem, (Check.ask (goForWidth lanes elem)).Ensures constants
        (AllConstant constants (lanes.toList.flatMap Constraint.constantNames)) :=
      fun elem => .of_ask fun env w henv hw => henv ▸ allConstant_of_goForWidth hw
    refine ((hP.goForRange (hexpr range)).bind fun elem => (hlanes elem).bind fun w =>
      (Block.check_ensures body _ 0).inScopeWith _ _ _).mono ?_
    rintro ⟨-, hnames, hbody⟩
    exact ⟨hnames, List.forall_mem_singleton.2 hbody⟩
  | .assign span target value => exact hplain rfl rfl (hP.assign (hexpr value) target place.depth span)
  | .ret span value => exact hplain rfl rfl (hP.ret (fun e _ => hexpr e) place.result span)
  | .brk _ | .cont _ => exact hplain rfl rfl (hP.of_except _)
  | .panic _ value | .eval _ value =>
    exact hplain rfl rfl (hP.bind (hP.infer (hexpr value)) fun _ => hP.of_pure ())
  | .defer _ call => exact hplain rfl rfl (hP.taken (hexpr call) .defer)
  | .spawn _ call => exact hplain rfl rfl (hP.taken (hexpr call) .spawn)
  | .send _ chan value => exact hplain rfl rfl (hP.send (hexpr chan) (hexpr value))

/-- A block that passes has resolved the names of all its statements. -/
theorem Block.check_ensures (b : Block) (place : Place) (index : Nat) :
    (b.check place).Ensures constants (∀ p ∈ b.sitesFrom index, p.stmt.Resolves constants) := by
  match b with
  | .nil _ =>
    refine ((Check.Ensures.composable constants).of_pure ()).mono fun _ p hp => ?_
    cases hp
  | .cons first rest =>
    refine ((Stmt.check_ensures first place).bind fun _ => Block.check_ensures rest place (index + 1)).mono ?_
    rintro ⟨⟨hown, hblocks⟩, hrest⟩
    exact List.forall_mem_append.2 ⟨Stmt.resolves_sites hown hblocks, hrest⟩

/-- The arms of a switch that pass have resolved the names in their bodies. -/
theorem Arms.check_ensures (arms : Arms) (elem : Scalar) (place : Place) (k : Nat) :
    (arms.check elem place).Ensures constants (∀ entry ∈ arms.blocks k, entry.2.Resolves constants) := by
  have hP := Check.Ensures.composable constants
  match arms with
  | .nil =>
    refine (hP.of_pure ()).mono fun _ entry hentry => ?_
    cases hentry
  | .default body =>
    refine (Block.check_ensures body place 0).inScope.mono fun hbody => ?_
    exact List.forall_mem_singleton.2 hbody
  | .case values body rest =>
    have hvalues : (checkCaseValues elem values).Ensures constants True :=
      hP.caseValues elem fun _ _ => .of_ask fun _ _ _ _ => trivial
    refine (hvalues.bind fun _ => (Block.check_ensures body place 0).inScope.bind fun _ =>
      Arms.check_ensures rest elem place (k + 1)).mono ?_
    rintro ⟨-, hbody, hrest⟩
    exact List.forall_mem_cons.2 ⟨hbody, hrest⟩

/-- The arms of a type switch that pass have resolved the names in their cases and in their bodies. -/
theorem LaneArms.check_ensures (arms : LaneArms) (name : String) (elem : Scalar) (place : Place) (k : Nat) :
    (arms.check name elem place).Ensures constants
      (AllConstant constants arms.constantNames ∧ ∀ entry ∈ arms.blocks k, entry.2.Resolves constants) := by
  match arms with
  | .nil =>
    refine ((Check.Ensures.composable constants).of_pure ()).mono fun _ => ⟨.nil, fun entry hentry => ?_⟩
    cases hentry
  | .default body =>
    refine ((Block.check_ensures body place 0).inScopeWith _ _ _).mono fun hbody => ⟨.nil, ?_⟩
    exact List.forall_mem_singleton.2 hbody
  | .case lanes body rest =>
    have hlanes : (Check.ask (concreteWidth lanes elem .openTypeCase)).Ensures constants
        (AllConstant constants lanes.constantNames) :=
      .of_ask fun env w henv hw => henv ▸ allConstant_of_concreteWidth hw
    refine (hlanes.bind fun w => ((Block.check_ensures body place 0).inScopeWith _ _ _).bind fun _ =>
      LaneArms.check_ensures rest name elem place (k + 1)).mono ?_
    rintro ⟨hnames, hbody, hlater, hrest⟩
    exact ⟨AllConstant.append_iff.2 ⟨hnames, hlater⟩, List.forall_mem_cons.2 ⟨hbody, hrest⟩⟩

end

end Statements

/-- A function that passes has resolved the names of all its statements. -/
theorem Function.resolves_of_check {f : Function} {env env' : Env} {types : TypeRecord}
    (h : f.check env = (.ok types, env')) : f.body.Resolves env.constants := by
  unfold Function.check at h
  split at h
  · cases h
  · split at h
    · rename_i final hbody
      have hparams := (Check.Ensures.composable env.constants).params f.params
      obtain ⟨-, -, hresolves⟩ := (hparams.bind fun _ => Block.check_ensures f.body _ 0) _ final _ rfl hbody
      exact hresolves
    · cases h

/-! ### Variables in scope -/

/-- The names that a statement binds. -/
def Stmt.boundNames : Stmt → List String
  | .declare _ name _ _ => [name.text]
  | .typeSwitch _ binding _ _ => [binding.text]
  | .forIn _ var _ _ => [var.text]
  | .goFor _ var _ _ _ => [var.text]
  | _ => []

/-- The names that a function binds: its parameters and the variables of its body. -/
def Function.boundNames (f : Function) : List String :=
  f.params.map (fun p => p.name.text) ++ f.body.sites.flatMap fun p => p.stmt.boundNames

/-- Whether an environment has the given constants, and variables of the given names only. -/
structure Env.Scoped (constants : NameMap Int64) (names : List String) (env : Env) : Prop where
  constants_eq : env.constants = constants
  bound : ∀ name binding, env.lookup? name = some binding → name ∈ names

namespace Env.Scoped

variable {constants : NameMap Int64} {names : List String} {env : Env}

/-- An opened scope binds no name. -/
theorem push (h : env.Scoped constants names) : env.push.Scoped constants names := by
  refine ⟨h.constants_eq, fun name binding hlookup => h.bound name binding ?_⟩
  rw [Env.lookup?, Env.push, List.findSome?_cons, Assoc.find?_empty] at hlookup
  exact hlookup

/-- A definition of a name that is allowed keeps to the names that are. -/
theorem define (h : env.Scoped constants names) {name : String} (hname : name ∈ names) (binding : Binding) :
    (env.define name binding).Scoped constants names := by
  refine ⟨by rw [Env.constants_define, h.constants_eq], fun other found hlookup => ?_⟩
  by_cases hother : other = name
  · rw [hother]
    exact hname
  · apply h.bound other found
    unfold Env.define at hlookup
    unfold Env.lookup? at hlookup ⊢
    split at hlookup
    · exact hlookup
    · rename_i scope outer hscopes
      rw [List.findSome?_cons, Assoc.find?_insert, if_neg hother] at hlookup
      rw [hscopes, List.findSome?_cons]
      exact hlookup

/-- An opened scope with an allowed name keeps to the names that are. -/
theorem pushWith (h : env.Scoped constants names) {name : Name} (hname : name.text ∈ names) (t : LaneType)
    (depth : Nat) : (env.pushWith name t depth).Scoped constants names :=
  h.push.define hname _

/-- Parameters with allowed names keep to the names that are. -/
theorem declareParamsIn (h : env.Scoped constants names) {params : List Param}
    (hparams : ∀ p ∈ params, p.name.text ∈ names) : (declareParamsIn env params).Scoped constants names := by
  induction params generalizing env with
  | nil => exact h
  | cons p rest ih =>
    rw [List.forall_mem_cons] at hparams
    exact ih (h.define hparams.1 _) hparams.2

end Env.Scoped

section Scopes

variable {constants : NameMap Int64} {names : List String} {env : Env}

/-- The bodies of a switch's arms start with the variables of the switch. -/
theorem Arms.scoped_scopedBlocks (h : env.Scoped constants names) {depth : Nat} : ∀ (arms : Arms) (k : Nat),
    ∀ b ∈ arms.scopedBlocks env depth k, b.env.Scoped constants names
  | .nil, _ => fun b hb => by cases hb
  | .default _, _ => List.forall_mem_singleton.2 h.push
  | .case _ _ rest, k => List.forall_mem_cons.2 ⟨h.push, Arms.scoped_scopedBlocks h rest (k + 1)⟩

/-- The bodies of a type switch's arms start with its variables and the one that it binds. -/
theorem LaneArms.scoped_scopedBlocks (h : env.Scoped constants names) {depth : Nat} {binding : Name}
    (hname : binding.text ∈ names) {t : LaneType} : ∀ (arms : LaneArms) (k : Nat),
      ∀ b ∈ arms.scopedBlocks env depth binding t k, b.env.Scoped constants names
  | .nil, _ => fun b hb => by cases hb
  | .default _, _ => List.forall_mem_singleton.2 (h.pushWith hname t depth)
  | .case lanes _ rest, k =>
    List.forall_mem_cons.2 ⟨h.pushWith hname (t.settled env lanes) depth,
      LaneArms.scoped_scopedBlocks h hname rest (k + 1)⟩

/-- The blocks of a statement start with its variables and the ones that it binds. -/
theorem Stmt.scoped_scopedBlocks (h : env.Scoped constants names) {s : Stmt}
    (hnames : ∀ name ∈ s.boundNames, name ∈ names) (depth : Nat) :
    ∀ b ∈ s.scopedBlocks env depth, b.env.Scoped constants names := by
  cases s with
  | ifThen | whileLoop => exact List.forall_mem_singleton.2 h.push
  | ifElse => exact List.forall_mem_cons.2 ⟨h.push, List.forall_mem_singleton.2 h.push⟩
  | switch _ _ arms => exact Arms.scoped_scopedBlocks h arms 0
  | typeSwitch _ binding _ arms =>
    exact LaneArms.scoped_scopedBlocks h (hnames _ List.mem_cons_self) arms 0
  | forIn | goFor => exact List.forall_mem_singleton.2 (h.pushWith (hnames _ List.mem_cons_self) _ depth)
  | _ =>
    intro b hb
    cases hb

/-- After a statement there are its variables and the ones that it binds. -/
theorem Stmt.scoped_envAfter (h : env.Scoped constants names) {s : Stmt}
    (hnames : ∀ name ∈ s.boundNames, name ∈ names) (depth : Nat) :
    (s.envAfter env depth).Scoped constants names := by
  cases s with
  | declare => exact h.define (hnames _ List.mem_cons_self) _
  | _ => exact h

/-- The variables in scope at a statement of a function are those that the function binds. -/
theorem Function.scoped_standings {f : Function} (hlookup : ∀ name, env.lookup? name = none) :
    ∀ x ∈ f.standings env, x.env.Scoped env.constants f.boundNames := by
  have hempty : env.Scoped env.constants f.boundNames := by
    refine ⟨rfl, fun name binding hfound => ?_⟩
    rw [hlookup name] at hfound
    cases hfound
  have hstart : (declareParamsIn env.push f.params).Scoped env.constants f.boundNames := by
    refine hempty.push.declareParamsIn fun p hp => ?_
    exact List.mem_append_left _ (List.mem_map.2 ⟨p, hp, rfl⟩)
  refine Block.standings_induction (I := Env.Scoped env.constants f.boundNames)
    (P := fun s _ => ∀ name ∈ s.boundNames, name ∈ f.boundNames)
    (fun s env depth h hnames => Stmt.scoped_envAfter h hnames depth)
    (fun s env depth h hnames => Stmt.scoped_scopedBlocks h hnames depth) f.body _ 0 0 hstart ?_
  intro x hx name hname
  exact List.mem_append_right _ (List.mem_flatMap.2 ⟨x.site, Function.site_of_standing hx, hname⟩)

end Scopes

/-! ### Meanings -/

/-- What a name may mean. -/
inductive Meaning where
  | bound (binding : Binding)
  | constant (value : Int64)
  deriving DecidableEq

/-- What a name means in an expression: the variable in scope, or else the constant. -/
def Env.meaning? (env : Env) (name : String) : Option Meaning :=
  match env.lookup? name with
  | some binding => some (.bound binding)
  | none => (env.constants.find? name).map .constant

/-- The type of what a name means. -/
def Meaning.type : Meaning → LaneType
  | bound binding => binding.type
  | constant _ => .uniform .int64

/-- An identifier has the type of what its name means, and is refused if it means nothing. -/
theorem Expr.infer_ident (env : Env) (span : Span) (name : String) :
    (Expr.ident span name).infer env =
      ((env.meaning? name).map Meaning.type).elim (.error (.type (.undefinedVariable name) span)) .ok := by
  rw [Expr.infer, identType, Env.meaning?]
  cases env.lookup? name with
  | some binding => rfl
  | none =>
    rw [Assoc.contains]
    cases env.constants.find? name <;> rfl

/-- The name of a constant means this constant exactly if no variable of the name is in scope. -/
theorem Env.meaning?_eq_constant_iff {env : Env} {name : String} {v : Int64}
    (h : env.constants.find? name = some v) :
    env.meaning? name = some (.constant v) ↔ env.lookup? name = none := by
  unfold Env.meaning?
  cases env.lookup? name with
  | some binding => simp
  | none => simp [h]

/-- A lane constraint takes the constant of its name, whatever variables are in scope. -/
theorem Constraint.width_of_constant {env : Env} {name : String} {v : Int64} {span : Span}
    (h : env.constants.find? name = some v) (elem : Scalar) :
    (Constraint.mk (.named name) span).width env elem = widthOf v elem span := by
  simp only [Constraint.width, Constraint.value, h]
  rfl

/-- Whether an outcome is a failure of some kind at some place. -/
def FailsAs {α : Type} (kind : TypeKind) (span : Span) (outcome : Except Issue α) : Prop :=
  ∃ fault : TypeFault, outcome = .error (.type fault span) ∧ fault.kind = kind

/-- Whether a name is refused as a lane constraint, and in the lane index of a broadcast. -/
structure Env.Refuses (env : Env) (name : String) : Prop where
  constraint : ∀ span elem, FailsAs .nonConstantConstraint span ((Constraint.mk (.named name) span).width env elem)
  laneIndex : ∀ (span : Span) (callee : Name) (value index : Expr) (s : Scalar) (w : Width),
    callee.text = LibraryOp.broadcast.name → value.infer env = .ok (.varying s w) → w ≠ .universal →
      name ∈ index.identifiers →
        FailsAs .nonConstantLaneIndex index.span ((Expr.call span callee [value, index]).infer env)

/-- A variable is refused, unless a constant has its name. -/
theorem Env.refuses_of_bound {env : Env} {name : String} {binding : Binding}
    (hbound : env.lookup? name = some binding) (hnone : env.constants.find? name = none) : env.Refuses name := by
  constructor
  · intro span elem
    have hvalue : (Constraint.mk (.named name) span).value env = .error (.type (.runtimeConstraint name) span) := by
      simp only [Constraint.value, hnone, hbound, Option.isSome_some, if_true]
    refine ⟨.runtimeConstraint name, ?_, rfl⟩
    rw [Constraint.width, hvalue]
    rfl
  · intro span callee value index s w hcallee hvalue hw hname
    refine ⟨.laneIndexNotStatic, ?_, rfl⟩
    rw [Expr.infer_broadcast hcallee hvalue hw]
    exact broadcast_of_not_constant hnone hname

/-- In a function that passes its check, the names that are used as constants are all those of constants. -/
theorem Function.allConstant_of_check {f : Function} {env env' : Env} {types : TypeRecord}
    (hcheck : f.check env = (.ok types, env')) (hlookup : ∀ name, env.lookup? name = none) :
    ∀ x ∈ f.standings env, AllConstant env.constants x.site.stmt.constantNames := by
  intro x hx
  have hscoped := Function.scoped_standings hlookup x hx
  have htyped := (Function.check_ok hcheck).1 x hx
  rw [Stmt.constantNames, AllConstant.append_iff, AllConstant.flatMap_iff]
  refine ⟨Function.resolves_of_check hcheck x.site (Function.site_of_standing hx), fun e he => ?_⟩
  obtain ⟨t, ht⟩ := htyped.infers e he
  rw [← hscoped.constants_eq]
  exact e.allConstant_of_infer ht

/-- The names that a function uses as constants mean those constants exactly where no variables of their names are in
scope. -/
theorem Function.meaning?_of_check {f : Function} {env env' : Env} {types : TypeRecord}
    (hcheck : f.check env = (.ok types, env')) (hlookup : ∀ name, env.lookup? name = none) :
    ∀ x ∈ f.standings env, ∀ name ∈ x.site.stmt.constantNames, ∃ v, env.constants.find? name = some v ∧
      (x.env.meaning? name = some (.constant v) ↔ x.env.lookup? name = none) := by
  intro x hx name hname
  obtain ⟨v, hv⟩ := Function.allConstant_of_check hcheck hlookup x hx name hname
  refine ⟨v, hv, Env.meaning?_eq_constant_iff ?_⟩
  rw [(Function.scoped_standings hlookup x hx).constants_eq]
  exact hv

/-- No variable is in scope when the declarations are read. -/
theorem Program.lookup?_declare (p : Program) (target : Target) (name : String) :
    (p.declare target).1.lookup? name = none := by
  rw [Env.lookup?, Program.scopes_declare]
  rfl

/-- An identifier has the type of what its name means. In a function that passes its check, every name that is used as
a constant is that of a constant. It means that constant, as in an expression, exactly if no variable of the name is in
scope, and so everywhere in a function that binds no constant's name. A variable is refused in its place only if no
constant has its name; otherwise the constant is taken. -/
theorem Program.constant_names_unshadowed (p : Program) (target : Target) {f : Function} {types : TypeRecord}
    {env' : Env} (hcheck : f.check (p.declare target).1 = (.ok types, env')) :
    (∀ (env : Env) (span : Span) (name : String), (Expr.ident span name).infer env =
      ((env.meaning? name).map Meaning.type).elim (.error (.type (.undefinedVariable name) span)) .ok) ∧
    (∀ x ∈ f.standings (p.declare target).1, ∀ name ∈ x.site.stmt.constantNames,
      ∃ v, (p.declare target).1.constants.find? name = some v ∧
        (x.env.meaning? name = some (.constant v) ↔ x.env.lookup? name = none)) ∧
    ((∀ name ∈ f.boundNames, (p.declare target).1.constants.find? name = none) →
      ∀ x ∈ f.standings (p.declare target).1, ∀ name ∈ x.site.stmt.constantNames,
        ∃ v, x.env.meaning? name = some (.constant v)) ∧
    ∀ (env : Env) (name : String) (binding : Binding), env.lookup? name = some binding →
      (env.constants.find? name = none → env.Refuses name) ∧
      ∀ v, env.constants.find? name = some v → ∀ span elem,
        (Constraint.mk (.named name) span).width env elem = widthOf v elem span := by
  have hmeans := Function.meaning?_of_check hcheck (p.lookup?_declare target)
  refine ⟨Expr.infer_ident, hmeans, fun hfree x hx name hname => ?_,
    fun env name binding hbound => ⟨Env.refuses_of_bound hbound, ?_⟩⟩
  · obtain ⟨v, hv, hmeaning⟩ := hmeans x hx name hname
    refine ⟨v, hmeaning.2 ?_⟩
    -- a variable of that name would be bound by the function
    rw [Option.eq_none_iff_forall_ne_some]
    intro binding hbound
    have hscoped := Function.scoped_standings (p.lookup?_declare target) x hx
    have hnone := hfree name (hscoped.bound name binding hbound)
    rw [hv] at hnone
    cases hnone
  · intro v hv span elem
    exact Constraint.width_of_constant hv elem

section Tiles

open Builder

/-- A function with one parameter. It runs a region over `N` lanes at a time, and spreads the last of them. -/
def cover (parameter : String) : Function :=
  let build : Builder Function := do
    let count ← param parameter (← named "int64")
    let bounds ← range (← int 0) (← int 8)
    let lanes ← ident "i"
    let last ← binary .sub (← ident "N") (← int 1)
    let spread ← declare "x" none (← call "lanes.Broadcast" [lanes, last])
    function "cover" [count] none [← goForWith "i" bounds (.named "N") [spread]] false
  (build.run 6).1

/-- The function in a program with a constant `N`. -/
def tiles (parameter : String) : Program :=
  let build : Builder Constant := do
    constant "N" (← int 4)
  { constants := [(build.run 0).1], functions := [cover parameter] }

/-- With a parameter of another name, the go-for and the broadcast in its body both use `N`, and it means the
constant in both places. -/
theorem Program.constant_names_unshadowed_tiles :
    ((cover "count").standings ((tiles "count").declare .standard).1).map (fun x => x.site.stmt.constantNames) =
        [["N"], ["N"]] ∧
    ∀ x ∈ (cover "count").standings ((tiles "count").declare .standard).1,
      ∃ v, x.env.meaning? "N" = some (.constant v) := by
  have hnames : ((cover "count").standings ((tiles "count").declare .standard).1).map
      (fun x => x.site.stmt.constantNames) = [["N"], ["N"]] := by decide +kernel
  have hpasses : ((cover "count").check ((tiles "count").declare .standard).1).1.isOk = true := by decide +kernel
  have hfree : ∀ name ∈ (cover "count").boundNames,
      ((tiles "count").declare .standard).1.constants.find? name = none := by decide +kernel
  obtain ⟨types, env', hcheck⟩ := Function.exists_of_isOk hpasses
  refine ⟨hnames, fun x hx => ?_⟩
  have hused : x.site.stmt.constantNames ∈ [["N"], ["N"]] := by
    rw [← hnames]
    exact List.mem_map.2 ⟨x, hx, rfl⟩
  have hused : x.site.stmt.constantNames = ["N"] := by
    simpa using hused
  refine ((tiles "count").constant_names_unshadowed .standard hcheck).2.2.1 hfree x hx "N" ?_
  rw [hused]
  exact List.mem_singleton_self _

/-- A parameter `N` is no obstacle: the program passes, although where `N` is used as a constant it means the
parameter. -/
theorem Program.constant_names_shadowed :
    ((tiles "N").analyze .standard).isOk = true ∧
    ∀ x ∈ (cover "N").standings ((tiles "N").declare .standard).1,
      x.site.stmt.constantNames = ["N"] ∧ (x.env.lookup? "N").map Binding.type = some (.uniform .int64) := by
  decide +kernel

end Tiles

end Lanewise
