import Lanewise.Proofs.Occurrences
import Lanewise.Proofs.TypingRules
import Lanewise.Syntax.Builder

/-!
# The table of constants

Constants are declared one after another, and each is folded in the table of those before it. Nothing in this says
what the final table has to do with the expressions: they were folded in other tables.

It has to do with them because a larger table gives an expression the value that a smaller one gives it
(`Expr.constantValue_of_within`). If no name is declared twice, then the tables only grow, and every constant has in
the last one the value that its expression has there: the table settles the declarations (`NameMap.Settles`). On the
other side it holds nothing but what every table has that settles them (`declareConstants_within_of_settles`). The
declarations alone say whether a table settles them, so their order does not matter.
-/

set_option autoImplicit false

namespace Lanewise

/-! ### Tables within tables -/

/-- Whether one map has all entries of another. -/
def Assoc.Within {κ α : Type} [DecidableEq κ] (small large : Assoc κ α) : Prop :=
  ∀ key value, small.find? key = some value → large.find? key = some value

namespace Assoc.Within

variable {κ α : Type} [DecidableEq κ] {a b c : Assoc κ α} {key : κ} {value : α}

/-- A map has all entries of itself. -/
theorem refl (a : Assoc κ α) : a.Within a :=
  fun _ _ h => h

/-- A map has the entries of those within the maps within it. -/
theorem trans (hab : a.Within b) (hbc : b.Within c) : a.Within c :=
  fun key value h => hbc key value (hab key value h)

/-- The empty map is within every map. -/
theorem empty (a : Assoc κ α) : Assoc.empty.Within a := by
  intro key value h
  cases h

/-- A map is within the one that has one entry more, under a key that was free. -/
theorem insert (hfree : a.find? key = none) (value : α) : a.Within (a.insert key value) := by
  intro other found h
  rw [Assoc.find?_insert, if_neg]
  · exact h
  · rintro rfl
    rw [hfree] at h
    cases h

/-- A map with one entry more is within each map that has this entry as well. -/
theorem insert_left (hab : a.Within b) (hentry : b.find? key = some value) :
    (a.insert key value).Within b := by
  intro other found h
  rw [Assoc.find?_insert] at h
  split at h
  · rename_i hkey
    cases h
    rw [hkey, hentry]
  · exact hab other found h

/-- Maps that are within each other have the same entries. -/
theorem antisymm (hab : a.Within b) (hba : b.Within a) (key : κ) : a.find? key = b.find? key := by
  cases ha : a.find? key with
  | some value => exact (hab key value ha).symm
  | none =>
    cases hb : b.find? key with
    | none => rfl
    | some value =>
      rw [hba key value hb] at ha
      cases ha

end Assoc.Within

/-- An expression that folds in a table folds to the same value in every table around it. -/
theorem Expr.constantValue_of_within {small large : NameMap Int64} (hwithin : small.Within large) (e : Expr) :
    ∀ {v : Int64}, e.constantValue small = .ok v → e.constantValue large = .ok v := by
  refine Expr.of_children (P := fun e => ∀ {v : Int64}, e.constantValue small = .ok v →
    e.constantValue large = .ok v) ?_ e
  intro e hchildren v h
  rcases Expr.constantValue_ok h with ⟨span, rfl⟩ | ⟨span, name, rfl, hfind⟩ |
    ⟨span, operand, w, rfl, hw, hneg⟩ | ⟨span, op, left, right, l, r, rfl, hl, hr, hfold⟩
  · rfl
  · simp only [Expr.constantValue, hwithin name v hfind]
  · have hoperand := hchildren operand List.mem_cons_self hw
    rw [Expr.constantValue]
    refine Except.bind_eq_ok.2 ⟨w, hoperand, ?_⟩
    simp only [hneg]
  · have hleft := hchildren left List.mem_cons_self hl
    have hright := hchildren right (List.mem_cons_of_mem _ List.mem_cons_self) hr
    rw [Expr.constantValue]
    refine Except.bind_eq_ok.2 ⟨l, hleft, Except.bind_eq_ok.2 ⟨r, hright, ?_⟩⟩
    simp only [hfold]

/-! ### Tables that settle declarations -/

namespace NameMap

variable {table : NameMap Int64} {c : Constant} {cs rest : List Constant}

/-- Whether a table gives every constant the value that its expression has in this same table. -/
def Settles (table : NameMap Int64) (cs : List Constant) : Prop :=
  ∀ c ∈ cs, ∃ v, table.find? c.name.text = some v ∧ c.value.constantValue table = .ok v

/-- Whether constants have names of their own, which a table does not have yet. -/
structure Awaits (table : NameMap Int64) (cs : List Constant) : Prop where
  names : (cs.map fun c => c.name.text).Nodup
  free : ∀ c ∈ cs, table.find? c.name.text = none

/-- In the empty table all names are free. -/
theorem awaits_empty (hnames : (cs.map fun c => c.name.text).Nodup) : Awaits .empty cs :=
  ⟨hnames, fun _ _ => rfl⟩

/-- With the first constant declared, the names of the others are still free. -/
theorem Awaits.insert (h : Awaits table (c :: rest)) (v : Int64) :
    Awaits (table.insert c.name.text v) rest := by
  obtain ⟨hfirst, hnames⟩ := List.nodup_cons.1 h.names
  refine ⟨hnames, ?_⟩
  intro other hother
  rw [Assoc.find?_insert, if_neg]
  · exact h.free other (List.mem_cons_of_mem c hother)
  · intro hsame
    have hmem : other.name.text ∈ rest.map fun c => c.name.text := List.mem_map_of_mem hother
    rw [hsame] at hmem
    exact hfirst hmem

end NameMap

/-! ### Declarations without issues -/

section Declared

variable {c : Constant} {cs rest : List Constant} {table final other : NameMap Int64}

/-- The first of the constants has a value in the table, and the others are declared in the table with that value. -/
theorem declareConstants_cons_eq (h : declareConstants (c :: rest) table = (final, [])) :
    ∃ v, c.value.constantValue table = .ok v ∧
      declareConstants rest (table.insert c.name.text v) = (final, []) := by
  rw [declareConstants] at h
  split at h
  · rename_i v hv
    exact ⟨v, hv, h⟩
  · obtain ⟨-, hissues⟩ := Prod.mk.inj h
    cases hissues

/-- Declarations of new names only add to a table. -/
theorem within_of_declareConstants (hawaits : table.Awaits cs)
    (h : declareConstants cs table = (final, [])) : table.Within final := by
  induction cs generalizing table with
  | nil =>
    cases h
    exact Assoc.Within.refl _
  | cons c rest ih =>
    obtain ⟨v, -, hrest⟩ := declareConstants_cons_eq h
    have hfree : table.find? c.name.text = none := hawaits.free c List.mem_cons_self
    exact (Assoc.Within.insert hfree v).trans (ih (hawaits.insert v) hrest)

/-- The table of declarations of new names settles them: what a constant was folded in is within the final table. -/
theorem settles_of_declareConstants (hawaits : table.Awaits cs)
    (h : declareConstants cs table = (final, [])) : final.Settles cs := by
  induction cs generalizing table with
  | nil =>
    intro c hc
    cases hc
  | cons c rest ih =>
    obtain ⟨v, hv, hrest⟩ := declareConstants_cons_eq h
    have hfree : table.find? c.name.text = none := hawaits.free c List.mem_cons_self
    have hafter : (table.insert c.name.text v).Within final :=
      within_of_declareConstants (hawaits.insert v) hrest
    have hentry : (table.insert c.name.text v).find? c.name.text = some v := by
      rw [Assoc.find?_insert, if_pos rfl]
    have hvalue : c.value.constantValue final = .ok v :=
      c.value.constantValue_of_within ((Assoc.Within.insert hfree v).trans hafter) hv
    intro d hd
    rcases List.mem_cons.1 hd with rfl | hd
    · exact ⟨v, hafter _ _ hentry, hvalue⟩
    · exact ih (hawaits.insert v) hrest d hd

/-- The table of declarations is within every table that settles them. -/
theorem declareConstants_within_of_settles (h : declareConstants cs table = (final, []))
    (hwithin : table.Within other) (hsettles : other.Settles cs) : final.Within other := by
  induction cs generalizing table with
  | nil =>
    cases h
    exact hwithin
  | cons c rest ih =>
    obtain ⟨v, hv, hrest⟩ := declareConstants_cons_eq h
    obtain ⟨w, hfind, hw⟩ := hsettles c List.mem_cons_self
    have hvalue : c.value.constantValue other = .ok v := c.value.constantValue_of_within hwithin hv
    obtain rfl := Except.ok.inj (hw.symm.trans hvalue)
    exact ih hrest (hwithin.insert_left hfind) fun d hd => hsettles d (List.mem_cons_of_mem c hd)

/-- A table has no names but those it started with and those that are declared. -/
theorem name_of_find?_declareConstants (h : declareConstants cs table = (final, [])) {name : String} {v : Int64}
    (hfind : final.find? name = some v) :
    (∃ c ∈ cs, c.name.text = name) ∨ table.find? name = some v := by
  induction cs generalizing table with
  | nil =>
    cases h
    exact Or.inr hfind
  | cons c rest ih =>
    obtain ⟨w, -, hrest⟩ := declareConstants_cons_eq h
    rcases ih hrest with ⟨d, hd, hname⟩ | htable
    · exact Or.inl ⟨d, List.mem_cons_of_mem c hd, hname⟩
    · rw [Assoc.find?_insert] at htable
      split at htable
      · rename_i hname
        exact Or.inl ⟨c, List.mem_cons_self, hname.symm⟩
      · exact Or.inr htable

end Declared

/-- Constants of different names that are declared without an issue leave a table that settles them: it has exactly
their names, and under each the value that the expression has in this same table, although it was folded in a smaller
one. Every other order in which they can be declared leaves the same table. -/
theorem constants_settled_in_any_order {cs : List Constant} {table : NameMap Int64}
    (hnames : (cs.map fun c => c.name.text).Nodup) (hdeclared : declareConstants cs .empty = (table, [])) :
    (∀ c ∈ cs, ∃ v, table.find? c.name.text = some v ∧ c.value.constantValue table = .ok v) ∧
    (∀ name, table.contains name = true → ∃ c ∈ cs, c.name.text = name) ∧
    ∀ (reordered : List Constant) (table' : NameMap Int64), reordered.Perm cs →
      declareConstants reordered .empty = (table', []) → ∀ name, table'.find? name = table.find? name := by
  have hsettles : table.Settles cs := settles_of_declareConstants (NameMap.awaits_empty hnames) hdeclared
  refine ⟨hsettles, fun name hname => ?_, fun reordered table' hperm hdeclared' => ?_⟩
  · obtain ⟨v, hfind⟩ := Option.isSome_iff_exists.1 hname
    rcases name_of_find?_declareConstants hdeclared hfind with hdeclared | hempty
    · exact hdeclared
    · cases hempty
  · have hnames' : (reordered.map fun c => c.name.text).Nodup := (hperm.map _).nodup_iff.2 hnames
    have hsettles' : table'.Settles reordered :=
      settles_of_declareConstants (NameMap.awaits_empty hnames') hdeclared'
    apply Assoc.Within.antisymm
    · exact declareConstants_within_of_settles hdeclared' (.empty table) fun c hc =>
        hsettles c (hperm.mem_iff.1 hc)
    · exact declareConstants_within_of_settles hdeclared (.empty table') fun c hc =>
        hsettles' c (hperm.mem_iff.2 hc)

section Box

open Builder

/-- Two literals, and two constants that are made from them. -/
def boxSizes : List Constant :=
  let build : Builder (List Constant) := do
    let side ← constant "SIDE" (← int 4)
    let depth ← constant "DEPTH" (← int 3)
    let area ← constant "AREA" (← binary .mul (← ident "SIDE") (← ident "SIDE"))
    let volume ← constant "VOLUME" (← binary .mul (← ident "AREA") (← ident "DEPTH"))
    return [side, depth, area, volume]
  (build.run 0).1

/-- The same constants with the depth between the area and the volume. -/
def boxSizesByUse : List Constant :=
  [0, 2, 1, 3].filterMap fun i => boxSizes[i]?

/-- Both orders give the volume 48, which is what the expression of the volume folds to in the table of either. From
last to first the constants cannot be declared. -/
theorem constants_settled_in_any_order_box :
    (boxSizes.map fun c => c.name.text).Nodup ∧ (declareConstants boxSizes .empty).2 = [] ∧
      boxSizesByUse.Perm boxSizes ∧ (declareConstants boxSizesByUse .empty).2 = [] ∧
      (∀ c ∈ boxSizes, c.name.text = "VOLUME" →
        c.value.constantValue (declareConstants boxSizes .empty).1 = .ok 48) ∧
      (∀ name, (declareConstants boxSizesByUse .empty).1.find? name = (declareConstants boxSizes .empty).1.find? name) ∧
      (declareConstants boxSizes.reverse .empty).2 ≠ [] := by
  have hnames : (boxSizes.map fun c => c.name.text).Nodup := by decide +kernel
  have hissues : (declareConstants boxSizes .empty).2 = [] := rfl
  have hissues' : (declareConstants boxSizesByUse .empty).2 = [] := rfl
  have hperm : boxSizesByUse.Perm boxSizes := (List.Perm.swap _ _ _).cons _
  have hvolume : (declareConstants boxSizes .empty).1.find? "VOLUME" = some 48 := rfl
  have hdeclared : declareConstants boxSizes .empty = ((declareConstants boxSizes .empty).1, []) :=
    Prod.ext rfl hissues
  obtain ⟨hsettled, -, horder⟩ := constants_settled_in_any_order hnames hdeclared
  refine ⟨hnames, hissues, hperm, hissues', fun c hc hname => ?_, horder _ _ hperm (Prod.ext rfl hissues'), ?_⟩
  · obtain ⟨v, hfind, hv⟩ := hsettled c hc
    rw [hname, hvolume] at hfind
    cases hfind
    exact hv
  · intro h
    cases h

end Box

end Lanewise
