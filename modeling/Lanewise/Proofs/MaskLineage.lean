import Lanewise.Proofs.ArmMasks
import Lanewise.Proofs.RegionRecords

/-!
# Mask tables only narrow

A mask is defined after the mask that it narrows, and masks are only dropped from the end of a table. So in every
table that such operations build, parents have smaller numbers (`MaskTable.Ordered`), and that is all it takes
(`MaskTable.build_of_ordered`). The chain of parents of a mask then leads down to an entry mask, the bound on the
recursion never cuts it short, and each step of it takes lanes away and adds none.

The table of a report is in order as well, and has a place for every mask that the report mentions: a walk
leaves its own masks behind the ones that it found, and a second walk over a loop leaves nothing.
-/

set_option autoImplicit false

namespace Lanewise

/-! ### Operations on tables -/

/-- An operation on a mask table. -/
inductive MaskOp where
  /-- Defines a mask. -/
  | define (d : MaskDef)
  /-- Drops all but the first masks. -/
  | truncate (size : Nat)

/-- The table after an operation. A mask can be defined if the mask that it narrows is there. -/
def MaskOp.apply (t : MaskTable) : MaskOp → Option MaskTable
  | define d => if d.parent?.all (fun parent => parent < t.size) then some (t.push d).2 else none
  | truncate size => some (t.truncate size)

namespace MaskTable

/-- The table that is built by operations, one after the other. -/
def build (ops : List MaskOp) : Option MaskTable :=
  ops.foldlM MaskOp.apply .empty

/-- Whether every mask comes after the mask that it narrows. -/
def Ordered (t : MaskTable) : Prop :=
  ∀ id parent, t.parent? id = some parent → parent < id

variable {t : MaskTable} {d : MaskDef} {id parent : Nat}

/-- A mask with a definition is one of the table. -/
theorem lt_size_of_get? (h : t.get? id = some d) : id < t.size :=
  (List.getElem?_eq_some_iff.1 h).1

/-- The empty table is in order. -/
theorem ordered_empty : Ordered .empty := by
  intro id parent h
  cases h

/-- A table stays in order if a mask is added that narrows one of it. -/
theorem Ordered.push (h : t.Ordered) (hparent : ∀ parent, d.parent? = some parent → parent < t.size) :
    (t.push d).2.Ordered := by
  intro id parent hid
  obtain ⟨e, he, hep⟩ := Option.bind_eq_some_iff.1 hid
  rcases Nat.lt_or_ge id t.size with hlt | hge
  · have hold : t.get? id = some e := (List.getElem?_append_left hlt).symm.trans he
    exact h id parent (Option.bind_eq_some_iff.2 ⟨e, hold, hep⟩)
  · -- the new mask is the last one
    have hnew : [d][id - t.size]? = some e := (List.getElem?_append_right hge).symm.trans he
    obtain rfl : d = e := List.mem_singleton.1 (List.mem_of_getElem? hnew) ▸ rfl
    exact Nat.lt_of_lt_of_le (hparent parent hep) hge

/-- A table stays in order if its latest masks are dropped. -/
theorem Ordered.truncate (h : t.Ordered) (size : Nat) : (t.truncate size).Ordered := by
  intro id parent hid
  obtain ⟨e, he, hep⟩ := Option.bind_eq_some_iff.1 hid
  rw [get?, MaskTable.truncate, List.getElem?_take] at he
  obtain ⟨-, hold⟩ := Option.ite_none_right_eq_some.1 he
  exact h id parent (Option.bind_eq_some_iff.2 ⟨e, hold, hep⟩)

/-- No operation puts a mask before the mask that it narrows. -/
theorem Ordered.apply {op : MaskOp} {t' : MaskTable} (h : t.Ordered) (hop : op.apply t = some t') :
    t'.Ordered := by
  cases op with
  | define d =>
    obtain ⟨hparent, heq⟩ := Option.ite_none_right_eq_some.1 hop
    cases heq
    refine h.push fun parent hp => ?_
    rw [hp, Option.all_some] at hparent
    exact of_decide_eq_true hparent
  | truncate size =>
    cases hop
    exact h.truncate size

/-- A table stays in order under any run of operations. -/
theorem Ordered.foldlM {ops : List MaskOp} {t' : MaskTable} (h : t.Ordered)
    (hrun : ops.foldlM MaskOp.apply t = some t') : t'.Ordered := by
  induction ops generalizing t with
  | nil =>
    cases hrun
    exact h
  | cons op rest ih =>
    rw [List.foldlM_cons] at hrun
    obtain ⟨mid, hop, hrest⟩ := Option.bind_eq_some_iff.1 hrun
    exact ih (h.apply hop) hrest

/-- Every table that is built is in order. -/
theorem ordered_of_build {ops : List MaskOp} (h : build ops = some t) : t.Ordered :=
  ordered_empty.foldlM h

/-- Every table in order is built by defining its masks one after the other. -/
theorem build_of_ordered (h : t.Ordered) : build (t.defs.map .define) = some t := by
  obtain ⟨defs⟩ := t
  induction defs using List.reverseRecOn with
  | nil => rfl
  | append_singleton defs d ih =>
    have hdefs : (MaskTable.mk defs).Ordered := by
      have htake := h.truncate defs.length
      rwa [MaskTable.truncate, List.take_left] at htake
    have hparent : d.parent?.all (fun parent => parent < (MaskTable.mk defs).size) = true := by
      rw [Option.all_eq_true]
      intro parent hp
      have hlast : (MaskTable.mk (defs ++ [d])).parent? defs.length = some parent := by
        simp [parent?, get?, hp]
      exact decide_eq_true (h _ _ hlast)
    have hbuilt : (defs.map .define).foldlM MaskOp.apply .empty = some (MaskTable.mk defs) := ih hdefs
    have hlast : MaskOp.apply (MaskTable.mk defs) (.define d) = some (MaskTable.mk (defs ++ [d])) := if_pos hparent
    rw [build, List.map_append, List.foldlM_append, hbuilt]
    show (MaskOp.apply (MaskTable.mk defs) (.define d) >>= pure) = _
    rw [hlast]
    rfl

/-! ### Lineages -/

/-- A mask with a parent is one of the table. -/
theorem lt_size_of_parent? (h : t.parent? id = some parent) : id < t.size := by
  obtain ⟨d, hd, -⟩ := Option.bind_eq_some_iff.1 h
  exact lt_size_of_get? hd

/-- In a table in order, no bound from the number of the mask on cuts its chain of parents short. -/
theorem Ordered.ancestors_eq (h : t.Ordered) {fuel k : Nat} (hfuel : id ≤ fuel) (hk : id ≤ k) :
    t.ancestors fuel id = t.ancestors k id := by
  induction fuel generalizing id k with
  | zero =>
    have hroot : t.parent? id = none := by
      rw [Option.eq_none_iff_forall_ne_some]
      intro parent hp
      have hlt := h id parent hp
      omega
    cases k with
    | zero => rfl
    | succ k => rw [ancestors, ancestors, hroot]
  | succ fuel ih =>
    cases hp : t.parent? id with
    | none => cases k <;> simp [ancestors, hp]
    | some parent =>
      have hlt := h id parent hp
      cases k with
      | zero => omega
      | succ k =>
        rw [ancestors, ancestors, hp]
        exact congrArg (id :: ·) (ih (by omega) (by omega))

/-- The lineage of a mask that narrows nothing is that mask alone. -/
theorem lineage_of_entry (h : t.parent? id = none) : t.lineage id = [id] := by
  rw [lineage]
  cases t.size <;> simp [ancestors, h]

/-- A lineage goes on from that of the parent. -/
theorem Ordered.lineage_of_parent (h : t.Ordered) (hp : t.parent? id = some parent) :
    t.lineage id = t.lineage parent ++ [id] := by
  have hlt := h id parent hp
  have hid := lt_size_of_parent? hp
  rw [lineage, lineage]
  cases hsize : t.size with
  | zero => omega
  | succ n =>
    rw [ancestors, hp, ← List.reverse_cons]
    exact congrArg (fun l => (id :: l).reverse) (h.ancestors_eq (by omega) (by omega))

/-- What holds of the masks that narrow nothing, and of a mask as soon as it holds of its parent, holds of all
masks of a table in order. -/
theorem Ordered.induction {P : Nat → Prop} (h : t.Ordered) (entry : ∀ id, t.parent? id = none → P id)
    (narrowed : ∀ id parent, t.parent? id = some parent → P parent → P id) (id : Nat) : P id := by
  induction id using Nat.strongRecOn with
  | ind id ih =>
    cases hp : t.parent? id with
    | none => exact entry id hp
    | some parent => exact narrowed id parent hp (ih parent (h id parent hp))

/-- No mask of a lineage comes after the one that it leads to. -/
theorem Ordered.le_of_mem_lineage (h : t.Ordered) : ∀ a ∈ t.lineage id, a ≤ id := by
  induction id using h.induction with
  | entry id hp =>
    intro a ha
    rw [lineage_of_entry hp, List.mem_singleton] at ha
    exact Nat.le_of_eq ha
  | narrowed id parent hp ih =>
    intro a ha
    have hlt := h id parent hp
    rw [h.lineage_of_parent hp, List.mem_append, List.mem_singleton] at ha
    rcases ha with ha | ha
    · have hle := ih a ha
      omega
    · omega

/-- The numbers along a lineage increase. -/
theorem Ordered.lineage_increasing (h : t.Ordered) : (t.lineage id).Pairwise (· < ·) := by
  induction id using h.induction with
  | entry id hp =>
    rw [lineage_of_entry hp]
    exact List.pairwise_singleton _ _
  | narrowed id parent hp ih =>
    have hlt := h id parent hp
    rw [h.lineage_of_parent hp, List.pairwise_append]
    refine ⟨ih, List.pairwise_singleton _ _, fun a ha b hb => ?_⟩
    have hle := h.le_of_mem_lineage a ha
    rw [List.mem_singleton] at hb
    omega

/-- A lineage ends with the mask that it leads to. -/
theorem Ordered.getLast?_lineage (h : t.Ordered) (id : Nat) : (t.lineage id).getLast? = some id := by
  cases hp : t.parent? id with
  | none => rw [lineage_of_entry hp, List.getLast?_singleton]
  | some parent => rw [h.lineage_of_parent hp, List.getLast?_concat]

/-- Whether a mask is an entry mask. -/
def isEntry (t : MaskTable) (id : Nat) : Bool :=
  (t.get? id).any fun d => d.parent?.isNone

/-- An entry mask is one that is defined as such. -/
theorem isEntry_iff : t.isEntry id = true ↔ ∃ kind, t.get? id = some (.entry kind) := by
  unfold isEntry
  cases t.get? id with
  | none => simp
  | some d => cases d <;> simp [MaskDef.parent?]

/-- A mask with a parent is no entry mask. -/
theorem isEntry_of_parent? (h : t.parent? id = some parent) : t.isEntry id = false := by
  obtain ⟨d, hd, hp⟩ := Option.bind_eq_some_iff.1 h
  rw [isEntry, hd, Option.any_some, hp]
  rfl

/-- A mask of the table without a parent is an entry mask. -/
theorem isEntry_of_no_parent (hid : id < t.size) (h : t.parent? id = none) : t.isEntry id = true := by
  have hget : t.get? id = some t.defs[id] := List.getElem?_eq_getElem hid
  rw [parent?, hget, Option.bind_some] at h
  rw [isEntry, hget, Option.any_some, h]
  rfl

/-- The lineage of a mask of the table has one entry mask, which is its first. -/
theorem Ordered.lineage_entry (h : t.Ordered) (hid : id < t.size) :
    ∃ first rest, t.lineage id = first :: rest ∧ t.isEntry first = true ∧ ∀ a ∈ rest, t.isEntry a = false := by
  induction id using h.induction with
  | entry id hp =>
    exact ⟨id, [], lineage_of_entry hp, isEntry_of_no_parent hid hp, fun a ha => by cases ha⟩
  | narrowed id parent hp ih =>
    have hlt := h id parent hp
    obtain ⟨first, rest, hlineage, hfirst, hrest⟩ := ih (by omega)
    refine ⟨first, rest ++ [id], ?_, hfirst, fun a ha => ?_⟩
    · rw [h.lineage_of_parent hp, hlineage, List.cons_append]
    · rcases List.mem_append.1 ha with ha | ha
      · exact hrest a ha
      · rw [List.mem_singleton.1 ha]
        exact isEntry_of_parent? hp

/-- The depth of a mask counts the masks of its lineage that narrow another one. -/
theorem Ordered.depth_eq (h : t.Ordered) (hid : id < t.size) :
    t.depth id = (t.lineage id).countP fun a => !t.isEntry a := by
  obtain ⟨first, rest, hlineage, hfirst, hrest⟩ := h.lineage_entry hid
  have hall : rest.countP (fun a => !t.isEntry a) = rest.length :=
    List.countP_eq_length.2 fun a ha => by rw [hrest a ha]; rfl
  rw [depth, hlineage, List.countP_cons, hall, hfirst]
  rfl

/-! ### Evaluation -/

variable {inputs : MaskInputs}

/-- In a table in order every chain of parents ends, within as many steps as the number of the mask allows. -/
theorem Ordered.ends (h : t.Ordered) (hid : id < t.size) : t.Ends (id + 1) id := by
  have hget : t.get? id = some t.defs[id] := List.getElem?_eq_getElem hid
  induction id using h.induction with
  | entry id hp =>
    rw [parent?, hget, Option.bind_some] at hp
    refine ⟨_, hget, fun parent hparent => ?_⟩
    rw [hp] at hparent
    cases hparent
  | narrowed id parent hp ih =>
    have hlt := h id parent hp
    rw [parent?, hget, Option.bind_some] at hp
    refine ⟨_, hget, fun other hother => ?_⟩
    obtain rfl : parent = other := Option.some.inj (hp.symm.trans hother)
    have hbefore : parent < t.size := by omega
    exact (ih hbefore (List.getElem?_eq_getElem hbefore)).mono hlt

/-- In a table in order, no bound beyond the number of the mask cuts its evaluation short. -/
theorem Ordered.evaluateWithin_eq (h : t.Ordered) (hid : id < t.size) {fuel : Nat} (hfuel : id < fuel) :
    t.evaluateWithin inputs fuel id = t.evaluate inputs id := by
  have hends := h.ends hid
  have hsize : id + 1 ≤ t.size + 1 := by omega
  rw [evaluate, evaluateWithin_of_ends hends hfuel, evaluateWithin_of_ends hends hsize]

/-- The lanes of a mask, given those of any mask before it. -/
def evaluateAfter (t : MaskTable) (inputs : MaskInputs) (lanes : Nat → Except LaneError (Option Mask))
    (id : Nat) : Except LaneError (Option Mask) :=
  match t.get? id with
  | none => .ok none
  | some d =>
    match d.parent? with
    | none => d.narrow inputs (.none 0)
    | some parent => do
      match ← lanes parent with
      | none => return none
      | some m => d.narrow inputs m

/-- Evaluation is the recursion along the parents, without a bound. -/
theorem Ordered.evaluate_eq (h : t.Ordered) (inputs : MaskInputs) (id : Nat) :
    t.evaluate inputs id = t.evaluateAfter inputs (t.evaluate inputs) id := by
  rw [evaluate, evaluateWithin, evaluateAfter]
  cases hget : t.get? id with
  | none => rfl
  | some d =>
    cases hp : d.parent? with
    | none => simp only [hp]
    | some parent =>
      have hlt := h id parent (Option.bind_eq_some_iff.2 ⟨d, hget, hp⟩)
      have hid := lt_size_of_get? hget
      have hparent : t.evaluateWithin inputs t.size parent = t.evaluate inputs parent :=
        h.evaluateWithin_eq (by omega) (by omega)
      simp only [hp]
      exact hparent ▸ rfl

end MaskTable

/-! ### Lanes along a lineage -/

/-- Whether a mask has the width of another one and no lane that the other does not have. -/
structure Mask.Within (m outer : Mask) : Prop where
  width : m.width = outer.width
  active : ∀ lane, m.isActive lane = true → outer.isActive lane = true

namespace Mask

variable {m outer a b : Mask}

/-- A mask is within itself. -/
theorem Within.refl (m : Mask) : m.Within m :=
  ⟨rfl, fun _ h => h⟩

/-- A mask is within all that the masks around it are within. -/
theorem Within.trans (h : m.Within a) (h' : a.Within outer) : m.Within outer :=
  ⟨h.width.trans h'.width, fun lane hlane => h'.active lane (h.active lane hlane)⟩

/-- Masks that combine have the same width. -/
theorem width_eq_of_zip {f : Bool → Bool → Bool} (h : zip f a b = .ok m) : a.width = b.width := by
  by_contra hne
  simp only [zip, sameWidth, if_neg hne] at h
  cases h

/-- An intersection is within its first mask. -/
theorem within_of_and (h : a.and b = .ok m) : m.Within a := by
  obtain ⟨m', hm', hwidth, hactive⟩ := and_ok (width_eq_of_zip h)
  obtain rfl : m' = m := Except.ok.inj (hm'.symm.trans h)
  refine ⟨hwidth, fun lane hlane => ?_⟩
  rw [hactive, Bool.and_eq_true] at hlane
  exact hlane.1

/-- A difference is within its first mask. -/
theorem within_of_andNot (h : a.andNot b = .ok m) : m.Within a := by
  obtain ⟨m', hm', hwidth, hactive⟩ := andNot_ok (width_eq_of_zip h)
  obtain rfl : m' = m := Except.ok.inj (hm'.symm.trans h)
  refine ⟨hwidth, fun lane hlane => ?_⟩
  rw [hactive, Bool.and_eq_true] at hlane
  exact hlane.1

end Mask

/-- A definition that narrows a mask takes lanes of it away and adds none. -/
theorem MaskDef.within_of_narrow {d : MaskDef} {inputs : MaskInputs} {outer m : Mask} {parent : Nat}
    (hparent : d.parent? = some parent) (h : d.narrow inputs outer = .ok (some m)) : m.Within outer := by
  cases d with
  | entry kind => cases hparent
  | and _ cond =>
    rw [narrow] at h
    split at h
    · cases h
    · obtain ⟨met, hmet, hm⟩ := Except.bind_eq_ok.1 h
      cases hm
      exact Mask.within_of_and hmet
  | andNot _ cond =>
    rw [narrow] at h
    split at h
    · cases h
    · obtain ⟨met, hmet, hm⟩ := Except.bind_eq_ok.1 h
      cases hm
      exact Mask.within_of_andNot hmet
  | case _ scrutinee index =>
    obtain ⟨taken, -, h⟩ := Except.bind_eq_ok.1 h
    split at h
    · cases h
    · split at h
      · cases h
      · obtain ⟨met, hmet, h⟩ := Except.bind_eq_ok.1 h
        obtain ⟨left, hleft, hm⟩ := Except.bind_eq_ok.1 h
        cases hm
        exact (Mask.within_of_andNot hleft).trans (Mask.within_of_and hmet)
  | default _ scrutinee cases =>
    obtain ⟨taken, -, h⟩ := Except.bind_eq_ok.1 h
    split at h
    · cases h
    · obtain ⟨left, hleft, hm⟩ := Except.bind_eq_ok.1 h
      cases hm
      exact Mask.within_of_andNot hleft

namespace MaskTable

variable {t : MaskTable} {inputs : MaskInputs} {id parent : Nat} {m : Mask}

/-- A mask that has lanes narrows those of its parent. -/
theorem Ordered.within_parent (h : t.Ordered) (hp : t.parent? id = some parent)
    (hm : t.evaluate inputs id = .ok (some m)) :
    ∃ outer, t.evaluate inputs parent = .ok (some outer) ∧ m.Within outer := by
  obtain ⟨d, hget, hparent⟩ := Option.bind_eq_some_iff.1 hp
  rw [h.evaluate_eq, evaluateAfter, hget] at hm
  simp only [hparent] at hm
  obtain ⟨lanes, hlanes, hm⟩ := Except.bind_eq_ok.1 hm
  cases lanes with
  | none => cases hm
  | some outer => exact ⟨outer, hlanes, MaskDef.within_of_narrow hparent hm⟩

/-- The lanes of a mask are within those of every mask of its lineage. -/
theorem Ordered.within_lineage (h : t.Ordered) (hm : t.evaluate inputs id = .ok (some m)) :
    ∀ a ∈ t.lineage id, ∃ outer, t.evaluate inputs a = .ok (some outer) ∧ m.Within outer := by
  induction id using h.induction generalizing m with
  | entry id hp =>
    intro a ha
    rw [lineage_of_entry hp, List.mem_singleton] at ha
    exact ⟨m, ha ▸ hm, .refl m⟩
  | narrowed id parent hp ih =>
    intro a ha
    rw [h.lineage_of_parent hp, List.mem_append, List.mem_singleton] at ha
    rcases ha with ha | rfl
    · obtain ⟨outer, houter, hwithin⟩ := h.within_parent hp hm
      obtain ⟨first, hfirst, hrest⟩ := ih houter a ha
      exact ⟨first, hfirst, hwithin.trans hrest⟩
    · exact ⟨m, hm, .refl m⟩

/-- What makes a table one of masks that only narrow. The two equations say that lineages and evaluation are
the recursions along the parents, which end because parents have smaller numbers. -/
structure Narrowing (t : MaskTable) : Prop where
  parent_lt : ∀ id parent, t.parent? id = some parent → parent < id
  lineage_eq : ∀ id, t.lineage id = (t.parent? id).elim [] t.lineage ++ [id]
  evaluate_eq : ∀ inputs id, t.evaluate inputs id = t.evaluateAfter inputs (t.evaluate inputs) id
  increasing : ∀ id < t.size, (t.lineage id).Pairwise (· < ·)
  first : ∀ id < t.size, ∃ entry kind, (t.lineage id).head? = some entry ∧ t.get? entry = some (.entry kind)
  last : ∀ id < t.size, (t.lineage id).getLast? = some id
  depth : ∀ id < t.size, t.depth id = (t.lineage id).countP fun a => !t.isEntry a
  within : ∀ inputs id m, t.evaluate inputs id = .ok (some m) →
    ∀ a ∈ t.lineage id, ∃ outer, t.evaluate inputs a = .ok (some outer) ∧ m.Within outer

/-- A table in order is one of masks that only narrow. -/
theorem Ordered.narrowing (h : t.Ordered) : t.Narrowing where
  parent_lt := h
  lineage_eq := fun id => by
    cases hp : t.parent? id with
    | none => exact lineage_of_entry hp
    | some parent => exact h.lineage_of_parent hp
  evaluate_eq := h.evaluate_eq
  increasing := fun _ _ => h.lineage_increasing
  first := fun id hid => by
    obtain ⟨first, rest, hlineage, hfirst, -⟩ := h.lineage_entry hid
    obtain ⟨kind, hkind⟩ := isEntry_iff.1 hfirst
    exact ⟨first, kind, by rw [hlineage, List.head?_cons], hkind⟩
  last := fun id _ => h.getLast?_lineage id
  depth := fun _ => h.depth_eq
  within := fun _ _ _ => h.within_lineage

end MaskTable

/-! ### Walks -/

/-- Whether a record fits behind the first `next` masks of a table: each of its masks narrows one before it, and
the masks of its visits are among those that are then defined. -/
structure WalkRecord.Fits (r : WalkRecord) (next : Nat) : Prop where
  parents : ∀ i d, r.masks[i]? = some d → ∃ parent, d.parent? = some parent ∧ parent < next + i
  visits : ∀ v ∈ r.visits, v.mask < next + r.masks.length

namespace WalkRecord.Fits

variable {a b r : WalkRecord} {next mask : Nat}

/-- The record of nothing fits anywhere. -/
theorem empty (next : Nat) : WalkRecord.empty.Fits next := by
  constructor
  · intro i d hd
    cases hd
  · intro v hv
    cases hv

/-- The visit of a statement fits if its mask is there. -/
theorem here (index : Nat) (s : Stmt) (hmask : mask < next) : (WalkRecord.here index mask s).Fits next := by
  constructor
  · intro i d hd
    cases hd
  · intro v hv
    rw [List.mem_singleton.1 hv]
    exact hmask

/-- Definitions fit if they all narrow a mask that is there. -/
theorem define {ds : List MaskDef} (hmask : mask < next) (h : ∀ d ∈ ds, d.parent? = some mask) :
    (WalkRecord.define ds).Fits next := by
  constructor
  · intro i d hd
    exact ⟨mask, h d (List.mem_of_getElem? hd), by omega⟩
  · intro v hv
    cases hv

/-- A step in front of the visits leaves the masks alone. -/
theorem under (step : Step) (h : r.Fits next) : (r.under step).Fits next := by
  refine ⟨h.parents, fun v hv => ?_⟩
  obtain ⟨u, hu, rfl⟩ := List.mem_map.1 hv
  exact h.visits u hu

/-- Two records fit one after the other if the second one fits behind the masks of the first. -/
theorem append (ha : a.Fits next) (hb : b.Fits (next + a.masks.length)) : (a ++ b).Fits next := by
  refine ⟨fun i d hd => ?_, fun v hv => ?_⟩
  · rw [WalkRecord.masks_append] at hd
    rcases Nat.lt_or_ge i a.masks.length with hlt | hge
    · rw [List.getElem?_append_left hlt] at hd
      exact ha.parents i d hd
    · rw [List.getElem?_append_right hge] at hd
      obtain ⟨parent, hparent, hbefore⟩ := hb.parents _ d hd
      exact ⟨parent, hparent, by omega⟩
  · rw [WalkRecord.masks_append, List.length_append]
    rcases List.mem_append.1 hv with hv | hv
    · have hlt := ha.visits v hv
      omega
    · have hlt := hb.visits v hv
      omega

/-- The record of a block fits, whether or not the block has a mask of its own. -/
theorem narrowed {isVarying : Bool} {d : MaskDef} {body : Nat → Nat → WalkRecord} (hmask : mask < next)
    (hd : d.parent? = some mask) (hbody : ∀ mask next, mask < next → (body mask next).Fits next) :
    (WalkRecord.narrowed isVarying mask next d body).Fits next := by
  unfold WalkRecord.narrowed
  split
  · refine (define hmask fun e he => ?_).append (hbody next (next + 1) (Nat.lt_succ_self next))
    rw [List.mem_singleton.1 he]
    exact hd
  · exact hbody mask next hmask

/-- The masks of the two arms of a branch. -/
theorem branch (hmask : mask < next) (cond : Span) :
    (WalkRecord.define [.and mask cond, .andNot mask cond]).Fits next := by
  refine define hmask ?_
  rw [List.forall_mem_cons]
  exact ⟨rfl, List.forall_mem_singleton.2 rfl⟩

/-- A record fits behind the visit of its statement. -/
theorem after_here (index : Nat) (s : Stmt) (hmask : mask < next) (h : r.Fits next) :
    (WalkRecord.here index mask s ++ r).Fits next :=
  (here index s hmask).append h

end WalkRecord.Fits

mutual

/-- The record of a statement that starts with a mask of the table fits. The proof goes over the statement,
its blocks and its arms together. -/
theorem Stmt.record_fits (cx : WalkContext) (s : Stmt) (index : Nat) {mask next : Nat} (hmask : mask < next) :
    (s.record cx index mask next).Fits next := by
  match s with
  | .ifThen _ cond thenArm =>
    rw [Stmt.record]
    refine .after_here index _ hmask ?_
    split
    · refine (WalkRecord.Fits.branch hmask cond.span).append ?_
      exact (Block.record_fits cx thenArm 0 (by omega)).under _
    · exact (Block.record_fits cx thenArm 0 hmask).under _
  | .ifElse _ cond thenArm elseArm =>
    rw [Stmt.record]
    refine .after_here index _ hmask ?_
    split
    · refine ((WalkRecord.Fits.branch hmask cond.span).append ?_).append ?_
      · exact (Block.record_fits cx thenArm 0 (by omega)).under _
      · rw [WalkRecord.masks_append, List.length_append, ← Nat.add_assoc]
        refine WalkRecord.Fits.under _ (Block.record_fits cx elseArm 0 ?_)
        omega
    · refine WalkRecord.Fits.append ?_ ?_
      · exact (Block.record_fits cx thenArm 0 hmask).under _
      · exact (Block.record_fits cx elseArm 0 (by omega)).under _
  | .switch _ scrutinee arms =>
    rw [Stmt.record]
    exact .after_here index _ hmask (Arms.record_fits cx arms index _ scrutinee.span _ 0 hmask)
  | .typeSwitch _ _ _ arms =>
    rw [Stmt.record]
    exact .after_here index _ hmask (LaneArms.record_fits cx arms index _ 0 hmask)
  | .forIn _ _ _ body | .goFor _ _ _ _ body =>
    rw [Stmt.record]
    exact .after_here index _ hmask ((Block.record_fits cx body 0 hmask).under _)
  | .whileLoop _ cond body =>
    rw [Stmt.record]
    refine .after_here index _ hmask (.narrowed hmask rfl fun mask next hmask => ?_)
    exact (Block.record_fits cx body 0 hmask).under _
  | .declare .. | .assign .. | .ret .. | .brk .. | .cont .. | .panic .. | .defer .. | .spawn .. | .send ..
  | .eval .. => exact .after_here index _ hmask (.empty next)

/-- The record of a block that starts with a mask of the table fits. -/
theorem Block.record_fits (cx : WalkContext) (b : Block) (index : Nat) {mask next : Nat} (hmask : mask < next) :
    (b.record cx index mask next).Fits next := by
  match b with
  | .nil _ => exact .empty next
  | .cons first rest =>
    exact (Stmt.record_fits cx first index hmask).append (Block.record_fits cx rest (index + 1) (by omega))

/-- The record of a switch's arms that start with a mask of the table fits. -/
theorem Arms.record_fits (cx : WalkContext) (arms : Arms) (index : Nat) (s : Stmt) (scrutinee : Span)
    (isVarying : Bool) (k : Nat) {mask next : Nat} (hmask : mask < next) :
    (arms.record cx index s scrutinee isVarying k mask next).Fits next := by
  match arms with
  | .nil => exact .empty next
  | .default body =>
    exact .narrowed hmask rfl fun mask next hmask => (Block.record_fits cx body 0 hmask).under _
  | .case _ body rest =>
    rw [Arms.record]
    refine WalkRecord.Fits.append ?_ (Arms.record_fits cx rest index s scrutinee isVarying (k + 1) (by omega))
    exact .narrowed hmask rfl fun mask next hmask => (Block.record_fits cx body 0 hmask).under _

/-- The record of a type switch's arms that start with a mask of the table fits. -/
theorem LaneArms.record_fits (cx : WalkContext) (arms : LaneArms) (index : Nat) (s : Stmt) (k : Nat)
    {mask next : Nat} (hmask : mask < next) : (arms.record cx index s k mask next).Fits next := by
  match arms with
  | .nil => exact .empty next
  | .default body => exact (Block.record_fits cx body 0 hmask).under _
  | .case _ body rest =>
    rw [LaneArms.record]
    refine WalkRecord.Fits.append ?_ (LaneArms.record_fits cx rest index s (k + 1) (by omega))
    exact (Block.record_fits cx body 0 hmask).under _

end

/-! ### Reports -/

/-- The calls of a visit take over its mask. -/
theorem Visit.mask_of_mem_calls {cx : WalkContext} {v : Visit} {c : RegionCall} (h : c ∈ v.calls cx) :
    c.mask = .caller v.mask := by
  have hmem := (Expr.regionCallsOf_perm cx v.mask v.site.stmt.scanned).mem_iff.1 h
  obtain ⟨node, -, hcall⟩ := List.mem_filterMap.1 hmem
  unfold Node.regionCall? at hcall
  split at hcall
  · obtain ⟨-, heq⟩ := Option.ite_none_right_eq_some.1 hcall
    cases heq
    rfl
  · cases hcall

/-- Whether the masks that a report mentions are those of its table, which has one entry mask, at its start. -/
structure RegionReport.Grounded (report : RegionReport) : Prop where
  entry : report.entry = 0
  entry_iff : ∀ id kind, report.masks.get? id = some (.entry kind) ↔ id = 0 ∧ kind = report.kind.entryMask
  points : ∀ p ∈ report.points, p.mask < report.masks.size
  defers : ∀ c ∈ report.defers, c.mask < report.masks.size
  spawns : ∀ c ∈ report.spawns, c.mask < report.masks.size
  calls : ∀ c ∈ report.calls, ∃ mask, c.mask = .caller mask ∧ mask < report.masks.size

section Reports

variable (r : Region) (cx : WalkContext)

/-- The record of a region fits behind its entry mask. -/
theorem Region.record_fits : (r.record cx).Fits 1 :=
  Block.record_fits cx r.body 0 Nat.zero_lt_one

/-- The table of a report is in order. -/
theorem Region.ordered_report : (r.report cx).masks.Ordered := by
  intro id parent hp
  obtain ⟨d, hd, hparent⟩ := Option.bind_eq_some_iff.1 hp
  cases id with
  | zero =>
    cases hd
    cases hparent
  | succ i =>
    obtain ⟨other, hother, hlt⟩ := (r.record_fits cx).parents i d hd
    obtain rfl : parent = other := Option.some.inj (hparent.symm.trans hother)
    omega

/-- The table of a report has the entry mask and those of the walk. -/
theorem Region.size_report : (r.report cx).masks.size = 1 + (r.record cx).masks.length := by
  rw [Nat.add_comm]
  rfl

/-- A report mentions no mask but those of its table. -/
theorem Region.grounded_report : (r.report cx).Grounded := by
  have hfits := r.record_fits cx
  have hsize := r.size_report cx
  refine ⟨rfl, fun id kind => ?_, fun p hp => ?_, fun c hc => ?_, fun c hc => ?_, fun c hc => ?_⟩
  · constructor
    · intro hget
      cases id with
      | zero =>
        cases hget
        exact ⟨rfl, rfl⟩
      | succ i =>
        -- every mask of the walk narrows another one
        obtain ⟨parent, hparent, -⟩ := hfits.parents i _ hget
        cases hparent
    · rintro ⟨rfl, rfl⟩
      rfl
  · obtain ⟨v, hv, rfl⟩ := List.mem_map.1 hp
    exact hsize ▸ hfits.visits v hv
  · obtain ⟨v, hv, hdeferred⟩ := List.mem_filterMap.1 hc
    unfold Visit.deferred? at hdeferred
    split at hdeferred
    · cases hdeferred
      exact hsize ▸ hfits.visits v hv
    · cases hdeferred
  · obtain ⟨v, hv, hspawned⟩ := List.mem_filterMap.1 hc
    unfold Visit.spawned? at hspawned
    split at hspawned
    · cases hspawned
      exact hsize ▸ hfits.visits v hv
    · cases hspawned
  · obtain ⟨v, hv, hcall⟩ := List.mem_flatMap.1 hc
    exact ⟨v.mask, Visit.mask_of_mem_calls hcall, hsize ▸ hfits.visits v hv⟩

end Reports

/-- Every table that is built by defining masks, each after the one that it narrows, and by dropping the latest
ones is one of masks that only narrow. The table of a report is such a table, and the report mentions no mask that
is not in it, whatever loops were walked twice. -/
theorem MaskTable.tables_only_narrow :
    (∀ ops t, MaskTable.build ops = some t → t.Narrowing) ∧
    ∀ (r : Region) (env : Env) (types : TypeRecord) (report : RegionReport),
      r.analyze env types = .ok report →
        (∃ ops, MaskTable.build ops = some report.masks) ∧ report.masks.Narrowing ∧ report.Grounded := by
  refine ⟨fun ops t h => (MaskTable.ordered_of_build h).narrowing, fun r env types report h => ?_⟩
  obtain ⟨-, rfl⟩ := Region.analyze_eq_ok.1 h
  have hordered := r.ordered_report (r.walkContext env types)
  exact ⟨⟨_, MaskTable.build_of_ordered hordered⟩, hordered.narrowing, r.grounded_report _⟩

/-- Operations that drop a mask and put another one in its place. -/
def detour : List MaskOp :=
  [.define (.entry .allTrue), .define (.and 0 (.between 1 2)), .define (.default 1 (.between 3 4) 0),
    .truncate 2, .define (.andNot 1 (.between 5 6))]

/-- A table from which a mask was dropped has only masks that narrow, and so has the report of an accepted
region. -/
theorem MaskTable.tables_only_narrow_scan :
    (∃ t, MaskTable.build detour = some t ∧ t.lineage 2 = [0, 1, 2] ∧ t.depth 2 = 2 ∧ t.Narrowing) ∧
    ∃ types report, ∃ r ∈ scan.regions scanSignature, r.analyze scanEnv types = .ok report ∧
      report.masks.Narrowing ∧ report.Grounded := by
  obtain ⟨hbuilt, hreports⟩ := MaskTable.tables_only_narrow
  obtain ⟨types, -, report, r, -, hr, hreport⟩ := scan_accepted
  obtain ⟨-, hnarrowing, hgrounded⟩ := hreports r scanEnv types report hreport
  exact ⟨⟨_, rfl, rfl, rfl, hbuilt detour _ rfl⟩, types, report, r, hr, hreport, hnarrowing, hgrounded⟩

end Lanewise
