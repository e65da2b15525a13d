import Lanewise.Lanes.Mask
import Lanewise.Span

/-!
# Mask tables

The masks of a region are named symbolically: a mask is the entry mask of the region, or it narrows an
earlier mask by a condition or by a case of a switch. A table lists such definitions; a mask is named by
its position in the table. Given the lanes in which each condition holds and each case matches, a mask
evaluates to concrete lanes.

A chain of parents that does not run in a circle is no longer than the table, which bounds the
recursion.
-/

set_option autoImplicit false

namespace Lanewise

/-- The mask with which a region is entered. -/
inductive EntryMask where
  /-- All lanes are active. -/
  | allTrue
  /-- The lanes that are active where the function is called. -/
  | inherited
  deriving DecidableEq

/-- The definition of a mask. -/
inductive MaskDef where
  /-- The mask at the entry of the region. -/
  | entry (kind : EntryMask)
  /-- The lanes of the parent in which a condition holds. -/
  | and (parent : Nat) (cond : Span)
  /-- The lanes of the parent in which a condition does not hold. -/
  | andNot (parent : Nat) (cond : Span)
  /-- The lanes of the parent that match a case and no case before it. -/
  | case (parent : Nat) (scrutinee : Span) (index : Nat)
  /-- The lanes of the parent that match none of the cases. -/
  | default (parent : Nat) (scrutinee : Span) (cases : Nat)
  deriving DecidableEq

/-- The mask that a definition narrows. -/
def MaskDef.parent? : MaskDef → Option Nat
  | entry _ => none
  | and parent _ => some parent
  | andNot parent _ => some parent
  | case parent _ _ => some parent
  | default parent _ _ => some parent

/-- What decides at run time which lanes are active. -/
structure MaskInputs where
  /-- The mask with which the region is entered. -/
  entry : EntryMask → Mask
  /-- The lanes in which the condition at a span holds. -/
  condition : Span → Option Mask
  /-- The lanes in which the scrutinee at a span matches a case. -/
  caseMatch : Span → Nat → Option Mask

namespace MaskInputs

/-- Adds to the lanes `taken` those that match one of `count` cases, from case `first` on. -/
def matchedFrom (inputs : MaskInputs) (scrutinee : Span) (first : Nat) (taken : Mask) :
    Nat → Except LaneError (Option Mask)
  | 0 => .ok (some taken)
  | count + 1 =>
    match inputs.caseMatch scrutinee first with
    | none => .ok none
    | some m => do
      let taken ← taken.or m
      inputs.matchedFrom scrutinee (first + 1) taken count

/-- The lanes that match one of the first `count` cases. -/
def matched (inputs : MaskInputs) (scrutinee : Span) (width count : Nat) :
    Except LaneError (Option Mask) :=
  inputs.matchedFrom scrutinee 0 (.none width) count

end MaskInputs

/-- The lanes of a mask, given the lanes of its parent. There are none if an input is missing. -/
def MaskDef.narrow (inputs : MaskInputs) (parent : Mask) : MaskDef → Except LaneError (Option Mask)
  | entry kind => .ok (some (inputs.entry kind))
  | and _ cond =>
    match inputs.condition cond with
    | none => .ok none
    | some c => return some (← parent.and c)
  | andNot _ cond =>
    match inputs.condition cond with
    | none => .ok none
    | some c => return some (← parent.andNot c)
  | case _ scrutinee index => do
    match ← inputs.matched scrutinee parent.width index with
    | none => return none
    | some taken =>
      match inputs.caseMatch scrutinee index with
      | none => return none
      | some m =>
        let met ← parent.and m
        return some (← met.andNot taken)
  | default _ scrutinee cases => do
    match ← inputs.matched scrutinee parent.width cases with
    | none => return none
    | some taken => return some (← parent.andNot taken)

/-- A list of mask definitions. A mask is named by its position. -/
structure MaskTable where
  defs : List MaskDef
  deriving DecidableEq

namespace MaskTable

/-- The table without masks. -/
def empty : MaskTable := ⟨[]⟩

/-- The number of masks. -/
def size (t : MaskTable) : Nat :=
  t.defs.length

/-- Adds a definition at the end, and names the new mask. -/
def push (t : MaskTable) (d : MaskDef) : Nat × MaskTable :=
  (t.size, ⟨t.defs ++ [d]⟩)

/-- The definition of a mask. -/
def get? (t : MaskTable) (id : Nat) : Option MaskDef :=
  t.defs[id]?

/-- Drops all but the first `size` masks. -/
def truncate (t : MaskTable) (size : Nat) : MaskTable :=
  ⟨t.defs.take size⟩

/-- The mask that a mask narrows. -/
def parent? (t : MaskTable) (id : Nat) : Option Nat :=
  (t.get? id).bind MaskDef.parent?

/-- A mask and the masks that it narrows, at most `fuel` of them. -/
def ancestors (t : MaskTable) : Nat → Nat → List Nat
  | 0, id => [id]
  | fuel + 1, id =>
    match t.parent? id with
    | none => [id]
    | some parent => id :: t.ancestors fuel parent

/-- The masks from the entry of the region down to a mask. -/
def lineage (t : MaskTable) (id : Nat) : List Nat :=
  (t.ancestors t.size id).reverse

/-- The number of times that a mask was narrowed. -/
def depth (t : MaskTable) (id : Nat) : Nat :=
  (t.lineage id).length - 1

/-- The lanes of a mask, looking at no more than `fuel` definitions. -/
def evaluateWithin (t : MaskTable) (inputs : MaskInputs) :
    Nat → Nat → Except LaneError (Option Mask)
  | 0, _ => .ok none
  | fuel + 1, id =>
    match t.get? id with
    | none => .ok none
    | some d =>
      match d.parent? with
      | none => d.narrow inputs (.none 0)
      | some parent => do
        match ← t.evaluateWithin inputs fuel parent with
        | none => return none
        | some m => d.narrow inputs m

/-- The lanes of a mask. There are none if the mask or an input is missing. -/
def evaluate (t : MaskTable) (inputs : MaskInputs) (id : Nat) : Except LaneError (Option Mask) :=
  t.evaluateWithin inputs (t.size + 1) id

end MaskTable

end Lanewise
