/-!
# Finite maps

Finite maps as lists of entries, with at most one entry for each key. Inserting under a key replaces
what was there.
-/

set_option autoImplicit false

namespace Lanewise

/-- A finite map from keys to values. -/
structure Assoc (κ α : Type) where
  entries : List (κ × α)

/-- A finite map from names. -/
abbrev NameMap (α : Type) := Assoc String α

namespace Assoc

variable {κ α : Type} [DecidableEq κ]

/-- The map without entries. -/
def empty : Assoc κ α := ⟨[]⟩

/-- The value under a key. -/
def find? (m : Assoc κ α) (key : κ) : Option α :=
  m.entries.lookup key

/-- Whether there is a value under a key. -/
def contains (m : Assoc κ α) (key : κ) : Bool :=
  (m.find? key).isSome

/-- Puts a value under a key, in place of any value that was there. -/
def insert (m : Assoc κ α) (key : κ) (value : α) : Assoc κ α :=
  ⟨(key, value) :: m.entries.filter fun entry => entry.1 != key⟩

/-- The map of the given entries; later entries replace earlier ones. -/
def ofList (entries : List (κ × α)) : Assoc κ α :=
  entries.foldl (fun m entry => m.insert entry.1 entry.2) empty

/-- The empty map has no entry. -/
@[simp] theorem find?_empty (key : κ) : (empty : Assoc κ α).find? key = none := rfl

/-- Removing the entries of another key does not change what is found. -/
private theorem lookup_filter_ne {entries : List (κ × α)} {key other : κ} (h : key ≠ other) :
    (entries.filter fun entry => entry.1 != other).lookup key = entries.lookup key := by
  induction entries with
  | nil => rfl
  | cons entry rest ih =>
    obtain ⟨k, v⟩ := entry
    by_cases hk : k = other
    · subst hk
      have hne : (key == k) = false := by simpa using h
      simp [List.lookup_cons, hne, ih]
    · have hkeep : (k != other) = true := by simpa using hk
      simp only [List.filter_cons, hkeep, if_true, List.lookup_cons]
      cases key == k <;> simp [ih]

/-- A look-up after an insertion finds the new value under the new key and the old values under all
others. -/
theorem find?_insert (m : Assoc κ α) (key other : κ) (value : α) :
    (m.insert key value).find? other = if other = key then some value else m.find? other := by
  by_cases h : other = key
  · subst h
    simp [find?, insert]
  · have hne : (other == key) = false := by simpa using h
    simp only [find?, insert, List.lookup_cons, hne, if_neg h]
    exact lookup_filter_ne h

end Assoc

end Lanewise
