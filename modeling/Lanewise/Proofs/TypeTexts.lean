import Lanewise.LaneType
import Mathlib.Data.List.Basic

/-!
# Reading the text of a type

Listings and messages show types as text, with more text around them. The text of a type needs no mark of its end: it
can be told from what follows, and the type from the text (`SelfDelimiting`).

This is shown for each part of the text. The first word is one of sixteen (`LaneType.Lead`), none of which starts
another. A lane count is a numeral, and the bracket that closes it is no digit. What comes after is the name of a
scalar, or for a channel the text of a smaller type, so the rest is an induction along the channels.
-/

set_option autoImplicit false

namespace Lanewise

/-! ### Codes that need no end mark -/

/-- Whether values can be read from the front of a text: two texts that start with codes of values are the same only if
the values are, and what follows the codes. -/
def SelfDelimiting {α : Type} (code : α → List Char) : Prop :=
  ∀ (a b : α) (r s : List Char), code a ++ r = code b ++ s → a = b ∧ r = s

/-- Codes of which none starts another are self-delimiting. -/
theorem SelfDelimiting.of_isPrefix {α : Type} {code : α → List Char}
    (h : ∀ a b, code a <+: code b → a = b) : SelfDelimiting code := by
  intro a b r s heq
  have hleft : code a <+: code a ++ r := List.prefix_append _ _
  have hright : code b <+: code a ++ r := heq ▸ List.prefix_append _ _
  have hsame : a = b := by
    rcases List.prefix_or_prefix_of_prefix hleft hright with hab | hba
    · exact h a b hab
    · exact (h b a hba).symm
  subst hsame
  exact ⟨rfl, List.append_cancel_left heq⟩

/-! ### Lane counts -/

/-- A numeral before a bracket is what can be read of digits. -/
theorem takeWhile_isDigit_numeral (n : Nat) (rest : List Char) :
    (Nat.toDigits 10 n ++ ']' :: rest).takeWhile Char.isDigit = Nat.toDigits 10 n := by
  have hdigits : ∀ c ∈ Nat.toDigits 10 n, c.isDigit = true := fun c hc =>
    Nat.isDigit_of_mem_toDigits (by decide) (by decide) hc
  rw [List.takeWhile_append_of_pos hdigits, List.takeWhile_cons_of_neg (by decide), List.append_nil]

/-- A numeral before a bracket can be read back, and so can what follows the bracket. -/
theorem numeral_inj {m n : Nat} {r s : List Char}
    (h : Nat.toDigits 10 m ++ ']' :: r = Nat.toDigits 10 n ++ ']' :: s) : m = n ∧ r = s := by
  have hdigits : Nat.toDigits 10 m = Nat.toDigits 10 n := by
    rw [← takeWhile_isDigit_numeral m r, h, takeWhile_isDigit_numeral]
  have hsame : m = n := by
    rw [← @Nat.ofDigitChars_ten_toDigits m, hdigits, Nat.ofDigitChars_ten_toDigits]
  rw [hdigits] at h
  exact ⟨hsame, (List.cons.inj (List.append_cancel_left h)).2⟩

/-- A numeral has digits, so that empty brackets hold none. -/
theorem numeral_ne (n : Nat) (r s : List Char) : Nat.toDigits 10 n ++ ']' :: r ≠ ']' :: s := by
  intro h
  have hdigits : Nat.toDigits 10 n = [] := by
    rw [← takeWhile_isDigit_numeral n r, h, List.takeWhile_cons_of_neg (by decide)]
  exact Nat.toDigits_ne_nil hdigits

namespace Width

/-- What the text of a varying type has between its first word and the name of its elements. -/
def mark : Width → List Char
  | native => [' ']
  | fixed n => '[' :: (Nat.toDigits 10 n ++ [']', ' '])
  | universal => ['[', ']', ' ']

/-- The mark of a fixed count is a numeral in brackets. -/
theorem mark_fixed_append (n : Nat) (rest : List Char) :
    (fixed n).mark ++ rest = '[' :: (Nat.toDigits 10 n ++ ']' :: ' ' :: rest) := by
  simp [mark]

/-- Widths can be read from the front of a text. -/
theorem selfDelimiting_mark : SelfDelimiting mark := by
  intro a b r s h
  cases a with
  | native =>
    cases b with
    | native => exact ⟨rfl, (List.cons.inj h).2⟩
    | fixed | universal => exact absurd (List.cons.inj h).1 (by decide)
  | fixed m =>
    cases b with
    | native => exact absurd (List.cons.inj h).1 (by decide)
    | fixed n =>
      rw [mark_fixed_append, mark_fixed_append] at h
      obtain ⟨rfl, hrest⟩ := numeral_inj (List.cons.inj h).2
      exact ⟨rfl, (List.cons.inj hrest).2⟩
    | universal =>
      rw [mark_fixed_append] at h
      exact absurd (List.cons.inj h).2 (numeral_ne m _ _)
  | universal =>
    cases b with
    | native => exact absurd (List.cons.inj h).1 (by decide)
    | fixed n =>
      rw [mark_fixed_append] at h
      exact absurd (List.cons.inj h.symm).2 (numeral_ne n _ _)
    | universal => exact ⟨rfl, List.append_cancel_left h⟩

end Width

/-! ### First words -/

namespace LaneType

/-- The first word of the text of a type. -/
inductive Lead where
  | void
  | scalar (s : Scalar)
  | varying
  | seq
  | groups
  | chan
  deriving DecidableEq

namespace Lead

/-- The characters of a first word. -/
def chars : Lead → List Char
  | void => "void".toList
  | scalar s => s.name.toList
  | varying => "varying".toList
  | seq => "[]".toList
  | groups => "groups ".toList
  | chan => "chan ".toList

/-- All first words. -/
def all : List Lead :=
  [void, varying, seq, groups, chan] ++ Scalar.all.map scalar

/-- Every first word is listed. -/
theorem mem_all (lead : Lead) : lead ∈ all := by
  cases lead with
  | scalar s => cases s <;> decide
  | void | varying | seq | groups | chan => decide

/-- First words can be read from the front of a text. -/
theorem selfDelimiting_chars : SelfDelimiting chars := by
  have hwords : ∀ a ∈ all, ∀ b ∈ all, a.chars <+: b.chars → a = b := by decide +kernel
  exact SelfDelimiting.of_isPrefix fun a b => hwords a (mem_all a) b (mem_all b)

end Lead

/-- Names of scalars can be read from the front of a text. -/
theorem selfDelimiting_name : SelfDelimiting fun s : Scalar => s.name.toList := by
  intro a b r s h
  obtain ⟨hlead, hrest⟩ := Lead.selfDelimiting_chars (.scalar a) (.scalar b) r s h
  exact ⟨Lead.scalar.inj hlead, hrest⟩

/-- The first word of the text of a type. -/
def lead : LaneType → Lead
  | void => .void
  | uniform s => .scalar s
  | varying .. => .varying
  | seq _ => .seq
  | groups _ => .groups
  | chan _ => .chan

/-- The text of a type after its first word. -/
def afterLead : LaneType → List Char
  | void => []
  | uniform _ => []
  | varying s w => w.mark ++ s.name.toList
  | seq s => s.name.toList
  | groups s => s.name.toList
  | chan t => t.text.toList

/-- The text of a type is its first word and what comes after it. -/
theorem toList_text (t : LaneType) : t.text.toList = t.lead.chars ++ t.afterLead := by
  cases t with
  | void => rfl
  | uniform s => exact (List.append_nil _).symm
  | varying s w =>
    cases w with
    | native => exact String.toList_append
    | fixed n =>
      have hopen : "varying[".toList = "varying".toList ++ ['['] := rfl
      have hclose : "] ".toList = [']', ' '] := rfl
      show ("varying[" ++ toString n ++ "] " ++ s.name).toList =
        "varying".toList ++ ('[' :: (Nat.toDigits 10 n ++ [']', ' ']) ++ s.name.toList)
      rw [String.toList_append, String.toList_append, String.toList_append, Nat.toString_eq_repr, Nat.toList_repr,
        hopen, hclose]
      simp only [List.append_assoc, List.cons_append, List.nil_append]
    | universal => exact String.toList_append
  | seq s | groups s | chan t => exact String.toList_append

/-- Types whose texts start the same text have the same first word, and the rest of the text is the same. -/
theorem lead_eq_of_text {a b : LaneType} {r s : List Char} (h : a.text.toList ++ r = b.text.toList ++ s) :
    a.lead = b.lead ∧ a.afterLead ++ r = b.afterLead ++ s := by
  rw [toList_text, toList_text, List.append_assoc, List.append_assoc] at h
  exact Lead.selfDelimiting_chars _ _ _ _ h

/-- The text of a type can be told from what follows, and the type from its text. -/
theorem selfDelimiting_text : SelfDelimiting fun t : LaneType => t.text.toList := by
  intro a
  induction a with
  | void | uniform e =>
    intro b r s h
    obtain ⟨hlead, hrest⟩ := lead_eq_of_text h
    cases b <;> cases hlead
    exact ⟨rfl, hrest⟩
  | varying e w =>
    intro b r s h
    obtain ⟨hlead, hrest⟩ := lead_eq_of_text h
    cases b <;> cases hlead
    rw [afterLead, afterLead, List.append_assoc, List.append_assoc] at hrest
    obtain ⟨rfl, hname⟩ := Width.selfDelimiting_mark _ _ _ _ hrest
    obtain ⟨rfl, hafter⟩ := selfDelimiting_name _ _ _ _ hname
    exact ⟨rfl, hafter⟩
  | seq e | groups e =>
    intro b r s h
    obtain ⟨hlead, hrest⟩ := lead_eq_of_text h
    cases b <;> cases hlead
    obtain ⟨rfl, hafter⟩ := selfDelimiting_name _ _ _ _ hrest
    exact ⟨rfl, hafter⟩
  | chan t ih =>
    intro b r s h
    obtain ⟨hlead, hrest⟩ := lead_eq_of_text h
    cases b <;> cases hlead
    obtain ⟨rfl, hafter⟩ := ih _ r s hrest
    exact ⟨rfl, hafter⟩

/-- A type can be read in a text that shows it, whatever follows. -/
theorem text_append_inj {t₁ t₂ : LaneType} {after₁ after₂ : String} :
    t₁.text ++ after₁ = t₂.text ++ after₂ ↔ t₁ = t₂ ∧ after₁ = after₂ := by
  constructor
  · intro h
    have hchars := congrArg String.toList h
    rw [String.toList_append, String.toList_append] at hchars
    obtain ⟨hsame, hafter⟩ := selfDelimiting_text _ _ _ _ hchars
    exact ⟨hsame, String.toList_inj.1 hafter⟩
  · rintro ⟨rfl, rfl⟩
    rfl

/-- The text of a type determines the type. No two types are shown by the same text, no two lists of types, such as the
parameters of signatures, by the same list of texts, and no two types by messages that say the same up to the place
where they show the type. -/
theorem shown_alike_iff :
    (∀ t₁ t₂ : LaneType, t₁.text = t₂.text ↔ t₁ = t₂) ∧
    (∀ ts us : List LaneType, ts.map text = us.map text ↔ ts = us) ∧
    ∀ (t₁ t₂ : LaneType) (before after₁ after₂ : String),
      before ++ t₁.text ++ after₁ = before ++ t₂.text ++ after₂ ↔ t₁ = t₂ ∧ after₁ = after₂ := by
  have hinj : ∀ t₁ t₂ : LaneType, t₁.text = t₂.text → t₁ = t₂ := by
    intro t₁ t₂ h
    have hempty : t₁.text ++ "" = t₂.text ++ "" := by rw [h]
    exact (text_append_inj.1 hempty).1
  refine ⟨fun t₁ t₂ => ⟨hinj t₁ t₂, congrArg text⟩, fun ts us => ?_, fun t₁ t₂ before after₁ after₂ => ?_⟩
  · exact (List.map_injective_iff.2 hinj).eq_iff
  · rw [String.append_assoc, String.append_assoc, String.append_right_inj, text_append_inj]

end LaneType

end Lanewise
