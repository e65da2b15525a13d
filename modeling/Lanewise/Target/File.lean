import Lanewise.Target
import Lanewise.Toml.Reader

/-!
# Target files

A target may be described by a file with a table `target`. It starts from a preset or gives a register
width, and may change the width and the name of a preset.
-/

set_option autoImplicit false

namespace Lanewise

/-- What a target file says. -/
structure TargetDescription where
  preset : Option String
  name : Option String
  registerBits : Option Nat

namespace TargetDescription

/-- A string, if it is one. -/
def string? : Toml.Value → Option String
  | .string s => some s
  | _ => none

/-- A 32-bit natural number, if it is one. -/
def word32? : Toml.Value → Option Nat
  | .integer n => if 0 ≤ n ∧ n < UInt32.size then some n.toNat else none
  | _ => none

/-- A component that may be missing, but is of the right form if it is there. -/
def component? {α : Type} (read : Toml.Value → Option α) (entries : Toml.Entries) (key : String) :
    Option (Option α) :=
  match entries.lookup key with
  | none => some none
  | some v => (read v).map some

/-- The description in a table. Other keys are passed over. -/
def ofEntries? (entries : Toml.Entries) : Option TargetDescription := do
  return {
    preset := ← component? string? entries "preset"
    name := ← component? string? entries "name"
    registerBits := ← component? word32? entries "register_bits" }

/-- The description that a value gives: a table of its components, or their list in order. A date is a
table that has none of them. -/
def ofValue? : Toml.Value → Option TargetDescription
  | .table _ entries => ofEntries? entries
  | .dateTime _ => ofEntries? []
  | .array (preset :: name :: registerBits :: _) => do
    return {
      preset := some (← string? preset)
      name := some (← string? name)
      registerBits := some (← word32? registerBits) }
  | _ => none

/-- The description in a file. -/
def ofText? (text : String) : Option TargetDescription := do
  let entries ← Toml.Document.ofText? text
  ofValue? (← entries.lookup "target")

end TargetDescription

/-- The files that can be read, by their paths. -/
abbrev Files := String → Option ByteArray

namespace Target

/-- The target that a description starts from. -/
def base (d : TargetDescription) (path : Option String) : Except ConfigError Target :=
  match d.preset with
  | some name =>
    match preset? name with
    | some t => .ok { t with registerBits := d.registerBits.getD t.registerBits }
    | none => .error { fault := .unknownPreset name, path }
  | none =>
    match d.registerBits with
    | some bits => .ok { name := "custom", registerBits := bits }
    | none => .error { fault := .incomplete, path }

/-- The target that a file describes. -/
def ofText (text : String) (path : Option String) : Except ConfigError Target :=
  match TargetDescription.ofText? text with
  | none => .error { fault := .malformed, path }
  | some d => do
    let t ← base d path
    validate { t with name := d.name.getD t.name } path

/-- The target that the file at a path describes. -/
def load (files : Files) (path : String) : Except ConfigError Target :=
  match (files path).bind String.fromUTF8? with
  | none => .error { fault := .unreadable, path := some path }
  | some text => ofText text (some path)

/-- The target that a text names: a preset, or a file. -/
def resolve (files : Files) (value : String) : Except ConfigError Target :=
  match preset? value with
  | some t => .ok t
  | none =>
    if (files value).isSome then load files value
    else .error { fault := .unknownTarget value, path := none }

/-- The target that a setting names; the standard target if it is not set. -/
def ofSetting (files : Files) : Option String → Except ConfigError Target
  | some value => resolve files value
  | none => .ok standard

end Target

end Lanewise
