import Lanewise.Scalar
import Lanewise.Width

/-!
# Targets

The native shape of the machine that a program is compiled for: the width of its vector registers. A
few targets have names; others are described by a configuration, which has to name a sensible register
width.
-/

set_option autoImplicit false

namespace Lanewise

/-- A compilation target. -/
structure Target where
  name : String
  registerBits : Nat
  deriving DecidableEq, Inhabited

/-- Why a target cannot be configured. -/
inductive ConfigFault where
  /-- The configuration file cannot be read. -/
  | unreadable
  /-- The configuration is not a document with a `target` table of the right shape. -/
  | malformed
  /-- The configuration starts from a preset that does not exist. -/
  | unknownPreset (name : String)
  /-- The configuration says nothing about the register width. -/
  | incomplete
  /-- The register width is not a power of two, or too small or too large. -/
  | registerBits (bits : Nat)
  /-- The text is neither the name of a preset nor the path of a file. -/
  | unknownTarget (value : String)
  deriving DecidableEq

/-- The text of a fault. -/
def ConfigFault.message : ConfigFault → String
  | unreadable => "failed to read target config"
  | malformed => "invalid target config"
  | unknownPreset name => s!"unknown target preset '{name}'"
  | incomplete => "target needs either 'preset' or 'register_bits'"
  | registerBits bits =>
    s!"register_bits must be a power of two between 64 and {registerLimit}, got {bits}"
  | unknownTarget value => s!"'{value}' is neither a target preset nor a config file"

/-- A fault and the path of the configuration that has it, if it came from a file. -/
structure ConfigError where
  fault : ConfigFault
  path : Option String
  deriving DecidableEq

/-- The full text of a configuration error. -/
def ConfigError.text (e : ConfigError) : String :=
  "target config error: " ++ e.fault.message

namespace Target

/-- The targets that are known by name. -/
def presets : List Target :=
  [⟨"sse4", 128⟩, ⟨"neon", 128⟩, ⟨"wasm-simd128", 128⟩, ⟨"avx2", 256⟩, ⟨"avx512", 512⟩]

/-- The preset with a given name. -/
def preset? (name : String) : Option Target :=
  presets.find? fun t => t.name == name

/-- The target of a program that names none. -/
def standard : Target :=
  ⟨"avx2", 256⟩

/-- The native lane count for elements of type `s`. A boolean takes a byte of the register. -/
def laneWidth (t : Target) (s : Scalar) : Nat :=
  t.registerBits / max s.bits 8

/-- Whether a number is a power of two. -/
def isPowerOfTwo (n : Nat) : Bool :=
  n ≠ 0 && Nat.pow 2 n.log2 = n

/-- Whether a register width is acceptable: a power of two between 64 and the register limit. -/
def acceptable (bits : Nat) : Bool :=
  isPowerOfTwo bits && 64 ≤ bits && bits ≤ registerLimit

/-- Accepts a target only if its register width is acceptable. -/
def validate (t : Target) (path : Option String) : Except ConfigError Target :=
  if acceptable t.registerBits then .ok t
  else .error { fault := .registerBits t.registerBits, path }

/-- A target with a given name and register width. -/
def make (name : String) (registerBits : Nat) : Except ConfigError Target :=
  validate { name, registerBits } none

end Target

end Lanewise
