import DenseBench.BenchmarkUnit
import DenseBench.Text.Quoted

/-!
# Registries

A registry keeps units in the order of their registration, which is the order of invocation within a
pass.  Names are compared exactly, and no name is registered twice.
-/

namespace DenseBench

/-- Why a registry refuses a request. -/
inductive RegistryError where
  | duplicateUnit (name : String)
  | unknownUnit (name : String) (available : List String)
  deriving DecidableEq, Repr

namespace RegistryError

/-- The wording of an error. -/
def message : RegistryError → String
  | duplicateUnit name => "benchmark unit '" ++ name ++ "' is already registered"
  | unknownUnit name available =>
    "unknown benchmark unit '" ++ name ++ "' (available: " ++ ", ".intercalate available ++ ")"

end RegistryError

/-- Units in the order of registration. -/
structure Registry (σ : Type) where
  /-- The units. -/
  units : List (BenchmarkUnit σ)

namespace Registry

variable {σ : Type}

/-- The registry without units. -/
def empty : Registry σ :=
  ⟨[]⟩

/-- The registry of the whole suite. -/
def standard : Registry σ :=
  ⟨Kernel.suite.map BenchmarkUnit.ofKernel⟩

/-- The names in order. -/
def names (registry : Registry σ) : List String :=
  registry.units.map BenchmarkUnit.name

/-- The number of units. -/
def size (registry : Registry σ) : Nat :=
  registry.units.length

/-- Whether there is no unit. -/
def isEmpty (registry : Registry σ) : Bool :=
  registry.units.isEmpty

/-- Whether a name is registered. -/
def contains (registry : Registry σ) (name : String) : Bool :=
  registry.units.any fun unit => unit.name == name

/-- Add a unit at the end, unless its name is taken. -/
def register (registry : Registry σ) (unit : BenchmarkUnit σ) :
    Except RegistryError (Registry σ) :=
  if registry.contains unit.name then .error (.duplicateUnit unit.name)
  else .ok ⟨registry.units ++ [unit]⟩

/-- Keep the units with the given names, in the order of the registry.  No names keep every unit; a
name that is not registered is an error. -/
def select (registry : Registry σ) (wanted : List String) : Except RegistryError (Registry σ) :=
  if wanted.isEmpty then .ok registry
  else match wanted.find? fun name => !registry.contains name with
    | some name => .error (.unknownUnit name registry.names)
    | none => .ok ⟨registry.units.filter fun unit => wanted.contains unit.name⟩

/-- The whole registry as text, by the names of its units. -/
def describe (registry : Registry σ) : String :=
  let unit (name : String) := "BenchmarkUnit \x7b name: " ++ Text.quoted name ++ " \x7d"
  "Registry \x7b units: [" ++ ", ".intercalate (registry.names.map unit) ++ "] \x7d"

/-- No name is registered twice. -/
def DistinctNames (registry : Registry σ) : Prop :=
  registry.names.Nodup

instance (registry : Registry σ) : Decidable registry.DistinctNames :=
  inferInstanceAs (Decidable registry.names.Nodup)

theorem contains_iff (registry : Registry σ) (name : String) :
    registry.contains name = true ↔ name ∈ registry.names := by
  simp [contains, names]

end Registry
end DenseBench
