import DenseBench.Kernel.Suite

/-!
# Benchmark units

A unit is a named piece of work.  It is called with a size class and answers with a status; a
status other than zero reports a failure.  A unit may depend on a world that earlier calls have
changed, and a call may fail to come back with a status.
-/

namespace DenseBench

/-- How a call of a unit ends. -/
inductive Outcome where
  | returned (status : Int32)
  | panicked
  deriving DecidableEq, Repr

namespace Outcome

/-- A fault breaks the call off. -/
def ofChecked : Checked Int32 → Outcome
  | .ok status => returned status
  | .error _ => panicked

end Outcome

/-- A named piece of work in a world of type `σ`. -/
structure BenchmarkUnit (σ : Type) where
  /-- The name, by which records refer to the unit. -/
  name : String
  /-- The work: how the call ends, and the world after it. -/
  call : DatasetSize → σ → Outcome × σ

namespace BenchmarkUnit

/-- A kernel as a unit; it leaves the world alone. -/
def ofKernel {σ : Type} (entry : Kernel.Entry) : BenchmarkUnit σ where
  name := entry.name
  call size world := (Outcome.ofChecked (entry.run size), world)

end BenchmarkUnit
end DenseBench
