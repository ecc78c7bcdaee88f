import DenseBench.Runner

/-!
# Run configurations

What the user chooses for a benchmark run.
-/

namespace DenseBench

/-- The choices for a benchmark run. -/
structure RunConfig where
  /-- Size class of every kernel. -/
  dataset : DatasetSize
  /-- Number of full passes over the suite. -/
  repetitions : Nat
  /-- Choice of log lines. -/
  logLevel : String
  /-- What to do when a unit reports a failure. -/
  failurePolicy : FailurePolicy
  /-- Names of the units to run; none stand for the whole suite. -/
  units : List String
  deriving DecidableEq, Repr

namespace RunConfig

/-- The choices of a user who makes none. -/
def standard : RunConfig where
  dataset := .standard
  repetitions := 10
  logLevel := "info"
  failurePolicy := .standard
  units := []

/-- The paths of the files in which a configuration is looked for, first choice first. -/
def usualPaths : List String :=
  ["polybench.toml", "polybench.yaml"]

end RunConfig
end DenseBench
