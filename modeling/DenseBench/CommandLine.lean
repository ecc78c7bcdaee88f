import DenseBench.Log.Filter
import DenseBench.RunConfig.Loading
import DenseBench.Runner

/-!
# The command line

The program loads its configuration, runs the units that it names and ends with an exit code.
Without a usable configuration it goes by the standard one and says so.  What is shown of the log
follows an environment variable, or else the configuration.
-/

namespace DenseBench
namespace CommandLine

/-- What the program leaves behind. -/
structure Finished (σ : Type) where
  /-- The exit code. -/
  exitCode : Int32
  /-- The lines of the log that are shown. -/
  log : List Log.Line
  /-- The report of the run, if there was one that came to its end. -/
  report : Option Report
  /-- The world that the units have left. -/
  world : σ
  deriving DecidableEq, Repr

/-- The part of the program that the lines of this module come from. -/
def target : String :=
  "polybench"

/-- The environment variable that chooses the log lines. -/
def filterVariable : String :=
  "POLYBENCH_LOG"

/-- The exit code after a request that cannot be carried out. -/
def refused : Int32 := 2

/-- The exit code after a panic. -/
def panicked : Int32 := 101

/-- The configuration in effect, with a warning if it is not the one that was asked for. -/
def configure {ν ε : Type} (library : Settings.Library ν ε) (surroundings : Surroundings) :
    RunConfig × List Log.Line :=
  match library.load surroundings with
  | .ok config => (config, [])
  | .error error =>
    (.standard,
      [⟨.warn, target, "Could not load configuration, using defaults: " ++ library.message error⟩])

/-- The choice of log lines in effect. -/
def filter (surroundings : Surroundings) (config : RunConfig) : Log.Filter :=
  .parse ((surroundings.environment.lookup filterVariable).getD config.logLevel)

/-- The line before a run. -/
def announcement (units : Nat) (config : RunConfig) : Log.Line :=
  ⟨.info, target, "PolyBench: " ++ toString units ++ " units, " ++ toString config.repetitions ++
    " passes, dataset " ++ config.dataset.name⟩

/-- The lines after a run. -/
def summary (report : Report) : List Log.Line :=
  let halted : List Log.Line :=
    if report.haltedEarly then
      [⟨.warn, target, "Run halted after " ++ toString report.passesCompleted ++ " passes"⟩]
    else []
  halted ++ [⟨.info, target, "Completed " ++ toString report.invocations ++ " invocations (" ++
    toString report.failureCount ++ " reported failure)"⟩]

variable {σ : Type}

/-- The runner that a configuration asks for. -/
def runner (config : RunConfig) (registry : Registry σ) : Runner σ :=
  (Runner.new registry config.dataset).withPolicy config.failurePolicy

/-- What a configuration brings about over a suite of units, with all lines of the log. -/
def performOn (suite : Registry σ) (config : RunConfig) (world : σ) : Finished σ :=
  match suite.select config.units with
  | .error error => ⟨refused, [⟨.error, target, error.message⟩], none, world⟩
  | .ok registry =>
    let run := (runner config registry).run config.repetitions world
    let selection := (Event.ofSelection config.units registry).map Event.line
    let events := run.events.toList.map Event.line
    let log := selection ++ announcement registry.size config :: events
    match run.report with
    | some report => ⟨report.exitCode, log ++ summary report, some report, run.world⟩
    | none => ⟨panicked, log, none, run.world⟩

/-- What a configuration brings about, with all lines of the log. -/
def perform (config : RunConfig) : Finished Unit :=
  performOn .standard config ()

/-- The program with a library of settings and a suite of units. -/
def runWith {ν ε : Type} (library : Settings.Library ν ε) (suite : Registry σ)
    (surroundings : Surroundings) (world : σ) : Finished σ :=
  let (config, warnings) := configure library surroundings
  let filter := filter surroundings config
  let finished := performOn suite config world
  { finished with log := (warnings ++ finished.log).filter filter.admits }

/-- The whole program. -/
def run (surroundings : Surroundings) : Finished Unit :=
  runWith .standard .standard surroundings ()

end CommandLine
end DenseBench
