import DenseBench.Log
import DenseBench.Registry
import DenseBench.Report

/-!
# Runners

A runner owns a registry and repeats passes over it at one size class.  Units are called one after
the other; what a unit does to the world is there for the next one.  Under the policy `failFast` the
first failure ends the run, unless nothing is left to skip.  A unit that panics ends the run at once
and leaves the runner marked as running, without a report.
-/

namespace DenseBench

/-- What to do when a unit reports a failure. -/
inductive FailurePolicy where
  /-- Record the failure and go on. -/
  | keepGoing
  /-- End the run at the first failure. -/
  | failFast
  deriving DecidableEq, Repr

namespace FailurePolicy

/-- All policies. -/
def all : List FailurePolicy :=
  [keepGoing, failFast]

/-- The policy that is used when none is chosen. -/
def standard : FailurePolicy := keepGoing

/-- The name of a policy. -/
def name : FailurePolicy → String
  | keepGoing => "continue"
  | failFast => "fail_fast"

/-- The policy with exactly this name. -/
def ofName? (text : String) : Option FailurePolicy :=
  all.find? fun policy => policy.name == text

end FailurePolicy

/-- What is worth a log line while units are selected and run. -/
inductive Event where
  | selected (count : Nat)
  | runStarted (units repetitions : Nat) (dataset : DatasetSize)
  | invoking (pass : Nat) (unit : String)
  | failed (unit : String) (status : Int32) (pass : Nat)
  | runFinished (invocations failures : Nat)
  deriving DecidableEq, Repr

namespace Event

/-- How urgent an event is. -/
def level : Event → Log.Level
  | selected _ => .debug
  | runStarted .. => .debug
  | invoking .. => .trace
  | failed .. => .warn
  | runFinished .. => .debug

/-- The part of the program that an event belongs to. -/
def target : Event → String
  | selected _ => "polybench::benchmark::registry"
  | _ => "polybench::benchmark::runner"

/-- The text of an event. -/
def message : Event → String
  | selected count => "Selected " ++ toString count ++ " benchmark units"
  | runStarted units repetitions dataset =>
    "Running " ++ toString units ++ " units x " ++ toString repetitions ++ " passes at " ++
      dataset.name
  | invoking pass unit => "pass " ++ toString pass ++ ": " ++ unit
  | failed unit status pass =>
    unit ++ " returned status " ++ toString status.toInt ++ " in pass " ++ toString pass
  | runFinished invocations failures =>
    "Run finished: " ++ toString invocations ++ " invocations, " ++ toString failures ++
      " failures"

/-- The log line of an event. -/
def line (event : Event) : Log.Line :=
  ⟨event.level, event.target, event.message⟩

/-- The events of a successful selection; one without names is not mentioned. -/
def ofSelection {σ : Type} (wanted : List String) (selection : Registry σ) : List Event :=
  if wanted.isEmpty then [] else [selected selection.size]

/-- A log that is told of events where they happen. -/
class Sink (τ : Type) where
  /-- The log after one more event. -/
  tell : τ → Event → τ

/-- The log that keeps all events in order. -/
instance : Sink (Array Event) where
  tell := Array.push

@[simp]
theorem tell_array (events : Array Event) (event : Event) :
    Sink.tell events event = events.push event := rfl

theorem toList_foldl_tell (later : List Event) (events : Array Event) :
    (later.foldl Sink.tell events).toList = events.toList ++ later := by
  induction later generalizing events with
  | nil => simp
  | cons event later ih => simp [ih]

end Event

/-- Whether a run is under way. -/
inductive RunnerState where
  /-- No run is under way. -/
  | idle
  /-- A run was begun and has not come to its end. -/
  | running
  deriving DecidableEq, Repr

namespace RunnerState

/-- The name of a state. -/
def name : RunnerState → String
  | idle => "Idle"
  | running => "Running"

end RunnerState

/-- A registry with the choices for its runs. -/
structure Runner (σ : Type) where
  /-- The units of every pass. -/
  registry : Registry σ
  /-- The size class of every call. -/
  dataset : DatasetSize
  /-- What to do when a unit reports a failure. -/
  policy : FailurePolicy
  /-- Whether a run is under way. -/
  state : RunnerState

namespace Runner

variable {σ τ : Type}

/-- A runner that has not run yet. -/
def new (registry : Registry σ) (dataset : DatasetSize) : Runner σ :=
  ⟨registry, dataset, .standard, .idle⟩

/-- The runner with another policy. -/
def withPolicy (runner : Runner σ) (policy : FailurePolicy) : Runner σ :=
  { runner with policy }

/-- What a run has brought about so far. -/
structure Progress (σ : Type) (τ : Type := Array Event) where
  /-- The invocations so far. -/
  report : Report
  /-- The events so far. -/
  events : τ
  /-- The world that the calls have left. -/
  world : σ

/-- How a part of a run ends. -/
inductive Course (σ : Type) (τ : Type := Array Event) where
  /-- The run goes on. -/
  | ongoing (progress : Progress σ τ)
  /-- A failure has ended the run. -/
  | halted (progress : Progress σ τ)
  /-- A unit has panicked. -/
  | panicked (progress : Progress σ τ)

/-- The number of invocations that a run of so many passes may make.  A machine word of 64 bits
holds it as long as it is less than `UInt64.size`. -/
def total (runner : Runner σ) (repetitions : Nat) : Nat :=
  repetitions * runner.registry.size

/-- The product of machine words is the number of invocations, if it fits. -/
theorem toNat_mul_eq_total {runner : Runner σ} {repetitions : Nat}
    (fits : runner.total repetitions < UInt64.size) :
    (UInt64.ofNat repetitions * UInt64.ofNat runner.registry.size).toNat =
      runner.total repetitions := by
  rw [UInt64.toNat_mul, UInt64.toNat_ofNat', UInt64.toNat_ofNat', ← Nat.mul_mod]
  exact Nat.mod_eq_of_lt fits

section Telling

variable [Event.Sink τ]

/-- Call one unit in one pass and take note of what it returned.  A failure halts the run if the
policy says so and fewer than `total` invocations have been made. -/
def invoke (runner : Runner σ) (total pass : Nat) (unit : BenchmarkUnit σ)
    (progress : Progress σ τ) : Course σ τ :=
  let ⟨report, events, world⟩ := progress
  let events := Event.Sink.tell events (.invoking pass unit.name)
  match unit.call runner.dataset world with
  | (.panicked, world) => .panicked ⟨report, events, world⟩
  | (.returned status, world) =>
    let report := report.record unit.name pass status
    if status = 0 then .ongoing ⟨report, events, world⟩
    else
      let events := Event.Sink.tell events (.failed unit.name status pass)
      if runner.policy = .failFast ∧ report.invocations < total then
        .halted ⟨{ report with haltedEarly := true }, events, world⟩
      else .ongoing ⟨report, events, world⟩

/-- Call units one after the other in one pass, as long as the run goes on. -/
def runUnits (runner : Runner σ) (total pass : Nat) :
    List (BenchmarkUnit σ) → Progress σ τ → Course σ τ
  | [], progress => .ongoing progress
  | unit :: rest, progress =>
    match runner.invoke total pass unit progress with
    | .ongoing next => runUnits runner total pass rest next
    | stopped => stopped

/-- Go through `count` passes from the pass `pass` on, as long as the run goes on. -/
def runPasses (runner : Runner σ) (total : Nat) : Nat → Nat → Progress σ τ → Course σ τ
  | 0, _, progress => .ongoing progress
  | count + 1, pass, progress =>
    match runner.runUnits total pass runner.registry.units progress with
    | .ongoing next => runPasses runner total count (pass + 1) next
    | stopped => stopped

/-- A run that is over. -/
structure Run (σ : Type) (τ : Type := Array Event) where
  /-- The report, unless a unit panicked. -/
  report : Option Report
  /-- The runner after the run. -/
  runner : Runner σ
  /-- The events of the run. -/
  events : τ
  /-- The world after the run. -/
  world : σ

/-- Close a run that comes to its end: the last event is the summary of the report. -/
def finish (runner : Runner σ) (progress : Progress σ τ) : Run σ τ :=
  let ⟨report, events, world⟩ := progress
  { report := some report
    runner := { runner with state := .idle }
    events := Event.Sink.tell events (.runFinished report.invocations report.failureCount)
    world }

/-- Close a run, however it ends.  A runner whose unit has panicked is left as it is. -/
def close (runner : Runner σ) : Course σ τ → Run σ τ
  | .ongoing progress => runner.finish progress
  | .halted progress => runner.finish progress
  | .panicked progress =>
    { report := none
      runner := { runner with state := .running }
      events := progress.events
      world := progress.world }

/-- Run so many full passes over the registry, and tell a log of it.  Passes over a registry without
units do nothing, so they are not gone through. -/
def runTelling (runner : Runner σ) (repetitions : Nat) (world : σ) (log : τ) : Run σ τ :=
  let units := runner.registry.size
  let begun : Progress σ τ :=
    { report := .start runner.dataset repetitions units
      events := Event.Sink.tell log (.runStarted units repetitions runner.dataset)
      world }
  let passes := if runner.registry.isEmpty then 0 else repetitions
  runner.close (runner.runPasses (runner.total repetitions) passes 0 begun)

end Telling

/-- Run so many full passes over the registry, and collect the events. -/
def run (runner : Runner σ) (repetitions : Nat) (world : σ) : Run σ :=
  runner.runTelling repetitions world #[]

@[simp]
theorem runTelling_empty (runner : Runner σ) (repetitions : Nat) (world : σ) :
    runner.runTelling repetitions world #[] = runner.run repetitions world := rfl

end Runner
end DenseBench
