import DenseBench.Runner

/-!
# Logging on the way

A run tells its log of every event on the spot, between its calls, and the log may do with an event
whatever it likes.  Step by step the run stays the same as with the log that collects all events, so
that nothing but the log itself depends on the log (`runTelling_eq`).
-/

namespace DenseBench
namespace Runner

variable {σ τ : Type} [Event.Sink τ] (log : τ)

/-- A log that has been told the events so far. -/
def Progress.told (progress : Progress σ) : Progress σ τ :=
  ⟨progress.report, progress.events.foldl Event.Sink.tell log, progress.world⟩

def Course.told : Course σ → Course σ τ
  | ongoing progress => .ongoing (progress.told log)
  | halted progress => .halted (progress.told log)
  | panicked progress => .panicked (progress.told log)

def Run.told (run : Run σ) : Run σ τ :=
  ⟨run.report, run.runner, run.events.foldl Event.Sink.tell log, run.world⟩

variable (runner : Runner σ)

/-- One step: the log learns what is collected otherwise, and nothing else changes. -/
theorem invoke_told (total pass : Nat) (unit : BenchmarkUnit σ) (progress : Progress σ) :
    runner.invoke total pass unit (progress.told log) =
      (runner.invoke total pass unit progress).told log := by
  obtain ⟨report, events, world⟩ := progress
  simp only [invoke, Progress.told]
  generalize unit.call runner.dataset world = reply
  obtain ⟨outcome, after⟩ := reply
  cases outcome with
  | panicked => simp [Course.told, Progress.told]
  | returned status =>
      -- the log has no part in the two choices
      simp only [apply_ite (Course.told log)]
      simp [Course.told, Progress.told]

theorem runUnits_told (total pass : Nat) (units : List (BenchmarkUnit σ))
    (progress : Progress σ) :
    runner.runUnits total pass units (progress.told log) =
      (runner.runUnits total pass units progress).told log := by
  induction units generalizing progress with
  | nil => rfl
  | cons unit rest ih =>
      rw [runUnits, runUnits, invoke_told]
      cases runner.invoke total pass unit progress with
      | ongoing next => exact ih next
      | halted => rfl
      | panicked => rfl

theorem runPasses_told (total count pass : Nat) (progress : Progress σ) :
    runner.runPasses total count pass (progress.told log) =
      (runner.runPasses total count pass progress).told log := by
  induction count generalizing pass progress with
  | zero => rfl
  | succ count ih =>
      rw [runPasses, runPasses, runUnits_told]
      cases runner.runUnits total pass runner.registry.units progress with
      | ongoing next => exact ih (pass + 1) next
      | halted => rfl
      | panicked => rfl

theorem close_told (course : Course σ) :
    runner.close (course.told log) = (runner.close course).told log := by
  cases course <;> simp [Course.told, Progress.told, Run.told, close, finish]

/-- A run does the same whatever its log, and the log has been told its events in order. -/
theorem runTelling_eq (repetitions : Nat) (world : σ) :
    runner.runTelling repetitions world log = (runner.run repetitions world).told log := by
  have begun_told (begun : Event) (report : Report) :
      (⟨report, Event.Sink.tell log begun, world⟩ : Progress σ τ) =
        (⟨report, #[begun], world⟩ : Progress σ).told log := by
    simp [Progress.told]
  rw [runTelling, begun_told, runPasses_told, close_told]
  rfl

end Runner
end DenseBench
