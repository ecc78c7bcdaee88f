import DenseBench.Proofs.Runner.Stateless
import DenseBench.Proofs.Session.Reach

/-!
# Runs without a history

What a session did before a run is left in the positions of the scripts and in the state of the
runner.  A run over stateless units reads neither, so its report is the same after all histories.
-/

namespace DenseBench

namespace Script

theorem stateless_bySize (table : Vector Int32 5) (number : Nat) (name : String) :
    ((bySize table).unit number name).Stateless fun size => size.pick table :=
  fun _ _ => rfl

theorem stateless_kernel {entry : Kernel.Entry} (member : entry ∈ Kernel.suite) (number : Nat)
    (name : String) : ((kernel entry).unit number name).Stateless fun _ => 0 :=
  fun dataset world => BenchmarkUnit.stateless_ofKernel member dataset world

end Script

namespace Runner

variable {σ τ : Type}

/-- A runner that has come to the end of a run is idle, and unchanged otherwise. -/
theorem runner_run_of_report {runner : Runner σ} {repetitions : Nat} {world : σ} {report : Report}
    (finished : (runner.run repetitions world).report = some report) :
    (runner.run repetitions world).runner = { runner with state := .idle } := by
  obtain ⟨calm, -⟩ := report_run_eq_some_iff.mp finished
  rw [runner_run, calm]
  rfl

/-- The state of a runner is not among the things that make two runners alike. -/
theorem Alike.withState {left : Runner σ} {right : Runner τ} (alike : left.Alike right)
    (state : RunnerState) : Runner.Alike { left with state } right :=
  ⟨alike.units, alike.dataset, alike.policy⟩

end Runner

namespace Session

variable {session : Session} {runner : Runner ScriptWorld} {repetitions : Nat} {report : Report}

/-- A run that comes to its end is answered by its report, which is kept. -/
theorem step_run_of_report (limit : Log.Limit) (present : session.runner = some runner)
    (finished : (runner.run repetitions session.fresh.world).report = some report) :
    (session.step limit (.run repetitions)).2.reply = .finished report .idle ∧
      (session.step limit (.run repetitions)).1.runner = some { runner with state := .idle } ∧
      (session.step limit (.run repetitions)).1.last = some report ∧
      (session.step limit (.run repetitions)).1.previous = session.last := by
  have present : session.fresh.runner = some runner := present
  have idle := Runner.runner_run_of_report finished
  simp only [step_eq, perform, performTelling, present, runOnce, Runner.runTelling_empty, finished,
    idle, true_and]
  rfl

/-- Equal reports are recognised as such. -/
theorem step_same_of_eq (limit : Log.Limit) (last : session.last = some report)
    (previous : session.previous = some report) :
    (session.step limit .same).2.reply = .answer true := by
  have last : session.fresh.last = some report := last
  have previous : session.fresh.previous = some report := previous
  simp [step_eq, perform, performTelling, last, previous]

/-- Two sessions with runners that are alike report the same of a run, whatever commands they went
through before: other runs, also such that panicked, calls of single units, other policies, other
registries.  In particular the report stays the same if the run is repeated.  The units that make
runners alike are stateless, as are the kernels of the suite and the units that look their status
up by the size class. -/
theorem report_of_history (left_limit right_limit : Log.Limit)
    (left_commands right_commands : List Command) {left right : Runner ScriptWorld}
    (left_present : (reach left_limit left_commands).runner = some left)
    (right_present : (reach right_limit right_commands).runner = some right)
    (alike : left.Alike right) (repetitions : Nat) :
    (∃ report,
      ((reach left_limit left_commands).step left_limit (.run repetitions)).2.reply =
          .finished report .idle ∧
        ((reach right_limit right_commands).step right_limit (.run repetitions)).2.reply =
          .finished report .idle ∧
        ((reach left_limit (left_commands ++ [.run repetitions])).step left_limit
          (.run repetitions)).2.reply = .finished report .idle ∧
        ((reach left_limit (left_commands ++ [.run repetitions, .run repetitions])).step left_limit
          .same).2.reply = .answer true) ∧
    (∀ entry ∈ Kernel.suite,
      (BenchmarkUnit.ofKernel entry : BenchmarkUnit ScriptWorld).Stateless (fun _ => 0) ∧
        ∀ number name, ((Script.kernel entry).unit number name).Stateless fun _ => 0) ∧
    ∀ table number name, ((Script.bySize table).unit number name).Stateless
      fun size => size.pick table := by
  refine ⟨?_, fun entry member => ⟨BenchmarkUnit.stateless_ofKernel member,
    Script.stateless_kernel member⟩, Script.stateless_bySize⟩
  let before := reach left_limit left_commands
  let after := reach left_limit (left_commands ++ [.run repetitions])
  let other := reach right_limit right_commands
  have after_eq : after = (before.step left_limit (.run repetitions)).1 :=
    reach_append_singleton ..
  have end_eq : reach left_limit (left_commands ++ [.run repetitions, .run repetitions]) =
      (after.step left_limit (.run repetitions)).1 := by
    rw [List.append_cons, reach_append_singleton]
  obtain ⟨report, finished, other_finished⟩ :=
    alike.report_run repetitions before.fresh.world other.fresh.world
  obtain ⟨reply, present, last, -⟩ := step_run_of_report left_limit left_present finished
  obtain ⟨other_reply, -⟩ := step_run_of_report right_limit right_present other_finished
  rw [← after_eq] at present last
  -- the second run starts from a runner and a world that the first one has left
  obtain ⟨second, second_finished, same⟩ :=
    (alike.withState .idle).report_run repetitions after.fresh.world other.fresh.world
  obtain rfl : report = second := Option.some.inj (other_finished.symm.trans same)
  obtain ⟨second_reply, -, second_last, second_previous⟩ :=
    step_run_of_report left_limit present second_finished
  refine ⟨report, reply, other_reply, second_reply, ?_⟩
  rw [end_eq]
  exact step_same_of_eq left_limit second_last (second_previous.trans last)

/-- A status for each size class. -/
def table : Vector Int32 5 := #v[0, 5, 0, 0, 0]

/-- A unit has failed and panicked before the runner of interest is built. -/
def troubled : List Command :=
  [.register "flaky" (.statuses [some 3, none]), .build .large, .policy .failFast, .run 2, .run 2,
    .standard, .select ["gemm"], .register "table" (.bySize table), .build .small,
    .policy .failFast]

/-- The runner of interest is built at once, only with another policy at first. -/
def direct : List Command :=
  [.standard, .select ["gemm"], .withUnit "table" (.bySize table), .invoke 1 .medium,
    .build .small, .policy .keepGoing, .policy .failFast]

/-- A kernel and a table, run after both histories. -/
theorem report_of_history_troubled :
    ∃ report,
      ((reach (some .trace) troubled).step (some .trace) (.run 3)).2.reply =
          .finished report .idle ∧
        ((reach none direct).step none (.run 3)).2.reply = .finished report .idle := by
  have gemm : (⟨"gemm", Kernel.Gemm.run⟩ : Kernel.Entry) ∈ Kernel.suite := by
    simp [Kernel.suite]
  have alike (left right : Nat) : List.Forall₂ BenchmarkUnit.Alike
      [.ofKernel ⟨"gemm", Kernel.Gemm.run⟩, (Script.bySize table).unit left "table"]
      [.ofKernel ⟨"gemm", Kernel.Gemm.run⟩, (Script.bySize table).unit right "table"] :=
    .cons ⟨rfl, _, BenchmarkUnit.stateless_ofKernel gemm, BenchmarkUnit.stateless_ofKernel gemm⟩
      (.cons ⟨rfl, _, Script.stateless_bySize table left "table",
        Script.stateless_bySize table right "table"⟩ .nil)
  obtain ⟨⟨report, left, right, -⟩, -⟩ :=
    report_of_history (some .trace) none troubled direct rfl rfl ⟨alike 1 0, rfl, rfl⟩ 3
  exact ⟨report, left, right⟩

end Session
end DenseBench
