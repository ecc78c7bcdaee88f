import DenseBench.Proofs.Runner.Log
import DenseBench.Proofs.Session.Reach
import DenseBench.CommandLine

/-!
# The log of the library

Units are run and selected in sessions and by the program.  Nothing but runs and selections is
logged: whatever else a session is asked for has no lines, and the program adds its own ones, which
say that they come from it.
-/

namespace DenseBench

open Log (Line)

theorem Log.Limit.admits_widest (level : Log.Level) :
    Log.Limit.widest.admits level = true := by
  cases level <;> rfl

/-- The line of a selection that succeeds; one without names has none. -/
def Registry.linesOfSelection {σ : Type} (registry : Registry σ) (wanted : List String) :
    List Line :=
  match registry.select wanted with
  | .ok selection => if wanted = [] then [] else [.selection selection.size]
  | .error _ => []

theorem Event.map_line_ofSelection {σ : Type} (wanted : List String) (selection : Registry σ) :
    (Event.ofSelection wanted selection).map Event.line =
      if wanted = [] then [] else [.selection selection.size] := by
  cases wanted <;> simp [ofSelection]

namespace Session

variable {session : Session} {command : Command}

/-- With all levels shown, the log of a command consists of the lines of its events. -/
theorem log_step (session : Session) (command : Command) :
    (session.step Log.Limit.widest command).2.log =
      (session.fresh.perform command).2.2.map Event.line := by
  rw [step_eq, List.filter_eq_self.mpr fun event _ => Log.Limit.admits_widest event.level]

/-- The log of a run in a session is that of the run. -/
theorem log_step_of_run {repetitions : Nat} {runner : Runner ScriptWorld}
    (asks : command.passes? = some repetitions) (present : session.runner = some runner) :
    (session.step Log.Limit.widest command).2.log =
      runner.lines repetitions session.fresh.world := by
  have present : session.fresh.runner = some runner := present
  rw [log_step]
  cases command with
  | run count | runStatus count =>
      obtain rfl : count = repetitions := Option.some.inj asks
      simp only [perform, performTelling, present, runOnce, Runner.runTelling_empty]
      split <;> rfl
  | _ => contradiction

theorem log_step_select (session : Session) (wanted : List String) :
    (session.step Log.Limit.widest (.select wanted)).2.log =
      session.registry.linesOfSelection wanted := by
  rw [log_step, Registry.linesOfSelection, perform, performTelling]
  have registry : session.fresh.registry = session.registry := rfl
  rw [registry]
  cases session.registry.select wanted with
  | ok selection =>
      simp only [Event.toList_foldl_tell, List.nil_append]
      exact Event.map_line_ofSelection wanted selection
  | error => rfl

/-- Nothing but runs and selections has events. -/
theorem events_of_quiet (idle : command.passes? = none ∨ session.runner = none)
    (other : ∀ wanted, command ≠ .select wanted) : (session.perform command).2.2 = [] := by
  -- a command that asks for a runner or a report has no events, whether there is one or not
  cases command with
  | select wanted => exact absurd rfl (other wanted)
  | run repetitions | runStatus repetitions =>
      have absent : session.runner = none := idle.resolve_left (by simp [Command.passes?])
      simp [perform, performTelling, absent]
  | register | withUnit | invoke | policy | state | pass | same =>
      simp only [perform, performTelling]
      split <;> rfl
  | _ => rfl

theorem log_step_of_quiet (idle : command.passes? = none ∨ session.runner = none)
    (other : ∀ wanted, command ≠ .select wanted) :
    (session.step Log.Limit.widest command).2.log = [] := by
  have idle : command.passes? = none ∨ session.fresh.runner = none := idle
  rw [log_step, events_of_quiet idle other]
  rfl

end Session

namespace CommandLine

/-- The lines of a log that do not come from the program itself. -/
def libraryLines (log : List Line) : List Line :=
  log.filter fun line => line.target != target

theorem libraryLines_append (left right : List Line) :
    libraryLines (left ++ right) = libraryLines left ++ libraryLines right := by
  rw [libraryLines, List.filter_append]
  rfl

theorem libraryLines_of_events (events : List Event) :
    libraryLines (events.map Event.line) = events.map Event.line := by
  apply List.filter_eq_self.mpr
  intro line member
  obtain ⟨event, -, rfl⟩ := List.mem_map.mp member
  cases event <;> simp [Event.line, Event.target, target]

theorem libraryLines_announcement (units : Nat) (config : RunConfig) (rest : List Line) :
    libraryLines (announcement units config :: rest) = libraryLines rest := rfl

theorem libraryLines_summary (report : Report) : libraryLines (summary report) = [] := by
  rw [summary, libraryLines_append]
  cases report.haltedEarly <;> rfl

/-- Whatever the configuration, the library logs the selection of the units and their run. -/
theorem libraryLines_perform (config : RunConfig) :
    libraryLines (perform config).log =
      (.standard : Registry Unit).linesOfSelection config.units ++
        match (.standard : Registry Unit).select config.units with
        | .ok registry =>
          ((Runner.new registry config.dataset).withPolicy config.failurePolicy).lines
            config.repetitions ()
        | .error _ => [] := by
  rw [perform, performOn, Registry.linesOfSelection]
  cases (.standard : Registry Unit).select config.units with
  | error => rfl
  | ok registry =>
      simp only [← Event.map_line_ofSelection]
      split
      next report _ =>
        rw [libraryLines_append, libraryLines_append, libraryLines_of_events,
          libraryLines_announcement, libraryLines_of_events, libraryLines_summary, List.append_nil]
        rfl
      next =>
        rw [libraryLines_append, libraryLines_of_events, libraryLines_announcement,
          libraryLines_of_events]
        rfl

end CommandLine
/-- The log is a faithful trace.  A run logs what it is about to do, then of each call in order an
announcement and, if it reports a failure, a warning, and at last a summary of its report, if it has
one.  A call is announced before it is made: if it breaks the run off, or would do so, the log ends
with its announcement.  The log of a run that comes to its end is told by its report alone.  Besides
runs, only selections that succeed and have names are logged, whatever a session is asked for, and
so it is in the program. -/
theorem library_log {σ : Type} (runner : Runner σ) (repetitions : Nat) (world : σ) :
    let size := runner.registry.size
    let calls := runner.calls repetitions world
    let run := runner.run repetitions world
    let lines := runner.lines repetitions world
    (lines =
      .opening size repetitions runner.dataset :: (calls.mapIdx runner.linesOf).flatten ++
        match run.report with
        | some report => [.summary report.invocations report.failureCount]
        | none => []) ∧
    (run.report = none ↔ ∃ call ∈ calls, call.outcome = .panicked) ∧
    (∀ index call, calls[index]? = some call → ∃ unit,
      call.position = index % size ∧ runner.registry.units[index % size]? = some unit ∧
      runner.interrupted.calls repetitions (world, index) =
        calls.take index ++ [⟨index % size, runner.dataset, .panicked⟩] ∧
      runner.interrupted.lines repetitions (world, index) =
        runner.linesUpTo repetitions world index unit ∧
      (call.outcome = .panicked → lines = runner.linesUpTo repetitions world index unit)) ∧
    (∀ report, run.report = some report →
      lines = report.lines ∧
      lines.countP (fun line => line.level = .trace) = report.invocations ∧
      lines.countP (fun line => line.level = .warn) = report.failureCount) ∧
    (∀ (session : Session) (command : Session.Command),
      let log := (session.step Log.Limit.widest command).2.log
      (∀ passes own, command.passes? = some passes → session.runner = some own →
        log = own.lines passes session.fresh.world) ∧
      (∀ wanted, command = .select wanted → log = session.registry.linesOfSelection wanted) ∧
      (command.passes? = none ∨ session.runner = none →
        (∀ wanted, command ≠ .select wanted) → log = [])) ∧
    ∀ config : RunConfig,
      CommandLine.libraryLines (CommandLine.perform config).log =
        (.standard : Registry Unit).linesOfSelection config.units ++
          match (.standard : Registry Unit).select config.units with
          | .ok registry =>
            ((Runner.new registry config.dataset).withPolicy config.failurePolicy).lines
              config.repetitions ()
          | .error _ => [] := by
  intro size calls run lines
  refine ⟨runner.lines_eq repetitions world, Runner.report_run_eq_none_iff, ?_, ?_, ?_,
    CommandLine.libraryLines_perform⟩
  · intro index call called
    have inside : index < calls.length := (List.getElem?_eq_some_iff.mp called).1
    obtain ⟨unit, found⟩ := Runner.exists_unit_of_call inside
    exact ⟨unit, Runner.position_of_call called, found, Runner.calls_interrupted inside,
      Runner.lines_interrupted inside found,
      fun panicked => Runner.lines_of_panic called panicked found⟩
  · intro report finished
    have told : lines = report.lines := Runner.lines_of_report finished
    rw [told]
    exact ⟨rfl, report.countP_trace, report.countP_warn⟩
  · intro session command
    refine ⟨fun passes own asks present => Session.log_step_of_run asks present, ?_,
      Session.log_step_of_quiet⟩
    rintro wanted rfl
    exact session.log_step_select wanted

end DenseBench
