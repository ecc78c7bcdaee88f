import DenseBench.CommandLine
import DenseBench.Proofs.Runner.Selection
import DenseBench.Proofs.Runner.Stateless
import Mathlib.Data.List.Dedup

/-!
# The program end to end

The program is followed from its configuration to its exit code, its report and the calls that it
makes, which kernels that note their calls show.  Since no kernel fails, every run is complete,
whatever the failure policy, and the only other way to end is the refusal of an unknown name.  The
library of settings plays no part beyond the configuration that it loads.
-/

namespace DenseBench

variable {σ : Type}

namespace Runner

/-- A plan, seen through the names of the units. -/
theorem map_plan {γ : Type} (units : List (BenchmarkUnit σ)) (count : Nat)
    (f : Nat → String → γ) :
    ((plan units 0 count).map fun invocation => f invocation.pass invocation.unit.name) =
      (List.range count).flatMap fun pass => (units.map BenchmarkUnit.name).map (f pass) := by
  simp [plan, List.map_flatMap, List.range_eq_range', Function.comp_def]

/-- The report of a run in which all units return zero. -/
def fineReport (runner : Runner σ) (repetitions : Nat) : Report where
  dataset := runner.dataset
  repetitions
  unitsPerPass := runner.registry.size
  records := ((List.range repetitions).flatMap fun pass =>
    runner.registry.names.map fun name => ⟨name, pass, 0⟩).toArray
  haltedEarly := false

/-- If no unit ever fails, a run is complete under either policy. -/
theorem run_of_fine (runner : Runner σ)
    (fine : ∀ unit ∈ runner.registry.units, unit.Stateless fun _ => 0) (repetitions : Nat)
    (world : σ) :
    (runner.run repetitions world).report = some (runner.fineReport repetitions) ∧
      (runner.fineReport repetitions).passesCompleted = repetitions ∧
      (runner.run repetitions world).world =
        (plan runner.registry.units 0 repetitions).foldl
          (fun world invocation => (invocation.unit.call runner.dataset world).2) world := by
  have answers : ∀ invocation ∈ plan runner.registry.units 0 repetitions, ∀ world,
      (invocation.unit.call runner.dataset world).1 = .returned 0 := by
    intro invocation planned
    exact fine _ (mem_units_of_mem_plan planned) runner.dataset
  have returns := returns_of_answers answers world
  have records : ((plan runner.registry.units 0 repetitions).map fun invocation =>
      (⟨invocation.unit.name, invocation.pass, 0⟩ : InvocationRecord)) =
        (List.range repetitions).flatMap fun pass =>
          runner.registry.names.map fun name => ⟨name, pass, 0⟩ :=
    map_plan runner.registry.units repetitions fun pass name =>
      (⟨name, pass, 0⟩ : InvocationRecord)
  have no_failure : ((plan runner.registry.units 0 repetitions).map fun invocation =>
      (⟨invocation.unit.name, invocation.pass, 0⟩ : InvocationRecord)).filter
        InvocationRecord.isFailure = [] := by
    simp [List.filter_map, Function.comp_def, InvocationRecord.isFailure]
  have ended := course_of_returns returns (.inr no_failure)
  have completed := passesCompleted_of_returns returns false
  rw [records] at ended completed
  refine ⟨?_, completed, ?_⟩
  · rw [report_run, ended, Course.isPanicked_ongoing, Course.progress_ongoing,
      report_extend_begun]
    rfl
  · rw [world_run, ended]
    rfl

end Runner

namespace CommandLine

section Suites

variable {suite : Registry σ} {config : RunConfig}

/-- An unknown name is refused before anything is called. -/
theorem performOn_of_unknown (suite : Registry σ) (config : RunConfig)
    (unknown : ∃ name ∈ config.units, name ∉ suite.names) (world : σ) :
    (performOn suite config world).exitCode = refused ∧
      (performOn suite config world).report = none ∧
      (performOn suite config world).world = world := by
  obtain ⟨name, -, -, rejected⟩ := Registry.select_of_unknown unknown
  rw [performOn, rejected]
  exact ⟨rfl, rfl, rfl⟩

theorem performOn_of_report {registry : Registry σ} {world : σ} {report : Report}
    (selected : suite.select config.units = .ok registry)
    (finished : ((runner config registry).run config.repetitions world).report = some report) :
    (performOn suite config world).exitCode = report.exitCode ∧
      (performOn suite config world).report = some report ∧
      (performOn suite config world).world =
        ((runner config registry).run config.repetitions world).world := by
  simp only [performOn, selected, finished, and_self]

/-- Known names are selected and run to the end. -/
theorem performOn_of_known (suite : Registry σ) (config : RunConfig)
    (fine : ∀ unit ∈ suite.units, unit.Stateless fun _ => 0)
    (known : ∀ name ∈ config.units, name ∈ suite.names) (world : σ) :
    ∃ registry,
      suite.select config.units = .ok registry ∧
        (performOn suite config world).exitCode = 0 ∧
        (performOn suite config world).report =
          some ((runner config registry).fineReport config.repetitions) ∧
        ((runner config registry).fineReport config.repetitions).passesCompleted =
          config.repetitions ∧
        (performOn suite config world).world =
          (Runner.plan registry.units 0 config.repetitions).foldl
            (fun world invocation => (invocation.unit.call config.dataset world).2) world := by
  obtain ⟨registry, selected⟩ := Registry.exists_select_eq_ok known
  have selected_fine : ∀ unit ∈ registry.units, unit.Stateless fun _ => 0 := fun unit member =>
    fine unit ((Registry.sublist_of_select selected).subset member)
  obtain ⟨finished, completed, after⟩ :=
    (runner config registry).run_of_fine selected_fine config.repetitions world
  obtain ⟨exitCode, report, ended⟩ := performOn_of_report selected finished
  exact ⟨registry, selected, exitCode, report, completed, ended.trans after⟩

end Suites

variable {config : RunConfig}

/-- The names of the suite in order. -/
def suiteNames : List String :=
  Kernel.suite.map Kernel.Entry.name

theorem nodup_suiteNames : suiteNames.Nodup := by
  decide

theorem names_standard : (.standard : Registry Unit).names = suiteNames :=
  Registry.names_standard

/-- Units that note their calls have the same names. -/
theorem names_watched (registry : Registry σ) : registry.watched.names = registry.names := by
  apply List.ext_getElem?
  intro index
  simp [Registry.watched, Registry.names, BenchmarkUnit.watched, Function.comp_def]

/-- A kernel that notes its calls notes its own place in the suite. -/
theorem exists_of_mem_watched {unit : BenchmarkUnit (Watched Unit)}
    (member : unit ∈ (.standard : Registry Unit).watched.units) :
    ∃ entry ∈ Kernel.suite,
      unit = (BenchmarkUnit.ofKernel entry).watched (suiteNames.idxOf entry.name) := by
  obtain ⟨position, inside, rfl⟩ := List.mem_mapIdx.mp member
  have bound : position < Kernel.suite.length := by simpa [Registry.standard] using inside
  have here : suiteNames.idxOf Kernel.suite[position].name = position := by
    have found := nodup_suiteNames.idxOf_getElem position (by simpa [suiteNames] using bound)
    simpa [suiteNames] using found
  refine ⟨Kernel.suite[position], List.getElem_mem bound, ?_⟩
  rw [here]
  simp [Registry.standard]

theorem stateless_watched :
    ∀ unit ∈ (.standard : Registry Unit).watched.units, unit.Stateless fun _ => 0 := by
  intro unit member dataset watched
  obtain ⟨entry, listed, rfl⟩ := exists_of_mem_watched member
  exact BenchmarkUnit.stateless_ofKernel listed dataset watched.world

/-- Kernels that are called one after the other note one call each. -/
theorem calls_foldl (dataset : DatasetSize) {plan : List (Invocation (Watched Unit))}
    (planned : ∀ invocation ∈ plan,
      invocation.unit ∈ (.standard : Registry Unit).watched.units) (watched : Watched Unit) :
    (plan.foldl (fun watched invocation => (invocation.unit.call dataset watched).2)
        watched).calls =
      watched.calls ++ plan.map fun invocation =>
        ⟨suiteNames.idxOf invocation.unit.name, dataset, .returned 0⟩ := by
  induction plan generalizing watched with
  | nil => simp
  | cons invocation rest ih =>
      obtain ⟨member, later⟩ := List.forall_mem_cons.mp planned
      obtain ⟨entry, listed, unit⟩ := exists_of_mem_watched member
      have answer : Outcome.ofChecked (entry.run dataset) = .returned 0 :=
        BenchmarkUnit.stateless_ofKernel listed dataset ()
      rw [List.foldl_cons, ih later, List.map_cons, unit]
      simp [BenchmarkUnit.watched, answer, BenchmarkUnit.ofKernel]

/-- The names of the kernels that a configuration asks for, in the order of the suite. -/
def chosen (config : RunConfig) : List String :=
  suiteNames.filter fun name => config.units = [] ∨ name ∈ config.units

theorem names_of_selected {suite registry : Registry σ}
    (names : suite.names = suiteNames)
    (selected : suite.select config.units = .ok registry) : registry.names = chosen config := by
  rw [Registry.names_select selected, names, chosen]

/-- As many kernels are chosen as there are names, not counting any twice. -/
theorem length_chosen (known : ∀ name ∈ config.units, name ∈ suiteNames) :
    (chosen config).length = if config.units = [] then 16 else config.units.dedup.length := by
  rw [chosen]
  split_ifs with none
  · rw [List.filter_eq_self.mpr fun name _ => by simp [none]]
    rfl
  · refine List.Perm.length_eq ((List.perm_ext_iff_of_nodup ?_ ?_).mpr ?_)
    · exact nodup_suiteNames.filter _
    · exact List.nodup_dedup config.units
    · intro name
      simpa [none] using known name

/-- The report of a run of the chosen kernels. -/
def chosenReport (config : RunConfig) : Report where
  dataset := config.dataset
  repetitions := config.repetitions
  unitsPerPass := (chosen config).length
  records := ((List.range config.repetitions).flatMap fun pass =>
    (chosen config).map fun name => ⟨name, pass, 0⟩).toArray
  haltedEarly := false

theorem fineReport_runner {suite registry : Registry σ} (names : suite.names = suiteNames)
    (selected : suite.select config.units = .ok registry) :
    (runner config registry).fineReport config.repetitions = chosenReport config := by
  have chosen_eq := names_of_selected names selected
  have size : registry.size = (chosen config).length := by
    rw [← chosen_eq]
    exact (List.length_map _).symm
  simp only [Runner.fineReport, chosenReport, runner, Runner.new, Runner.withPolicy, chosen_eq,
    size]

theorem invocations_chosenReport (config : RunConfig) :
    (chosenReport config).invocations = config.repetitions * (chosen config).length := by
  simp [chosenReport, Report.invocations]

/-- The chosen kernels are run to the end of the last pass, and none of them fails. -/
theorem perform_of_known (known : ∀ name ∈ config.units, name ∈ suiteNames) :
    (performOn .standard config ()).exitCode = 0 ∧
      (performOn .standard config ()).report = some (chosenReport config) ∧
      (chosenReport config).passesCompleted = config.repetitions := by
  have fine : ∀ unit ∈ (.standard : Registry Unit).units, unit.Stateless fun _ => 0 := by
    intro unit member
    obtain ⟨entry, listed, rfl⟩ := List.mem_map.mp member
    exact BenchmarkUnit.stateless_ofKernel listed
  obtain ⟨registry, selected, exitCode, report, completed, -⟩ :=
    performOn_of_known .standard config fine (by rwa [names_standard]) ()
  rw [fineReport_runner names_standard selected] at report completed
  exact ⟨exitCode, report, completed⟩

/-- Each of the chosen kernels is called once in each pass. -/
theorem calls_of_known (known : ∀ name ∈ config.units, name ∈ suiteNames) :
    let noted := performOn (.standard : Registry Unit).watched config ⟨(), []⟩
    noted.exitCode = 0 ∧ noted.report = some (chosenReport config) ∧
      noted.world.calls = (List.range config.repetitions).flatMap fun _ =>
        (chosen config).map fun name => ⟨suiteNames.idxOf name, config.dataset, .returned 0⟩ := by
  intro noted
  have names : (.standard : Registry Unit).watched.names = suiteNames := by
    rw [names_watched, names_standard]
  obtain ⟨registry, selected, exitCode, report, -, after⟩ :=
    performOn_of_known (.standard : Registry Unit).watched config stateless_watched
      (by rwa [names]) ⟨(), []⟩
  have planned : ∀ invocation ∈ Runner.plan registry.units 0 config.repetitions,
      invocation.unit ∈ (.standard : Registry Unit).watched.units := fun invocation member =>
    (Registry.sublist_of_select selected).subset (Runner.mem_units_of_mem_plan member)
  rw [fineReport_runner names selected] at report
  refine ⟨exitCode, report, ?_⟩
  rw [after, calls_foldl config.dataset planned, List.nil_append,
    ← names_of_selected names selected]
  exact Runner.map_plan registry.units config.repetitions fun _ name =>
    (⟨suiteNames.idxOf name, config.dataset, .returned 0⟩ : Call)

section Loaded

variable {ν ε : Type} (library : Settings.Library ν ε)

/-- The configuration that the program goes by: the loaded one, or else the standard one. -/
theorem config_configure (surroundings : Surroundings) :
    (configure library surroundings).1 =
      match library.load surroundings with
      | .ok loaded => loaded
      | .error _ => .standard := by
  rw [configure]
  cases library.load surroundings <;> rfl

/-- The program does what the configuration brings about; only its log is filtered. -/
theorem runWith_eq (suite : Registry σ) (surroundings : Surroundings) (world : σ) :
    let finished := runWith library suite surroundings world
    let performed := performOn suite (configure library surroundings).1 world
    finished.exitCode = performed.exitCode ∧ finished.report = performed.report ∧
      finished.world = performed.world :=
  ⟨rfl, rfl, rfl⟩

/-- The program, whatever its surroundings and its library of settings.  An unknown name ends it
with the exit code two, without a report, and no kernel is called.  Otherwise every kernel that is
asked for, or every kernel at all, is called once in each pass, in the order of the suite, at any
size class and under either policy; none of them fails, all passes are completed, and the exit code
is zero.  It is never one.  The calls are those that the same program makes of kernels that note
them, which ends in the same way.  Its own library and suite are the standard ones. -/
theorem run_outcome (surroundings : Surroundings) :
    let config : RunConfig := match library.load surroundings with
      | .ok loaded => loaded
      | .error _ => .standard
    let suite := Kernel.suite.map Kernel.Entry.name
    let names := suite.filter fun name => config.units = [] ∨ name ∈ config.units
    let width := if config.units = [] then 16 else config.units.dedup.length
    let finished := runWith library .standard surroundings ()
    let noted := runWith library (.standard : Registry Unit).watched surroundings ⟨(), []⟩
    (noted.exitCode = finished.exitCode ∧ noted.report = finished.report) ∧
    ((∃ name ∈ config.units, name ∉ suite) →
      finished.exitCode = 2 ∧ finished.report = none ∧ noted.world.calls = []) ∧
    ((∀ name ∈ config.units, name ∈ suite) →
      finished.exitCode = 0 ∧
      (noted.world.calls = (List.range config.repetitions).flatMap fun _ =>
        names.map fun name => ⟨suite.idxOf name, config.dataset, .returned 0⟩) ∧
      ∃ report, finished.report = some report ∧
        report.dataset = config.dataset ∧
        (report.records.toList = (List.range config.repetitions).flatMap fun pass =>
          names.map fun name => ⟨name, pass, 0⟩) ∧
        report.invocations = config.repetitions * width ∧
        report.haltedEarly = false ∧ report.passesCompleted = config.repetitions) ∧
    finished.exitCode ≠ 1 ∧
    run surroundings = runWith Settings.Library.standard .standard surroundings () := by
  intro config suite names width finished noted
  have config_eq : (configure library surroundings).1 = config :=
    config_configure library surroundings
  have standard : (.standard : Registry Unit).names = suite := names_standard
  have watched : (.standard : Registry Unit).watched.names = suite := by
    rw [names_watched, standard]
  obtain ⟨code_eq, report_eq, -⟩ := runWith_eq library .standard surroundings ()
  obtain ⟨noted_code_eq, noted_report_eq, world_eq⟩ :=
    runWith_eq library (.standard : Registry Unit).watched surroundings ⟨(), []⟩
  rw [config_eq] at code_eq report_eq noted_code_eq noted_report_eq world_eq
  by_cases unknown : ∃ name ∈ config.units, name ∉ suite
  · obtain ⟨code, report, -⟩ := performOn_of_unknown .standard config (by rwa [standard]) ()
    obtain ⟨noted_code, noted_report, still⟩ :=
      performOn_of_unknown (.standard : Registry Unit).watched config (by rwa [watched]) ⟨(), []⟩
    have code : finished.exitCode = 2 := code_eq.trans code
    have report : finished.report = none := report_eq.trans report
    refine ⟨⟨?_, ?_⟩, fun _ => ⟨code, report, ?_⟩, ?_, by simp [code], rfl⟩
    · exact (noted_code_eq.trans noted_code).trans code.symm
    · exact (noted_report_eq.trans noted_report).trans report.symm
    · exact congrArg Watched.calls (world_eq.trans still)
    · intro known
      obtain ⟨name, member, absent⟩ := unknown
      exact absurd (known name member) absent
  · have known : ∀ name ∈ config.units, name ∈ suite := by simpa using unknown
    obtain ⟨code, report, completed⟩ := perform_of_known known
    obtain ⟨noted_code, noted_report, calls⟩ := calls_of_known known
    have code : finished.exitCode = 0 := code_eq.trans code
    have report : finished.report = some (chosenReport config) := report_eq.trans report
    refine ⟨⟨?_, ?_⟩, fun impossible => absurd impossible unknown,
      fun _ => ⟨code, ?_, chosenReport config, report, rfl, rfl, ?_, rfl, completed⟩,
      by simp [code], rfl⟩
    · exact (noted_code_eq.trans noted_code).trans code.symm
    · exact (noted_report_eq.trans noted_report).trans report.symm
    · exact (congrArg Watched.calls world_eq).trans calls
    · rw [invocations_chosenReport, length_chosen known]

end Loaded

end CommandLine
end DenseBench
