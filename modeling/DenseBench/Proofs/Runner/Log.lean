import DenseBench.Proofs.Runner.Panics

/-!
# The log of a run

A run says what it is about to do, announces every call, warns of every failure and sums up at the
end, unless a unit panicked.  The lines are told by the calls of the run (`lines_eq`), and those of
a run that comes to its end by its report (`lines_of_report`).  That a call is announced before it
is made is seen from a run that is interrupted there: it logs the announcement, which is its last
line (`lines_interrupted`).
-/

namespace DenseBench

namespace Log.Line

/-- How many units are left after a selection. -/
def selection (count : Nat) : Line where
  level := .debug
  target := "polybench::benchmark::registry"
  message := "Selected " ++ toString count ++ " benchmark units"

/-- What a run is about to do. -/
def opening (units repetitions : Nat) (dataset : DatasetSize) : Line where
  level := .debug
  target := "polybench::benchmark::runner"
  message := "Running " ++ toString units ++ " units x " ++ toString repetitions ++
    " passes at " ++ dataset.name

/-- A call that is about to be made. -/
def announcement (pass : Nat) (unit : String) : Line where
  level := .trace
  target := "polybench::benchmark::runner"
  message := "pass " ++ toString pass ++ ": " ++ unit

/-- A call that has failed. -/
def warning (unit : String) (status : Int32) (pass : Nat) : Line where
  level := .warn
  target := "polybench::benchmark::runner"
  message := unit ++ " returned status " ++ toString status.toInt ++ " in pass " ++ toString pass

/-- What a run has done. -/
def summary (invocations failures : Nat) : Line where
  level := .debug
  target := "polybench::benchmark::runner"
  message := "Run finished: " ++ toString invocations ++ " invocations, " ++ toString failures ++
    " failures"

end Log.Line

open Log (Line)

/-- The lines about an invocation that came back. -/
def InvocationRecord.lines (record : InvocationRecord) : List Line :=
  .announcement record.pass record.unit ::
    if record.isFailure then [.warning record.unit record.status record.pass] else []

/-- The log of a run, read off its report. -/
def Report.lines (report : Report) : List Line :=
  .opening report.unitsPerPass report.repetitions report.dataset ::
    report.records.toList.flatMap InvocationRecord.lines ++
      [.summary report.invocations report.failureCount]

namespace Event

@[simp]
theorem line_selected (count : Nat) : (selected count).line = .selection count := rfl

@[simp]
theorem line_runStarted (units repetitions : Nat) (dataset : DatasetSize) :
    (runStarted units repetitions dataset).line = .opening units repetitions dataset := rfl

@[simp]
theorem line_invoking (pass : Nat) (unit : String) :
    (invoking pass unit).line = .announcement pass unit := rfl

@[simp]
theorem line_failed (unit : String) (status : Int32) (pass : Nat) :
    (failed unit status pass).line = .warning unit status pass := rfl

@[simp]
theorem line_runFinished (invocations failures : Nat) :
    (runFinished invocations failures).line = .summary invocations failures := rfl

theorem map_line_ofRecord (record : InvocationRecord) :
    (ofRecord record).map line = record.lines := by
  rw [ofRecord, InvocationRecord.lines]
  split <;> simp

end Event

/-- The announcements in a report's log are as many as the records. -/
theorem Report.countP_trace (report : Report) :
    report.lines.countP (fun line => line.level = .trace) = report.invocations := by
  have announced (records : List InvocationRecord) :
      (records.flatMap InvocationRecord.lines).countP (fun line => line.level = .trace) =
        records.length := by
    induction records with
    | nil => rfl
    | cons record records ih =>
        rw [List.flatMap_cons, List.countP_append, ih, InvocationRecord.lines, List.length_cons]
        cases record.isFailure <;> simp [Line.announcement, Line.warning, Nat.add_comm]
  simp [Report.lines, announced, Line.opening, Line.summary, Report.invocations]

/-- The warnings in a report's log are as many as the failures. -/
theorem Report.countP_warn (report : Report) :
    report.lines.countP (fun line => line.level = .warn) = report.failureCount := by
  have warned (records : List InvocationRecord) :
      (records.flatMap InvocationRecord.lines).countP (fun line => line.level = .warn) =
        (records.filter InvocationRecord.isFailure).length := by
    induction records with
    | nil => rfl
    | cons record records ih =>
        rw [List.flatMap_cons, List.countP_append, ih, InvocationRecord.lines, List.filter_cons]
        cases record.isFailure <;> simp [Line.announcement, Line.warning, Nat.add_comm]
  simp [Report.lines, warned, Line.opening, Line.summary, Report.failureCount, Report.failures]

/-- A unit that panics once it has come back as often as the number beside the world says. -/
def BenchmarkUnit.interrupted {σ : Type} (unit : BenchmarkUnit σ) : BenchmarkUnit (σ × Nat) where
  name := unit.name
  call dataset
    | (world, 0) => (.panicked, (world, 0))
    | (world, left + 1) =>
      let (outcome, after) := unit.call dataset world
      (outcome, (after, left))

/-- The same invocation, of a unit that panics after so many calls. -/
def Invocation.interrupted {σ : Type} (invocation : Invocation σ) : Invocation (σ × Nat) :=
  ⟨invocation.pass, invocation.unit.interrupted⟩

namespace Runner

variable {σ : Type}

/-- The same runner, over units that panic after so many calls. -/
def interrupted (runner : Runner σ) : Runner (σ × Nat) where
  registry := ⟨runner.registry.units.map BenchmarkUnit.interrupted⟩
  dataset := runner.dataset
  policy := runner.policy
  state := runner.state

/-- The lines of a run. -/
def lines (runner : Runner σ) (repetitions : Nat) (world : σ) : List Line :=
  (runner.run repetitions world).events.toList.map Event.line

/-- The lines about call number `index`. -/
def linesOf (runner : Runner σ) (index : Nat) (call : Call) : List Line :=
  match runner.registry.units[call.position]? with
  | none => []
  | some unit =>
    let pass := index / runner.registry.size
    .announcement pass unit.name ::
      match call.outcome with
      | .returned status => if status = 0 then [] else [.warning unit.name status pass]
      | .panicked => []

variable {runner : Runner σ} {repetitions : Nat} {world : σ}

theorem linesOf_of_returned {index position : Nat} {unit : BenchmarkUnit σ}
    (dataset : DatasetSize) (status : Int32)
    (found : runner.registry.units[position]? = some unit) :
    runner.linesOf index ⟨position, dataset, .returned status⟩ =
      InvocationRecord.lines ⟨unit.name, index / runner.registry.size, status⟩ := by
  simp only [linesOf, found, InvocationRecord.lines, InvocationRecord.isFailure]
  by_cases fine : status = 0 <;> simp [fine]

theorem linesOf_of_panic {index position : Nat} {unit : BenchmarkUnit σ} (dataset : DatasetSize)
    (found : runner.registry.units[position]? = some unit) :
    runner.linesOf index ⟨position, dataset, .panicked⟩ =
      [.announcement (index / runner.registry.size) unit.name] := by
  rw [linesOf, found]

/-- The lines about the calls of a stretch that comes back are those about its records. -/
theorem Returns.lines {front back : List (Invocation σ)} {records : List InvocationRecord}
    {after : σ} (split : plan runner.registry.units 0 repetitions = front ++ back)
    (returns : Returns runner.dataset front world records after) :
    ((records.mapIdx runner.callOf).mapIdx runner.linesOf).flatten =
      records.flatMap InvocationRecord.lines := by
  rw [List.flatMap_def, returns.mapIdx_callOf split]
  intro index unit status found
  exact linesOf_of_returned runner.dataset status found

theorem map_line_extend_begun (records : List InvocationRecord) (after : σ) :
    ((runner.begun repetitions world).extend records after).events.toList.map Event.line =
      .opening runner.registry.size repetitions runner.dataset ::
        records.flatMap InvocationRecord.lines := by
  simp [Progress.extend, begun, List.map_flatMap, Event.map_line_ofRecord]

/-- Before a run is closed, its log consists of the lines about its calls. -/
theorem lines_course (runner : Runner σ) (repetitions : Nat) (world : σ) :
    (runner.course repetitions world).progress.events.toList.map Event.line =
      .opening runner.registry.size repetitions runner.dataset ::
        ((runner.calls repetitions world).mapIdx runner.linesOf).flatten := by
  obtain ⟨front, back, after, split, returns⟩ := runner.returns_course repetitions world
  rw [calls_eq, callsOf, List.mapIdx_append, List.flatten_append, returns.lines split]
  clear front back after split returns
  -- only the announcement of a call that panics is left, which has no record
  have passage := runner.passage_course repetitions world
  generalize runner.course repetitions world = course at *
  cases passage with
  | completed => simp [map_line_extend_begun]
  | halted => simp [map_line_extend_begun]
  | @panicked front back last records middle after split returns tolerates panic =>
      obtain ⟨-, found, pass_eq⟩ := runner.next_of_split split
      rw [← returns.length_eq] at found pass_eq
      simp [map_line_extend_begun, linesOf_of_panic _ found, pass_eq]

/-- The log of a run: what it is about to do, the lines about its calls, and a summary of the report
if there is one. -/
theorem lines_eq (runner : Runner σ) (repetitions : Nat) (world : σ) :
    runner.lines repetitions world =
      .opening runner.registry.size repetitions runner.dataset ::
        ((runner.calls repetitions world).mapIdx runner.linesOf).flatten ++
          match (runner.run repetitions world).report with
          | some report => [.summary report.invocations report.failureCount]
          | none => [] := by
  rw [lines, report_run, run_eq_close, ← lines_course]
  cases runner.course repetitions world with
  | ongoing => simp [close, finish]
  | halted => simp [close, finish]
  | panicked => simp [close]

example : (weary.lines 3 0).map (fun line => line.message) =
    ["Running 2 units x 3 passes at SMALL", "pass 0: steady", "pass 0: weary", "pass 1: steady",
      "pass 1: weary", "weary returned status 7 in pass 1",
      "Run finished: 4 invocations, 1 failures"] := by decide

/-- The log of a run that comes to its end is told by its report. -/
theorem lines_of_report {report : Report}
    (finished : (runner.run repetitions world).report = some report) :
    runner.lines repetitions world = report.lines := by
  obtain ⟨calm, rfl⟩ := report_run_eq_some_iff.mp finished
  obtain ⟨front, back, after, split, returns⟩ := runner.returns_course repetitions world
  rw [lines_eq, finished, calls_eq, callsOf, calm, if_neg Bool.false_ne_true, List.append_nil,
    returns.lines split]
  rfl

theorem size_interrupted (runner : Runner σ) :
    runner.interrupted.registry.size = runner.registry.size :=
  List.length_map _

theorem position_interrupted (runner : Runner σ) (index : Nat) :
    runner.interrupted.position index = runner.position index := by
  rw [position, position, size_interrupted]

theorem total_interrupted (runner : Runner σ) (repetitions : Nat) :
    runner.interrupted.total repetitions = runner.total repetitions := by
  rw [total, total, size_interrupted]

theorem callOf_interrupted (runner : Runner σ) : runner.interrupted.callOf = runner.callOf := by
  funext index record
  rw [callOf, callOf, position_interrupted]
  rfl

theorem linesOf_interrupted (runner : Runner σ) : runner.interrupted.linesOf = runner.linesOf := by
  funext index call
  have registered : runner.interrupted.registry.units[call.position]? =
      runner.registry.units[call.position]?.map BenchmarkUnit.interrupted :=
    List.getElem?_map
  rw [linesOf, linesOf, registered, size_interrupted]
  cases runner.registry.units[call.position]? <;> rfl

theorem plan_interrupted (runner : Runner σ) (repetitions : Nat) :
    plan runner.interrupted.registry.units 0 repetitions =
      (plan runner.registry.units 0 repetitions).map Invocation.interrupted := by
  simp [plan, interrupted, List.map_flatMap, Function.comp_def, Invocation.interrupted]

/-- A stretch comes back also from units that panic later. -/
theorem Returns.interrupted {dataset : DatasetSize} {plan : List (Invocation σ)}
    {before after : σ} {records : List InvocationRecord}
    (returns : Returns dataset plan before records after) (left : Nat) :
    Returns dataset (plan.map Invocation.interrupted) (before, records.length + left) records
      (after, left) := by
  induction returns with
  | nil world =>
      rw [List.length_nil, Nat.zero_add]
      exact .nil (world, left)
  | @cons invocation rest before middle after status records call _ ih =>
      rw [List.length_cons, Nat.add_right_comm]
      have same : invocation.interrupted.unit.call dataset (before, records.length + left + 1) =
          (.returned status, (middle, records.length + left)) := by
        simp [Invocation.interrupted, BenchmarkUnit.interrupted, call]
      exact .cons same ih

/-- A stretch that comes back has come back from its beginning before. -/
theorem Returns.before {dataset : DatasetSize} {front back : List (Invocation σ)}
    {before after : σ} {records : List InvocationRecord} {index : Nat}
    (returns : Returns dataset front before records after) (enough : index ≤ records.length)
    (more : index < (front ++ back).length) :
    ∃ first next rest middle, front ++ back = first ++ next :: rest ∧
      Returns dataset first before (records.take index) middle := by
  rw [← List.take_append_drop index records] at returns
  obtain ⟨first, middle, second, rfl, begun, -⟩ := returns.cut
  have width := begun.length_eq
  rw [List.length_take_of_le enough] at width
  rw [List.append_assoc] at more ⊢
  have filled : second ++ back ≠ [] := by
    intro nothing
    rw [nothing, List.append_nil, width] at more
    exact Nat.lt_irrefl _ more
  obtain ⟨next, rest, rest_eq⟩ := List.exists_cons_of_ne_nil filled
  exact ⟨first, next, rest, middle, by rw [rest_eq], begun⟩

theorem Tolerates.take {total done : Nat} {records : List InvocationRecord}
    (tolerates : runner.Tolerates total done records) (count : Nat) :
    runner.Tolerates total done (records.take count) := by
  rw [← List.take_append_drop count records] at tolerates
  exact tolerates.left

/-- What a run has recorded before a call is tolerated. -/
theorem tolerates_before_call {index : Nat}
    (called : index < (runner.calls repetitions world).length) :
    index ≤ (runner.course repetitions world).records.length ∧
      index < runner.total repetitions ∧
      runner.Tolerates (runner.total repetitions) 0
        ((runner.course repetitions world).records.take index) := by
  rw [calls_eq] at called
  have passage := runner.passage_course repetitions world
  generalize runner.course repetitions world = course at *
  cases passage with
  | @completed records after returns tolerates =>
      have called : index < records.length := by simpa [callsOf] using called
      have width := returns.length_eq
      rw [length_plan] at width
      rw [Course.records_ongoing]
      exact ⟨Nat.le_of_lt called, Nat.lt_of_lt_of_eq called width, tolerates.take index⟩
  | @halted front records back last record after split returns tolerates failFast failure more =>
      have called : index ≤ records.length := by
        simpa [callsOf, Nat.lt_succ_iff] using called
      rw [invocations_begun, Nat.zero_add] at more
      rw [Course.records_halted, List.length_append, List.length_singleton,
        List.take_append_of_le_length called]
      exact ⟨by omega, by omega, tolerates.take index⟩
  | @panicked front back last records middle after split returns tolerates panic =>
      have called : index ≤ records.length := by
        simpa [callsOf, Nat.lt_succ_iff] using called
      obtain ⟨inside, -⟩ := runner.next_of_split split
      rw [← returns.length_eq] at inside
      rw [Course.records_panicked]
      exact ⟨called, by omega, tolerates.take index⟩

/-- Before each of its calls a run has come back from the stretch before it. -/
theorem returns_before_call {index : Nat}
    (called : index < (runner.calls repetitions world).length) :
    ∃ front next back middle,
      plan runner.registry.units 0 repetitions = front ++ next :: back ∧
        Returns runner.dataset front world
          ((runner.course repetitions world).records.take index) middle := by
  obtain ⟨enough, inside, -⟩ := tolerates_before_call called
  obtain ⟨front, back, after, split, returns⟩ := runner.returns_course repetitions world
  have more : index < (front ++ back).length := by
    rw [← split, length_plan]
    exact inside
  rw [split]
  exact returns.before enough more

theorem position_of_call {index : Nat} {call : Call}
    (found : (runner.calls repetitions world)[index]? = some call) :
    call.position = runner.position index := by
  by_cases panicked : call.outcome = .panicked
  · obtain ⟨-, -, calls, -⟩ := run_of_panic found panicked
    obtain ⟨_, _, -, -, here, -⟩ := calls index (Nat.le_refl index)
    rw [Option.some.inj (found.symm.trans here)]
  · obtain ⟨record, -, rfl⟩ := record_of_call found panicked
    rfl

/-- Every call is that of a unit of the registry. -/
theorem exists_unit_of_call {index : Nat}
    (called : index < (runner.calls repetitions world).length) :
    ∃ unit, runner.registry.units[runner.position index]? = some unit := by
  obtain ⟨-, inside, -⟩ := tolerates_before_call called
  have filled : 0 < runner.registry.size :=
    Nat.pos_of_mul_pos_left (Nat.lt_of_le_of_lt (Nat.zero_le index) inside)
  exact ⟨_, List.getElem?_eq_getElem (Nat.mod_lt index filled)⟩

/-- A run that is interrupted at one of its calls makes the same calls before. -/
theorem calls_interrupted {index : Nat}
    (called : index < (runner.calls repetitions world).length) :
    runner.interrupted.calls repetitions (world, index) =
      (runner.calls repetitions world).take index ++
        [⟨runner.position index, runner.dataset, .panicked⟩] := by
  obtain ⟨enough, -, tolerates⟩ := tolerates_before_call called
  obtain ⟨front, next, back, middle, split, returns⟩ := returns_before_call called
  rw [take_calls enough]
  have width : ((runner.course repetitions world).records.take index).length = index :=
    List.length_take_of_le enough
  generalize (runner.course repetitions world).records.take index = records at *
  -- the interrupted run goes the same way as far as the call, where nothing is left
  have interrupted_split := congrArg (List.map Invocation.interrupted) split
  rw [← plan_interrupted, List.map_append, List.map_cons] at interrupted_split
  have begun := returns.interrupted 0
  rw [width] at begun
  have way : Passage runner.interrupted (runner.interrupted.total repetitions) _
      (runner.interrupted.begun repetitions (world, index)) _ :=
    .panicked _ interrupted_split begun (by rwa [total_interrupted]) rfl
  rw [calls_eq, course, follow_of_passage way, callsOf, callOf_interrupted, position_interrupted]
  simp [width]
  rfl

/-- The log up to the announcement of a call, which it ends with. -/
def linesUpTo (runner : Runner σ) (repetitions : Nat) (world : σ) (index : Nat)
    (unit : BenchmarkUnit σ) : List Line :=
  .opening runner.registry.size repetitions runner.dataset ::
    (((runner.calls repetitions world).take index).mapIdx runner.linesOf).flatten ++
      [.announcement (index / runner.registry.size) unit.name]

/-- The log up to the announcement of a call is that of calls of which the last one panics. -/
theorem linesUpTo_eq {index : Nat} {unit : BenchmarkUnit σ}
    (called : index < (runner.calls repetitions world).length)
    (found : runner.registry.units[runner.position index]? = some unit) :
    runner.linesUpTo repetitions world index unit =
      .opening runner.registry.size repetitions runner.dataset ::
        (((runner.calls repetitions world).take index ++
          [(⟨runner.position index, runner.dataset, .panicked⟩ : Call)]).mapIdx
            runner.linesOf).flatten := by
  have width : ((runner.calls repetitions world).take index).length = index :=
    List.length_take_of_le (Nat.le_of_lt called)
  rw [linesUpTo, List.mapIdx_append, List.mapIdx_singleton, Nat.zero_add, width,
    linesOf_of_panic _ found, List.flatten_append, List.flatten_singleton, List.cons_append]

/-- A run that is interrupted at one of its calls has announced it. -/
theorem lines_interrupted {index : Nat} {unit : BenchmarkUnit σ}
    (called : index < (runner.calls repetitions world).length)
    (found : runner.registry.units[runner.position index]? = some unit) :
    runner.interrupted.lines repetitions (world, index) =
      runner.linesUpTo repetitions world index unit := by
  have calls := calls_interrupted called
  have panicked : (runner.interrupted.course repetitions (world, index)).isPanicked = true := by
    rw [isPanicked_iff, calls]
    exact ⟨_, List.mem_append_right _ List.mem_cons_self, rfl⟩
  rw [lines_eq, report_run, panicked, if_pos rfl, calls, linesOf_interrupted, size_interrupted,
    List.append_nil, linesUpTo_eq called found]
  rfl

/-- After the announcement of a call that panics, nothing is logged. -/
theorem lines_of_panic {index : Nat} {unit : BenchmarkUnit σ} {call : Call}
    (called : (runner.calls repetitions world)[index]? = some call)
    (panicked : call.outcome = .panicked)
    (found : runner.registry.units[runner.position index]? = some unit) :
    runner.lines repetitions world = runner.linesUpTo repetitions world index unit := by
  obtain ⟨-, width, calls, report, -⟩ := run_of_panic called panicked
  obtain ⟨_, outcome, -, -, here, last⟩ := calls index (Nat.le_refl index)
  have whole := List.take_of_length_le (Nat.le_of_eq width)
  rw [List.take_add_one, here, last.mpr rfl, Option.toList_some] at whole
  rw [lines_eq, report, List.append_nil, linesUpTo_eq (by omega) found, whole]

end Runner
end DenseBench
