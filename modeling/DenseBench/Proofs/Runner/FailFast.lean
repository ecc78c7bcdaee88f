import DenseBench.Proofs.Runner.Completion

/-!
# Failing fast

A run that is to fail fast is a truncation of the run that keeps going.  As long as nothing fails
with something left to skip, both runs make the same calls and end the same way, panics included.
The first such failure ends the hasty run with a report, whatever the steady run goes on to do.
-/

namespace DenseBench
namespace Runner

variable {σ : Type}

/-- The record that the call of invocation number `index` leaves if it comes back. -/
def recordOf? (runner : Runner σ) (index : Nat) (call : Call) : Option InvocationRecord :=
  match runner.registry.units[call.position]?, call.outcome with
  | some unit, .returned status => some ⟨unit.name, index / runner.registry.size, status⟩
  | _, _ => none

@[simp]
theorem isFailure_callOf (runner : Runner σ) (index : Nat) (record : InvocationRecord) :
    (runner.callOf index record).isFailure = record.isFailure := rfl

/-- The records of a run can be read off its calls. -/
theorem mapIdx_recordOf? {runner : Runner σ} {repetitions : Nat} {world after : σ}
    {front back : List (Invocation σ)} {records : List InvocationRecord}
    (split : plan runner.registry.units 0 repetitions = front ++ back)
    (returns : Returns runner.dataset front world records after) :
    (records.mapIdx runner.callOf).mapIdx runner.recordOf? = records.map some := by
  refine returns.mapIdx_callOf split ?_
  intro index unit status found
  simp [recordOf?, found]

/-- The first records of a run can be read off its first calls. -/
theorem mapIdx_recordOf?_take {runner : Runner σ} {repetitions count : Nat} {world : σ}
    (enough : count ≤ (runner.course repetitions world).records.length) :
    ((runner.calls repetitions world).take count).mapIdx runner.recordOf? =
      ((runner.course repetitions world).records.take count).map some := by
  obtain ⟨front, back, after, split, returns⟩ := runner.returns_course repetitions world
  rw [← List.take_append_drop count (runner.course repetitions world).records] at returns
  obtain ⟨first, middle, second, rfl, returns, -⟩ := returns.cut
  rw [List.append_assoc] at split
  rw [take_calls enough, mapIdx_recordOf? split returns]

/-- While something is left to skip, a run that is to fail fast tolerates no failure. -/
theorem filter_isFailure_eq_nil {runner : Runner σ} {total : Nat}
    {records : List InvocationRecord} (failFast : runner.policy = .failFast)
    (tolerates : runner.Tolerates total 0 records) (more : records.length < total) :
    records.filter InvocationRecord.isFailure = [] := by
  rw [List.filter_eq_nil_iff]
  intro record member failure
  obtain ⟨index, found⟩ := List.mem_iff_getElem?.mp member
  have bound := tolerates failFast index record found failure
  have inside : index < records.length := (List.getElem?_eq_some_iff.mp found).1
  omega

/-- If a run that is to fail fast reports a failure, then that is its last record and its only
failure. -/
theorem records_of_failure {runner : Runner σ} {repetitions : Nat} {world : σ}
    (failFast : runner.policy = .failFast)
    (calm : (runner.course repetitions world).isPanicked = false)
    (failed :
      (runner.course repetitions world).records.filter InvocationRecord.isFailure ≠ []) :
    ∃ front last, (runner.course repetitions world).records = front ++ [last] ∧
      front.filter InvocationRecord.isFailure = [] ∧ last.isFailure = true := by
  have passage := runner.passage_course repetitions world
  generalize runner.course repetitions world = course at *
  cases passage with
  | @completed records after returns tolerates =>
      simp only [Course.records, Course.progress_ongoing, report_extend_begun] at failed ⊢
      rcases List.eq_nil_or_concat records with rfl | ⟨front, last, rfl⟩
      · simp at failed
      · rw [List.concat_eq_append] at returns tolerates failed ⊢
        have width : front.length + 1 = runner.total repetitions := by
          simpa [total, Registry.size] using returns.length_eq
        have fine := filter_isFailure_eq_nil failFast tolerates.left (by omega)
        refine ⟨front, last, rfl, fine, ?_⟩
        simpa [List.filter_append, fine] using failed
  | @halted front records back last record after split returns tolerates failFast failure more =>
      rw [invocations_begun, Nat.zero_add] at more
      have fine := filter_isFailure_eq_nil failFast tolerates (by omega)
      exact ⟨records, record, by simp, fine, failure⟩
  | panicked => contradiction

/-- No report of a run that is to fail fast has two failures. -/
theorem failureCount_le_one {runner : Runner σ} {repetitions : Nat} {world : σ} {report : Report}
    (failFast : runner.policy = .failFast)
    (finished : (runner.run repetitions world).report = some report) :
    report.failureCount ≤ 1 := by
  obtain ⟨calm, rfl⟩ := report_run_eq_some_iff.mp finished
  simp only [Report.failureCount, Report.failures]
  by_cases failed :
      (runner.course repetitions world).records.filter InvocationRecord.isFailure = []
  · simp [failed]
  · obtain ⟨front, last, records, fine, failure⟩ := records_of_failure failFast calm failed
    simp [records, List.filter_append, fine, failure]

/-- The first failure with something left to skip ends a run that is to fail fast. -/
theorem course_of_failure (runner : Runner σ) {repetitions : Nat} {world after : σ}
    {front back : List (Invocation σ)} {records : List InvocationRecord}
    {record : InvocationRecord} (failFast : runner.policy = .failFast)
    (split : plan runner.registry.units 0 repetitions = front ++ back)
    (returns : Returns runner.dataset front world (records ++ [record]) after)
    (fine : records.filter InvocationRecord.isFailure = []) (failure : record.isFailure = true)
    (more : records.length + 1 < runner.total repetitions) :
    runner.course repetitions world =
      .halted ((runner.begun repetitions world).extend (records ++ [record]) after).cutShort := by
  obtain ⟨early, middle, late, rfl, -, last_returns⟩ := returns.cut
  cases last_returns with
  | @cons last _ _ _ _ _ _ call rest =>
      cases rest
      have whole : plan runner.registry.units 0 repetitions = early ++ last :: back := by
        rw [split, List.append_assoc, List.singleton_append]
      refine follow_of_passage (.halted early records whole returns ?_ failFast failure ?_)
      · intro _ index earlier found failure
        have member := List.mem_of_getElem? found
        exact absurd failure (List.filter_eq_nil_iff.mp fine earlier member)
      · simpa using more

/-- The policy makes no difference to a run whose failures it tolerates. -/
theorem course_withPolicy (runner : Runner σ) (policy : FailurePolicy) {repetitions : Nat}
    {world : σ} (keepGoing : runner.policy = .keepGoing)
    (tolerates : (runner.withPolicy policy).Tolerates
      ((runner.withPolicy policy).total repetitions) 0 (runner.course repetitions world).records) :
    (runner.withPolicy policy).course repetitions world = runner.course repetitions world := by
  have passage := runner.passage_course repetitions world
  generalize runner.course repetitions world = course at *
  apply follow_of_passage
  cases passage with
  | completed returns _ =>
      exact .completed returns (by simpa using tolerates)
  | halted _ _ _ _ _ failFast => exact absurd (failFast.symm.trans keepGoing) (by decide)
  | panicked front split returns _ panic =>
      exact .panicked front split returns
        (by simpa using tolerates) panic

/-- Whatever a run goes on to do, failing fast ends it with its first failure that leaves something
to skip. -/
theorem course_of_first_failure (runner : Runner σ) {repetitions first : Nat} {world : σ}
    {record : InvocationRecord}
    (found : (runner.course repetitions world).records[first]? = some record)
    (failure : record.isFailure = true) (more : first + 1 < runner.total repetitions)
    (least : ∀ index < first, ∀ earlier,
      (runner.course repetitions world).records[index]? = some earlier →
        earlier.isFailure = false) :
    (runner.course repetitions world).records.take (first + 1) =
        (runner.course repetitions world).records.take first ++ [record] ∧
      ((runner.course repetitions world).records.take first).filter
          InvocationRecord.isFailure = [] ∧
      ∃ after, (runner.withPolicy .failFast).course repetitions world =
        .halted ((runner.begun repetitions world).extend
          ((runner.course repetitions world).records.take (first + 1)) after).cutShort := by
  obtain ⟨front, back, after, split, returns⟩ := runner.returns_course repetitions world
  generalize (runner.course repetitions world).records = records at *
  have inside : first < records.length := (List.getElem?_eq_some_iff.mp found).1
  have front_records : records.take (first + 1) = records.take first ++ [record] := by
    rw [List.take_add_one, found]
    rfl
  have fine : (records.take first).filter InvocationRecord.isFailure = [] := by
    rw [List.filter_eq_nil_iff]
    intro earlier member failure
    obtain ⟨index, before, rfl⟩ := List.mem_take_iff_getElem.mp member
    have bound : index < first := by omega
    rw [least index bound _ (List.getElem?_eq_getElem _)] at failure
    contradiction
  rw [← List.take_append_drop (first + 1) records] at returns
  obtain ⟨left, middle, right, rfl, returns, -⟩ := returns.cut
  rw [List.append_assoc] at split
  rw [front_records] at returns ⊢
  refine ⟨rfl, fine, middle, ?_⟩
  apply course_of_failure (runner.withPolicy .failFast) rfl split returns fine failure
  rw [List.length_take_of_le (Nat.le_of_lt inside)]
  exact more

/-- The hasty run makes the calls up to the first failure and reports them. -/
theorem run_of_first_failure (runner : Runner σ) {repetitions first : Nat} {world : σ}
    {call : Call} (found : (runner.calls repetitions world)[first]? = some call)
    (failure : call.isFailure = true) (more : first + 1 < runner.total repetitions)
    (least : ∀ index < first, ∀ earlier,
      (runner.calls repetitions world)[index]? = some earlier → earlier.isFailure = false) :
    let calls := (runner.calls repetitions world).take (first + 1)
    (runner.withPolicy .failFast).calls repetitions world = calls ∧
      ∃ report, ((runner.withPolicy .failFast).run repetitions world).report = some report ∧
        report.records.toList.map some = calls.mapIdx runner.recordOf? ∧
        report.failures.map some = [runner.recordOf? first call] ∧
        report.haltedEarly = true ∧ report.exitCode = 1 ∧
        ∀ full, (runner.run repetitions world).report = some full →
          report.records.toList = full.records.toList.take (first + 1) := by
  intro calls
  have returned : call.outcome ≠ .panicked := by
    intro panicked
    simp [Call.isFailure, panicked] at failure
  obtain ⟨record, here, rfl⟩ := record_of_call found returned
  obtain ⟨parts, fine, after, ended⟩ := runner.course_of_first_failure here failure more
    fun index before earlier position => least index before _ (getElem?_calls position)
  have enough := (List.getElem?_eq_some_iff.mp here).1
  have readable : calls.mapIdx runner.recordOf? = _ := mapIdx_recordOf?_take enough
  have readable_call : runner.recordOf? first (runner.callOf first record) = some record := by
    have at_first := congrArg (·[first]?) readable
    simpa [calls, found, here] using at_first
  have hasty_records : ((runner.withPolicy .failFast).course repetitions world).records =
      (runner.course repetitions world).records.take (first + 1) := by
    rw [ended]
    simp
  refine ⟨?_, ((runner.withPolicy .failFast).course repetitions world).progress.report, ?_, ?_, ?_,
    ?_, ?_, ?_⟩
  · rw [Runner.calls_eq, callsOf, hasty_records, show calls = _ from take_calls enough, ended]
    simp
    rfl
  · rw [report_run, ended]
    rfl
  · rw [readable, ← hasty_records]
    rfl
  · rw [readable_call, Report.failures]
    change (List.filter _ (Course.records _)).map some = _
    rw [hasty_records, parts, List.filter_append, fine]
    simpa using failure
  · rw [ended]
    rfl
  · rw [ended]
    rfl
  · intro full finished
    rw [report_run] at finished
    split at finished
    next => contradiction
    next =>
      obtain rfl := Option.some.inj finished
      exact hasty_records

/-- Failing fast truncates a run.  Without an early failure, both policies make the same calls and
end the same way.  With one, the hasty run ends there and reports it. -/
theorem run_failFast (runner : Runner σ) (repetitions : Nat) (world : σ) :
    let steady := runner.withPolicy .keepGoing
    let hasty := runner.withPolicy .failFast
    let total := runner.total repetitions
    let calls := steady.calls repetitions world
    let full := steady.run repetitions world
    let cut := hasty.run repetitions world
    (Call.NoEarlyFailure total calls →
      hasty.calls repetitions world = calls ∧ cut.report = full.report ∧
        cut.world = full.world ∧ cut.runner.state = full.runner.state) ∧
    (¬Call.NoEarlyFailure total calls →
      ∃ first call, calls[first]? = some call ∧ call.isFailure = true ∧ first + 1 < total ∧
        (∀ index < first, ∀ earlier, calls[index]? = some earlier → earlier.isFailure = false) ∧
        hasty.calls repetitions world = calls.take (first + 1) ∧
        ∃ report, cut.report = some report ∧
          report.records.toList.map some = (calls.take (first + 1)).mapIdx runner.recordOf? ∧
          report.failures.map some = [runner.recordOf? first call] ∧
          report.haltedEarly = true ∧ report.exitCode = 1 ∧
          ∀ fullReport, full.report = some fullReport →
            report.records.toList = fullReport.records.toList.take (first + 1)) ∧
    ∀ report, cut.report = some report → report.failureCount ≤ 1 := by
  intro steady hasty total calls full cut
  refine ⟨?_, ?_, fun report => failureCount_le_one rfl⟩
  · intro fine
    have same : hasty.course repetitions world = steady.course repetitions world := by
      refine steady.course_withPolicy .failFast rfl ?_
      intro _ index record found failure
      have bound := fine index _ (getElem?_calls found) failure
      rwa [Nat.zero_add]
    refine ⟨?_, ?_, ?_, ?_⟩
    · rw [calls_eq, same]
      exact (steady.calls_eq repetitions world).symm
    · rw [report_run, report_run, same]
    · rw [world_run, world_run, same]
    · rw [runner_run, runner_run, same]
  · intro early
    obtain ⟨first, call, found, failure, more, least⟩ := Call.exists_first_failure early
    exact ⟨first, call, found, failure, more, least,
      steady.run_of_first_failure found failure more least⟩

/-- A unit that is fine, and one that fails in the second pass and panics in the third one. -/
def brittle : Runner Nat where
  registry := ⟨[⟨"steady", fun _ calls => (.returned 0, calls + 1)⟩,
    ⟨"brittle", fun _ calls =>
      (if calls < 3 then .returned 0 else if calls < 5 then .returned 7 else .panicked,
        calls + 1)⟩]⟩
  dataset := .small
  policy := .keepGoing
  state := .idle

/-- Going on would run into the panic; failing fast reports the failure before it. -/
theorem run_failFast_brittle :
    (brittle.run 4 0).report = none ∧
      (brittle.withPolicy .failFast).calls 4 0 =
        [⟨0, .small, .returned 0⟩, ⟨1, .small, .returned 0⟩, ⟨0, .small, .returned 0⟩,
          ⟨1, .small, .returned 7⟩] ∧
      ∃ report, ((brittle.withPolicy .failFast).run 4 0).report = some report ∧
        report.haltedEarly = true ∧ report.exitCode = 1 ∧ report.failureCount ≤ 1 := by
  obtain ⟨-, truncated, one⟩ := run_failFast brittle 4 0
  have early : ¬Call.NoEarlyFailure (brittle.total 4) (brittle.calls 4 0) := by
    intro fine
    exact absurd (fine 3 ⟨1, .small, .returned 7⟩ (by decide) (by decide)) (by decide)
  obtain ⟨_, _, _, _, _, _, _, report, finished, -, -, halted, code, -⟩ := truncated early
  exact ⟨by decide, by decide, report, finished, halted, code, one report finished⟩

end Runner
end DenseBench
