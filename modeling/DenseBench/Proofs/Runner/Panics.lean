import DenseBench.Proofs.Runner.Completion

/-!
# Panics

A call that panics is the last one of its run.  The world is left as that call leaves it, while the
report is lost (`run_of_panic`).  Of the runner only the state changes, and since no run reads the
state, the next run is that of a new runner (`run_eq_run_renewed`).
-/

namespace DenseBench
namespace Runner

variable {σ : Type} {runner : Runner σ}

/-- An invocation leaves the world as the call of its unit does. -/
theorem world_invoke (runner : Runner σ) (total pass : Nat) (unit : BenchmarkUnit σ)
    (progress : Progress σ) :
    (runner.invoke total pass unit progress).progress.world =
      (unit.call runner.dataset progress.world).2 := by
  simp only [invoke]
  generalize unit.call runner.dataset progress.world = reply
  obtain ⟨outcome, after⟩ := reply
  cases outcome with
  | panicked => rfl
  | returned status =>
      by_cases fine : status = 0
      · simp [fine]
      · simp only [fine, if_false]
        split <;> rfl

/-- What every call keeps, a walk along a plan keeps. -/
theorem follow_induction (kept : σ → Prop) (total : Nat) (plan : List (Invocation σ))
    (step : ∀ invocation ∈ plan, ∀ world, kept world →
      kept (invocation.unit.call runner.dataset world).2)
    (progress : Progress σ) (start : kept progress.world) :
    kept (runner.follow total plan progress).progress.world := by
  induction plan generalizing progress with
  | nil => exact start
  | cons invocation rest ih =>
      have after := step invocation List.mem_cons_self progress.world start
      rw [← runner.world_invoke total invocation.pass] at after
      rw [follow]
      cases ended : runner.invoke total invocation.pass invocation.unit progress with
      | ongoing next =>
          rw [ended] at after
          exact ih (fun later member => step later (List.mem_cons_of_mem _ member)) next after
      | halted => rwa [ended] at after
      | panicked => rwa [ended] at after

/-- What every call keeps, a run keeps. -/
theorem run_induction (kept : σ → Prop)
    (step : ∀ unit ∈ runner.registry.units, ∀ world, kept world →
      kept (unit.call runner.dataset world).2)
    (repetitions : Nat) {world : σ} (start : kept world) :
    kept (runner.run repetitions world).world := by
  rw [world_run]
  refine follow_induction kept _ _ ?_ _ start
  intro invocation member
  exact step _ (mem_units_of_mem_plan member)

/-- A run that panics has come back from a stretch of its plan and broken off with the next
invocation. -/
theorem returns_of_isPanicked {repetitions : Nat} {world : σ}
    (panicked : (runner.course repetitions world).isPanicked = true) :
    ∃ front last back records,
      plan runner.registry.units 0 repetitions = front ++ last :: back ∧
        Returns runner.dataset front world records (runner.worldBefore world front.length) ∧
        last.unit.call runner.dataset (runner.worldBefore world front.length) =
          (.panicked, (runner.run repetitions world).world) ∧
        runner.calls repetitions world = records.mapIdx runner.callOf ++
          [⟨runner.position front.length, runner.dataset, .panicked⟩] := by
  rw [world_run, calls_eq]
  have passage := runner.passage_course repetitions world
  generalize runner.course repetitions world = course at *
  cases passage with
  | completed => contradiction
  | halted => contradiction
  | @panicked front back last records middle after split returns tolerates panic =>
      rw [world_begun] at returns
      obtain ⟨middle_eq, -⟩ := returns.indexed split
      subst middle_eq
      refine ⟨front, last, back, records, split, returns, panic, ?_⟩
      simp [callsOf, returns.length_eq]

/-- A call that panics is the last one.  It and the calls before it are those of the first
invocations, and the world is left as they leave it. -/
theorem run_of_panic {repetitions index : Nat} {world : σ} {call : Call}
    (found : (runner.calls repetitions world)[index]? = some call)
    (panicked : call.outcome = .panicked) :
    index < runner.total repetitions ∧ (runner.calls repetitions world).length = index + 1 ∧
      (∀ earlier ≤ index, ∃ unit outcome,
        runner.registry.units[runner.position earlier]? = some unit ∧
          runner.outcome? world earlier = some outcome ∧
          (runner.calls repetitions world)[earlier]? =
            some ⟨runner.position earlier, runner.dataset, outcome⟩ ∧
          (outcome = .panicked ↔ earlier = index)) ∧
      (runner.run repetitions world).report = none ∧
      (runner.run repetitions world).runner = { runner with state := .running } ∧
      (runner.run repetitions world).world = runner.worldBefore world (index + 1) := by
  have ended : (runner.course repetitions world).isPanicked = true :=
    (isPanicked_iff ..).mpr ⟨call, List.mem_of_getElem? found, panicked⟩
  obtain ⟨front, last, back, records, split, returns, panic, calls⟩ := returns_of_isPanicked ended
  obtain ⟨inside, last_found, -⟩ := runner.next_of_split split
  obtain ⟨-, indexed⟩ := returns.indexed split
  have width : (records.mapIdx runner.callOf).length = front.length := by
    rw [List.length_mapIdx, returns.length_eq]
  obtain rfl : index = front.length := by
    have bound : index < (runner.calls repetitions world).length :=
      (List.getElem?_eq_some_iff.mp found).1
    rw [calls, List.length_append, width, List.length_singleton] at bound
    apply Nat.le_antisymm (by omega)
    apply Nat.le_of_not_lt
    intro early
    rw [calls, List.getElem?_append_left (width ▸ early), List.getElem?_mapIdx] at found
    obtain ⟨record, -, rfl⟩ := Option.map_eq_some_iff.mp found
    contradiction
  refine ⟨inside, ?_, ?_, ?_, ?_, ?_⟩
  · rw [calls, List.length_append, width, List.length_singleton]
  · intro earlier bound
    by_cases before : earlier < front.length
    · obtain ⟨unit, status, unit_found, outcome, record⟩ := indexed earlier before
      refine ⟨unit, .returned status, unit_found, outcome, ?_, by simp; omega⟩
      rw [calls, List.getElem?_append_left (width ▸ before), List.getElem?_mapIdx, record]
      rfl
    · obtain rfl : earlier = front.length := by omega
      refine ⟨last.unit, .panicked, last_found, ?_, ?_, by simp⟩
      · simp [outcome?, last_found, panic]
      · rw [calls, List.getElem?_append_right (Nat.le_of_eq width), width, Nat.sub_self]
        rfl
  · rw [report_run, ended]
    rfl
  · rw [runner_run, ended]
    rfl
  · simp [worldBefore, last_found, panic]

/-- The runner as it was when it was new, with the policy of now. -/
def renewed (runner : Runner σ) : Runner σ :=
  (Runner.new runner.registry runner.dataset).withPolicy runner.policy

theorem course_renewed (runner : Runner σ) (repetitions : Nat) (world : σ) :
    runner.renewed.course repetitions world = runner.course repetitions world := by
  have passage := runner.passage_course repetitions world
  generalize runner.course repetitions world = course at *
  apply follow_of_passage
  cases passage with
  | completed returns tolerates => exact .completed returns tolerates
  | halted front records split returns tolerates failFast failure more =>
      exact .halted front records split returns tolerates failFast failure more
  | panicked front split returns tolerates panic =>
      exact .panicked front split returns tolerates panic

/-- No run depends on the state that the runs before it have left. -/
theorem run_eq_run_renewed (runner : Runner σ) (repetitions : Nat) (world : σ) :
    runner.run repetitions world = runner.renewed.run repetitions world := by
  rw [run_eq_close, run_eq_close, course_renewed]
  cases runner.course repetitions world <;> rfl

/-- No run calls other units because of the state that the runs before it have left. -/
theorem calls_renewed (runner : Runner σ) (repetitions : Nat) (world : σ) :
    runner.renewed.calls repetitions world = runner.calls repetitions world := by
  rw [calls_eq, calls_eq, course_renewed]
  rfl

/-- After a run without panics the runner is as good as new. -/
theorem runner_run_of_calm {repetitions : Nat} {world : σ}
    (calm : (runner.course repetitions world).isPanicked = false) :
    (runner.run repetitions world).runner = runner.renewed := by
  rw [runner_run, calm]
  rfl

/-- The report of a run has one record for each of its own calls, counted from the first unit in the
first pass. -/
theorem record_of_report {repetitions : Nat} {world : σ} {report : Report}
    (finished : (runner.run repetitions world).report = some report) :
    report.records.size = (runner.calls repetitions world).length ∧
      ∀ index record, report.records[index]? = some record →
        ∃ unit, runner.registry.units[runner.position index]? = some unit ∧
          record.unit = unit.name ∧ record.pass = index / runner.registry.size ∧
          (runner.calls repetitions world)[index]? =
            some ⟨runner.position index, runner.dataset, .returned record.status⟩ := by
  rw [report_run] at finished
  split at finished
  next => contradiction
  next calm =>
    obtain rfl := Option.some.inj finished
    refine ⟨by simp [calls_eq, callsOf, calm, Course.records], ?_⟩
    intro index record found
    have recorded : (runner.course repetitions world).records[index]? = some record := by
      rw [← found]
      exact Array.getElem?_toList
    obtain ⟨front, back, after, split, returns⟩ := runner.returns_course repetitions world
    obtain ⟨-, indexed⟩ := returns.indexed split
    have inside : index < front.length := by
      rw [← returns.length_eq]
      exact (List.getElem?_eq_some_iff.mp recorded).1
    obtain ⟨unit, status, unit_found, -, here⟩ := indexed index inside
    obtain rfl := Option.some.inj (recorded.symm.trans here)
    exact ⟨unit, unit_found, rfl, rfl, getElem?_calls recorded⟩

end Runner
end DenseBench
