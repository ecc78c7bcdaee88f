import DenseBench.Proofs.Runner.FailFast
import DenseBench.Proofs.Runner.Panics

/-!
# Runs in parts

The passes of a run may be split over two runs, the second of which starts in the world that the
first one leaves.  If the first part ends without a failure, or the runner keeps going, then the
second part does what the undivided run does in its later passes, only that it counts them from zero
again.  If the first part of a run that is to fail fast reports a failure, then the undivided run
ends there.
-/

namespace DenseBench

/-- The same record, some passes later. -/
def InvocationRecord.delay (record : InvocationRecord) (passes : Nat) : InvocationRecord :=
  { record with pass := record.pass + passes }

@[simp]
theorem InvocationRecord.isFailure_delay (record : InvocationRecord) (passes : Nat) :
    (record.delay passes).isFailure = record.isFailure := rfl

/-- The same invocation, some passes later. -/
def Invocation.delay {σ : Type} (invocation : Invocation σ) (passes : Nat) : Invocation σ :=
  { invocation with pass := invocation.pass + passes }

/-- A complete report and another one add up to that of both, as far as passes are concerned. -/
theorem Report.passesCompleted_add {whole first second : Report}
    (first_units : first.unitsPerPass = whole.unitsPerPass)
    (second_units : second.unitsPerPass = whole.unitsPerPass)
    (repetitions : whole.repetitions = first.repetitions + second.repetitions)
    (invocations : whole.invocations = first.invocations + second.invocations)
    (complete : first.invocations = first.repetitions * whole.unitsPerPass) :
    whole.passesCompleted = first.passesCompleted + second.passesCompleted := by
  rw [passesCompleted, passesCompleted, passesCompleted, first_units, second_units]
  split
  next => exact repetitions
  next filled =>
    have positive := Nat.pos_of_ne_zero filled
    rw [invocations, complete, Nat.add_comm, Nat.add_mul_div_right _ _ positive,
      Nat.mul_div_cancel _ positive, Nat.add_comm]

namespace Runner

variable {σ : Type}

theorem plan_add (units : List (BenchmarkUnit σ)) (first early late : Nat) :
    plan units first (early + late) =
      plan units first early ++ plan units (first + early) late := by
  rw [plan, plan, plan, ← List.flatMap_append, List.range'_append_1]

theorem plan_delay (units : List (BenchmarkUnit σ)) (first count passes : Nat) :
    plan units (first + passes) count =
      (plan units first count).map fun invocation => invocation.delay passes := by
  induction count generalizing first with
  | zero => rfl
  | succ count ih =>
      rw [plan_succ, plan_succ, List.map_append, List.map_map, ← ih, Nat.add_right_comm]
      rfl

/-- In which passes a stretch is walked makes no difference but for the records. -/
theorem Returns.delay {dataset : DatasetSize} {plan : List (Invocation σ)} {before after : σ}
    {records : List InvocationRecord} (returns : Returns dataset plan before records after)
    (passes : Nat) :
    Returns dataset (plan.map fun invocation => invocation.delay passes) before
      (records.map fun record => record.delay passes) after := by
  induction returns with
  | nil world => exact .nil world
  | cons call _ ih => exact .cons call ih

/-- Only what is left to skip matters for the policy, not what went before. -/
theorem tolerates_delay_iff (runner : Runner σ) (total done more passes : Nat)
    (records : List InvocationRecord) :
    runner.Tolerates (more + total) (more + done)
        (records.map fun record => record.delay passes) ↔
      runner.Tolerates total done records := by
  induction records generalizing done with
  | nil => simp [tolerates_nil]
  | cons record records ih =>
      rw [List.map_cons, tolerates_cons_iff, tolerates_cons_iff, Nat.add_assoc, ih]
      simp

theorem total_add (runner : Runner σ) (early late : Nat) :
    runner.total (early + late) = runner.total early + runner.total late :=
  Nat.add_mul ..

section Parts

variable {runner : Runner σ} {early : Nat} {world middle : σ} {records : List InvocationRecord}

/-- The later passes of a run go like a run of their own. -/
theorem course_add
    (returns : Returns runner.dataset (plan runner.registry.units 0 early) world records middle)
    (fine : runner.policy = .keepGoing ∨ records.filter InvocationRecord.isFailure = [])
    (late : Nat) :
    (runner.course (early + late) world).records =
        records ++ (runner.course late middle).records.map (fun record => record.delay early) ∧
      (runner.course (early + late) world).isPanicked =
        (runner.course late middle).isPanicked ∧
      (runner.course (early + late) world).isHalted = (runner.course late middle).isHalted ∧
      (runner.course (early + late) world).progress.world =
        (runner.course late middle).progress.world := by
  have width : records.length = runner.total early := by
    rw [returns.length_eq, length_plan]
    rfl
  let half := (runner.begun (early + late) world).extend records middle
  have done : half.report.invocations = runner.total early := by
    rw [Progress.invocations_extend, invocations_begun, Nat.zero_add, width]
  have resumed : runner.course (early + late) world =
      runner.follow (runner.total early + runner.total late)
        ((plan runner.registry.units 0 late).map fun invocation => invocation.delay early)
        half := by
    rw [← plan_delay, ← total_add, course, plan_add, follow_append,
      follow_of_returns returns (tolerates_of_fine fine _ _), Course.andThen_ongoing]
  have later {more : List InvocationRecord}
      (tolerates : runner.Tolerates (runner.total late) 0 more) :
      runner.Tolerates (runner.total early + runner.total late) half.report.invocations
        (more.map fun record => record.delay early) := by
    rw [done]
    exact (tolerates_delay_iff runner _ 0 _ early more).mpr tolerates
  rw [resumed]
  have passage := runner.passage_course late middle
  generalize runner.course late middle = second at *
  -- each way through the second part is the same way through the rest of the whole
  cases passage with
  | @completed more after returns tolerates =>
      have way : Passage runner _ _ half _ :=
        .completed (returns.delay early) (later tolerates)
      rw [follow_of_passage way]
      simp [half]
  | @halted front more back last record after split returns tolerates failFast failure left =>
      have delayed_split := congrArg (List.map fun invocation => invocation.delay early) split
      rw [List.map_append, List.map_cons] at delayed_split
      have delayed := returns.delay early
      rw [List.map_append, List.map_append] at delayed
      rw [invocations_begun, Nat.zero_add] at left
      have rest : half.report.invocations + (more.map fun record => record.delay early).length + 1 <
          runner.total early + runner.total late := by
        rw [done, List.length_map]
        omega
      have way : Passage runner _ _ half _ :=
        .halted _ _ delayed_split delayed (later tolerates) failFast failure rest
      rw [follow_of_passage way]
      simp [half]
  | @panicked front back last more between after split returns tolerates panic =>
      have delayed_split := congrArg (List.map fun invocation => invocation.delay early) split
      rw [List.map_append, List.map_cons] at delayed_split
      have way : Passage runner _ _ half _ :=
        .panicked _ delayed_split (returns.delay early) (later tolerates) panic
      rw [follow_of_passage way]
      simp [half]

/-- The calls of the two parts are those of the whole. -/
theorem calls_add
    (returns : Returns runner.dataset (plan runner.registry.units 0 early) world records middle)
    (fine : runner.policy = .keepGoing ∨ records.filter InvocationRecord.isFailure = [])
    (late : Nat) :
    runner.calls (early + late) world =
      records.mapIdx runner.callOf ++ runner.calls late middle := by
  have width : records.length = runner.total early := by
    rw [returns.length_eq, length_plan]
    rfl
  obtain ⟨whole_records, panicked, -, -⟩ := course_add returns fine late
  have position (index : Nat) :
      runner.position (index + records.length) = runner.position index := by
    rw [width]
    exact Nat.add_mul_mod_self_right ..
  have delayed (more : List InvocationRecord) :
      (records ++ more.map fun record => record.delay early).mapIdx runner.callOf =
        records.mapIdx runner.callOf ++ more.mapIdx runner.callOf := by
    rw [List.mapIdx_append]
    congr 1
    apply List.ext_getElem?
    intro index
    rw [List.getElem?_mapIdx, List.getElem?_mapIdx, List.getElem?_map, Option.map_map]
    congr 1
    funext record
    simp [callOf, position, InvocationRecord.delay]
  rw [calls_eq, calls_eq, callsOf, callsOf, whole_records, panicked, delayed, List.append_assoc,
    List.length_append, List.length_map, Nat.add_comm records.length, position]

/-- If the first part of a run that is to fail fast reports a failure, then the whole is over. -/
theorem course_add_of_failure {late : Nat} (failFast : runner.policy = .failFast)
    (calm : (runner.course early world).isPanicked = false)
    (failed : (runner.course early world).records.filter InvocationRecord.isFailure ≠ [])
    (more : 0 < runner.total late) :
    (runner.course (early + late) world).records = (runner.course early world).records ∧
      (runner.course (early + late) world).isPanicked = false ∧
      (runner.course (early + late) world).isHalted = true ∧
      (runner.course (early + late) world).progress.world =
        (runner.course early world).progress.world := by
  obtain ⟨records, record, records_eq, fine, failure⟩ := records_of_failure failFast calm failed
  obtain ⟨front, back, split, returns⟩ := returns_of_calm calm
  have whole_split : plan runner.registry.units 0 (early + late) =
      front ++ (back ++ plan runner.registry.units (0 + early) late) := by
    rw [plan_add, split, List.append_assoc]
  have left : records.length + 1 < runner.total (early + late) := by
    have bound := runner.length_records_le early world
    rw [records_eq, List.length_append, List.length_singleton] at bound
    rw [total_add]
    omega
  rw [records_eq] at returns ⊢
  rw [runner.course_of_failure failFast whole_split returns fine failure left]
  simp

end Parts

/-- A run may be split into two.  If the runner keeps going, or the first part reports no failure,
then both parts together make the calls of the whole and report its records, those of the second
part with their passes counted from the end of the first one.  If the first part of a run that is to
fail fast reports a failure, and the second part has something to do, then the whole ends with that
failure, even if it was the last invocation of the first part. -/
theorem run_add (runner : Runner σ) (early late : Nat) (world : σ)
    (returning : ∀ call ∈ runner.calls early world, call.outcome ≠ .panicked) :
    let begun := runner.run early world
    let rest := begun.runner.run late begun.world
    let whole := runner.run (early + late) world
    let earlyCalls := runner.calls early world
    let lateCalls := begun.runner.calls late begun.world
    let wholeCalls := runner.calls (early + late) world
    ∃ first, begun.report = some first ∧
      (runner.policy = .keepGoing ∨ first.failureCount = 0 →
        wholeCalls = earlyCalls ++ lateCalls ∧ whole.world = rest.world ∧
        ((∀ call ∈ lateCalls, call.outcome ≠ .panicked) →
          ∃ second report, rest.report = some second ∧ whole.report = some report ∧
            report.records.toList =
              first.records.toList ++
                second.records.toList.map (fun record => record.delay early) ∧
            report.failureCount = first.failureCount + second.failureCount ∧
            report.passesCompleted = first.passesCompleted + second.passesCompleted ∧
            report.haltedEarly = second.haltedEarly)) ∧
      (runner.policy = .failFast → first.failureCount ≠ 0 → 0 < late * runner.registry.size →
        wholeCalls = earlyCalls ∧ whole.world = begun.world ∧
        ∃ report, whole.report = some report ∧ report.records = first.records ∧
          report.haltedEarly = true) := by
  intro begun rest whole earlyCalls lateCalls wholeCalls
  have calm := isPanicked_eq_false_iff.mpr returning
  have first_calls : earlyCalls = (runner.course early world).records.mapIdx runner.callOf := by
    rw [show earlyCalls = _ from runner.calls_eq early world, callsOf, calm]
    exact List.append_nil _
  have idle : begun.runner = runner.renewed := runner_run_of_calm calm
  have begun_world : begun.world = (runner.course early world).progress.world :=
    runner.world_run early world
  have rest_eq : rest = runner.run late (runner.course early world).progress.world := by
    rw [show rest = begun.runner.run late begun.world from rfl, idle, begun_world]
    exact (run_eq_run_renewed ..).symm
  have late_calls : lateCalls = runner.calls late (runner.course early world).progress.world := by
    rw [show lateCalls = begun.runner.calls late begun.world from rfl, idle, begun_world,
      calls_renewed]
  refine ⟨_, report_run_eq_some_iff.mpr ⟨calm, rfl⟩, ?_, ?_⟩
  · intro fine
    have fine : runner.policy = .keepGoing ∨
        (runner.course early world).records.filter InvocationRecord.isFailure = [] := by
      simpa [Report.failureCount, Report.failures] using fine
    have returns := returns_of_fine calm fine
    obtain ⟨records, panicked, halted, world_eq⟩ := course_add returns fine late
    refine ⟨?_, ?_, ?_⟩
    · rw [first_calls, late_calls]
      exact calls_add returns fine late
    · rw [rest_eq, show whole.world = _ from runner.world_run _ world, world_eq, world_run]
    · intro late_returning
      rw [late_calls] at late_returning
      have late_calm := isPanicked_eq_false_iff.mpr late_returning
      rw [rest_eq]
      refine ⟨_, _, report_run_eq_some_iff.mpr ⟨late_calm, rfl⟩,
        report_run_eq_some_iff.mpr ⟨panicked.trans late_calm, rfl⟩, ?_, ?_, ?_, halted⟩
      · exact records
      · simp [Report.failureCount, Report.failures, records, List.filter_append, List.filter_map,
          Function.comp_def]
      · refine Report.passesCompleted_add ?_ ?_ ?_ ?_ ?_
        · rfl
        · rfl
        · rfl
        · simp [Report.invocations, records]
        · rw [Report.invocations, List.size_toArray, returns.length_eq, length_plan]
          rfl
  · intro failFast failed more
    have failed : (runner.course early world).records.filter InvocationRecord.isFailure ≠ [] := by
      simpa [Report.failureCount, Report.failures] using failed
    obtain ⟨records, panicked, halted, world_eq⟩ :=
      course_add_of_failure failFast calm failed more
    refine ⟨?_, ?_, _, report_run_eq_some_iff.mpr ⟨panicked, rfl⟩, ?_, halted⟩
    · rw [first_calls, show wholeCalls = _ from runner.calls_eq _ world, callsOf, panicked, records]
      exact List.append_nil _
    · rw [begun_world, show whole.world = _ from runner.world_run _ world, world_eq]
    · rw [records]

/-- Failing fast, the weary unit ends a run of three passes with what is the last invocation of a
run of two.  Keeping going, two passes and one more make three. -/
theorem run_add_weary :
    (∀ call ∈ weary.calls 2 0, call.outcome ≠ .panicked) ∧
    (∃ first whole, (weary.run 2 0).report = some first ∧ (weary.run 3 0).report = some whole ∧
      first.haltedEarly = false ∧ whole.records = first.records ∧ whole.haltedEarly = true) ∧
    ∃ first second whole,
      ((weary.withPolicy .keepGoing).run 2 0).report = some first ∧
        ((weary.withPolicy .keepGoing).run 1 4).report = some second ∧
        ((weary.withPolicy .keepGoing).run 3 0).report = some whole ∧
        whole.records.toList =
          first.records.toList ++ second.records.toList.map (fun record => record.delay 2) ∧
        whole.passesCompleted = first.passesCompleted + second.passesCompleted := by
  refine ⟨by decide, ?_, ?_⟩
  · obtain ⟨first, finished, -, hasty⟩ := run_add weary 2 1 0 (by decide)
    obtain rfl := Option.some.inj finished
    obtain ⟨-, -, whole, whole_finished, records, halted⟩ := hasty rfl (by decide) (by decide)
    exact ⟨_, whole, finished, whole_finished, by decide, records, halted⟩
  · obtain ⟨first, finished, steady, -⟩ :=
      run_add (weary.withPolicy .keepGoing) 2 1 0 (by decide)
    obtain ⟨-, -, returning⟩ := steady (.inl rfl)
    obtain ⟨second, whole, second_finished, whole_finished, records, -, passes, -⟩ :=
      returning (by decide)
    exact ⟨first, second, whole, finished, second_finished, whole_finished, records, passes⟩

end Runner
end DenseBench
