import DenseBench.Proofs.Runner.Calls
import Mathlib.Data.List.Induction

/-!
# Runs without panics

In a run in which every call comes back, the flat index of an invocation says everything about it:
which unit is called, in which pass, in which world, and where its record stands.  The main
statement gives the whole report of such a run, its calls and its runner.
-/

namespace DenseBench
namespace Runner

variable {σ : Type}

/-- The world that invocation number `index` finds, if nothing ends the run before it. -/
def worldBefore (runner : Runner σ) (world : σ) : Nat → σ
  | 0 => world
  | index + 1 =>
    match runner.registry.units[runner.position index]? with
    | some unit => (unit.call runner.dataset (runner.worldBefore world index)).2
    | none => runner.worldBefore world index

/-- How the call of invocation number `index` ends, if nothing ends the run before it. -/
def outcome? (runner : Runner σ) (world : σ) (index : Nat) : Option Outcome :=
  runner.registry.units[runner.position index]?.map fun unit =>
    (unit.call runner.dataset (runner.worldBefore world index)).1

/-- Whether invocation number `index` reports a failure. -/
def fails (runner : Runner σ) (world : σ) (index : Nat) : Bool :=
  match runner.outcome? world index with
  | some (.returned status) => status != 0
  | _ => false

/-- The number of calls that a run makes if no unit panics.  A run that is to fail fast ends with
its first failure; every other run is complete. -/
def callCount (runner : Runner σ) (repetitions : Nat) (world : σ) : Nat :=
  match runner.policy with
  | .keepGoing => runner.total repetitions
  | .failFast =>
    match (List.range (runner.total repetitions)).find? (runner.fails world) with
    | some first => first + 1
    | none => runner.total repetitions

section CallCount

variable {runner : Runner σ} {repetitions : Nat} {world : σ}

/-- A run is complete if nothing fails before its last invocation. -/
theorem callCount_eq_total
    (fine : runner.policy = .failFast → ∀ index < runner.total repetitions,
      runner.fails world index = true → runner.total repetitions ≤ index + 1) :
    runner.callCount repetitions world = runner.total repetitions := by
  rw [callCount]
  split
  next => rfl
  next failFast =>
    split
    next first found =>
      obtain ⟨failure, inside, -⟩ := List.find?_range_eq_some.mp found
      have inside : first < runner.total repetitions := List.mem_range.mp inside
      have bound := fine failFast first inside failure
      omega
    next => rfl

theorem callCount_eq_succ {first : Nat} (failFast : runner.policy = .failFast)
    (inside : first < runner.total repetitions) (failure : runner.fails world first = true)
    (least : ∀ index < first, runner.fails world index = false) :
    runner.callCount repetitions world = first + 1 := by
  have found :
      (List.range (runner.total repetitions)).find? (runner.fails world) = some first := by
    refine List.find?_range_eq_some.mpr ⟨failure, List.mem_range.mpr inside, ?_⟩
    intro index before
    simp [least index before]
  simp [callCount, failFast, found]

/-- What nothing has failed before is still called. -/
theorem lt_callCount {index : Nat} (inside : index < runner.total repetitions)
    (fine : runner.policy = .failFast → ∀ before < index, runner.fails world before = false) :
    index < runner.callCount repetitions world := by
  rw [callCount]
  split
  next => exact inside
  next failFast =>
    split
    next first found =>
      obtain ⟨failure, -, -⟩ := List.find?_range_eq_some.mp found
      have late : ¬first < index := by
        intro early
        rw [fine failFast first early] at failure
        contradiction
      omega
    next => exact inside

end CallCount

/-- The flat index tells all about the invocations of a stretch that comes back. -/
theorem Returns.indexed {runner : Runner σ} {repetitions : Nat} {world after : σ}
    {front back : List (Invocation σ)} {records : List InvocationRecord}
    (split : plan runner.registry.units 0 repetitions = front ++ back)
    (returns : Returns runner.dataset front world records after) :
    after = runner.worldBefore world front.length ∧
      ∀ index < front.length, ∃ unit status,
        runner.registry.units[runner.position index]? = some unit ∧
          runner.outcome? world index = some (.returned status) ∧
          records[index]? = some ⟨unit.name, index / runner.registry.size, status⟩ := by
  induction front using List.reverseRecOn generalizing back records after with
  | nil =>
      cases returns
      exact ⟨rfl, fun index inside => absurd inside (Nat.not_lt_zero index)⟩
  | append_singleton front last ih =>
      obtain ⟨left, middle, right, rfl, first, second⟩ := returns.split
      obtain ⟨middle_eq, earlier⟩ := ih (by rw [split, List.append_assoc]) first
      cases second with
      | @cons _ _ _ next _ status _ call rest =>
          cases rest
          rw [List.append_assoc] at split
          obtain ⟨-, found, pass_eq⟩ := runner.next_of_split split
          subst middle_eq
          have outcome : runner.outcome? world front.length = some (.returned status) := by
            simp [outcome?, found, call]
          refine ⟨by simp [worldBefore, found, call], ?_⟩
          intro index inside
          by_cases before : index < front.length
          · obtain ⟨earlierUnit, earlierStatus, found, outcome, record⟩ := earlier index before
            refine ⟨earlierUnit, earlierStatus, found, outcome, ?_⟩
            rw [List.getElem?_append_left (by rw [first.length_eq]; exact before), record]
          · obtain rfl : index = front.length := by
              simp at inside
              omega
            refine ⟨last.unit, status, found, outcome, ?_⟩
            rw [List.getElem?_append_right (Nat.le_of_eq first.length_eq), first.length_eq, pass_eq]
            simp

/-- What is told of each call by its index, its unit and its status, is told of all calls of a
stretch that comes back by its records. -/
theorem Returns.mapIdx_callOf {τ : Type} {runner : Runner σ} {repetitions : Nat} {world after : σ}
    {front back : List (Invocation σ)} {records : List InvocationRecord}
    {read : Nat → Call → τ} {tell : InvocationRecord → τ}
    (split : plan runner.registry.units 0 repetitions = front ++ back)
    (returns : Returns runner.dataset front world records after)
    (agree : ∀ index unit status, runner.registry.units[runner.position index]? = some unit →
      read index ⟨runner.position index, runner.dataset, .returned status⟩ =
        tell ⟨unit.name, index / runner.registry.size, status⟩) :
    (records.mapIdx runner.callOf).mapIdx read = records.map tell := by
  obtain ⟨-, indexed⟩ := returns.indexed split
  apply List.ext_getElem?
  intro index
  rw [List.getElem?_mapIdx, List.getElem?_mapIdx, List.getElem?_map, Option.map_map]
  by_cases inside : index < front.length
  · obtain ⟨unit, status, found, -, record⟩ := indexed index inside
    rw [record, Option.map_some, Option.map_some, ← agree index unit status found]
    rfl
  · rw [List.getElem?_eq_none (by rw [returns.length_eq]; omega)]
    rfl

/-- The failures among tolerated records are those that the flat indices tell of. -/
theorem le_of_fails {runner : Runner σ} {total : Nat} {world : σ}
    {records : List InvocationRecord} (tolerates : runner.Tolerates total 0 records)
    (failFast : runner.policy = .failFast) {index : Nat} {record : InvocationRecord}
    (outcome : runner.outcome? world index = some (.returned record.status))
    (found : records[index]? = some record) (failure : runner.fails world index = true) :
    total ≤ index + 1 := by
  have bound := tolerates failFast index record found
    (by simpa [fails, outcome, InvocationRecord.isFailure] using failure)
  omega

section Walks

variable {runner : Runner σ} {repetitions : Nat} {world after : σ}
  {front back : List (Invocation σ)} {records : List InvocationRecord}

/-- A run that comes back from all of its plan is complete. -/
theorem callCount_of_completed
    (returns : Returns runner.dataset (plan runner.registry.units 0 repetitions) world records
      after)
    (tolerates : runner.Tolerates (runner.total repetitions) 0 records) :
    runner.callCount repetitions world = runner.total repetitions := by
  obtain ⟨-, indexed⟩ := returns.indexed (List.append_nil _).symm
  rw [length_plan] at indexed
  apply callCount_eq_total
  intro failFast index inside failure
  obtain ⟨unit, status, -, outcome, found⟩ := indexed index inside
  exact le_of_fails tolerates failFast outcome found failure

/-- A run that is halted makes the calls up to the failure. -/
theorem callCount_of_halted {record : InvocationRecord}
    (split : plan runner.registry.units 0 repetitions = front ++ back)
    (returns : Returns runner.dataset front world (records ++ [record]) after)
    (tolerates : runner.Tolerates (runner.total repetitions) 0 records)
    (failFast : runner.policy = .failFast) (failure : record.isFailure = true)
    (more : records.length + 1 < runner.total repetitions) :
    runner.callCount repetitions world = records.length + 1 := by
  obtain ⟨-, indexed⟩ := returns.indexed split
  have width : records.length + 1 = front.length := by simpa using returns.length_eq
  apply callCount_eq_succ failFast (by omega)
  · obtain ⟨unit, status, -, outcome, found⟩ := indexed records.length (by omega)
    obtain rfl : record = ⟨unit.name, records.length / runner.registry.size, status⟩ := by
      simpa using found
    simpa [fails, outcome, InvocationRecord.isFailure] using failure
  · intro index before
    rw [← Bool.not_eq_true]
    intro earlier
    obtain ⟨unit, status, -, outcome, found⟩ := indexed index (by omega)
    rw [List.getElem?_append_left before] at found
    have bound := le_of_fails tolerates failFast outcome found earlier
    omega

/-- What comes after a tolerated stretch is called. -/
theorem lt_callCount_of_tolerates {next : Invocation σ}
    (split : plan runner.registry.units 0 repetitions = front ++ next :: back)
    (returns : Returns runner.dataset front world records after)
    (tolerates : runner.Tolerates (runner.total repetitions) 0 records) :
    front.length < runner.callCount repetitions world := by
  obtain ⟨-, indexed⟩ := returns.indexed split
  obtain ⟨inside, -⟩ := runner.next_of_split split
  apply lt_callCount inside
  intro failFast index before
  rw [← Bool.not_eq_true]
  intro earlier
  obtain ⟨unit, status, -, outcome, found⟩ := indexed index before
  have bound := le_of_fails tolerates failFast outcome found earlier
  omega

end Walks

/-- A run whose calls come back walks `callCount` invocations of its plan. -/
theorem course_of_returning (runner : Runner σ) (repetitions : Nat) (world : σ)
    (returning : ∀ index < runner.callCount repetitions world,
      runner.outcome? world index ≠ some .panicked) :
    ∃ front back records,
      plan runner.registry.units 0 repetitions = front ++ back ∧
        front.length = runner.callCount repetitions world ∧
        Returns runner.dataset front world records
          (runner.course repetitions world).progress.world ∧
        (runner.course repetitions world).isPanicked = false ∧
        (runner.course repetitions world).progress.report =
          { dataset := runner.dataset
            repetitions
            unitsPerPass := runner.registry.size
            records := records.toArray
            haltedEarly :=
              decide (runner.callCount repetitions world < runner.total repetitions) } := by
  have passage := runner.passage_course repetitions world
  generalize runner.course repetitions world = course at *
  cases passage with
  | @completed records after returns tolerates =>
      have complete := callCount_of_completed returns tolerates
      refine ⟨_, [], records, (List.append_nil _).symm, ?_, returns, rfl, ?_⟩
      · rw [length_plan, ← world_begun runner repetitions world, complete]
        rfl
      · rw [world_begun] at complete
        simp [complete]
  | @halted front records back last record after split returns tolerates failFast failure more =>
      rw [invocations_begun, Nat.zero_add] at more
      rw [List.append_cons] at split
      have ended := callCount_of_halted split returns tolerates failFast failure more
      rw [world_begun] at ended
      refine ⟨_, back, _, split, ?_, returns, rfl, ?_⟩
      · rw [ended, ← returns.length_eq, List.length_append, List.length_singleton]
      · simp [Progress.cutShort, ended, more]
  | @panicked front back last records middle after split returns tolerates panic =>
      have called := lt_callCount_of_tolerates split returns tolerates
      obtain ⟨-, found, -⟩ := runner.next_of_split split
      obtain ⟨middle_eq, -⟩ := returns.indexed split
      rw [world_begun] at called middle_eq
      refine absurd ?_ (returning front.length called)
      simp [outcome?, found, ← middle_eq, panic]

/-- A run without panics, told by flat indices: its calls, its report and its runner. -/
theorem run_of_returning (runner : Runner σ) (repetitions : Nat) (world : σ)
    (returning : ∀ index < runner.callCount repetitions world,
      runner.outcome? world index ≠ some .panicked) :
    let size := runner.registry.size
    let count := runner.callCount repetitions world
    let calls := runner.calls repetitions world
    let run := runner.run repetitions world
    ∃ report, run.report = some report ∧
      report.dataset = runner.dataset ∧ report.repetitions = repetitions ∧
      report.unitsPerPass = size ∧
      calls.length = count ∧ report.records.size = count ∧
      (∀ index < count, ∃ unit status,
        runner.registry.units[index % size]? = some unit ∧
          runner.outcome? world index = some (.returned status) ∧
          calls[index]? = some ⟨index % size, runner.dataset, .returned status⟩ ∧
          report.records[index]? = some ⟨unit.name, index / size, status⟩) ∧
      (report.haltedEarly = true ↔ count < runner.total repetitions) ∧
      report.status = 0 ∧ report.exitCode = (if report.haltedEarly then 1 else 0) ∧
      run.runner = { runner with state := .idle } ∧
      run.world = runner.worldBefore world count := by
  intro size count calls run
  obtain ⟨front, back, records, split, width, returns, calm, report⟩ :=
    runner.course_of_returning repetitions world returning
  obtain ⟨world_eq, indexed⟩ := returns.indexed split
  have calls_eq : calls = records.mapIdx runner.callOf := by
    rw [show calls = runner.callsOf _ from runner.calls_eq repetitions world]
    simp [callsOf, calm, Course.records, report]
  refine ⟨(runner.course repetitions world).progress.report, ?_, ?_⟩
  · rw [show run.report = _ from runner.report_run repetitions world, calm]
    rfl
  have length : records.length = count := by rw [returns.length_eq, width]
  rw [report]
  refine ⟨rfl, rfl, rfl, ?_, ?_, ?_, ?_, rfl, rfl, ?_, ?_⟩
  · simpa [calls_eq] using length
  · simpa using length
  · intro index inside
    obtain ⟨unit, status, found, outcome, record⟩ := indexed index (width ▸ inside)
    refine ⟨unit, status, found, outcome, ?_, ?_⟩
    · rw [calls_eq, List.getElem?_mapIdx, record]
      rfl
    · simpa using record
  · exact decide_eq_true_iff
  · rw [show run.runner = _ from runner.runner_run repetitions world, calm]
    rfl
  · rw [show run.world = _ from runner.world_run repetitions world, world_eq, width]

/-- A unit that is fine, and one that fails from the fourth call of the run on.  They fail fast. -/
def weary : Runner Nat where
  registry := ⟨[⟨"steady", fun _ calls => (.returned 0, calls + 1)⟩,
    ⟨"weary", fun _ calls => (.returned (if calls < 3 then 0 else 7), calls + 1)⟩]⟩
  dataset := .small
  policy := .failFast
  state := .running

/-- Of six invocations in three passes the fourth one fails, so that the run is halted there. -/
theorem run_of_returning_weary :
    weary.callCount 3 0 = 4 ∧ weary.calls 3 0 =
        [⟨0, .small, .returned 0⟩, ⟨1, .small, .returned 0⟩, ⟨0, .small, .returned 0⟩,
          ⟨1, .small, .returned 7⟩] ∧
      ∃ report, (weary.run 3 0).report = some report ∧
        report.records[3]? = some ⟨"weary", 1, 7⟩ ∧ report.records.size = 4 ∧
        report.haltedEarly = true := by
  obtain ⟨report, finished, -, -, -, -, size, records, halted, -⟩ :=
    run_of_returning weary 3 0 (by decide)
  refine ⟨by decide, by decide, report, finished, ?_, size, halted.mpr (by decide)⟩
  obtain ⟨unit, status, found, outcome, -, record⟩ := records 3 (by decide)
  obtain rfl := Option.some.inj found
  obtain rfl : (7 : Int32) = status := by
    have returned : weary.outcome? 0 3 = some (.returned 7) := by decide
    simpa [returned] using outcome
  exact record

end Runner
end DenseBench
