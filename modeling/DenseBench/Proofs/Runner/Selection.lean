import DenseBench.Proofs.Registry.Independence
import DenseBench.Proofs.Runner.Calls

/-!
# Runs of a selection

Units that share nothing run side by side without noticing each other.  If every unit has a state of
its own, then running a selection of them gives the records of the whole registry with the other
units left out, although the flat indices of the invocations differ.
-/

namespace DenseBench
namespace Runner

variable {σ κ : Type}

/-- The plan for a part of the units is that part of the plan. -/
theorem plan_filter (units : List (BenchmarkUnit σ)) (chosen : BenchmarkUnit σ → Bool)
    (first count : Nat) :
    plan (units.filter chosen) first count =
      (plan units first count).filter fun invocation => chosen invocation.unit := by
  rw [plan, plan, List.filter_flatMap]
  congr 1
  funext pass
  rw [List.filter_map]
  rfl

/-- Leaving out invocations of other units changes nothing for the chosen ones, step by step. -/
theorem Returns.filter {registry : Registry σ} {own : String → σ → κ}
    (independent : registry.Independent own) (chosen : String → Bool) {dataset : DatasetSize}
    {plan : List (Invocation σ)} {before after : σ} {records : List InvocationRecord}
    (returns : Returns dataset plan before records after)
    (members : ∀ invocation ∈ plan, invocation.unit ∈ registry.units) (other : σ)
    (agree : ∀ unit ∈ registry.units, chosen unit.name = true →
      own unit.name before = own unit.name other) :
    ∃ last, Returns dataset (plan.filter fun invocation => chosen invocation.unit.name) other
        (records.filter fun record => chosen record.unit) last := by
  induction returns generalizing other with
  | nil => exact ⟨other, .nil other⟩
  | @cons invocation rest before middle after status records call returns ih =>
      have member := members invocation List.mem_cons_self
      have later := fun invocation member => members invocation (List.mem_cons_of_mem _ member)
      cases keeps : chosen invocation.unit.name with
      | true =>
          have same := agree _ member keeps
          have outcome := independent.outcome _ member dataset _ _ same
          have next := independent.next _ member dataset _ _ same
          rw [call] at outcome next
          obtain ⟨last, rest_returns⟩ := ih later (invocation.unit.call dataset other).2 (by
            intro unit unit_member unit_keeps
            by_cases itself : unit.name = invocation.unit.name
            · rw [itself]
              exact next
            · have left := independent.frame _ member _ unit_member itself dataset before
              have right := independent.frame _ member _ unit_member itself dataset other
              rw [call] at left
              rw [left, right, agree _ unit_member unit_keeps])
          have other_call : invocation.unit.call dataset other =
              (.returned status, (invocation.unit.call dataset other).2) :=
            Prod.ext outcome.symm rfl
          refine ⟨last, ?_⟩
          simp only [List.filter_cons, keeps, if_true]
          exact .cons other_call rest_returns
      | false =>
          obtain ⟨last, rest_returns⟩ := ih later other (by
            intro unit unit_member unit_keeps
            have different : unit.name ≠ invocation.unit.name := by
              intro itself
              rw [itself, keeps] at unit_keeps
              contradiction
            have left := independent.frame _ member _ unit_member different dataset before
            rw [call] at left
            rw [left, agree _ unit_member unit_keeps])
          refine ⟨last, ?_⟩
          simp only [List.filter_cons, keeps, Bool.false_eq_true, if_false]
          exact rest_returns

/-- Without panics, a run that keeps going is complete. -/
theorem returns_of_keepGoing {runner : Runner σ} {repetitions : Nat} {world : σ}
    (keepGoing : runner.policy = .keepGoing)
    (returning : ∀ call ∈ runner.calls repetitions world, call.outcome ≠ .panicked) :
    ∃ records after,
      Returns runner.dataset (plan runner.registry.units 0 repetitions) world records after := by
  have calm := isPanicked_eq_false_iff.mpr returning
  exact ⟨_, _, returns_of_fine calm (.inl keepGoing)⟩

/-- A plan that comes back is walked to its end, if nothing in it makes the policy halt. -/
theorem course_of_returns {runner : Runner σ} {repetitions : Nat} {world after : σ}
    {records : List InvocationRecord}
    (returns : Returns runner.dataset (plan runner.registry.units 0 repetitions) world records
      after)
    (fine : runner.policy = .keepGoing ∨ records.filter InvocationRecord.isFailure = []) :
    runner.course repetitions world =
      .ongoing ((runner.begun repetitions world).extend records after) :=
  follow_of_returns returns (tolerates_of_fine fine _ _)

/-- What comes back is reported, if the policy tolerates everything. -/
theorem report_of_returns (runner : Runner σ) {repetitions : Nat} {world after : σ}
    {records : List InvocationRecord} (keepGoing : runner.policy = .keepGoing)
    (returns : Returns runner.dataset (plan runner.registry.units 0 repetitions) world records
      after) :
    (runner.run repetitions world).report = some
      { dataset := runner.dataset
        repetitions
        unitsPerPass := runner.registry.size
        records := records.toArray
        haltedEarly := false } := by
  rw [report_run, course_of_returns returns (.inl keepGoing)]
  simp

/-- The report of a complete run has all passes completed. -/
theorem passesCompleted_of_returns {runner : Runner σ} {repetitions : Nat} {world after : σ}
    {records : List InvocationRecord}
    (returns : Returns runner.dataset (plan runner.registry.units 0 repetitions) world records
      after) (haltedEarly : Bool) :
    Report.passesCompleted
      { dataset := runner.dataset
        repetitions
        unitsPerPass := runner.registry.size
        records := records.toArray
        haltedEarly } = repetitions := by
  rw [Report.passesCompleted]
  split
  next => rfl
  next positive =>
    have width : records.length = repetitions * runner.registry.size := by
      rw [returns.length_eq, length_plan]
      rfl
    simp only [Report.invocations, List.size_toArray, width]
    exact Nat.mul_div_cancel _ (Nat.pos_of_ne_zero positive)

/-- Running a selection of independent units gives the records, and the failures, of the whole
registry with the other units left out. -/
theorem run_select (runner : Runner σ) (own : String → σ → κ)
    (independent : runner.registry.Independent own) (keepGoing : runner.policy = .keepGoing)
    (repetitions : Nat) (world : σ)
    (returning : ∀ call ∈ runner.calls repetitions world, call.outcome ≠ .panicked)
    (wanted : List String) (some_wanted : wanted ≠ [])
    (known : ∀ name ∈ wanted, runner.registry.contains name = true) :
    ∃ selection whole part,
      runner.registry.select wanted = .ok selection ∧
        (runner.run repetitions world).report = some whole ∧
        (Runner.run { runner with registry := selection } repetitions world).report = some part ∧
        part.records.toList =
          whole.records.toList.filter (fun record => wanted.contains record.unit) ∧
        part.failures = whole.failures.filter (fun record => wanted.contains record.unit) ∧
        whole.passesCompleted = repetitions ∧ part.passesCompleted = repetitions := by
  obtain ⟨records, after, returns⟩ := returns_of_keepGoing keepGoing returning
  obtain ⟨last, part_returns⟩ := returns.filter independent wanted.contains
    (fun invocation => mem_units_of_mem_plan) world fun _ _ _ => rfl
  rw [← plan_filter runner.registry.units fun unit => wanted.contains unit.name] at part_returns
  have whole := runner.report_of_returns keepGoing returns
  have part := report_of_returns { runner with registry := runner.registry.keep wanted } keepGoing
    part_returns
  refine ⟨_, _, _, Registry.select_eq_keep some_wanted known, whole, part, rfl, ?_, ?_, ?_⟩
  · simp only [Report.failures, List.filter_filter, Bool.and_comm]
  · exact passesCompleted_of_returns returns false
  · exact passesCompleted_of_returns part_returns false

/-- Three units that follow scripts of different lengths. -/
def scripts : Registry ScriptWorld :=
  ⟨[(Script.statuses [some 0, some 5]).unit 0 "even", (Script.statuses [some 1]).unit 1 "failing",
    (Script.statuses [some 2, some 0, some 4]).unit 2 "odd"]⟩

/-- The numbers of the scripts are those of a registration one after the other. -/
theorem numbered_scripts : ∃ number, scripts.Numbered number 3 := by
  have one := (Registry.numbered_empty 0).register (.statuses [some 0, some 5]) "even" rfl
  have two := one.register (.statuses [some 1]) "failing" rfl
  have three := two.register (.statuses [some 2, some 0, some 4]) "odd" rfl
  exact ⟨_, three⟩

/-- A selection from three scripts, two passes. -/
theorem run_select_scripts :
    ∃ selection whole part,
      scripts.select ["odd", "even"] = .ok selection ∧
        (Runner.run (.new scripts .mini) 2 ⟨#[0, 0, 0], #[]⟩).report = some whole ∧
        (Runner.run (.new selection .mini) 2 ⟨#[0, 0, 0], #[]⟩).report = some part ∧
        part.records.toList =
          whole.records.toList.filter (fun record => ["odd", "even"].contains record.unit) ∧
        part.failures = whole.failures.filter (fun record => ["odd", "even"].contains record.unit) ∧
        whole.passesCompleted = 2 ∧ part.passesCompleted = 2 := by
  obtain ⟨number, numbered⟩ := numbered_scripts
  exact run_select (.new scripts .mini) _ numbered.independent rfl 2 ⟨#[0, 0, 0], #[]⟩ (by decide)
    ["odd", "even"] (by decide) (by decide)

end Runner
end DenseBench
