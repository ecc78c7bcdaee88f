import DenseBench.Proofs.Kernel.Safety.Suite
import DenseBench.Proofs.Runner.Calls
import Mathlib.Data.List.Forall2

/-!
# Stateless units

A unit is stateless if it always comes back and the size class alone decides what it returns.  The
kernels of the suite are such units.  Two runners over units that answer alike go in step, whatever
worlds they start from: forgetting the worlds makes their courses equal, and so their reports.
-/

namespace DenseBench

variable {σ τ : Type}

namespace BenchmarkUnit

/-- Every call comes back, with a status that the size class alone decides. -/
def Stateless (unit : BenchmarkUnit σ) (status : DatasetSize → Int32) : Prop :=
  ∀ dataset world, (unit.call dataset world).1 = .returned (status dataset)

/-- The kernels of the suite never report a failure. -/
theorem stateless_ofKernel {entry : Kernel.Entry} (member : entry ∈ Kernel.suite) :
    (ofKernel entry : BenchmarkUnit σ).Stateless fun _ => 0 := by
  intro dataset world
  have ended := Kernel.run_eq_zero dataset entry member
  simp [ofKernel, ended, Outcome.ofChecked]

/-- Two units of one name that are stateless and return the same. -/
def Alike (left : BenchmarkUnit σ) (right : BenchmarkUnit τ) : Prop :=
  left.name = right.name ∧ ∃ status, left.Stateless status ∧ right.Stateless status

end BenchmarkUnit

namespace Runner

/-- If every call of a stretch answers in all worlds, then the stretch comes back. -/
theorem returns_of_answers {dataset : DatasetSize} {plan : List (Invocation σ)}
    {status : Invocation σ → Int32}
    (answers : ∀ invocation ∈ plan, ∀ world,
      (invocation.unit.call dataset world).1 = .returned (status invocation)) (world : σ) :
    Returns dataset plan world
      (plan.map fun invocation =>
        ⟨invocation.unit.name, invocation.pass, status invocation⟩)
      (plan.foldl (fun world invocation => (invocation.unit.call dataset world).2) world) := by
  induction plan generalizing world with
  | nil => exact .nil world
  | cons invocation rest ih =>
      have first := answers invocation List.mem_cons_self world
      have later := ih (fun next member => answers next (List.mem_cons_of_mem _ member))
      exact .cons (Prod.ext first rfl) (later _)

namespace Course

@[simp]
theorem isPanicked_within (world : τ) (course : Course σ) :
    (course.within world).isPanicked = course.isPanicked := by
  cases course <;> rfl

@[simp]
theorem report_within (world : τ) (course : Course σ) :
    (course.within world).progress.report = course.progress.report := by
  cases course <;> rfl

end Course

theorem stateless_of_alike {left : List (BenchmarkUnit σ)} {right : List (BenchmarkUnit τ)}
    (alike : List.Forall₂ BenchmarkUnit.Alike left right) :
    ∀ unit ∈ left, ∃ status, unit.Stateless status := by
  induction alike with
  | nil => exact List.forall_mem_nil _
  | cons first _ ih =>
      obtain ⟨-, status, answers, -⟩ := first
      exact List.forall_mem_cons.mpr ⟨⟨status, answers⟩, ih⟩

/-- A run of stateless units does not panic. -/
theorem isPanicked_of_stateless {runner : Runner σ}
    (stateless : ∀ unit ∈ runner.registry.units, ∃ status, unit.Stateless status)
    (repetitions : Nat) (world : σ) : (runner.course repetitions world).isPanicked = false := by
  have passage := runner.passage_course repetitions world
  generalize runner.course repetitions world = course at *
  cases passage with
  | completed => rfl
  | halted => rfl
  | @panicked front back last records middle after split returns tolerates panic =>
      have planned : last ∈ Runner.plan runner.registry.units 0 repetitions := by simp [split]
      obtain ⟨status, answers⟩ := stateless last.unit (mem_units_of_mem_plan planned)
      have answer := answers runner.dataset middle
      rw [panic] at answer
      contradiction

/-- Two runners with the same choices, over units that answer alike. -/
structure Alike (left : Runner σ) (right : Runner τ) : Prop where
  /-- The units, in the order of the registries. -/
  units : List.Forall₂ BenchmarkUnit.Alike left.registry.units right.registry.units
  dataset : left.dataset = right.dataset
  policy : left.policy = right.policy

namespace Alike

variable {left : Runner σ} {right : Runner τ}

theorem size_eq (alike : left.Alike right) : left.registry.size = right.registry.size :=
  alike.units.length_eq

/-- One step: units that answer alike bring about the same, except for the worlds. -/
theorem invoke (alike : left.Alike right) (total pass : Nat) {unit : BenchmarkUnit σ}
    {other : BenchmarkUnit τ} (units : unit.Alike other) {progress : Progress σ}
    {beside : Progress τ} (same : progress.within () = beside.within ()) :
    (left.invoke total pass unit progress).within () =
      (right.invoke total pass other beside).within () := by
  obtain ⟨name, status, answers, other_answers⟩ := units
  obtain ⟨report, events, world⟩ := progress
  obtain ⟨report, events, other_world⟩ := beside
  obtain ⟨rfl, rfl⟩ : _ = report ∧ _ = events := by simpa [Progress.within] using same
  have call : unit.call left.dataset world =
      (.returned (status left.dataset), (unit.call left.dataset world).2) :=
    Prod.ext (answers _ _) rfl
  have other_call : other.call right.dataset other_world =
      (.returned (status left.dataset), (other.call right.dataset other_world).2) :=
    Prod.ext (alike.dataset ▸ other_answers _ _) rfl
  simp only [Runner.invoke]
  rw [call, other_call]
  simp only [name, alike.policy]
  split_ifs <;> rfl

/-- Plans that are alike call units that answer alike in the same passes. -/
theorem follow (alike : left.Alike right) (total : Nat) {plan : List (Invocation σ)}
    {other : List (Invocation τ)}
    (plans : List.Forall₂ (fun invocation next =>
      invocation.pass = next.pass ∧ invocation.unit.Alike next.unit) plan other)
    {progress : Progress σ} {beside : Progress τ}
    (same : progress.within () = beside.within ()) :
    (left.follow total plan progress).within () =
      (right.follow total other beside).within () := by
  induction plans generalizing progress beside with
  | nil => simp only [Runner.follow, Course.within, same]
  | @cons invocation next rest others first _ ih =>
      have step := alike.invoke total invocation.pass first.2 same
      rw [first.1] at step
      simp only [Runner.follow, first.1]
      revert step
      -- both runs go on, or both are over
      cases left.invoke total next.pass invocation.unit progress <;>
        cases right.invoke total next.pass next.unit beside <;> intro step
      all_goals try contradiction
      · exact ih (Course.ongoing.inj step)
      · exact step
      · exact step

theorem plan (alike : left.Alike right) (first count : Nat) :
    List.Forall₂ (fun invocation next =>
        invocation.pass = next.pass ∧ invocation.unit.Alike next.unit)
      (Runner.plan left.registry.units first count)
      (Runner.plan right.registry.units first count) := by
  induction count generalizing first with
  | zero => exact .nil
  | succ count ih =>
      rw [plan_succ, plan_succ]
      refine List.rel_append ?_ (ih (first + 1))
      rw [List.forall₂_map_left_iff, List.forall₂_map_right_iff]
      exact alike.units.imp fun _ _ units => ⟨rfl, units⟩

/-- The courses of two runs are the same, except for the worlds. -/
theorem course (alike : left.Alike right) (repetitions : Nat) (world : σ) (other : τ) :
    (left.course repetitions world).within () = (right.course repetitions other).within () := by
  have total : left.total repetitions = right.total repetitions := by
    rw [Runner.total, Runner.total, alike.size_eq]
  have start : (left.begun repetitions world).within () =
      (right.begun repetitions other).within () := by
    simp only [Progress.within, begun, alike.dataset, alike.size_eq]
  rw [Runner.course, Runner.course, total]
  exact alike.follow _ (alike.plan 0 repetitions) start

/-- Whatever worlds two runs start from, both end with the same report. -/
theorem report_run (alike : left.Alike right) (repetitions : Nat) (world : σ) (other : τ) :
    ∃ report, (left.run repetitions world).report = some report ∧
      (right.run repetitions other).report = some report := by
  have same := alike.course repetitions world other
  have calm := isPanicked_of_stateless (stateless_of_alike alike.units) repetitions world
  have calm_other : (right.course repetitions other).isPanicked = false := by
    rwa [← Course.isPanicked_within (), ← same, Course.isPanicked_within]
  have report : (right.course repetitions other).progress.report =
      (left.course repetitions world).progress.report := by
    rw [← Course.report_within (), ← same, Course.report_within]
  refine ⟨(left.course repetitions world).progress.report, ?_, ?_⟩
  · rw [Runner.report_run, calm]
    rfl
  · rw [Runner.report_run, calm_other, report]
    rfl

end Alike
end Runner
end DenseBench
