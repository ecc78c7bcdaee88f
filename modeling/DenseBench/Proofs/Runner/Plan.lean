import DenseBench.Runner

/-!
# The plan of a run

A run is two nested loops, over passes and over units.  This file shows that both are one walk
along a flat list of invocations: in a registry of `n` units, invocation number `k` calls unit
`k % n` in pass `k / n`.
-/

namespace DenseBench

/-- A unit together with the pass in which it is to be called. -/
structure Invocation (σ : Type) where
  /-- The pass, counted from zero. -/
  pass : Nat
  /-- The unit. -/
  unit : BenchmarkUnit σ

namespace Runner

variable {σ : Type}

/-- The invocations of `count` passes over some units, from the pass `first` on. -/
def plan (units : List (BenchmarkUnit σ)) (first count : Nat) : List (Invocation σ) :=
  (List.range' first count).flatMap fun pass => units.map fun unit => ⟨pass, unit⟩

@[simp]
theorem plan_zero (units : List (BenchmarkUnit σ)) (first : Nat) : plan units first 0 = [] := rfl

theorem plan_succ (units : List (BenchmarkUnit σ)) (first count : Nat) :
    plan units first (count + 1) =
      (units.map fun unit => ⟨first, unit⟩) ++ plan units (first + 1) count := by
  simp [plan, List.range'_succ]

@[simp]
theorem plan_nil (first count : Nat) : plan ([] : List (BenchmarkUnit σ)) first count = [] := by
  simp [plan]

@[simp]
theorem length_plan (units : List (BenchmarkUnit σ)) (first count : Nat) :
    (plan units first count).length = count * units.length := by
  induction count generalizing first with
  | zero => simp
  | succ count ih => rw [plan_succ, List.length_append, List.length_map, ih, Nat.succ_mul,
      Nat.add_comm]

/-- The flat index of an invocation tells its pass and its unit. -/
theorem getElem?_plan (units : List (BenchmarkUnit σ)) (first count index : Nat)
    (inside : index < count * units.length) :
    (plan units first count)[index]? =
      units[index % units.length]?.map fun unit => ⟨first + index / units.length, unit⟩ := by
  induction count generalizing first index with
  | zero => simp at inside
  | succ count ih =>
      rw [plan_succ]
      have width : (units.map fun unit => (⟨first, unit⟩ : Invocation σ)).length =
          units.length := List.length_map _
      by_cases early : index < units.length
      · rw [List.getElem?_append_left (by omega), List.getElem?_map]
        rw [Nat.mod_eq_of_lt early, Nat.div_eq_of_lt early, Nat.add_zero]
      · have positive : 0 < units.length := by
          rcases Nat.eq_zero_or_pos units.length with none | some
          · simp [none] at inside
          · exact some
        have late : units.length ≤ index := Nat.le_of_not_lt early
        rw [Nat.succ_mul] at inside
        rw [List.getElem?_append_right (by omega), width, ih _ _ (by omega)]
        rw [← Nat.mod_eq_sub_mod late, Nat.div_eq_sub_div positive late]
        simp only [Nat.add_assoc, Nat.add_comm 1]

theorem mem_units_of_mem_plan {units : List (BenchmarkUnit σ)} {first count : Nat}
    {invocation : Invocation σ} (member : invocation ∈ plan units first count) :
    invocation.unit ∈ units := by
  obtain ⟨pass, -, in_pass⟩ := List.mem_flatMap.mp member
  obtain ⟨unit, registered, rfl⟩ := List.mem_map.mp in_pass
  exact registered

/-- The position of the unit that invocation number `index` calls. -/
def position (runner : Runner σ) (index : Nat) : Nat :=
  index % runner.registry.size

/-- The number of invocations that went before tells which one is next. -/
theorem next_of_split (runner : Runner σ) {repetitions : Nat} {front back : List (Invocation σ)}
    {next : Invocation σ}
    (split : plan runner.registry.units 0 repetitions = front ++ next :: back) :
    front.length < runner.total repetitions ∧
      runner.registry.units[runner.position front.length]? = some next.unit ∧
      next.pass = front.length / runner.registry.size := by
  have inside : front.length < repetitions * runner.registry.units.length := by
    rw [← length_plan _ 0, split]
    simp
  have here := getElem?_plan _ 0 _ _ inside
  rw [split, List.getElem?_append_right (Nat.le_refl _), Nat.sub_self] at here
  obtain ⟨unit, found, rfl⟩ := Option.map_eq_some_iff.mp here.symm
  exact ⟨inside, found, Nat.zero_add _⟩

namespace Course

/-- Go on with something else, unless the run is over. -/
def andThen : Course σ → (Progress σ → Course σ) → Course σ
  | ongoing progress, next => next progress
  | stopped, _ => stopped

@[simp]
theorem andThen_ongoing (progress : Progress σ) (next : Progress σ → Course σ) :
    (ongoing progress).andThen next = next progress := rfl

@[simp]
theorem andThen_halted (progress : Progress σ) (next : Progress σ → Course σ) :
    (halted progress).andThen next = halted progress := rfl

@[simp]
theorem andThen_panicked (progress : Progress σ) (next : Progress σ → Course σ) :
    (panicked progress).andThen next = panicked progress := rfl

/-- What has been brought about by the end. -/
def progress : Course σ → Progress σ
  | ongoing progress => progress
  | halted progress => progress
  | panicked progress => progress

/-- The invocations that came back. -/
def records (course : Course σ) : List InvocationRecord :=
  course.progress.report.records.toList

/-- Whether a unit panicked. -/
def isPanicked : Course σ → Bool
  | ongoing _ => false
  | halted _ => false
  | panicked _ => true

/-- Whether a failure has cut the run short. -/
def isHalted : Course σ → Bool
  | ongoing _ => false
  | halted _ => true
  | panicked _ => false

end Course

/-- Walk along a list of invocations, as long as the run goes on. -/
def follow (runner : Runner σ) (total : Nat) : List (Invocation σ) → Progress σ → Course σ
  | [], progress => .ongoing progress
  | invocation :: rest, progress =>
    (runner.invoke total invocation.pass invocation.unit progress).andThen
      (follow runner total rest)

theorem follow_append (runner : Runner σ) (total : Nat) (front back : List (Invocation σ))
    (progress : Progress σ) :
    runner.follow total (front ++ back) progress =
      (runner.follow total front progress).andThen (runner.follow total back) := by
  induction front generalizing progress with
  | nil => rfl
  | cons invocation front ih =>
      simp only [List.cons_append, follow]
      cases runner.invoke total invocation.pass invocation.unit progress with
      | ongoing next => exact ih next
      | halted => rfl
      | panicked => rfl

/-- The inner loop follows one pass of the plan. -/
theorem runUnits_eq_follow (runner : Runner σ) (total pass : Nat)
    (units : List (BenchmarkUnit σ)) (progress : Progress σ) :
    runner.runUnits total pass units progress =
      runner.follow total (units.map fun unit => ⟨pass, unit⟩) progress := by
  induction units generalizing progress with
  | nil => rfl
  | cons unit rest ih =>
      simp only [runUnits, List.map_cons, follow]
      cases runner.invoke total pass unit progress with
      | ongoing next => exact ih next
      | halted => rfl
      | panicked => rfl

/-- The outer loop follows the whole plan. -/
theorem runPasses_eq_follow (runner : Runner σ) (total count first : Nat)
    (progress : Progress σ) :
    runner.runPasses total count first progress =
      runner.follow total (plan runner.registry.units first count) progress := by
  induction count generalizing first progress with
  | zero => rfl
  | succ count ih =>
      rw [plan_succ, follow_append, runPasses, runUnits_eq_follow]
      cases runner.follow total (runner.registry.units.map fun unit => ⟨first, unit⟩) progress with
      | ongoing next => exact ih (first + 1) next
      | halted => rfl
      | panicked => rfl

/-- The progress of a run that has not made any call. -/
def begun (runner : Runner σ) (repetitions : Nat) (world : σ) : Progress σ where
  report := .start runner.dataset repetitions runner.registry.size
  events := #[.runStarted runner.registry.size repetitions runner.dataset]
  world

/-- How the calls of a run end. -/
def course (runner : Runner σ) (repetitions : Nat) (world : σ) : Course σ :=
  runner.follow (runner.total repetitions) (plan runner.registry.units 0 repetitions)
    (runner.begun repetitions world)

/-- A run is the walk along its plan.  The guard for registries without units makes no difference,
since their plans are empty. -/
theorem run_eq_close (runner : Runner σ) (repetitions : Nat) (world : σ) :
    runner.run repetitions world = runner.close (runner.course repetitions world) := by
  have passes :
      plan runner.registry.units 0 (if runner.registry.isEmpty then 0 else repetitions) =
        plan runner.registry.units 0 repetitions := by
    split
    next empty =>
      rw [List.isEmpty_iff.mp empty]
      simp
    next => rfl
  rw [course, ← passes, ← runPasses_eq_follow]
  rfl

/-- A run ends with a report unless a unit panicked. -/
theorem report_run (runner : Runner σ) (repetitions : Nat) (world : σ) :
    (runner.run repetitions world).report =
      if (runner.course repetitions world).isPanicked then none
      else some (runner.course repetitions world).progress.report := by
  rw [run_eq_close]
  cases runner.course repetitions world <;> rfl

/-- A run changes nothing of its runner but the state. -/
theorem runner_run (runner : Runner σ) (repetitions : Nat) (world : σ) :
    (runner.run repetitions world).runner =
      { runner with
        state :=
          if (runner.course repetitions world).isPanicked then .running else .idle } := by
  rw [run_eq_close]
  cases runner.course repetitions world <;> rfl

theorem world_run (runner : Runner σ) (repetitions : Nat) (world : σ) :
    (runner.run repetitions world).world = (runner.course repetitions world).progress.world := by
  rw [run_eq_close]
  cases runner.course repetitions world <;> rfl

end Runner
end DenseBench
